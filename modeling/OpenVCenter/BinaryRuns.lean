import OpenVCenter.AgentBinaries
import OpenVCenter.AuditFrame
import OpenVCenter.Foundations.Partition

set_option relaxedAutoImplicit false
set_option autoImplicit false

/-!
# Runs of requests on agent binaries

What each request does that is answered or rolled back, any of its steps failing, and the invariant
of the catalogue between requests.

## Main definitions

* `OpenVCenter.RolledBack`, `OpenVCenter.Answered` — how a request ends.
* `OpenVCenter.AgentBuild.label` — what no update changes in a row.
* `OpenVCenter.Depot.Sound` — the invariant.

## Main results

* `OpenVCenter.uploadBuild_spec`, `OpenVCenter.updateBuild_spec`, `OpenVCenter.deleteBuild_spec` —
  one specification for each route.
* `OpenVCenter.relabeled_step` — a step keeps the invariant, and adds or removes at most one label.
-/

namespace OpenVCenter

open Effect

variable {env : Env} {cfg : DepotSettings}

/-! ## Frames -/

section Frames

variable {F : Frame Depot} (hworld : ∀ (d : Depot) (w : World), d.world.nextId ≤ w.nextId →
    F.rel d { d with world := w })
  (hbuilds : ∀ (d : Depot) (builds : List AgentBuild), F.rel d { d with builds := builds })

include hworld

/-- A handler on the rest of the database draws identifiers. -/
lemma keeps_onDepot {α : Type} {m : M α} (hm : ∀ w, w.nextId ≤ (m w).2.nextId) :
    Keeps F (onDepot m) := by
  intro d
  have hle := hm d.world
  unfold onDepot
  rcases hrun : m d.world with ⟨e | a, w⟩
  · rw [hrun] at hle
    exact hworld d w hle
  · rw [hrun] at hle
    exact hworld d w hle

/-- A check of the system keeps the depot. -/
lemma keeps_onDepot_ofExcept {α : Type} (x : Except Raised α) :
    Keeps F (onDepot (Prog.ofExcept x)) := by
  refine keeps_onDepot hworld fun w => ?_
  cases x with
  | error e => exact le_rfl
  | ok a => exact le_rfl

/-- So does an audit event. -/
lemma keeps_onDepot_record (actor : Option User) (action : String) (target : TargetRef)
    (task : Option Task) (details : Json) :
    Keeps F (onDepot (record env actor action target task details)) := by
  refine keeps_onDepot hworld fun w => ?_
  have hstate : (record env actor action target task details w).2.nextId = w.nextId + 1 :=
    congrArg World.nextId (flush_state _)
  omega

omit hworld

/-- Checking the builds keeps what the depot's writes keep. -/
lemma keeps_checkBuilds : Keeps F checkBuilds := by
  refine keeps_read_bind fun d => ?_
  split
  · exact keeps_raise _ d
  · split
    · exact keeps_pure _ d
    · exact keeps_raise _ d

include hbuilds

/-- Writing a build keeps what the depot's writes keep. -/
lemma keeps_writeBuild (b : AgentBuild) : Keeps F (writeBuild b) :=
  keeps_bind (keeps_modify fun d => hbuilds d _) fun _ => keeps_checkBuilds

/-- Flushing builds keeps what the depot's writes keep. -/
lemma keeps_flushBuilds (pending : List AgentBuild) : Keeps F (flushBuilds cfg pending) :=
  keeps_foldlM (fun _ b _ => keeps_writeBuild hbuilds b) _

/-- Making a build the active one keeps what the depot's writes keep. -/
lemma keeps_setActive (binary : AgentBuild) : Keeps F (setActive cfg binary) := by
  refine keeps_bind (keeps_flushBuilds hbuilds _) fun _ => keeps_bind keeps_read fun d => ?_
  exact keeps_bind (keeps_flushBuilds hbuilds _) fun _ => keeps_pure _

end Frames

/-! ## Requests -/

section Requests

variable {d t u : Depot} {user : User} {binary old : AgentBuild}

/-- The identifiers are drawn upwards, and the store is left alone. -/
def apartFrame : Frame Depot where
  rel d t := d.world.nextId ≤ t.world.nextId ∧ t.objects = d.objects
  refl _ := ⟨le_rfl, rfl⟩
  trans h h' := ⟨h.1.trans h'.1, h'.2.trans h.2⟩

/-- A change of the system is apart from the files. -/
lemma apart_world (d : Depot) (w : World) (h : d.world.nextId ≤ w.nextId) :
    apartFrame.rel d { d with world := w } := ⟨h, rfl⟩

/-- A change of the builds is apart from the files. -/
lemma apart_builds (d : Depot) (builds : List AgentBuild) :
    apartFrame.rel d { d with builds := builds } := ⟨le_rfl, rfl⟩

/-- A program of the system that returns, in the depot. -/
lemma onDepot_eq_ok {α : Type} {m : M α} {a : α} : onDepot m d = (.ok a, t) ↔
    ∃ w, m d.world = (.ok a, w) ∧ t = { d with world := w } := by
  unfold onDepot
  rcases m d.world with ⟨e | b, w⟩
  · constructor
    · rintro ⟨⟩
    · rintro ⟨_, ⟨⟩, -⟩
  · constructor
    · rintro ⟨⟩
      exact ⟨w, rfl, rfl⟩
    · rintro ⟨_, ⟨⟩, rfl⟩
      rfl

/-- A check that passes changes nothing. -/
lemma onDepot_ofExcept_eq_ok {α : Type} {x : Except Raised α} {a : α}
    (h : onDepot (Prog.ofExcept x) d = (.ok a, t)) : d = t := by
  obtain ⟨w, hw, rfl⟩ := onDepot_eq_ok.mp h
  obtain ⟨-, rfl⟩ := Prog.ofExcept_eq_ok.mp hw
  rfl

/-- A step that does not fail changes nothing. -/
lemma outcome_eq_ok {fault : Option Failure}
    (h : (Prog.ofExcept (Prog.outcome fault) : Prog Depot Failure Unit) d = (.ok (), t)) : d = t :=
  (Prog.ofExcept_eq_ok.mp h).2.symm

/-- An administrator passes the check, and nothing changes. -/
lemma requireAdmin_eq_ok {isAdmin : Bool} (h : requireAdmin isAdmin d = (.ok (), t)) : d = t := by
  unfold requireAdmin at h
  split at h
  · cases h
    rfl
  · cases h

/-- A request is answered, with a table that meets its constraints, or rolled back. -/
lemma depotRequest_cases {α : Type} (commit : Option Failure) (m : Prog Depot Failure α)
    (d : Depot) :
    (∃ a t, m d = (.ok a, t) ∧ t.world.db.Consistent ∧ TableValid t.builds ∧
      depotRequest commit m d = (.ok a, t)) ∨
    ∃ e, depotRequest commit m d = (.error e, Depot.rollback d (m d).2) := by
  have hcheck : ∀ t, ((do
      onDepot flush
      checkBuilds
      Prog.ofExcept (Prog.outcome commit) : Prog Depot Failure Unit) t).2 = t := by
    intro t
    have hflush := flush_state t.world
    rcases hrun : flush t.world with ⟨e | ⟨⟩, w⟩
    · rw [hrun] at hflush
      obtain rfl : w = t.world := hflush
      have hraise : onDepot flush t = (.error (.raised e), t) := by
        unfold onDepot
        rw [hrun]
      rw [Prog.bind_run_error hraise]
    · rw [hrun] at hflush
      obtain rfl : w = t.world := hflush
      have hreturn : onDepot flush t = (.ok (), t) := onDepot_eq_ok.mpr ⟨_, hrun, rfl⟩
      rw [Prog.bind_run_ok hreturn]
      have hsame := keeps_checkBuilds (F := Frame.same fun d : Depot => d) t
      rcases hbuilds : checkBuilds t with ⟨e | ⟨⟩, v⟩
      · rw [Prog.bind_run_error hbuilds]
        rw [hbuilds] at hsame
        exact hsame
      · rw [Prog.bind_run_ok hbuilds]
        rw [hbuilds] at hsame
        obtain rfl : v = t := hsame
        cases commit <;> rfl
  rcases Prog.transact_cases hcheck m d with ⟨a, t, hm, hok, hrun⟩ | ⟨e, hrun⟩
  · obtain ⟨⟨⟩, t₁, hflush, hrest⟩ := Prog.bind_eq_ok.mp hok
    obtain ⟨w, hw, rfl⟩ := onDepot_eq_ok.mp hflush
    obtain ⟨hc, rfl⟩ := flush_eq_ok.mp hw
    obtain ⟨⟨⟩, t₂, hbuilds, -⟩ := Prog.bind_eq_ok.mp hrest
    obtain ⟨hvalid, -⟩ := checkBuilds_eq_ok.mp hbuilds
    exact Or.inl ⟨a, t, hm, hc, hvalid, hrun⟩
  · exact Or.inr ⟨e, hrun⟩

/-- An activation that goes on with what follows it has activated the build. -/
lemma setActive_eq_ok {α : Type} {k : AgentBuild → Prog Depot Failure α} {a : α}
    (hvalid : TableValid d.builds) (hold : old ∈ d.builds) (hid : binary.id = old.id)
    (hversion : binary.version = old.version) (hhypervisor : binary.hypervisor = old.hypervisor)
    (hactive : binary.isActive = old.isActive)
    (h : (setActive cfg binary >>= fun b => flushBuilds cfg [b] >>= fun _ => k b) d = (.ok a, u)) :
    k binary.promoted { d with builds := activated binary d.builds } = (.ok a, u) := by
  have hfits : binary.bindable = true := by
    obtain ⟨b, t, hset, -⟩ := Prog.bind_eq_ok.mp h
    unfold setActive at hset
    obtain ⟨⟨⟩, t₁, hfirst, -⟩ := Prog.bind_eq_ok.mp hset
    rw [flushBuilds_singleton] at hfirst
    obtain ⟨hstored, -⟩ := writeBuild_eq_ok.mp hfirst
    exact hstored.bindable binary (Table.mem_store.mpr (Or.inr ⟨rfl, old, hold, hid.symm⟩))
  obtain ⟨hrun, -⟩ := setActive_run cfg hvalid hold hid hversion hhypervisor hactive hfits
  have hassoc : (setActive cfg binary >>= fun b => flushBuilds cfg [b] >>= fun _ => k b) =
      (setActive cfg binary >>= fun b => flushBuilds cfg [b] >>= fun _ => pure b) >>= k := by
    rw [bind_assoc]
    refine congrArg _ (funext fun b => ?_)
    rw [bind_assoc]
    rfl
  rw [hassoc, Prog.bind_run_ok hrun] at h
  exact h

/-- An upload that comes to the store has a row, without its key. -/
lemma stageUpload_eq_ok {faults : UploadFaults} {isAdmin : Bool} {form : UploadForm}
    {bytes : List UInt8}
    (h : stageUpload env cfg faults isAdmin user form d = (.ok (binary, bytes), t)) :
    ∃ version received, receive (readChunks uploadChunk form.content) = .ok received ∧
      binary = uploadedBuild cfg user form version (env.uuid d.world.nextId) received ∧
      bytes = received.written ∧
      t = { d with
        world := { d.world with nextId := d.world.nextId + 1 }
        builds := d.builds ++ [{ binary with storageKey := "" }] } ∧ TableValid t.builds ∧
      requireExe cfg form.filename = .ok () := by
  unfold stageUpload at h
  obtain ⟨⟨⟩, d₁, hadmin, h₁⟩ := Prog.bind_eq_ok.mp h
  obtain rfl := requireAdmin_eq_ok hadmin
  obtain ⟨version, d₂, hversion, h₂⟩ := Prog.bind_eq_ok.mp h₁
  obtain rfl := onDepot_ofExcept_eq_ok hversion
  obtain ⟨⟨⟩, d₃, hexe, h₃⟩ := Prog.bind_eq_ok.mp h₂
  obtain ⟨w, hw, -⟩ := onDepot_eq_ok.mp hexe
  have hname := (Prog.ofExcept_eq_ok.mp hw).1
  obtain rfl := onDepot_ofExcept_eq_ok hexe
  obtain ⟨⟨⟩, d₄, hbefore, h₄⟩ := Prog.bind_eq_ok.mp h₃
  obtain rfl := outcome_eq_ok hbefore
  rw [Prog.read_bind_run] at h₄
  obtain ⟨⟨⟩, d₅, hnew, h₅⟩ := Prog.bind_eq_ok.mp h₄
  obtain rfl := onDepot_ofExcept_eq_ok hnew
  obtain ⟨received, d₆, hread, h₆⟩ := Prog.bind_eq_ok.mp h₅
  obtain ⟨w, hw, hd₆⟩ := onDepot_eq_ok.mp hread
  obtain ⟨hreceived, rfl⟩ := Prog.ofExcept_eq_ok.mp hw
  obtain ⟨id, d₇, hid, h₇⟩ := Prog.bind_eq_ok.mp h₆
  obtain ⟨w, hw, rfl⟩ := onDepot_eq_ok.mp hid
  rw [hd₆] at hw h₇
  cases hw
  obtain ⟨⟨⟩, d₈, hinsert, h₈⟩ := Prog.bind_eq_ok.mp h₇
  unfold insertBuild at hinsert
  rw [Prog.modify_bind_run] at hinsert
  obtain ⟨hvalid, rfl⟩ := checkBuilds_eq_ok.mp hinsert
  cases h₈
  exact ⟨version, received, hreceived, rfl, rfl, rfl, hvalid, hname⟩

/-- What follows the call to the store leaves the store alone. -/
lemma keeps_recordUpload (faults : UploadFaults) (user : User) (makeActive : Bool)
    (binary : AgentBuild) :
    Keeps apartFrame (recordUpload env cfg faults user makeActive binary) := by
  have hactive : Keeps apartFrame (setActiveIf cfg makeActive binary) := by
    unfold setActiveIf
    split
    · exact keeps_setActive apart_builds binary
    · exact keeps_pure _
  refine keeps_bind (keeps_ofExcept _) fun _ => keeps_bind hactive fun b => ?_
  refine keeps_bind (keeps_flushBuilds apart_builds _) fun _ => ?_
  exact keeps_bind (keeps_onDepot_record apart_world _ _ _ _ _) fun _ => keeps_pure _

/-- What an upload does to the store, whether it is answered or not. -/
lemma finishUpload_objects (faults : UploadFaults) (put : Answer Failure) (user : User)
    (makeActive : Bool) (binary : AgentBuild) (bytes : List UInt8) (t : Depot) :
    (finishUpload env cfg faults put user makeActive binary bytes t).2.objects =
      (if put.applied then Function.update t.objects binary.storageKey (some bytes) else t.objects) ∧
    t.world.nextId ≤
      (finishUpload env cfg faults put user makeActive binary bytes t).2.world.nextId := by
  unfold finishUpload
  rw [Prog.bind_run]
  rcases put with _ | ⟨e, applied⟩
  · obtain ⟨hnext, hobjects⟩ := @keeps_recordUpload env cfg faults user makeActive binary
      (putObject binary.storageKey bytes t)
    exact ⟨hobjects, hnext⟩
  · cases applied
    · exact ⟨rfl, le_rfl⟩
    · exact ⟨rfl, le_rfl⟩

/-- The row of an upload that is answered. -/
lemma finishUpload_eq_ok {faults : UploadFaults} {put : Answer Failure} {makeActive : Bool}
    {bytes : List UInt8} {b : AgentBuild} (hvalid : TableValid t.builds) (hold : old ∈ t.builds)
    (hid : binary.id = old.id) (hversion : binary.version = old.version)
    (hhypervisor : binary.hypervisor = old.hypervisor) (hactive : binary.isActive = old.isActive)
    (h : finishUpload env cfg faults put user makeActive binary bytes t = (.ok b, u)) :
    put.applied = true ∧ b = (if makeActive then binary.promoted else binary) ∧
      u.builds = if makeActive then activated binary t.builds
        else Table.store (·.id) binary t.builds := by
  unfold finishUpload at h
  obtain ⟨⟨⟩, t₁, hput, h₁⟩ := Prog.bind_eq_ok.mp h
  rcases put with _ | ⟨e, applied⟩
  · cases hput
    unfold recordUpload at h₁
    obtain ⟨⟨⟩, t₂, hafter, h₂⟩ := Prog.bind_eq_ok.mp h₁
    obtain rfl := outcome_eq_ok hafter
    refine ⟨rfl, ?_⟩
    cases makeActive with
    | true =>
      have h₃ := setActive_eq_ok (d := putObject binary.storageKey bytes t) hvalid hold hid
        hversion hhypervisor hactive h₂
      obtain ⟨⟨⟩, t₃, hrecord, hlast⟩ := Prog.bind_eq_ok.mp h₃
      obtain ⟨w, -, rfl⟩ := onDepot_eq_ok.mp hrecord
      cases hlast
      exact ⟨rfl, rfl⟩
    | false =>
      obtain ⟨b', t₃, hsame, h₃⟩ := Prog.bind_eq_ok.mp h₂
      cases hsame
      obtain ⟨⟨⟩, t₄, hflush, h₄⟩ := Prog.bind_eq_ok.mp h₃
      rw [flushBuilds_singleton] at hflush
      obtain ⟨-, rfl⟩ := writeBuild_eq_ok.mp hflush
      obtain ⟨⟨⟩, t₅, hrecord, hlast⟩ := Prog.bind_eq_ok.mp h₄
      obtain ⟨w, -, rfl⟩ := onDepot_eq_ok.mp hrecord
      cases hlast
      exact ⟨rfl, rfl⟩
  · cases hput

/-- The part of the depot that a rollback brings back is as it was. -/
structure RolledBack (d t : Depot) : Prop where
  db : t.world.db = d.world.db
  builds : t.builds = d.builds

/-- What a request leaves that is answered. -/
structure Answered (t : Depot) : Prop where
  consistent : t.world.db.Consistent
  valid : TableValid t.builds

/-- A request is answered or rolled back, and the store is as its body left it. -/
lemma depotRequest_spec {α : Type} (commit : Option Failure) (m : Prog Depot Failure α) (d : Depot) :
    (depotRequest commit m d).2.objects = (m d).2.objects ∧
    (depotRequest commit m d).2.world.nextId = (m d).2.world.nextId ∧
    ((∃ a, depotRequest commit m d = (.ok a, (depotRequest commit m d).2) ∧
        m d = (.ok a, (depotRequest commit m d).2) ∧ Answered (depotRequest commit m d).2) ∨
      (∃ e, (depotRequest commit m d).1 = .error e) ∧
        RolledBack d (depotRequest commit m d).2) := by
  rcases depotRequest_cases commit m d with ⟨a, t, hm, hc, hvalid, hrun⟩ | ⟨e, hrun⟩
  · rw [hrun, hm]
    exact ⟨rfl, rfl, Or.inl ⟨a, rfl, rfl, hc, hvalid⟩⟩
  · rw [hrun]
    exact ⟨rfl, rfl, Or.inr ⟨⟨e, rfl⟩, rfl, rfl⟩⟩

/-- The check of the role writes no file. -/
lemma keeps_requireAdmin (isAdmin : Bool) : Keeps apartFrame (requireAdmin isAdmin) := by
  unfold requireAdmin
  split
  · exact keeps_pure _
  · exact keeps_raise _

/-- The upload of a build writes its file last. -/
lemma keeps_stageUpload (faults : UploadFaults) (isAdmin : Bool) (form : UploadForm) :
    Keeps apartFrame (stageUpload env cfg faults isAdmin user form) := by
  have hpure : ∀ {α : Type} (x : Except Raised α), Keeps apartFrame (onDepot (Prog.ofExcept x)) :=
    keeps_onDepot_ofExcept apart_world
  refine keeps_bind (keeps_requireAdmin isAdmin) fun _ => keeps_bind (hpure _) fun version => ?_
  refine keeps_bind (hpure _) fun _ => keeps_bind (keeps_ofExcept _) fun _ => ?_
  refine keeps_bind keeps_read fun w => keeps_bind (hpure _) fun _ => ?_
  refine keeps_bind (hpure _) fun received => keeps_bind ?_ fun id => ?_
  · exact keeps_onDepot apart_world fun w => Nat.le_succ _
  · have hinsert : ∀ b, Keeps apartFrame (insertBuild b) := fun b =>
      keeps_bind (keeps_modify fun d => apart_builds d _) fun _ => keeps_checkBuilds
    exact keeps_bind (hinsert _) fun _ => keeps_pure _

/-- **What an upload does**: it is refused, or comes to the store with a new row.

**Proof sketch.** The first half is refused, and all is rolled back, or it adds a row without a key.
Then the store is called: if it raises, the row is rolled back and the bytes stay where they were
put; if it answers, the row gets its key, is activated if asked for, and the commit decides. -/
lemma uploadBuild_spec (faults : UploadFaults) (put : Answer Failure) (isAdmin : Bool)
    (user : User) (form : UploadForm) (d : Depot) :
    let r := uploadBuild env cfg faults put isAdmin user form d
    ((∃ e t, stageUpload env cfg faults isAdmin user form d = (.error e, t)) ∧
        d.world.nextId ≤ r.2.world.nextId ∧
        (∃ e, r.1 = .error e) ∧ RolledBack d r.2 ∧ r.2.objects = d.objects) ∨
      ∃ binary bytes t, stageUpload env cfg faults isAdmin user form d = (.ok (binary, bytes), t) ∧
        d.world.nextId < r.2.world.nextId ∧
        r.2.objects =
          (if put.applied then Function.update d.objects binary.storageKey (some bytes)
            else d.objects) ∧
        ((∃ e, r.1 = .error e) ∧ RolledBack d r.2 ∨
          r.1 = .ok (if form.makeActive then binary.promoted else binary) ∧
            put.applied = true ∧ Answered r.2 ∧ r.2.builds =
              if form.makeActive then activated binary (d.builds ++ [binary])
              else d.builds ++ [binary]) := by
  intro r
  obtain ⟨hobjects, hnext, hcases⟩ := depotRequest_spec faults.commit
    (stageUpload env cfg faults isAdmin user form >>= fun staged =>
      finishUpload env cfg faults put user form.makeActive staged.1 staged.2) d
  rcases hstage : stageUpload env cfg faults isAdmin user form d with ⟨e | ⟨binary, bytes⟩, t⟩
  · have hframe := @keeps_stageUpload env cfg user faults isAdmin form d
    rw [hstage] at hframe
    rw [Prog.bind_run_error hstage] at hobjects hnext hcases
    rcases hcases with ⟨a, -, hbody, -⟩ | ⟨hraise, hback⟩
    · cases hbody
    · exact Or.inl ⟨⟨e, t, rfl⟩, hframe.1.trans hnext.ge, hraise, hback, hobjects.trans hframe.2⟩
  · rw [Prog.bind_run_ok hstage] at hobjects hnext hcases
    dsimp only at hobjects hnext hcases
    obtain ⟨version, received, -, hbinary, -, ht, hvalid, -⟩ := stageUpload_eq_ok hstage
    obtain ⟨hput, hdrawn⟩ :=
      @finishUpload_objects env cfg faults put user form.makeActive binary bytes t
    have hworld : t.world.nextId = d.world.nextId + 1 := by rw [ht]
    have hstore : t.objects = d.objects := by rw [ht]
    rw [hstore] at hput
    have hless : d.world.nextId < r.2.world.nextId := lt_of_lt_of_eq (by omega) hnext.symm
    refine Or.inr ⟨binary, bytes, t, rfl, hless, hobjects.trans hput, ?_⟩
    rcases hcases with ⟨b, hanswer, hbody, hans⟩ | ⟨hraise, hback⟩
    · right
      have hold : ({ binary with storageKey := "" } : AgentBuild) ∈ t.builds := by
        rw [ht]
        simp
      have hid : binary.id = ({ binary with storageKey := "" } : AgentBuild).id := rfl
      obtain ⟨happlied, hb, hbuilds⟩ := finishUpload_eq_ok hvalid hold hid rfl rfl rfl hbody
      refine ⟨?_, happlied, hans, ?_⟩
      · rw [← hb]
        exact congrArg Prod.fst hanswer
      · show (depotRequest _ _ d).2.builds = _
        rw [hbuilds]
        have hrows : t.builds = d.builds ++ [{ binary with storageKey := "" }] := by rw [ht]
        have hkeys := hvalid.ids
        rw [hrows] at hkeys ⊢
        split
        · unfold activated
          simp
        · exact Table.store_append_singleton rfl (Table.nodup_keys_append.mp hkeys).2
    · exact Or.inl ⟨hraise, hback⟩

/-- The table once an update is written. -/
def updatedBuilds (body : BuildPatch) (before : AgentBuild) (builds : List AgentBuild) :
    List AgentBuild :=
  match body.isActive with
  | some (some true) => activated (body.noted before) builds
  | some (some false) => Table.store (·.id) (body.noted before).demoted builds
  | _ => Table.store (·.id) (body.noted before) builds

/-- A build that is found is in the table. -/
lemma getBuild_eq_ok {binaryId : String} (h : getBuild binaryId d = (.ok binary, t)) :
    d.build binaryId = some binary ∧ d = t := by
  unfold getBuild at h
  rw [Prog.read_bind_run] at h
  obtain ⟨w, hw, rfl⟩ := onDepot_eq_ok.mp h
  rcases hfound : d.build binaryId with _ | found
  · rw [hfound] at hw
    cases hw
  · rw [hfound] at hw
    cases hw
    exact ⟨rfl, rfl⟩

/-- Finding a build writes no file. -/
lemma keeps_getBuild (binaryId : String) : Keeps apartFrame (getBuild binaryId) := by
  refine keeps_read_bind fun d => keeps_onDepot apart_world (fun w => ?_) d
  cases d.build binaryId with
  | none => exact le_rfl
  | some b => exact le_rfl

/-- A note leaves a build's file description alone. -/
lemma noted_same (body : BuildPatch) (before : AgentBuild) :
    (body.noted before).toAgentBinary = before.toAgentBinary := by
  unfold BuildPatch.noted
  split
  · rfl
  · rfl

/-- The update of a build writes no file. -/
lemma keeps_updateBody (statement : Option Failure) (isAdmin : Bool) (user : User)
    (binaryId : String) (body : BuildPatch) :
    Keeps apartFrame (updateBody env cfg statement isAdmin user binaryId body) := by
  refine keeps_bind (keeps_requireAdmin isAdmin) fun _ => keeps_bind (keeps_ofExcept _) fun _ => ?_
  refine keeps_bind (keeps_getBuild binaryId) fun before => keeps_bind ?_ fun b => ?_
  · unfold applyIsActive
    split
    · exact keeps_setActive apart_builds _
    · exact keeps_pure _
    · exact keeps_pure _
  refine keeps_bind (keeps_flushBuilds apart_builds _) fun _ => keeps_bind ?_ fun _ => keeps_pure _
  unfold recordUpdate
  split
  · exact keeps_onDepot_record apart_world _ _ _ _ _
  · exact keeps_pure _

/-- The end of an update writes no row of the table. -/
lemma recorded_eq_ok {before b : AgentBuild}
    (h : (recordUpdate env user before binary >>= fun _ => pure binary) d = (.ok b, t)) :
    binary = b ∧ t.builds = d.builds := by
  obtain ⟨⟨⟩, u, haudit, hlast⟩ := Prog.bind_eq_ok.mp h
  cases hlast
  refine ⟨rfl, ?_⟩
  unfold recordUpdate at haudit
  generalize changes auditedJson before.audited binary.audited = diff at haudit
  cases diff with
  | none =>
    cases haudit
    rfl
  | some diff =>
    obtain ⟨w, -, rfl⟩ := onDepot_eq_ok.mp haudit
    rfl

/-- An update that is not one of an activation writes one row. -/
lemma written_eq_ok {before b : AgentBuild} (h : (flushBuilds cfg [binary] >>= fun _ =>
    recordUpdate env user before binary >>= fun _ => pure binary) d = (.ok b, t)) :
    binary = b ∧ t.builds = Table.store (·.id) binary d.builds := by
  obtain ⟨⟨⟩, u, hflush, hrest⟩ := Prog.bind_eq_ok.mp h
  rw [flushBuilds_singleton] at hflush
  obtain ⟨-, rfl⟩ := writeBuild_eq_ok.mp hflush
  exact recorded_eq_ok hrest

/-- What an update may change of a build. -/
lemma updateBody_eq_ok {statement : Option Failure} {isAdmin : Bool} {binaryId : String}
    {body : BuildPatch} {b : AgentBuild} (hvalid : TableValid d.builds)
    (h : updateBody env cfg statement isAdmin user binaryId body d = (.ok b, t)) :
    ∃ before, d.build binaryId = some before ∧ b.id = before.id ∧
      b.hypervisor = before.hypervisor ∧ t.builds = updatedBuilds body before d.builds := by
  unfold updateBody at h
  obtain ⟨⟨⟩, d₁, hadmin, h₁⟩ := Prog.bind_eq_ok.mp h
  obtain rfl := requireAdmin_eq_ok hadmin
  obtain ⟨⟨⟩, d₂, hstatement, h₂⟩ := Prog.bind_eq_ok.mp h₁
  obtain rfl := outcome_eq_ok hstatement
  obtain ⟨before, d₃, hget, h₃⟩ := Prog.bind_eq_ok.mp h₂
  obtain ⟨hfound, rfl⟩ := getBuild_eq_ok hget
  have hold : before ∈ d.builds := ((Table.lookup_eq_some hvalid.ids).mp hfound).1
  have hsame := noted_same body before
  have hid : (body.noted before).id = before.id := congrArg AgentBinary.id hsame
  have hhyp : (body.noted before).hypervisor = before.hypervisor :=
    congrArg AgentBinary.hypervisor hsame
  refine ⟨before, hfound, ?_⟩
  unfold updatedBuilds
  unfold applyIsActive at h₃
  rcases hactive : body.isActive with _ | _ | _ | _
  · rw [hactive] at h₃
    obtain ⟨rfl, hbuilds⟩ := written_eq_ok h₃
    exact ⟨hid, hhyp, hbuilds⟩
  · rw [hactive] at h₃
    obtain ⟨rfl, hbuilds⟩ := written_eq_ok h₃
    exact ⟨hid, hhyp, hbuilds⟩
  · rw [hactive] at h₃
    obtain ⟨rfl, hbuilds⟩ := written_eq_ok h₃
    exact ⟨hid, hhyp, hbuilds⟩
  · rw [hactive] at h₃
    obtain ⟨rfl, hbuilds⟩ := recorded_eq_ok (setActive_eq_ok hvalid hold hid
      (congrArg AgentBinary.version hsame) hhyp (congrArg AgentBinary.isActive hsame) h₃)
    exact ⟨hid, hhyp, hbuilds⟩

/-- **What an update does**: it writes the row, and demotes the others if it activates it. -/
lemma updateBuild_spec (faults : Faults) (isAdmin : Bool) (user : User) (binaryId : String)
    (body : BuildPatch) (hvalid : TableValid d.builds) :
    let r := updateBuild env cfg faults isAdmin user binaryId body d
    d.world.nextId ≤ r.2.world.nextId ∧ r.2.objects = d.objects ∧
    ((∃ e, r.1 = .error e) ∧ RolledBack d r.2 ∨
      ∃ before b, d.build binaryId = some before ∧ r.1 = .ok b ∧ b.id = before.id ∧
        b.hypervisor = before.hypervisor ∧ Answered r.2 ∧
        r.2.builds = updatedBuilds body before d.builds) := by
  intro r
  obtain ⟨hobjects, hnext, hcases⟩ := depotRequest_spec faults.commit
    (updateBody env cfg faults.statement isAdmin user binaryId body) d
  obtain ⟨hdrawn, hsame⟩ :=
    @keeps_updateBody env cfg faults.statement isAdmin user binaryId body d
  refine ⟨hdrawn.trans hnext.ge, hobjects.trans hsame, ?_⟩
  rcases hcases with ⟨b, hanswer, hbody, hans⟩ | hback
  · obtain ⟨before, hfound, hid, hhyp, hbuilds⟩ := updateBody_eq_ok hvalid hbody
    exact Or.inr ⟨before, b, hfound, congrArg Prod.fst hanswer, hid, hhyp, hans, hbuilds⟩
  · exact Or.inl hback

/-- A build that is deleted was there, and not active. -/
lemma stageDelete_eq_ok {faults : Faults} {isAdmin : Bool} {binaryId : String}
    (h : stageDelete env faults isAdmin user binaryId d = (.ok binary, t)) :
    d.build binaryId = some binary ∧ binary.isActive = false ∧ t.builds = d.builds := by
  unfold stageDelete at h
  obtain ⟨⟨⟩, d₁, hadmin, h₁⟩ := Prog.bind_eq_ok.mp h
  obtain rfl := requireAdmin_eq_ok hadmin
  obtain ⟨⟨⟩, d₂, hstatement, h₂⟩ := Prog.bind_eq_ok.mp h₁
  obtain rfl := outcome_eq_ok hstatement
  obtain ⟨found, d₃, hget, h₃⟩ := Prog.bind_eq_ok.mp h₂
  obtain ⟨hfound, rfl⟩ := getBuild_eq_ok hget
  split_ifs at h₃ with hactive
  · cases h₃
  · obtain ⟨⟨⟩, d₄, hrecord, hlast⟩ := Prog.bind_eq_ok.mp h₃
    obtain ⟨w, -, rfl⟩ := onDepot_eq_ok.mp hrecord
    cases hlast
    exact ⟨hfound, by simpa using hactive, rfl⟩

/-- The first half of a deletion writes no file. -/
lemma keeps_stageDelete (faults : Faults) (isAdmin : Bool) (user : User) (binaryId : String) :
    Keeps apartFrame (stageDelete env faults isAdmin user binaryId) := by
  refine keeps_bind (keeps_requireAdmin isAdmin) fun _ => keeps_bind (keeps_ofExcept _) fun _ => ?_
  refine keeps_bind (keeps_getBuild binaryId) fun b => ?_
  split
  · exact keeps_raise _
  · exact keeps_bind (keeps_onDepot_record apart_world _ _ _ _ _) fun _ => keeps_pure _

/-- **What a deletion does**: it is refused, or comes to the store for a build that is not active.

**Proof sketch.** The first half is refused, and all is rolled back, or it finds a build that is not
active. Then the object goes if the store says so, whatever the store raises, and the commit decides
about the row. -/
lemma deleteBuild_spec (faults : Faults) (answer : Answer Failure) (isAdmin : Bool) (user : User)
    (binaryId : String) (d : Depot) :
    let r := deleteBuild env faults answer isAdmin user binaryId d
    d.world.nextId ≤ r.2.world.nextId ∧
    ((∃ e t, stageDelete env faults isAdmin user binaryId d = (.error e, t)) ∧
        (∃ e, r.1 = .error e) ∧ RolledBack d r.2 ∧ r.2.objects = d.objects ∨
      ∃ binary t, stageDelete env faults isAdmin user binaryId d = (.ok binary, t) ∧
        r.2.objects =
          (if answer.applied then Function.update d.objects binary.storageKey none
            else d.objects) ∧
        ((∃ e, r.1 = .error e) ∧ RolledBack d r.2 ∨
          r.1 = .ok () ∧ Answered r.2 ∧ r.2.builds =
            Table.deleteWhere (fun b => decide (b.id = binary.id)) d.builds)) := by
  intro r
  obtain ⟨hobjects, hnext, hcases⟩ := depotRequest_spec faults.commit (do
    let binary ← stageDelete env faults isAdmin user binaryId
    Prog.catching Failure.isAgentStoreError (Prog.call answer (dropObject binary.storageKey))
    Prog.modify fun d =>
      { d with builds := Table.deleteWhere (fun b => decide (b.id = binary.id)) d.builds }) d
  obtain ⟨hdrawn, hsame⟩ := @keeps_stageDelete env faults isAdmin user binaryId d
  rcases hstage : stageDelete env faults isAdmin user binaryId d with ⟨e | binary, t⟩
  · rw [hstage] at hdrawn hsame
    rw [Prog.bind_run_error hstage] at hobjects hnext hcases
    refine ⟨hdrawn.trans hnext.ge, Or.inl ⟨⟨e, t, rfl⟩, ?_⟩⟩
    rcases hcases with ⟨a, -, hbody, -⟩ | ⟨hraise, hback⟩
    · cases hbody
    · exact ⟨hraise, hback, hobjects.trans hsame⟩
  · rw [hstage] at hdrawn hsame
    have hsame : t.objects = d.objects := hsame
    obtain ⟨-, -, hbuilds⟩ := stageDelete_eq_ok hstage
    set gone : Depot := if answer.applied then dropObject binary.storageKey t else t with hgone
    have hcall : Prog.catching Failure.isAgentStoreError
        (Prog.call answer (dropObject binary.storageKey)) t =
        (Prog.outcome (answer.raised.filter fun e => !e.isAgentStoreError), gone) :=
      Prog.catching_run rfl
    have hstore : gone.objects =
        if answer.applied then Function.update d.objects binary.storageKey none else d.objects := by
      rw [hgone, ← hsame]
      split <;> rfl
    have hrest : gone.world = t.world ∧ gone.builds = d.builds := by
      rw [hgone]
      split
      · exact ⟨rfl, hbuilds⟩
      · exact ⟨rfl, hbuilds⟩
    rw [Prog.bind_run_ok hstage] at hobjects hnext hcases
    rcases hraised : answer.raised.filter fun e => !e.isAgentStoreError with _ | e
    · rw [hraised] at hcall
      rw [Prog.bind_run_ok hcall] at hobjects hnext hcases
      have hnext : r.2.world.nextId = gone.world.nextId := hnext
      refine ⟨?_, Or.inr ⟨binary, t, rfl, hobjects.trans hstore, ?_⟩⟩
      · rw [hnext, hrest.1]
        exact hdrawn
      rcases hcases with ⟨⟨⟩, hanswer, hbody, hans⟩ | hback
      · refine Or.inr ⟨congrArg Prod.fst hanswer, hans, ?_⟩
        rw [← hrest.2]
        exact congrArg (fun p => p.2.builds) hbody.symm
      · exact Or.inl hback
    · rw [hraised] at hcall
      rw [Prog.bind_run_error hcall] at hobjects hnext hcases
      have hnext : r.2.world.nextId = gone.world.nextId := hnext
      refine ⟨?_, Or.inr ⟨binary, t, rfl, hobjects.trans hstore, ?_⟩⟩
      · rw [hnext, hrest.1]
        exact hdrawn
      rcases hcases with ⟨⟨⟩, hanswer, hbody, hans⟩ | hback
      · cases hbody
      · exact Or.inl hback

end Requests

/-! ## The invariant -/

/-- What no update changes in a row. -/
def AgentBuild.label (b : AgentBuild) : AgentBuild := { b with notes := none, isActive := false }

/-- The rows of the catalogue in a state between requests. -/
structure Depot.Sound (env : Env) (d : Depot) : Prop where
  consistent : d.world.db.Consistent
  valid : TableValid d.builds
  drawn : ∀ b ∈ d.builds, Drawn env d.world b.id
  keyed : ∀ b ∈ d.builds, b.storageKey = objectKey b.id b.filename

section Invariant

variable {d t : Depot} {builds : List AgentBuild} {b binary before : AgentBuild}

/-- Builds with one label agree in what the label says. -/
lemma label_eq {x y : AgentBuild} (h : x.label = y.label) : x.id = y.id ∧
    x.storageKey = y.storageKey ∧ x.filename = y.filename ∧ x.sizeBytes = y.sizeBytes ∧
    x.checksumSha256 = y.checksumSha256 := by
  simp only [AgentBuild.label, AgentBuild.mk.injEq, AgentBinary.mk.injEq] at h
  obtain ⟨⟨hid, -, -, hkey, -⟩, hfile, hsize, hsum, -⟩ := h
  exact ⟨hid, hkey, hfile, hsize, hsum⟩

/-- A note keeps the label. -/
lemma label_noted (body : BuildPatch) (before : AgentBuild) :
    (body.noted before).label = before.label := by
  unfold BuildPatch.noted
  split
  · rfl
  · rfl

/-- An activation changes nothing but who is active. -/
lemma labels_activated (h : ∀ x ∈ builds, x.id = binary.id → x.label = binary.label) :
    (activated binary builds).map AgentBuild.label = builds.map AgentBuild.label := by
  unfold activated
  rw [List.map_map]
  refine List.map_congr_left fun x hx => ?_
  simp only [Function.comp_apply]
  split_ifs with hid hhyp
  · exact (h x hx hid).symm
  · rfl
  · rfl

/-- An update changes nothing but notes and who is active. -/
lemma labels_updatedBuilds (hn : (builds.map (·.id)).Nodup) (hb : before ∈ builds)
    (body : BuildPatch) :
    (updatedBuilds body before builds).map AgentBuild.label = builds.map AgentBuild.label := by
  have hid : (body.noted before).id = before.id := congrArg AgentBinary.id (noted_same body before)
  have hlabel : ∀ x ∈ builds, x.id = (body.noted before).id →
      x.label = (body.noted before).label := by
    intro x hx hkey
    rw [label_noted, Table.eq_of_mem_of_key hn hx hb (hkey.trans hid)]
  unfold updatedBuilds
  rcases body.isActive with _ | _ | _ | _
  · exact Table.map_store fun x hx hkey => (hlabel x hx hkey).symm
  · exact Table.map_store fun x hx hkey => (hlabel x hx hkey).symm
  · exact Table.map_store fun x hx hkey => (hlabel x hx hkey).symm
  · exact labels_activated hlabel

/-- The labels of the rows after a request: as they were, with one more, or with one less. -/
inductive Relabeled (env : Env) (d t : Depot) : Prop
  | same (h : t.builds.map AgentBuild.label = d.builds.map AgentBuild.label)
  | added (b : AgentBuild) (hid : b.id = env.uuid d.world.nextId)
      (hless : d.world.nextId < t.world.nextId) (hkey : b.storageKey = objectKey b.id b.filename)
      (h : t.builds.map AgentBuild.label = d.builds.map AgentBuild.label ++ [b.label])
  | removed (b : AgentBuild) (hb : b ∈ d.builds)
      (h : t.builds = Table.deleteWhere (fun x => decide (x.id = b.id)) d.builds)

/-- The invariant follows from what a request does to the labels. -/
lemma sound_of_relabeled (hd : d.Sound env) (hc : t.world.db.Consistent)
    (hvalid : TableValid t.builds) (hle : d.world.nextId ≤ t.world.nextId)
    (h : Relabeled env d t) : t.Sound env := by
  have hrows : ∀ x ∈ t.builds, Drawn env t.world x.id ∧ x.storageKey = objectKey x.id x.filename := by
    intro x hx
    have hold : ∀ y ∈ d.builds, x.label = y.label → Drawn env t.world x.id ∧
        x.storageKey = objectKey x.id x.filename := by
      intro y hy hlabel
      obtain ⟨hid, hkey, hfile, -⟩ := label_eq hlabel
      rw [hid, hkey, hfile]
      exact ⟨(hd.drawn y hy).mono hle, hd.keyed y hy⟩
    cases h with
    | same h =>
      have hin := List.mem_map_of_mem (f := AgentBuild.label) hx
      rw [h] at hin
      obtain ⟨y, hy, hlabel⟩ := List.mem_map.mp hin
      exact hold y hy hlabel.symm
    | added b hid hless hkey h =>
      have hin := List.mem_map_of_mem (f := AgentBuild.label) hx
      rw [h, List.mem_append, List.mem_singleton] at hin
      rcases hin with hin | hlabel
      · obtain ⟨y, hy, hlabel⟩ := List.mem_map.mp hin
        exact hold y hy hlabel.symm
      · obtain ⟨hxid, hxkey, hfile, -⟩ := label_eq hlabel
        rw [hxid, hxkey, hfile]
        exact ⟨⟨d.world.nextId, hless, hid⟩, hkey⟩
    | removed b hb h =>
      rw [h] at hx
      exact hold x (Table.mem_deleteWhere.mp hx).1 rfl
  exact ⟨hc, hvalid, fun x hx => (hrows x hx).1, fun x hx => (hrows x hx).2⟩

/-- An upload adds its label. -/
lemma labels_uploaded (hd : d.Sound env) (hid : binary.id = env.uuid d.world.nextId)
    (makeActive : Bool) :
    (if makeActive then activated binary (d.builds ++ [binary]) else d.builds ++ [binary]).map
      AgentBuild.label = d.builds.map AgentBuild.label ++ [binary.label] := by
  have hlabels : (d.builds ++ [binary]).map AgentBuild.label =
      d.builds.map AgentBuild.label ++ [binary.label] := by simp
  split
  · rw [labels_activated, hlabels]
    intro x hx hkey
    rcases List.mem_append.mp hx with hx | hx
    · exact absurd (hid ▸ hkey ▸ hd.drawn x hx) (not_drawn_next env d.world)
    · rw [List.mem_singleton.mp hx]
  · exact hlabels

/-- What a request does to the labels, and that it keeps the invariant.

**Proof sketch.** By the request, with its specification: rolled back it changes no label;
committed, an upload adds one, an update keeps all, a deletion removes one. The rest of the system
writes no build. -/
lemma relabeled_step (hd : d.Sound env) (r : DepotRequest) :
    d.world.nextId ≤ (Depot.step env cfg d r).world.nextId ∧
    (Depot.step env cfg d r).Sound env ∧ Relabeled env d (Depot.step env cfg d r) := by
  have hback : ∀ {t : Depot}, d.world.nextId ≤ t.world.nextId → RolledBack d t →
      d.world.nextId ≤ t.world.nextId ∧ t.Sound env ∧ Relabeled env d t := by
    intro t hle hrolled
    have hsame : Relabeled env d t := .same (by rw [hrolled.builds])
    exact ⟨hle, sound_of_relabeled hd (hrolled.db ▸ hd.consistent) (hrolled.builds ▸ hd.valid) hle
      hsame, hsame⟩
  cases r with
  | upload faults put isAdmin user form =>
    rcases @uploadBuild_spec env cfg faults put isAdmin user form d with
      ⟨-, hle, -, hrolled, -⟩ | ⟨binary, bytes, u, hstage, hless, -, ⟨-, hrolled⟩ | ⟨-, -, hans, hbuilds⟩⟩
    · exact hback hle hrolled
    · exact hback hless.le hrolled
    · obtain ⟨version, received, -, hbinary, -, -, -⟩ := stageUpload_eq_ok hstage
      have hid : binary.id = env.uuid d.world.nextId := by rw [hbinary]; rfl
      have hadded : Relabeled env d (Depot.step env cfg d (.upload faults put isAdmin user form)) := by
        refine .added binary hid hless (by rw [hbinary]; rfl) ?_
        show (uploadBuild env cfg faults put isAdmin user form d).2.builds.map _ = _
        rw [hbuilds]
        exact labels_uploaded hd hid form.makeActive
      exact ⟨hless.le, sound_of_relabeled hd hans.consistent hans.valid hless.le hadded, hadded⟩
  | update faults isAdmin user binaryId body =>
    obtain ⟨hle, -, ⟨-, hrolled⟩ | ⟨before, b, hfound, -, -, -, hans, hbuilds⟩⟩ :=
      @updateBuild_spec env cfg d faults isAdmin user binaryId body hd.valid
    · exact hback hle hrolled
    · obtain ⟨hin, -⟩ := (Table.lookup_eq_some hd.valid.ids).mp hfound
      have hsame : Relabeled env d
          (Depot.step env cfg d (.update faults isAdmin user binaryId body)) := by
        refine .same ?_
        show (updateBuild env cfg faults isAdmin user binaryId body d).2.builds.map _ = _
        rw [hbuilds]
        exact labels_updatedBuilds hd.valid.ids hin body
      exact ⟨hle, sound_of_relabeled hd hans.consistent hans.valid hle hsame, hsame⟩
  | delete faults answer isAdmin user binaryId =>
    obtain ⟨hle, ⟨-, -, hrolled, -⟩ | ⟨binary, u, hstage, -, ⟨-, hrolled⟩ | ⟨-, hans, hbuilds⟩⟩⟩ :=
      @deleteBuild_spec env faults answer isAdmin user binaryId d
    · exact hback hle hrolled
    · exact hback hle hrolled
    · obtain ⟨hfound, -, -⟩ := stageDelete_eq_ok hstage
      obtain ⟨hin, -⟩ := (Table.lookup_eq_some hd.valid.ids).mp hfound
      have hremoved : Relabeled env d
          (Depot.step env cfg d (.delete faults answer isAdmin user binaryId)) :=
        .removed binary hin hbuilds
      exact ⟨hle, sound_of_relabeled hd hans.consistent hans.valid hle hremoved, hremoved⟩
  | system e =>
    have hle : d.world.nextId ≤ (d.world.step env e).nextId :=
      nextId_le_step env ⟨d.world, hd.consistent⟩ e
    have hc : (d.world.step env e).db.Consistent :=
      (System.step env ⟨d.world, hd.consistent⟩ e).consistent
    have hsame : Relabeled env d (Depot.step env cfg d (.system e)) := .same rfl
    exact ⟨hle, sound_of_relabeled hd hc hd.valid hle hsame, hsame⟩

/-- Every run keeps a depot sound. -/
lemma sound_run (hd : d.Sound env) (rs : List DepotRequest) : (Depot.run env cfg d rs).Sound env :=
  Machine.run_invariant (I := fun d : Depot => d.Sound env)
    (fun _ r h => (relabeled_step h r).2.1) hd

/-- An initial depot is sound. -/
lemma sound_initial (h : d.Initial) (hc : d.world.db.Consistent) : d.Sound env := by
  have hnone : ∀ b, b ∉ d.builds := fun b hb => by
    rw [h.builds] at hb
    cases hb
  refine ⟨hc, ⟨⟨?_, ?_, ?_⟩, ?_⟩, ?_, ?_⟩
  · rw [h.builds]
    exact List.nodup_nil
  · exact fun x hx => absurd hx (hnone x)
  · exact fun x hx => absurd (List.mem_of_mem_filter hx) (hnone x)
  · exact fun x hx => absurd hx (hnone x)
  · exact fun x hx => absurd hx (hnone x)
  · exact fun x hx => absurd hx (hnone x)

end Invariant

end OpenVCenter
