import OpenVCenter.BinaryRuns
import OpenVCenter.Foundations.Trace

set_option relaxedAutoImplicit false
set_option autoImplicit false

/-!
# The catalogue of agent binaries and its store

The bytes of an upload are written to the store before its transaction is committed, and those of a
deleted build are taken away before its deletion is. Over a run of requests, any of which may fail at
any step, a build keeps the bytes that were uploaded with it, or has lost them to a deletion that was
rolled back; no other bytes are ever served under its id.

## Main definitions

* `OpenVCenter.Depot.shelf`, `OpenVCenter.Depot.event` — the depot and a request in the terms of
  `Blobs`.
* `OpenVCenter.TakenBack` — a deletion that has reached the store is rolled back.

## Main results

* `OpenVCenter.shelf_step` — the depot refines a catalogue with blobs beside it.
* `OpenVCenter.bytes_lost_iff` — **a build has lost its bytes exactly when a deletion of it that
  reached the store was rolled back**.
* `OpenVCenter.download_faithful` — **a download streams what the build's checksum was taken of**.
* `OpenVCenter.stored_beneath` — **every build has a file of its own below the root of the store**.

## Design

The identifiers are UUIDs: no `/` occurs in them.
-/

namespace OpenVCenter

open Effect

variable {env : Env} {cfg : DepotSettings}

/-! ## Keys -/

/-- No identifier has a `/`. -/
def PlainIds (env : Env) : Prop := ∀ n, '/' ∉ (env.uuid n).toList

/-- The keys of two builds are apart. -/
lemma objectKey_inj {m n : ℕ} {f g : String} (hids : PlainIds env)
    (h : objectKey (env.uuid m) f = objectKey (env.uuid n) g) : m = n ∧ f = g := by
  have hlists : (env.uuid m).toList ++ '/' :: f.toList = (env.uuid n).toList ++ '/' :: g.toList := by
    have htext := congrArg String.toList h
    simpa [objectKey] using htext
  have hfirst := congrArg (Partition.first '/') hlists
  rw [Partition.first_append (hids m), Partition.first_append (hids n)] at hfirst
  simp only [Prod.mk.injEq, true_and] at hfirst
  exact ⟨env.uuid_injective (String.toList_inj.mp hfirst.1), String.toList_inj.mp hfirst.2⟩

section Refinement

variable {d t : Depot} {b b' binary : AgentBuild}

/-- Builds of one key are one build. -/
lemma eq_of_storageKey (hids : PlainIds env) (hd : d.Sound env) (hb : b ∈ d.builds)
    (hb' : b' ∈ d.builds) (h : b.storageKey = b'.storageKey) : b = b' := by
  obtain ⟨m, -, hm⟩ := hd.drawn b hb
  obtain ⟨n, -, hn⟩ := hd.drawn b' hb'
  rw [hd.keyed b hb, hd.keyed b' hb', hm, hn] at h
  obtain ⟨rfl, -⟩ := objectKey_inj hids h
  exact Table.eq_of_mem_of_key hd.valid.ids hb hb' (hm.trans hn.symm)

/-! ## The refinement -/

namespace Depot

/-- The depot as a catalogue with blobs beside it. -/
def shelf (d : Depot) : Blobs.State String AgentBuild (List UInt8) where
  entries key := Table.lookup (·.storageKey) key (d.builds.map AgentBuild.label)
  blobs := d.objects

variable (env cfg)

/-- What an upload does to the catalogue and to the store. -/
def uploadEvent (faults : UploadFaults) (put : Answer Failure) (isAdmin : Bool) (user : User)
    (form : UploadForm) (d : Depot) : Blobs.Event String AgentBuild (List UInt8) :=
  match (stageUpload env cfg faults isAdmin user form d).1 with
  | .error _ => .skip
  | .ok (binary, bytes) =>
    if put.applied then
      .add binary.storageKey binary.label bytes
        (uploadBuild env cfg faults put isAdmin user form d).1.isOk
    else .skip

/-- What a deletion does to them. -/
def deleteEvent (faults : Faults) (answer : Answer Failure) (isAdmin : Bool) (user : User)
    (binaryId : String) (d : Depot) : Blobs.Event String AgentBuild (List UInt8) :=
  match (stageDelete env faults isAdmin user binaryId d).1 with
  | .error _ => .skip
  | .ok binary =>
    .drop binary.storageKey answer.applied
      (deleteBuild env faults answer isAdmin user binaryId d).1.isOk

/-- What a request does to them. -/
def event (d : Depot) : DepotRequest → Blobs.Event String AgentBuild (List UInt8)
  | .upload faults put isAdmin user form => uploadEvent env cfg faults put isAdmin user form d
  | .update .. => .skip
  | .delete faults answer isAdmin user binaryId => deleteEvent env faults answer isAdmin user binaryId d
  | .system _ => .skip

/-- What the requests of a run do. -/
abbrev events : Depot → List DepotRequest → List (Blobs.Event String AgentBuild (List UInt8)) :=
  Machine.trace (step env cfg) (event env cfg)

end Depot

/-- The shelf is made of the labels and the files. -/
lemma shelf_of_same {t : Depot} (hlabels : t.builds.map AgentBuild.label = d.builds.map AgentBuild.label)
    (hobjects : t.objects = d.objects) : t.shelf = d.shelf := by
  unfold Depot.shelf
  rw [hlabels, hobjects]

/-- The entries once a row is added. -/
lemma entries_added (hids : PlainIds env) (hd : d.Sound env)
    (hid : binary.id = env.uuid d.world.nextId)
    (hkey : binary.storageKey = objectKey binary.id binary.filename)
    (hlabels : t.builds.map AgentBuild.label = d.builds.map AgentBuild.label ++ [binary.label]) :
    t.shelf.entries =
      Function.update d.shelf.entries binary.storageKey (some binary.label) := by
  unfold Depot.shelf
  rw [hlabels]
  refine Table.lookup_append fun x hx heq => ?_
  obtain ⟨y, hy, rfl⟩ := List.mem_map.mp hx
  have heq : y.storageKey = binary.storageKey := heq
  obtain ⟨n, hn, hyid⟩ := hd.drawn y hy
  rw [hd.keyed y hy, hkey, hyid, hid] at heq
  obtain ⟨rfl, -⟩ := objectKey_inj hids heq
  exact absurd hn (lt_irrefl _)

/-- The entries once a row is removed. -/
lemma entries_removed (hids : PlainIds env) (hd : d.Sound env) (hb : binary ∈ d.builds)
    (hbuilds : t.builds = Table.deleteWhere (fun b => decide (b.id = binary.id)) d.builds) :
    t.shelf.entries = Function.update d.shelf.entries binary.storageKey none := by
  have hlabels : t.builds.map AgentBuild.label =
      Table.deleteWhere (fun b => decide (b.id = binary.id)) (d.builds.map AgentBuild.label) := by
    rw [hbuilds]
    unfold Table.deleteWhere
    rw [List.filter_map]
    rfl
  unfold Depot.shelf
  rw [hlabels]
  funext k
  by_cases hk : k = binary.storageKey
  · subst hk
    rw [Function.update_self]
    refine Table.lookup_eq_none.mpr fun x hx heq => ?_
    obtain ⟨hx, hne⟩ := Table.mem_deleteWhere.mp hx
    obtain ⟨y, hy, rfl⟩ := List.mem_map.mp hx
    obtain rfl := eq_of_storageKey hids hd hy hb heq
    exact of_decide_eq_false hne rfl
  · rw [Function.update_of_ne hk]
    refine Table.lookup_deleteWhere fun x hx hkey => decide_eq_false fun hid => hk ?_
    obtain ⟨y, hy, rfl⟩ := List.mem_map.mp hx
    have hyid : y.id = binary.id := hid
    obtain rfl := Table.eq_of_mem_of_key hd.valid.ids hy hb hyid
    exact hkey.symm

/-- **The depot refines a catalogue with blobs beside it.**

**Proof sketch.** By the request, with its specification: an upload, an update or a deletion that is
rolled back leaves the entries alone, and at most the file behind; one that is committed adds,
relabels or removes its own entry. The new identifier keeps the key of an upload apart from the
others. -/
theorem shelf_step (hids : PlainIds env) (hd : d.Sound env) (r : DepotRequest) :
    (Depot.step env cfg d r).shelf = Blobs.step d.shelf (Depot.event env cfg d r) := by
  have hback : ∀ {t : Depot}, RolledBack d t → t.shelf.entries = d.shelf.entries := by
    intro t hrolled
    unfold Depot.shelf
    rw [hrolled.builds]
  have hext : ∀ {s s' : Blobs.State String AgentBuild (List UInt8)}, s.entries = s'.entries →
      s.blobs = s'.blobs → s = s' := by
    rintro ⟨entries, blobs⟩ ⟨entries', blobs'⟩ rfl rfl
    rfl
  cases r with
  | upload faults put isAdmin user form =>
    show (uploadBuild env cfg faults put isAdmin user form d).2.shelf =
      Blobs.step d.shelf (Depot.uploadEvent env cfg faults put isAdmin user form d)
    unfold Depot.uploadEvent
    rcases @uploadBuild_spec env cfg faults put isAdmin user form d with
      ⟨⟨e, u, hstage⟩, -, -, hrolled, hobjects⟩ |
        ⟨binary, bytes, u, hstage, -, hobjects, ⟨⟨e, hraise⟩, hrolled⟩ |
          ⟨hanswer, happlied, -, hbuilds⟩⟩
    · rw [hstage]
      exact hext (hback hrolled) hobjects
    · rw [hstage]
      dsimp only
      rw [hraise]
      cases happlied : put.applied with
      | false =>
        rw [happlied] at hobjects
        exact hext (hback hrolled) hobjects
      | true =>
        rw [happlied] at hobjects
        exact hext (hback hrolled) hobjects
    · obtain ⟨version, received, -, hbinary, -, -, -⟩ := stageUpload_eq_ok hstage
      have hid : binary.id = env.uuid d.world.nextId := by rw [hbinary]; rfl
      have hkey : binary.storageKey = objectKey binary.id binary.filename := by rw [hbinary]; rfl
      rw [hstage]
      dsimp only
      rw [hanswer, happlied]
      rw [happlied] at hobjects
      refine hext (entries_added hids hd hid hkey ?_) hobjects
      rw [hbuilds]
      exact labels_uploaded hd hid form.makeActive
  | update faults isAdmin user binaryId body =>
    obtain ⟨-, hobjects, ⟨-, hrolled⟩ | ⟨before, b, hfound, -, -, -, -, hbuilds⟩⟩ :=
      @updateBuild_spec env cfg d faults isAdmin user binaryId body hd.valid
    · exact hext (hback hrolled) hobjects
    · obtain ⟨hin, -⟩ := (Table.lookup_eq_some hd.valid.ids).mp hfound
      refine shelf_of_same ?_ hobjects
      show (updateBuild env cfg faults isAdmin user binaryId body d).2.builds.map _ = _
      rw [hbuilds]
      exact labels_updatedBuilds hd.valid.ids hin body
  | delete faults answer isAdmin user binaryId =>
    show (deleteBuild env faults answer isAdmin user binaryId d).2.shelf =
      Blobs.step d.shelf (Depot.deleteEvent env faults answer isAdmin user binaryId d)
    unfold Depot.deleteEvent
    obtain ⟨-, ⟨⟨e, u, hstage⟩, -, hrolled, hobjects⟩ |
      ⟨binary, u, hstage, hobjects, ⟨⟨e, hraise⟩, hrolled⟩ | ⟨hanswer, -, hbuilds⟩⟩⟩ :=
      @deleteBuild_spec env faults answer isAdmin user binaryId d
    · rw [hstage]
      exact hext (hback hrolled) hobjects
    · rw [hstage]
      dsimp only
      rw [hraise]
      exact hext (hback hrolled) hobjects
    · obtain ⟨hfound, -, -⟩ := stageDelete_eq_ok hstage
      obtain ⟨hin, -⟩ := (Table.lookup_eq_some hd.valid.ids).mp hfound
      rw [hstage]
      dsimp only
      rw [hanswer]
      exact hext (entries_removed hids hd hin hbuilds) hobjects
  | system e => rfl

end Refinement

/-! ## Runs -/

section Runs

variable {d : Depot} {rs ss : List DepotRequest} {b : AgentBuild}

/-- The shelf after a run of the depot is that of its events. -/
lemma shelf_run (hids : PlainIds env) (hd : d.Sound env) (rs : List DepotRequest) :
    (Depot.run env cfg d rs).shelf = Blobs.run d.shelf (Depot.events env cfg d rs) :=
  Machine.view_run (I := fun d : Depot => d.Sound env) (fun _ r h => (relabeled_step h r).2.1)
    (fun _ r h => shelf_step hids h r) hd

/-- What an upload adds: the row and the bytes it was made of. -/
lemma event_added {r : DepotRequest} {key : String} {entry : AgentBuild} {bytes : List UInt8}
    {c : Bool} (h : Depot.event env cfg d r = .add key entry bytes c) :
    ∃ faults put isAdmin user form version received,
      r = .upload faults put isAdmin user form ∧ requireExe cfg form.filename = .ok () ∧
      receive (readChunks uploadChunk form.content) = .ok received ∧ bytes = received.written ∧
      entry = (uploadedBuild cfg user form version (env.uuid d.world.nextId) received).label ∧
      key = objectKey (env.uuid d.world.nextId) entry.filename := by
  cases r with
  | update faults isAdmin user binaryId body => cases h
  | system e => cases h
  | delete faults answer isAdmin user binaryId =>
    have h : Depot.deleteEvent env faults answer isAdmin user binaryId d = .add key entry bytes c := h
    unfold Depot.deleteEvent at h
    split at h
    · cases h
    · cases h
  | upload faults put isAdmin user form =>
    have h : Depot.uploadEvent env cfg faults put isAdmin user form d = .add key entry bytes c := h
    unfold Depot.uploadEvent at h
    rcases hstage : stageUpload env cfg faults isAdmin user form d with ⟨e | ⟨binary, data⟩, t⟩
    · rw [hstage] at h
      cases h
    · rw [hstage] at h
      obtain ⟨version, received, hreceived, hbinary, hbytes, -, -, hexe⟩ := stageUpload_eq_ok hstage
      dsimp only at h
      split at h
      · injection h with hkey hentry hdata
        refine ⟨faults, put, isAdmin, user, form, version, received, rfl, hexe, hreceived,
          hdata ▸ hbytes, ?_, ?_⟩
        · rw [← hentry, hbinary]
        · rw [← hkey, ← hentry, hbinary]
          rfl
      · cases h

/-- The key of what a request does has an identifier that is drawn by then.

**Proof sketch.** By cases on the request. An upload draws its identifier now; a delete names the
key of a row, whose identifier was drawn before. No other request has a key. -/
lemma event_key (hd : d.Sound env) {r : DepotRequest} {key : String}
    (h : (Depot.event env cfg d r).key = some key) :
    ∃ n < (Depot.step env cfg d r).world.nextId, ∃ f, key = objectKey (env.uuid n) f := by
  cases r with
  | update faults isAdmin user binaryId body => cases h
  | system e => cases h
  | delete faults answer isAdmin user binaryId =>
    have h : (Depot.deleteEvent env faults answer isAdmin user binaryId d).key = some key := h
    unfold Depot.deleteEvent at h
    rcases hstage : stageDelete env faults isAdmin user binaryId d with ⟨e | binary, t⟩
    · rw [hstage] at h
      cases h
    · rw [hstage] at h
      cases h
      obtain ⟨hfound, -, -⟩ := stageDelete_eq_ok hstage
      obtain ⟨hin, -⟩ := (Table.lookup_eq_some hd.valid.ids).mp hfound
      obtain ⟨n, hn, hid⟩ := hd.drawn binary hin
      refine ⟨n, hn.trans_le (relabeled_step hd _).1, binary.filename, ?_⟩
      rw [← hid]
      exact hd.keyed binary hin
  | upload faults put isAdmin user form =>
    rcases hevent : Depot.event env cfg d (.upload faults put isAdmin user form) with
      ⟨k, entry, bytes, c⟩ | ⟨k, taken, c⟩ | _
    · rw [hevent] at h
      cases h
      obtain ⟨-, -, -, -, -, -, -, -, -, -, -, -, hkey⟩ := event_added hevent
      refine ⟨d.world.nextId, ?_, entry.filename, hkey⟩
      rcases @uploadBuild_spec env cfg faults put isAdmin user form d with
        ⟨⟨e, u, hstage⟩, -⟩ | ⟨binary, data, u, -, hless, -⟩
      · have hskip : Depot.event env cfg d (.upload faults put isAdmin user form) = .skip := by
          show Depot.uploadEvent env cfg faults put isAdmin user form d = .skip
          unfold Depot.uploadEvent
          rw [hstage]
        rw [hevent] at hskip
        cases hskip
      · exact hless
    · have hdrop : Depot.uploadEvent env cfg faults put isAdmin user form d = .drop k taken c := hevent
      unfold Depot.uploadEvent at hdrop
      split at hdrop
      · cases hdrop
      · split at hdrop
        · cases hdrop
        · cases hdrop
    · rw [hevent] at h
      cases h

/-- The keys that are added from some state on have identifiers that are not drawn yet. -/
lemma events_added (hd : d.Sound env) {e : Blobs.Event String AgentBuild (List UInt8)}
    {key : String} (he : e ∈ Depot.events env cfg d rs) (hkey : e.added = some key) :
    ∃ n ≥ d.world.nextId, ∃ f, key = objectKey (env.uuid n) f := by
  induction rs generalizing d with
  | nil => cases he
  | cons r rs ih =>
    rw [Depot.events, Machine.trace_cons, List.mem_cons] at he
    obtain ⟨hle, hsound, -⟩ := @relabeled_step env cfg d hd r
    rcases he with rfl | he
    · rcases hevent : Depot.event env cfg d r with ⟨k, entry, bytes, c⟩ | ⟨k, taken, c⟩ | _
      · rw [hevent] at hkey
        cases hkey
        obtain ⟨-, -, -, -, -, -, -, -, -, -, -, -, hk⟩ := event_added hevent
        exact ⟨d.world.nextId, le_rfl, entry.filename, hk⟩
      · rw [hevent] at hkey
        cases hkey
      · rw [hevent] at hkey
        cases hkey
    · obtain ⟨n, hn, hk⟩ := ih hsound he
      exact ⟨n, hle.trans hn, hk⟩

/-- Every key is added before anything else happens to it. -/
lemma events_fresh (hids : PlainIds env) (hd : d.Sound env) (rs : List DepotRequest) :
    Blobs.Fresh (Depot.events env cfg d rs) := by
  induction rs generalizing d with
  | nil => exact List.Pairwise.nil
  | cons r rs ih =>
    obtain ⟨-, hsound, -⟩ := @relabeled_step env cfg d hd r
    refine List.pairwise_cons.mpr ⟨fun e he key hadded hkey => ?_, ih hsound⟩
    obtain ⟨m, hm, f, rfl⟩ := event_key hd hkey
    obtain ⟨n, hn, g, heq⟩ := events_added hsound he hadded
    obtain ⟨rfl, -⟩ := objectKey_inj hids heq
    omega

end Runs

/-! ## Bytes that are lost -/

/-- A deletion of a build has reached the store and is rolled back. -/
def TakenBack (env : Env) (d : Depot) (id : String) : DepotRequest → Prop
  | .delete faults answer isAdmin user binaryId =>
    binaryId = id ∧ answer.applied = true ∧
      (∃ binary t, stageDelete env faults isAdmin user binaryId d = (.ok binary, t)) ∧
      ∃ e, (deleteBuild env faults answer isAdmin user binaryId d).1 = .error e
  | _ => False

section Lost

variable {d : Depot} {rs ss : List DepotRequest} {b b' : AgentBuild}

/-- The shelf of an initial depot is empty. -/
lemma shelf_initial (h : d.Initial) : d.shelf = Blobs.empty := by
  unfold Depot.shelf Blobs.empty
  rw [h.builds, h.objects]
  rfl

/-- A run from the start, in the terms of the catalogue. -/
lemma shelf_run_initial (hids : PlainIds env) (h : d.Initial) (hc : d.world.db.Consistent)
    (rs : List DepotRequest) :
    (Depot.run env cfg d rs).shelf = Blobs.run Blobs.empty (Depot.events env cfg d rs) := by
  rw [shelf_run hids (sound_initial h hc), shelf_initial h]

/-- The entry of a build. -/
lemma entry_of_mem (hids : PlainIds env) (hd : d.Sound env) (hb : b ∈ d.builds) :
    d.shelf.entries b.storageKey = some b.label := by
  have hkeys : ((d.builds.map AgentBuild.label).map (·.storageKey)).Nodup := by
    rw [List.map_map]
    refine List.Nodup.map_on (fun x hx y hy heq => ?_) (List.Nodup.of_map _ hd.valid.ids)
    exact eq_of_storageKey hids hd hx hy heq
  exact (Table.lookup_eq_some hkeys).mpr ⟨List.mem_map_of_mem hb, rfl⟩

/-- A build that was there when its identifier was drawn has the label it had. -/
lemma label_kept (hd : d.Sound env) (hb : b ∈ (Depot.run env cfg d rs).builds)
    (hdrawn : Drawn env d.world b.id) : ∃ b₀ ∈ d.builds, b₀.label = b.label := by
  induction rs generalizing d with
  | nil => exact ⟨b, hb, rfl⟩
  | cons r rs ih =>
    obtain ⟨hle, hsound, hlabels⟩ := @relabeled_step env cfg d hd r
    obtain ⟨x, hx, hxb⟩ := ih hsound hb (hdrawn.mono hle)
    have hin := List.mem_map_of_mem (f := AgentBuild.label) hx
    cases hlabels with
    | same h =>
      rw [h] at hin
      obtain ⟨y, hy, hlabel⟩ := List.mem_map.mp hin
      exact ⟨y, hy, hlabel.trans hxb⟩
    | added new hid hless hkey h =>
      rw [h, List.mem_append, List.mem_singleton] at hin
      rcases hin with hin | hlabel
      · obtain ⟨y, hy, hlabel⟩ := List.mem_map.mp hin
        exact ⟨y, hy, hlabel.trans hxb⟩
      · -- the identifier of a new row is not drawn yet
        have hsame : b.id = new.id := (label_eq (hxb.symm.trans hlabel)).1
        exact absurd (hid ▸ hsame ▸ hdrawn) (not_drawn_next env d.world)
    | removed old hold h =>
      rw [h] at hx
      exact ⟨x, (Table.mem_deleteWhere.mp hx).1, hxb⟩

/-- What takes bytes away without its row is a deletion that is rolled back. -/
lemma event_taken {r : DepotRequest} {key : String}
    (h : Depot.event env cfg d r = .drop key true false) (hd : d.Sound env) :
    ∃ binary ∈ d.builds, binary.storageKey = key ∧ TakenBack env d binary.id r := by
  cases r with
  | update faults isAdmin user binaryId body => cases h
  | system e => cases h
  | upload faults put isAdmin user form =>
    have h : Depot.uploadEvent env cfg faults put isAdmin user form d = .drop key true false := h
    unfold Depot.uploadEvent at h
    split at h
    · cases h
    · split at h
      · cases h
      · cases h
  | delete faults answer isAdmin user binaryId =>
    have h : Depot.deleteEvent env faults answer isAdmin user binaryId d = .drop key true false := h
    unfold Depot.deleteEvent at h
    rcases hstage : stageDelete env faults isAdmin user binaryId d with ⟨e | binary, t⟩
    · rw [hstage] at h
      cases h
    · rw [hstage] at h
      injection h with hkey happlied hok
      obtain ⟨hfound, -, -⟩ := stageDelete_eq_ok hstage
      obtain ⟨hin, hid⟩ := (Table.lookup_eq_some hd.valid.ids).mp hfound
      refine ⟨binary, hin, hkey, hid.symm, happlied, ⟨binary, t, hstage⟩, ?_⟩
      rcases hanswer : (deleteBuild env faults answer isAdmin user binaryId d).1 with e | ⟨⟩
      · exact ⟨e, rfl⟩
      · rw [hanswer] at hok
        cases hok

/-- A deletion that is rolled back takes bytes away without its row. -/
lemma event_of_takenBack {r : DepotRequest} (hd : d.Sound env) (hb : b ∈ d.builds)
    (h : TakenBack env d b.id r) : Depot.event env cfg d r = .drop b.storageKey true false := by
  cases r with
  | upload faults put isAdmin user form => exact absurd h id
  | update faults isAdmin user binaryId body => exact absurd h id
  | system e => exact absurd h id
  | delete faults answer isAdmin user binaryId =>
    obtain ⟨hid, happlied, ⟨binary, t, hstage⟩, e, hraise⟩ := h
    obtain ⟨hfound, -, -⟩ := stageDelete_eq_ok hstage
    obtain ⟨hin, hkey⟩ := (Table.lookup_eq_some hd.valid.ids).mp hfound
    obtain rfl := Table.eq_of_mem_of_key hd.valid.ids hin hb (hkey.trans hid)
    show Depot.deleteEvent env faults answer isAdmin user binaryId d = _
    unfold Depot.deleteEvent
    rw [hstage]
    dsimp only
    rw [happlied, hraise]
    rfl

/-- **A build has lost its bytes exactly when a deletion of it that reached the store was rolled
back**, over every run of requests, each of which may fail at any step.

**Proof sketch.** The depot refines the shelf, where bytes are lost exactly by an event that takes
them back (`Blobs.run_lost_iff`). Such an event comes from a deletion under the same key, and keys
are those of the identifiers; conversely a deletion that is taken back was of a row with the label
of the one that is there. -/
theorem bytes_lost_iff (hids : PlainIds env) (h : d.Initial) (hc : d.world.db.Consistent)
    (rs : List DepotRequest) (hb : b ∈ (Depot.run env cfg d rs).builds) :
    (Depot.run env cfg d rs).objects b.storageKey = none ↔ ∃ pre r post, rs = pre ++ r :: post ∧
      TakenBack env (Depot.run env cfg d pre) b.id r := by
  have hsound : d.Sound env := sound_initial h hc
  have hshelf := @shelf_run_initial env cfg d hids h hc rs
  have hrun : (Depot.run env cfg d rs).Sound env := sound_run hsound rs
  have hentry := entry_of_mem hids hrun hb
  have hobjects : (Depot.run env cfg d rs).objects b.storageKey =
      (Depot.run env cfg d rs).shelf.blobs b.storageKey := rfl
  rw [hshelf] at hentry
  rw [hobjects, hshelf, Blobs.run_lost_iff (events_fresh hids hsound rs) hentry, Machine.mem_trace]
  refine exists_congr fun pre => exists_congr fun r => exists_congr fun post => and_congr_right ?_
  rintro rfl
  have hpre : (Depot.run env cfg d pre).Sound env := sound_run hsound pre
  constructor
  · intro hevent
    obtain ⟨binary, hin, hkey, htaken⟩ := event_taken hevent.symm hpre
    obtain ⟨m, -, hm⟩ := hpre.drawn binary hin
    obtain ⟨n, -, hn⟩ := hrun.drawn b hb
    have hkeys := hrun.keyed b hb
    rw [← hkey, hpre.keyed binary hin, hm, hn] at hkeys
    obtain ⟨rfl, -⟩ := objectKey_inj hids hkeys
    rw [hn, ← hm]
    exact htaken
  · intro htaken
    -- the row was there at the deletion
    have hthere : ∃ binary ∈ (Depot.run env cfg d pre).builds, binary.id = b.id := by
      cases r with
      | upload faults put isAdmin user form => exact absurd htaken id
      | update faults isAdmin user binaryId body => exact absurd htaken id
      | system e => exact absurd htaken id
      | delete faults answer isAdmin user binaryId =>
        obtain ⟨hid, -, ⟨binary, t, hstage⟩, -⟩ := htaken
        obtain ⟨hfound, -, -⟩ := stageDelete_eq_ok hstage
        obtain ⟨hin, hkey⟩ := (Table.lookup_eq_some hpre.valid.ids).mp hfound
        exact ⟨binary, hin, hkey.trans hid⟩
    obtain ⟨binary, hin, hid⟩ := hthere
    rw [Depot.run, Machine.run_append] at hb
    obtain ⟨b₀, hb₀, hlabel⟩ := label_kept hpre hb (hid ▸ hpre.drawn binary hin)
    obtain ⟨hsame, hkey, -⟩ := label_eq hlabel
    rw [← hsame] at htaken
    rw [event_of_takenBack hpre hb₀ htaken, hkey]

end Lost

namespace Demo

/-- The identifiers are names. -/
def named : Env := { settings with
  py := clockPy
  uuid := fun n => String.ofList (List.replicate (n + 1) 'u')
  uuid_injective := fun a b h => by simpa using congrArg String.length h }

/-- The letters of the example's identifiers. -/
lemma named_mem {n : ℕ} {c : Char} (h : c ∈ (named.uuid n).toList) : c = 'u' := by
  have h : c ∈ (String.ofList (List.replicate (n + 1) 'u')).toList := h
  rw [String.toList_ofList] at h
  exact List.eq_of_mem_replicate h

/-- They are plain. -/
lemma named_plain : PlainIds named := fun _ h => absurd (named_mem h) (by decide)

/-- A local store. -/
def depotSettings : DepotSettings where
  backend := "local"
  sha256 _ := "9b8db510ef42b8ed54a3712636fda55a4f8cfcd5493e20b74ab00cd4f3979f2d"
  lower s := String.ofList (s.toList.map Char.toLower)
  arrange := id
  arrange_perm _ := List.Perm.refl _

/-- The store is empty. -/
def depot : Depot := { world := start.world, builds := [], objects := fun _ => none }

/-- The example depot is initial. -/
lemma depot_initial : depot.Initial := ⟨rfl, rfl⟩

/-- The upload of a build of two bytes. -/
def upload : DepotRequest := .upload ⟨none, none, none, ""⟩ .done true user {
  filename := some "ovc-agent.exe", contentType := none, content := mz, version := "1.0.0"
  hypervisor := "hyperv", notes := none, makeActive := false }

/-- Its deletion, with a commit that fails. -/
def undone : DepotRequest :=
  .delete ⟨none, some (.raised .integrityError)⟩ .done true user "u"

/-- The depot once the build is uploaded. -/
@[irreducible] def uploaded : Depot := Depot.run named depotSettings depot [upload]

/-- The depot once its deletion is rolled back. -/
@[irreducible] def bereft : Depot := Depot.run named depotSettings depot [upload, undone]

end Demo

/-- A build whose bytes a deletion has taken that was rolled back. -/
theorem bytes_lost_iff_undone : ∃ b ∈ Demo.bereft.builds, ∃ pre r post,
    [Demo.upload, Demo.undone] = pre ++ r :: post ∧
      TakenBack Demo.named (Depot.run Demo.named Demo.depotSettings Demo.depot pre) b.id r := by
  obtain ⟨b, hb, hgone⟩ : ∃ b ∈ Demo.bereft.builds,
      (Demo.bereft.objects b.storageKey).isNone = true := by decide +kernel
  unfold Demo.bereft at hb hgone ⊢
  exact ⟨b, hb, (bytes_lost_iff Demo.named_plain Demo.depot_initial Demo.start.consistent
    [Demo.upload, Demo.undone] hb).mp (Option.isNone_iff_eq_none.mp hgone)⟩

/-! ## Downloads -/

/-- What a row says of its bytes. -/
structure Describes (cfg : DepotSettings) (entry : AgentBuild) (bytes : List UInt8) : Prop where
  size : entry.sizeBytes = bytes.length
  checksum : entry.checksumSha256 = cfg.sha256 bytes
  executable : mz <+: bytes
  limit : bytes.length ≤ maxUploadBytes

section Downloads

variable {d : Depot} {rs ss : List DepotRequest} {b : AgentBuild}

/-- An upload that is received is hashed and written as it is. -/
lemma receive_eq_ok {content : List UInt8} {received : Received}
    (h : receive (readChunks uploadChunk content) = .ok received) :
    received = { size := content.length, hashed := content, written := content } ∧
      mz <+: content ∧ content.length ≤ maxUploadBytes := by
  have hchunk : 2 ≤ uploadChunk := by decide
  rw [receive_chunks hchunk] at h
  split_ifs at h with hempty hexe hlarge
  cases h
  exact ⟨rfl, hexe, not_lt.mp hlarge⟩

/-- What an upload adds is described by its row. -/
lemma describes_added {r : DepotRequest} {key : String} {entry : AgentBuild} {bytes : List UInt8}
    {c : Bool} (h : Depot.event env cfg d r = .add key entry bytes c) :
    Describes cfg entry bytes := by
  obtain ⟨-, -, -, user, form, version, received, -, -, hreceived, hbytes, hentry, -⟩ :=
    event_added h
  obtain ⟨rfl, hexe, hlimit⟩ := receive_eq_ok hreceived
  rw [hbytes, hentry]
  exact ⟨rfl, rfl, hexe, hlimit⟩

/-- **A download streams what the checksum of the build was taken of**, whatever has happened since
the build was seen.

**Proof sketch.** The row that is found has the label of the one that was seen, since nothing
changes a label under an identifier (`label_kept`). Its entry on the shelf was added with bytes that
it describes, and along a fresh run a key that is listed has no other bytes (`Blobs.run_described`).
-/
theorem download_faithful (hids : PlainIds env) (h : d.Initial) (hc : d.world.db.Consistent)
    (rs ss : List DepotRequest) (hb : b ∈ (Depot.run env cfg d rs).builds) {mac : Mac} {time : ℤ}
    {exp token : Option String} {file : BinaryDownload}
    (hfile : downloadBuild env cfg mac time (Depot.run env cfg d (rs ++ ss)) b.id exp token =
      .ok file) : Describes cfg b file.body ∧ file.contentLength = file.body.length ∧
        file.filename = b.filename := by
  have hsound : d.Sound env := sound_initial h hc
  have hsplit : Depot.run env cfg d (rs ++ ss) = Depot.run env cfg (Depot.run env cfg d rs) ss :=
    Machine.run_append
  have hrun : (Depot.run env cfg d rs).Sound env := sound_run hsound rs
  have hlater : (Depot.run env cfg d (rs ++ ss)).Sound env := sound_run hsound (rs ++ ss)
  -- the row that is found has the label of the one that was seen
  obtain ⟨binary, hfound, hobject, hlength, hname⟩ : ∃ binary,
      (Depot.run env cfg d (rs ++ ss)).build b.id = some binary ∧
      (Depot.run env cfg d (rs ++ ss)).objects binary.storageKey = some file.body ∧
      file.contentLength = binary.sizeBytes ∧ file.filename = binary.filename := by
    unfold downloadBuild at hfile
    split at hfile
    · cases hfile
    · next binary hfound =>
      split_ifs at hfile
      split at hfile
      · cases hfile
      · cases hfile
      · split at hfile
        · cases hfile
        · next bytes hobject =>
          cases hfile
          exact ⟨binary, hfound, hobject, rfl, rfl⟩
  obtain ⟨hin, hid⟩ := (Table.lookup_eq_some hlater.valid.ids).mp hfound
  obtain ⟨b₀, hb₀, hlabel⟩ := label_kept hrun (hsplit ▸ hin) (hid ▸ hrun.drawn b hb)
  obtain ⟨hsame, hkey, hfilename, hsize, -⟩ := label_eq hlabel
  obtain rfl := Table.eq_of_mem_of_key hrun.valid.ids hb₀ hb (hsame.trans hid)
  -- the bytes under its key are those of its upload
  have hentry := entry_of_mem hids hrun hb
  rw [shelf_run_initial hids h hc] at hentry
  have hblob : (Depot.run env cfg d (rs ++ ss)).shelf.blobs b₀.storageKey = some file.body := by
    rw [hkey]
    exact hobject
  rw [shelf_run_initial hids h hc, Depot.events, Machine.trace_append] at hblob
  have hfresh : Blobs.Fresh (Depot.events env cfg d (rs ++ ss)) := events_fresh hids hsound _
  rw [Depot.events, Machine.trace_append] at hfresh
  have hdescribes : Describes cfg b₀.label file.body := by
    refine Blobs.run_described hfresh (fun key entry bytes c hadd => ?_) hentry hblob
    rw [← Machine.trace_append] at hadd
    obtain ⟨pre, r, post, -, hevent⟩ := Machine.mem_trace.mp hadd
    exact describes_added hevent.symm
  refine ⟨⟨hdescribes.size, hdescribes.checksum, hdescribes.executable, hdescribes.limit⟩, ?_, ?_⟩
  · rw [hlength, ← hsize]
    exact hdescribes.size
  · rw [hname, hfilename]

end Downloads

namespace Demo

/-- The digests under the default secret: that of the URL of the build, and the others told apart. -/
def urlMac : Mac where
  hex m := if m = "u.1790000000" then
    "aac456731e867bcbefea42ce6690ebb3034447364ea95db9fc8a4382dc031de7" else spellOut m
  injective a b h := by
    have hother : ∀ m, spellOut m ≠
        "aac456731e867bcbefea42ce6690ebb3034447364ea95db9fc8a4382dc031de7" := by
      intro m heq
      have hhead := congrArg (fun s : String => s.toList.head?) heq
      rw [spellOut] at hhead
      simp only [String.toList_ofList, List.head?_cons] at hhead
      exact absurd hhead (by decide)
    dsimp only at h
    split_ifs at h with ha hb hb
    · rw [ha, hb]
    · exact absurd h.symm (hother b)
    · exact absurd h (hother a)
    · exact spellOut_injective h
  hex_ascii m := by
    split_ifs
    · decide +kernel
    · exact spellOut_ascii m
  hex_ne m h := by
    split_ifs at h
    · exact absurd h (by decide)
    · exact absurd (congrArg String.toList h) (by simp [spellOut])

/-- The upload of a second build, of three bytes. -/
def uploadNext : DepotRequest := .upload ⟨none, none, none, ""⟩ .done true user {
  filename := some "ovc-agent-1.1.exe", contentType := none, content := mz ++ [144]
  version := "1.1.0", hypervisor := "hyperv", notes := none, makeActive := true }

/-- An upload that the store refuses. -/
def uploadRefused : DepotRequest :=
  .upload ⟨none, none, none, "No space left on device"⟩ (.failed .agentStoreError false) true user {
    filename := none, contentType := none, content := mz, version := "1.2.0"
    hypervisor := "hyperv", notes := none, makeActive := true }

/-- The first build gets its notes, and becomes the active one. -/
def noted : DepotRequest :=
  .update ⟨none, none⟩ true user "u" { notes := some (some "first"), isActive := some (some true) }

/-- What happens after the upload: the deletion of the build fails at the store. -/
def afterwards : List DepotRequest :=
  [uploadNext, uploadRefused, noted,
    .delete ⟨none, none⟩ (.failed .agentStoreError false) true user "u"]

/-- The download of the build, after all that. -/
@[irreducible] def fetched : Except Failure BinaryDownload :=
  downloadBuild named depotSettings urlMac 1789996460
    (Depot.run named depotSettings depot ([upload] ++ afterwards)) "u" (some "1790000000")
    (some "aac456731e867bcbefea42ce6690ebb3034447364ea95db9fc8a4382dc031de7")

end Demo

/-- The two bytes of the build, when another has been uploaded since, one was refused, and its
deletion has failed. -/
theorem download_faithful_upload : ∃ b ∈ Demo.uploaded.builds, ∃ file,
    Demo.fetched = .ok file ∧ Describes Demo.depotSettings b file.body := by
  obtain ⟨b, hb, hid⟩ : ∃ b ∈ Demo.uploaded.builds, b.id = "u" := by decide +kernel
  have hok : Demo.fetched.isOk = true := by decide +kernel
  rcases hfile : Demo.fetched with e | file
  · rw [hfile] at hok
    cases hok
  · refine ⟨b, hb, file, rfl, ?_⟩
    unfold Demo.fetched at hfile
    rw [← hid] at hfile
    unfold Demo.uploaded at hb
    exact (download_faithful Demo.named_plain Demo.depot_initial Demo.start.consistent
      [Demo.upload] Demo.afterwards hb hfile).1

/-! ## Files -/

/-- What is relied on of `str.lower` and of the UUIDs. -/
structure Spelled (env : Env) (cfg : DepotSettings) : Prop where
  ids : ∀ n, LexicalPath.IsName '.' (env.uuid n).toList ∧ '/' ∉ (env.uuid n).toList
  lowerEmpty : cfg.lower "" = ""
  lowerLast : ∀ (s : String) (c : Char), c = '/' ∨ c = '.' → s.toList.getLast? = some c →
    (cfg.lower s).toList.getLast? = some c

section Files

variable {d : Depot} {rs : List DepotRequest} {b b' : AgentBuild} {filename : Option String}

/-- The last segment of a text that ends in neither a slash nor a dot names an entry. -/
lemma exists_lastSegment {text : List Char} (hne : text ≠ []) (hslash : text.getLast? ≠ some '/')
    (hdot : text.getLast? ≠ some '.') : ∃ words segment, text.splitOn '/' = words ++ [segment] ∧
      LexicalPath.IsName '.' segment ∧ '/' ∉ segment := by
  obtain ⟨words, segment, hsplit, hlast, hsep⟩ : ∃ words segment,
      text.splitOn '/' = words ++ [segment] ∧ segment.getLast? = text.getLast? ∧
        '/' ∉ segment := by
    by_cases hmem : '/' ∈ text
    · obtain ⟨after, before, hreverse, hafter⟩ :=
        List.eq_append_cons_of_mem (List.mem_reverse.mpr hmem)
      have htext : text = before.reverse ++ '/' :: after.reverse := by
        rw [← text.reverse_reverse, hreverse]
        simp
      have hsep : '/' ∉ after.reverse := fun h => hafter (List.mem_reverse.mp h)
      refine ⟨before.reverse.splitOn '/', after.reverse, ?_, ?_, hsep⟩
      · rw [htext, List.splitOn_append_cons_self, List.splitOn_eq_singleton hsep]
      · have hafterNe : after ≠ [] := by
          rintro rfl
          exact hslash (by rw [htext]; simp)
        rw [htext, List.getLast?_append, List.getLast?_cons]
        cases hafter : after.reverse.getLast? with
        | none => exact absurd (List.reverse_eq_nil_iff.mp (List.getLast?_eq_none_iff.mp hafter)) hafterNe
        | some c => rfl
    · exact ⟨[], text, List.splitOn_eq_singleton hmem, rfl, hmem⟩
  refine ⟨words, segment, hsplit, ⟨?_, ?_, ?_⟩, hsep⟩
  · rintro rfl
    exact hne (List.getLast?_eq_none_iff.mp hlast.symm)
  · rintro rfl
    exact hdot hlast.symm
  · rintro rfl
    exact hdot hlast.symm

/-- A name that is uploaded ends in a segment that names a file. -/
lemma pathName_valid (hspelled : Spelled env cfg) (h : requireExe cfg filename = .ok ()) :
    LexicalPath.IsName '.' (pathName ((nonEmpty filename).getD "ovc-agent.exe")).toList ∧
      '/' ∉ (pathName ((nonEmpty filename).getD "ovc-agent.exe")).toList := by
  have hexe : ".exe".toList <:+ (cfg.lower (filename.getD "")).toList := by
    unfold requireExe at h
    split_ifs at h with hexe
    exact hexe
  have hnonempty : filename.getD "" ≠ "" := by
    intro heq
    rw [heq, hspelled.lowerEmpty] at hexe
    exact absurd (List.suffix_nil.mp hexe) (by decide)
  have hlast : ∀ c, c = '/' ∨ c = '.' → (filename.getD "").toList.getLast? ≠ some c := by
    intro c hc heq
    have hlower := hspelled.lowerLast _ c hc heq
    obtain ⟨pre, hpre⟩ := hexe
    have hend : ".exe".toList.getLast? = some 'e' := by decide
    rw [← hpre, List.getLast?_append, hend] at hlower
    rcases hc with rfl | rfl
    · cases hlower
    · cases hlower
  have hpath : (nonEmpty filename).getD "ovc-agent.exe" = filename.getD "" := by
    cases filename with
    | none => exact absurd rfl hnonempty
    | some s =>
      have hs : s.isEmpty = false := by simpa using hnonempty
      simp [nonEmpty, hs]
  rw [hpath]
  obtain ⟨words, segment, hsplit, hname, hsep⟩ := exists_lastSegment
    (fun hnil => hnonempty (String.toList_eq_nil_iff.mp hnil)) (hlast _ (Or.inl rfl))
    (hlast _ (Or.inr rfl))
  have hpathName : (pathName (filename.getD "")).toList = segment := by
    have hkeep : [segment].filter (fun n => decide (n ≠ [] ∧ n ≠ ['.'])) = [segment] := by
      simp [hname.1, hname.2.1]
    unfold pathName
    rw [hsplit, List.filter_append, hkeep, List.getLast?_concat, String.toList_ofList]
    rfl
  rw [hpathName]
  exact ⟨hname, hsep⟩

/-- The identifier and the file name of a build are names. -/
lemma names_valid (hspelled : Spelled env cfg) (hids : PlainIds env) (h : d.Initial)
    (hc : d.world.db.Consistent) (hb : b ∈ (Depot.run env cfg d rs).builds) :
    (LexicalPath.IsName '.' b.id.toList ∧ '/' ∉ b.id.toList) ∧
      LexicalPath.IsName '.' b.filename.toList ∧ '/' ∉ b.filename.toList := by
  have hsound : d.Sound env := sound_initial h hc
  have hrun : (Depot.run env cfg d rs).Sound env := sound_run hsound rs
  have hentry := entry_of_mem hids hrun hb
  rw [shelf_run_initial hids h hc] at hentry
  obtain ⟨⟨bytes, hadd⟩, -⟩ := (Blobs.run_entries_iff (events_fresh hids hsound rs)).mp hentry
  obtain ⟨pre, r, post, -, hevent⟩ := Machine.mem_trace.mp hadd
  obtain ⟨-, -, -, user, form, version, received, -, hexe, -, -, hlabel, -⟩ :=
    event_added hevent.symm
  obtain ⟨n, -, hn⟩ := hrun.drawn b hb
  have hname : b.filename = pathName ((nonEmpty form.filename).getD "ovc-agent.exe") :=
    (label_eq hlabel).2.2.1
  have hid := hspelled.ids n
  rw [← hn] at hid
  have hvalid := pathName_valid hspelled hexe
  rw [← hname] at hvalid
  exact ⟨hid, hvalid⟩

variable {store : LocalAgentStore}

/-- Where the key of a build leads. -/
lemma resolve_objectKey {id filename : String}
    (hid : LexicalPath.IsName '.' id.toList ∧ '/' ∉ id.toList)
    (hname : LexicalPath.IsName '.' filename.toList ∧ '/' ∉ filename.toList) :
    (store.root.resolve (objectKey id filename)).names =
      store.root.names ++ [id.toList, filename.toList] := by
  have htext : (objectKey id filename).toList = id.toList ++ '/' :: filename.toList := by
    simp [objectKey]
  have hrelative : ¬ ['/'] <+: (objectKey id filename).toList := by
    rw [htext]
    rcases hlist : id.toList with _ | ⟨c, cs⟩
    · exact absurd hlist hid.1.1
    · have hc : '/' ≠ c := by
        rintro rfl
        exact hid.2 (by simp [hlist])
      simp [hc]
  have hsplit : (objectKey id filename).toList.splitOn '/' = [id.toList, filename.toList] := by
    rw [htext, List.splitOn_append_cons_self, List.splitOn_eq_singleton hid.2,
      List.splitOn_eq_singleton hname.2]
    rfl
  show LexicalPath.walk '.' _ _ = _
  rw [if_neg hrelative, hsplit, LexicalPath.walk_cons, LexicalPath.walk_cons,
    LexicalPath.walk_nil, LexicalPath.enter_of_isName hid.1, LexicalPath.enter_of_isName hname.1,
    List.append_assoc, List.singleton_append]

/-- What an operation on a key touches is in the directory of its identifier. -/
lemma touched_beneath {op : StoreOp} {key : String} {id name : List Char} {f : AbsPath}
    (hpath : (store.root.resolve key).names = store.root.names ++ [id, name])
    (hf : f ∈ store.touched op key) : ∃ x, f.names = store.root.names ++ [id, x] := by
  unfold LocalAgentStore.touched at hf
  split at hf
  · next p hp =>
    obtain ⟨rfl, -⟩ := path_eq_ok.mp hp
    cases op with
    | openStream =>
      rw [List.mem_singleton.mp hf]
      exact ⟨name, hpath⟩
    | delete =>
      rw [List.mem_singleton.mp hf]
      exact ⟨name, hpath⟩
    | putFile pid =>
      unfold StoreOp.files at hf
      dsimp only at hf
      split at hf
      · next tmp htmp =>
        rcases List.mem_cons.mp hf with rfl | hf
        · obtain ⟨parent, last, extra, -, hdst, htmp⟩ := tmpFile_eq_some htmp
          have hparts : parent ++ [last] = (store.root.names ++ [id]) ++ [name] := by
            rw [← hdst, hpath]
            simp
          obtain ⟨rfl, -⟩ := List.append_inj' hparts rfl
          exact ⟨last ++ extra, by rw [htmp]; simp⟩
        · rw [List.mem_singleton.mp hf]
          exact ⟨name, hpath⟩
      · cases hf
  · cases hf

/-- **Every build has a file of its own below the root of the store**: its key resolves to
`id/filename` below the root, and no operation on it touches a file outside the store, or one that
an operation on another build touches. -/
theorem stored_beneath (hspelled : Spelled env cfg) (h : d.Initial) (hc : d.world.db.Consistent)
    (rs : List DepotRequest) (store : LocalAgentStore)
    (hb : b ∈ (Depot.run env cfg d rs).builds) :
    (∃ p, store.path b.storageKey = .ok p ∧
      p.names = store.root.names ++ [b.id.toList, b.filename.toList]) ∧
    store.Contained b.storageKey ∧
    ∀ b' ∈ (Depot.run env cfg d rs).builds, b' ≠ b → ∀ op op', ∀ f ∈ store.touched op b.storageKey,
      f ∉ store.touched op' b'.storageKey := by
  have hids : PlainIds env := fun n => (hspelled.ids n).2
  have hrun : (Depot.run env cfg d rs).Sound env := sound_run (sound_initial h hc) rs
  have hresolve : ∀ x ∈ (Depot.run env cfg d rs).builds,
      (store.root.resolve x.storageKey).names =
        store.root.names ++ [x.id.toList, x.filename.toList] := by
    intro x hx
    obtain ⟨hid, hname⟩ := names_valid hspelled hids h hc hx
    rw [hrun.keyed x hx]
    exact resolve_objectKey hid hname
  have hpath := hresolve b hb
  have hwithin : store.root.names <+: (store.root.resolve b.storageKey).names := by
    rw [hpath]
    exact List.prefix_append _ _
  refine ⟨⟨store.root.resolve b.storageKey, path_eq_ok.mpr ⟨rfl, Or.inl hwithin⟩, hpath⟩, ?_, ?_⟩
  · refine (contained_iff store b.storageKey).mpr ⟨fun hbeside => ?_, fun hroot => ?_⟩
    · exact AbsPath.not_within_of_beside hbeside hwithin
    · rw [hpath] at hroot
      simp at hroot
  · intro b' hb' hne op op' f hf hf'
    obtain ⟨x, hx⟩ := touched_beneath hpath hf
    obtain ⟨y, hy⟩ := touched_beneath (hresolve b' hb') hf'
    rw [hx] at hy
    have hid : b.id.toList = b'.id.toList := by
      have hlists := List.append_cancel_left hy
      simp only [List.cons.injEq] at hlists
      exact hlists.1
    exact hne (Table.eq_of_mem_of_key hrun.valid.ids hb' hb (String.toList_inj.mp hid.symm))

end Files

namespace Demo

/-- Lowering keeps a slash or a dot at the end. -/
lemma lower_last {s : String} {c : Char} (hc : c = '/' ∨ c = '.')
    (h : s.toList.getLast? = some c) : (depotSettings.lower s).toList.getLast? = some c := by
  show (String.ofList (s.toList.map Char.toLower)).toList.getLast? = some c
  rw [String.toList_ofList, List.getLast?_map, h]
  rcases hc with rfl | rfl
  · decide
  · decide

/-- The example spells as the store expects. -/
lemma spelled : Spelled named depotSettings where
  ids n := by
    have hlength : (named.uuid n).toList.length = n + 1 := by
      show (String.ofList (List.replicate (n + 1) 'u')).toList.length = n + 1
      simp
    refine ⟨⟨fun h => ?_, fun h => ?_, fun h => ?_⟩, named_plain n⟩
    · rw [h] at hlength
      cases hlength
    · exact absurd (named_mem (h ▸ List.mem_singleton_self '.')) (by decide)
    · exact absurd (named_mem (h ▸ List.mem_cons_self)) (by decide)
  lowerEmpty := rfl
  lowerLast _ _ := lower_last

end Demo

/-- The file of the build below `/srv/store`. -/
theorem stored_beneath_upload : ∃ b ∈ Demo.uploaded.builds, ∃ p,
    Demo.store.path b.storageKey = .ok p ∧
      p.names = Demo.store.root.names ++ [b.id.toList, b.filename.toList] := by
  obtain ⟨b, hb, -⟩ : ∃ b ∈ Demo.uploaded.builds, b.id = "u" := by decide +kernel
  unfold Demo.uploaded at hb ⊢
  exact ⟨b, hb, (stored_beneath Demo.spelled Demo.depot_initial Demo.start.consistent
    [Demo.upload] Demo.store hb).1⟩

end OpenVCenter
