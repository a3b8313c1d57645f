import OpenVCenter.BinaryStore
import OpenVCenter.Foundations.Office

set_option relaxedAutoImplicit false
set_option autoImplicit false

/-!
# The active agent binary

An upgrade that names no build is of the active build of the host's hypervisor. Over a run of
requests, any of which may fail at any step, that is the build which was activated last by a request
that was answered, unless one that was answered has deactivated it since.

## Main definitions

* `OpenVCenter.Depot.offices` — the active build of each hypervisor.
* `OpenVCenter.Depot.election` — what a request does to them.

## Main results

* `OpenVCenter.offices_step` — the catalogue refines one office for each hypervisor.
* `OpenVCenter.upgrade_binary_iff` — **what an upgrade is of**.
-/

namespace OpenVCenter

open Effect

variable {env : Env} {cfg : DepotSettings}

namespace Depot

/-- The active build of each hypervisor. -/
def offices (d : Depot) : Office.State String String := fun hypervisor =>
  (d.builds.find? fun b => decide (b.hypervisor = hypervisor) && b.isActive).map (·.id)

variable (env cfg)

/-- What a request does to the active builds: those that are answered elect the build they activate,
and one that deactivates a build makes it resign. -/
def election (d : Depot) : DepotRequest → Office.Event String String
  | .upload faults put isAdmin user form =>
    match (uploadBuild env cfg faults put isAdmin user form d).1 with
    | .ok b => if form.makeActive then .elect b.hypervisor b.id else .skip
    | .error _ => .skip
  | .update faults isAdmin user binaryId body =>
    match (updateBuild env cfg faults isAdmin user binaryId body d).1, body.isActive with
    | .ok b, some (some true) => .elect b.hypervisor b.id
    | .ok b, some (some false) => .resign b.hypervisor b.id
    | _, _ => .skip
  | .delete .. => .skip
  | .system _ => .skip

/-- What the requests of a run do to them. -/
abbrev elections : Depot → List DepotRequest → List (Office.Event String String) :=
  Machine.trace (step env cfg) (election env cfg)

end Depot

/-! ## Active rows -/

/-- A row of the hypervisor is active. -/
def ActiveAt (hypervisor id : String) (builds : List AgentBuild) : Prop :=
  ∃ b ∈ builds, b.isActive = true ∧ b.hypervisor = hypervisor ∧ b.id = id

section Active

variable {d t : Depot} {builds : List AgentBuild} {b binary before : AgentBuild}
  {hypervisor id : String}

/-- Active builds of a hypervisor are one build. -/
lemma active_unique (h : TableValid builds) {x y : AgentBuild} (hx : x ∈ builds) (hy : y ∈ builds)
    (hxactive : x.isActive = true) (hyactive : y.isActive = true)
    (hsame : x.hypervisor = y.hypervisor) : x = y := by
  have hid := h.active x (List.mem_filter.mpr ⟨hx, hxactive⟩) y
    (List.mem_filter.mpr ⟨hy, hyactive⟩) hsame
  exact Table.eq_of_mem_of_key h.ids hx hy hid

/-- The office of a hypervisor is held by its active build. -/
lemma offices_eq_some (h : TableValid d.builds) :
    d.offices hypervisor = some id ↔ ActiveAt hypervisor id d.builds := by
  unfold Depot.offices
  rw [Option.map_eq_some_iff]
  constructor
  · rintro ⟨b, hfound, hid⟩
    have htest := List.find?_some hfound
    simp only [Bool.and_eq_true, decide_eq_true_eq] at htest
    exact ⟨b, List.mem_of_find?_eq_some hfound, htest.2, htest.1, hid⟩
  · rintro ⟨b, hb, hactive, hhyp, hid⟩
    rcases hfound : d.builds.find? fun b => decide (b.hypervisor = hypervisor) && b.isActive
      with _ | x
    · have hnone := List.find?_eq_none.mp hfound b hb
      simp [hactive, hhyp] at hnone
    · have htest := List.find?_some hfound
      simp only [Bool.and_eq_true, decide_eq_true_eq] at htest
      obtain rfl := active_unique h hb (List.mem_of_find?_eq_some hfound) hactive htest.2
        (hhyp.trans htest.1.symm)
      exact ⟨b, hfound, hid⟩

/-- Once a build is activated. -/
lemma activeAt_activated (hn : (builds.map (·.id)).Nodup) (hb : before ∈ builds)
    (hid : binary.id = before.id) (hhyp : binary.hypervisor = before.hypervisor) :
    ActiveAt hypervisor id (activated binary builds) ↔
      binary.hypervisor = hypervisor ∧ binary.id = id ∨
        ActiveAt hypervisor id builds ∧ binary.hypervisor ≠ hypervisor := by
  have hrow : ∀ x ∈ builds, x.id = binary.id → x.hypervisor = binary.hypervisor := by
    intro x hx hkey
    rw [Table.eq_of_mem_of_key hn hx hb (hkey.trans hid), hhyp]
  constructor
  · rintro ⟨x, hx, hactive, hxhyp, hxid⟩
    obtain ⟨y, hy, rfl⟩ := List.mem_map.mp hx
    split_ifs at hactive hxhyp hxid with hkey hsame
    · exact Or.inl ⟨hxhyp, hxid⟩
    · cases hactive
    · refine Or.inr ⟨⟨y, hy, hactive, hxhyp, hxid⟩, fun heq => hsame ?_⟩
      exact hxhyp.trans heq.symm
  · rintro (⟨rfl, rfl⟩ | ⟨⟨y, hy, hactive, rfl, rfl⟩, hne⟩)
    · refine ⟨binary.promoted, List.mem_map.mpr ⟨before, hb, if_pos hid.symm⟩, rfl, rfl, rfl⟩
    · have hkey : y.id ≠ binary.id := fun heq => hne (hrow y hy heq).symm
      refine ⟨y, List.mem_map.mpr ⟨y, hy, ?_⟩, hactive, rfl, rfl⟩
      rw [if_neg hkey, if_neg fun heq => hne heq.symm]

/-- Once a build is deactivated. -/
lemma activeAt_demoted (hn : (builds.map (·.id)).Nodup) (hb : before ∈ builds)
    (hid : binary.id = before.id) (hhyp : binary.hypervisor = before.hypervisor) :
    ActiveAt hypervisor id (Table.store (·.id) binary.demoted builds) ↔
      ActiveAt hypervisor id builds ∧ ¬ (binary.hypervisor = hypervisor ∧ binary.id = id) := by
  have hkey : binary.demoted.id = binary.id := rfl
  constructor
  · rintro ⟨x, hx, hactive, rfl, rfl⟩
    rcases Table.mem_store.mp hx with ⟨hx, hne⟩ | ⟨rfl, -⟩
    · exact ⟨⟨x, hx, hactive, rfl, rfl⟩, fun h => hne (hkey.trans h.2).symm⟩
    · cases hactive
  · rintro ⟨⟨x, hx, hactive, rfl, rfl⟩, hother⟩
    refine ⟨x, Table.mem_store.mpr (Or.inl ⟨hx, fun heq => hother ?_⟩), hactive, rfl, rfl⟩
    have hsame : x.id = binary.id := heq
    rw [Table.eq_of_mem_of_key hn hx hb (hsame.trans hid)]
    exact ⟨hhyp, hid⟩

/-- A row is written over by one that says the same of its activity. -/
lemma activeAt_store (hn : (builds.map (·.id)).Nodup) (hb : before ∈ builds)
    (hid : binary.id = before.id) (hhyp : binary.hypervisor = before.hypervisor)
    (hsame : binary.isActive = before.isActive) :
    ActiveAt hypervisor id (Table.store (·.id) binary builds) ↔
      ActiveAt hypervisor id builds := by
  constructor
  · rintro ⟨x, hx, hactive, rfl, rfl⟩
    rcases Table.mem_store.mp hx with ⟨hx, -⟩ | ⟨rfl, -⟩
    · exact ⟨x, hx, hactive, rfl, rfl⟩
    · exact ⟨before, hb, hsame ▸ hactive, hhyp.symm, hid.symm⟩
  · rintro ⟨x, hx, hactive, rfl, rfl⟩
    by_cases hkey : x.id = binary.id
    · obtain rfl := Table.eq_of_mem_of_key hn hx hb (hkey.trans hid)
      exact ⟨binary, Table.mem_store.mpr (Or.inr ⟨rfl, x, hx, hkey⟩), hsame.trans hactive, hhyp,
        hid⟩
    · exact ⟨x, Table.mem_store.mpr (Or.inl ⟨hx, hkey⟩), hactive, rfl, rfl⟩

/-- A build that is not active is added, or goes. -/
lemma activeAt_append (h : binary.isActive = false) :
    ActiveAt hypervisor id (builds ++ [binary]) ↔ ActiveAt hypervisor id builds := by
  unfold ActiveAt
  simp [h]

/-- The removal of a build that is not active changes no office. -/
lemma activeAt_deleteWhere (hn : (builds.map (·.id)).Nodup) (hb : before ∈ builds)
    (h : before.isActive = false) :
    ActiveAt hypervisor id (Table.deleteWhere (fun b => decide (b.id = before.id)) builds) ↔
      ActiveAt hypervisor id builds := by
  constructor
  · rintro ⟨x, hx, hrest⟩
    exact ⟨x, (Table.mem_deleteWhere.mp hx).1, hrest⟩
  · rintro ⟨x, hx, hactive, hrest⟩
    refine ⟨x, Table.mem_deleteWhere.mpr ⟨hx, decide_eq_false fun hkey => ?_⟩, hactive, hrest⟩
    obtain rfl := Table.eq_of_mem_of_key hn hx hb hkey
    rw [h] at hactive
    cases hactive

end Active

/-! ## The refinement -/

section Refinement

variable {d : Depot} {rs : List DepotRequest} {b : AgentBuild} {hypervisor : String}

/-- An election keeps a holder exactly if it is theirs. -/
lemma keeps_elect {hyp id x : String} :
    (Office.Event.elect hyp id).Keeps hypervisor x ↔ (hyp = hypervisor → id = x) := by
  simp [Office.Event.Keeps]

/-- A resignation keeps every other holder. -/
lemma keeps_resign {hyp id x : String} :
    (Office.Event.resign hyp id).Keeps hypervisor x ↔ ¬ (hyp = hypervisor ∧ id = x) := by
  simp [Office.Event.Keeps]

/-- A request that elects nobody keeps each. -/
lemma keeps_skip {x : String} :
    (Office.Event.skip : Office.Event String String).Keeps hypervisor x := by
  simp [Office.Event.Keeps]

/-- The rows after a request say of one build what an event of its office says. -/
def FollowsOffice (hypervisor id : String) (builds builds' : List AgentBuild)
    (e : Office.Event String String) : Prop :=
  ActiveAt hypervisor id builds' ↔
    e = .elect hypervisor id ∨ ActiveAt hypervisor id builds ∧ e.Keeps hypervisor id

section FollowsOffice

variable {id : String} {builds builds' : List AgentBuild} {binary : AgentBuild}

/-- A request that is not answered, or changes no activity. -/
lemma followsOffice_skip (h : ActiveAt hypervisor id builds' ↔ ActiveAt hypervisor id builds) :
    FollowsOffice hypervisor id builds builds' .skip := by
  unfold FollowsOffice
  rw [h]
  simp [keeps_skip]

/-- A request that is rolled back. -/
lemma followsOffice_rolledBack (h : builds' = builds) :
    FollowsOffice hypervisor id builds builds' .skip :=
  followsOffice_skip (iff_of_eq (congrArg _ h))

/-- A request that activates a build. -/
lemma followsOffice_elect (h : ActiveAt hypervisor id builds' ↔
    binary.hypervisor = hypervisor ∧ binary.id = id ∨
      ActiveAt hypervisor id builds ∧ binary.hypervisor ≠ hypervisor) :
    FollowsOffice hypervisor id builds builds' (.elect binary.hypervisor binary.id) := by
  unfold FollowsOffice
  rw [h, keeps_elect, Office.Event.elect.injEq]
  tauto

/-- A request that deactivates a build. -/
lemma followsOffice_resign (h : ActiveAt hypervisor id builds' ↔
    ActiveAt hypervisor id builds ∧ ¬ (binary.hypervisor = hypervisor ∧ binary.id = id)) :
    FollowsOffice hypervisor id builds builds' (.resign binary.hypervisor binary.id) := by
  unfold FollowsOffice
  rw [h, keeps_resign]
  simp

end FollowsOffice

/-- A deletion takes no active build. -/
lemma delete_followsOffice (hd : d.Sound env) (faults : Faults) (answer : Answer Failure)
    (isAdmin : Bool) (user : User) (binaryId id : String) :
    FollowsOffice hypervisor id d.builds
      (deleteBuild env faults answer isAdmin user binaryId d).2.builds .skip := by
  obtain ⟨-, ⟨-, -, hrolled, -⟩ | ⟨binary, u, hstage, -, ⟨-, hrolled⟩ | ⟨-, -, hbuilds⟩⟩⟩ :=
    @deleteBuild_spec env faults answer isAdmin user binaryId d
  · exact followsOffice_rolledBack hrolled.builds
  · exact followsOffice_rolledBack hrolled.builds
  · obtain ⟨hfound, hinactive, -⟩ := stageDelete_eq_ok hstage
    obtain ⟨hin, -⟩ := (Table.lookup_eq_some hd.valid.ids).mp hfound
    refine followsOffice_skip ?_
    rw [hbuilds]
    exact activeAt_deleteWhere hd.valid.ids hin hinactive

/-- The row of an upload is not active until it is made so. -/
lemma upload_followsOffice (faults : UploadFaults) (put : Answer Failure) (isAdmin : Bool)
    (user : User) (form : UploadForm) (id : String) :
    FollowsOffice hypervisor id d.builds
      (uploadBuild env cfg faults put isAdmin user form d).2.builds
      (Depot.election env cfg d (.upload faults put isAdmin user form)) := by
  unfold Depot.election
  dsimp only
  rcases @uploadBuild_spec env cfg faults put isAdmin user form d with
    ⟨-, -, ⟨e, hraise⟩, hrolled, -⟩ |
      ⟨binary, bytes, u, hstage, -, -, ⟨⟨e, hraise⟩, hrolled⟩ | ⟨hanswer, -, -, hbuilds⟩⟩
  · rw [hraise]
    exact followsOffice_rolledBack hrolled.builds
  · rw [hraise]
    exact followsOffice_rolledBack hrolled.builds
  · obtain ⟨version, received, -, hbinary, -, hstate, hvalid, -⟩ := stageUpload_eq_ok hstage
    have hoff : binary.isActive = false := by
      rw [hbinary]
      rfl
    have hin : binary ∈ d.builds ++ [binary] := List.mem_append_right _ List.mem_cons_self
    have hkeys : ((d.builds ++ [binary]).map (·.id)).Nodup := by
      have hids := hvalid.ids
      rw [hstate] at hids
      simpa using hids
    rw [hanswer, hbuilds]
    cases hmake : form.makeActive with
    | true =>
      refine @followsOffice_elect hypervisor id _ _ binary.promoted ?_
      rw [if_pos rfl, activeAt_activated hkeys hin rfl rfl, activeAt_append hoff]
      rfl
    | false =>
      refine followsOffice_skip ?_
      rw [if_neg Bool.false_ne_true]
      exact activeAt_append hoff

/-- An update says in its body whether the build is to be active. -/
lemma update_followsOffice (hd : d.Sound env) (faults : Faults) (isAdmin : Bool) (user : User)
    (binaryId : String) (body : BuildPatch) (id : String) :
    FollowsOffice hypervisor id d.builds
      (updateBuild env cfg faults isAdmin user binaryId body d).2.builds
      (Depot.election env cfg d (.update faults isAdmin user binaryId body)) := by
  unfold Depot.election
  dsimp only
  obtain ⟨-, -, ⟨⟨e, hraise⟩, hrolled⟩ | ⟨before, b, hfound, hanswer, hid, hhyp, -, hbuilds⟩⟩ :=
    @updateBuild_spec env cfg d faults isAdmin user binaryId body hd.valid
  · rw [hraise]
    exact followsOffice_rolledBack hrolled.builds
  · obtain ⟨hin, -⟩ := (Table.lookup_eq_some hd.valid.ids).mp hfound
    have hnoted := noted_same body before
    have hnid : (body.noted before).id = before.id := congrArg AgentBinary.id hnoted
    have hnhyp : (body.noted before).hypervisor = before.hypervisor :=
      congrArg AgentBinary.hypervisor hnoted
    have hstored : ActiveAt hypervisor id (Table.store (·.id) (body.noted before) d.builds) ↔
        ActiveAt hypervisor id d.builds :=
      activeAt_store hd.valid.ids hin hnid hnhyp (congrArg AgentBinary.isActive hnoted)
    rw [hanswer, hbuilds]
    unfold updatedBuilds
    rcases body.isActive with _ | _ | _ | _
    · exact followsOffice_skip hstored
    · exact followsOffice_skip hstored
    · refine followsOffice_resign ?_
      dsimp only
      rw [activeAt_demoted hd.valid.ids hin hnid hnhyp, hid, hhyp, hnid, hnhyp]
    · refine followsOffice_elect ?_
      dsimp only
      rw [activeAt_activated hd.valid.ids hin hnid hnhyp, hid, hhyp, hnid, hnhyp]

/-- **The catalogue refines one office for each hypervisor.** -/
theorem offices_step (hd : d.Sound env) (r : DepotRequest) :
    (Depot.step env cfg d r).offices = Office.step d.offices (Depot.election env cfg d r) := by
  obtain ⟨-, hsound, -⟩ := @relabeled_step env cfg d hd r
  funext hypervisor
  refine Option.ext fun id => ?_
  rw [Office.step_eq_some_iff, offices_eq_some hsound.valid, offices_eq_some hd.valid]
  cases r with
  | system e => exact followsOffice_skip Iff.rfl
  | delete faults answer isAdmin user binaryId =>
    exact delete_followsOffice hd faults answer isAdmin user binaryId id
  | upload faults put isAdmin user form =>
    exact upload_followsOffice faults put isAdmin user form id
  | update faults isAdmin user binaryId body =>
    exact update_followsOffice hd faults isAdmin user binaryId body id

/-- The offices after a run of the depot are those of its elections. -/
lemma offices_run (hd : d.Sound env) (rs : List DepotRequest) :
    (Depot.run env cfg d rs).offices = Office.run d.offices (Depot.elections env cfg d rs) :=
  Machine.view_run (I := fun d : Depot => d.Sound env) (fun _ r h => (relabeled_step h r).2.1)
    (fun _ r h => offices_step h r) hd

/-- The query for the active build finds at most one. -/
lemma activeAgentBinary_cases (h : TableValid d.builds) (hypervisor : String) :
    (activeAgentBinary d.builds hypervisor = .ok none ∧
        ∀ b ∈ d.builds, b.hypervisor = hypervisor → b.isActive = false) ∨
      ∃ b ∈ d.builds, b.hypervisor = hypervisor ∧ b.isActive = true ∧
        activeAgentBinary d.builds hypervisor = .ok (some b) := by
  have hnodup : (d.builds.filter fun b => decide (b.hypervisor = hypervisor) && b.isActive).Nodup :=
    (List.Nodup.of_map _ h.ids).filter _
  have hmem : ∀ x ∈ d.builds.filter fun b => decide (b.hypervisor = hypervisor) && b.isActive,
      x ∈ d.builds ∧ x.hypervisor = hypervisor ∧ x.isActive = true := by
    intro x hx
    simpa using hx
  unfold activeAgentBinary
  rcases hrows : d.builds.filter fun b => decide (b.hypervisor = hypervisor) && b.isActive
    with _ | ⟨x, _ | ⟨y, rest⟩⟩
  · rw [hrows]
    refine Or.inl ⟨rfl, fun b hb hhyp => ?_⟩
    have hnone := List.filter_eq_nil_iff.mp hrows b hb
    simpa [hhyp] using hnone
  · obtain ⟨hx, hhyp, hactive⟩ := hmem x (by simp [hrows])
    rw [hrows]
    exact Or.inr ⟨x, hx, hhyp, hactive, rfl⟩
  · -- two rows would be one
    obtain ⟨hx, hxhyp, hxactive⟩ := hmem x (by simp [hrows])
    obtain ⟨hy, hyhyp, hyactive⟩ := hmem y (by simp [hrows])
    obtain rfl := active_unique h hx hy hxactive hyactive (hxhyp.trans hyhyp.symm)
    rw [hrows] at hnodup
    simp at hnodup

/-- An upgrade that names no build is of the active one. -/
lemma resolveUpgradeBinary_eq_ok (h : TableValid d.builds) :
    resolveUpgradeBinary d hypervisor none = .ok b ↔ b ∈ d.builds ∧ b.hypervisor = hypervisor ∧
      d.offices hypervisor = some b.id := by
  rw [offices_eq_some h]
  unfold resolveUpgradeBinary
  rcases activeAgentBinary_cases h hypervisor with ⟨hnone, hoff⟩ | ⟨x, hx, hhyp, hactive, hfound⟩
  · rw [hnone]
    constructor
    · intro hok
      cases hok
    · rintro ⟨-, -, y, hy, hyactive, hyhyp, -⟩
      rw [hoff y hy hyhyp] at hyactive
      cases hyactive
  · rw [hfound]
    show (if x.hypervisor ≠ hypervisor then _ else Except.ok x) = Except.ok b ↔ _
    rw [if_neg (not_not.mpr hhyp), Except.ok.injEq]
    constructor
    · rintro rfl
      exact ⟨hx, hhyp, x, hx, hactive, hhyp, rfl⟩
    · rintro ⟨hb, -, y, hy, hyactive, hyhyp, hyid⟩
      obtain rfl := active_unique h hx hy hactive hyactive (hhyp.trans hyhyp.symm)
      exact Table.eq_of_mem_of_key h.ids hx hb hyid

/-- **What an upgrade is of** that names no build: the build that was activated last by a request
that was answered, unless it has been deactivated since. The query never finds two. -/
theorem upgrade_binary_iff (h : d.Initial) (hc : d.world.db.Consistent) (rs : List DepotRequest)
    (hypervisor : String) :
    resolveUpgradeBinary (Depot.run env cfg d rs) hypervisor none ≠ .error .multipleResultsFound ∧
    ∀ b, resolveUpgradeBinary (Depot.run env cfg d rs) hypervisor none = .ok b ↔
      b ∈ (Depot.run env cfg d rs).builds ∧ b.hypervisor = hypervisor ∧
      ∃ pre r post, rs = pre ++ r :: post ∧
        Depot.election env cfg (Depot.run env cfg d pre) r = .elect hypervisor b.id ∧
        Office.Stays hypervisor b.id
          (Depot.elections env cfg (Depot.run env cfg d (pre ++ [r])) post) := by
  have hsound : d.Sound env := sound_initial h hc
  have hrun : (Depot.run env cfg d rs).Sound env := sound_run hsound rs
  have hvacant : d.offices = Office.vacant := by
    unfold Depot.offices
    rw [h.builds]
    rfl
  refine ⟨fun hmany => ?_, fun b => ?_⟩
  · unfold resolveUpgradeBinary at hmany
    rcases activeAgentBinary_cases hrun.valid hypervisor with ⟨hnone, -⟩ | ⟨x, -, hhyp, -, hfound⟩
    · rw [hnone] at hmany
      cases hmany
    · rw [hfound] at hmany
      have hmany : (if x.hypervisor ≠ hypervisor then
        Except.error (invalid ("Agent binary is for '" ++ x.hypervisor ++ "', host runs '" ++
          hypervisor ++ "'")) else Except.ok x) = Except.error Raised.multipleResultsFound := hmany
      rw [if_neg (not_not.mpr hhyp)] at hmany
      cases hmany
  · rw [resolveUpgradeBinary_eq_ok hrun.valid, offices_run hsound, hvacant, Office.run_eq_some_iff]
    refine and_congr_right fun _ => and_congr_right fun _ => ?_
    constructor
    · rintro ⟨before, after, hsplit, hstays⟩
      obtain ⟨pre, r, post, hrs, -, helect, rfl⟩ := Machine.trace_eq_append_cons.mp hsplit
      refine ⟨pre, r, post, hrs, helect.symm, ?_⟩
      rw [Depot.run, Machine.run_append]
      exact hstays
    · rintro ⟨pre, r, post, hrs, helect, hstays⟩
      rw [Depot.run, Machine.run_append] at hstays
      exact ⟨_, _, Machine.trace_eq_append_cons.mpr ⟨pre, r, post, hrs, rfl, helect.symm, rfl⟩,
        hstays⟩

end Refinement

namespace Demo

/-- The upload of a build that is to be active, whose commit fails. -/
def uploadUndone : DepotRequest :=
  .upload ⟨none, none, some (.raised .integrityError), ""⟩ .done true user {
    filename := some "ovc-agent.exe", contentType := none, content := mz, version := "1.3.0"
    hypervisor := "hyperv", notes := none, makeActive := true }

/-- A build is uploaded, a second one becomes active, one is refused by the store, the first one
becomes active, and an upload is rolled back. -/
def contest : List DepotRequest := [upload, uploadNext, uploadRefused, noted, uploadUndone]

/-- The depot after these requests. -/
@[irreducible] def contested : Depot := Depot.run named depotSettings depot contest

end Demo

/-- The build an upgrade gets after two activations, a refusal and a rollback. -/
theorem upgrade_binary_iff_contest : ∃ b,
    resolveUpgradeBinary Demo.contested "hyperv" none = .ok b ∧ b.version = "1.0.0" ∧
    ∃ pre r post, Demo.contest = pre ++ r :: post ∧
      Depot.election Demo.named Demo.depotSettings
        (Depot.run Demo.named Demo.depotSettings Demo.depot pre) r = .elect "hyperv" b.id ∧
      Office.Stays "hyperv" b.id (Depot.elections Demo.named Demo.depotSettings
        (Depot.run Demo.named Demo.depotSettings Demo.depot (pre ++ [r])) post) := by
  have hok : (resolveUpgradeBinary Demo.contested "hyperv" none).toOption.any
      (fun b => b.version = "1.0.0") = true := by decide +kernel
  rcases hb : resolveUpgradeBinary Demo.contested "hyperv" none with e | b
  · rw [hb] at hok
    cases hok
  · rw [hb] at hok
    unfold Demo.contested at hb
    obtain ⟨-, hall⟩ := @upgrade_binary_iff Demo.named Demo.depotSettings Demo.depot
      Demo.depot_initial Demo.start.consistent Demo.contest "hyperv"
    obtain ⟨-, -, helected⟩ := (hall b).mp hb
    exact ⟨b, rfl, of_decide_eq_true hok, helected⟩

end OpenVCenter
