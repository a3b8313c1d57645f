import OpenVCenter.Rbac

set_option relaxedAutoImplicit false
set_option autoImplicit false

/-!
# The list of tasks

`GET /tasks` of `api/routes/tasks.py` limits the rows that match in the query, and leaves out those
that the caller does not see afterwards.

## Main definitions

* `OpenVCenter.matchingTasks` — the rows that match the filters, the newest first.
* `OpenVCenter.Newest` — the newest of some tasks, up to a limit.

## Main results

* `OpenVCenter.listTasks_newest_iff` — the lists that have the newest tasks of the caller.
-/

namespace OpenVCenter

/-! ## The newest of a list -/

/-- **The newest of `tasks`**, `limit` of them or all when there are fewer, the newest first. -/
structure Newest (tasks : List Task) (limit : ℕ) (out : List Task) : Prop where
  among : out.Subperm tasks
  length : out.length = min limit tasks.length
  ordered : out.Pairwise fun a b => b.createdAt ≤ a.createdAt
  newest : ∀ t ∈ tasks, t ∉ out → ∀ u ∈ out, t.createdAt ≤ u.createdAt

section Window

variable {rows tasks : List Task} {visible : Task → Bool} {limit : ℕ}

/-- **The visible rows of a window** are the newest of the visible rows exactly when the window has
no other rows, or when no visible row is outside.

**Proof sketch.** Split the visible rows into those inside the window and those outside. If one is
outside, the window is full, so its visible rows are as many as asked for only if all of its rows
are visible. Conversely the rows inside come before those outside in the order of the list. -/
theorem newest_window_iff (hrows : rows.Pairwise fun a b => b.createdAt ≤ a.createdAt)
    (htasks : tasks.Perm (rows.filter visible)) :
    Newest tasks limit ((rows.take limit).filter visible) ↔
      (∀ t ∈ rows.take limit, visible t = true) ∨ ∀ t ∈ rows.drop limit, visible t = false := by
  have hsplit : rows.filter visible =
      (rows.take limit).filter visible ++ (rows.drop limit).filter visible := by
    rw [← List.filter_append, List.take_append_drop]
  have hcount : tasks.length =
      ((rows.take limit).filter visible).length + ((rows.drop limit).filter visible).length := by
    rw [htasks.length_eq, hsplit, List.length_append]
  constructor
  · intro h
    by_cases hout : ∀ t ∈ rows.drop limit, visible t = false
    · exact Or.inr hout
    · -- a visible row outside: the window is full
      left
      push Not at hout
      obtain ⟨t, ht, hvisible⟩ := hout
      have hleft : 0 < ((rows.drop limit).filter visible).length :=
        List.length_pos_of_mem (List.mem_filter.mpr ⟨ht, by simpa using hvisible⟩)
      have hfull : (rows.take limit).length = limit := by
        have := List.length_pos_of_mem ht
        rw [List.length_drop] at this
        rw [List.length_take]
        omega
      have hle := List.length_filter_le visible (rows.take limit)
      have hlength := h.length
      rw [hcount] at hlength
      have hall : ((rows.take limit).filter visible).length = (rows.take limit).length := by omega
      exact List.filter_eq_self.mp (List.filter_sublist.eq_of_length hall)
  · intro h
    refine ⟨?_, ?_, (hrows.sublist (List.take_sublist _ _)).filter _, ?_⟩
    · refine List.Sublist.subperm ?_ |>.trans htasks.symm.subperm
      exact (List.take_sublist limit rows).filter visible
    · rcases h with hall | hnone
      · have hself := List.filter_eq_self.mpr hall
        rw [hcount, hself, List.length_take]
        have hdrop := List.length_filter_le visible (rows.drop limit)
        rw [List.length_drop] at hdrop
        omega
      · have hempty : (rows.drop limit).filter visible = [] :=
          List.filter_eq_nil_iff.mpr fun t ht => by rw [hnone t ht]; decide
        have hle := List.length_filter_le visible (rows.take limit)
        rw [List.length_take] at hle
        rw [hcount, hempty, List.length_nil]
        omega
    · intro t ht hnot u hu
      have hrow := htasks.subset ht
      rw [hsplit, List.mem_append, or_iff_right hnot] at hrow
      have hcut : (rows.take limit ++ rows.drop limit).Pairwise
          fun a b => b.createdAt ≤ a.createdAt := by rwa [List.take_append_drop]
      exact (List.pairwise_append.mp hcut).2.2 u (List.mem_of_mem_filter hu) t
        (List.mem_of_mem_filter hrow)

end Window

/-! ## The route -/

section Route

variable {db : Db} {scope : VisibleScope} {vmId hostId status : Option String} {limit : ℕ}

/-- The task matches the filters. -/
def taskMatches (vmId hostId status : Option String) (task : Task) : Bool :=
  (vmId.isNone || decide (some task.targetId = vmId)) &&
    (hostId.isNone || decide (some task.hostId = hostId)) &&
    (status.isNone || decide (some task.status.name = status))

/-- The tasks that match the filters, the newest first. -/
def matchingTasks (db : Db) (vmId hostId status : Option String) : List Task :=
  (db.tasks.filter (taskMatches vmId hostId status)).mergeSort
    fun a b => decide (b.createdAt ≤ a.createdAt)

/-- The caller sees the task. -/
def seesTask (db : Db) (scope : VisibleScope) (task : Task) : Bool :=
  scope.all || taskVisible db scope task

/-- The limit goes before what the caller sees. -/
lemma listTasks_eq : listTasks db scope vmId hostId status limit =
    ((matchingTasks db vmId hostId status).take limit).filter (seesTask db scope) := by
  unfold listTasks seesTask
  dsimp only
  rcases hall : scope.all
  · simp only [Bool.false_eq_true, if_false, Bool.false_or]
    rfl
  · simp only [if_true, Bool.true_or, List.filter_true]
    rfl

/-- **The newest tasks of the caller** are listed exactly when every one of the `limit` newest that
match is visible, or no older one is. -/
theorem listTasks_newest_iff (db : Db) (scope : VisibleScope) (vmId hostId status : Option String)
    (limit : ℕ) :
    Newest (db.tasks.filter fun t => taskMatches vmId hostId status t && seesTask db scope t) limit
        (listTasks db scope vmId hostId status limit) ↔
      (∀ t ∈ (matchingTasks db vmId hostId status).take limit, seesTask db scope t = true) ∨
        ∀ t ∈ (matchingTasks db vmId hostId status).drop limit, seesTask db scope t = false := by
  rw [listTasks_eq]
  refine newest_window_iff ?_ ?_
  · have hsorted : (matchingTasks db vmId hostId status).Pairwise
        fun a b => decide (b.createdAt ≤ a.createdAt) = true :=
      List.pairwise_mergeSort
        (fun a b c hab hbc =>
          decide_eq_true ((of_decide_eq_true hbc).trans (of_decide_eq_true hab)))
        (fun a b => by simpa using le_total b.createdAt a.createdAt) _
    exact hsorted.imp of_decide_eq_true
  · unfold matchingTasks
    refine List.Perm.trans ?_ ((List.mergeSort_perm _ _).symm.filter _)
    rw [List.filter_filter]
    refine List.Perm.of_eq (List.filter_congr fun t _ => Bool.and_comm _ _)

end Route

namespace Demo

/-- A newer task, of another host. -/
def othersTask : Task :=
  { folderTask with id := "u", targetId := "w", hostId := "other", createdAt := 1 }

/-- The tasks of two hosts. -/
def twoHosts : Db where
  hosts := [host, { id := "other", shortId := "o", name := "other" }]
  tasks := [othersTask, folderTask]

end Demo

/-- The newest task is of a host the caller does not see, and the list has room for one. -/
theorem listTasks_newest_counterexample :
    ¬ ∀ (db : Db) (scope : VisibleScope) (vmId hostId status : Option String) (limit : ℕ),
      db.Consistent → 1 ≤ limit → limit ≤ 200 →
        Newest (db.tasks.filter fun t => taskMatches vmId hostId status t && seesTask db scope t)
          limit (listTasks db scope vmId hostId status limit) := by
  intro h
  have hnewest := h Demo.twoHosts { hostIds := ["h"] } none none none 1 (by decide +kernel)
    (by decide) (by decide)
  have hmatching : matchingTasks Demo.twoHosts none none none = Demo.twoHosts.tasks :=
    List.mergeSort_of_pairwise (by decide +kernel)
  have hlisted : listTasks Demo.twoHosts { hostIds := ["h"] } none none none 1 = [] := by
    rw [listTasks_eq, hmatching]
    rfl
  have hlength := hnewest.length
  rw [hlisted] at hlength
  exact absurd hlength (by decide +kernel)

end OpenVCenter
