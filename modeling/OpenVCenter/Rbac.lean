import Mathlib.Data.List.Sort
import OpenVCenter.Integrity
import OpenVCenter.System

set_option relaxedAutoImplicit false
set_option autoImplicit false

/-!
# What a caller sees

`services/rbac.py`, with the routes that list folders and tasks (`api/routes/folders.py`,
`api/routes/tasks.py`): the grants of a user are flattened into three sets of identifiers, and each
route consults some of them.

## Main definitions

* `OpenVCenter.VisibleScope`, `OpenVCenter.resolveScope` — the scope of a user.
* `OpenVCenter.listFolders`, `OpenVCenter.listTasks`, `OpenVCenter.getTask` — the routes.
* `OpenVCenter.ClosedScope` — everything below a grant is visible, and a visible folder is listed.

## Main results

* `OpenVCenter.closedScope_iff` — the folders for which the scope is closed.
* `OpenVCenter.shown_iff_polled_iff` — the tasks whose list entry and whose own route agree.
-/

namespace OpenVCenter

/-! ## Users and grants -/

/-- `SCOPE_LEVELS`. -/
inductive ScopeLevel where
  | global | cluster | host | folder
  deriving DecidableEq

/-- `models/rbac.py`, `ScopeGrant`. The column of `scopeId` holds a UUID, never an empty text. -/
structure ScopeGrant where
  userId : String
  level : ScopeLevel
  scopeId : Option String
  scopeId_ne : scopeId ≠ some ""

/-- `models/rbac.py`, `User`. -/
structure UserRow where
  id : String
  email : String
  displayName : Option String
  roles : Option String

/-- `s.split(sep)` at a character. -/
def splitChar (sep : Char) (s : String) : List String := (s.toList.splitOn sep).map String.ofList

/-- `user.roles.split(",") if user.roles else []`. -/
def UserRow.roleList (user : UserRow) : List String :=
  match nonEmpty user.roles with
  | some roles => splitChar ',' roles
  | none => []

/-! ## Scopes -/

/-- What a principal is allowed to see; the sets are lists of their elements. -/
structure VisibleScope where
  all : Bool := false
  clusterIds : List String := []
  hostIds : List String := []
  folderIds : List String := []

namespace VisibleScope

variable (scope : VisibleScope)

/-- `sees_cluster`. -/
def seesCluster (clusterId : Option String) : Bool :=
  scope.all || clusterId.any fun id => decide (id ∈ scope.clusterIds)

/-- `sees_host`. -/
def seesHost (hostId : String) : Bool := scope.all || decide (hostId ∈ scope.hostIds)

/-- `sees_folder`. -/
def seesFolder (folderId : Option String) : Bool :=
  scope.all || folderId.any fun id => decide (id ∈ scope.folderIds)

end VisibleScope

/-- The grants of one level: the identifiers it is for. -/
def grantsOf (grants : List ScopeGrant) (level : ScopeLevel) : List String :=
  grants.filterMap fun g => if g.level = level then nonEmpty g.scopeId else none

/-- `resolve_scope`: the admin role and a global grant see everything. -/
def resolveScope (adminRole : String) (db : Db) (grants : List ScopeGrant) (user : UserRow) :
    VisibleScope :=
  if adminRole ∈ user.roleList then { all := true }
  else
    let grants := grants.filter fun g => decide (g.userId = user.id)
    if grants.any fun g => decide (g.level = .global) then { all := true }
    else
      let clusterIds := grantsOf grants .cluster
      let hostIds := grantsOf grants .host ++
        (db.hosts.filter fun h => h.clusterId.any fun c => decide (c ∈ clusterIds)).map Host.id
      let folderIds := grantsOf grants .folder ++
        (db.folders.filter fun f => f.hostId.any fun h => decide (h ∈ hostIds)).map Folder.id
      { clusterIds, hostIds, folderIds }

/-- `vm_visible`. -/
def vmVisible (scope : VisibleScope) (vm : Vm) : Bool :=
  scope.all || scope.seesHost vm.hostId || scope.seesFolder vm.folderId

/-! ## Routes -/

/-- `_visible` of `api/routes/folders.py`. -/
def folderVisible (scope : VisibleScope) (folder : Folder) : Bool :=
  scope.all || (folder.clusterId.isSome && scope.seesCluster folder.clusterId) ||
    folder.hostId.any scope.seesHost

/-- `GET /folders`. The order of the folders is left open. -/
def listFolders (db : Db) (scope : VisibleScope) (hostId clusterId : Option String) :
    List Folder :=
  (db.folders.filter fun f =>
    (hostId.isNone || decide (f.hostId = hostId)) &&
    (clusterId.isNone || decide (f.clusterId = clusterId))).filter (folderVisible scope)

/-- The body of the loop of `list_tasks`. -/
def taskVisible (db : Db) (scope : VisibleScope) (task : Task) : Bool :=
  match task.targetType with
  | .host => scope.seesHost task.hostId
  | .vm => (db.vm task.targetId).any (vmVisible scope) || scope.seesHost task.hostId

/-- `GET /tasks`: the last `limit` tasks that match the filters, without those the caller does not
see. Tasks of one instant come in the order of the table. -/
def listTasks (db : Db) (scope : VisibleScope) (vmId hostId : Option String)
    (status : Option String) (limit : ℕ) : List Task :=
  let tasks := ((db.tasks.filter fun t =>
    (vmId.isNone || decide (some t.targetId = vmId)) &&
    (hostId.isNone || decide (some t.hostId = hostId)) &&
    (status.isNone || decide (some t.status.name = status))).mergeSort
      fun a b => decide (b.createdAt ≤ a.createdAt)).take limit
  if scope.all then tasks else tasks.filter (taskVisible db scope)

/-- `forbidden`. -/
def forbidden : Raised :=
  .apiError {
    code := "FORBIDDEN"
    message := "You do not have access to this resource"
    statusCode := 403 }

/-- `GET /tasks/{task_id}`. -/
def getTask (db : Db) (scope : VisibleScope) (taskId : String) : Except Raised Task :=
  match db.task taskId with
  | none => .error (notFound "Task")
  | some task =>
    if !scope.all && !scope.seesHost task.hostId then .error forbidden else .ok task

/-! ## Tasks -/

section Tasks

variable {db : Db} {scope : VisibleScope} {task : Task} {limit : ℕ}

/-- Without filters and under a limit that covers every task, the list has the tasks the caller
sees. -/
lemma mem_listTasks (hlimit : db.tasks.length ≤ limit) :
    task ∈ listTasks db scope none none none limit ↔
      task ∈ db.tasks ∧ (scope.all = true ∨ taskVisible db scope task = true) := by
  unfold listTasks
  simp only [Option.isNone_none, Bool.true_or, Bool.and_self, List.filter_true]
  rw [List.take_of_length_le (by simpa using hlimit)]
  split_ifs with hscope
  · simp [hscope]
  · simp [hscope, List.mem_filter]

/-- A task is polled by whoever sees its host. -/
lemma getTask_eq_ok (hc : db.Consistent) (ht : task ∈ db.tasks) :
    getTask db scope task.id = .ok task ↔ scope.all = true ∨ scope.seesHost task.hostId = true := by
  unfold getTask
  rw [hc.task_eq_some.mpr ⟨ht, rfl⟩]
  rcases hall : scope.all
  · rcases hhost : scope.seesHost task.hostId
    · simp [hhost]
    · simp [hhost]
  · simp

/-- **The list of tasks shows a task that its own route returns, and no other**, exactly when its
host is visible or its VM is not. -/
theorem shown_iff_polled_iff (hc : db.Consistent) (ht : task ∈ db.tasks)
    (hlimit : db.tasks.length ≤ limit) :
    (task ∈ listTasks db scope none none none limit ↔ getTask db scope task.id = .ok task) ↔
      (scope.seesHost task.hostId = true ∨ task.targetType = .host ∨
        ∀ vm ∈ db.vm task.targetId, vmVisible scope vm = false) := by
  rw [mem_listTasks hlimit, getTask_eq_ok hc ht]
  have hall : scope.all = true → scope.seesHost task.hostId = true := by
    intro hscope
    unfold VisibleScope.seesHost
    rw [hscope, Bool.true_or]
  by_cases hhost : scope.seesHost task.hostId = true
  · have hshown : taskVisible db scope task = true := by
      unfold taskVisible
      split <;> simp [hhost]
    simp [ht, hhost, hshown]
  · have hscope : ¬ scope.all = true := mt hall hhost
    simp only [ht, hscope, hhost, true_and, or_self]
    unfold taskVisible
    cases htype : task.targetType with
    | host => simp [hhost]
    | vm =>
      rcases hvm : db.vm task.targetId with _ | vm
      · simp [hhost]
      · simp [hhost]

end Tasks

/-- The task of a VM. -/
def Demo.folderTask : Task where
  id := "t"
  kind := .vm_start
  targetType := .vm
  targetId := "v"
  targetName := .str "vm"
  hostId := "h"
  requestedBy := "user@example.test"
  createdAt := 0

/-- A host with one folder, in which the VM of the task is. -/
def Demo.folderDb : Db where
  hosts := [host]
  folders := [{ id := "f", name := "folder", clusterId := none, hostId := some "h" }]
  vms := [{ id := "v", vmUuid := some "g", hostId := "h", folderId := some "f", name := .str "vm" }]
  tasks := [folderTask]

/-- A user without roles. -/
def Demo.folderUser : UserRow := ⟨"u", "user@example.test", none, none⟩

/-- The user is granted the folder. -/
def Demo.folderGrant : ScopeGrant := ⟨"u", .folder, some "f", by decide⟩

/-- The scope of the host. -/
def Demo.hostScope : VisibleScope := { hostIds := ["h"] }

/-- Whoever sees the host finds the task in the list and under its own route. -/
theorem shown_iff_polled_folder :
    Demo.folderTask ∈ listTasks Demo.folderDb Demo.hostScope none none none 50 ↔
      getTask Demo.folderDb Demo.hostScope "t" = .ok Demo.folderTask :=
  (shown_iff_polled_iff (by decide +kernel) (List.mem_singleton_self _) (by decide)).mpr
    (Or.inl (by decide))

/-- The list shows a task of a VM in a granted folder, and its own route refuses it. -/
theorem shown_iff_polled_counterexample :
    ¬ ∀ (adminRole : String) (db : Db) (grants : List ScopeGrant) (user : UserRow) (task : Task)
      (limit : ℕ), db.Consistent → task ∈ db.tasks → db.tasks.length ≤ limit →
      (task ∈ listTasks db (resolveScope adminRole db grants user) none none none limit ↔
        getTask db (resolveScope adminRole db grants user) task.id = .ok task) := by
  intro h
  have hc : Demo.folderDb.Consistent := by decide +kernel
  have hmem : Demo.folderTask ∈ Demo.folderDb.tasks := List.mem_singleton_self _
  have hiff := h "ADMINISTRATOR" Demo.folderDb [Demo.folderGrant] Demo.folderUser
    Demo.folderTask 50 hc hmem (by decide)
  rw [mem_listTasks (by decide), getTask_eq_ok hc hmem] at hiff
  have hshown : taskVisible Demo.folderDb (resolveScope "ADMINISTRATOR" Demo.folderDb
    [Demo.folderGrant] Demo.folderUser) Demo.folderTask = true := by decide +kernel
  have hpolled := hiff.mp ⟨hmem, Or.inr hshown⟩
  exact absurd hpolled (by decide +kernel)

/-! ## Folders -/

section Scope

variable {adminRole : String} {db : Db} {grants : List ScopeGrant} {user : UserRow}

/-- The user is granted `id` at a level. -/
def Granted (grants : List ScopeGrant) (user : UserRow) (level : ScopeLevel) (id : String) : Prop :=
  ∃ g ∈ grants, g.userId = user.id ∧ g.level = level ∧ g.scopeId = some id

/-- The user sees everything: an admin, or one with a global grant. -/
def SeesAll (adminRole : String) (grants : List ScopeGrant) (user : UserRow) : Prop :=
  adminRole ∈ user.roleList ∨ ∃ g ∈ grants, g.userId = user.id ∧ g.level = .global

/-- The host is granted, or in a granted cluster. -/
def ReachesHost (db : Db) (grants : List ScopeGrant) (user : UserRow) (hostId : String) : Prop :=
  Granted grants user .host hostId ∨
    ∃ host ∈ db.hosts, host.id = hostId ∧ ∃ c ∈ host.clusterId, Granted grants user .cluster c

/-- **The scope is downward closed** and has what was granted, and the folders it has are listed. -/
structure ClosedScope (db : Db) (grants : List ScopeGrant) (user : UserRow)
    (scope : VisibleScope) : Prop where
  global : ∀ g ∈ grants, g.userId = user.id → g.level = .global → scope.all = true
  cluster : ∀ c, Granted grants user .cluster c → scope.seesCluster (some c) = true
  clusterHosts : ∀ c, Granted grants user .cluster c → ∀ host ∈ db.hosts,
    host.clusterId = some c → scope.seesHost host.id = true
  clusterFolders : ∀ c, Granted grants user .cluster c → ∀ folder ∈ db.folders,
    folder.clusterId = some c → scope.seesFolder (some folder.id) = true
  host : ∀ h, Granted grants user .host h → scope.seesHost h = true
  hostFolders : ∀ h, scope.seesHost h = true → ∀ folder ∈ db.folders,
    folder.hostId = some h → scope.seesFolder (some folder.id) = true
  folder : ∀ f, Granted grants user .folder f → scope.seesFolder (some f) = true
  listed : ∀ folder ∈ db.folders, scope.seesFolder (some folder.id) = true →
    folder ∈ listFolders db scope none none

/-- Every folder of a granted cluster is visible through its host or a grant of its own, and every
granted folder is visible through its cluster or its host. -/
def FoldersReached (db : Db) (grants : List ScopeGrant) (user : UserRow) : Prop :=
  ∀ folder ∈ db.folders,
    ((∃ c ∈ folder.clusterId, Granted grants user .cluster c) →
      Granted grants user .folder folder.id ∨ ∃ h ∈ folder.hostId, ReachesHost db grants user h) ∧
    (Granted grants user .folder folder.id →
      (∃ c ∈ folder.clusterId, Granted grants user .cluster c) ∨
        ∃ h ∈ folder.hostId, ReachesHost db grants user h)

/-- A text that is given and not empty. -/
private lemma nonEmpty_eq_some {text : Option String} {s : String} :
    nonEmpty text = some s ↔ text = some s ∧ s ≠ "" := by
  rcases text with _ | t
  · simp [nonEmpty]
  · by_cases ht : t = ""
    · have hnone : nonEmpty (some t) = none := by simp [nonEmpty, ht]
      rw [hnone]
      simp only [reduceCtorEq, Option.some.injEq, false_iff]
      rintro ⟨rfl, hne⟩
      exact hne ht
    · have hsome : nonEmpty (some t) = some t := by simp [nonEmpty, String.isEmpty_iff, ht]
      rw [hsome, Option.some.injEq]
      exact ⟨fun hs => ⟨hs, hs ▸ ht⟩, And.left⟩

/-- The identifiers granted at a level. -/
lemma mem_grantsOf {level : ScopeLevel} {id : String} :
    id ∈ grantsOf (grants.filter fun g => decide (g.userId = user.id)) level ↔
      Granted grants user level id := by
  unfold grantsOf Granted
  simp only [List.mem_filterMap, List.mem_filter, decide_eq_true_eq]
  constructor
  · rintro ⟨g, ⟨hg, huser⟩, hid⟩
    split_ifs at hid with hlevel
    exact ⟨g, hg, huser, hlevel, (nonEmpty_eq_some.mp hid).1⟩
  · rintro ⟨g, hg, huser, hlevel, hid⟩
    have hne : id ≠ "" := fun h => g.scopeId_ne (by rw [hid, h])
    exact ⟨g, ⟨hg, huser⟩, by rw [if_pos hlevel]; exact nonEmpty_eq_some.mpr ⟨hid, hne⟩⟩

/-- The scope of a caller who sees everything. -/
lemma resolveScope_all (h : SeesAll adminRole grants user) :
    resolveScope adminRole db grants user = { all := true } := by
  unfold resolveScope
  by_cases hadmin : adminRole ∈ user.roleList
  · rw [if_pos hadmin]
  · rcases h with h | ⟨g, hg, huser, hlevel⟩
    · exact absurd h hadmin
    · have hglobal : (grants.filter fun g => decide (g.userId = user.id)).any
          (fun g => decide (g.level = .global)) = true :=
        List.any_eq_true.mpr ⟨g, by simp [hg, huser], by simp [hlevel]⟩
      simp only [hadmin, if_false, hglobal, if_true]

/-- The scope of any other caller.

**Proof sketch.** Neither the role nor a global grant is there, so the scope is built from the
grants of the user; each of its sets is read off the filter that computes it. -/
lemma resolveScope_sets (db : Db) (h : ¬ SeesAll adminRole grants user) :
    let scope := resolveScope adminRole db grants user
    scope.all = false ∧ (∀ c, c ∈ scope.clusterIds ↔ Granted grants user .cluster c) ∧
      (∀ h, h ∈ scope.hostIds ↔ ReachesHost db grants user h) ∧
      ∀ f, f ∈ scope.folderIds ↔ Granted grants user .folder f ∨
        ∃ folder ∈ db.folders, folder.id = f ∧
          ∃ h ∈ folder.hostId, ReachesHost db grants user h := by
  have hadmin : adminRole ∉ user.roleList := fun hmem => h (Or.inl hmem)
  have hglobal : ¬ (grants.filter fun g => decide (g.userId = user.id)).any
      (fun g => decide (g.level = .global)) = true := by
    intro hany
    obtain ⟨g, hg, hlevel⟩ := List.any_eq_true.mp hany
    obtain ⟨hg, huser⟩ := List.mem_filter.mp hg
    exact h (Or.inr ⟨g, hg, by simpa using huser, by simpa using hlevel⟩)
  have hhosts : ∀ id, (id ∈ grantsOf (grants.filter fun g => decide (g.userId = user.id)) .host ++
      (db.hosts.filter fun h => h.clusterId.any fun c => decide (c ∈
        grantsOf (grants.filter fun g => decide (g.userId = user.id)) .cluster)).map Host.id) ↔
      ReachesHost db grants user id := by
    intro id
    unfold ReachesHost
    simp only [List.mem_append, List.mem_map, List.mem_filter, Option.any_eq_true,
      decide_eq_true_eq, mem_grantsOf]
    constructor
    · rintro (hid | ⟨host, ⟨hhost, c, hc, hgrant⟩, hid⟩)
      · exact Or.inl hid
      · exact Or.inr ⟨host, hhost, hid, c, hc, hgrant⟩
    · rintro (hid | ⟨host, hhost, hid, c, hc, hgrant⟩)
      · exact Or.inl hid
      · exact Or.inr ⟨host, ⟨hhost, c, hc, hgrant⟩, hid⟩
  unfold resolveScope
  rw [if_neg hadmin]
  simp only [hglobal, Bool.false_eq_true, if_false]
  refine ⟨trivial, fun c => mem_grantsOf, hhosts, fun f => ?_⟩
  revert hhosts
  generalize (grantsOf _ .host ++ _ : List String) = hostIds
  intro hhosts
  simp only [List.mem_append, List.mem_map, List.mem_filter, Option.any_eq_true,
    decide_eq_true_eq, mem_grantsOf]
  constructor
  · rintro (hf | ⟨folder, ⟨hfolder, host, hhost, hmem⟩, hf⟩)
    · exact Or.inl hf
    · exact Or.inr ⟨folder, hfolder, hf, host, hhost, (hhosts host).mp hmem⟩
  · rintro (hf | ⟨folder, hfolder, hf, host, hhost, hmem⟩)
    · exact Or.inl hf
    · exact Or.inr ⟨folder, ⟨hfolder, host, hhost, (hhosts host).mpr hmem⟩, hf⟩

/-- The visibility helpers of a scope that does not see everything. -/
lemma resolveScope_sees (db : Db) (h : ¬ SeesAll adminRole grants user) :
    let scope := resolveScope adminRole db grants user
    (∀ c, scope.seesCluster (some c) = true ↔ Granted grants user .cluster c) ∧
      (∀ h, scope.seesHost h = true ↔ ReachesHost db grants user h) ∧
      ∀ f, scope.seesFolder (some f) = true ↔ Granted grants user .folder f ∨
        ∃ folder ∈ db.folders, folder.id = f ∧
          ∃ h ∈ folder.hostId, ReachesHost db grants user h := by
  intro scope
  obtain ⟨hall, hclusters, hhosts, hfolders⟩ := resolveScope_sets db h
  refine ⟨fun c => ?_, fun h => ?_, fun f => ?_⟩
  · rw [← hclusters]
    simp [VisibleScope.seesCluster, scope, hall]
  · rw [← hhosts]
    simp [VisibleScope.seesHost, scope, hall]
  · rw [← hfolders]
    simp [VisibleScope.seesFolder, scope, hall]

/-- What `GET /folders` lists. -/
lemma mem_listFolders {scope : VisibleScope} {folder : Folder} :
    folder ∈ listFolders db scope none none ↔
      folder ∈ db.folders ∧ folderVisible scope folder = true := by
  unfold listFolders
  simp [List.mem_filter]

/-- The folders a scope that does not see everything is shown. -/
lemma folderVisible_resolveScope (h : ¬ SeesAll adminRole grants user) (folder : Folder) :
    folderVisible (resolveScope adminRole db grants user) folder = true ↔
      (∃ c ∈ folder.clusterId, Granted grants user .cluster c) ∨
        ∃ h ∈ folder.hostId, ReachesHost db grants user h := by
  obtain ⟨hclusters, hhosts, -⟩ := resolveScope_sees db h
  have hall := (resolveScope_sets db h).1
  unfold folderVisible
  simp only [hall, Bool.false_or, Bool.or_eq_true, Bool.and_eq_true, Option.any_eq_true]
  refine or_congr ?_ (exists_congr fun host => and_congr_right fun _ => hhosts host)
  rcases folder.clusterId with _ | c
  · simp
  · simpa using hclusters c

/-- **The scope of a user is closed** exactly when the user sees everything, or the folders of
granted clusters and the granted folders are all reached by the other way too.

**Proof sketch.** A user who sees everything has a closed scope. For any other go through what the
scope derives: from a granted cluster its hosts, from a granted or derived host its folders. The
folders of a granted cluster are not derived, nor do granted folders bring what holds them, so these
are what has to be reached the other way. -/
theorem closedScope_iff (adminRole : String) (hc : db.Consistent) (grants : List ScopeGrant)
    (user : UserRow) :
    ClosedScope db grants user (resolveScope adminRole db grants user) ↔
      SeesAll adminRole grants user ∨ FoldersReached db grants user := by
  by_cases hsees : SeesAll adminRole grants user
  · rw [resolveScope_all hsees]
    refine iff_of_true ?_ (Or.inl hsees)
    exact ⟨fun _ _ _ _ => rfl, fun _ _ => rfl, fun _ _ _ _ _ => rfl, fun _ _ _ _ _ => rfl,
      fun _ _ => rfl, fun _ _ _ _ _ => rfl, fun _ _ => rfl,
      fun folder hfolder _ => mem_listFolders.mpr ⟨hfolder, rfl⟩⟩
  · obtain ⟨hclusters, hhosts, hfolders⟩ := resolveScope_sees db hsees
    have hshown := fun folder => @folderVisible_resolveScope _ db _ _ hsees folder
    rw [or_iff_right hsees]
    constructor
    · intro hclosed folder hfolder
      constructor
      · rintro ⟨c, hcluster, hgrant⟩
        have hseen := hclosed.clusterFolders c hgrant folder hfolder hcluster
        rcases (hfolders folder.id).mp hseen with hfolder' | ⟨other, hother, hid, hreach⟩
        · exact Or.inl hfolder'
        · have heq := List.inj_on_of_nodup_map hc.keyed.folderIds hother hfolder hid
          exact Or.inr (heq ▸ hreach)
      · intro hgrant
        have hlisted := hclosed.listed folder hfolder (hclosed.folder _ hgrant)
        exact (hshown folder).mp (mem_listFolders.mp hlisted).2
    · intro hreached
      have hhostFolders : ∀ h, ReachesHost db grants user h → ∀ folder ∈ db.folders,
          folder.hostId = some h →
          (resolveScope adminRole db grants user).seesFolder (some folder.id) = true :=
        fun h hreach folder hfolder hhost =>
          (hfolders folder.id).mpr (Or.inr ⟨folder, hfolder, rfl, h, hhost, hreach⟩)
      constructor
      · intro g hg huser hlevel
        exact absurd (Or.inr ⟨g, hg, huser, hlevel⟩) hsees
      · intro c hgrant
        exact (hclusters c).mpr hgrant
      · intro c hgrant host hhost hcluster
        exact (hhosts host.id).mpr (Or.inr ⟨host, hhost, rfl, c, hcluster, hgrant⟩)
      · intro c hgrant folder hfolder hcluster
        rcases (hreached folder hfolder).1 ⟨c, hcluster, hgrant⟩ with hfolder' | ⟨h, hhost, hreach⟩
        · exact (hfolders folder.id).mpr (Or.inl hfolder')
        · exact hhostFolders h hreach folder hfolder hhost
      · intro h hgrant
        exact (hhosts h).mpr (Or.inl hgrant)
      · intro h hseen folder hfolder hhost
        exact hhostFolders h ((hhosts h).mp hseen) folder hfolder hhost
      · intro f hgrant
        exact (hfolders f).mpr (Or.inl hgrant)
      · intro folder hfolder hseen
        refine mem_listFolders.mpr ⟨hfolder, (hshown folder).mpr ?_⟩
        rcases (hfolders folder.id).mp hseen with hgrant | ⟨other, hother, hid, hreach⟩
        · exact (hreached folder hfolder).2 hgrant
        · have heq := List.inj_on_of_nodup_map hc.keyed.folderIds hother hfolder hid
          exact Or.inr (heq ▸ hreach)

end Scope

/-- A cluster with one folder. -/
def Demo.clusterDb : Db where
  clusters := [{ id := "c", name := "cluster" }]
  folders := [{ id := "f", name := "folder", clusterId := some "c", hostId := none }]

/-- The user is granted the cluster. -/
def Demo.clusterGrant : ScopeGrant := ⟨"u", .cluster, some "c", by decide⟩

/-- The grants of the cluster and of its folder. -/
def Demo.bothGrants : List ScopeGrant := [Demo.clusterGrant, Demo.folderGrant]

/-- Where the folder of the cluster is granted as well, the scope is closed. -/
theorem closedScope_cluster :
    ClosedScope Demo.clusterDb Demo.bothGrants Demo.folderUser
      (resolveScope "ADMINISTRATOR" Demo.clusterDb Demo.bothGrants Demo.folderUser) := by
  refine (closedScope_iff "ADMINISTRATOR" (by decide +kernel) Demo.bothGrants
    Demo.folderUser).mpr (Or.inr fun folder hfolder => ?_)
  obtain rfl := List.mem_singleton.mp hfolder
  have hcluster : Granted Demo.bothGrants Demo.folderUser .cluster "c" :=
    ⟨Demo.clusterGrant, List.mem_cons_self, rfl, rfl, rfl⟩
  have hgranted : Granted Demo.bothGrants Demo.folderUser .folder "f" :=
    ⟨Demo.folderGrant, List.mem_cons_of_mem _ List.mem_cons_self, rfl, rfl, rfl⟩
  exact ⟨fun _ => Or.inl hgranted, fun _ => Or.inl ⟨"c", rfl, hcluster⟩⟩

/-- A grant of the cluster does not show the folder of the cluster. -/
theorem closedScope_counterexample :
    ¬ ∀ (adminRole : String) (db : Db) (grants : List ScopeGrant) (user : UserRow), db.Consistent →
      ClosedScope db grants user (resolveScope adminRole db grants user) := by
  intro h
  have hclosed := h "ADMINISTRATOR" Demo.clusterDb [Demo.clusterGrant] Demo.folderUser
    (by decide +kernel)
  have hseen := hclosed.clusterFolders "c" ⟨Demo.clusterGrant, by simp, rfl, rfl, rfl⟩ _
    (List.mem_singleton_self _) rfl
  exact absurd hseen (by decide +kernel)

end OpenVCenter
