import OpenVCenter.AuditFrame
import OpenVCenter.Organization
import OpenVCenter.RowRules

set_option relaxedAutoImplicit false
set_option autoImplicit false

/-!
# The organization under the system's own events

Requests on VMs and the messages of the agents leave clusters, folders and the standing of hosts
alone, but for heartbeats and the removal of a host; and they place rows by them.

## Main definitions

* `OpenVCenter.RowsOn` — an organization, and a property of the rows placed on it.
* `OpenVCenter.Reorganizes` — what an operation or the removal of a host does to the tables.

## Main results

* `OpenVCenter.rowsOn_step` — an event but a heartbeat and the removal of a host keeps both.
* `OpenVCenter.operation_step`, `OpenVCenter.removeHost_step` — the others reorganize.
* `OpenVCenter.heartbeat_step` — a heartbeat writes one host, or nothing.
* `OpenVCenter.step_reorganizes_or` — every other event reorganizes, or keeps the organization.
* `OpenVCenter.rowsDrawn_step` — the rows of every step are under drawn identifiers.
-/

namespace OpenVCenter

open Effect

variable {env : Env}

/-- The organization is `e`, the rows satisfy `P` and are under drawn identifiers. -/
structure RowsOn (env : Env) (e : List Cluster × List Folder × List (String × Option String × Json))
    (P : Vm → Prop) (w : World) : Prop where
  estate : w.db.estate = e
  drawn : ∀ v ∈ w.db.vms, Drawn env w v.id
  rows : ∀ v ∈ w.db.vms, P v

/-- What a property of the rows has to admit on an organization: new rows of a host, and rows
written over. -/
structure Placing (e : List Cluster × List Folder × List (String × Option String × Json))
    (P : Vm → Prop) : Prop where
  add : ∀ {db : Db} {host : Host} {vm : Vm} {id : String}, db.estate = e → db.Stands host →
    vm.place = (id, none, host.id, host.clusterId) → P vm
  follow : ∀ {db : Db} {vm vm' : Vm}, db.estate = e → P vm → Follows db vm vm' → P vm'

section Rule

variable {e : List Cluster × List Folder × List (String × Option String × Json)} {P : Vm → Prop}

/-- A property that placing keeps is a rule of the rows. -/
theorem rowsOn_rule (hP : Placing e P) : RowRule env (RowsOn env e P) fun _ => True where
  weaken _ := trivial
  fresh {w} hw v hv heq := not_drawn_next env w (heq ▸ hw.drawn v hv)
  drop hw hrel := {
    estate := hrel.2.2.1.trans hw.estate
    drawn := fun v hv => (hw.drawn v (hrel.1 v hv)).mono hrel.2.2.2
    rows := fun v hv => hw.rows v (hrel.1 v hv) }
  locks _ _ := trivial
  add {w host vm} hw hstands hplace := {
    estate := hw.estate
    drawn := fun v hv => by
      rcases List.mem_append.mp hv with hv | hv
      · exact (hw.drawn v hv).mono (Nat.le_succ _)
      · rw [List.mem_singleton.mp hv, show vm.id = env.uuid w.nextId from congrArg Prod.fst hplace]
        exact ⟨w.nextId, Nat.lt_succ_self _, rfl⟩
    rows := fun v hv => by
      rcases List.mem_append.mp hv with hv | hv
      · exact hw.rows v hv
      · rw [List.mem_singleton.mp hv]
        exact hP.add hw.estate hstands hplace }
  raw _ _ := trivial
  write _ _ _ := trivial
  display _ hw hmem hfollows _ := {
    estate := hw.estate
    drawn := fun v hv => by
      rcases Table.mem_store.mp hv with ⟨hv, -⟩ | ⟨rfl, -⟩
      · exact hw.drawn v hv
      · exact hfollows.id_eq ▸ hw.drawn _ hmem
    rows := fun v hv => by
      rcases Table.mem_store.mp hv with ⟨hv, -⟩ | ⟨rfl, -⟩
      · exact hw.rows v hv
      · exact hP.follow hw.estate (hw.rows _ hmem) hfollows }

/-- A rollback keeps it. -/
lemma rowsOn_rollback {s t : World} (hs : RowsOn env e P s) (hle : s.nextId ≤ t.nextId) :
    RowsOn env e P (rollback s t) where
  estate := hs.estate
  drawn v hv := (hs.drawn v hv).mono hle
  rows := hs.rows

end Rule

/-- An event but a heartbeat and the removal of a host. -/
theorem rowsOn_step {s : Committed} {P : Vm → Prop} (hP : Placing s.world.db.estate P)
    (hdrawn : ∀ v ∈ s.world.db.vms, Drawn env s.world v.id) (hrows : ∀ v ∈ s.world.db.vms, P v)
    {e : Event} (hstatus : ∀ hostId payload, e ≠ .agentStatus hostId payload)
    (hremove : ∀ user hostId, e ≠ .removeHost user hostId) :
    RowsOn env s.world.db.estate P (System.step env s e).world := by
  have h : RowRule env (RowsOn env s.world.db.estate P) fun _ => True := rowsOn_rule hP
  rcases hm : e.handler env with _ | m
  · cases e with
    | tick elapsed => exact ⟨rfl, hdrawn, hrows⟩
    | broker up => exact ⟨rfl, hdrawn, hrows⟩
    | _ => cases hm
  · have hstart : RowsOn env s.world.db.estate P
        { s.world with txStart := s.world.now - e.lag } := ⟨rfl, hdrawn, hrows⟩
    have hnext : s.world.nextId ≤ (System.step env s e).world.nextId := nextId_le_step env s e
    have hends : EndsIn (RowsOn env s.world.db.estate P) (fun _ => True) m
        { s.world with txStart := s.world.now - e.lag } := by
      by_cases hplain : e.IsPlain = true
      · exact h.handler hm hplain hstart s.consistent
      · cases e with
        | response hostId resp =>
          cases hm
          refine h.applyResponse (fun hw => ?_) (fun hs _ hle => rowsOn_rollback hs hle) hstart
          rw [hostIds_congr hw.estate]
          exact s.consistent.keyed.hostIds
        | removeHost user hostId => exact absurd rfl (hremove user hostId)
        | agentStatus hostId payload => exact absurd rfl (hstatus hostId payload)
        | _ => exact absurd rfl hplain
    rw [System.step_handler hm] at hnext ⊢
    rcases savepoint_cases m { s.world with txStart := s.world.now - e.lag } with
      ⟨a, t, hrun, -, hsave⟩ | ⟨err, hsave⟩
    · rw [sessionScope, hsave]
      exact (ends_of_ok hrun).mp hends
    · rw [sessionScope, hsave] at hnext ⊢
      exact rowsOn_rollback hstart hnext

/-! ## Reorganizations -/

/-- The tables but for the audit events. -/
def Db.plain (db : Db) : Db := { db with auditEvents := [] }

/-- What an operation, the removal of a host or a heartbeat does to the tables, audit events
aside. -/
inductive Reorganizes (db : Db) : Db → Prop
  | nothing : Reorganizes db db
  | addCluster (cluster : Cluster) :
    Reorganizes db { db with clusters := db.clusters ++ [cluster] }
  | deleteCluster (id : String) (hempty : ∀ host ∈ db.hosts, host.clusterId ≠ some id) :
    Reorganizes db (db.deleteCluster id)
  | addHost (host : Host) (hmember : ∀ c ∈ host.clusterId, ∃ cluster, db.cluster c = some cluster ∧
      host.hypervisor = .str cluster.hypervisor) :
    Reorganizes db { db with hosts := db.hosts ++ [host] }
  | moveHost (host : Host) (clusterId : Option String) (hmem : host ∈ db.hosts)
      (hmember : ∀ c ∈ clusterId, ∃ cluster, db.cluster c = some cluster ∧
        host.hypervisor.isStr cluster.hypervisor = true) :
    Reorganizes db (db.moveHost host clusterId)
  | deleteHost (id : String) : Reorganizes db (db.deleteHost id)
  | addFolder (folder : Folder) : Reorganizes db { db with folders := db.folders ++ [folder] }
  | deleteFolder (id : String) :
    Reorganizes db (db.deleteFolders fun f => decide (f.id = id))
  | moveVm (vm : Vm) (hmem : vm ∈ db.vms) (folder : Option Folder)
      (hfolder : ∀ f ∈ folder, f ∈ db.folders ∧ ∃ host ∈ db.hosts, host.id = vm.hostId ∧
        checkFolderHost host f = .ok ()) :
    Reorganizes db (db.storeVm { vm with folderId := folder.map Folder.id })

/-- The frame of what leaves the tables alone, audit events aside. -/
def plainFrame : Frame World := Frame.same fun w => w.db.plain

/-- `record` is plain. -/
lemma plain_record (actor : Option User) (action : String) (target : TargetRef)
    (task : Option Task) (details : Json) :
    Keeps plainFrame (record env actor action target task details) :=
  keeps_record (F := plainFrame) (fun _ _ _ => rfl) (fun _ _ => rfl) _ _ _ _ _

/-- The tables are those of `db`, reorganized. -/
def Reorganized (db : Db) (t : World) : Prop :=
  ∃ db', Reorganizes db db' ∧ t.db.plain = db'.plain

/-- A run that returns leaves the tables of `db` reorganized. -/
abbrev EndsReorganized {α : Type} (db : Db) (m : M α) (w : World) : Prop :=
  EndsIn (Reorganized db) (fun _ => True) m w

section Operations

variable {α β : Type} {db : Db} {w : World}

/-- A program that leaves the tables alone. -/
lemma ends_plain {m : M α} {Q : α → World → Prop} (hm : Keeps plainFrame m)
    (hQ : ∀ a t, t.db.plain = w.db.plain → Q a t) : Ends Q (fun _ => True) m w :=
  ends_of_rel (hm w) (fun a t _ hplain => hQ a t hplain) fun _ _ => trivial

/-- A program that draws an identifier first. -/
lemma ends_newId_bind {Q : α → World → Prop} {E : World → Prop} {f : String → M α} :
    Ends Q E (newId env >>= f) w ↔
      Ends Q E (f (env.uuid w.nextId)) { w with nextId := w.nextId + 1 } := Iff.rfl

/-- `flush_new` leaves the state alone. -/
lemma flushNew_state (bindable checked : Bool) (w : World) :
    (flushNew bindable checked w).2 = w := by
  unfold flushNew
  split_ifs
  · rfl
  · rfl
  · exact flush_state w

/-- It is plain. -/
lemma plain_flushNew (bindable checked : Bool) : Keeps plainFrame (flushNew bindable checked) :=
  keeps_of_state (flushNew_state bindable checked)

/-- A cluster is added. -/
lemma ends_addCluster (user : User) (name hypervisor : String) :
    EndsReorganized w.db (addCluster env user name hypervisor) w := by
  unfold addCluster createCluster
  rw [EndsReorganized, EndsIn, ends_bind]
  refine ends_newId_bind.mpr (ends_modify_bind.mpr ?_)
  refine ends_plain (keeps_bind (plain_flushNew _ _) fun _ => keeps_pure _) fun cluster t ht => ?_
  refine ends_plain (plain_record _ _ _ _ _) fun _ u hu => ?_
  exact ⟨_, .addCluster _, hu.trans ht⟩

/-- A cluster is removed. -/
lemma ends_removeCluster (user : User) (clusterId : String) :
    EndsReorganized w.db (removeCluster env user clusterId) w := by
  unfold removeCluster
  rw [EndsReorganized, EndsIn, ends_read_bind, ends_bind]
  refine ends_plain (keeps_ofOption _) fun cluster t ht => ?_
  rw [ends_bind]
  refine ends_plain (plain_record _ _ _ _ _) fun _ u hu => ?_
  have hplain : u.db.plain = w.db.plain := hu.trans ht
  unfold deleteCluster
  rw [ends_read_bind]
  split
  · trivial
  · rename_i hempty
    refine ends_modify_bind.mpr (ends_plain keeps_flush fun _ v hv =>
      ⟨_, .deleteCluster cluster.id fun host hhost hc => hempty ?_, hv.trans ?_⟩)
    · have hhosts : u.db.hosts = w.db.hosts := (congrArg Db.hosts hplain :)
      rw [hhosts]
      exact List.any_eq_true.mpr ⟨host, hhost, decide_eq_true hc⟩
    · exact congrArg (fun db => db.deleteCluster cluster.id) hplain

/-- The cluster that a host is to join is there. -/
lemma targetCluster_eq_ok {clusterId : Option String} {target : Option Cluster}
    (h : targetCluster db clusterId = .ok target) :
    ∀ c ∈ clusterId, ∃ cluster, target = some cluster ∧ db.cluster c = some cluster := by
  rintro c ⟨⟩
  unfold targetCluster at h
  split at h
  · rename_i heq
    cases heq
  · rename_i heq
    cases heq
    split at h
    · rename_i cluster hcluster
      cases h
      exact ⟨cluster, rfl, hcluster⟩
    · cases h

/-- A new host runs the hypervisor of its cluster. -/
lemma checkNewHost_eq_ok {hypervisor : String} {cluster : Cluster}
    (h : checkNewHost hypervisor (some cluster) = .ok ()) : cluster.hypervisor = hypervisor := by
  by_contra hne
  simp [checkNewHost, hne] at h

/-- So does a host that joins one. -/
lemma checkMember_eq_ok {host : Host} {cluster : Cluster}
    (h : checkMember env host (some cluster) = .ok ()) :
    host.hypervisor.isStr cluster.hypervisor = true := by
  by_contra hne
  simp [checkMember, hne] at h

/-- A host is added. -/
lemma ends_addHost (user : User) (name : String) (clusterId : Option String)
    (hypervisor shortId : String) (managementUp : Bool) :
    EndsReorganized w.db (addHost env user name clusterId hypervisor shortId managementUp) w := by
  unfold addHost createHost
  rw [EndsReorganized, EndsIn, ends_bind, ends_read_bind]
  refine ends_ofExcept_bind trivial fun target htarget => ?_
  refine ends_ofExcept_bind trivial fun _ hcheck => ?_
  refine ends_newId_bind.mpr (ends_modify_bind.mpr ?_)
  have hrest : ∀ host : Host, Keeps plainFrame (do
      flush
      provisionHost managementUp
      pure host : M Host) := fun host => by
    refine keeps_bind keeps_flush fun _ => keeps_bind (keeps_bind keeps_read fun w => ?_) fun _ =>
      keeps_pure _
    split
    · exact keeps_pure _
    · exact keeps_raise _
  refine ends_plain (hrest _) fun host t ht => ?_
  refine ends_plain (plain_record _ _ _ _ _) fun _ u hu => ⟨_, .addHost _ ?_, hu.trans ht⟩
  intro c hc
  obtain ⟨cluster, rfl, hcluster⟩ := targetCluster_eq_ok htarget c hc
  exact ⟨cluster, hcluster, congrArg Json.str (checkNewHost_eq_ok hcheck).symm⟩

/-- A host that moves has passed the checks of its new cluster. -/
lemma ends_updateHost_moved (user : User) (hostId : String) (clusterId : Option String) :
    EndsIn (fun t => t.db.plain = w.db.plain ∨ ∃ host, w.db.host hostId = some host ∧
        (∀ c ∈ clusterId, ∃ cluster, w.db.cluster c = some cluster ∧
          checkMember env host (some cluster) = .ok ()) ∧
        t.db.plain = (w.db.moveHost host clusterId).plain)
      (fun _ => True) (updateHost env user hostId clusterId) w := by
  unfold updateHost
  rw [EndsIn, ends_read_bind]
  rcases hhost : w.db.host hostId with _ | host
  · trivial
  change EndsIn _ _ (moveHost env host clusterId >>= fun _ => _) w
  unfold moveHost
  rw [EndsIn, ends_bind, ends_read_bind]
  refine ends_ofExcept_bind trivial fun target htarget => ?_
  refine ends_ofExcept_bind trivial fun _ hcheck => ?_
  by_cases hsame : host.clusterId = clusterId
  · simp only [if_pos hsame]
    exact .inl rfl
  · simp only [if_neg hsame]
    refine ends_modify_bind.mpr (ends_plain keeps_flush fun _ t ht => ?_)
    refine ends_plain (plain_record _ _ _ _ _) fun _ u hu =>
      .inr ⟨host, rfl, fun c hc => ?_, hu.trans ht⟩
    obtain ⟨cluster, rfl, hcluster⟩ := targetCluster_eq_ok htarget c hc
    exact ⟨cluster, hcluster, hcheck⟩

/-- A host is moved to a cluster, or out of one. -/
lemma ends_updateHost (user : User) (hostId : String) (clusterId : Option String) :
    EndsReorganized w.db (updateHost env user hostId clusterId) w := by
  refine ends_mono (ends_updateHost_moved user hostId clusterId) (fun _ t _ ht => ?_) fun _ h => h
  rcases ht with hplain | ⟨host, hhost, hmember, hplain⟩
  · exact ⟨_, .nothing, hplain⟩
  · refine ⟨_, .moveHost host clusterId (Table.mem_of_lookup hhost) fun c hc => ?_, hplain⟩
    obtain ⟨cluster, hcluster, hcheck⟩ := hmember c hc
    exact ⟨cluster, hcluster, checkMember_eq_ok hcheck⟩

/-- A folder is added. -/
lemma ends_addFolder (user : User) (name : String) (clusterId hostId : Option String) :
    EndsReorganized w.db (addFolder env user name clusterId hostId) w := by
  unfold addFolder createFolder
  rw [EndsReorganized, EndsIn, ends_bind, ends_read_bind]
  refine ends_ofExcept_bind trivial fun _ _ => ?_
  refine ends_newId_bind.mpr (ends_modify_bind.mpr ?_)
  refine ends_plain (keeps_bind (plain_flushNew _ _) fun _ => keeps_pure _) fun folder t ht => ?_
  exact ends_plain (plain_record _ _ _ _ _) fun _ u hu => ⟨_, .addFolder _, hu.trans ht⟩

/-- A folder is removed. -/
lemma ends_removeFolder (user : User) (folderId : String) :
    EndsReorganized w.db (removeFolder env user folderId) w := by
  unfold removeFolder
  rw [EndsReorganized, EndsIn, ends_read_bind, ends_bind]
  refine ends_plain (keeps_ofOption _) fun folder t ht => ?_
  dsimp only
  rw [ends_bind]
  refine ends_plain (plain_record _ _ _ _ _) fun _ u hu => ?_
  refine ends_modify_bind.mpr (ends_plain keeps_flush fun _ v hv =>
    ⟨_, .deleteFolder folder.id, hv.trans ?_⟩)
  exact congrArg (fun db => db.deleteFolders fun f => decide (f.id = folder.id)) (hu.trans ht)

/-- A VM is moved to a folder. -/
lemma ends_moveVmToFolder {vm : Vm} (hmem : vm ∈ w.db.vms) (folderId : Option String) :
    EndsReorganized w.db (moveVmToFolder vm folderId) w := by
  unfold moveVmToFolder
  rcases folderId with _ | f
  · refine ends_modify_bind.mpr (ends_plain keeps_flush fun _ t ht => ⟨_, ?_, ht⟩)
    refine .moveVm vm hmem none ?_
    rintro _ ⟨⟩
  · dsimp only
    rw [EndsReorganized, EndsIn, ends_read_bind]
    rcases hfolder : w.db.folder f with _ | folder
    · trivial
    rcases hhost : w.db.host vm.hostId with _ | host
    · trivial
    change Ends _ _ (Prog.ofExcept (checkFolderHost host folder) >>= fun _ => _) w
    refine ends_ofExcept_bind trivial fun _ hcheck => ?_
    refine ends_modify_bind.mpr (ends_plain keeps_flush fun _ t ht => ⟨_, ?_, ht⟩)
    refine .moveVm vm hmem (some folder) ?_
    rintro _ ⟨⟩
    exact ⟨Table.mem_of_lookup hfolder, host, Table.mem_of_lookup hhost,
      Table.key_of_lookup hhost, hcheck⟩

/-- The route that moves it. -/
lemma ends_moveVm (user : User) (vmId : String) (folderId : Option String) :
    EndsReorganized w.db (moveVm env user vmId folderId) w := by
  unfold moveVm getVm
  rw [EndsReorganized, EndsIn, ends_bind, ends_read_bind]
  rcases hvm : w.db.vm vmId with _ | vm
  · trivial
  have hmem : vm ∈ w.db.vms := Table.mem_of_lookup hvm
  change Ends _ _ (moveVmToFolder vm folderId >>= fun _ => _) w
  rw [ends_bind]
  refine ends_mono (ends_moveVmToFolder hmem folderId) (fun _ t _ ht => ?_) fun _ h => h
  obtain ⟨db', hre, hdb⟩ := ht
  rw [ends_read_bind]
  by_cases hsame : vm.folderId = folderId
  · simp only [if_pos hsame]
    exact ⟨db', hre, hdb⟩
  · simp only [if_neg hsame]
    exact ends_plain (plain_record _ _ _ _ _) fun _ u hu => ⟨db', hre, hu.trans hdb⟩

/-- The rows of a removed host go. -/
lemma ends_removeHost (user : User) (hostId : String) :
    EndsReorganized w.db (removeHost env user hostId) w := by
  unfold removeHost
  rw [EndsReorganized, EndsIn, ends_read_bind, ends_bind]
  refine ends_plain (keeps_ofOption _) fun host t ht => ?_
  dsimp only
  rw [ends_bind]
  refine ends_plain (plain_record _ _ _ _ _) fun _ u hu => ?_
  rw [ends_bind]
  refine ends_plain (keeps_settleTaskEvents (F := plainFrame) (fun _ _ => rfl) _ _ _)
    fun _ v hv => ?_
  refine ends_modify_bind.mpr (ends_plain keeps_flush fun _ x hx =>
    ⟨_, .deleteHost host.id, hx.trans ?_⟩)
  exact congrArg (fun db => db.deleteHost host.id) (hv.trans (hu.trans ht))

end Operations

/-- What an operation that returns has done. -/
theorem operation_reorganizes (op : Operation) (w : World) :
    EndsReorganized w.db (op.handler env) w := by
  cases op with
  | createCluster user name hypervisor => exact ends_addCluster _ _ _
  | deleteCluster user clusterId => exact ends_removeCluster _ _
  | createHost user name clusterId hypervisor shortId managementUp => exact ends_addHost _ _ _ _ _ _
  | moveHost user hostId clusterId => exact ends_updateHost _ _ _
  | createFolder user name clusterId hostId => exact ends_addFolder _ _ _ _
  | deleteFolder user folderId => exact ends_removeFolder _ _
  | moveVmToFolder user vmId folderId => exact ends_moveVm _ _ _

/-! ## Identifiers -/

/-- The rows are under drawn identifiers. -/
def RowsDrawn (env : Env) (w : World) : Prop := ∀ v ∈ w.db.vms, Drawn env w v.id

/-- At the start no row is there. -/
lemma rowsDrawn_of_initial {s : Committed} (h : System.Initial s) : RowsDrawn env s.world := by
  intro v hv
  rw [h.vms] at hv
  cases hv

/-- What an operation may write on its way, audit events aside. -/
def Operation.Writes : Operation → Db → Db → Prop
  | .createCluster .., db, db' => ∃ cluster, db' = { db with clusters := db.clusters ++ [cluster] }
  | .deleteCluster .., db, db' => ∃ id, db' = db.deleteCluster id
  | .createHost .., db, db' => ∃ host, db' = { db with hosts := db.hosts ++ [host] }
  | .moveHost _ _ clusterId, db, db' => ∃ host, db' = db.moveHost host clusterId
  | .createFolder .., db, db' => ∃ folder, db' = { db with folders := db.folders ++ [folder] }
  | .deleteFolder .., db, db' => ∃ p, db' = db.deleteFolders p
  | .moveVmToFolder .., db, db' => ∃ vm, db' = db.storeVm vm

/-- An operation keeps what its writes, the identifiers it draws and its audit event keep.

**Proof sketch.** Through each handler in the order of its source: the checks change nothing, the
one write is that of the operation, and the audit event comes last. -/
theorem keeps_operation {F : Frame World} (hid : ∀ w n, w.nextId ≤ n → F.rel w { w with nextId := n })
    (hevents : ∀ w es, F.rel w { w with db := { w.db with auditEvents := es } }) (op : Operation)
    (hwrites : ∀ w db', op.Writes w.db db' → F.rel w { w with db := db' }) :
    Keeps F (op.handler env) := by
  have hflushNew : ∀ bindable checked, Keeps F (flushNew bindable checked) :=
    fun bindable checked => keeps_of_state (flushNew_state bindable checked)
  have hrecord : ∀ (user : User) action target details,
      Keeps F (record env (some user) action target none details) :=
    fun user action target details => keeps_record hid hevents _ _ _ _ _
  have hnew : Keeps F (newId env) := keeps_newId hid
  have hmodify : ∀ f : Db → Db, (∀ db, op.Writes db (f db)) → Keeps F (modifyDb f) :=
    fun f hf => keeps_modify fun w => hwrites w _ (hf w.db)
  cases op with
  | createCluster user name hypervisor =>
    refine keeps_bind (keeps_bind hnew fun _ => ?_) fun _ => hrecord _ _ _ _
    refine keeps_bind (hmodify _ fun _ => ⟨_, rfl⟩) fun _ => ?_
    exact keeps_bind (hflushNew _ _) fun _ => keeps_pure _
  | deleteCluster user clusterId =>
    refine keeps_bind keeps_read fun w => keeps_bind (keeps_ofOption _) fun cluster => ?_
    refine keeps_bind (hrecord _ _ _ _) fun _ => keeps_bind keeps_read fun w => ?_
    split
    · exact keeps_raise _
    · exact keeps_bind (hmodify _ fun _ => ⟨_, rfl⟩) fun _ => keeps_flush
  | createHost user name clusterId hypervisor shortId managementUp =>
    refine keeps_bind (keeps_bind keeps_read fun w => ?_) fun _ => hrecord _ _ _ _
    refine keeps_bind (keeps_ofExcept _) fun _ => keeps_bind (keeps_ofExcept _) fun _ => ?_
    refine keeps_bind hnew fun _ => keeps_bind (hmodify _ fun _ => ⟨_, rfl⟩) fun _ => ?_
    refine keeps_bind keeps_flush fun _ => keeps_bind (keeps_bind keeps_read fun w => ?_) fun _ =>
      keeps_pure _
    split
    · exact keeps_pure _
    · exact keeps_raise _
  | moveHost user hostId clusterId =>
    refine keeps_bind keeps_read fun w => keeps_bind (keeps_ofOption _) fun host => ?_
    refine keeps_bind (keeps_bind keeps_read fun w => ?_) fun _ => ?_
    · refine keeps_bind (keeps_ofExcept _) fun _ => keeps_bind (keeps_ofExcept _) fun _ => ?_
      split
      · exact keeps_pure _
      · exact keeps_bind (hmodify _ fun _ => ⟨_, rfl⟩) fun _ => keeps_flush
    · dsimp only
      split
      · exact keeps_pure _
      · exact hrecord _ _ _ _
  | createFolder user name clusterId hostId =>
    refine keeps_bind (keeps_bind keeps_read fun w => ?_) fun _ => hrecord _ _ _ _
    refine keeps_bind (keeps_ofExcept _) fun _ => keeps_bind hnew fun _ => ?_
    refine keeps_bind (hmodify _ fun _ => ⟨_, rfl⟩) fun _ => ?_
    exact keeps_bind (hflushNew _ _) fun _ => keeps_pure _
  | deleteFolder user folderId =>
    refine keeps_bind keeps_read fun w => keeps_bind (keeps_ofOption _) fun folder => ?_
    refine keeps_bind (hrecord _ _ _ _) fun _ => ?_
    exact keeps_bind (hmodify _ fun _ => ⟨_, rfl⟩) fun _ => keeps_flush
  | moveVmToFolder user vmId folderId =>
    refine keeps_bind (keeps_bind keeps_read fun w => keeps_ofOption _) fun vm => ?_
    refine keeps_bind ?_ fun _ => keeps_bind keeps_read fun w => ?_
    · rcases folderId with _ | f
      · exact keeps_bind (hmodify _ fun _ => ⟨_, rfl⟩) fun _ => keeps_flush
      · refine keeps_bind keeps_read fun w => keeps_bind (keeps_ofOption _) fun folder => ?_
        refine keeps_bind (keeps_ofOption _) fun host => keeps_bind (keeps_ofExcept _) fun _ => ?_
        exact keeps_bind (hmodify _ fun _ => ⟨_, rfl⟩) fun _ => keeps_flush
    · dsimp only
      split
      · exact keeps_pure _
      · exact hrecord _ _ _ _

/-- No operation takes an identifier back. -/
theorem operation_drawn (op : Operation) : Keeps drawnFrame (op.handler env) :=
  keeps_operation (fun _ _ h => h) (fun _ _ => le_rfl) op fun _ _ _ => le_rfl

/-! ## Steps -/

/-- The rows after a reorganization are rows from before it, by their keys. -/
lemma Reorganizes.row_ids {db db' : Db} (h : Reorganizes db db') :
    ∀ v ∈ db'.vms, ∃ u ∈ db.vms, u.id = v.id := by
  intro v hv
  cases h with
  | nothing => exact ⟨v, hv, rfl⟩
  | addCluster cluster => exact ⟨v, hv, rfl⟩
  | deleteCluster id hempty =>
    obtain ⟨x, hx, rfl⟩ := List.mem_map.mp hv
    obtain ⟨u, hu, rfl⟩ := List.mem_map.mp hx
    refine ⟨u, hu, ?_⟩
    split_ifs <;> rfl
  | addHost host hmember => exact ⟨v, hv, rfl⟩
  | moveHost host clusterId hmem hmember =>
    obtain ⟨x, hx, rfl⟩ := List.mem_map.mp hv
    obtain ⟨u, hu, rfl⟩ := List.mem_map.mp hx
    refine ⟨u, hu, ?_⟩
    split_ifs <;> rfl
  | deleteHost id =>
    obtain ⟨u, hu, rfl⟩ := List.mem_map.mp hv
    exact ⟨u, (Table.mem_deleteWhere.mp hu).1, rfl⟩
  | addFolder folder => exact ⟨v, hv, rfl⟩
  | deleteFolder id =>
    obtain ⟨u, hu, rfl⟩ := List.mem_map.mp hv
    exact ⟨u, hu, rfl⟩
  | moveVm vm hmem folder hfolder =>
    rcases Table.mem_store.mp hv with ⟨hv, -⟩ | ⟨rfl, -⟩
    · exact ⟨v, hv, rfl⟩
    · exact ⟨vm, hmem, rfl⟩

/-- A transaction whose body reorganizes does, or is rolled back. -/
lemma savepoint_reorganized {m : M Unit} {w : World} (h : EndsReorganized w.db m w) :
    Reorganized w.db (savepoint m w).2 := by
  rcases savepoint_cases m w with ⟨a, t, hrun, -, hsave⟩ | ⟨e, hsave⟩
  · rw [hsave]
    exact (ends_of_ok hrun).mp h
  · rw [hsave]
    exact ⟨w.db, .nothing, rfl⟩

/-- An operation reorganizes the estate. -/
theorem operation_step (s : Committed) (op : Operation) :
    Reorganized s.world.db (Organization.step env s (.operation op)).world :=
  savepoint_reorganized (operation_reorganizes op { s.world with txStart := s.world.now })

/-- So does the removal of a host. -/
theorem removeHost_step (s : Committed) (user : User) (hostId : String) :
    Reorganized s.world.db (System.step env s (.removeHost user hostId)).world :=
  savepoint_reorganized (w := { s.world with txStart := s.world.now - Event.lag _ })
    (ends_removeHost user hostId)

/-! ## Heartbeats -/

open Column in
/-- The values of a heartbeat fit their columns; where one is false the last one stays. -/
def heartbeatFits (env : Env) (now : Time) (payload : Dict) : Bool :=
  let fqdn := (payload.get "fqdn").orElse (payload.get "hostname")
  let ip := ((payload.get "ip").orElse (payload.get "ipAddress")).orElse (payload.get "primaryIp")
  (!fqdn.truthy || nullable (varchar 255) fqdn) && (!ip.truthy || nullable (varchar 64) ip) &&
  (!(payload.get "hypervisor").truthy || varchar 32 (payload.get "hypervisor")) &&
  nullable (varchar 64) (payload.get "version") &&
  timestamp ((parseDt env (payload.get "reported_at")).getD now) &&
  nullable (integer 4)
    ((payload.get "vm_refresh_interval").orElse (payload.get "vmRefreshInterval")) &&
  nullable (integer 4)
    ((payload.get "host_refresh_interval").orElse (payload.get "hostRefreshInterval"))

/-- A value, where it is true, over the last one. -/
lemma check_orLast {check : Json → Bool} {v last : Json} (h : check last = true) :
    check (if v.truthy then v else last) = (!v.truthy || check v) := by
  cases hv : v.truthy <;> simp [h]

/-- A heartbeat that fits leaves a row that fits. -/
lemma withAgentStatus_bindable {now : Time} {payload : Dict} {host : Host}
    (h : host.bindable = true) :
    (withAgentStatus env now payload host).bindable = heartbeatFits env now payload := by
  simp only [Host.bindable, Bool.and_eq_true] at h
  obtain ⟨⟨⟨⟨⟨⟨⟨⟨⟨hshort, hname⟩, hfqdn⟩, hip⟩, hhyp⟩, -⟩, -⟩, -⟩, -⟩, hhardware⟩ := h
  simp only [Host.bindable, withAgentStatus, heartbeatFits, hshort, hname, hhardware,
    Bool.true_and, Bool.and_true, Column.opt_some]
  rw [check_orLast hfqdn, check_orLast hip, check_orLast hhyp]

/-- A heartbeat whose values fit changes the row of its host; any other changes no row.

**Proof sketch.** Run the handler: without its host, or with a payload that is no object, it writes
nothing. Else it stores the row of the host, which is committed exactly if it fits its columns, as
its keys are those of the old one. -/
theorem heartbeat_step (s : Committed) (hostId : String) (payload : Json) :
    (∃ host d, s.world.db.host hostId = some host ∧ payload.asDict = .ok d ∧
      heartbeatFits env s.world.now d = true ∧
      (System.step env s (.agentStatus hostId payload)).world.db =
        s.world.db.storeHost (withAgentStatus env s.world.now d host)) ∨
    ((System.step env s (.agentStatus hostId payload)).world.db = s.world.db ∧
      ∀ host d, s.world.db.host hostId = some host → payload.asDict = .ok d →
        heartbeatFits env s.world.now d = false) := by
  set w : World := { s.world with txStart := s.world.now - Event.lag (.agentStatus hostId payload) }
    with hw
  have hc : w.db.Consistent := s.consistent
  have hstep : (System.step env s (.agentStatus hostId payload)).world =
      (savepoint (applyAgentStatus env hostId payload) w).2 := rfl
  rw [hstep]
  rcases hhost : s.world.db.host hostId with _ | host
  · have hrun : applyAgentStatus env hostId payload w = (.ok (), w) := by
      unfold applyAgentStatus
      rw [Prog.read_bind_run]
      simp only [hw, hhost]
      rfl
    rw [savepoint_eq_ok.mpr ⟨hrun, hc⟩]
    exact Or.inr ⟨rfl, fun _ _ h => nomatch h⟩
  have hread : applyAgentStatus env hostId payload w = (do
      let d ← Prog.ofExcept payload.asDict
      modifyDb fun db => db.storeHost (withAgentStatus env w.now d host) : M Unit) w := by
    unfold applyAgentStatus
    rw [Prog.read_bind_run]
    simp only [hw, hhost]
  rcases hpayload : payload.asDict with e | d
  · have hrun : applyAgentStatus env hostId payload w = (.error e, w) := by
      rw [hread, hpayload]
      rfl
    rw [savepoint_of_raise hrun]
    exact Or.inr ⟨rfl, fun _ _ _ h => nomatch h⟩
  have hrun : applyAgentStatus env hostId payload w =
      (.ok (), { w with db := w.db.storeHost (withAgentStatus env w.now d host) }) := by
    rw [hread, hpayload]
    rfl
  have hid : host.id = hostId := host_id_of_host hhost
  have hfound : w.db.host (withAgentStatus env w.now d host).id = some host := by
    rw [← hhost, ← hid]
    rfl
  have hfits := hc.storeHost_iff hfound rfl rfl
  rw [withAgentStatus_bindable (hc.host_bindable (Table.mem_of_lookup hfound))] at hfits
  rcases hfit : heartbeatFits env w.now d with _ | _
  · obtain ⟨e, hback⟩ := savepoint_of_inconsistent hrun fun hc' => by
      rw [hfits.mp hc'] at hfit
      cases hfit
    rw [hback]
    refine Or.inr ⟨rfl, ?_⟩
    rintro _ _ ⟨⟩ ⟨⟩
    exact hfit
  · rw [savepoint_eq_ok.mpr ⟨hrun, hfits.mpr hfit⟩]
    exact Or.inl ⟨host, d, rfl, rfl, hfit, rfl⟩

/-! ## Rows under drawn identifiers -/

/-- A reorganization adds no row. -/
lemma rowsDrawn_reorganized {s t : World} (h : RowsDrawn env s) (hre : Reorganized s.db t)
    (hle : s.nextId ≤ t.nextId) : RowsDrawn env t := by
  obtain ⟨db', hre, hdb⟩ := hre
  intro v hv
  have hvms : t.db.vms = db'.vms := (congrArg Db.vms hdb :)
  obtain ⟨u, hu, heq⟩ := hre.row_ids v (hvms ▸ hv)
  exact heq ▸ (h u hu).mono hle

/-- An event but a heartbeat reorganizes, or leaves the organization alone. -/
theorem step_reorganizes_or {s : Committed} (hdrawn : RowsDrawn env s.world)
    {e : Organization.Event}
    (hstatus : ∀ hostId payload, e ≠ .system (.agentStatus hostId payload)) :
    Reorganized s.world.db (Organization.step env s e).world ∨
    ∀ P, Placing s.world.db.estate P → (∀ v ∈ s.world.db.vms, P v) →
      RowsOn env s.world.db.estate P (Organization.step env s e).world := by
  rcases e with op | e
  · exact Or.inl (operation_step s op)
  by_cases hremove : ∃ user hostId, e = .removeHost user hostId
  · obtain ⟨user, hostId, rfl⟩ := hremove
    exact Or.inl (removeHost_step s user hostId)
  · exact Or.inr fun P hP hrows => rowsOn_step hP hdrawn hrows
      (fun hostId payload he => hstatus hostId payload (congrArg _ he))
      fun user hostId he => hremove ⟨user, hostId, he⟩

/-- No event takes an identifier back. -/
theorem nextId_le_organization_step (s : Committed) (e : Organization.Event) :
    s.world.nextId ≤ (Organization.step env s e).world.nextId := by
  cases e with
  | operation op =>
    exact keeps_savepoint (F := drawnFrame) (fun _ _ h => h) (operation_drawn op)
      { s.world with txStart := s.world.now }
  | system e => exact nextId_le_step env s e

/-- The identifiers of the rows are drawn, after every step. -/
theorem rowsDrawn_step {s : Committed} (h : RowsDrawn env s.world) (e : Organization.Event) :
    RowsDrawn env (Organization.step env s e).world := by
  have hnext : s.world.nextId ≤ (Organization.step env s e).world.nextId :=
    nextId_le_organization_step s e
  by_cases hstatus : ∃ hostId payload, e = .system (.agentStatus hostId payload)
  · obtain ⟨hostId, payload, rfl⟩ := hstatus
    have hvms : (System.step env s (.agentStatus hostId payload)).world.db.vms =
        s.world.db.vms := by
      rcases @heartbeat_step env s hostId payload with ⟨host, d, -, -, -, hdb⟩ | ⟨hdb, -⟩
      · rw [hdb]
        rfl
      · rw [hdb]
    intro v hv
    exact (h v (hvms ▸ hv)).mono hnext
  rcases step_reorganizes_or h fun hostId payload he => hstatus ⟨hostId, payload, he⟩ with
    hre | hrows
  · exact rowsDrawn_reorganized h hre hnext
  · exact (hrows (fun _ => True) ⟨fun _ _ _ => trivial, fun _ _ _ => trivial⟩
      fun _ _ => trivial).drawn

end OpenVCenter
