import OpenVCenter.Foundations.Machine
import OpenVCenter.Accounts

set_option relaxedAutoImplicit false
set_option autoImplicit false

/-!
# The first two requests of a user

`get_or_create_user` of `services/auth.py`, in two requests at once. Each looks for the user, inserts
one where there is none, and grants the global scope where it is not granted; the database tells the
one that comes too late. A statement sees what is committed by then and the writes of its own
transaction.

## Main definitions

* `OpenVCenter.Phase` — the statement that a request is at.
* `OpenVCenter.FirstRequests` — the committed tables, and the two transactions.
* `OpenVCenter.FirstRequests.statement` — the next statement of a request.
* `OpenVCenter.Agreed` — who has the e-mail address: nobody, an open transaction, or a committed one.

## Main results

* `OpenVCenter.agreed_step` — every statement and every rollback keeps the two requests in agreement.
* `OpenVCenter.Agreed.can_finish` — from every such state both requests can come to their end.
* `OpenVCenter.firstRequests_exact` — **one user, returned to both**, and at most one global grant,
  whatever the order of the statements.

## Design

A unique index holds an insert back while an open transaction has a row that it clashes with: the
statement is tried again. Nulls are distinct in `user_level_scope`, so no two global grants clash.
-/

namespace OpenVCenter

/-! ## Requests and their transactions -/

/-- The arguments of `get_or_create_user`, but for the e-mail address, and the identifier that is
drawn. -/
structure FirstRequest where
  newId : String
  displayName : Option String := none
  roles : Option (List String) := none
  grantGlobal : Bool := false

/-- The statement that a request is at, with the user that it has by then. -/
inductive Phase where
  | lookup
  | insert
  | relookup
  | assign (user : UserRow)
  | check (user : UserRow)
  | grant (user : UserRow)
  | commit (user : UserRow)
  | done (user : UserRow)
  | failed (e : Raised)
  | aborted

/-- The request is over. -/
def Phase.over : Phase → Bool
  | .done _ | .failed _ | .aborted => true
  | _ => false

/-- An open transaction: the rows that it has written, and the grants that it has added. -/
structure Transaction where
  phase : Phase := .lookup
  written : List UserRow := []
  granted : List ScopeGrant := []

/-- The committed tables, and the transactions of the two requests. -/
structure FirstRequests where
  users : List UserRow
  grants : List ScopeGrant
  tx : Bool → Transaction

/-- Two rows that the keys of `users` keep apart. -/
def UserRow.clash (a b : UserRow) : Bool := decide (a.id = b.id) || decide (a.email = b.email)

/-- Two rows that `user_level_scope` keeps apart: nulls are distinct. -/
def ScopeGrant.clash (a b : ScopeGrant) : Bool :=
  decide (a.userId = b.userId) && decide (a.level = b.level) && a.scopeId.isSome &&
    decide (a.scopeId = b.scopeId)

/-- An absent name is not an empty one. -/
lemma none_ne_some_empty : none ≠ some "" := (Option.some_ne_none "").symm

/-- The global grant of a user. -/
def globalGrant (userId : String) : ScopeGrant := ⟨userId, .global, none, none_ne_some_empty⟩

/-- The grant is global, and for the user. -/
def ScopeGrant.isGlobalOf (userId : String) (g : ScopeGrant) : Bool :=
  decide (g.userId = userId) && decide (g.level = .global)

namespace FirstRequests

variable (email : String) (req : Bool → FirstRequest) (s : FirstRequests) (i : Bool)

/-- The users that a statement sees. -/
def visibleUsers : List UserRow :=
  (s.users.filter fun u => decide (u.id ∉ (s.tx i).written.map UserRow.id)) ++ (s.tx i).written

/-- The grants that a statement sees. -/
def visibleGrants : List ScopeGrant := s.grants ++ (s.tx i).granted

/-- A transaction goes on. -/
def setTx (t : Transaction) : FirstRequests := { s with tx := Function.update s.tx i t }

/-- A request comes to its next statement. -/
def goTo (phase : Phase) : FirstRequests := s.setTx i { s.tx i with phase := phase }

/-- A transaction is rolled back. -/
def rollBack (phase : Phase) : FirstRequests := s.setTx i { phase := phase }

/-- `if grant_global`, behind the roles. -/
def afterRoles (user : UserRow) : Phase :=
  if (req i).grantGlobal then .check user else .commit user

/-- The row with the changes of a transaction. -/
def write (row : UserRow) (rows : List UserRow) : List UserRow :=
  (rows.filter fun u => decide (u.id ≠ row.id)) ++ [row]

/-- The insert of the candidate: refused, back to the lookup, held back, or made. -/
def insertCandidate : FirstRequests :=
  let row := candidate (req i).newId email (req i).displayName (req i).roles
  if !row.bindable then s.rollBack i (.failed .dataError)
  else if (s.visibleUsers i).any row.clash then s.goTo i .relookup
  else if (s.tx !i).written.any row.clash then s
  else s.setTx i { s.tx i with phase := .assign row, written := (s.tx i).written ++ [row] }

/-- The roles are assigned and flushed; a row that the other transaction has written holds the
update back. -/
def assignUser (user : UserRow) : FirstRequests :=
  match (req i).roles with
  | none => s.goTo i (afterRoles req i user)
  | some roles =>
    let row := { user with roles := some (",".intercalate roles) }
    if row.roles = user.roles then s.goTo i (afterRoles req i user)
    else if !row.bindable then s.rollBack i (.failed .dataError)
    else if (s.tx !i).written.any fun u => decide (u.id = row.id) then s
    else s.setTx i { s.tx i with
      phase := afterRoles req i row
      written := write row (s.tx i).written }

/-- The insert of the grant. What the keys refuse is caught. -/
def insertGrant (user : UserRow) : FirstRequests :=
  let row := globalGrant user.id
  if (s.visibleGrants i).any row.clash ∨ user.id ∉ (s.visibleUsers i).map UserRow.id then
    s.goTo i (.commit user)
  else if (s.tx !i).granted.any row.clash then s
  else s.setTx i { s.tx i with phase := .commit user, granted := (s.tx i).granted ++ [row] }

/-- The commit. -/
def commitTx (user : UserRow) : FirstRequests where
  users := s.visibleUsers i
  grants := s.visibleGrants i
  tx := Function.update s.tx i { phase := .done user }

/-- The next statement of a request. -/
def statement : FirstRequests :=
  match (s.tx i).phase with
  | .lookup =>
    match Table.lookup UserRow.email email (s.visibleUsers i) with
    | some user => s.goTo i (.assign user)
    | none => s.goTo i .insert
  | .insert => insertCandidate email req s i
  | .relookup =>
    match Table.lookup UserRow.email email (s.visibleUsers i) with
    | some user => s.goTo i (.assign user)
    | none => s.rollBack i (.failed .runtimeError)
  | .assign user => assignUser req s i user
  | .check user =>
    if (s.visibleGrants i).any (ScopeGrant.isGlobalOf user.id) then s.goTo i (.commit user)
    else s.goTo i (.grant user)
  | .grant user => insertGrant s i user
  | .commit user => s.commitTx i user
  | .done _ | .failed _ | .aborted => s

/-- The request ends otherwise, and its transaction is rolled back. -/
def abort : FirstRequests :=
  match (s.tx i).phase with
  | .done _ | .failed _ | .aborted => s
  | _ => s.rollBack i .aborted

end FirstRequests

/-- A request comes to its next statement, or ends otherwise. -/
inductive FirstEvent where
  | run (i : Bool)
  | abort (i : Bool)

/-- One step. -/
def FirstRequests.step (email : String) (req : Bool → FirstRequest) (s : FirstRequests) :
    FirstEvent → FirstRequests
  | .run i => s.statement email req i
  | .abort i => s.abort i

/-- Both requests begin, for an e-mail address without a user. Their identifiers are new; a grant is
for a user that there is. -/
structure FirstRequests.Begin (email : String) (req : Bool → FirstRequest) (s : FirstRequests) :
    Prop where
  tx : ∀ i, s.tx i = {}
  noUser : ∀ u ∈ s.users, u.email ≠ email
  fresh : ∀ i, ∀ u ∈ s.users, u.id ≠ (req i).newId
  grantUser : ∀ g ∈ s.grants, g.userId ∈ s.users.map UserRow.id

/-! ## Who has the e-mail address -/

section Agreement

variable (email : String) (req : Bool → FirstRequest)

/-- The committed rows of the e-mail address. -/
def FirstRequests.rowsOf (s : FirstRequests) : List UserRow :=
  s.users.filter fun u => decide (u.email = email)

/-- The committed global grants of a user. -/
def FirstRequests.globalsOf (s : FirstRequests) (userId : String) : List ScopeGrant :=
  s.grants.filter (ScopeGrant.isGlobalOf userId)

/-- The transaction has written nothing, and has no user. -/
structure Waiting (t : Transaction) : Prop where
  written : t.written = []
  granted : t.granted = []
  phase : t.phase = .lookup ∨ t.phase = .insert ∨ t.phase = .aborted ∨
    ∃ e, e ≠ .runtimeError ∧ t.phase = .failed e

/-- The transaction has the user with an identifier; where it grants, `free` is so. -/
def Working (id : String) (free : Prop) (t : Transaction) : Prop :=
  ∃ user : UserRow, user.id = id ∧ user.email = email ∧
    ((t.phase = .assign user ∨ t.phase = .check user) ∧ t.granted = [] ∨
      t.phase = .grant user ∧ t.granted = [] ∧ free ∨
      t.phase = .commit user ∧ (t.granted = [] ∨ t.granted = [globalGrant id] ∧ free))

/-- No committed row has the e-mail address or a new identifier, and no grant is for one. -/
structure Unclaimed (s : FirstRequests) : Prop where
  noUser : ∀ u ∈ s.users, u.email ≠ email
  fresh : ∀ i, ∀ u ∈ s.users, u.id ≠ (req i).newId
  grants : ∀ i, ∀ g ∈ s.grants, g.userId ≠ (req i).newId

/-- What the second transaction may be at once the first one has committed the row `row`. -/
inductive Late (row : UserRow) (free : Prop) (t : Transaction) : Prop
  | waiting (h : Waiting t)
  | refused (phase : t.phase = .relookup) (written : t.written = []) (granted : t.granted = [])
  | working (h : Working email row.id free t)
      (written : t.written = [] ∨ ∃ w : UserRow, t.written = [w] ∧ w.id = row.id ∧ w.email = email)
  | done (user : UserRow) (h : t = { phase := .done user }) (id_eq : user.id = row.id)

/-- **Who has the e-mail address**: nobody; one of the requests, whose transaction is open; or one
that has committed, and the other knows its row or will. -/
inductive Agreed (s : FirstRequests) : Prop
  | nobody (unclaimed : Unclaimed email req s) (waiting : ∀ i, Waiting (s.tx i))
  | pending (j : Bool) (row : UserRow) (unclaimed : Unclaimed email req s)
      (id_eq : row.id = (req j).newId) (email_eq : row.email = email)
      (written : (s.tx j).written = [row]) (working : Working email row.id True (s.tx j))
      (waiting : Waiting (s.tx !j))
  | committed (j : Bool) (row user : UserRow) (rows : s.rowsOf email = [row])
      (globals : (s.globalsOf row.id).length ≤ 1) (done : s.tx j = { phase := .done user })
      (id_eq : user.id = row.id) (late : Late email row (s.globalsOf row.id = []) (s.tx !j))

end Agreement

section Steps

variable {email : String} {req : Bool → FirstRequest} {s : FirstRequests} {i : Bool}
  {t : Transaction} {user row : UserRow}

open FirstRequests

/-- A request's own transaction after it has been set. -/
@[simp] lemma setTx_self : (s.setTx i t).tx i = t := Function.update_self _ _ _

/-- The other's is unchanged. -/
@[simp] lemma setTx_not : (s.setTx i t).tx (!i) = s.tx (!i) :=
  Function.update_of_ne (by simp) _ _

/-- Nor does setting the other's change its own. -/
@[simp] lemma setTx_not_self : (s.setTx (!i) t).tx i = s.tx i :=
  Function.update_of_ne (by simp) _ _

/-- A request that has written nothing sees what is committed. -/
lemma visibleUsers_of_nil (h : (s.tx i).written = []) : s.visibleUsers i = s.users := by
  unfold visibleUsers
  simp [h]

/-- The one row of an address is found by it. -/
lemma lookup_of_rowsOf (h : s.rowsOf email = [row]) :
    Table.lookup UserRow.email email s.users = some row := by
  have hhead := List.head?_filter (p := fun u : UserRow => decide (u.email = email)) (l := s.users)
  unfold FirstRequests.rowsOf at h
  rw [h] at hhead
  exact hhead.symm

/-- It is in the table. -/
lemma mem_of_rowsOf (h : s.rowsOf email = [row]) : row ∈ s.users ∧ row.email = email := by
  have hmem : row ∈ s.rowsOf email := by
    rw [h]
    exact List.mem_cons_self
  obtain ⟨huser, hemail⟩ := List.mem_filter.mp hmem
  exact ⟨huser, of_decide_eq_true hemail⟩

/-- Requests wait on after a step of one. -/
lemma Waiting.setTx (h : ∀ k, Waiting (s.tx k)) (ht : Waiting t) :
    ∀ k, Waiting ((s.setTx i t).tx k) := by
  intro k
  rcases Bool.eq_or_eq_not k i with rfl | rfl
  · rwa [setTx_self]
  · rw [setTx_not]
    exact h _

/-- A failed request waits for nothing. -/
lemma waiting_failed {e : Raised} (he : e ≠ .runtimeError) :
    Waiting { phase := .failed e } := ⟨rfl, rfl, Or.inr (Or.inr (Or.inr ⟨e, he, rfl⟩))⟩

/-- Nor does one that was aborted. -/
lemma waiting_aborted : Waiting { phase := .aborted } := ⟨rfl, rfl, Or.inr (Or.inr (Or.inl rfl))⟩

/-- Behind the roles, a request checks the grants or commits. -/
lemma Working.afterRoles {id : String} {free : Prop} (hid : user.id = id)
    (hemail : user.email = email) (hphase : t.phase = FirstRequests.afterRoles req i user)
    (hgranted : t.granted = []) : Working email id free t := by
  refine ⟨user, hid, hemail, ?_⟩
  unfold FirstRequests.afterRoles at hphase
  split_ifs at hphase
  · exact Or.inl ⟨Or.inr hphase, hgranted⟩
  · exact Or.inr (Or.inr ⟨hphase, Or.inl hgranted⟩)

/-- The candidate has the new identifier and the e-mail address. -/
lemma candidate_id (email : String) (r : FirstRequest) :
    (candidate r.newId email r.displayName r.roles).id = r.newId ∧
      (candidate r.newId email r.displayName r.roles).email = email := ⟨rfl, rfl⟩

/-- No row clashes with one of an address that is unclaimed. -/
lemma Unclaimed.not_clash (h : Unclaimed email req s) (i : Bool) (hrow : row.id = (req i).newId)
    (hemail : row.email = email) : s.users.any row.clash = false := by
  rw [List.any_eq_false]
  intro u hu
  have hid : row.id ≠ u.id := fun heq => h.fresh i u hu (heq.symm.trans hrow)
  have hne : row.email ≠ u.email := fun heq => h.noUser u hu (heq.symm.trans hemail)
  simp [UserRow.clash, hid, hne]

/-- A statement of a request that has nothing yet, while nobody has committed a row: it looks for
the user, or inserts it, or ends. -/
lemma statement_waiting (h : Waiting (s.tx i)) (hu : Unclaimed email req s) :
    (∃ t, Waiting t ∧ s.statement email req i = s.setTx i t) ∨
      s.statement email req i = s ∨
      (s.tx !i).written.any (candidate (req i).newId email (req i).displayName
        (req i).roles).clash = false ∧
        s.statement email req i = s.setTx i {
          phase := .assign (candidate (req i).newId email (req i).displayName (req i).roles)
          written := [candidate (req i).newId email (req i).displayName (req i).roles] } := by
  have hvisible := visibleUsers_of_nil h.written
  unfold statement
  rcases h.phase with hphase | hphase | hphase | ⟨e, -, hphase⟩
  · have hnone : Table.lookup UserRow.email email s.users = none :=
      Table.lookup_eq_none.mpr hu.noUser
    refine Or.inl ⟨{ s.tx i with phase := .insert }, ⟨h.written, h.granted, Or.inr (Or.inl rfl)⟩, ?_⟩
    simp only [hphase, hvisible, hnone]
    rfl
  · obtain ⟨hid, hemail⟩ := candidate_id email (req i)
    have hfree := hu.not_clash i hid hemail
    simp only [hphase]
    unfold insertCandidate
    simp only [hvisible, hfree, h.written, h.granted, Bool.false_eq_true, if_false]
    split_ifs with hfits hheld
    · exact Or.inl ⟨_, waiting_failed (e := .dataError) nofun, rfl⟩
    · exact Or.inr (Or.inl rfl)
    · exact Or.inr (Or.inr ⟨Bool.eq_false_iff.mpr hheld, rfl⟩)
  · simp only [hphase]
    exact Or.inr (Or.inl trivial)
  · simp only [hphase]
    exact Or.inr (Or.inl trivial)

/-- A statement of a request that has the user, while the other transaction has written nothing: it
goes on with the user, fails, or commits.

**Proof sketch.** By the phase. The roles are the same, do not fit, or are written; a global grant
is seen, or one is needed; the insert of the grant is refused by the index, or goes through; and the
last statement commits. -/
lemma statement_working {free : Prop} {id : String} (h : Working email id free (s.tx i))
    (hwritten : (s.tx i).written = [] ∨
      ∃ w : UserRow, (s.tx i).written = [w] ∧ w.id = id ∧ w.email = email)
    (hother : (s.tx !i).written = [] ∧ (s.tx !i).granted = [])
    (hfree : (∀ g ∈ s.grants, ScopeGrant.isGlobalOf id g = false) → free) :
    (∃ e, e ≠ .runtimeError ∧ s.statement email req i = s.rollBack i (.failed e)) ∨
      (∃ t, Working email id free t ∧ ((t.written = (s.tx i).written) ∨
          ∃ w : UserRow, t.written = [w] ∧ w.id = id ∧ w.email = email) ∧
        s.statement email req i = s.setTx i t) ∨
      ∃ user : UserRow, user.id = id ∧ ((s.tx i).granted = [] ∨
          (s.tx i).granted = [globalGrant id] ∧ free) ∧
        s.statement email req i = s.commitTx i user := by
  obtain ⟨user, hid, hemail, hphase⟩ := h
  unfold statement
  rcases hphase with ⟨hphase | hphase, hgranted⟩ | ⟨hphase, hgranted, hok⟩ | ⟨hphase, hgranted⟩
  · simp only [hphase]
    unfold assignUser
    have hnext : Working email id free
        { s.tx i with phase := FirstRequests.afterRoles req i user } :=
      Working.afterRoles hid hemail rfl hgranted
    cases hroles : (req i).roles with
    | none => exact Or.inr (Or.inl ⟨_, hnext, Or.inl rfl, rfl⟩)
    | some roles =>
      simp only [hother.1, List.any_nil, Bool.false_eq_true, if_false]
      split_ifs with hsame hfits
      · exact Or.inr (Or.inl ⟨_, hnext, Or.inl rfl, rfl⟩)
      · exact Or.inl ⟨.dataError, nofun, rfl⟩
      · refine Or.inr (Or.inl ⟨_, ?_,
          Or.inr ⟨{ user with roles := some (",".intercalate roles) }, ?_, hid, hemail⟩, rfl⟩)
        · have hid' : ({ user with roles := some (",".intercalate roles) } : UserRow).id = id := hid
          exact Working.afterRoles hid' hemail rfl hgranted
        · rcases hwritten with hnil | ⟨w, hw, hwid, -⟩
          · simp [write, hnil]
          · simp [write, hw, hwid, hid]
  · simp only [hphase]
    split_ifs with hany
    · exact Or.inr (Or.inl ⟨{ s.tx i with phase := .commit user },
        ⟨user, hid, hemail, Or.inr (Or.inr ⟨rfl, Or.inl hgranted⟩)⟩, Or.inl rfl, rfl⟩)
    · refine Or.inr (Or.inl ⟨{ s.tx i with phase := .grant user },
        ⟨user, hid, hemail, Or.inr (Or.inl ⟨rfl, hgranted, ?_⟩)⟩, Or.inl rfl, rfl⟩)
      refine hfree fun g hg => ?_
      rw [Bool.not_eq_true, List.any_eq_false] at hany
      rw [← hid, Bool.eq_false_iff]
      exact hany g (List.mem_append_left _ hg)
  · simp only [hphase]
    unfold insertGrant
    simp only [hother.2, List.any_nil, Bool.false_eq_true, if_false]
    split_ifs with hrefused
    · exact Or.inr (Or.inl ⟨{ s.tx i with phase := .commit user },
        ⟨user, hid, hemail, Or.inr (Or.inr ⟨rfl, Or.inl hgranted⟩)⟩, Or.inl rfl, rfl⟩)
    · have hadded : (s.tx i).granted ++ [globalGrant user.id] = [globalGrant id] := by
        rw [hgranted, hid]
        rfl
      exact Or.inr (Or.inl ⟨{ s.tx i with
          phase := .commit user, granted := (s.tx i).granted ++ [globalGrant user.id] },
        ⟨user, hid, hemail, Or.inr (Or.inr ⟨rfl, Or.inr ⟨hadded, hok⟩⟩)⟩, Or.inl rfl, rfl⟩)
  · simp only [hphase]
    exact Or.inr (Or.inr ⟨user, hid, hgranted, rfl⟩)

/-- No grant is of an identifier that is unclaimed. -/
lemma Unclaimed.globals (h : Unclaimed email req s) (i : Bool) :
    ∀ g ∈ s.grants, ScopeGrant.isGlobalOf (req i).newId g = false := by
  intro g hg
  simp [ScopeGrant.isGlobalOf, h.grants i g hg]

/-- Then it has no global grants. -/
lemma globalsOf_eq_nil {id : String}
    (h : ∀ g ∈ s.grants, ScopeGrant.isGlobalOf id g = false) : s.globalsOf id = [] :=
  List.filter_eq_nil_iff.mpr fun g hg => by rw [h g hg]; exact Bool.false_ne_true

/-- The grants after a commit. -/
lemma globalsOf_commitTx {id : String} {free : Prop} (hfree : free → s.globalsOf id = [])
    (hglobals : (s.globalsOf id).length ≤ 1) (hgranted : (s.tx i).granted = [] ∨
      (s.tx i).granted = [globalGrant id] ∧ free) (user : UserRow) :
    ((s.commitTx i user).globalsOf id).length ≤ 1 := by
  have hsplit : (s.commitTx i user).globalsOf id =
      s.globalsOf id ++ (s.tx i).granted.filter (ScopeGrant.isGlobalOf id) := List.filter_append ..
  rw [hsplit]
  rcases hgranted with hnil | ⟨hone, hok⟩
  · rw [hnil]
    simpa using hglobals
  · rw [hfree hok, hone, List.nil_append]
    exact List.length_filter_le _ _

/-! ## Steps -/

/-- A statement of a request while nobody has the e-mail address. -/
lemma agreed_nobody (hu : Unclaimed email req s) (hw : ∀ k, Waiting (s.tx k)) (i : Bool) :
    Agreed email req (s.statement email req i) := by
  rcases statement_waiting (hw i) hu with ⟨t, ht, hstep⟩ | hstep | ⟨-, hstep⟩
  · rw [hstep]
    exact Agreed.nobody ⟨hu.noUser, hu.fresh, hu.grants⟩ (Waiting.setTx hw ht)
  · rw [hstep]
    exact Agreed.nobody hu hw
  · rw [hstep]
    obtain ⟨hid, hemail⟩ := candidate_id email (req i)
    refine Agreed.pending i _ ⟨hu.noUser, hu.fresh, hu.grants⟩ hid hemail ?_ ?_ ?_
    · rw [setTx_self]
    · rw [setTx_self]
      exact ⟨_, hid, hemail, Or.inl ⟨Or.inl rfl, rfl⟩⟩
    · rw [setTx_not]
      exact hw _

/-- A statement of the request whose transaction has the row.

**Proof sketch.** The statement fails, leaves the transaction open or commits it. A failure rolls
its row back, an open transaction still has one row under the address, and a commit puts that row in
the table while the other request waits. -/
lemma agreed_pending {j : Bool} (hu : Unclaimed email req s) (hid : row.id = (req j).newId)
    (hemail : row.email = email) (hwritten : (s.tx j).written = [row])
    (hworking : Working email row.id True (s.tx j)) (hwaiting : Waiting (s.tx !j)) :
    Agreed email req (s.statement email req j) := by
  rcases statement_working hworking (Or.inr ⟨row, hwritten, rfl, hemail⟩)
    ⟨hwaiting.written, hwaiting.granted⟩ (fun _ => trivial) with
    ⟨e, he, hstep⟩ | ⟨t, ht, hrow, hstep⟩ | ⟨user, huser, hgranted, hstep⟩
  · rw [hstep]
    refine Agreed.nobody ⟨hu.noUser, hu.fresh, hu.grants⟩ fun k => ?_
    rcases Bool.eq_or_eq_not k j with rfl | rfl
    · rw [FirstRequests.rollBack, setTx_self]
      exact waiting_failed he
    · rw [FirstRequests.rollBack, setTx_not]
      exact hwaiting
  · rw [hstep]
    obtain ⟨w, hw, hwid, hwemail⟩ : ∃ w : UserRow, t.written = [w] ∧ w.id = row.id ∧
        w.email = email := by
      rcases hrow with hsame | hnew
      · exact ⟨row, hsame.trans hwritten, rfl, hemail⟩
      · exact hnew
    refine Agreed.pending j w ⟨hu.noUser, hu.fresh, hu.grants⟩ (hwid.trans hid) hwemail ?_ ?_ ?_
    · rw [setTx_self, hw]
    · rw [setTx_self, hwid]
      exact ht
    · rw [setTx_not]
      exact hwaiting
  · rw [hstep]
    have hglobals := globalsOf_eq_nil (hid ▸ hu.globals j)
    refine Agreed.committed j row user ?_ ?_ (Function.update_self _ _ _) huser (Late.waiting ?_)
    · have hnone : (s.users.filter fun u => decide (u.id ∉ (s.tx j).written.map UserRow.id)).filter
          (fun u => decide (u.email = email)) = [] :=
        List.filter_eq_nil_iff.mpr fun u hmem =>
          by simpa using hu.noUser u (List.mem_of_mem_filter hmem)
      show ((s.users.filter _) ++ (s.tx j).written).filter _ = _
      rw [List.filter_append, hnone, hwritten]
      simp [hemail]
    · exact globalsOf_commitTx (fun _ => hglobals) (by rw [hglobals]; exact Nat.zero_le _)
        hgranted user
    · have hother : (s.commitTx j user).tx (!j) = s.tx (!j) :=
        Function.update_of_ne (by simp) _ _
      rw [hother]
      exact hwaiting

/-- A statement of the other request, while the transaction that has the row is open. -/
lemma agreed_pending_other {j : Bool} (hu : Unclaimed email req s)
    (hid : row.id = (req j).newId) (hemail : row.email = email)
    (hwritten : (s.tx j).written = [row]) (hworking : Working email row.id True (s.tx j))
    (hwaiting : Waiting (s.tx !j)) : Agreed email req (s.statement email req !j) := by
  rcases statement_waiting hwaiting hu with ⟨t, ht, hstep⟩ | hstep | ⟨hfree, -⟩
  · rw [hstep]
    refine Agreed.pending j row ⟨hu.noUser, hu.fresh, hu.grants⟩ hid hemail ?_ ?_ ?_
    · rwa [setTx_not_self]
    · rwa [setTx_not_self]
    · rwa [setTx_self]
  · rw [hstep]
    exact Agreed.pending j row hu hid hemail hwritten hworking hwaiting
  · -- the insert clashes with the row, and is held back
    rw [Bool.not_not, hwritten] at hfree
    simp [UserRow.clash, (candidate_id email (req !j)).2, hemail] at hfree

/-- A statement of the other request, once the row is committed.

**Proof sketch.** By the stage of the other request. If it waits or has been refused, it looks the
address up and finds the committed row, or its insert clashes with that row. If it works on the row
already, its statement goes on with the same row (`statement_working`), or commits it, and then the
row of the address is its own copy under the same identifier. -/
lemma agreed_committed_other {j : Bool} {user : UserRow} (hrows : s.rowsOf email = [row])
    (hglobals : (s.globalsOf row.id).length ≤ 1) (hdone : s.tx j = { phase := .done user })
    (huser : user.id = row.id) (hlate : Late email row (s.globalsOf row.id = []) (s.tx !j)) :
    Agreed email req (s.statement email req !j) := by
  have hfound := lookup_of_rowsOf hrows
  obtain ⟨hmem, hemail⟩ := mem_of_rowsOf hrows
  -- what a step of the other transaction leaves of the committed one
  have hset : ∀ t, Late email row (s.globalsOf row.id = []) t →
      Agreed email req (s.setTx (!j) t) := by
    intro t ht
    refine Agreed.committed j row user hrows hglobals ?_ huser ?_
    · rw [setTx_not_self, hdone]
    · rw [setTx_self]
      exact ht
  have hstay : Agreed email req s := Agreed.committed j row user hrows hglobals hdone huser hlate
  have hhas : ∀ phase, phase = Phase.assign row → (s.tx !j).written = [] → (s.tx !j).granted = [] →
      Late email row (s.globalsOf row.id = []) { s.tx !j with phase := phase } := by
    rintro phase rfl hwritten hgranted
    exact Late.working ⟨row, rfl, hemail, Or.inl ⟨Or.inl rfl, hgranted⟩⟩ (Or.inl hwritten)
  cases hlate with
  | waiting h =>
    have hvisible := visibleUsers_of_nil h.written
    unfold statement
    rcases h.phase with hphase | hphase | hphase | ⟨e, -, hphase⟩
    · simp only [hphase, hvisible, hfound]
      exact hset _ (hhas _ rfl h.written h.granted)
    · have hclash : s.users.any (candidate (req !j).newId email (req !j).displayName
          (req !j).roles).clash = true :=
        List.any_eq_true.mpr ⟨row, hmem, by
          simp [UserRow.clash, (candidate_id email (req !j)).2, hemail]⟩
      simp only [hphase]
      unfold insertCandidate
      simp only [hvisible, hclash, if_true]
      split_ifs
      · exact hset _ (Late.waiting (waiting_failed (e := .dataError) nofun))
      · exact hset _ (Late.refused rfl h.written h.granted)
    · simpa only [hphase] using hstay
    · simpa only [hphase] using hstay
  | refused hphase hwritten hgranted =>
    unfold statement
    simp only [hphase, visibleUsers_of_nil hwritten, hfound]
    exact hset _ (hhas _ rfl hwritten hgranted)
  | working h hwritten =>
    have hother : (s.tx !!j).written = [] ∧ (s.tx !!j).granted = [] := by
      rw [Bool.not_not, hdone]
      exact ⟨rfl, rfl⟩
    rcases statement_working h hwritten hother globalsOf_eq_nil with
      ⟨e, he, hstep⟩ | ⟨t, ht, hrow, hstep⟩ | ⟨user', huser', hgranted, hstep⟩
    · rw [hstep]
      exact hset _ (Late.waiting (waiting_failed he))
    · rw [hstep]
      refine hset t (Late.working ht ?_)
      rcases hrow with hsame | hnew
      · rwa [hsame]
      · exact Or.inr hnew
    · rw [hstep]
      have hcommitted := globalsOf_commitTx id hglobals hgranted user'
      obtain ⟨w, hw, hwid⟩ : ∃ w, (s.commitTx (!j) user').rowsOf email = [w] ∧ w.id = row.id := by
        rcases hwritten with hnil | ⟨w, hw, hwid, hwemail⟩
        · refine ⟨row, ?_, rfl⟩
          show (s.visibleUsers !j).filter _ = _
          rw [visibleUsers_of_nil hnil]
          exact hrows
        · refine ⟨w, ?_, hwid⟩
          have hgone : ((s.users.filter fun u =>
              decide (u.id ∉ (s.tx !j).written.map UserRow.id)).filter
              fun u => decide (u.email = email)) = [] := by
            rw [List.filter_comm]
            show (s.rowsOf email).filter _ = []
            rw [hrows, hw]
            simp [hwid]
          show ((s.users.filter _) ++ (s.tx !j).written).filter _ = _
          rw [List.filter_append, hgone, hw]
          simp [hwemail]
      rw [← hwid] at hcommitted
      refine Agreed.committed j w user hw hcommitted ?_ (huser.trans hwid.symm)
        (Late.done user' (Function.update_self _ _ _) (huser'.trans hwid.symm))
      exact (Function.update_of_ne (by simp) _ _).trans hdone
  | done user' h _ =>
    unfold statement
    simpa only [h] using hstay

/-- A request that is over stays as it is. -/
lemma statement_of_over (h : (s.tx i).phase.over = true) : s.statement email req i = s := by
  unfold statement
  cases hphase : (s.tx i).phase with
  | done => rfl
  | failed => rfl
  | aborted => rfl
  | _ => rw [hphase] at h; exact Bool.noConfusion h

/-- A request ends otherwise, or is over. -/
lemma abort_cases (s : FirstRequests) (i : Bool) :
    (s.tx i).phase.over = true ∧ s.abort i = s ∨ s.abort i = s.rollBack i .aborted := by
  unfold FirstRequests.abort
  cases (s.tx i).phase with
  | done => exact Or.inl ⟨rfl, rfl⟩
  | failed => exact Or.inl ⟨rfl, rfl⟩
  | aborted => exact Or.inl ⟨rfl, rfl⟩
  | _ => exact Or.inr rfl

/-- A rollback of a request while nobody has committed a row. -/
lemma agreed_rollBack {k : Bool} (hu : Unclaimed email req s) (hw : Waiting (s.tx !k)) :
    Agreed email req (s.rollBack k .aborted) := by
  refine Agreed.nobody ⟨hu.noUser, hu.fresh, hu.grants⟩ fun i => ?_
  unfold rollBack
  rcases Bool.eq_or_eq_not i k with rfl | rfl
  · rw [setTx_self]
    exact waiting_aborted
  · rwa [setTx_not]

/-- A request ends otherwise. -/
lemma agreed_abort (h : Agreed email req s) (k : Bool) : Agreed email req (s.abort k) := by
  rcases abort_cases s k with ⟨-, hstay⟩ | hrolled
  · rwa [hstay]
  cases h with
  | nobody hu hw =>
    rw [hrolled]
    exact agreed_rollBack hu (hw _)
  | pending j row hu hid hemail hwritten hworking hwaiting =>
    rw [hrolled]
    rcases Bool.eq_or_eq_not k j with rfl | rfl
    · exact agreed_rollBack hu hwaiting
    · refine Agreed.pending j row ⟨hu.noUser, hu.fresh, hu.grants⟩ hid hemail ?_ ?_ ?_
      · rwa [rollBack, setTx_not_self]
      · rwa [rollBack, setTx_not_self]
      · rw [rollBack, setTx_self]
        exact waiting_aborted
  | committed j row user hrows hglobals hdone huser hlate =>
    rcases Bool.eq_or_eq_not k j with rfl | rfl
    · have hstay : s.abort k = s := by
        unfold FirstRequests.abort
        rw [hdone]
      rw [hstay]
      exact Agreed.committed k row user hrows hglobals hdone huser hlate
    · rw [hrolled]
      refine Agreed.committed j row user hrows hglobals ?_ huser ?_
      · rwa [rollBack, setTx_not_self]
      · rw [rollBack, setTx_self]
        exact Late.waiting waiting_aborted

/-- **A step keeps the two requests in agreement.** -/
theorem agreed_step (h : Agreed email req s) (e : FirstEvent) :
    Agreed email req (s.step email req e) := by
  cases e with
  | abort k => exact agreed_abort h k
  | run k =>
    cases h with
    | nobody hu hw => exact agreed_nobody hu hw k
    | pending j row hu hid hemail hwritten hworking hwaiting =>
      rcases Bool.eq_or_eq_not k j with rfl | rfl
      · exact agreed_pending hu hid hemail hwritten hworking hwaiting
      · exact agreed_pending_other hu hid hemail hwritten hworking hwaiting
    | committed j row user hrows hglobals hdone huser hlate =>
      rcases Bool.eq_or_eq_not k j with rfl | rfl
      · have hstay : s.step email req (.run k) = s := statement_of_over (by rw [hdone]; rfl)
        rw [hstay]
        exact Agreed.committed k row user hrows hglobals hdone huser hlate
      · exact agreed_committed_other hrows hglobals hdone huser hlate

/-- At the beginning nobody has the e-mail address. -/
theorem agreed_begin (h : s.Begin email req) : Agreed email req s := by
  refine Agreed.nobody ⟨h.noUser, h.fresh, fun i g hg heq => ?_⟩ fun i => ?_
  · obtain ⟨u, hu, hid⟩ := List.mem_map.mp (h.grantUser g hg)
    exact h.fresh i u hu (hid.trans heq)
  · rw [h.tx i]
    exact ⟨rfl, rfl, Or.inl rfl⟩

/-! ## What is returned -/

/-- A request without a user has returned none. -/
lemma Waiting.phase_ne_done (h : Waiting t) : t.phase ≠ .done user := by
  intro hdone
  rcases h.phase with h | h | h | ⟨e, -, h⟩ <;> rw [hdone] at h <;> cases h

/-- A request that has no user has not met the error that a lost row would be. -/
lemma Waiting.phase_ne_failed (h : Waiting t) : t.phase ≠ .failed .runtimeError := by
  intro hfailed
  rcases h.phase with h | h | h | ⟨e, he, h⟩ <;> rw [hfailed] at h <;> cases h
  exact he rfl

/-- A request that has a user is not over. -/
lemma Working.not_over {id : String} {free : Prop} (h : Working email id free t) :
    t.phase.over = false := by
  obtain ⟨user, -, -, ⟨h | h, -⟩ | ⟨h, -⟩ | ⟨h, -⟩⟩ := h <;> rw [h] <;> rfl

/-- **A user that is returned** is the one that is committed. -/
theorem Agreed.returned (h : Agreed email req s) (hdone : (s.tx i).phase = .done user) :
    ∃ row, s.rowsOf email = [row] ∧ row.id = user.id := by
  have hover : (s.tx i).phase.over = true := by rw [hdone]; rfl
  cases h with
  | nobody hu hw => exact absurd hdone (hw i).phase_ne_done
  | pending j row hu hid hemail hwritten hworking hwaiting =>
    rcases Bool.eq_or_eq_not i j with rfl | rfl
    · exact absurd (hworking.not_over.symm.trans hover) Bool.false_ne_true
    · exact absurd hdone hwaiting.phase_ne_done
  | committed j row user' hrows hglobals hdone' huser hlate =>
    refine ⟨row, hrows, ?_⟩
    rcases Bool.eq_or_eq_not i j with rfl | rfl
    · rw [hdone'] at hdone
      cases hdone
      exact huser.symm
    · cases hlate with
      | waiting h => exact absurd hdone h.phase_ne_done
      | refused h => rw [hdone] at h; cases h
      | working h => exact absurd (h.not_over.symm.trans hover) Bool.false_ne_true
      | done user'' h hid =>
        rw [h] at hdone
        cases hdone
        exact hid.symm

/-- The row of the e-mail address is never lost. -/
theorem Agreed.not_lost (h : Agreed email req s) (i : Bool) :
    (s.tx i).phase ≠ .failed .runtimeError := by
  intro hfailed
  have hover : (s.tx i).phase.over = true := by rw [hfailed]; rfl
  cases h with
  | nobody hu hw => exact (hw i).phase_ne_failed hfailed
  | pending j row hu hid hemail hwritten hworking hwaiting =>
    rcases Bool.eq_or_eq_not i j with rfl | rfl
    · exact absurd (hworking.not_over.symm.trans hover) Bool.false_ne_true
    · exact hwaiting.phase_ne_failed hfailed
  | committed j row user' hrows hglobals hdone' huser hlate =>
    rcases Bool.eq_or_eq_not i j with rfl | rfl
    · rw [hdone'] at hfailed
      cases hfailed
    · cases hlate with
      | waiting h => exact h.phase_ne_failed hfailed
      | refused h => rw [hfailed] at h; cases h
      | working h => exact absurd (h.not_over.symm.trans hover) Bool.false_ne_true
      | done user'' h hid => rw [h] at hfailed; cases hfailed

/-- **One row, and one global grant for it.** -/
theorem Agreed.atMostOne (h : Agreed email req s) :
    (s.rowsOf email).length ≤ 1 ∧ ∀ row ∈ s.rowsOf email, (s.globalsOf row.id).length ≤ 1 := by
  have hnone : Unclaimed email req s → s.rowsOf email = [] := fun hu =>
    List.filter_eq_nil_iff.mpr fun u hu' => by simpa using hu.noUser u hu'
  cases h with
  | nobody hu => simp [hnone hu]
  | pending j row hu => simp [hnone hu]
  | committed j row user hrows hglobals =>
    rw [hrows]
    refine ⟨le_refl 1, fun row' hmem => ?_⟩
    rwa [List.mem_singleton.mp hmem]

/-! ## Both requests come to their end -/

/-- How many statements a request is from its end. -/
def Phase.rank : Phase → Nat
  | .lookup => 7
  | .insert => 6
  | .relookup => 5
  | .assign _ => 4
  | .check _ => 3
  | .grant _ => 2
  | .commit _ => 1
  | .done _ | .failed _ | .aborted => 0

/-- A request past its roles has steps left. -/
lemma rank_afterRoles_lt : (FirstRequests.afterRoles req i user).rank < 4 := by
  unfold FirstRequests.afterRoles
  split_ifs <;> simp [Phase.rank]

variable (email req) in
/-- Nothing that the other transaction has written holds a statement back.

**Proof sketch.** By the phase: each statement goes on to a phase of lower rank, or ends its
transaction. -/
lemma statement_rank (hother : (s.tx !i).written = [] ∧ (s.tx !i).granted = [])
    (hover : (s.tx i).phase.over = false) :
    ((s.statement email req i).tx i).phase.rank < (s.tx i).phase.rank ∧
      (s.statement email req i).tx (!i) = s.tx (!i) := by
  unfold statement
  cases hphase : (s.tx i).phase with
  | lookup =>
    simp only
    cases Table.lookup UserRow.email email (s.visibleUsers i) with
    | none => simp [goTo, Phase.rank]
    | some user => simp [goTo, Phase.rank]
  | insert =>
    simp only
    unfold insertCandidate
    simp only [hother.1, List.any_nil, Bool.false_eq_true, if_false]
    split_ifs <;> simp [goTo, rollBack, Phase.rank]
  | relookup =>
    simp only
    cases Table.lookup UserRow.email email (s.visibleUsers i) with
    | none => simp [rollBack, Phase.rank]
    | some user => simp [goTo, Phase.rank]
  | assign user =>
    have hafter : ∀ user : UserRow, (FirstRequests.afterRoles req i user).rank < 4 :=
      fun _ => rank_afterRoles_lt
    simp only
    unfold assignUser
    cases (req i).roles with
    | none => simpa [goTo, Phase.rank] using hafter user
    | some roles =>
      simp only [hother.1, List.any_nil, Bool.false_eq_true, if_false]
      split_ifs
      · simpa [goTo, Phase.rank] using hafter user
      · simp [rollBack, Phase.rank]
      · simpa [Phase.rank] using hafter _
  | check user =>
    simp only
    split_ifs <;> simp [goTo, Phase.rank]
  | grant user =>
    simp only
    unfold insertGrant
    simp only [hother.2, List.any_nil, Bool.false_eq_true, if_false]
    split_ifs <;> simp [goTo, Phase.rank]
  | commit user =>
    refine ⟨?_, Function.update_of_ne (by simp) _ _⟩
    simp [commitTx, Phase.rank]
  | done | failed | aborted => rw [hphase] at hover; exact Bool.noConfusion hover

/-- One of the two requests can go on, or both are over. -/
lemma Agreed.can_go_on (h : Agreed email req s) :
    (∀ i, (s.tx i).phase.over = true) ∨ ∃ i, (s.tx i).phase.over = false ∧
      (s.tx !i).written = [] ∧ (s.tx !i).granted = [] := by
  cases h with
  | nobody hu hw =>
    by_cases hall : ∀ i, (s.tx i).phase.over = true
    · exact Or.inl hall
    · obtain ⟨i, hi⟩ := not_forall.mp hall
      exact Or.inr ⟨i, Bool.eq_false_iff.mpr hi, (hw _).written, (hw _).granted⟩
  | pending j row hu hid hemail hwritten hworking hwaiting =>
    exact Or.inr ⟨j, hworking.not_over, hwaiting.written, hwaiting.granted⟩
  | committed j row user hrows hglobals hdone =>
    cases hother : (s.tx !j).phase.over with
    | true =>
      refine Or.inl fun i => ?_
      rcases Bool.eq_or_eq_not i j with rfl | rfl
      · rw [hdone]
        rfl
      · exact hother
    | false =>
      refine Or.inr ⟨!j, hother, ?_⟩
      rw [Bool.not_not, hdone]
      exact ⟨rfl, rfl⟩

/-- **No deadlock**: the statements that are left can be put in an order in which both requests come
to their end. -/
theorem Agreed.can_finish (h : Agreed email req s) : ∃ order : List Bool, ∀ i,
    ((Machine.run (FirstRequests.step email req) s (order.map .run)).tx i).phase.over = true := by
  induction hrank : (s.tx true).phase.rank + (s.tx false).phase.rank using Nat.strong_induction_on
    generalizing s with
  | _ n ih =>
    rcases h.can_go_on with hall | ⟨i, hover, hother⟩
    · exact ⟨[], hall⟩
    · obtain ⟨hlt, hsame⟩ := statement_rank email req hother hover
      have hless : ((s.statement email req i).tx true).phase.rank +
          ((s.statement email req i).tx false).phase.rank < n := by
        rw [← hrank]
        cases i with
        | true =>
          have hfalse : (s.statement email req true).tx false = s.tx false := hsame
          rw [hfalse]
          omega
        | false =>
          have htrue : (s.statement email req false).tx true = s.tx true := hsame
          rw [htrue]
          omega
      obtain ⟨order, horder⟩ := ih _ hless (agreed_step h (.run i)) rfl
      exact ⟨i :: order, horder⟩

/-! ## Values that fit -/

/-- The values of a request fit the columns of `users`. -/
def FirstRequest.Fits (email : String) (r : FirstRequest) : Prop :=
  (candidate r.newId email r.displayName r.roles).bindable = true ∧
    ∀ roles ∈ r.roles, Column.fits 512 (",".intercalate roles) = true

/-- A request has a user whose values fit, and has not failed on a value or ended otherwise. -/
def Phase.Fit : Phase → Prop
  | .assign user | .check user | .grant user | .commit user => user.bindable = true
  | .failed e => e = .runtimeError
  | .aborted => False
  | _ => True

/-- The rows of a transaction fit, and its user. -/
structure Transaction.Fit (t : Transaction) : Prop where
  phase : t.phase.Fit
  written : ∀ u ∈ t.written, u.bindable = true

/-- The rows of the e-mail address fit. -/
structure FirstRequests.Fit (email : String) (s : FirstRequests) : Prop where
  users : ∀ u ∈ s.users, u.email = email → u.bindable = true
  tx : ∀ i, (s.tx i).Fit

/-- Both requests fit after a step of one. -/
lemma FirstRequests.Fit.setTx (h : s.Fit email) (ht : t.Fit) : (s.setTx i t).Fit email := by
  refine ⟨h.users, fun k => ?_⟩
  rcases Bool.eq_or_eq_not k i with rfl | rfl
  · rwa [setTx_self]
  · rw [setTx_not]
    exact h.tx _

/-- The user that a lookup finds fits. -/
lemma FirstRequests.Fit.found (h : s.Fit email)
    (hfound : Table.lookup UserRow.email email (s.visibleUsers i) = some user) :
    user.bindable = true := by
  have hemail : user.email = email :=
    of_decide_eq_true (List.find?_some (p := fun u : UserRow => decide (u.email = email)) hfound)
  rcases List.mem_append.mp (List.mem_of_find?_eq_some hfound) with hmem | hmem
  · exact h.users user (List.mem_of_mem_filter hmem) hemail
  · exact (h.tx i).written user hmem

/-- The user with other roles that fit. -/
lemma bindable_roles (h : user.bindable = true) {column : String}
    (hfits : Column.fits 512 column = true) :
    { user with roles := some column : UserRow }.bindable = true := by
  unfold UserRow.bindable at h ⊢
  simp only [Bool.and_eq_true] at h ⊢
  exact ⟨h.1, hfits⟩

/-- A statement keeps the rows fitting.

**Proof sketch.** By the phase of the request: what it goes on with is a row that it has found,
which fits, or one made of its own claims, which fit by assumption. -/
lemma fit_statement (hreq : ∀ i, (req i).Fits email) (h : s.Fit email) (i : Bool) :
    (s.statement email req i).Fit email := by
  have hgo : ∀ phase : Phase, phase.Fit → (s.goTo i phase).Fit email := fun phase hphase =>
    h.setTx ⟨hphase, (h.tx i).written⟩
  have hafter : ∀ user : UserRow, user.bindable = true → (afterRoles req i user).Fit := by
    intro user huser
    unfold FirstRequests.afterRoles
    split_ifs <;> exact huser
  have hi := (h.tx i).phase
  unfold statement
  cases hphase : (s.tx i).phase with
  | lookup =>
    cases hfound : Table.lookup UserRow.email email (s.visibleUsers i) with
    | none => exact hgo .insert trivial
    | some user => exact hgo (.assign user) (h.found hfound)
  | insert =>
    simp only
    unfold insertCandidate
    simp only [(hreq i).1, Bool.not_true, Bool.false_eq_true, if_false]
    split_ifs
    · exact hgo .relookup trivial
    · exact h
    · refine h.setTx ⟨(hreq i).1, fun u hu => ?_⟩
      rcases List.mem_append.mp hu with hold | hnew
      · exact (h.tx i).written u hold
      · rw [List.mem_singleton.mp hnew]
        exact (hreq i).1
  | relookup =>
    cases hfound : Table.lookup UserRow.email email (s.visibleUsers i) with
    | none => exact h.setTx ⟨rfl, nofun⟩
    | some user => exact hgo (.assign user) (h.found hfound)
  | assign user =>
    rw [hphase] at hi
    simp only
    unfold assignUser
    cases hroles : (req i).roles with
    | none => exact hgo _ (hafter user hi)
    | some roles =>
      have hrow := bindable_roles hi ((hreq i).2 roles hroles)
      simp only [hrow, Bool.not_true, Bool.false_eq_true, if_false]
      split_ifs
      · exact hgo _ (hafter user hi)
      · exact h
      · refine h.setTx ⟨hafter _ hrow, fun u hu => ?_⟩
        rcases List.mem_append.mp hu with hold | hnew
        · exact (h.tx i).written u (List.mem_of_mem_filter hold)
        · rw [List.mem_singleton.mp hnew]
          exact hrow
  | check user =>
    rw [hphase] at hi
    simp only
    split_ifs
    · exact hgo (.commit user) hi
    · exact hgo (.grant user) hi
  | grant user =>
    rw [hphase] at hi
    unfold insertGrant
    dsimp only
    split_ifs
    · exact hgo (.commit user) hi
    · exact h
    · exact h.setTx ⟨hi, (h.tx i).written⟩
  | commit user =>
    refine ⟨fun u hu hemail => ?_, fun k => ?_⟩
    · rcases List.mem_append.mp hu with hold | hnew
      · exact h.users u (List.mem_of_mem_filter hold) hemail
      · exact (h.tx i).written u hnew
    · simp only [commitTx]
      rcases Bool.eq_or_eq_not k i with rfl | rfl
      · rw [Function.update_self]
        exact ⟨trivial, nofun⟩
      · rw [Function.update_of_ne (by simp)]
        exact h.tx _
  | done | failed | aborted => exact h

/-- Where the values fit, a request fails on none of them. -/
lemma fit_run (hreq : ∀ i, (req i).Fits email) {es : List FirstEvent}
    (hes : ∀ e ∈ es, ∃ i, e = .run i) (h : s.Fit email) :
    (Machine.run (FirstRequests.step email req) s es).Fit email := by
  induction es generalizing s with
  | nil => exact h
  | cons e es ih =>
    obtain ⟨i, rfl⟩ := hes e List.mem_cons_self
    exact ih (fun e he => hes e (List.mem_cons_of_mem _ he)) (fit_statement hreq h i)

/-- They fit at the start. -/
lemma fit_begin (h : s.Begin email req) : s.Fit email := by
  refine ⟨fun u hu hemail => absurd hemail (h.noUser u hu), fun i => ?_⟩
  rw [h.tx i]
  exact ⟨trivial, nofun⟩

/-- **The first two requests of a user.** Whatever the order of the statements, and of the requests
that end otherwise, there is at most one user with the e-mail address, at most one global grant for
it, and every request that returns a user returns this one; neither request loses the row, and from
every state both can come to their end. Where the values fit and no request ends otherwise, both
have returned the one user then. -/
theorem firstRequests_exact (h : s.Begin email req) (es : List FirstEvent) :
    let t := Machine.run (FirstRequests.step email req) s es
    ((t.rowsOf email).length ≤ 1 ∧ ∀ row ∈ t.rowsOf email, (t.globalsOf row.id).length ≤ 1) ∧
      (∀ i user, (t.tx i).phase = .done user →
        ∃ row, t.rowsOf email = [row] ∧ row.id = user.id) ∧
      (∀ i, (t.tx i).phase ≠ .failed .runtimeError) ∧
      (∃ order : List Bool, ∀ i, ((Machine.run (FirstRequests.step email req) t
        (order.map .run)).tx i).phase.over = true) ∧
      ((∀ i, (req i).Fits email) → (∀ e ∈ es, ∃ i, e = .run i) →
        (∀ i, (t.tx i).phase.over = true) → ∃ row, t.rowsOf email = [row] ∧
          ∀ i, ∃ user, (t.tx i).phase = .done user ∧ user.id = row.id) := by
  intro t
  have ht : Agreed email req t :=
    Machine.run_invariant (fun _ e ih => agreed_step ih e) (agreed_begin h)
  refine ⟨ht.atMostOne, fun i user => ht.returned, ht.not_lost, ht.can_finish, ?_⟩
  intro hreq hes hover
  have hfit : t.Fit email := fit_run hreq hes (fit_begin h)
  have hdone : ∀ i, ∃ user, (t.tx i).phase = .done user := by
    intro i
    have hphase := (hfit.tx i).phase
    have hend := hover i
    cases hi : (t.tx i).phase with
    | done user => exact ⟨user, rfl⟩
    | failed e =>
      rw [hi] at hphase
      exact absurd (hi.trans (congrArg Phase.failed hphase)) (ht.not_lost i)
    | aborted =>
      rw [hi] at hphase
      exact hphase.elim
    | _ =>
      rw [hi] at hend
      exact Bool.noConfusion hend
  obtain ⟨user, huser⟩ := hdone true
  obtain ⟨row, hrow, -⟩ := ht.returned huser
  refine ⟨row, hrow, fun i => ?_⟩
  obtain ⟨user', huser'⟩ := hdone i
  obtain ⟨row', hrow', hid⟩ := ht.returned huser'
  obtain rfl : row = row' := List.singleton_inj.mp (hrow.symm.trans hrow')
  exact ⟨user', huser', hid.symm⟩

end Steps

/-- Two requests that overlap: the second insert is held back, and refused after the commit. -/
theorem firstRequests_exact_overlapping :
    let req : Bool → FirstRequest := fun i => ⟨if i then "1" else "2", none, none, true⟩
    let s : FirstRequests := ⟨[], [], fun _ => {}⟩
    let order := [true, false, true, false, true, true, true, false, true, false, false, false, false,
      false]
    ∃ row, (Machine.run (FirstRequests.step "ana@ovc" req) s (order.map .run)).rowsOf "ana@ovc" =
      [row] ∧ ∀ i, ∃ user, ((Machine.run (FirstRequests.step "ana@ovc" req) s
        (order.map .run)).tx i).phase = .done user ∧ user.id = row.id := by
  intro req s order
  have hbegin : s.Begin "ana@ovc" req := ⟨fun _ => rfl, nofun, fun _ => nofun, nofun⟩
  have hfits : ∀ i, (req i).Fits "ana@ovc" := fun i => ⟨by cases i <;> decide +kernel, nofun⟩
  have hover : ∀ i, ((Machine.run (FirstRequests.step "ana@ovc" req) s
      (order.map .run)).tx i).phase.over = true := by decide +kernel
  refine (firstRequests_exact hbegin (order.map .run)).2.2.2.2 hfits (fun e he => ?_) hover
  obtain ⟨i, -, rfl⟩ := List.mem_map.mp he
  exact ⟨i, rfl⟩

end OpenVCenter
