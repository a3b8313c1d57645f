import OpenVCenter.Foundations.Separated
import OpenVCenter.Rbac

set_option relaxedAutoImplicit false
set_option autoImplicit false

/-!
# Roles of a token

`services/auth.py` and the reader of the token's roles in `api/deps.py`: the roles of the identity
provider are joined with commas into one column of `users`, and `resolve_scope` splits the column.

## Main definitions

* `OpenVCenter.Accounts` — the tables `users` and `scope_grants`.
* `OpenVCenter.tokenRoles`, `OpenVCenter.getOrCreateUser`, `OpenVCenter.scopeOf`.

## Main results

* `OpenVCenter.mem_roleList_joined` — the roles that are read back.
* `OpenVCenter.seesAll_iff_admin_iff` — the tokens whose roles decide who sees everything.
-/

namespace OpenVCenter

open Effect

/-! ## The token -/

/-- `_claim_by_path`. -/
def claimByPath (claims : Dict) (path : String) : Json :=
  (splitChar '.' path).foldl (fun node part =>
    match node.asDict? with
    | some d => d.get part
    | none => .null) (.obj claims)

/-- `value.split()`. -/
def PyStd.splitSpaces (py : PyStd) (s : String) : List String :=
  ((s.toList.splitOnP py.isSpace).filter fun w => !w.isEmpty).map String.ofList

/-- `_token_roles`. -/
def tokenRoles (py : PyStd) (rolesClaim clientId : String) (claims : Dict) : List String :=
  match claimByPath claims (rolesClaim.replace "$\x7bclient_id\x7d" clientId) with
  | .arr vs => vs.map py.str
  | .str s => py.splitSpaces s
  | _ => []

/-! ## Users -/

open Column in
/-- The values fit the columns of `users`. -/
def UserRow.bindable (user : UserRow) : Bool :=
  fits 255 user.email && opt (fits 255) user.displayName && opt (fits 512) user.roles

/-- The tables of the accounts, as a request sees them. `arriving` are the users that other
requests commit before its next insert. -/
structure Accounts where
  users : List UserRow
  grants : List ScopeGrant
  arriving : List UserRow := []

namespace Accounts

/-- Every user there is at the next insert. -/
def everyone (s : Accounts) : List UserRow := s.users ++ s.arriving

/-- The constraints of the tables. -/
structure Consistent (s : Accounts) : Prop where
  ids : (s.everyone.map UserRow.id).Nodup
  emails : (s.everyone.map UserRow.email).Nodup
  fits : ∀ u ∈ s.everyone, u.bindable = true
  grantUser : ∀ g ∈ s.grants, g.userId ∈ s.everyone.map UserRow.id

end Accounts

/-- The flush before a query. -/
def flushUsers : Prog Accounts Raised Unit := do
  let s ← Prog.read
  if s.users.all UserRow.bindable then pure () else Prog.raise .dataError

/-- `_lookup`. -/
def lookupUser (email : String) : Prog Accounts Raised (Option UserRow) := do
  flushUsers
  let s ← Prog.read
  pure (Table.lookup UserRow.email email s.users)

/-- `async with db.begin_nested()` around the insert of a user: none for an `IntegrityError`. -/
def insertUser (user : UserRow) : Prog Accounts Raised (Option UserRow) := fun s =>
  let s := { s with users := s.everyone, arriving := [] }
  if !user.bindable then (.error .dataError, s)
  else if s.users.any fun u => decide (u.id = user.id) || decide (u.email = user.email) then
    (.ok none, s)
  else (.ok (some user), { s with users := s.users ++ [user] })

/-- `_grants`. -/
def grantsOfUser (userId : String) : Prog Accounts Raised (List ScopeGrant) := do
  flushUsers
  let s ← Prog.read
  pure (s.grants.filter fun g => decide (g.userId = userId))

/-- The candidate of `get_or_create_user`. -/
def candidate (newId email : String) (displayName : Option String) (roles : Option (List String)) :
    UserRow where
  id := newId
  email := email
  displayName := some ((nonEmpty displayName).getD ((splitChar '@' email).headD ""))
  roles :=
    match roles with
    | some (r :: roles) => some (",".intercalate (r :: roles))
    | _ => none

/-- `user.roles = ",".join(roles)`, unless the roles are None. -/
def assignRoles (roles : Option (List String)) (user : UserRow) : Prog Accounts Raised UserRow :=
  match roles with
  | some roles => do
    let user := { user with roles := some (",".intercalate roles) }
    Prog.modify fun s => { s with users := Table.store UserRow.id user s.users }
    pure user
  | none => pure user

/-- The end of `get_or_create_user`. -/
def grantGlobally (grantGlobal : Bool) (user : UserRow) : Prog Accounts Raised Unit := do
  if grantGlobal then
    let grants ← grantsOfUser user.id
    unless grants.any fun g => decide (g.level = .global) do
      Prog.modify fun s =>
        { s with grants := s.grants ++ [⟨user.id, .global, none, nofun⟩] }

/-- The row of the user, made if there is none. -/
def findOrInsertUser (newId email : String) (displayName : Option String)
    (roles : Option (List String)) : Prog Accounts Raised (Option UserRow) := do
  match ← lookupUser email with
  | some user => pure (some user)
  | none =>
    match ← insertUser (candidate newId email displayName roles) with
    | some user => pure (some user)
    | none => lookupUser email

/-- `get_or_create_user`. -/
def getOrCreateUser (newId email : String) (displayName : Option String)
    (roles : Option (List String)) (grantGlobal : Bool) : Prog Accounts Raised UserRow := do
  match ← findOrInsertUser newId email displayName roles with
  | none => Prog.raise .runtimeError
  | some user => do
    let user ← assignRoles roles user
    grantGlobally grantGlobal user
    pure user

/-- `resolve_scope`: the admin role is looked for before the first query. -/
def scopeOf (adminRole : String) (db : Db) (user : UserRow) :
    Prog Accounts Raised VisibleScope := do
  if adminRole ∈ user.roleList then pure { all := true }
  else
    let grants ← grantsOfUser user.id
    pure (resolveScope adminRole db grants user)

/-- `get_current_user` under OIDC, then `get_scope`. -/
def requestScope (adminRole : String) (db : Db) (newId email : String) (displayName : Option String)
    (roles : List String) : Prog Accounts Raised VisibleScope := do
  let user ← getOrCreateUser newId email displayName (some roles) false
  scopeOf adminRole db user

/-! ## The column of the roles -/

/-- The pieces of a text. -/
private lemma mem_splitChar {sep : Char} {piece text : String} :
    piece ∈ splitChar sep text ↔ piece.toList ∈ text.toList.splitOn sep := by
  unfold splitChar
  rw [List.mem_map]
  constructor
  · rintro ⟨w, hw, rfl⟩
    rwa [String.toList_ofList]
  · exact fun h => ⟨piece.toList, h, String.ofList_toList⟩

/-- A token may carry every list of roles. -/
theorem tokenRoles_arr {py : PyStd} {rolesClaim clientId : String} {claims : Dict}
    {roles : List String}
    (h : claimByPath claims (rolesClaim.replace "$\x7bclient_id\x7d" clientId) =
      .arr (roles.map .str)) :
    tokenRoles py rolesClaim clientId claims = roles := by
  unfold tokenRoles
  rw [h]
  simp only [List.map_map]
  exact List.map_id roles

variable {adminRole : String} {roles : List String}

/-- The column is empty for no role and for one empty role. -/
private lemma joined_eq_empty : ",".intercalate roles = "" ↔ roles = [] ∨ roles = [""] := by
  rw [← String.toList_inj, String.toList_intercalate]
  have hempty : [','].intercalate (roles.map String.toList) = [] ↔
      roles.map String.toList = [] ∨ roles.map String.toList = [[]] := Separated.intercalate_eq_nil
  refine hempty.trans (or_congr List.map_eq_nil_iff ?_)
  rw [List.map_eq_singleton_iff]
  simp

/-- **The roles that are read back** from the column. -/
lemma mem_roleList_joined (user : UserRow) (hroles : roles ≠ [""]) :
    (adminRole ∈ { user with roles := some (",".intercalate roles) : UserRow }.roleList ↔
        adminRole ∈ roles) ↔
      if adminRole ∈ roles then ',' ∉ adminRole.toList
      else ∀ r ∈ roles, adminRole ∉ splitChar ',' r := by
  by_cases hnil : roles = []
  · have hcolumn : { user with roles := some (",".intercalate roles) : UserRow }.roleList = [] := by
      rw [hnil, String.intercalate_nil]
      rfl
    rw [hcolumn, hnil]
    simp
  · have hne : ",".intercalate roles ≠ "" := by
      rw [ne_eq, joined_eq_empty, not_or]
      exact ⟨hnil, hroles⟩
    have hcolumn : { user with roles := some (",".intercalate roles) : UserRow }.roleList =
        splitChar ',' (",".intercalate roles) := by
      simp [UserRow.roleList, nonEmpty, hne]
    have hwords : roles.map String.toList ≠ [] := mt List.map_eq_nil_iff.mp hnil
    have hmem : adminRole.toList ∈ roles.map String.toList ↔ adminRole ∈ roles :=
      List.mem_map_of_injective fun _ _ h => String.toList_injective h
    rw [hcolumn, mem_splitChar, String.toList_intercalate]
    have hkept := @Separated.mem_splitOn_intercalate_iff _ _ _ ',' adminRole.toList _ hwords
    simp only [hmem, List.forall_mem_map] at hkept
    simp only [mem_splitChar]
    exact hkept

/-! ## The scope of a request -/

section Scope

variable {db : Db} {newId email : String} {displayName : Option String} {s : Accounts}

/-- No global grant is for the user of the e-mail address. -/
def NoGlobalGrant (s : Accounts) (email : String) : Prop :=
  ∀ g ∈ s.grants, g.level = .global → ∃ u ∈ s.everyone, u.id = g.userId ∧ u.email ≠ email

/-- The user has a row, or the row that is made for it fits its columns. -/
def Stored (s : Accounts) (newId email : String) (displayName : Option String)
    (roles : List String) : Prop :=
  (∃ u ∈ s.users, u.email = email) ∨
    (candidate newId email displayName (some roles)).bindable = true

/-- Whether an account is stored so can be decided. -/
instance : Decidable (Stored s newId email displayName roles) :=
  inferInstanceAs (Decidable (_ ∨ _))

/-- The user is stored under roles whose column gives the admin role back when it is among them,
and does not give it back otherwise. -/
def RolesKept (adminRole : String) (s : Accounts) (newId email : String)
    (displayName : Option String) (roles : List String) : Prop :=
  if Stored s newId email displayName roles ∧ roles ≠ [""] then
    if adminRole ∈ roles then ',' ∉ adminRole.toList
    else ∀ r ∈ roles, adminRole ∉ splitChar ',' r
  else adminRole ∉ roles

/-- A flush of rows that fit returns. -/
lemma flushUsers_run (h : ∀ u ∈ s.users, u.bindable = true) : flushUsers s = (.ok (), s) := by
  unfold flushUsers
  rw [Prog.read_bind_run, if_pos (List.all_eq_true.mpr h)]
  rfl

/-- It leaves the accounts alone. -/
lemma flushUsers_state (s : Accounts) : (flushUsers s).2 = s := by
  unfold flushUsers
  rw [Prog.read_bind_run]
  split_ifs
  · rfl
  · rfl

/-- A look up flushes, and finds the row of the address. -/
lemma lookupUser_run (h : ∀ u ∈ s.users, u.bindable = true) :
    lookupUser email s = (.ok (Table.lookup UserRow.email email s.users), s) := by
  unfold lookupUser
  rw [Prog.bind_run_ok (flushUsers_run h), Prog.read_bind_run]
  rfl

/-- What the insert does, on a state whose rows fit. -/
lemma insertUser_run (user : UserRow) (hfits : user.bindable = true) :
    insertUser user s =
      if s.everyone.any fun u => decide (u.id = user.id) || decide (u.email = user.email) then
        (.ok none, { s with users := s.everyone, arriving := [] })
      else (.ok (some user), { s with users := s.everyone ++ [user], arriving := [] }) := by
  unfold insertUser
  simp only [hfits, Bool.not_true, Bool.false_eq_true, if_false]

/-- The row of a user that is stored, and the row of nobody else. -/
lemma findOrInsertUser_ok (hc : s.Consistent) (hfresh : newId ∉ s.everyone.map UserRow.id)
    (hstored : Stored s newId email displayName roles) :
    ∃ user t, findOrInsertUser newId email displayName (some roles) s = (.ok (some user), t) ∧
      t.grants = s.grants ∧
      (user.id = newId ∨ ∃ u ∈ s.everyone, u.email = email ∧ u.id = user.id) := by
  have hfits : ∀ u ∈ s.users, u.bindable = true := fun u hu =>
    hc.fits u (List.mem_append_left _ hu)
  unfold findOrInsertUser
  rw [Prog.bind_run_ok (lookupUser_run hfits)]
  rcases hfound : Table.lookup UserRow.email email s.users with _ | user
  · have hnew : ∀ u ∈ s.users, u.email ≠ email := Table.lookup_eq_none.mp hfound
    have hbind : (candidate newId email displayName (some roles)).bindable = true := by
      rcases hstored with ⟨u, hu, hemail⟩ | hbind
      · exact absurd hemail (hnew u hu)
      · exact hbind
    have hinsert := insertUser_run (s := s) _ hbind
    split_ifs at hinsert with hclash
    · -- A concurrent request has made the row: it is reused.
      obtain ⟨u, hu, hsame⟩ := List.any_eq_true.mp hclash
      simp only [Bool.or_eq_true, decide_eq_true_eq] at hsame
      have hemail : u.email = email := by
        refine hsame.resolve_left fun hid => hfresh ?_
        exact List.mem_map.mpr ⟨u, hu, hid⟩
      have hlookup : Table.lookup UserRow.email email s.everyone = some u :=
        (Table.lookup_eq_some hc.emails).mpr ⟨hu, hemail⟩
      refine ⟨u, { users := s.everyone, grants := s.grants }, ?_, rfl, Or.inr ⟨u, hu, hemail, rfl⟩⟩
      simp only []
      rw [Prog.bind_run_ok hinsert]
      have hfind := @lookupUser_run email { users := s.everyone, grants := s.grants } hc.fits
      rw [hlookup] at hfind
      exact hfind
    · refine ⟨candidate newId email displayName (some roles),
        { users := s.everyone ++ [candidate newId email displayName (some roles)],
          grants := s.grants }, ?_, rfl, Or.inl rfl⟩
      simp only []
      rw [Prog.bind_run_ok hinsert]
      rfl
  · exact ⟨user, s, rfl, rfl, Or.inr ⟨user, List.mem_append_left _ (Table.mem_of_lookup hfound),
      Table.key_of_lookup hfound, rfl⟩⟩

/-- A new row that does not fit is refused. -/
lemma findOrInsertUser_error (hc : s.Consistent)
    (hstored : ¬ Stored s newId email displayName roles) :
    ∃ t, findOrInsertUser newId email displayName (some roles) s = (.error .dataError, t) := by
  have hfits : ∀ u ∈ s.users, u.bindable = true := fun u hu =>
    hc.fits u (List.mem_append_left _ hu)
  obtain ⟨hnew, hbind⟩ := not_or.mp hstored
  have hfound : Table.lookup UserRow.email email s.users = none :=
    Table.lookup_eq_none.mpr fun u hu hemail => hnew ⟨u, hu, hemail⟩
  unfold findOrInsertUser
  rw [Prog.bind_run_ok (lookupUser_run hfits), hfound]
  refine ⟨{ s with users := s.everyone, arriving := [] }, ?_⟩
  refine Prog.bind_run_error ?_
  unfold insertUser
  simp [hbind]

/-- Storing the roles of a user who has a row, or gets one. -/
lemma getOrCreateUser_run {user : UserRow} {t : Accounts}
    (h : findOrInsertUser newId email displayName (some roles) s = (.ok (some user), t)) :
    getOrCreateUser newId email displayName (some roles) false s =
      (.ok { user with roles := some (",".intercalate roles) },
        { t with
          users := Table.store UserRow.id { user with roles := some (",".intercalate roles) }
            t.users }) := by
  unfold getOrCreateUser
  rw [Prog.bind_run_ok h]
  rfl

/-- A user without a global grant sees everything by the admin role alone. -/
lemma scopeOf_all_iff {user : UserRow}
    (hglobal : ∀ g ∈ s.grants, g.level = .global → g.userId ≠ user.id) :
    (∃ scope t, scopeOf adminRole db user s = (.ok scope, t) ∧ scope.all = true) ↔
      adminRole ∈ user.roleList := by
  unfold scopeOf
  by_cases hadmin : adminRole ∈ user.roleList
  · rw [if_pos hadmin]
    exact iff_of_true ⟨_, _, rfl, rfl⟩ hadmin
  · rw [if_neg hadmin]
    refine iff_of_false ?_ hadmin
    rintro ⟨scope, t, hrun, hall⟩
    obtain ⟨grants, t', hgrants, hscope⟩ := Prog.bind_eq_ok.mp hrun
    unfold grantsOfUser at hgrants
    obtain ⟨_, t'', hflush, hread⟩ := Prog.bind_eq_ok.mp hgrants
    have hstate : t'' = s := by
      rw [← flushUsers_state s, hflush]
    subst hstate
    obtain ⟨rfl, rfl⟩ : grants = t''.grants.filter (fun g => decide (g.userId = user.id)) ∧
        t' = t'' := by
      cases hread
      exact ⟨rfl, rfl⟩
    obtain ⟨rfl, -⟩ : scope = resolveScope adminRole db
        (t'.grants.filter fun g => decide (g.userId = user.id)) user ∧ t = t' := by
      cases hscope
      exact ⟨rfl, rfl⟩
    have hsees : ¬ SeesAll adminRole
        (t'.grants.filter fun g => decide (g.userId = user.id)) user := by
      rintro (hmem | ⟨g, hg, huser, hlevel⟩)
      · exact hadmin hmem
      · exact hglobal g (List.mem_of_mem_filter hg) hlevel huser
    rw [(resolveScope_sets db hsees).1] at hall
    exact absurd hall (by decide)

/-- Whether the scope of the request sees everything. -/
def SeesAllAs (adminRole : String) (db : Db) (newId email : String) (displayName : Option String)
    (roles : List String) (s : Accounts) : Prop :=
  ∃ scope t, requestScope adminRole db newId email displayName roles s = (.ok scope, t) ∧
    scope.all = true

/-- The scope of the request sees everything when the user is stored and the admin role is read
back from the column. -/
lemma seesAllAs_iff (hc : s.Consistent) (hfresh : newId ∉ s.everyone.map UserRow.id)
    (hglobal : NoGlobalGrant s email) :
    SeesAllAs adminRole db newId email displayName roles s ↔
      Stored s newId email displayName roles ∧
        adminRole ∈ (⟨newId, email, none, some (",".intercalate roles)⟩ : UserRow).roleList := by
  unfold SeesAllAs requestScope
  by_cases hstored : Stored s newId email displayName roles
  · obtain ⟨user, t, hfind, hgrants, hid⟩ := findOrInsertUser_ok hc hfresh hstored
    rw [Prog.bind_run_ok (getOrCreateUser_run hfind), scopeOf_all_iff]
    · exact (and_iff_right hstored).symm
    · intro g hg hlevel heq
      rw [hgrants] at hg
      obtain ⟨owner, howner, hownerId, hemail⟩ := hglobal g hg hlevel
      have hsame : owner.id = user.id := hownerId.trans heq
      rcases hid with hnew | ⟨u, hu, huemail, huid⟩
      · exact hfresh (List.mem_map.mpr ⟨owner, howner, hsame.trans hnew⟩)
      · have hrow := List.inj_on_of_nodup_map hc.ids howner hu (hsame.trans huid.symm)
        exact hemail (hrow ▸ huemail)
  · obtain ⟨t, hfind⟩ := findOrInsertUser_error hc hstored
    have hget : getOrCreateUser newId email displayName (some roles) false s =
        (.error .dataError, t) := Prog.bind_run_error hfind
    rw [Prog.bind_run_error hget]
    simp [hstored]

/-- **The admin role of the token decides who sees everything** exactly when the column of the
roles keeps it. -/
theorem seesAll_iff_admin_iff (adminRole : String) (db : Db) (displayName : Option String)
    (roles : List String) (hc : s.Consistent) (hfresh : newId ∉ s.everyone.map UserRow.id)
    (hglobal : NoGlobalGrant s email) :
    (SeesAllAs adminRole db newId email displayName roles s ↔ adminRole ∈ roles) ↔
      RolesKept adminRole s newId email displayName roles := by
  rw [seesAllAs_iff hc hfresh hglobal]
  unfold RolesKept
  by_cases hstored : Stored s newId email displayName roles
  · by_cases hroles : roles = [""]
    · subst hroles
      have hempty : (⟨newId, email, none, some ""⟩ : UserRow).roleList = [] := rfl
      rw [String.intercalate_singleton, hempty]
      simp [hstored]
    · rw [if_pos ⟨hstored, hroles⟩, and_iff_right hstored]
      exact mem_roleList_joined ⟨newId, email, none, none⟩ hroles
  · rw [if_neg fun h => hstored h.1]
    simp [hstored]

end Scope

/-- No user yet. -/
def Demo.noAccounts : Accounts := { users := [], grants := [] }

/-- No accounts are consistent. -/
theorem Demo.noAccounts_consistent : Demo.noAccounts.Consistent :=
  ⟨List.nodup_nil, List.nodup_nil, List.forall_mem_nil _, List.forall_mem_nil _⟩

/-- They have no grants. -/
theorem Demo.noAccounts_noGlobalGrant (email : String) : NoGlobalGrant Demo.noAccounts email :=
  List.forall_mem_nil _

/-- A token with the admin role among others. -/
theorem seesAll_iff_admin_among :
    SeesAllAs "ADMINISTRATOR" {} "u" "user@example.test" none ["VIEWER", "ADMINISTRATOR"]
        Demo.noAccounts ↔
      "ADMINISTRATOR" ∈ ["VIEWER", "ADMINISTRATOR"] := by
  refine (seesAll_iff_admin_iff "ADMINISTRATOR" {} none ["VIEWER", "ADMINISTRATOR"]
    Demo.noAccounts_consistent (by decide) (Demo.noAccounts_noGlobalGrant _)).mpr ?_
  unfold RolesKept
  decide +kernel

/-- A token with the one role `VIEWER,ADMINISTRATOR` sees everything. -/
theorem seesAll_iff_admin_counterexample :
    ¬ ∀ (adminRole : String) (db : Db) (newId email : String) (displayName : Option String)
      (roles : List String) (s : Accounts), s.Consistent → newId ∉ s.everyone.map UserRow.id →
      NoGlobalGrant s email →
      (SeesAllAs adminRole db newId email displayName roles s ↔ adminRole ∈ roles) := by
  intro h
  have hiff := h "ADMINISTRATOR" {} "u" "user@example.test" none ["VIEWER,ADMINISTRATOR"]
    Demo.noAccounts Demo.noAccounts_consistent (by decide) (Demo.noAccounts_noGlobalGrant _)
  have hall : SeesAllAs "ADMINISTRATOR" {} "u" "user@example.test" none ["VIEWER,ADMINISTRATOR"]
      Demo.noAccounts :=
    (seesAllAs_iff Demo.noAccounts_consistent (by decide) (Demo.noAccounts_noGlobalGrant _)).mpr
      ⟨by decide +kernel, by decide +kernel⟩
  exact absurd (hiff.mp hall) (by decide)

end OpenVCenter
