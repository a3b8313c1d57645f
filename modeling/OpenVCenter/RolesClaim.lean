import OpenVCenter.Accounts
import OpenVCenter.Foundations.Substituted

set_option relaxedAutoImplicit false
set_option autoImplicit false

/-!
# Where the roles of a token are

`_token_roles` of `api/deps.py` puts the client id into the setting `oidc_roles_claim`, splits the
result at its dots, and walks into the claims. A dot in the client id, or in the name of a claim, is
one of them.

## Main definitions

* `OpenVCenter.defaultRolesClaim` — the default of the setting.
* `OpenVCenter.HoldsClientRoles` — the roles of a client, where Keycloak puts them.

## Main results

* `OpenVCenter.claimByPath_eq` — the walk is a fold over the pieces of the path.
* `OpenVCenter.defaultRolesPath` — the path of the default, for any client id.
* `OpenVCenter.tokenRoles_iff` — the client ids and claim names under which the roles are found.
-/

namespace OpenVCenter

/-- The default of `oidc_roles_claim`. -/
def defaultRolesClaim : String := "resource_access.$\x7bclient_id\x7d.roles"

/-- The token has the roles under `resource_access`, the client id and `roles`. -/
def HoldsClientRoles (clientId : String) (claims : Dict) (roles : List String) : Prop :=
  ∃ access client : Dict, claims.get "resource_access" = .obj access ∧
    access.get clientId = .obj client ∧ client.get "roles" = .arr (roles.map .str)

/-! ## The walk -/

/-- One step of `_claim_by_path`. -/
def stepInto (node : Json) (part : String) : Json :=
  match node.asDict? with
  | some d => d.get part
  | none => .null

variable {py : PyStd} {clientId name : String} {claims : Dict} {roles : List String}

/-- A path is followed step by step. -/
lemma claimByPath_eq {path : String} :
    claimByPath claims path = (splitChar '.' path).foldl stepInto (.obj claims) := rfl

/-- The walk finds nothing below a value that is no object. -/
lemma foldl_stepInto_of_not_dict {node : Json} (h : node.asDict? = none) {parts : List String}
    (hne : parts ≠ []) : parts.foldl stepInto node = .null := by
  induction parts generalizing node with
  | nil => exact absurd rfl hne
  | cons part parts ih =>
    have hstep : stepInto node part = .null := by
      unfold stepInto
      rw [h]
    rw [List.foldl_cons, hstep]
    by_cases hparts : parts = []
    · rw [hparts]
      rfl
    · exact ih rfl hparts

/-- A text without the separator is one piece. -/
lemma splitChar_of_not_mem {sep : Char} {text : String} (h : sep ∉ text.toList) :
    splitChar sep text = [text] := by
  unfold splitChar
  rw [List.splitOn_eq_singleton h]
  simp

/-- A text has a first piece, which has no separator. -/
lemma splitChar_cases (sep : Char) (text : String) :
    ∃ first rest, splitChar sep text = first :: rest ∧ sep ∉ first.toList := by
  obtain ⟨first, rest, hsplit⟩ := List.exists_cons_of_ne_nil (List.splitOn_ne_nil sep text.toList)
  refine ⟨String.ofList first, rest.map String.ofList, ?_, ?_⟩
  · unfold splitChar
    rw [hsplit, List.map_cons]
  · rw [String.toList_ofList]
    exact Separated.not_mem_of_mem_splitOn (hsplit ▸ List.mem_cons_self)

/-- A text of one piece is that piece. -/
lemma eq_of_splitChar {sep : Char} {text piece : String} (h : splitChar sep text = [piece]) :
    text = piece := by
  have hpiece : text.toList.splitOn sep = [piece.toList] := by
    unfold splitChar at h
    obtain ⟨w, hw, rfl⟩ := List.map_eq_singleton_iff.mp h
    rw [hw, String.toList_ofList]
  have hjoin : [sep].intercalate (text.toList.splitOn sep) = text.toList :=
    List.intercalate_splitOn sep
  rw [hpiece, List.intercalate_singleton] at hjoin
  exact (String.toList_inj.mp hjoin).symm

/-! ## The path of the default -/

/-- **The path of the default**, for any client id. -/
theorem defaultRolesPath (clientId : String) :
    defaultRolesClaim.replace "$\x7bclient_id\x7d" clientId =
      "resource_access." ++ clientId ++ ".roles" := by
  have hhead : "$\x7bclient_id\x7d".toList.head? = some '$' := rfl
  have htail : Substituted "$\x7bclient_id\x7d".toList clientId.toList ".roles".toList
      ".roles".toList := Substituted.self hhead (by decide)
  have hwhole := Substituted.skip hhead (by decide : '$' ∉ "resource_access.".toList)
    (Substituted.hit htail)
  have hreplace := Substituted.replace (by decide : "$\x7bclient_id\x7d" ≠ "") clientId
    defaultRolesClaim
  rw [← String.toList_inj, hreplace.unique (by decide) hwhole]
  simp

/-- The default path, and the dots of the client's name. -/
lemma splitChar_defaultRolesPath (clientId : String) :
    splitChar '.' ("resource_access." ++ clientId ++ ".roles") =
      "resource_access" :: (splitChar '.' clientId ++ ["roles"]) := by
  have hlist : ("resource_access." ++ clientId ++ ".roles").toList =
      ['.'].intercalate ["resource_access".toList, clientId.toList, "roles".toList] := by
    simp [List.intercalate_cons_cons]
  unfold splitChar
  rw [hlist, Separated.splitOn_intercalate (by simp)]
  simp only [List.flatMap_cons, List.flatMap_nil, List.append_nil, List.map_append]
  rfl

/-- **The roles of a client are found** exactly when its id has no dot. -/
lemma clientRoles_iff (py : PyStd) (clientId : String) :
    (∀ claims roles, HoldsClientRoles clientId claims roles →
      tokenRoles py defaultRolesClaim clientId claims = roles) ↔ '.' ∉ clientId.toList := by
  constructor
  · intro h hdot
    let client : Dict := [("roles", .arr [.str "x"])]
    let claims : Dict := [("resource_access", .obj [(clientId, .obj client)])]
    have hholds : HoldsClientRoles clientId claims ["x"] :=
      ⟨[(clientId, .obj client)], client, rfl, by simp, rfl⟩
    -- the walk leaves the claims at the first piece of the client id
    obtain ⟨first, rest, hsplit, hfirst⟩ := splitChar_cases '.' clientId
    have hne : clientId ≠ first := by
      rintro rfl
      exact hfirst hdot
    have hpath : claimByPath claims (defaultRolesClaim.replace "$\x7bclient_id\x7d" clientId) =
        .null := by
      rw [defaultRolesPath, claimByPath_eq, splitChar_defaultRolesPath, hsplit, List.cons_append,
        List.foldl_cons, List.foldl_cons]
      have hleft : stepInto (stepInto (.obj claims) "resource_access") first = .null := by
        simp [stepInto, Json.asDict?, claims, hne]
      rw [hleft]
      exact foldl_stepInto_of_not_dict rfl (by simp)
    have hnone : tokenRoles py defaultRolesClaim clientId claims = [] := by
      unfold tokenRoles
      rw [hpath]
    exact absurd (hnone.symm.trans (h claims ["x"] hholds)) (by decide)
  · rintro hdot claims roles ⟨access, client, haccess, hclient, hroles⟩
    refine tokenRoles_arr ?_
    rw [defaultRolesPath, claimByPath_eq, splitChar_defaultRolesPath, splitChar_of_not_mem hdot]
    simp [stepInto, Json.asDict?, haccess, hclient, hroles]

/-! ## Flat claims -/

/-- **The roles of a flat claim are found** exactly when its name has no dot, and is not changed by
the client id. -/
lemma flatRoles_iff (py : PyStd) (clientId name : String) :
    (∀ claims roles, Dict.get claims name = .arr (roles.map .str) →
      tokenRoles py name clientId claims = roles) ↔
    '.' ∉ name.toList ∧ name.replace "$\x7bclient_id\x7d" clientId = name := by
  constructor
  · intro h
    let claims : Dict := [(name, .arr [.str "x"])]
    have hroles : tokenRoles py name clientId claims = ["x"] := h claims ["x"] (by simp [claims])
    obtain ⟨first, rest, hsplit, hfirst⟩ :=
      splitChar_cases '.' (name.replace "$\x7bclient_id\x7d" clientId)
    have hpath : rest.foldl stepInto (stepInto (.obj claims) first) ≠ .null := by
      intro hnull
      unfold tokenRoles at hroles
      rw [claimByPath_eq, hsplit, List.foldl_cons, hnull] at hroles
      cases hroles
    have hname : name = first := by
      by_contra hne
      have hleft : stepInto (.obj claims) first = .null := by
        simp [stepInto, Json.asDict?, claims, hne]
      rw [hleft] at hpath
      by_cases hrest : rest = []
      · exact hpath (by rw [hrest]; rfl)
      · exact hpath (foldl_stepInto_of_not_dict rfl hrest)
    subst hname
    have hvalue : stepInto (.obj claims) name = .arr [.str "x"] := by
      simp [stepInto, Json.asDict?, claims]
    rw [hvalue] at hpath
    have hrest : rest = [] := by
      by_contra hrest
      exact hpath (foldl_stepInto_of_not_dict rfl hrest)
    rw [hrest] at hsplit
    exact ⟨hfirst, eq_of_splitChar hsplit⟩
  · rintro ⟨hdot, hname⟩ claims roles hroles
    refine tokenRoles_arr ?_
    rw [hname, claimByPath_eq, splitChar_of_not_mem hdot]
    exact hroles

/-- **Where the roles of a token are found**: those of a client under the default of the setting,
for every token, exactly when the client id has no dot; those of a flat claim, for every token,
exactly when its name has no dot and the client id does not change it. -/
theorem tokenRoles_iff (py : PyStd) (clientId name : String) :
    ((∀ claims roles, HoldsClientRoles clientId claims roles →
      tokenRoles py defaultRolesClaim clientId claims = roles) ↔ '.' ∉ clientId.toList) ∧
    ((∀ claims roles, Dict.get claims name = .arr (roles.map .str) →
      tokenRoles py name clientId claims = roles) ↔
        '.' ∉ name.toList ∧ name.replace "$\x7bclient_id\x7d" clientId = name) :=
  ⟨clientRoles_iff py clientId, flatRoles_iff py clientId name⟩

/-- The claim name that the configuration gives as an example, and a client id with a dot. -/
theorem tokenRoles_counterexample :
    ¬ (∀ (py : PyStd) (clientId : String) (claims : Dict) (roles : List String), clientId ≠ "" →
      HoldsClientRoles clientId claims roles →
        tokenRoles py defaultRolesClaim clientId claims = roles) ∧
    ¬ ∀ (py : PyStd) (clientId name : String) (claims : Dict) (roles : List String),
      Dict.get claims name = .arr (roles.map .str) → tokenRoles py name clientId claims = roles := by
  constructor
  · intro h
    have hfound := (clientRoles_iff Demo.py "ovc.frontend").mp fun claims roles =>
      h Demo.py "ovc.frontend" claims roles (by decide)
    exact absurd hfound (by decide)
  · intro h
    have hfound := (flatRoles_iff Demo.py "ovc-frontend" "https://ovc.example/roles").mp
      fun claims roles => h Demo.py "ovc-frontend" "https://ovc.example/roles" claims roles
    exact absurd hfound.1 (by decide)

end OpenVCenter
