import Crossing.KeyRotation

namespace Crossing

open Relational
open Relational.Transaction

/-!
# The scopes that were asked for

A list of scopes loses the names that are unknown.  A list without a known name
is replaced by the customer scopes.  Storage, rotation and the check of a scope
add nothing to that.
-/

/-! ## What a list of scopes grants -/

/-- A list of scopes names one that there is. -/
def NamesScope (scopes : List String) : Prop :=
  ∃ scope ∈ scopes, scope ∈ allScopes

/-- What is granted of a list that names a scope is in the list. -/
theorem mem_of_scopesJson
    {scopes : List String}
    {scope : String}
    (names : NamesScope scopes)
    (granted : scope ∈ scopesJson scopes) :
    scope ∈ scopes := by
  obtain ⟨known, isAsked, isScope⟩ := names
  have remains : known ∈ scopes.filter (· ∈ allScopes) :=
    List.mem_filter.mpr ⟨isAsked, decide_eq_true isScope⟩
  have cleaned : scopesJson scopes = scopes.filter (· ∈ allScopes) := by
    unfold scopesJson
    rw [if_neg]
    rw [List.isEmpty_iff]
    exact List.ne_nil_of_mem remains
  rw [cleaned] at granted
  exact List.mem_of_mem_filter granted

/-- A list that names no scope grants those of a customer. -/
theorem scopesJson_of_none
    {scopes : List String}
    (names : ¬ NamesScope scopes) :
    scopesJson scopes = customerScopes := by
  have cleaned : scopes.filter (· ∈ allScopes) = [] := by
    apply List.filter_eq_nil_iff.mpr
    intro scope isAsked isScope
    exact names ⟨scope, isAsked, of_decide_eq_true isScope⟩
  unfold scopesJson
  rw [cleaned]
  rfl

namespace KeySys

/-! ## Keys for an explicit list -/

/-- A key is issued for a list of scopes, by `issue_api_key` or `post_key`. -/
inductive IssuedFor
    (hashSecret : String → String)
    (s : KeySys)
    (scopes : List String)
    (key : IssuedKey)
    (s' : KeySys) :
    Prop where
  | issued
      {accountId : Id}
      {kind : String}
      {expiresAt : Option Datetime}
      {draw : SecretDraw}
      (taken :
        s.step hashSecret
            (.issue accountId kind (some scopes) expiresAt draw) =
          some s')
      (returned : s'.issued = s.issued ++ [key])
  | posted
      {ctx : AuthContext}
      {body : KeyIn}
      {draw : SecretDraw}
      (asks : body.scopes = some scopes)
      (answered : s.postKey hashSecret ctx body draw = .ok (key, s'))

section Scopes

variable
  {hashSecret : String → String}
  {s issued s' : KeySys}
  {scopes : List String}
  {key : IssuedKey}

/-- The key is stored with the scopes that the list grants. -/
theorem IssuedFor.stored (asked : IssuedFor hashSecret s scopes key s') :
    s'.keys.find key.record.id = some key.record ∧
      key.record.scopes = scopesJson scopes := by
  cases asked with
  | issued taken returned =>
      obtain ⟨⟨issued, keys⟩, committed, isState⟩ :=
        Option.bind_eq_some_iff.mp taken
      cases isState
      obtain rfl : issued = key := by simpa using returned
      obtain ⟨new, _, _, isScopes, _⟩ :=
        issueKey_ok (commit_eq_some.mp committed)
      exact ⟨(Table.find_insert new.inserted _).trans (if_pos rfl), isScopes⟩
  | posted asks answered =>
      obtain ⟨⟨⟩, _, rest⟩ := except_bind_eq_ok.mp answered
      dsimp only at rest
      split at rest
      · cases rest
      obtain ⟨⟨issued, keys⟩, responded, isState⟩ :=
        except_bind_eq_ok.mp rest
      cases isState
      obtain ⟨new, _, _, isScopes, _⟩ := issueKey_ok (respondKey_ok responded)
      rw [asks] at isScopes
      exact ⟨(Table.find_insert new.inserted _).trans (if_pos rfl), isScopes⟩

/-- Whoever is authenticated with such a key has the scopes of the list. -/
theorem IssuedFor.authenticated
    {records : List ApiKey}
    {record row : ApiKey}
    {auth : AuthEnv}
    {now : Datetime}
    {presented : Option String}
    (asked : IssuedFor hashSecret s scopes key issued)
    (run : Rotations hashSecret anyOf issued key.record records s')
    (member : record ∈ records)
    (authenticated : authenticate auth s'.keys now presented = some row)
    (isKey : row.id = record.id) :
    row.scopes = scopesJson scopes := by
  obtain ⟨found, isScopes⟩ := asked.stored
  obtain ⟨made, stored, isStored, storedFrom⟩ :=
    run.stored found (fun _ _ picked => picked) record member
  rw [← isKey, (authenticate_live authenticated).1] at isStored
  cases isStored
  have sameScopes : row.scopes = record.scopes := by rw [storedFrom]
  rcases made.rest with rfl | ⟨cleaned, _⟩
  · exact sameScopes.trans isScopes
  · rw [sameScopes, cleaned, isScopes, scopesJson_idem]

/--
A key for a list that names a scope, and every key that rotations make of it,
has no scope that was not asked for.  For any other list it has the customer
scopes.
-/
theorem scopes_were_asked_for
    {records : List ApiKey}
    {record row : ApiKey}
    {auth : AuthEnv}
    {now : Datetime}
    {presented : Option String}
    (asked : IssuedFor hashSecret s scopes key issued)
    (run : Rotations hashSecret anyOf issued key.record records s')
    (member : record ∈ records)
    (authenticated : authenticate auth s'.keys now presented = some row)
    (isKey : row.id = record.id)
    (scope : String) :
    (NamesScope scopes →
      row.context.hasScope scope = true →
        scope ∈ scopes ∨ "admin" ∈ scopes) ∧
      (¬ NamesScope scopes →
        (row.context.hasScope scope = true ↔ scope ∈ customerScopes)) := by
  have granted : row.context.scopes = scopesJson scopes :=
    asked.authenticated run member authenticated isKey
  simp only [AuthContext.hasScope, granted, Bool.or_eq_true,
    decide_eq_true_eq]
  constructor
  · rintro names (isAdmin | isScope)
    · exact .inr (mem_of_scopesJson names isAdmin)
    · exact .inl (mem_of_scopesJson names isScope)
  · intro none
    rw [scopesJson_of_none none]
    have noAdmin : "admin" ∉ customerScopes := by decide
    simp [noAdmin]

end Scopes

/-! ## A rotated key, and a misspelt scope -/

/-- The draw of a key for an explicit list. -/
def listDraw : SecretDraw where
  now := noon
  newId := 2
  allowDev := false
  prefixToken := "0a1b2c3d"
  secretToken := "e4f5"

/-- The key for a list that is issued to the account of the bootstrap. -/
def listedKey (scopes : List String) : IssuedKey where
  record :=
    { id := 2
      accountId := 1
      visiblePrefix := "cxk_live_0a1b2c3d"
      secretHash := "cxk_live_0a1b2c3d_e4f5"
      scopes := scopesJson scopes
      revokedAt := none
      expiresAt := none
      lastUsedAt := none
      kind := "customer" }
  secret := "cxk_live_0a1b2c3d_e4f5"

/-- The states around the issue of that key. -/
def issuing (scopes : List String) : Option (KeySys × KeySys) := do
  let s ← start.play id [.bootstrap true 1 1]
  let issued ← s.step id (.issue 1 "customer" (some scopes) none listDraw)
  if issued.issued = s.issued ++ [listedKey scopes] then
    some (s, issued)
  else
    none

/-- The key is issued for the list. -/
theorem issuedFor_of_issuing
    {scopes : List String}
    {s issued : KeySys}
    (issues : issuing scopes = some (s, issued)) :
    IssuedFor id s scopes (listedKey scopes) issued := by
  simp only [issuing, Option.bind_eq_bind] at issues
  obtain ⟨_, _, rest⟩ := Option.bind_eq_some_iff.mp issues
  obtain ⟨_, taken, rest⟩ := Option.bind_eq_some_iff.mp rest
  split at rest
  · next returned =>
      cases rest
      exact .issued taken returned
  · cases rest

/-- A string is authenticated with the key and has a scope. -/
def holdsScope
    (s : KeySys)
    (presented : String)
    (keyId : Id)
    (scope : String) :
    Bool :=
  (authenticate ⟨id, false⟩ s.keys noon (some presented)).any fun row =>
    row.id = keyId && row.context.hasScope scope

/-- A scope of a rotated key, which was asked for beside a misspelt one. -/
theorem scope_was_asked_for :
    ∃ s issued s' row,
      IssuedFor id s ["raed", "invoke"] (listedKey ["raed", "invoke"])
          issued ∧
        issued.step id (.rotate 2 rotationDraw) = some s' ∧
        authenticate ⟨id, false⟩ s'.keys noon
            (some "cxk_live_4d3c2b1a_5f4e") =
          some row ∧
        row.context.hasScope "invoke" = true ∧
        ("invoke" ∈ ["raed", "invoke"] ∨ "admin" ∈ ["raed", "invoke"]) := by
  have checked :
      (issuing ["raed", "invoke"]).any
          (fun (_, issued) =>
            (issued.step id (.rotate 2 rotationDraw)).any fun s' =>
              (s'.issued.getLast?).any fun key =>
                s'.issued = issued.issued ++ [key] &&
                  key.record.id = 3 &&
                  holdsScope s' "cxk_live_4d3c2b1a_5f4e" 3 "invoke") =
        true := by
    decide +kernel
  simp only [Option.any_eq_true, holdsScope, Bool.and_eq_true,
    decide_eq_true_eq, Prod.exists] at checked
  obtain ⟨s, issued, issues, s', taken, key, _, ⟨returned, isId⟩, row,
    authenticated, isKey, holds⟩ := checked
  have asked := issuedFor_of_issuing issues
  have run :
      Rotations id anyOf issued (listedKey ["raed", "invoke"]).record
        ([(listedKey ["raed", "invoke"]).record] ++ [key.record]) s' :=
    .rotate .start (List.mem_singleton_self _) (by decide) taken returned
  refine ⟨s, issued, s', row, asked, taken, authenticated, holds, ?_⟩
  exact
    (scopes_were_asked_for asked run
      (List.mem_append_right _ (List.mem_singleton_self _)) authenticated
      (isKey.trans isId.symm) "invoke").1
      ⟨"invoke", by decide, by decide⟩ holds

/-- A misspelt scope is answered with a key that may write. -/
theorem misspelt_scope_grants_write :
    ∃ s issued row,
      IssuedFor id s ["raed"] (listedKey ["raed"]) issued ∧
        authenticate ⟨id, false⟩ issued.keys noon
            (some "cxk_live_0a1b2c3d_e4f5") =
          some row ∧
        row.id = (listedKey ["raed"]).record.id ∧
        row.context.hasScope "write" = true ∧
        ¬ ("write" ∈ ["raed"] ∨ "admin" ∈ ["raed"]) := by
  have checked :
      (issuing ["raed"]).any
          (fun (_, issued) =>
            holdsScope issued "cxk_live_0a1b2c3d_e4f5" 2 "write") =
        true := by
    decide +kernel
  simp only [Option.any_eq_true, holdsScope, Bool.and_eq_true,
    decide_eq_true_eq, Prod.exists] at checked
  obtain ⟨s, issued, issues, row, authenticated, isKey, holds⟩ := checked
  exact
    ⟨s, issued, row, issuedFor_of_issuing issues, authenticated, isKey, holds,
      by decide⟩

end KeySys

end Crossing
