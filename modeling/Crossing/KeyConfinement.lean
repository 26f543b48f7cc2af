import Crossing.KeyLife
import Crossing.Routes

namespace Crossing

open Relational
open Relational.Transaction

/-!
# What the holders of customer keys can obtain

Callers who hold some keys call the routes of `api.py` on keys with any of
them, and keep what the routes return, while anybody else does anything to the
keys.  Every key that they come to hold stays in the account and below the
authority that they started with.
-/

/-! ## The routes -/

/-- The response to a transaction on the keys. -/
def respondKey {α : Type} (body : KeyBody α) (keys : Table ApiKey) :
    Except HttpError (α × Table ApiKey) :=
  match exec body keys with
  | (.ok answer, keys') => .ok (answer, keys')
  | (.error exception, _) => .error (exception.response none)

/-- `KeyIn`. -/
structure KeyIn where
  accountId : Option Id
  kind : String
  scopes : Option (List String)
  expiresAt : Option Datetime
  deriving Repr, DecidableEq

namespace KeySys

variable (hashSecret : String → String) (s : KeySys) (ctx : AuthContext)

/-- `post_key`. -/
def postKey (body : KeyIn) (draw : SecretDraw) :
    Except HttpError (IssuedKey × KeySys) := do
  Route.requireScope ctx "admin"
  let accountId := body.accountId.getD ctx.accountId
  if ctx.isAdmin = false ∧ accountId ≠ ctx.accountId then
    .error .closed
  let (key, keys) ←
    respondKey
      (issueKey hashSecret s.db accountId body.kind body.scopes body.expiresAt
        draw.keyPrefix draw.secret draw.newId)
      s.keys
  pure (key, { s with keys := keys, issued := s.issued ++ [key] })

/-- `post_key_rotate`. -/
def postKeyRotate (keyId : Id) (draw : SecretDraw) :
    Except HttpError (IssuedKey × KeySys) :=
  match s.keys.find keyId with
  | none => .error .closed
  | some row => do
      mayManageKey ctx row
      let (key, keys) ←
        respondKey (rotateKey hashSecret s.db row draw) s.keys
      pure
        (key,
          { s with
            keys := keys
            issued := s.issued ++ [key]
            ended := s.ended ++ [keyId] })

/-- `post_key_revoke`, which returns no secret. -/
def postKeyRevoke (keyId : Id) (now : Datetime) : Except HttpError KeySys :=
  match s.keys.find keyId with
  | none => .error .closed
  | some row => do
      mayManageKey ctx row
      let (_, keys) ← respondKey (revokeApiKey row now) s.keys
      pure { s with keys := keys, ended := s.ended ++ [keyId] }

/-- `require_auth`: the context of the key that is presented. -/
def requireAuth (allowDev : Bool) (now : Datetime) (presented : String) :
    Option (AuthContext × KeySys) := do
  let row ←
    Crossing.authenticate ⟨hashSecret, allowDev⟩ s.keys now (some presented)
  pure
    (row.context,
      { s with
        keys := s.keys.modify row.id fun row =>
          { row with lastUsedAt := some now } })

end KeySys

/-! ## The callers -/

/-- The keys, those that the callers hold, and their authenticated requests. -/
structure Callers where
  sys : KeySys
  held : List IssuedKey
  requests : List AuthContext

/--
A part of a request of the callers, or an action of anybody else.  Routes that
are about nothing but the rest of the database count as the latter.
-/
inductive CallerAction where
  | others (action : KeyAction)
  | authenticate (allowDev : Bool) (now : Datetime) (key : IssuedKey)
  | postKey (ctx : AuthContext) (body : KeyIn) (draw : SecretDraw)
  | postKeyRotate (ctx : AuthContext) (keyId : Id) (draw : SecretDraw)
  | postKeyRevoke (ctx : AuthContext) (keyId : Id) (now : Datetime)

/-- The random parts of an action are as `secrets` draws them. -/
def CallerAction.Drawn : CallerAction → Prop
  | .others action => action.Drawn
  | .postKey _ _ draw => draw.IsHex
  | .postKeyRotate _ _ draw => draw.IsHex
  | _ => True

instance : ∀ action : CallerAction, Decidable action.Drawn
  | .others action => inferInstanceAs (Decidable action.Drawn)
  | .postKey _ _ draw => inferInstanceAs (Decidable draw.IsHex)
  | .postKeyRotate _ _ draw => inferInstanceAs (Decidable draw.IsHex)
  | .authenticate .. => .isTrue trivial
  | .postKeyRevoke .. => .isTrue trivial

namespace Callers

/-- The state after an action that is not refused. -/
def step (hashSecret : String → String) (s : Callers) :
    CallerAction → Option Callers
  | .others action => do
      let sys ← s.sys.step hashSecret action
      some { s with sys := sys }
  | .authenticate allowDev now key =>
      if key ∈ s.held then do
        let (ctx, sys) ← s.sys.requireAuth hashSecret allowDev now key.secret
        some { s with sys := sys, requests := s.requests ++ [ctx] }
      else
        none
  | .postKey ctx body draw =>
      if ctx ∈ s.requests then do
        let (key, sys) ← (s.sys.postKey hashSecret ctx body draw).toOption
        some { s with sys := sys, held := s.held ++ [key] }
      else
        none
  | .postKeyRotate ctx keyId draw =>
      if ctx ∈ s.requests then do
        let (key, sys) ←
          (s.sys.postKeyRotate hashSecret ctx keyId draw).toOption
        some { s with sys := sys, held := s.held ++ [key] }
      else
        none
  | .postKeyRevoke ctx keyId now =>
      if ctx ∈ s.requests then do
        let sys ← (s.sys.postKeyRevoke ctx keyId now).toOption
        some { s with sys := sys }
      else
        none

/-- A step with tokens as they are drawn. -/
def Step (hashSecret : String → String) (s s' : Callers) : Prop :=
  ∃ action, action.Drawn ∧ step hashSecret s action = some s'

/-- The state after a list of actions, when all are drawn and succeed. -/
def play (hashSecret : String → String) :
    Callers → List CallerAction → Option Callers :=
  Transition.play (step hashSecret) fun _ => CallerAction.Drawn

/-- A list of actions that is played is a run. -/
theorem later_of_play
    {hashSecret : String → String}
    {s s' : Callers}
    {actions : List CallerAction}
    (played : s.play hashSecret actions = some s') :
    Transition.Later (Step hashSecret) s s' :=
  Transition.later_of_play played

end Callers

/-! ## What the routes do -/

/-- A non-admin has none of the authority of an admin. -/
theorem not_hasScope_admin
    {ctx : AuthContext}
    (notAdmin : ctx.isAdmin = false) :
    "admin" ∉ ctx.scopes ∧ ctx.hasScope "admin" = false := by
  simp_all [AuthContext.isAdmin, AuthContext.hasScope]

/-- Scopes that are known stay as they are, when there are any. -/
theorem scopesJson_of_known
    {scopes : List String}
    (nonempty : scopes ≠ [])
    (known : ∀ scope ∈ scopes, scope ∈ allScopes) :
    scopesJson scopes = scopes := by
  have cleaned : scopes.filter (· ∈ allScopes) = scopes :=
    List.filter_eq_self.mpr fun scope member =>
      decide_eq_true (known scope member)
  simp only [scopesJson, cleaned, List.isEmpty_iff, if_neg nonempty]

/-- `_scopes_json` gives the customer scopes or those that are known. -/
theorem scopesJson_cases (scopes : List String) :
    scopesJson scopes = customerScopes ∨
      scopesJson scopes = scopes.filter (· ∈ allScopes) ∧
        scopes.filter (· ∈ allScopes) ≠ [] := by
  by_cases none : scopes.filter (· ∈ allScopes) = []
  · left
    simp [scopesJson, none]
  · right
    simp [scopesJson, none]

/-- Scopes that were cleaned once are not changed by a second time. -/
theorem scopesJson_idem (scopes : List String) :
    scopesJson (scopesJson scopes) = scopesJson scopes := by
  rcases scopesJson_cases scopes with all | ⟨cleaned, nonempty⟩
  · rw [all]
    decide
  · rw [cleaned]
    apply scopesJson_of_known nonempty
    intro scope member
    simpa using List.of_mem_filter member

/-- Cleaning adds no admin scope. -/
theorem admin_notMem_scopesJson
    {scopes : List String}
    (absent : "admin" ∉ scopes) :
    "admin" ∉ scopesJson scopes := by
  rcases scopesJson_cases scopes with all | ⟨cleaned, _⟩
  · rw [all]
    decide
  · rw [cleaned]
    exact fun member => absent (List.mem_of_mem_filter member)

/-- The two notions of an admin key. -/
theorem context_notAdmin {row : ApiKey} :
    row.context.isAdmin = false ↔
      row.kind ≠ "admin" ∧ "admin" ∉ row.scopes := by
  unfold AuthContext.isAdmin
  rw [Bool.or_eq_false_iff, decide_eq_false_iff_not, decide_eq_false_iff_not]
  rfl

/-- A key that is rotated into is an admin's only if the old one was. -/
theorem isAdmin_of_rotated
    {row record : ApiKey}
    (notAdmin : row.context.isAdmin = false)
    (sameKind : record.kind = row.kind)
    (sameScopes : record.scopes = scopesJson row.scopes) :
    record.context.isAdmin = false := by
  obtain ⟨notKind, noScope⟩ := context_notAdmin.mp notAdmin
  rw [context_notAdmin, sameKind, sameScopes]
  exact ⟨notKind, admin_notMem_scopesJson noScope⟩

/-- An answer is no refusal. -/
theorem toOption_eq_some
    {ε α : Type}
    {result : Except ε α}
    {answer : α}
    (answered : result.toOption = some answer) :
    result = .ok answer := by
  cases result with
  | ok value =>
      cases answered
      rfl
  | error exception => cases answered

/-- A transaction that is answered has committed. -/
theorem respondKey_ok
    {α : Type}
    {body : KeyBody α}
    {keys keys' : Table ApiKey}
    {answer : α}
    (answered : respondKey body keys = .ok (answer, keys')) :
    exec body keys = (.ok answer, keys') := by
  unfold respondKey at answered
  split at answered
  · rename_i ran
    cases answered
    exact ran
  · cases answered

/-- Whom `_may_manage_key` lets pass, when they are no admin. -/
theorem mayManageKey_ok
    {ctx : AuthContext}
    {row : ApiKey}
    (notAdmin : ctx.isAdmin = false)
    (mayManage : mayManageKey ctx row = .ok ()) :
    row.accountId = ctx.accountId ∧
      (ctx.apiKeyId = row.id ∨
        row.context.isAdmin = false ∧ "write" ∈ ctx.scopes) := by
  obtain ⟨noAdmin, _⟩ := not_hasScope_admin notAdmin
  unfold mayManageKey at mayManage
  split at mayManage
  · cases mayManage
  · rename_i sameAccount
    split at mayManage
    · cases mayManage
    · rename_i noAdminTarget
      split at mayManage
      · rename_i manages
        refine ⟨by simpa [notAdmin] using sameAccount, ?_⟩
        by_cases self : ctx.apiKeyId = row.id
        · exact .inl self
        · simp_all [AuthContext.isAdmin, AuthContext.hasScope, ApiKey.context]
      · cases mayManage

namespace KeySys

variable
  {hashSecret : String → String}
  {s s' : KeySys}
  {ctx : AuthContext}
  {key : IssuedKey}

/-- `post_key` refuses who has no admin scope. -/
theorem postKey_refused
    (notAdmin : ctx.isAdmin = false)
    (body : KeyIn)
    (draw : SecretDraw) :
    s.postKey hashSecret ctx body draw = .error .forbidden := by
  simp [postKey, Route.requireScope, (not_hasScope_admin notAdmin).2]
  rfl

/-- What `post_key_rotate` does when it answers. -/
theorem postKeyRotate_ok
    {keyId : Id}
    {draw : SecretDraw}
    (answered : s.postKeyRotate hashSecret ctx keyId draw = .ok (key, s')) :
    ∃ row,
      s.keys.find keyId = some row ∧
        mayManageKey ctx row = .ok () ∧
        s.step hashSecret (.rotate keyId draw) = some s' ∧
        key ∈ s'.issued ∧
        key.record.accountId = row.accountId ∧
        key.record.kind = row.kind ∧
        key.record.scopes = scopesJson row.scopes := by
  unfold postKeyRotate at answered
  cases found : s.keys.find keyId with
  | none =>
      rw [found] at answered
      cases answered
  | some row =>
      rw [found] at answered
      obtain ⟨⟨⟩, mayManage, rest⟩ := except_bind_eq_ok.mp answered
      obtain ⟨⟨issued, keys⟩, responded, isState⟩ :=
        except_bind_eq_ok.mp rest
      cases isState
      have ran := respondKey_ok responded
      obtain ⟨_, sameAccount, sameKind, sameScopes, _⟩ := rotateKey_ok ran
      refine
        ⟨row, rfl, mayManage, ?_, by simp, sameAccount, sameKind, sameScopes⟩
      simp only [step, found, Option.bind_eq_bind, Option.bind_some,
        commit_eq_some.mpr ran]

/-- What `post_key_revoke` does when it answers. -/
theorem postKeyRevoke_ok
    {keyId : Id}
    {now : Datetime}
    (answered : s.postKeyRevoke ctx keyId now = .ok s') :
    s.step hashSecret (.revoke keyId now) = some s' := by
  unfold postKeyRevoke at answered
  cases found : s.keys.find keyId with
  | none =>
      rw [found] at answered
      cases answered
  | some row =>
      rw [found] at answered
      obtain ⟨⟨⟩, _, rest⟩ := except_bind_eq_ok.mp answered
      obtain ⟨⟨done, keys⟩, responded, isState⟩ := except_bind_eq_ok.mp rest
      cases isState
      simp only [step, found, Option.bind_eq_bind, Option.bind_some,
        commit_eq_some.mpr (respondKey_ok responded)]

/-- What `require_auth` does when it authenticates. -/
theorem requireAuth_ok
    {allowDev : Bool}
    {now : Datetime}
    {presented : String}
    (authenticated :
      s.requireAuth hashSecret allowDev now presented = some (ctx, s')) :
    s.step hashSecret (.authenticate allowDev now (some presented)) =
        some s' ∧
      (authenticate ⟨hashSecret, allowDev⟩ s.keys now (some presented)).map
          ApiKey.context =
        some ctx := by
  obtain ⟨row, isRow, isState⟩ := Option.bind_eq_some_iff.mp authenticated
  cases isState
  simp only [step, isRow, Option.bind_eq_bind, Option.bind_some,
    Option.map_some, and_self]

/-! ## What is known of issued keys -/

/-- Keys are only added to the issued ones. -/
theorem step_issued
    {action : KeyAction}
    (taken : s.step hashSecret action = some s') :
    s.issued ⊆ s'.issued := by
  intro key isIssued
  cases step_took taken with
  | elsewhere => exact isIssued
  | issued => exact List.mem_append_left _ isIssued
  | rotated => exact List.mem_append_left _ isIssued
  | revoked => exact isIssued
  | used => exact isIssued
  | bootstrapped => exact List.mem_append_left _ isIssued

/-- The scopes of a key are clean, and the bootstrap key is an admin's. -/
structure Clean (key : IssuedKey) : Prop where
  scopes : scopesJson key.record.scopes = key.record.scopes
  bootstrap : key.IsBootstrap → key.record.kind = "admin"

/-- A key with drawn tokens and cleaned scopes. -/
theorem Clean.of_drawn
    {keys keys' : Table ApiKey}
    {draw : SecretDraw}
    {given : List String}
    (isHex : draw.IsHex)
    (new :
      FreshKey hashSecret draw.keyPrefix draw.secret draw.newId keys key keys')
    (isScopes : key.record.scopes = scopesJson given) :
    Clean key where
  scopes := by rw [isScopes, scopesJson_idem]
  bootstrap isBootstrap :=
    (keyPrefix_ne_bootstrap isHex
      (new.isPrefix.symm.trans isBootstrap)).elim

/-- A step issues clean keys only. -/
theorem clean_step
    {action : KeyAction}
    (clean : ∀ key ∈ s.issued, Clean key)
    (drawn : action.Drawn)
    (took : s.Took hashSecret action s') :
    ∀ key ∈ s'.issued, Clean key := by
  have add (new : IssuedKey) (isClean : Clean new) :
      ∀ key ∈ s.issued ++ [new], Clean key := by
    intro key isIssued
    rcases List.mem_append.mp isIssued with isOld | isNew
    · exact clean key isOld
    · obtain rfl := List.mem_singleton.mp isNew
      exact isClean
  cases took with
  | elsewhere => exact clean
  | issued new isScopes =>
      obtain ⟨given, isScopes⟩ := isScopes
      exact add _ (.of_drawn drawn new isScopes)
  | rotated _ new _ _ sameScopes =>
      exact add _ (.of_drawn drawn new sameScopes)
  | revoked => exact clean
  | used => exact clean
  | bootstrapped new isAdmin isScopes =>
      obtain ⟨given, isScopes⟩ := isScopes
      refine add _ ⟨?_, fun _ => isAdmin⟩
      rw [isScopes, scopesJson_idem]

/-- In every reachable state the issued keys are clean. -/
theorem clean_of_reachable
    (reachable : Reachable hashSecret s) :
    ∀ key ∈ s.issued, Clean key := by
  apply Transition.Reachable.invariant _ _ reachable
  · rintro _ rfl key member
    cases member
  · rintro s s' _ clean ⟨action, drawn, taken⟩
    exact clean_step clean drawn (step_took taken)

/-- A secret gives the context of its key, or none. -/
theorem Sound.context_of_secret
    {allowDev : Bool}
    {now : Datetime}
    (sound : s.Sound hashSecret)
    (isIssued : key ∈ s.issued)
    (notBootstrap : ¬key.IsBootstrap)
    (authenticated :
      (authenticate ⟨hashSecret, allowDev⟩ s.keys now
          (some key.secret)).map ApiKey.context =
        some ctx) :
    ctx = key.record.context := by
  obtain ⟨row, isRow, rfl⟩ := Option.map_eq_some_iff.mp authenticated
  obtain ⟨stored, found, storedFrom, _⟩ := sound.stored key isIssued
  have parsed := (sound.shaped key isIssued).parsePrefix notBootstrap
  have nonempty : key.secret ≠ "" := by
    intro isEmpty
    rw [isEmpty] at parsed
    cases parsed
  have byPrefix := sound.keyByPrefix_of_mem (Table.mem_of_find found)
  rw [show stored.visiblePrefix = key.record.visiblePrefix by rw [storedFrom]]
    at byPrefix
  rw [authenticate_eq nonempty, parsed, Option.bind_some, byPrefix,
    Option.some_or] at isRow
  obtain ⟨isStored, _⟩ := Option.filter_eq_some_iff.mp isRow
  cases isStored
  exact context_eq storedFrom

end KeySys

/-! ## Confinement -/

/-- What the callers hold is below what they started with. -/
structure Callers.Confined
    (hashSecret : String → String)
    (accountId : Id)
    (started : List IssuedKey)
    (s : Callers) :
    Prop where
  reachable : KeySys.Reachable hashSecret s.sys
  issued : s.held ⊆ s.sys.issued
  account : ∀ key ∈ s.held, key.record.accountId = accountId
  notAdmin : ∀ key ∈ s.held, key.record.context.isAdmin = false
  scopes :
    (∀ key ∈ started, "write" ∉ key.record.scopes) →
      ∀ key ∈ s.held, ∀ scope ∈ key.record.scopes,
        ∃ first ∈ started, scope ∈ first.record.scopes
  requests : ∀ ctx ∈ s.requests, ∃ key ∈ s.held, ctx = key.record.context

namespace Callers

variable
  {hashSecret : String → String}
  {accountId : Id}
  {started : List IssuedKey}
  {s s' : Callers}

/-- What anybody does to the keys gives the callers nothing. -/
theorem Confined.sys
    {action : KeyAction}
    {sys : KeySys}
    (confined : s.Confined hashSecret accountId started)
    (taken : s.sys.step hashSecret action = some sys)
    (drawn : action.Drawn) :
    Confined hashSecret accountId started { s with sys := sys } where
  reachable := confined.reachable.next ⟨action, drawn, taken⟩
  issued _ isHeld := KeySys.step_issued taken (confined.issued isHeld)
  account := confined.account
  notAdmin := confined.notAdmin
  scopes := confined.scopes
  requests := confined.requests

/-- A key that is no more than one of those that they started with. -/
theorem Confined.hold
    {key : IssuedKey}
    (confined : s.Confined hashSecret accountId started)
    (isIssued : key ∈ s.sys.issued)
    (ofAccount : key.record.accountId = accountId)
    (notAdmin : key.record.context.isAdmin = false)
    (below :
      (∀ key ∈ started, "write" ∉ key.record.scopes) →
        ∃ old ∈ s.held, key.record.scopes = old.record.scopes) :
    Confined hashSecret accountId started
      { s with held := s.held ++ [key] } where
  reachable := confined.reachable
  issued := by
    intro one isHeld
    rcases List.mem_append.mp isHeld with isOld | isNew
    · exact confined.issued isOld
    · obtain rfl := List.mem_singleton.mp isNew
      exact isIssued
  account := by
    intro one isHeld
    rcases List.mem_append.mp isHeld with isOld | isNew
    · exact confined.account one isOld
    · obtain rfl := List.mem_singleton.mp isNew
      exact ofAccount
  notAdmin := by
    intro one isHeld
    rcases List.mem_append.mp isHeld with isOld | isNew
    · exact confined.notAdmin one isOld
    · obtain rfl := List.mem_singleton.mp isNew
      exact notAdmin
  scopes noWrite := by
    intro one isHeld scope isScope
    rcases List.mem_append.mp isHeld with isOld | isNew
    · exact confined.scopes noWrite one isOld scope isScope
    · obtain rfl := List.mem_singleton.mp isNew
      obtain ⟨old, isOld, sameScopes⟩ := below noWrite
      rw [sameScopes] at isScope
      exact confined.scopes noWrite old isOld scope isScope
  requests ctx isRequest := by
    obtain ⟨old, isOld, isContext⟩ := confined.requests ctx isRequest
    exact ⟨old, List.mem_append_left _ isOld, isContext⟩

/-- The requests of the callers are no admin's. -/
theorem Confined.request_notAdmin
    {ctx : AuthContext}
    (confined : s.Confined hashSecret accountId started)
    (isRequest : ctx ∈ s.requests) :
    ctx.isAdmin = false := by
  obtain ⟨key, isHeld, rfl⟩ := confined.requests ctx isRequest
  exact confined.notAdmin key isHeld

/-- A row that the callers may rotate gives no more than they have. -/
theorem Confined.rotates
    {ctx : AuthContext}
    {keyId : Id}
    {row : ApiKey}
    (confined : s.Confined hashSecret accountId started)
    (isRequest : ctx ∈ s.requests)
    (found : s.sys.keys.find keyId = some row)
    (mayManage : mayManageKey ctx row = .ok ()) :
    row.accountId = accountId ∧
      row.context.isAdmin = false ∧
      ((∀ key ∈ started, "write" ∉ key.record.scopes) →
        ∃ old ∈ s.held, row.scopes = old.record.scopes) := by
  obtain ⟨key, isHeld, isContext⟩ := confined.requests ctx isRequest
  obtain ⟨sameAccount, manages⟩ :=
    mayManageKey_ok (confined.request_notAdmin isRequest) mayManage
  have ofAccount : row.accountId = accountId := by
    rw [sameAccount, isContext]
    exact confined.account key isHeld
  refine ⟨ofAccount, ?_⟩
  rcases manages with self | ⟨notAdmin, canWrite⟩
  · -- The row is the one of a key that they hold.
    have sound := KeySys.sound_of_reachable confined.reachable
    obtain ⟨stored, isStored, storedFrom, _⟩ :=
      sound.stored key (confined.issued isHeld)
    have sameId : key.record.id = keyId := by
      rw [isContext] at self
      exact self.trans (Table.key_of_find found)
    rw [sameId, found] at isStored
    cases isStored
    constructor
    · rw [storedFrom]
      exact confined.notAdmin key isHeld
    · intro _
      exact ⟨key, isHeld, by rw [storedFrom]⟩
  · refine ⟨notAdmin, ?_⟩
    intro noWrite
    rw [isContext] at canWrite
    obtain ⟨first, isFirst, isWrite⟩ :=
      confined.scopes noWrite key isHeld "write" canWrite
    exact (noWrite first isFirst isWrite).elim

/-- Every step keeps the callers confined. -/
theorem Confined.step
    {action : CallerAction}
    (confined : s.Confined hashSecret accountId started)
    (drawn : action.Drawn)
    (taken : s.step hashSecret action = some s') :
    s'.Confined hashSecret accountId started := by
  cases action with
  | others action =>
      obtain ⟨sys, took, isState⟩ := Option.bind_eq_some_iff.mp taken
      cases isState
      exact confined.sys took drawn
  | authenticate allowDev now key =>
      simp only [Callers.step] at taken
      split at taken
      · rename_i isHeld
        obtain ⟨⟨ctx, sys⟩, authenticated, isState⟩ :=
          Option.bind_eq_some_iff.mp taken
        cases isState
        obtain ⟨took, isContext⟩ := KeySys.requireAuth_ok authenticated
        have sound := KeySys.sound_of_reachable confined.reachable
        have isIssued := confined.issued isHeld
        have notBootstrap : ¬key.IsBootstrap := by
          intro isBootstrap
          have isAdmin :=
            (KeySys.clean_of_reachable confined.reachable key
              isIssued).bootstrap isBootstrap
          exact
            (context_notAdmin.mp (confined.notAdmin key isHeld)).1 isAdmin
        have same :=
          sound.context_of_secret isIssued notBootstrap isContext
        have kept := confined.sys took trivial
        refine { kept with requests := ?_ }
        intro one isRequest
        rcases List.mem_append.mp isRequest with isOld | isNew
        · exact confined.requests one isOld
        · obtain rfl := List.mem_singleton.mp isNew
          exact ⟨key, isHeld, same⟩
      · cases taken
  | postKey ctx body draw =>
      simp only [Callers.step] at taken
      split at taken
      · rename_i isRequest
        rw [KeySys.postKey_refused (confined.request_notAdmin isRequest)]
          at taken
        cases taken
      · cases taken
  | postKeyRotate ctx keyId draw =>
      simp only [Callers.step] at taken
      split at taken
      · rename_i isRequest
        obtain ⟨⟨key, sys⟩, answered, isState⟩ :=
          Option.bind_eq_some_iff.mp taken
        cases isState
        obtain ⟨row, found, mayManage, took, isIssued, sameAccount, sameKind,
          sameScopes⟩ := KeySys.postKeyRotate_ok (toOption_eq_some answered)
        obtain ⟨ofAccount, notAdmin, below⟩ :=
          confined.rotates isRequest found mayManage
        have kept := confined.sys took drawn
        apply kept.hold isIssued (sameAccount.trans ofAccount)
        · exact isAdmin_of_rotated notAdmin sameKind sameScopes
        · intro noWrite
          obtain ⟨old, isOld, oldScopes⟩ := below noWrite
          have isClean :=
            KeySys.clean_of_reachable confined.reachable old
              (confined.issued isOld)
          exact ⟨old, isOld, by rw [sameScopes, oldScopes, isClean.scopes]⟩
      · cases taken
  | postKeyRevoke ctx keyId now =>
      simp only [Callers.step] at taken
      split at taken
      · obtain ⟨sys, answered, isState⟩ := Option.bind_eq_some_iff.mp taken
        cases isState
        have took : s.sys.step hashSecret (.revoke keyId now) = some sys :=
          KeySys.postKeyRevoke_ok (toOption_eq_some answered)
        exact confined.sys took trivial
      · cases taken

/--
Callers who start with keys of an account that are no admin's obtain such keys
only; without a write scope among them, they obtain no other scope either.
-/
theorem customers_confined
    (reachable : KeySys.Reachable hashSecret s.sys)
    (issued : s.held ⊆ s.sys.issued)
    (account : ∀ key ∈ s.held, key.record.accountId = accountId)
    (notAdmin : ∀ key ∈ s.held, key.record.context.isAdmin = false)
    (noRequests : s.requests = [])
    (later : Transition.Later (Step hashSecret) s s') :
    ∀ key ∈ s'.held,
      key.record.accountId = accountId ∧
        key.record.context.isAdmin = false ∧
        ((∀ first ∈ s.held, "write" ∉ first.record.scopes) →
          ∀ scope ∈ key.record.scopes,
            ∃ first ∈ s.held, scope ∈ first.record.scopes) := by
  have confined : s'.Confined hashSecret accountId s.held := by
    induction later with
    | refl =>
        refine ⟨reachable, issued, account, notAdmin, ?_, ?_⟩
        · intro _ key isHeld scope isScope
          exact ⟨key, isHeld, isScope⟩
        · rw [noRequests]
          intro ctx isRequest
          cases isRequest
    | tail _ taken inductionHypothesis =>
        obtain ⟨action, drawn, took⟩ := taken
        exact inductionHypothesis.step drawn took
  intro key isHeld
  refine ⟨confined.account key isHeld, confined.notAdmin key isHeld, ?_⟩
  intro noWrite
  exact confined.scopes noWrite key isHeld

/-- A deployment with one key that may only read. -/
def readOnly : List KeyAction :=
  [.bootstrap true 1 1,
    .issue 1 "customer" (some ["read"]) none
      { now := noon
        newId := 2
        allowDev := false
        prefixToken := "0a1b2c3d"
        secretToken := "e4f5" }]

/-- Its key. -/
def readKey : IssuedKey where
  record :=
    { id := 2
      accountId := 1
      visiblePrefix := "cxk_live_0a1b2c3d"
      secretHash := "cxk_live_0a1b2c3d_e4f5"
      scopes := ["read"]
      revokedAt := none
      expiresAt := none
      lastUsedAt := none
      kind := "customer" }
  secret := "cxk_live_0a1b2c3d_e4f5"

/-- The key is rotated by itself. -/
def rotateSelf : List CallerAction :=
  [.authenticate false noon readKey,
    .postKeyRotate readKey.record.context 2
      { now := noon
        newId := 3
        allowDev := false
        prefixToken := "4d3c2b1a"
        secretToken := "5f4e" }]

/-- A second key is obtained, which may only read as well. -/
theorem customers_confined_rotateSelf :
    ∃ sys s',
      KeySys.start.play id readOnly = some sys ∧
        play id ⟨sys, [readKey], []⟩ rotateSelf = some s' ∧
        s'.held.length = 2 ∧
        ∀ key ∈ s'.held,
          key.record.accountId = 1 ∧
            ∀ scope ∈ key.record.scopes, scope = "read" := by
  have runs :
      (KeySys.start.play id readOnly).any (fun sys =>
          readKey ∈ sys.issued &&
            (play id ⟨sys, [readKey], []⟩ rotateSelf).any fun s' =>
              s'.held.length = 2) =
        true := by
    decide +kernel
  obtain ⟨sys, played, facts⟩ := (Option.any_eq_true _ _).mp runs
  obtain ⟨isIssued, goesOn⟩ := (Bool.and_eq_true _ _).mp facts
  obtain ⟨s', rotated, length⟩ := (Option.any_eq_true _ _).mp goesOn
  refine ⟨sys, s', played, rotated, of_decide_eq_true length, ?_⟩
  intro key isHeld
  have ofAccount : ∀ key ∈ [readKey], key.record.accountId = 1 := by decide
  have noAdmin : ∀ key ∈ [readKey], key.record.context.isAdmin = false := by
    decide
  obtain ⟨account, _, scopes⟩ :=
    customers_confined ⟨KeySys.start, rfl, KeySys.later_of_play played⟩
      (by simpa using of_decide_eq_true isIssued)
      ofAccount noAdmin rfl (later_of_play rotated) key isHeld
  refine ⟨account, ?_⟩
  intro scope isScope
  obtain ⟨first, isFirst, ofFirst⟩ :=
    scopes (by simp [readKey]) scope isScope
  obtain rfl := List.mem_singleton.mp isFirst
  simpa [readKey] using ofFirst

end Callers

end Crossing
