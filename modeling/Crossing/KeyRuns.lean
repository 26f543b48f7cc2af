import Crossing.ApiKeys
import Crossing.TransitionRun

namespace Crossing

open Relational
open Relational.Transaction

/-!
# Runs over the API keys

`issue_api_key` with all its arguments, `rotate_api_key`, `revoke_api_key` and
`ensure_bootstrap` as the steps of a system that also remembers which secrets
were returned and which keys were ended.  The random parts of a key are given
to a step, and are made of hexadecimal digits.
-/

/-! ## Issuing -/

/-- `ADMIN_SCOPES`. -/
def adminScopes : List String := allScopes

/-- `BOOTSTRAP_PREFIX`. -/
def bootstrapPrefix : String := "cxk_test_boot"

/-- `BOOTSTRAP_SECRET`. -/
def bootstrapSecret : String := "dev"

/-- `_scopes_json`, where no scopes may be given. -/
def scopesJsonFor (scopes : Option (List String)) (kind : String) :
    List String :=
  scopesJson
    (scopes.getD (if kind = "admin" then adminScopes else customerScopes))

/-- `_env_kind`. -/
def envKind (allowDev : Bool) : String :=
  if allowDev then "test" else "live"

/-- `visible_prefix`, with the token that was drawn. -/
def visiblePrefix (allowDev : Bool) (token : String) : String :=
  "cxk_" ++ envKind allowDev ++ "_" ++ token

/-- `IssuedKey`. -/
structure IssuedKey where
  record : ApiKey
  secret : String
  deriving Repr, DecidableEq

/-- `issue_api_key`, with the prefix and the secret as they come out. -/
def issueKey
    (hashSecret : String → String)
    (view : Db)
    (accountId : Id)
    (kind : String)
    (scopes : Option (List String))
    (expiresAt : Option Datetime)
    (keyPrefix secret : String)
    (newId : Id) :
    KeyBody IssuedKey := do
  raiseWhen (kind ∉ ["customer", "admin"])
    (denied ⟨.unauthorized, "invalid key kind"⟩)
  let _ ←
    orRaise (denied ⟨.principalMissing, "account missing"⟩)
      (view.accounts.find accountId)
  let row : ApiKey :=
    { id := newId
      accountId := accountId
      visiblePrefix := keyPrefix
      secretHash := hashSecret secret
      scopes := scopesJsonFor scopes kind
      revokedAt := none
      expiresAt := expiresAt
      lastUsedAt := none
      kind := kind }
  addKey row
  pure ⟨row, secret⟩

/-- What a new key takes from the environment and the random generator. -/
structure SecretDraw where
  now : Datetime
  newId : Id
  allowDev : Bool
  prefixToken : String
  secretToken : String
  deriving Repr, DecidableEq

namespace SecretDraw

/-- The prefix of the new key. -/
def keyPrefix (draw : SecretDraw) : String :=
  visiblePrefix draw.allowDev draw.prefixToken

/-- The secret of the new key. -/
def secret (draw : SecretDraw) : String :=
  draw.keyPrefix ++ "_" ++ draw.secretToken

/-- The draw as the key routes take it. -/
def keyDraw (hashSecret : String → String) (draw : SecretDraw) : KeyDraw where
  now := draw.now
  newId := draw.newId
  visiblePrefix := draw.keyPrefix
  secretHash := hashSecret draw.secret

/-- `secrets.token_hex` yields hexadecimal digits. -/
def IsHex (draw : SecretDraw) : Prop :=
  ∀ digit ∈ draw.prefixToken.toList ++ draw.secretToken.toList,
    digit ∈ "0123456789abcdef".toList

instance (draw : SecretDraw) : Decidable draw.IsHex :=
  List.decidableBAll _ _

end SecretDraw

/-- `rotate_api_key`, with the secret that it returns. -/
def rotateKey
    (hashSecret : String → String)
    (view : Db)
    (row : ApiKey)
    (draw : SecretDraw) :
    KeyBody IssuedKey :=
  (fun record => ⟨record, draw.secret⟩) <$>
    rotateApiKey view row (draw.keyDraw hashSecret)

/-! ## The system -/

/-- The keys, the rest of the database, and what has happened to keys. -/
structure KeySys where
  db : Db
  keys : Table ApiKey
  issued : List IssuedKey
  ended : List Id

/-- An operation on the keys, or a transaction on the rest of the database. -/
inductive KeyAction where
  | elsewhere (db : Db)
  | issue
      (accountId : Id)
      (kind : String)
      (scopes : Option (List String))
      (expiresAt : Option Datetime)
      (draw : SecretDraw)
  | rotate (keyId : Id) (draw : SecretDraw)
  | revoke (keyId : Id) (now : Datetime)
  | authenticate
      (allowDev : Bool)
      (now : Datetime)
      (presented : Option String)
  | bootstrap (allowDev : Bool) (newAccountId newId : Id)

/-- The random parts of an action are as `secrets` draws them. -/
def KeyAction.Drawn : KeyAction → Prop
  | .issue _ _ _ _ draw => draw.IsHex
  | .rotate _ draw => draw.IsHex
  | _ => True

instance : ∀ action : KeyAction, Decidable action.Drawn
  | .issue _ _ _ _ draw => inferInstanceAs (Decidable draw.IsHex)
  | .rotate _ draw => inferInstanceAs (Decidable draw.IsHex)
  | .elsewhere _ => .isTrue trivial
  | .revoke .. => .isTrue trivial
  | .authenticate .. => .isTrue trivial
  | .bootstrap .. => .isTrue trivial

/-- The account that `ensure_bootstrap` creates. -/
def bootstrapAccount (newId : Id) : Account where
  id := newId
  stripeCustomerId := none
  stripeStatus := none
  feeMicrocents := 0
  feeInvoicedCents := 0

namespace KeySys

/-- Before the first key. -/
def start : KeySys where
  db := Db.empty
  keys := Table.empty
  issued := []
  ended := []

/-- The state after an action, when it does not raise. -/
def step (hashSecret : String → String) (s : KeySys) :
    KeyAction → Option KeySys
  | .elsewhere db => some { s with db := db }
  | .issue accountId kind scopes expiresAt draw => do
      let (issued, keys) ←
        Transaction.commit
          (issueKey hashSecret s.db accountId kind scopes expiresAt
            draw.keyPrefix draw.secret draw.newId)
          s.keys
      some { s with keys := keys, issued := s.issued ++ [issued] }
  | .rotate keyId draw => do
      let row ← s.keys.find keyId
      let (issued, keys) ←
        Transaction.commit (rotateKey hashSecret s.db row draw) s.keys
      some
        { s with
          keys := keys
          issued := s.issued ++ [issued]
          ended := s.ended ++ [keyId] }
  | .revoke keyId now => do
      let row ← s.keys.find keyId
      let (_, keys) ← Transaction.commit (revokeApiKey row now) s.keys
      some { s with keys := keys, ended := s.ended ++ [keyId] }
  | .authenticate allowDev now presented => do
      let row ← Crossing.authenticate ⟨hashSecret, allowDev⟩ s.keys now presented
      some
        { s with
          keys := s.keys.modify row.id fun row =>
            { row with lastUsedAt := some now } }
  | .bootstrap allowDev newAccountId newId =>
      if allowDev = false then
        some s
      else
        match keyByPrefix s.keys bootstrapPrefix with
        | some _ => some s
        | none => do
            let accounts ←
              s.db.accounts.insert? (bootstrapAccount newAccountId)
            let db := { s.db with accounts := accounts }
            let (issued, keys) ←
              Transaction.commit
                (issueKey hashSecret db newAccountId "admin"
                  (some adminScopes) none bootstrapPrefix bootstrapSecret
                  newId)
                s.keys
            some
              { s with
                db := db
                keys := keys
                issued := s.issued ++ [issued] }

/-- A step with tokens as they are drawn. -/
def Step (hashSecret : String → String) (s s' : KeySys) : Prop :=
  ∃ action, action.Drawn ∧ step hashSecret s action = some s'

/-- The states of all runs. -/
abbrev Reachable (hashSecret : String → String) : KeySys → Prop :=
  Transition.Reachable (· = start) (Step hashSecret)

/-- The state after a list of actions, when all are drawn and succeed. -/
def play (hashSecret : String → String) :
    KeySys → List KeyAction → Option KeySys :=
  Transition.play (step hashSecret) fun _ => KeyAction.Drawn

/-- A list of actions that is played is a run. -/
theorem later_of_play
    {hashSecret : String → String}
    {s s' : KeySys}
    {actions : List KeyAction}
    (played : s.play hashSecret actions = some s') :
    Transition.Later (Step hashSecret) s s' :=
  Transition.later_of_play played

end KeySys

end Crossing
