import Crossing.Identity
import Crossing.TransactionFrame

namespace Crossing

open Relational
open Relational.Transaction

/-!
# API keys

The functions of `auth.py` that requests run: a key is found by its prefix,
compared by its hash, and gives the request its account and scopes.  Keys live
in a table of their own, which no ledger transaction touches.
-/

/-- `api_keys`. -/
structure ApiKey where
  id : Id
  accountId : Id
  visiblePrefix : String
  secretHash : String
  scopes : List String
  revokedAt : Option Datetime
  expiresAt : Option Datetime
  lastUsedAt : Option Datetime
  kind : String
  deriving Repr, DecidableEq

instance : Keyed ApiKey Id := ⟨ApiKey.id⟩

@[simp] theorem key_apiKey (row : ApiKey) : Keyed.key row = row.id := rfl

/-- What a request knows of its caller. -/
structure AuthContext where
  accountId : Id
  apiKeyId : Id
  kind : String
  scopes : List String
  deriving Repr, DecidableEq

namespace AuthContext

/-- `has_scope`: the admin scope includes every other. -/
def hasScope (ctx : AuthContext) (scope : String) : Bool :=
  "admin" ∈ ctx.scopes || scope ∈ ctx.scopes

/-- `is_admin`. -/
def isAdmin (ctx : AuthContext) : Bool :=
  ctx.kind = "admin" || "admin" ∈ ctx.scopes

end AuthContext

/-- The keyed hash of secrets, and whether development keys are allowed. -/
structure AuthEnv where
  hashSecret : String → String
  allowDev : Bool

/-- `SCOPES`. -/
def allScopes : List String :=
  ["read", "write", "invoke", "mandate:issue", "mandate:revoke",
    "billing:read", "admin"]

/-- `CUSTOMER_SCOPES`. -/
def customerScopes : List String :=
  ["read", "write", "invoke", "mandate:issue", "mandate:revoke",
    "billing:read"]

/-- `_scopes_json` on given scopes: unknown names go, and none means all. -/
def scopesJson (scopes : List String) : List String :=
  let cleaned := scopes.filter (· ∈ allScopes)
  if cleaned.isEmpty then customerScopes else cleaned

/-- `parse_prefix`: `cxk_<env>_<random>`. -/
def parsePrefix (presented : String) : Option String :=
  match (presented.toList.splitOn '_').map String.ofList with
  | head :: env :: random :: _ :: _ =>
      if head = "cxk" ∧ env ∈ ["live", "test"] then
        some ("_".intercalate [head, env, random])
      else
        none
  | _ => none

/-- `SELECT … WHERE prefix = p`; prefixes are unique. -/
def keyByPrefix (keys : Table ApiKey) (visiblePrefix : String) :
    Option ApiKey :=
  keys.rows.find? fun row => row.visiblePrefix = visiblePrefix

/-- `_load_live_key`: neither revoked, nor expired, nor another secret. -/
def isLiveKey
    (auth : AuthEnv)
    (now : Datetime)
    (presented : String)
    (row : ApiKey) :
    Bool :=
  row.revokedAt.isNone &&
    (row.expiresAt.all fun expires =>
      (asUtc now).wall ≤ (asUtc expires).wall) &&
    auth.hashSecret presented = row.secretHash

/-- The context of a request made with a key. -/
def ApiKey.context (row : ApiKey) : AuthContext where
  accountId := row.accountId
  apiKeyId := row.id
  kind := row.kind
  scopes := row.scopes

/-- `authenticate`: the row that the presented key is live for. -/
def authenticate
    (auth : AuthEnv)
    (keys : Table ApiKey)
    (now : Datetime)
    (presented : Option String) :
    Option ApiKey := do
  let presented ← truthy presented
  let row ←
    match (parsePrefix presented).bind (keyByPrefix keys) with
    | some row => some row
    | none =>
        if auth.allowDev ∧ presented = "dev" then
          keyByPrefix keys "cxk_test_boot"
        else
          none
  if isLiveKey auth now presented row then some row else none

/-! ## Rotation and revocation -/

/-- A transaction body over the keys. -/
abbrev KeyBody := Transaction (Table ApiKey) Raised

/-- What a new key takes from the clock and the random generator. -/
structure KeyDraw where
  now : Datetime
  newId : Id
  visiblePrefix : String
  secretHash : String
  deriving Repr, DecidableEq

/-- The insert of a key, whose prefix is unique as well. -/
def addKey (row : ApiKey) : KeyBody Unit := do
  let keys ← get
  raiseWhen (∃ other ∈ keys.rows, other.visiblePrefix = row.visiblePrefix)
    .integrityError
  let inserted ← orRaise .integrityError (keys.insert? row)
  set inserted

/-- `issue_api_key`, with the kind and the scopes of the rotated key. -/
def issueApiKey
    (view : Db)
    (accountId : Id)
    (kind : String)
    (scopes : List String)
    (draw : KeyDraw) :
    KeyBody ApiKey := do
  raiseWhen (kind ∉ ["customer", "admin"])
    (denied ⟨.unauthorized, "invalid key kind"⟩)
  let _ ←
    orRaise (denied ⟨.principalMissing, "account missing"⟩)
      (view.accounts.find accountId)
  let row : ApiKey :=
    { id := draw.newId
      accountId := accountId
      visiblePrefix := draw.visiblePrefix
      secretHash := draw.secretHash
      scopes := scopesJson scopes
      revokedAt := none
      expiresAt := none
      lastUsedAt := none
      kind := kind }
  addKey row
  pure row

/-- `row.revoked_at = utcnow()`. -/
def revokeKey (keyId : Id) (now : Datetime) : KeyBody Unit :=
  modify fun keys =>
    keys.modify keyId fun row => { row with revokedAt := some now }

/-- `rotate_api_key`, on the row that was loaded. -/
def rotateApiKey (view : Db) (row : ApiKey) (draw : KeyDraw) :
    KeyBody ApiKey := do
  revokeKey row.id draw.now
  issueApiKey view row.accountId row.kind row.scopes draw

/-- `revoke_api_key`, on the row that was loaded. -/
def revokeApiKey (row : ApiKey) (now : Datetime) : KeyBody Unit :=
  revokeKey row.id now

/-! ## The keys of other accounts -/

section Others

variable
  {accountId : Id}
  {view : Db}
  {row : ApiKey}

/-- The keys of other accounts. -/
def keysOfOthers (accountId : Id) (keys : Table ApiKey) : List ApiKey :=
  keys.rows.filter (·.accountId ≠ accountId)

/-- A body that leaves the keys of other accounts alone. -/
abbrev KeepsOtherKeys
    {α : Type}
    (accountId keyId : Id)
    (body : KeyBody α) :
    Prop :=
  Keeps (fun keys => keys.OwnedBy ApiKey.accountId accountId keyId)
    (keysOfOthers accountId) body fun _ => True

/-- A change of a key of the account that leaves it with the account. -/
theorem keysOfOthers_modify
    {keys : Table ApiKey}
    {keyId : Id}
    {change : ApiKey → ApiKey}
    (owned : keys.OwnedBy ApiKey.accountId accountId keyId)
    (keepsId : ∀ row, (change row).id = row.id)
    (keepsAccount : ∀ row, (change row).accountId = row.accountId) :
    keysOfOthers accountId (keys.modify keyId change) =
      keysOfOthers accountId keys := by
  apply Table.filter_modify
  · intro old found
    simp [owned old found]
  · intro old found
    simp [keepsAccount, owned old found]
  · exact keepsId

/-- A revocation of a key of the account. -/
theorem revokeKey_keeps
    {keyId : Id}
    {now : Datetime} :
    KeepsOtherKeys accountId keyId (revokeKey keyId now) := by
  apply Keeps.modify
  intro keys owned
  refine ⟨?_, ?_⟩
  · exact keysOfOthers_modify owned (fun _ => rfl) fun _ => rfl
  · exact owned.modify (fun _ => rfl) fun _ => rfl

/-- An insert of a key of the account. -/
theorem addKey_keeps
    {keyId : Id}
    (own : row.accountId = accountId) :
    KeepsOtherKeys accountId keyId (addKey row) := by
  intro keys owned
  cases ran : exec (addKey row) keys with
  | mk outcome keys' =>
      cases outcome with
      | error exception =>
          have same : keys' = keys := by
            rcases bind_error ran with readRaised | ⟨read, _, readRun, rest⟩
            · cases readRaised
            · cases readRun
              rcases bind_error rest with
                checkRaised | ⟨_, _, checkRun, rest⟩
              · exact (raiseWhen_error checkRaised).2.2
              · obtain ⟨_, rfl⟩ := raiseWhen_ok checkRun
                rcases bind_error rest with
                  insertRaised | ⟨_, _, insertRun, setRaised⟩
                · exact (orRaise_error insertRaised).2.2
                · cases setRaised
          subst same
          exact ⟨rfl, owned, fun _ _ => trivial⟩
      | ok done =>
          obtain ⟨read, _, readRun, rest⟩ := bind_ok ran
          cases readRun
          obtain ⟨_, _, checkRun, rest⟩ := bind_ok rest
          obtain ⟨_, rfl⟩ := raiseWhen_ok checkRun
          obtain ⟨inserted, _, insertRun, setRun⟩ := bind_ok rest
          obtain ⟨accepted, rfl⟩ := orRaise_ok insertRun
          cases setRun
          refine ⟨?_, owned.insert accepted own, fun _ _ => trivial⟩
          exact Table.filter_insert accepted (by simp [own])

/-- A rotation revokes a key of the account and issues another one to it. -/
theorem rotateApiKey_keeps
    {draw : KeyDraw}
    (own : row.accountId = accountId) :
    KeepsOtherKeys accountId row.id (rotateApiKey view row draw) := by
  refine revokeKey_keeps.bind fun _ _ => ?_
  refine Keeps.raiseWhen.bind fun _ _ => ?_
  refine Keeps.orRaise.bind fun _ _ => ?_
  exact Keeps.bind (addKey_keeps own) fun _ _ => .pure trivial

end Others

end Crossing
