import Crossing.Models
import Mathlib.Data.List.Sort

namespace Crossing

/-!
# Policy checks

The functions of `policy.py` over already loaded objects.  A check answers
`Denied` or lets its caller continue; none of them touches the database.
`mandate_payload` is here as well, since `check_signed_state` rebuilds it.
-/

/-- Raise `PolicyDenied(reason, detail)` when a test holds. -/
def denyWhen
    (failed : Prop)
    [Decidable failed]
    (reason : Reason)
    (detail : String) :
    Except Denied Unit :=
  if failed then .error ⟨reason, detail⟩ else .ok ()

/-- The check passes exactly when its test fails. -/
@[simp] theorem denyWhen_eq_ok
    {failed : Prop}
    [Decidable failed]
    {reason : Reason}
    {detail : String} :
    denyWhen failed reason detail = .ok () ↔ ¬ failed := by
  unfold denyWhen
  split <;> simp_all

/-- Two checks in sequence pass exactly when both pass. -/
theorem except_bind_eq_ok
    {ε α β : Type}
    {first : Except ε α}
    {next : α → Except ε β}
    {result : β} :
    (first >>= next) = .ok result ↔
      ∃ middle, first = .ok middle ∧ next middle = .ok result := by
  cases first with
  | error exception => simp [bind, Except.bind]
  | ok value => simp [bind, Except.bind]

/-- Python truthiness of an optional string. -/
def truthy (text : Option String) : Option String :=
  text.filter fun value => value ≠ ""

/-- A non-empty text is truthy. -/
theorem truthy_some
    {text : String}
    (nonempty : text ≠ "") :
    truthy (some text) = some text := by
  simp [truthy, nonempty]

/-- What is truthy is not empty. -/
theorem truthy_nonempty
    {given : Option String}
    {text : String}
    (isText : truthy given = some text) :
    text ≠ "" := by
  simpa using (Option.filter_eq_some_iff.mp isText).2

/-- The code points that `str.strip` removes. -/
def isSpace (char : Char) : Bool :=
  char.toNat ∈
    [9, 10, 11, 12, 13, 28, 29, 30, 31, 32, 133, 160, 5760, 8192, 8193,
      8194, 8195, 8196, 8197, 8198, 8199, 8200, 8201, 8202, 8232, 8233,
      8239, 8287, 12288]

/-- `str.strip`. -/
def strip (text : String) : String :=
  .ofList
    ((text.toList.dropWhile isSpace).reverse.dropWhile isSpace).reverse

/-- A naive datetime counts as UTC; an aware one is converted. -/
def asUtc (dt : Datetime) : Datetime where
  wall := dt.wall - dt.utcoffset.getD 0
  utcoffset := some 0

/-- `child` lists nothing that `parent` does not list. -/
def subset (child parent : Option (List String)) : Bool :=
  match parent with
  | none => true
  | some listed =>
      if listed.isEmpty then
        match child with
        | none => true
        | some names => names.all (listed.contains ·)
      else
        match child with
        | none => false
        | some names => names.all (listed.contains ·)

/-- The agent exists and is not revoked. -/
def checkAgent (agent : Option Agent) : Except Denied Agent :=
  match agent with
  | none => .error ⟨.agentRevoked, "agent missing"⟩
  | some agent =>
      if agent.revoked then
        .error ⟨.agentRevoked, "agent is revoked"⟩
      else
        .ok agent

/-- Reject the first negative amount, by name. -/
def checkNonNegativeMoney :
    List (String × Option Cents) → Except Denied Unit
  | [] => .ok ()
  | (name, value) :: rest => do
      denyWhen (∃ amount ∈ value, amount < 0)
        .invalidAmount s!"{name} must be >= 0"
      checkNonNegativeMoney rest

/-- `sorted` on an optional list. -/
def sortedList (names : Option (List String)) : Option (List String) :=
  names.map (·.insertionSort (· ≤ ·))

/-- The immutable fields that a mandate's signature covers. -/
def mandatePayload
    (principalId agentId : Id)
    (parentMandateId : Option Id)
    (spendLimitCents maxCallCents : Cents)
    (maxCalls : Option Int)
    (tools servers : Option (List String))
    (expiresAt : Option Datetime)
    (maxSubagentBudgetCents : Option Cents)
    (nonce : String) :
    MandatePayload where
  v := 1
  principalId := principalId
  agentId := agentId
  parentMandateId := parentMandateId
  spendLimitCents := spendLimitCents
  maxCallCents := maxCallCents
  maxCalls := maxCalls
  tools := sortedList tools
  servers := sortedList servers
  expiresAt := expiresAt.map asUtc
  maxSubagentBudgetCents := maxSubagentBudgetCents
  nonce := nonce

/-- The payload that the enforcement columns of a mandate stand for. -/
def rebuiltPayload (mandate : Mandate) : MandatePayload :=
  mandatePayload mandate.principalId mandate.agentId mandate.parentMandateId
    mandate.spendLimitCents mandate.maxCallCents mandate.maxCalls
    mandate.toolsList mandate.serversList mandate.expiresAt
    mandate.maxSubagentBudgetCents mandate.nonce

/-- Compare the signed payload with the enforcement columns, key by key. -/
def checkSignedState (mandate : Mandate) : Except Denied Unit := do
  let signed := mandate.payloadJson
  let rebuilt := rebuiltPayload mandate
  denyWhen (signed.principalId ≠ rebuilt.principalId)
    .signedStateDiverged "principal_id"
  denyWhen (signed.agentId ≠ rebuilt.agentId)
    .signedStateDiverged "agent_id"
  denyWhen (signed.parentMandateId ≠ rebuilt.parentMandateId)
    .signedStateDiverged "parent_mandate_id"
  denyWhen (signed.spendLimitCents ≠ rebuilt.spendLimitCents)
    .signedStateDiverged "spend_limit_cents"
  denyWhen (signed.maxCallCents ≠ rebuilt.maxCallCents)
    .signedStateDiverged "max_call_cents"
  denyWhen (signed.maxCalls ≠ rebuilt.maxCalls)
    .signedStateDiverged "max_calls"
  denyWhen (sortedList signed.tools ≠ sortedList rebuilt.tools)
    .signedStateDiverged "tools"
  denyWhen (sortedList signed.servers ≠ sortedList rebuilt.servers)
    .signedStateDiverged "servers"
  denyWhen (signed.expiresAt ≠ rebuilt.expiresAt)
    .signedStateDiverged "expires_at"
  denyWhen
    (signed.maxSubagentBudgetCents ≠ rebuilt.maxSubagentBudgetCents)
    .signedStateDiverged "max_subagent_budget_cents"
  denyWhen (signed.nonce ≠ rebuilt.nonce)
    .signedStateDiverged "nonce"

/-- The keys a mandate may be signed under. -/
def boundPubkeys
    (principal : Option Principal)
    (issuerHex : String) :
    List String :=
  match principal.bind Principal.pubkeyHex with
  | some stored => if stored = "" then [issuerHex] else [issuerHex, stored]
  | none => [issuerHex]

/-- The signature is genuine and made under an allowed key. -/
def checkMandateSignature
    (env : Env)
    (mandate : Mandate)
    (allowedPubkeys : List String) :
    Except Denied Unit := do
  denyWhen (mandate.pubkeyHex ∉ allowedPubkeys)
    .mandateForged "pubkey is not a registered trust anchor"
  denyWhen
    (env.verifyObj mandate.payloadJson mandate.signature
      mandate.pubkeyHex = false)
    .mandateForged "signature mismatch"

/-- Neither revoked nor past its expiry. -/
def checkFresh
    (env : Env)
    (now : Datetime)
    (mandate : Mandate) :
    Except Denied Unit := do
  denyWhen (mandate.revoked = true) .mandateRevoked ""
  match mandate.expiresAt.map asUtc with
  | none => .ok ()
  | some expires =>
      denyWhen ((asUtc now).wall > expires.wall)
        .mandateExpired s!"expired at {env.isoformat expires}"

/-- The mandate permits this call at this price. -/
def checkTool
    (mandate : Mandate)
    (tool server : String)
    (priceCents : Cents) :
    Except Denied Unit := do
  checkSignedState mandate
  denyWhen (∃ tools ∈ mandate.toolsList, tool ∉ tools)
    .toolNotAllowed tool
  denyWhen (∃ servers ∈ mandate.serversList, server ∉ servers)
    .serverNotAllowed server
  denyWhen (priceCents > mandate.maxCallCents)
    .callOverMax s!"{priceCents} > {mandate.maxCallCents}"
  denyWhen (∃ maxCalls ∈ mandate.maxCalls, mandate.callsUsed ≥ maxCalls)
    .maxCallsExceeded ""
  denyWhen (priceCents > mandate.remainingCents)
    .budgetExceeded s!"need {priceCents} have {mandate.remainingCents}"

/-- A child mandate asks for no more than its parent holds. -/
def checkChildAttenuation
    (parent : Mandate)
    (spendLimitCents maxCallCents : Cents)
    (tools servers : Option (List String))
    (expiresAt : Option Datetime)
    (maxSubagentBudgetCents : Option Cents) :
    Except Denied Unit := do
  denyWhen (spendLimitCents ≤ 0) .invalidAmount "child spend must be > 0"
  denyWhen (spendLimitCents > parent.remainingCents)
    .childSpendEscalation
    s!"{spendLimitCents} > remaining {parent.remainingCents}"
  denyWhen (spendLimitCents > parent.spendLimitCents)
    .childSpendEscalation ""
  denyWhen (maxCallCents > parent.maxCallCents)
    .childMaxCallEscalation ""
  denyWhen (subset tools parent.toolsList = false)
    .childToolsEscalation ""
  denyWhen (subset servers parent.serversList = false)
    .childServersEscalation ""
  let parentExp := parent.expiresAt.map asUtc
  let childExp := expiresAt.map asUtc
  denyWhen
    (∃ limit ∈ parentExp,
      ∀ instant ∈ childExp, instant.wall > limit.wall)
    .childExpiryEscalation ""
  let cap :=
    match parent.maxSubagentBudgetCents with
    | some budget => min parent.remainingCents budget
    | none => parent.remainingCents
  let childSub := maxSubagentBudgetCents.getD spendLimitCents
  denyWhen (childSub < 0)
    .invalidAmount "max_subagent_budget_cents must be >= 0"
  denyWhen (childSub > cap)
    .childBudgetEscalation s!"{childSub} > remaining/cap {cap}"

end Crossing
