import Crossing.Identity

namespace Crossing

open Relational
open Relational.Transaction

/-!
# Issuing, loading and revoking mandates

The functions of `mandate.py`.  A child mandate escrows its whole spend limit
from its parent by one conditional update, whose guard is evaluated on the
parent's current row.
-/

/-- The keyword arguments of `issue_mandate`, with their defaults. -/
structure IssueMandate where
  principalId : Id
  agentId : Id
  spendLimitCents : Cents
  maxCallCents : Option Cents := none
  maxCalls : Option Int := some 1000
  tools : Option (List String) := none
  servers : Option (List String) := none
  expiresAt : Option Datetime := none
  maxSubagentBudgetCents : Option Cents := none
  nonce : Option String := none
  parentMandateId : Option Id := none
  signature : Option String := none
  pubkeyHex : Option String := none
  verify : Bool := true
  deriving Repr, DecidableEq

namespace IssueMandate

/-- `max_call_cents` defaults to the spend limit. -/
def maxCall (args : IssueMandate) : Cents :=
  args.maxCallCents.getD args.spendLimitCents

/-- `max_subagent_budget_cents` defaults to the spend limit. -/
def maxSubagentBudget (args : IssueMandate) : Cents :=
  args.maxSubagentBudgetCents.getD args.spendLimitCents

/-- The payload that is signed for these arguments under a nonce. -/
def payload (args : IssueMandate) (nonce : String) : MandatePayload :=
  mandatePayload args.principalId args.agentId args.parentMandateId
    args.spendLimitCents args.maxCall args.maxCalls args.tools args.servers
    args.expiresAt (some args.maxSubagentBudget) nonce

end IssueMandate

/-- `_verify_stored_mandate`. -/
def verifyStoredMandate
    (env : Env)
    (view : Db)
    (mandate : Mandate) :
    Except Denied Unit := do
  let principal := view.principals.find mandate.principalId
  checkMandateSignature env mandate
    (boundPubkeys principal env.issuerPubkey)
  checkSignedState mandate

/-- `_verify_caller_signature`: the bound key that verified the payload. -/
def verifyCallerSignature
    (env : Env)
    (view : Db)
    (principalId : Id)
    (payload : MandatePayload)
    (signature : String)
    (pubkeyHex : Option String) :
    Except Denied String := do
  let principal := view.principals.find principalId
  let allowed := boundPubkeys principal env.issuerPubkey
  denyWhen (∃ presented ∈ pubkeyHex, presented ∉ allowed)
    .mandateForged "request pubkey is not bound to the principal"
  let verifyKey :=
    (truthy (principal.bind Principal.pubkeyHex)).getD env.issuerPubkey
  denyWhen (env.verifyObj payload signature verifyKey = false)
    .mandateForged "caller signature rejected"
  .ok verifyKey

/-- The parent checks of `issue_mandate`, on the parent row that was loaded. -/
def checkParent
    (env : Env)
    (views : Views)
    (now : Datetime)
    (args : IssueMandate)
    (parentId : Id) :
    Body Mandate := do
  let parent ←
    orRaise (denied ⟨.mandateRevoked, "parent mandate missing"⟩)
      ((views 0).mandates.find parentId)
  ofExcept denied
    (if args.verify then
      verifyStoredMandate env (views 1) parent
    else
      .ok ())
  ofExcept denied (checkFresh env now parent)
  let descends ←
    orRaise .unfinished
      (isSelfOrDescendant (views 2).agents args.agentId parent.agentId)
  raiseWhen (descends = false)
    (denied ⟨.childAgentNotDescendant,
      "child agent is not the parent agent or a descendant"⟩)
  ofExcept denied
    (checkChildAttenuation parent args.spendLimitCents args.maxCall
      args.tools args.servers args.expiresAt
      (some args.maxSubagentBudget))
  pure parent

/-- `if parent_mandate_id:` the parent, checked. -/
def loadParent
    (env : Env)
    (views : Views)
    (now : Datetime)
    (args : IssueMandate) :
    Body (Option Mandate) :=
  match args.parentMandateId with
  | none => pure none
  | some parentId => some <$> checkParent env views now args parentId

/-- The signature and the key that `issue_mandate` stores. -/
def storedSignature
    (env : Env)
    (view : Db)
    (args : IssueMandate)
    (payload : MandatePayload) :
    Except Denied (String × String) :=
  match args.signature with
  | none => .ok (env.signObj payload, env.issuerPubkey)
  | some signature =>
      if args.verify then do
        let key ←
          verifyCallerSignature env view args.principalId payload signature
            args.pubkeyHex
        .ok (signature, key)
      else
        .ok (signature, (truthy args.pubkeyHex).getD env.issuerPubkey)

/-- The row that `issue_mandate` inserts. -/
def issuedMandate
    (args : IssueMandate)
    (newId : Id)
    (nonce signature pubkeyHex : String) :
    Mandate where
  id := newId
  principalId := args.principalId
  agentId := args.agentId
  parentMandateId := args.parentMandateId
  spendLimitCents := args.spendLimitCents
  remainingCents := args.spendLimitCents
  maxCallCents := args.maxCall
  maxCalls := args.maxCalls
  callsUsed := 0
  toolsJson := args.tools
  serversJson := args.servers
  expiresAt := args.expiresAt.map asUtc
  maxSubagentBudgetCents := some args.maxSubagentBudget
  nonce := nonce
  signature := signature
  pubkeyHex := pubkeyHex
  payloadJson := args.payload nonce
  revoked := false

/-- `expires_at IS NULL OR expires_at > now`, as the guards spell it in SQL. -/
def notExpired (now : Datetime) (mandate : Mandate) : Bool :=
  match mandate.expiresAt with
  | none => true
  | some expires => (asUtc expires).wall > (asUtc now).wall

/-- The escrow of a child's limit: one conditional update and its event. -/
def escrow
    (now : Datetime)
    (child : Mandate)
    (parentId : Id) :
    Body Unit := do
  let escrowed ←
    updateRow Db.mandates (fun db table => { db with mandates := table })
      parentId
      (fun row =>
        row.remainingCents ≥ child.spendLimitCents &&
          !row.revoked && notExpired now row)
      (fun row =>
        { row with
          remainingCents := row.remainingCents - child.spendLimitCents })
  let parent ←
    orRaise
      (denied ⟨.childSpendEscalation, s!"{child.spendLimitCents} > remaining"⟩)
      escrowed
  modify fun db =>
    { db with
      ledgerEvents := db.ledgerEvents ++
        [{ principalId := child.principalId
           mandateId := parent.id
           reservationId := none
           taskId := none
           kind := .escrow
           amountCents := child.spendLimitCents
           remainingAfter := some parent.remainingCents
           idempotencyKey := none
           note := some (.child child.id) }] }

/-- `if parent is not None:` the escrow. -/
def escrowWhenChild
    (now : Datetime)
    (child : Mandate)
    (parent : Option Mandate) :
    Body Unit :=
  match parent with
  | none => pure ()
  | some parent => escrow now child parent.id

/--
`issue_mandate`.  `now` is read for the checks and `debitNow` for the escrow
guard; `freshNonce` is what `token_hex` would draw.
-/
def issueMandate
    (env : Env)
    (views : Views)
    (now debitNow : Datetime)
    (args : IssueMandate)
    (newId : Id)
    (freshNonce : String) :
    Body Mandate := do
  ofExcept denied
    (checkNonNegativeMoney
      [("spend_limit_cents", some args.spendLimitCents),
        ("max_call_cents", args.maxCallCents),
        ("max_subagent_budget_cents", args.maxSubagentBudgetCents),
        ("remaining_cents", some args.spendLimitCents)])
  let agent ← ofExcept denied (requireLiveAgent views args.agentId)
  raiseWhen (agent.principalId ≠ args.principalId)
    (denied ⟨.agentPrincipalMismatch, "agent is not bound to principal"⟩)
  ofExcept denied
    (checkNonNegativeMoney
      [("max_call_cents", some args.maxCall),
        ("max_subagent_budget_cents", some args.maxSubagentBudget)])
  let parent ← loadParent env (views.after 2) now args
  let nonce := (truthy args.nonce).getD freshNonce
  raiseWhen
    (((views 5).usedNonces.find (args.principalId, nonce)).isSome = true)
    (denied ⟨.nonceReplay, nonce⟩)
  addRow Db.usedNonces (fun db table => { db with usedNonces := table })
    { principalId := args.principalId, nonce := nonce }
  let (signature, pubkeyHex) ←
    ofExcept denied (storedSignature env (views 6) args (args.payload nonce))
  let mandate := issuedMandate args newId nonce signature pubkeyHex
  ofExcept denied
    (if args.verify then
      verifyStoredMandate env (views 7) mandate
    else
      .ok ())
  -- The unique constraint of `mandates.nonce`.
  let db ← get
  raiseWhen (∃ row ∈ db.mandates.rows, row.nonce = nonce) .integrityError
  addRow Db.mandates (fun db table => { db with mandates := table }) mandate
  escrowWhenChild debitNow mandate parent
  pure mandate

/-- The row of a mandate, which must exist. -/
def findMandate (view : Db) (mandateId : Id) : Except Denied Mandate :=
  match view.mandates.find mandateId with
  | none => .error ⟨.mandateRevoked, "mandate missing"⟩
  | some mandate => .ok mandate

/-- `load_live_mandate`. -/
def loadLiveMandate
    (env : Env)
    (views : Views)
    (now : Datetime)
    (mandateId : Id) :
    Except Denied Mandate := do
  let mandate ← findMandate (views 0) mandateId
  verifyStoredMandate env (views 1) mandate
  checkFresh env now mandate
  let _ ← requireLiveAgent (views.after 2) mandate.agentId
  .ok mandate

/-- `revoke_mandate`: the flag of this one row. -/
def revokeMandate (views : Views) (mandateId : Id) : Body Unit := do
  let _ ←
    orRaise (denied ⟨.mandateRevoked, "mandate missing"⟩)
      ((views 0).mandates.find mandateId)
  modify fun db =>
    { db with
      mandates := db.mandates.modify mandateId fun row =>
        { row with revoked := true } }

end Crossing
