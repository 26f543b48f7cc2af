import Crossing.ReceiptCheck
import Crossing.StoredColumns

namespace Crossing

open Python
open Relational

/-!
# Results in text columns

`issue` writes the body of a receipt as a text, and `_result_payload` the answer
of a call.  `to_dict` and `_load_idem`, which read them back, show what the
values show.
-/

/-- The reason codes as they are answered. -/
def Reason.text : Reason → String
  | .mandateForged => "MANDATE_FORGED"
  | .mandateExpired => "MANDATE_EXPIRED"
  | .mandateRevoked => "MANDATE_REVOKED"
  | .nonceReplay => "NONCE_REPLAY"
  | .toolNotAllowed => "TOOL_NOT_ALLOWED"
  | .serverNotAllowed => "SERVER_NOT_ALLOWED"
  | .callOverMax => "CALL_OVER_MAX"
  | .budgetExceeded => "BUDGET_EXCEEDED"
  | .agentRevoked => "AGENT_REVOKED"
  | .principalMissing => "PRINCIPAL_MISSING"
  | .childSpendEscalation => "CHILD_SPEND_ESCALATION"
  | .childExpiryEscalation => "CHILD_EXPIRY_ESCALATION"
  | .childToolsEscalation => "CHILD_TOOLS_ESCALATION"
  | .childServersEscalation => "CHILD_SERVERS_ESCALATION"
  | .childMaxCallEscalation => "CHILD_MAX_CALL_ESCALATION"
  | .childBudgetEscalation => "CHILD_BUDGET_ESCALATION"
  | .maxCallsExceeded => "MAX_CALLS_EXCEEDED"
  | .unknownTool => "UNKNOWN_TOOL"
  | .productionSecretsMissing => "PRODUCTION_SECRETS_MISSING"
  | .idempotencyConflict => "IDEMPOTENCY_CONFLICT"
  | .signedStateDiverged => "SIGNED_STATE_DIVERGED"
  | .invalidAmount => "INVALID_AMOUNT"
  | .agentPrincipalMismatch => "AGENT_PRINCIPAL_MISMATCH"
  | .childAgentNotDescendant => "CHILD_AGENT_NOT_DESCENDANT"
  | .unauthorized => "UNAUTHORIZED"
  | .inProgress => "IN_PROGRESS"
  | .rateLimited => "RATE_LIMITED"
  | .payloadTooLarge => "PAYLOAD_TOO_LARGE"
  | .invalidArguments => "INVALID_ARGUMENTS"
  | .providerUrlDenied => "PROVIDER_URL_DENIED"
  | .billingRequired => "BILLING_REQUIRED"
  | .mcpError => "MCP_ERROR"
  | .finalizeLost => "FINALIZE_LOST"

/-! ## Receipts -/

/-- A row of `receipts`, with the time of its insertion. -/
structure StoredReceipt extends ReceiptRow where
  createdAt : Option Datetime

/-- The dict that `to_dict` returns. -/
def ShownReceipt.dict (receipt : ShownReceipt) : Json :=
  .object
    [("id", receipt.id),
      ("principal_id", receipt.principalId),
      ("mandate_id", receipt.mandateId),
      ("agent_id", receipt.agentId),
      ("task_id", receipt.taskId),
      ("reservation_id", receipt.reservationId),
      ("tool", receipt.tool),
      ("server", receipt.server),
      ("amount_cents", receipt.amountCents),
      ("body", receipt.body),
      ("signature", receipt.signature),
      ("pubkey_hex", receipt.pubkeyHex),
      ("kid", receipt.kid),
      ("created_at", receipt.createdAt)]

/-- `to_dict`. -/
def StoredReceipt.toDict
    (loads : String → Option Json)
    (isoformat : Datetime → String)
    (receipt : StoredReceipt) :
    Except StoredError ShownReceipt := do
  let body ← orError .valueError (loads receipt.bodyJson)
  let kid ← orError .typeError (body.get "kid")
  .ok
    { id := .string receipt.id
      principalId := .string receipt.principalId
      mandateId := .string receipt.mandateId
      agentId := .ofOption receipt.agentId
      taskId := .ofOption receipt.taskId
      reservationId := .ofOption receipt.reservationId
      tool := .string receipt.tool
      server := .string receipt.server
      amountCents := .int receipt.amountCents
      body := body
      signature := .string receipt.signature
      pubkeyHex := .string receipt.pubkeyHex
      kid := kid
      createdAt := .ofOption (receipt.createdAt.map isoformat) }

namespace Codec

variable (codec : Codec) (isoformat : Datetime → String)

/-- `json.loads`. -/
def loads (text : String) : Option Json :=
  (Json.loads codec.floats text.toList).toOption

/-- The value of a text that a caller or a provider sent. -/
def value (text : JsonText) : Json :=
  (codec.loads text).getD .null

/-- The text of an optional id. -/
def optionalId (id : Option Id) : Option String :=
  id.map codec.idText

/-- The dict that `issue` signs. -/
def bodyDict (body : ReceiptBody) : Json :=
  .object
    ([("v", .int body.v),
        ("id", .string (codec.idText body.id)),
        ("agent_id", .ofOption (codec.optionalId body.agentId)),
        ("task_id", .ofOption (codec.optionalId body.taskId)),
        ("mandate_id", .string (codec.idText body.mandateId)),
        ("tool", .string body.tool),
        ("server", .string body.server),
        ("amount_cents", .int body.amountCents),
        ("outcome", .string body.outcome),
        ("reservation_id", .ofOption (codec.optionalId body.reservationId)),
        ("request_hash", .string body.requestHash),
        ("response_hash", .string body.responseHash),
        ("kid", .string body.kid),
        ("issued_at", .string (isoformat body.issuedAt))] ++
      (body.result.map fun result => ("result", codec.value result)).toList)

/-- The row that `issue` writes for these values. -/
def storedReceipt (receipt : Receipt) : StoredReceipt where
  id := codec.idText receipt.id
  principalId := codec.idText receipt.principalId
  mandateId := codec.idText receipt.mandateId
  agentId := codec.optionalId receipt.agentId
  taskId := codec.optionalId receipt.taskId
  reservationId := codec.optionalId receipt.reservationId
  tool := receipt.tool
  server := receipt.server
  amountCents := receipt.amountCents
  bodyJson := codec.canonical (codec.bodyDict isoformat receipt.bodyJson)
  signature := receipt.signature
  pubkeyHex := receipt.pubkeyHex
  createdAt := some receipt.createdAt

/-- A receipt as it is shown, with the fields of its body sorted. -/
def shownReceipt (receipt : ReceiptDict) : ShownReceipt where
  id := .string (codec.idText receipt.id)
  principalId := .string (codec.idText receipt.principalId)
  mandateId := .string (codec.idText receipt.mandateId)
  agentId := .ofOption (codec.optionalId receipt.agentId)
  taskId := .ofOption (codec.optionalId receipt.taskId)
  reservationId := .ofOption (codec.optionalId receipt.reservationId)
  tool := .string receipt.tool
  server := .string receipt.server
  amountCents := .int receipt.amountCents
  body := (codec.bodyDict isoformat receipt.body).ordered
  signature := .string receipt.signature
  pubkeyHex := .string receipt.pubkeyHex
  kid := .string receipt.kid
  createdAt := .string (isoformat receipt.createdAt)

end Codec

/-! ## Results -/

/-- An `InvokeResult` with any value in each field. -/
structure ResultObject where
  ok : Json
  reason : Json
  detail : Json
  amountCents : Json
  remainingCents : Json
  receipt : Json
  result : Json
  reservationId : Json
  idempotencyKey : Json
  replayed : Json
  taskId : Json

namespace ResultObject

/-- `InvokeResult.to_dict`. -/
def toDict (result : ResultObject) : Json :=
  .object
    [("ok", result.ok),
      ("reason", result.reason),
      ("detail", result.detail),
      ("amount_cents", result.amountCents),
      ("remaining_cents", result.remainingCents),
      ("receipt", result.receipt),
      ("result", result.result),
      ("reservation_id", result.reservationId),
      ("idempotency_key", result.idempotencyKey),
      ("replayed", result.replayed),
      ("task_id", result.taskId)]

/-- `InvokeResult(**{...})`: other keys are dropped, and only `ok` is due. -/
def ofData (data : Json) : Except StoredError ResultObject :=
  match data with
  | .object fields => do
      let given (key : String) (otherwise : Json) : Json :=
        (fields.lookup key).getD otherwise
      let ok ← orError .typeError (fields.lookup "ok")
      .ok
        { ok := ok
          reason := given "reason" .null
          detail := given "detail" (.string "")
          amountCents := given "amount_cents" (.int 0)
          remainingCents := given "remaining_cents" .null
          receipt := given "receipt" .null
          result := given "result" .null
          reservationId := given "reservation_id" .null
          idempotencyKey := given "idempotency_key" .null
          replayed := given "replayed" (.bool false)
          taskId := given "task_id" .null }
  | _ => .error .typeError

/-- `receipt["body"].pop("result", None)`, where there is a body. -/
def withoutResult (receipt : Json) : Json :=
  match receipt with
  | .object fields =>
      .object
        (fields.map fun field =>
          match field with
          | ("body", .object body) =>
              ("body", .object (body.filter fun field => field.1 ≠ "result"))
          | field => field)
  | receipt => receipt

/-- `_result_payload`, around the object that is built in it. -/
def payload
    (floats : FloatText)
    (retainPayloads : Bool)
    (built : ResultObject)
    (receipt : Option ShownReceipt) :
    Except StoredError String := do
  let shown := (receipt.map ShownReceipt.dict).getD .null
  let kept := if retainPayloads then shown else withoutResult shown
  let text ←
    orError .valueError
      ({ built with receipt := kept }.toDict.dumps floats [' '])
  .ok (.ofList text)

end ResultObject

/-- A row of `idempotency_records`, with its text unread. -/
structure StoredClaim where
  requestHash : Option String
  status : String
  resultJson : Option String

namespace StoredClaim

/-- The stored result, marked as a replay. -/
def replay (loads : String → Option Json) (text : String) :
    Except StoredError ResultObject := do
  let data ← orError .valueError (loads text)
  let result ← ResultObject.ofData data
  .ok { result with replayed := .bool true }

/-- `_load_idem`, on the row that the query gave for a key. -/
def loadIdem
    (loads : String → Option Json)
    (key : Option String)
    (row : Option StoredClaim)
    (requestHash : String) :
    Except StoredError (Option ResultObject) :=
  match truthy key, row with
  | some _, some row => do
      refuseWhen (∃ stored ∈ truthy row.requestHash, stored ≠ requestHash)
        .idempotencyConflict "same key, different request hash"
      refuseWhen
        (row.status = "in_progress" ∨ truthy row.resultJson = none)
        .inProgress "wait-or-conflict"
      let result ← replay loads (row.resultJson.getD "")
      .ok (some result)
  | _, _ => .ok none

end StoredClaim

/-- `idempotency_records.status` as it is stored. -/
def ClaimStatus.text : ClaimStatus → String
  | .inProgress => "in_progress"
  | .completed => "completed"

namespace Codec

variable (codec : Codec) (isoformat : Datetime → String)

/-- A result with the values of its fields. -/
def resultObject (result : InvokeResult) : ResultObject where
  ok := .bool result.ok
  reason := .ofOption (result.reason.map Reason.text)
  detail := .string result.detail
  amountCents := .int result.amountCents
  remainingCents := StoredMandate.ofNumber result.remainingCents
  receipt :=
    (result.receipt.map fun receipt =>
      (codec.shownReceipt isoformat receipt).dict).getD .null
  result := (result.result.map codec.value).getD .null
  reservationId := .ofOption (codec.optionalId result.reservationId)
  idempotencyKey := .ofOption result.idempotencyKey
  replayed := .bool result.replayed
  taskId := .ofOption (codec.optionalId result.taskId)

/-- The text of a result that is stored. -/
def resultText (result : InvokeResult) : String :=
  .ofList
    ((codec.resultObject isoformat result).toDict.write codec.floats [' '])

/-- The row of a claim. -/
def storedClaim (claim : IdempotencyRecord) : StoredClaim where
  requestHash := claim.requestHash
  status := claim.status.text
  resultJson := claim.resultJson.map (codec.resultText isoformat)

end Codec

/-! ## Reading a receipt back -/

/-- The numbers of a body have texts. -/
structure ReceiptBody.Storable (body : ReceiptBody) : Prop where
  v : Json.shortInt body.v = true
  amountCents : Json.shortInt body.amountCents = true

instance (body : ReceiptBody) : Decidable body.Storable :=
  decidable_of_iff
    (Json.shortInt body.v = true ∧ Json.shortInt body.amountCents = true)
    ⟨fun ⟨v, amountCents⟩ => ⟨v, amountCents⟩,
      fun ⟨v, amountCents⟩ => ⟨v, amountCents⟩⟩

section Loading

variable {codec : Codec} {isoformat : Datetime → String}

/-- The value of a text is fine. -/
theorem value_fine_of_text (text : JsonText) :
    Json.Fine codec.floats (codec.value text) := by
  unfold Codec.value Codec.loads
  cases loaded : Json.loads codec.floats text.toList with
  | error error => exact ⟨trivial, rfl⟩
  | ok value => exact Json.loads_fine loaded

/-- A canonical text is loaded as the sorted value. -/
theorem loads_canonical
    {value : Json}
    (fine : Json.Fine codec.floats value) :
    codec.loads (codec.canonical value) = some value.ordered := by
  have loaded :=
    Json.loads_dumpsSorted fine.1 (Json.dumpsSorted_eq_some fine.2)
  rw [Codec.loads, Codec.canonical, String.toList_ofList, loaded]
  rfl

/-- The dict of a body is a value of Python that has a text. -/
theorem bodyDict_fine
    {body : ReceiptBody}
    (storable : body.Storable) :
    Json.Fine codec.floats (codec.bodyDict isoformat body) := by
  have string (text : String) : Json.Fine codec.floats (.string text) :=
    ⟨trivial, rfl⟩
  refine Json.fine_object ?_ ?_
  · cases body.result <;> simp
  · simp only [List.cons_append, List.nil_append, List.forall_mem_cons]
    refine ⟨⟨trivial, storable.v⟩, string _, ofOption_fine _ _,
      ofOption_fine _ _, string _, string _, string _,
      ⟨trivial, storable.amountCents⟩, string _, ofOption_fine _ _,
      string _, string _, string _, string _, ?_⟩
    cases body.result with
    | none => exact List.forall_mem_nil _
    | some result =>
        exact List.forall_mem_singleton.mpr (value_fine_of_text result)

/-- The sorted dict of a body. -/
theorem bodyDict_ordered (body : ReceiptBody) :
    (codec.bodyDict isoformat body).ordered =
      .object
        ([("agent_id", .ofOption (codec.optionalId body.agentId)),
            ("amount_cents", .int body.amountCents),
            ("id", .string (codec.idText body.id)),
            ("issued_at", .string (isoformat body.issuedAt)),
            ("kid", .string body.kid),
            ("mandate_id", .string (codec.idText body.mandateId)),
            ("outcome", .string body.outcome),
            ("request_hash", .string body.requestHash),
            ("reservation_id",
              .ofOption (codec.optionalId body.reservationId)),
            ("response_hash", .string body.responseHash)] ++
          (body.result.map fun result =>
            ("result", (codec.value result).ordered)).toList ++
          [("server", .string body.server),
            ("task_id", .ofOption (codec.optionalId body.taskId)),
            ("tool", .string body.tool),
            ("v", .int body.v)]) := by
  have before (left right : String × Json) :
      Json.keyLe left right ↔ left.1 ≤ right.1 := Iff.rfl
  have text (value : Option String) :
      (Json.ofOption value).ordered = .ofOption value := by
    cases value <;> rfl
  cases result : body.result <;>
    simp [Codec.bodyDict, result, Json.ordered, Json.orderedFields, before,
      text]

/-- The body is read back sorted. -/
theorem body_loads
    {receipt : Receipt}
    (storable : receipt.bodyJson.Storable) :
    codec.loads (codec.storedReceipt isoformat receipt).bodyJson =
      some (codec.bodyDict isoformat receipt.bodyJson).ordered :=
  loads_canonical (bodyDict_fine storable)

/-- `to_dict` of a row shows what it shows of the values. -/
theorem toDict_stored
    {receipt : Receipt}
    (storable : receipt.bodyJson.Storable) :
    (codec.storedReceipt isoformat receipt).toDict codec.loads isoformat =
      .ok (codec.shownReceipt isoformat receipt.toDict) := by
  have kid :
      (codec.bodyDict isoformat receipt.bodyJson).ordered.get "kid" =
        some (.string receipt.bodyJson.kid) := by
    rw [bodyDict_ordered]
    rfl
  unfold StoredReceipt.toDict
  rw [body_loads storable]
  simp only [orError, bind, Except.bind, kid]
  rfl

/-! ## Reading a result back -/

/-- The numbers of a shown receipt have texts. -/
structure ReceiptDict.Storable (receipt : ReceiptDict) : Prop where
  amountCents : Json.shortInt receipt.amountCents = true
  body : receipt.body.Storable

instance (receipt : ReceiptDict) : Decidable receipt.Storable :=
  decidable_of_iff
    (Json.shortInt receipt.amountCents = true ∧ receipt.body.Storable)
    ⟨fun ⟨amountCents, body⟩ => ⟨amountCents, body⟩,
      fun ⟨amountCents, body⟩ => ⟨amountCents, body⟩⟩

/-- The numbers of a result have texts. -/
structure InvokeResult.Storable (result : InvokeResult) : Prop where
  amountCents : Json.shortInt result.amountCents = true
  remainingCents :
    ∀ remaining ∈ result.remainingCents, Json.shortInt remaining = true
  receipt : ∀ receipt ∈ result.receipt, receipt.Storable

instance (result : InvokeResult) : Decidable result.Storable :=
  decidable_of_iff
    (Json.shortInt result.amountCents = true ∧
      (∀ remaining ∈ result.remainingCents,
        Json.shortInt remaining = true) ∧
      ∀ receipt ∈ result.receipt, receipt.Storable)
    ⟨fun ⟨amountCents, remainingCents, receipt⟩ =>
        ⟨amountCents, remainingCents, receipt⟩,
      fun ⟨amountCents, remainingCents, receipt⟩ =>
        ⟨amountCents, remainingCents, receipt⟩⟩

/-- A value that is sorted stays fine. -/
theorem ordered_fine
    {floats : FloatText}
    {value : Json}
    (fine : Json.Fine floats value) :
    Json.Fine floats value.ordered :=
  ⟨Json.ordered_proper fine.1, by rw [Json.intsFit_ordered, fine.2]⟩

/-- A shown receipt is a value of Python that has a text. -/
theorem shownReceipt_fine
    {receipt : ReceiptDict}
    (storable : receipt.Storable) :
    Json.Fine codec.floats (codec.shownReceipt isoformat receipt).dict := by
  have string (text : String) : Json.Fine codec.floats (.string text) :=
    ⟨trivial, rfl⟩
  refine Json.fine_object (by simp) ?_
  simp only [List.forall_mem_cons]
  exact ⟨string _, string _, string _, ofOption_fine _ _, ofOption_fine _ _,
    ofOption_fine _ _, string _, string _, ⟨trivial, storable.amountCents⟩,
    ordered_fine (bodyDict_fine storable.body), string _, string _, string _,
    string _, List.forall_mem_nil _⟩

/-- The dict of a result is a value of Python that has a text. -/
theorem resultObject_fine
    {result : InvokeResult}
    (storable : result.Storable) :
    Json.Fine codec.floats (codec.resultObject isoformat result).toDict := by
  have string (text : String) : Json.Fine codec.floats (.string text) :=
    ⟨trivial, rfl⟩
  have bool (value : Bool) : Json.Fine codec.floats (.bool value) :=
    ⟨trivial, rfl⟩
  have receipt :
      Json.Fine codec.floats
        (codec.resultObject isoformat result).receipt := by
    unfold Codec.resultObject
    cases shown : result.receipt with
    | none => exact ⟨trivial, rfl⟩
    | some receipt =>
        exact shownReceipt_fine (storable.receipt receipt shown)
  have value :
      Json.Fine codec.floats
        (codec.resultObject isoformat result).result := by
    unfold Codec.resultObject
    cases result.result with
    | none => exact ⟨trivial, rfl⟩
    | some text => exact value_fine_of_text text
  refine Json.fine_object (by simp) ?_
  simp only [List.forall_mem_cons]
  exact ⟨bool _, ofOption_fine _ _, string _,
    ⟨trivial, storable.amountCents⟩, ofNumber_fine storable.remainingCents,
    receipt, value, ofOption_fine _ _, ofOption_fine _ _, bool _,
    ofOption_fine _ _, List.forall_mem_nil _⟩

/-- A stored text is loaded as the dict that was written. -/
theorem resultText_loads
    {result : InvokeResult}
    (storable : result.Storable) :
    codec.loads (codec.resultText isoformat result) =
      some (codec.resultObject isoformat result).toDict := by
  obtain ⟨proper, fits⟩ :=
    @resultObject_fine codec isoformat result storable
  have white : ∀ char ∈ [' '], Json.isWhite char = true := by
    simp [Json.isWhite]
  rw [Codec.loads, Codec.resultText, String.toList_ofList,
    Json.loads_write white proper fits]
  rfl

/-- The object that is built from a dict of a result is the result. -/
theorem ofData_toDict (result : ResultObject) :
    ResultObject.ofData result.toDict = .ok result :=
  rfl

/-- A stored result is replayed as it was, and marked. -/
theorem replay_stored
    {result : InvokeResult}
    (storable : result.Storable) :
    StoredClaim.replay codec.loads (codec.resultText isoformat result) =
      .ok (codec.resultObject isoformat (replayOf result)) := by
  unfold StoredClaim.replay
  rw [resultText_loads storable]
  simp only [orError, bind, Except.bind, ofData_toDict]
  rfl

/-- A stored text is not empty. -/
theorem resultText_nonempty (result : InvokeResult) :
    codec.resultText isoformat result ≠ "" := by
  intro empty
  have noText := congrArg String.toList empty
  rw [Codec.resultText, String.toList_ofList] at noText
  cases noText

/-- Without the result, a shown body is that of the body without it. -/
theorem withoutResult_shown (receipt : ReceiptDict) :
    ResultObject.withoutResult (codec.shownReceipt isoformat receipt).dict =
      (codec.shownReceipt isoformat
        { receipt with body := { receipt.body with result := none } }).dict := by
  unfold Codec.shownReceipt
  rw [bodyDict_ordered, bodyDict_ordered]
  cases receipt.body.result <;>
    simp [ShownReceipt.dict, ResultObject.withoutResult]

/-- `_result_payload` writes the text of the result that is stored. -/
theorem payload_stored
    {env : Env}
    {built : InvokeResult}
    {receipt : Option Receipt}
    (storable : (resultPayload env built receipt).Storable) :
    ResultObject.payload codec.floats env.retainPayloads
        (codec.resultObject isoformat built)
        (receipt.map fun receipt =>
          codec.shownReceipt isoformat receipt.toDict) =
      .ok (codec.resultText isoformat (resultPayload env built receipt)) := by
  have built' :
      { codec.resultObject isoformat built with
          receipt :=
            if env.retainPayloads then
              ((receipt.map fun receipt =>
                codec.shownReceipt isoformat receipt.toDict).map
                  ShownReceipt.dict).getD .null
            else
              ResultObject.withoutResult
                (((receipt.map fun receipt =>
                  codec.shownReceipt isoformat receipt.toDict).map
                    ShownReceipt.dict).getD .null) } =
        codec.resultObject isoformat (resultPayload env built receipt) := by
    unfold Codec.resultObject resultPayload
    by_cases retains : env.retainPayloads = true
    · cases receipt <;> simp [retains]
    · cases receipt with
      | none => simp [retains, ResultObject.withoutResult]
      | some receipt => simp [retains, withoutResult_shown]
  have fits := (@resultObject_fine codec isoformat _ storable).2
  unfold ResultObject.payload
  simp only [built', Json.dumps, fits, if_true, orError, bind, Except.bind]
  rfl

/-- A test that holds is refused. -/
theorem refuseWhen_fails
    {failed : Prop}
    [Decidable failed]
    {reason : Reason}
    {detail : String}
    (fails : failed) :
    refuseWhen failed reason detail = .error (.denied ⟨reason, detail⟩) :=
  if_pos fails

/-- The request hash is stored as it is. -/
theorem requestHash_stored
    {claim : IdempotencyRecord}
    {requestHash : String} :
    (∃ stored ∈ truthy (codec.storedClaim isoformat claim).requestHash,
        stored ≠ requestHash) ↔
      ∃ stored ∈ truthy claim.requestHash, stored ≠ requestHash :=
  Iff.rfl

/-- `_load_idem` on text rows does what it does on the values. -/
theorem loadIdem_stored
    {view : Db}
    {principalId : Id}
    (storable :
      ∀ claim ∈ view.idempotencyRecords.rows,
        ∀ result ∈ claim.resultJson, result.Storable)
    (key : Option String)
    (requestHash : String) :
    StoredClaim.loadIdem codec.loads key
        ((truthy key).bind fun key =>
          (view.idempotencyRecords.find (principalId, key)).map
            (codec.storedClaim isoformat))
        requestHash =
      ((loadIdem view principalId key requestHash).map
        (Option.map (codec.resultObject isoformat))).mapError .denied := by
  unfold StoredClaim.loadIdem loadIdem
  cases truthy key with
  | none => rfl
  | some key =>
      rw [Option.bind_some]
      simp only
      cases found : view.idempotencyRecords.find (principalId, key) with
      | none => rfl
      | some claim =>
          have isStorable := storable claim (Table.mem_of_find found)
          simp only [Option.map_some]
          by_cases conflict :
              ∃ stored ∈ truthy claim.requestHash, stored ≠ requestHash
          · rw [if_pos conflict,
              refuseWhen_fails (requestHash_stored.mpr conflict)]
            rfl
          · rw [if_neg conflict,
              refuseWhen_eq_ok.mpr (requestHash_stored.not.mpr conflict)]
            cases status : claim.status with
            | inProgress =>
                rw [refuseWhen_fails
                  (.inl (congrArg ClaimStatus.text status))]
                rfl
            | completed =>
                cases stored : claim.resultJson with
                | none =>
                    have unstored :
                        (codec.storedClaim isoformat claim).resultJson =
                          none := by
                      rw [Codec.storedClaim, stored, Option.map_none]
                    rw [refuseWhen_fails
                      (.inr (congrArg (truthy ·) unstored))]
                    rfl
                | some result =>
                    have nonempty :=
                      truthy_some
                        (@resultText_nonempty codec isoformat result)
                    have replayed :=
                      @replay_stored codec isoformat result
                        (isStorable result stored)
                    simp [refuseWhen, Codec.storedClaim, status, stored,
                      nonempty, replayed, ClaimStatus.text, bind,
                      Except.bind, Except.map, Except.mapError]

/--
`_result_payload` writes the text of the result that the values stand for, and
on claims with such texts `_load_idem` answers and refuses as it does on the
values.
-/
theorem stored_results_read_alike
    {view : Db}
    {principalId : Id}
    (storable :
      ∀ claim ∈ view.idempotencyRecords.rows,
        ∀ result ∈ claim.resultJson, result.Storable) :
    (∀ env built (receipt : Option Receipt),
      (∀ issued ∈ receipt, issued.bodyJson.Storable) →
        (resultPayload env built receipt).Storable →
          (receipt.mapM fun issued =>
              (codec.storedReceipt isoformat issued).toDict codec.loads
                isoformat).bind
              (ResultObject.payload codec.floats env.retainPayloads
                (codec.resultObject isoformat built)) =
            .ok
              (codec.resultText isoformat
                (resultPayload env built receipt))) ∧
      ∀ key requestHash,
        StoredClaim.loadIdem codec.loads key
            ((truthy key).bind fun key =>
              (view.idempotencyRecords.find (principalId, key)).map
                (codec.storedClaim isoformat))
            requestHash =
          ((loadIdem view principalId key requestHash).map
            (Option.map (codec.resultObject isoformat))).mapError
              .denied := by
  refine ⟨?_, loadIdem_stored storable⟩
  intro env built receipt receiptStorable payloadStorable
  rw [← payload_stored payloadStorable]
  cases receipt with
  | none => rfl
  | some receipt =>
      have shown :=
        @toDict_stored codec isoformat receipt (receiptStorable receipt rfl)
      simp [shown, Except.bind]

end Loading

/-- A result that a small deployment has stored. -/
def InvokeResult.ofTen : InvokeResult where
  ok := true
  amountCents := 10
  remainingCents := some 90
  reservationId := some 1
  idempotencyKey := some "key"

/-- The stored result is replayed from its text. -/
theorem stored_results_read_alike_example :
    StoredClaim.loadIdem Codec.plain.loads (some "key")
        (some
          { requestHash := some "hash"
            status := "completed"
            resultJson :=
              some (Codec.plain.resultText (fun _ => "noon") .ofTen) })
        "hash" =
      .ok
        (some
          (Codec.plain.resultObject (fun _ => "noon")
            { InvokeResult.ofTen with replayed := true })) := by
  let view : Db :=
    { Db.empty with
      idempotencyRecords :=
        ⟨[{ principalId := 1
            idempotencyKey := "key"
            requestHash := some "hash"
            status := .completed
            resultJson := some .ofTen }],
          by simp⟩ }
  have storable :
      ∀ claim ∈ view.idempotencyRecords.rows,
        ∀ result ∈ claim.resultJson, result.Storable := by
    decide
  exact
    (@stored_results_read_alike .plain (fun _ => "noon") view 1 storable).2
      (some "key") "hash"

end Crossing
