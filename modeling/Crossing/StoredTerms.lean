import Crossing.Identity
import Crossing.JsonReader

namespace Crossing

open Python

/-!
# Mandates as they are stored

`check_signed_state` compares a payload with columns, and `check_tool` enforces
the columns.  Both are read here from their texts, since a text that was never
written by `issue_mandate` may hold any JSON value.
-/

/-- A row of `mandates`, with its texts unread. -/
structure StoredMandate where
  principalId : Id
  agentId : Id
  parentMandateId : Option Id
  spendLimitCents : Cents
  remainingCents : Cents
  maxCallCents : Cents
  maxCalls : Option Int
  callsUsed : Int
  toolsJson : Option String
  serversJson : Option String
  expiresAt : Option Datetime
  maxSubagentBudgetCents : Option Cents
  nonce : String
  signature : String
  pubkeyHex : String
  payloadJson : String
  revoked : Bool
  deriving DecidableEq

/-- `json.loads`, the texts of ids and datetimes, and `crypto.verify_obj`. -/
structure TextFormat where
  loads : String → Option Json
  idText : Id → String
  isoformat : Datetime → String
  issuerPubkey : String
  verifyObj : Json → String → String → Bool

/-- What a check on a stored row raises. -/
inductive StoredError where
  | denied (outcome : Denied)
  | valueError
  | typeError
  deriving Repr, DecidableEq

/-- Give the exception that an operator of Python raises. -/
def orError {α : Type} (error : StoredError) : Option α → Except StoredError α
  | some value => .ok value
  | none => .error error

/-- The operator did not raise. -/
@[simp] theorem orError_eq_ok
    {α : Type}
    {error : StoredError}
    {result : Option α}
    {value : α} :
    orError error result = .ok value ↔ result = some value := by
  cases result <;> simp [orError]

/-- Raise `PolicyDenied` when a test holds. -/
def refuseWhen
    (failed : Prop)
    [Decidable failed]
    (reason : Reason)
    (detail : String) :
    Except StoredError Unit :=
  if failed then .error (.denied ⟨reason, detail⟩) else .ok ()

/-- The check passes exactly when its test fails. -/
@[simp] theorem refuseWhen_eq_ok
    {failed : Prop}
    [Decidable failed]
    {reason : Reason}
    {detail : String} :
    refuseWhen failed reason detail = .ok () ↔ ¬ failed := by
  unfold refuseWhen
  split <;> simp_all

namespace StoredMandate

variable (text : TextFormat)

/-! ## The signed payload -/

/-- The arguments of `mandate_payload`; the lists are any values. -/
structure PayloadFields where
  principalId : Id
  agentId : Id
  parentMandateId : Option Id
  spendLimitCents : Cents
  maxCallCents : Cents
  maxCalls : Option Int
  tools : Json
  servers : Json
  expiresAt : Option Datetime
  maxSubagentBudgetCents : Option Cents
  nonce : String

/-- `None` or a number. -/
def ofNumber : Option Int → Json
  | some value => .int value
  | none => .null

/-- `sorted(v)`, or `None` for `None`, as `_norm_list` does as well. -/
def normList : Json → Except StoredError Json
  | .null => .ok .null
  | value => do
      let items ← orError .typeError value.sorted
      .ok (.array items)

/-- `mandate_payload`. -/
def mandatePayload (fields : PayloadFields) : Except StoredError Json := do
  let tools ← normList fields.tools
  let servers ← normList fields.servers
  .ok
    (.object
      [("agent_id", .string (text.idText fields.agentId)),
        ("expires_at",
          .ofOption
            (fields.expiresAt.map fun dt => text.isoformat (asUtc dt))),
        ("max_call_cents", .int fields.maxCallCents),
        ("max_calls", ofNumber fields.maxCalls),
        ("max_subagent_budget_cents",
          ofNumber fields.maxSubagentBudgetCents),
        ("nonce", .string fields.nonce),
        ("parent_mandate_id",
          .ofOption (fields.parentMandateId.map text.idText)),
        ("principal_id", .string (text.idText fields.principalId)),
        ("servers", servers),
        ("spend_limit_cents", .int fields.spendLimitCents),
        ("tools", tools),
        ("v", .int 1)])

/-- `tools_list` and `servers_list`: an empty column is `None`. -/
def loadList (column : Option String) : Except StoredError Json :=
  match truthy column with
  | none => .ok .null
  | some listed => orError .valueError (text.loads listed)

/-- `payload_obj`. -/
def payloadObj (mandate : StoredMandate) : Except StoredError Json :=
  orError .valueError (text.loads mandate.payloadJson)

/-- The arguments that `check_signed_state` rebuilds the payload from. -/
def fields (mandate : StoredMandate) (tools servers : Json) :
    PayloadFields where
  principalId := mandate.principalId
  agentId := mandate.agentId
  parentMandateId := mandate.parentMandateId
  spendLimitCents := mandate.spendLimitCents
  maxCallCents := mandate.maxCallCents
  maxCalls := mandate.maxCalls
  tools := tools
  servers := servers
  expiresAt := mandate.expiresAt
  maxSubagentBudgetCents := mandate.maxSubagentBudgetCents
  nonce := mandate.nonce

/-- The payload that the columns stand for. -/
def rebuilt (mandate : StoredMandate) : Except StoredError Json := do
  let tools ← loadList text mandate.toolsJson
  let servers ← loadList text mandate.serversJson
  mandatePayload text (mandate.fields tools servers)

/-! ## The checks of `policy.py` -/

/-- `value or None`. -/
def orNone (value : Json) : Json :=
  if value.truthy then value else .null

/-- One pass of the loop over the signed keys. -/
def compareKey (signed rebuilt : Json) (key : String) :
    Except StoredError Unit := do
  let signedValue ← orError .typeError (signed.get key)
  let rebuiltValue ← orError .typeError (rebuilt.get key)
  if key = "tools" ∨ key = "servers" then do
    let signedList ← normList signedValue
    let rebuiltList ← normList rebuiltValue
    refuseWhen (signedList.same rebuiltList = false) .signedStateDiverged key
  else if key = "expires_at" then
    refuseWhen ((orNone signedValue).same (orNone rebuiltValue) = false)
      .signedStateDiverged key
  else
    refuseWhen (signedValue.same rebuiltValue = false)
      .signedStateDiverged key

/-- The loop over the signed keys. -/
def compareKeys (signed rebuilt : Json) : List String → Except StoredError Unit
  | [] => .ok ()
  | key :: rest => do
      compareKey signed rebuilt key
      compareKeys signed rebuilt rest

/-- The keys that are compared, in their order. -/
def signedKeys : List String :=
  ["principal_id", "agent_id", "parent_mandate_id", "spend_limit_cents",
    "max_call_cents", "max_calls", "tools", "servers", "expires_at",
    "max_subagent_budget_cents", "nonce"]

/-- Raise when one of the names is in the payload. -/
def refuseAccounting (signed : Json) : List String → Except StoredError Unit
  | [] => .ok ()
  | name :: rest => do
      let present ← orError .typeError (signed.containsText name)
      refuseWhen (present = true) .signedStateDiverged
        "mutable accounting in signed payload"
      refuseAccounting signed rest

/-- `check_signed_state`. -/
def checkSignedState (mandate : StoredMandate) : Except StoredError Unit := do
  let signed ← mandate.payloadObj text
  refuseAccounting signed ["remaining_cents", "calls_used", "used_calls"]
  let rebuilt ← mandate.rebuilt text
  compareKeys signed rebuilt signedKeys

/-- `check_mandate_signature`. -/
def checkMandateSignature
    (mandate : StoredMandate)
    (allowedPubkeys : List String) :
    Except StoredError Unit := do
  let payload ← mandate.payloadObj text
  refuseWhen (mandate.pubkeyHex ∉ allowedPubkeys)
    .mandateForged "pubkey is not a registered trust anchor"
  refuseWhen
    (text.verifyObj payload mandate.signature mandate.pubkeyHex = false)
    .mandateForged "signature mismatch"

/-- `check_fresh`. -/
def checkFresh (now : Datetime) (mandate : StoredMandate) :
    Except StoredError Unit := do
  refuseWhen (mandate.revoked = true) .mandateRevoked ""
  match mandate.expiresAt.map asUtc with
  | none => .ok ()
  | some expires =>
      refuseWhen ((asUtc now).wall > expires.wall)
        .mandateExpired s!"expired at {text.isoformat expires}"

/-- `names is not None and name not in names`. -/
def checkListed (listed : Json) (name : String) (reason : Reason) :
    Except StoredError Unit :=
  match listed with
  | .null => .ok ()
  | listed => do
      let present ← orError .typeError (listed.containsText name)
      refuseWhen (present = false) reason name

/-- `check_tool`. -/
def checkTool
    (mandate : StoredMandate)
    (tool server : String)
    (priceCents : Cents) :
    Except StoredError Unit := do
  mandate.checkSignedState text
  let tools ← loadList text mandate.toolsJson
  let servers ← loadList text mandate.serversJson
  checkListed tools tool .toolNotAllowed
  checkListed servers server .serverNotAllowed
  refuseWhen (priceCents > mandate.maxCallCents)
    .callOverMax s!"{priceCents} > {mandate.maxCallCents}"
  refuseWhen (∃ maxCalls ∈ mandate.maxCalls, mandate.callsUsed ≥ maxCalls)
    .maxCallsExceeded ""
  refuseWhen (priceCents > mandate.remainingCents)
    .budgetExceeded s!"need {priceCents} have {mandate.remainingCents}"

/-! ## Loading -/

/-- `_verify_stored_mandate`, with the principal read from a view. -/
def verifyStoredMandate (view : Db) (mandate : StoredMandate) :
    Except StoredError Unit := do
  let principal := view.principals.find mandate.principalId
  mandate.checkMandateSignature text
    (boundPubkeys principal text.issuerPubkey)
  mandate.checkSignedState text

/-- `load_live_mandate`, on the row that `session.get` gave. -/
def loadLiveMandate
    (views : Views)
    (now : Datetime)
    (row : Option StoredMandate) :
    Except StoredError StoredMandate := do
  let mandate ←
    orError (.denied ⟨.mandateRevoked, "mandate missing"⟩) row
  mandate.verifyStoredMandate text (views 0)
  mandate.checkFresh text now
  match requireLiveAgent (fun n => views (n + 1)) mandate.agentId with
  | .ok _ => .ok mandate
  | .error outcome => .error (.denied outcome)

/-! ## What a comparison of lists shows -/

/-- `None` or a list of strings. -/
def ofNames : Option (List String) → Json
  | none => .null
  | some names => .ofStrings names

/-- `sorted` on names. -/
theorem normList_ofNames (names : Option (List String)) :
    normList (ofNames names) = .ok (ofNames (sortedList names)) := by
  cases names with
  | none => rfl
  | some names =>
      simp [ofNames, normList, Json.ofStrings, Json.sorted, Json.items,
        Json.sortItems_strings, sortedList, orError, bind, Except.bind]

/-- `None` stays, and any other value becomes a list of its items. -/
theorem normList_eq_ok
    {value result : Json}
    (ran : normList value = .ok result) :
    (value = .null ∧ result = .null) ∨
      ∃ items sorted, value.items = some items ∧
        result = .array sorted ∧
        sorted.Perm items := by
  have sorts :
      (do
        let items ← orError StoredError.typeError value.sorted
        Except.ok (Json.array items)) =
          .ok result →
        ∃ items sorted, value.items = some items ∧
          result = .array sorted ∧
          sorted.Perm items := by
    intro ran
    obtain ⟨sorted, isSorted, isResult⟩ := except_bind_eq_ok.mp ran
    cases isResult
    obtain ⟨items, isItems, sortRun⟩ :=
      Option.bind_eq_some_iff.mp (orError_eq_ok.mp isSorted)
    exact ⟨items, sorted, isItems, rfl, Json.sortItems_perm sortRun⟩
  cases value with
  | null =>
      cases ran
      exact Or.inl ⟨rfl, rfl⟩
  | bool _ => exact Or.inr (sorts ran)
  | int _ => exact Or.inr (sorts ran)
  | float _ => exact Or.inr (sorts ran)
  | string _ => exact Or.inr (sorts ran)
  | array _ => exact Or.inr (sorts ran)
  | object _ => exact Or.inr (sorts ran)

/-- A value that sorts to signed names has these names as its items. -/
theorem items_of_same
    {column rebuilt signedList rebuiltList : Json}
    {names : List String}
    (rebuilds : normList column = .ok rebuilt)
    (signedNorm : normList (ofNames (some names)) = .ok signedList)
    (rebuiltNorm : normList rebuilt = .ok rebuiltList)
    (agrees : signedList.same rebuiltList = true) :
    ∃ items, column.items = some items ∧
      items.Perm (names.map .string) := by
  cases (normList_ofNames (some names)).symm.trans signedNorm
  have sortedNames :
      (names.insertionSort (· ≤ ·)).Perm names :=
    List.perm_insertionSort _ names
  rcases normList_eq_ok rebuiltNorm with
    ⟨_, rfl⟩ | ⟨again, sortedAgain, isAgain, rfl, permAgain⟩
  · cases agrees
  · have sameSorted :
        sortedAgain = (names.insertionSort (· ≤ ·)).map .string :=
      Json.sameItems_strings.mp agrees
    rcases normList_eq_ok rebuilds with
      ⟨_, rfl⟩ | ⟨items, sorted, isItems, rfl, perm⟩
    · cases isAgain
    · cases isAgain
      refine ⟨items, isItems, ?_⟩
      have sameItems : again.Perm (names.map .string) := by
        rw [sameSorted] at permAgain
        exact permAgain.symm.trans (sortedNames.map _)
      exact perm.symm.trans sameItems

/-- The signed list is `None`, or the name is in it. -/
def Listed (signed : Json) (name : String) : Prop :=
  signed = .null ∨ ∃ items, signed = .array items ∧ .string name ∈ items

/-- Names are listed when they are in the list. -/
theorem listed_ofNames
    {names : List String}
    {name : String} :
    Listed (ofNames (some names)) name ↔ name ∈ names := by
  simp [Listed, ofNames, Json.ofStrings]

/-- A part of a text is one of its characters when it is one character. -/
theorem infix_is_character_iff
    {part whole : String}
    (isInfix : part.toList <:+: whole.toList) :
    (∃ char ∈ whole.toList, String.singleton char = part) ↔
      part.length = 1 := by
  constructor
  · rintro ⟨char, _, rfl⟩
    simp
  · intro one
    obtain ⟨char, isChar⟩ := List.length_eq_one_iff.mp one
    refine ⟨char, isInfix.subset (by simp [isChar]), ?_⟩
    apply String.toList_injective
    simp [isChar]

/--
A name that the column lets pass is a signed one, unless the column is a string
and the name is more or less than one character of it.
-/
theorem listed_iff
    {column rebuilt signedList rebuiltList : Json}
    {names : Option (List String)}
    {name : String}
    {reason : Reason}
    (rebuilds : normList column = .ok rebuilt)
    (signedNorm : normList (ofNames names) = .ok signedList)
    (rebuiltNorm : normList rebuilt = .ok rebuiltList)
    (agrees : signedList.same rebuiltList = true)
    (allowed : checkListed column name reason = .ok ()) :
    Listed (ofNames names) name ↔
      ∀ whole, column = .string whole → name.length = 1 := by
  cases names with
  | none =>
      cases signedNorm
      have isNull : rebuiltList = .null := Json.same_null.mp agrees
      have columnNull : column = .null := by
        rcases normList_eq_ok rebuiltNorm with
          ⟨rfl, _⟩ | ⟨_, _, _, isArray, _⟩
        · rcases normList_eq_ok rebuilds with ⟨isNull, _⟩ | ⟨_, _, _, absurd, _⟩
          · exact isNull
          · cases absurd
        · rw [isNull] at isArray
          cases isArray
      subst columnNull
      simp [Listed, ofNames]
  | some names =>
      obtain ⟨items, isItems, perm⟩ :=
        items_of_same rebuilds signedNorm rebuiltNorm agrees
      have signedIff : name ∈ names ↔ Json.string name ∈ items := by
        rw [perm.mem_iff, List.mem_map_of_injective Json.string_injective]
      rw [listed_ofNames, signedIff]
      cases column with
      | null => cases isItems
      | bool _ => cases isItems
      | int _ => cases isItems
      | float _ => cases isItems
      | array listed =>
          cases isItems
          have member : Json.string name ∈ items := by
            simpa [checkListed, orError, Json.containsText, bind,
              Except.bind] using allowed
          simp [member]
      | object fields =>
          cases isItems
          have member :
              Json.string name ∈
                fields.map fun field => Json.string field.1 := by
            simpa [checkListed, orError, Json.containsText, bind,
              Except.bind] using allowed
          simp only [member, reduceCtorEq, false_implies, implies_true]
      | string whole =>
          cases isItems
          have isInfix : name.toList <:+: whole.toList := by
            simpa [checkListed, orError, Json.containsText, bind,
              Except.bind] using allowed
          rw [List.mem_map]
          simpa using infix_is_character_iff isInfix

/-! ## What the comparison of the keys shows -/

/-- Each compared key agrees. -/
theorem compareKeys_ok
    {signed rebuilt : Json}
    {keys : List String}
    {key : String}
    (agrees : compareKeys signed rebuilt keys = .ok ())
    (compared : key ∈ keys) :
    compareKey signed rebuilt key = .ok () := by
  induction keys with
  | nil => cases compared
  | cons head rest inductionHypothesis =>
      obtain ⟨_, headAgrees, restAgrees⟩ := except_bind_eq_ok.mp agrees
      rcases List.mem_cons.mp compared with rfl | inRest
      · exact headAgrees
      · exact inductionHypothesis restAgrees inRest

/-- Two lists are compared by their sorted items. -/
theorem compareKey_list
    {signed rebuilt : Json}
    {key : String}
    (agrees : compareKey signed rebuilt key = .ok ())
    (isList : key = "tools" ∨ key = "servers") :
    ∃ signedValue rebuiltValue signedList rebuiltList,
      signed.get key = some signedValue ∧
        rebuilt.get key = some rebuiltValue ∧
        normList signedValue = .ok signedList ∧
        normList rebuiltValue = .ok rebuiltList ∧
        signedList.same rebuiltList = true := by
  unfold compareKey at agrees
  obtain ⟨signedValue, inSigned, agrees⟩ := except_bind_eq_ok.mp agrees
  obtain ⟨rebuiltValue, inRebuilt, agrees⟩ := except_bind_eq_ok.mp agrees
  rw [if_pos isList] at agrees
  obtain ⟨signedList, signedNorm, agrees⟩ := except_bind_eq_ok.mp agrees
  obtain ⟨rebuiltList, rebuiltNorm, agrees⟩ := except_bind_eq_ok.mp agrees
  exact ⟨signedValue, rebuiltValue, signedList, rebuiltList,
    orError_eq_ok.mp inSigned, orError_eq_ok.mp inRebuilt, signedNorm,
    rebuiltNorm, by simpa using agrees⟩

/-- Expiries are compared with an empty text read as `None`. -/
theorem compareKey_expiry
    {signed rebuilt : Json}
    (agrees : compareKey signed rebuilt "expires_at" = .ok ()) :
    ∃ signedValue rebuiltValue,
      signed.get "expires_at" = some signedValue ∧
        rebuilt.get "expires_at" = some rebuiltValue ∧
        (orNone signedValue).same (orNone rebuiltValue) = true := by
  unfold compareKey at agrees
  obtain ⟨signedValue, inSigned, agrees⟩ := except_bind_eq_ok.mp agrees
  obtain ⟨rebuiltValue, inRebuilt, agrees⟩ := except_bind_eq_ok.mp agrees
  exact ⟨signedValue, rebuiltValue, orError_eq_ok.mp inSigned,
    orError_eq_ok.mp inRebuilt, by simpa using agrees⟩

/-- The other values are compared as they are. -/
theorem compareKey_value
    {signed rebuilt : Json}
    {key : String}
    (agrees : compareKey signed rebuilt key = .ok ())
    (notList : ¬ (key = "tools" ∨ key = "servers"))
    (notExpiry : key ≠ "expires_at") :
    ∃ signedValue rebuiltValue,
      signed.get key = some signedValue ∧
        rebuilt.get key = some rebuiltValue ∧
        signedValue.same rebuiltValue = true := by
  unfold compareKey at agrees
  obtain ⟨signedValue, inSigned, agrees⟩ := except_bind_eq_ok.mp agrees
  obtain ⟨rebuiltValue, inRebuilt, agrees⟩ := except_bind_eq_ok.mp agrees
  rw [if_neg notList, if_neg notExpiry] at agrees
  exact ⟨signedValue, rebuiltValue, orError_eq_ok.mp inSigned,
    orError_eq_ok.mp inRebuilt, by simpa using agrees⟩

/-- What a payload holds for these arguments. -/
structure PayloadOf
    (fields : PayloadFields)
    (payload : Json) :
    Prop where
  tools :
    ∃ tools, normList fields.tools = .ok tools ∧
      payload.field? "tools" = some tools
  servers :
    ∃ servers, normList fields.servers = .ok servers ∧
      payload.field? "servers" = some servers
  maxCallCents :
    payload.field? "max_call_cents" = some (.int fields.maxCallCents)
  maxCalls :
    payload.field? "max_calls" = some (ofNumber fields.maxCalls)
  expiresAt :
    payload.field? "expires_at" =
      some
        (.ofOption
          (fields.expiresAt.map fun dt => text.isoformat (asUtc dt)))

/-- `mandate_payload` puts each argument under its key. -/
theorem mandatePayload_ok
    {text : TextFormat}
    {fields : PayloadFields}
    {payload : Json}
    (built : mandatePayload text fields = .ok payload) :
    PayloadOf text fields payload := by
  obtain ⟨tools, toolsNorm, built⟩ := except_bind_eq_ok.mp built
  obtain ⟨servers, serversNorm, built⟩ := except_bind_eq_ok.mp built
  cases built
  exact
    { tools := ⟨tools, toolsNorm, rfl⟩
      servers := ⟨servers, serversNorm, rfl⟩
      maxCallCents := rfl
      maxCalls := rfl
      expiresAt := rfl }

/-- A key that is there is what `get` gives. -/
theorem get_of_field
    {payload value : Json}
    {key : String}
    (there : payload.field? key = some value) :
    payload.get key = some value := by
  cases payload with
  | object fields =>
      have found : fields.lookup key = some value := there
      simp [Json.get, found]
  | null => cases there
  | bool _ => cases there
  | int _ => cases there
  | float _ => cases there
  | string _ => cases there
  | array _ => cases there

/-! ## What an accepted call is signed for -/

/--
Who signs mandates.  A signature verifies only on a payload that the key holder
signed, and what is signed is what `mandate_payload` builds from typed arguments.
-/
structure Signers where
  Signed : String → Json → Prop
  genuine :
    ∀ {payload signature key},
      text.verifyObj payload signature key = true → Signed key payload
  shaped :
    ∀ {key payload},
      Signed key payload →
        ∃ fields tools servers,
          fields.tools = ofNames tools ∧
            fields.servers = ofNames servers ∧
            mandatePayload text fields = .ok payload

/-- `isoformat` tells instants in UTC apart, and is never empty. -/
structure Isoformat : Prop where
  injective :
    ∀ first second,
      text.isoformat (asUtc first) = text.isoformat (asUtc second) →
        asUtc first = asUtc second
  nonempty : ∀ dt, text.isoformat dt ≠ ""

/-- The signed payload itself permits the call. -/
structure Permits
    (payload : Json)
    (tool server : String)
    (priceCents : Cents)
    (callsUsed : Int)
    (now : Datetime) :
    Prop where
  tool : ∃ tools, payload.field? "tools" = some tools ∧ Listed tools tool
  server :
    ∃ servers, payload.field? "servers" = some servers ∧
      Listed servers server
  price :
    ∃ limit, payload.field? "max_call_cents" = some (.int limit) ∧
      priceCents ≤ limit
  calls :
    payload.field? "max_calls" = some .null ∨
      ∃ limit, payload.field? "max_calls" = some (.int limit) ∧
        callsUsed < limit
  fresh :
    payload.field? "expires_at" = some .null ∨
      ∃ expires,
        payload.field? "expires_at" =
            some (.string (text.isoformat (asUtc expires))) ∧
          (asUtc now).wall ≤ (asUtc expires).wall

/-- A column that holds a JSON string names one of its characters. -/
def OneCharacter (column : Option String) (name : String) : Prop :=
  ∀ listed ∈ truthy column, ∀ whole,
    text.loads listed = some (.string whole) → name.length = 1

section Accepted

variable
  {text : TextFormat}
  {views : Views}
  {now : Datetime}
  {mandate : StoredMandate}
  {row : Option StoredMandate}
  {tool server : String}
  {priceCents : Cents}

/-- The signed payload and the rebuilt one agree on each compared key. -/
theorem checkSignedState_ok
    (checked : mandate.checkSignedState text = .ok ()) :
    ∃ signed rebuilt tools servers,
      text.loads mandate.payloadJson = some signed ∧
        loadList text mandate.toolsJson = .ok tools ∧
        loadList text mandate.serversJson = .ok servers ∧
        PayloadOf text (mandate.fields tools servers) rebuilt ∧
        ∀ key ∈ signedKeys, compareKey signed rebuilt key = .ok () := by
  obtain ⟨signed, loads, checked⟩ := except_bind_eq_ok.mp checked
  obtain ⟨_, _, checked⟩ := except_bind_eq_ok.mp checked
  obtain ⟨rebuilt, rebuilds, agrees⟩ := except_bind_eq_ok.mp checked
  obtain ⟨tools, toolsLoad, rebuilds⟩ := except_bind_eq_ok.mp rebuilds
  obtain ⟨servers, serversLoad, built⟩ := except_bind_eq_ok.mp rebuilds
  exact ⟨signed, rebuilt, tools, servers, orError_eq_ok.mp loads, toolsLoad,
    serversLoad, mandatePayload_ok built,
    fun _ compared => compareKeys_ok agrees compared⟩

/-- What `check_tool` enforces on the columns. -/
theorem checkTool_ok
    (accepted : mandate.checkTool text tool server priceCents = .ok ()) :
    mandate.checkSignedState text = .ok () ∧
      (∃ tools, loadList text mandate.toolsJson = .ok tools ∧
        checkListed tools tool .toolNotAllowed = .ok ()) ∧
      (∃ servers, loadList text mandate.serversJson = .ok servers ∧
        checkListed servers server .serverNotAllowed = .ok ()) ∧
      priceCents ≤ mandate.maxCallCents ∧
      ∀ maxCalls ∈ mandate.maxCalls, mandate.callsUsed < maxCalls := by
  obtain ⟨_, state, accepted⟩ := except_bind_eq_ok.mp accepted
  obtain ⟨tools, toolsLoad, accepted⟩ := except_bind_eq_ok.mp accepted
  obtain ⟨servers, serversLoad, accepted⟩ := except_bind_eq_ok.mp accepted
  obtain ⟨_, toolListed, accepted⟩ := except_bind_eq_ok.mp accepted
  obtain ⟨_, serverListed, accepted⟩ := except_bind_eq_ok.mp accepted
  obtain ⟨_, price, accepted⟩ := except_bind_eq_ok.mp accepted
  obtain ⟨_, calls, _⟩ := except_bind_eq_ok.mp accepted
  refine ⟨state, ⟨tools, toolsLoad, toolListed⟩,
    ⟨servers, serversLoad, serverListed⟩, ?_, ?_⟩
  · exact not_lt.mp (refuseWhen_eq_ok.mp price)
  · simpa using refuseWhen_eq_ok.mp calls

/-- A live mandate is signed under a bound key, and not past its expiry. -/
theorem loadLiveMandate_ok
    (loaded : loadLiveMandate text views now row = .ok mandate) :
    (∃ payload, text.loads mandate.payloadJson = some payload ∧
        mandate.pubkeyHex ∈
          boundPubkeys ((views 0).principals.find mandate.principalId)
            text.issuerPubkey ∧
        text.verifyObj payload mandate.signature mandate.pubkeyHex = true) ∧
      ∀ expires ∈ mandate.expiresAt,
        (asUtc now).wall ≤ (asUtc expires).wall := by
  obtain ⟨stored, _, loaded⟩ := except_bind_eq_ok.mp loaded
  obtain ⟨_, verified, loaded⟩ := except_bind_eq_ok.mp loaded
  obtain ⟨_, fresh, live⟩ := except_bind_eq_ok.mp loaded
  have same : stored = mandate := by
    split at live
    · cases live
      rfl
    · cases live
  subst same
  constructor
  · obtain ⟨_, signed, _⟩ := except_bind_eq_ok.mp verified
    obtain ⟨payload, loads, signed⟩ := except_bind_eq_ok.mp signed
    obtain ⟨_, bound, genuine⟩ := except_bind_eq_ok.mp signed
    exact ⟨payload, orError_eq_ok.mp loads,
      not_not.mp (refuseWhen_eq_ok.mp bound),
      by simpa using refuseWhen_eq_ok.mp genuine⟩
  · intro expires isExpiry
    obtain ⟨_, _, fresh⟩ := except_bind_eq_ok.mp fresh
    rw [Option.mem_def.mp isExpiry] at fresh
    exact not_lt.mp (refuseWhen_eq_ok.mp fresh)

/-- A loaded column is a string when its text is that of one. -/
theorem oneCharacter_iff
    {column : Option String}
    {value : Json}
    {name : String}
    (loads : loadList text column = .ok value) :
    (∀ whole, value = .string whole → name.length = 1) ↔
      OneCharacter text column name := by
  unfold loadList at loads
  unfold OneCharacter
  cases listed : truthy column with
  | none =>
      rw [listed] at loads
      cases loads
      simp
  | some listedText =>
      rw [listed] at loads
      have isValue := orError_eq_ok.mp loads
      simp [isValue]

/-- Equal limits, or none. -/
theorem ofNumber_same
    {signed enforced : Option Int}
    (agrees : (ofNumber signed).same (ofNumber enforced) = true) :
    signed = enforced := by
  cases signed <;> cases enforced <;>
    simp_all [ofNumber, Json.same, Json.sameScalar, Json.number]

/-- An expiry that equals the text of a datetime is that datetime. -/
theorem expiry_same
    (format : Isoformat text)
    {signed enforced : Option Datetime}
    (agrees :
      (orNone
          (.ofOption (signed.map fun dt => text.isoformat (asUtc dt)))).same
        (orNone
          (.ofOption (enforced.map fun dt => text.isoformat (asUtc dt)))) =
        true) :
    signed.map asUtc = enforced.map asUtc := by
  have kept (dt : Datetime) :
      orNone (.string (text.isoformat (asUtc dt))) =
        .string (text.isoformat (asUtc dt)) := by
    simp [orNone, Json.truthy, format.nonempty]
  cases signed with
  | none =>
      cases enforced with
      | none => rfl
      | some expires =>
          simp [Json.ofOption, kept] at agrees
          simp [orNone, Json.truthy] at agrees
  | some signedExpiry =>
      cases enforced with
      | none =>
          simp [Json.ofOption, kept] at agrees
          simp [orNone, Json.truthy] at agrees
      | some expires =>
          simp only [Option.map_some, Json.ofOption, kept, Json.same_string,
            Json.string.injEq] at agrees
          simp [format.injective _ _ agrees]

/-- A list column permits what its signed list permits, or one character. -/
theorem list_column_iff
    {signed rebuilt column columnValue : Json}
    {key name : String}
    {names : Option (List String)}
    {reason : Reason}
    (isList : key = "tools" ∨ key = "servers")
    (agrees : compareKey signed rebuilt key = .ok ())
    (signedField : signed.field? key = some (ofNames names))
    (rebuiltField : rebuilt.field? key = some columnValue)
    (columnNorm : normList column = .ok columnValue)
    (allowed : checkListed column name reason = .ok ()) :
    (∃ listed, signed.field? key = some listed ∧ Listed listed name) ↔
      ∀ whole, column = .string whole → name.length = 1 := by
  obtain ⟨signedValue, rebuiltValue, signedList, rebuiltList, inSigned,
    inRebuilt, signedNorm, rebuiltNorm, same⟩ := compareKey_list agrees isList
  cases inSigned.symm.trans (get_of_field signedField)
  cases inRebuilt.symm.trans (get_of_field rebuiltField)
  rw [← listed_iff columnNorm signedNorm rebuiltNorm same allowed, signedField]
  simp

/-- The scalar columns are the signed values. -/
theorem scalars_enforced
    {terms : PayloadFields}
    {signed rebuilt tools servers : Json}
    (format : Isoformat text)
    (shape : PayloadOf text terms signed)
    (columns : PayloadOf text (mandate.fields tools servers) rebuilt)
    (agrees : ∀ key ∈ signedKeys, compareKey signed rebuilt key = .ok ()) :
    terms.maxCallCents = mandate.maxCallCents ∧
      terms.maxCalls = mandate.maxCalls ∧
      terms.expiresAt.map asUtc = mandate.expiresAt.map asUtc := by
  refine ⟨?_, ?_, ?_⟩
  · obtain ⟨_, _, inSigned, inRebuilt, same⟩ :=
      compareKey_value (agrees "max_call_cents" (by simp [signedKeys]))
        (by decide) (by decide)
    cases inSigned.symm.trans (get_of_field shape.maxCallCents)
    cases inRebuilt.symm.trans (get_of_field columns.maxCallCents)
    simpa [Json.same, Json.sameScalar, Json.number, fields] using same
  · obtain ⟨_, _, inSigned, inRebuilt, same⟩ :=
      compareKey_value (agrees "max_calls" (by simp [signedKeys]))
        (by decide) (by decide)
    cases inSigned.symm.trans (get_of_field shape.maxCalls)
    cases inRebuilt.symm.trans (get_of_field columns.maxCalls)
    exact ofNumber_same same
  · obtain ⟨_, _, inSigned, inRebuilt, same⟩ :=
      compareKey_expiry (agrees "expires_at" (by simp [signedKeys]))
    cases inSigned.symm.trans (get_of_field shape.expiresAt)
    cases inRebuilt.symm.trans (get_of_field columns.expiresAt)
    exact expiry_same format same

/--
An accepted call is signed for, under the issuer's key or the principal's: the
signed payload permits it exactly when no list column is a JSON string that the
name is a longer or an empty part of.
-/
theorem accepted_call_is_signed_iff
    (format : Isoformat text)
    (signers : Signers text)
    (loaded : loadLiveMandate text views now row = .ok mandate)
    (accepted : mandate.checkTool text tool server priceCents = .ok ()) :
    (∃ payload, text.loads mandate.payloadJson = some payload ∧
        mandate.pubkeyHex ∈
          boundPubkeys ((views 0).principals.find mandate.principalId)
            text.issuerPubkey ∧
        signers.Signed mandate.pubkeyHex payload ∧
        Permits text payload tool server priceCents mandate.callsUsed now) ↔
      OneCharacter text mandate.toolsJson tool ∧
        OneCharacter text mandate.serversJson server := by
  obtain ⟨⟨payload, loads, bound, verified⟩, notPast⟩ :=
    loadLiveMandate_ok loaded
  obtain ⟨state, ⟨tools, toolsLoad, toolListed⟩,
    ⟨servers, serversLoad, serverListed⟩, price, calls⟩ :=
      checkTool_ok accepted
  obtain ⟨signed, rebuilt, tools', servers', loads', toolsLoad', serversLoad',
    columns, agrees⟩ := checkSignedState_ok state
  cases loads.symm.trans loads'
  cases toolsLoad.symm.trans toolsLoad'
  cases serversLoad.symm.trans serversLoad'
  have isSigned := signers.genuine verified
  obtain ⟨terms, toolNames, serverNames, sameTools, sameServers, built⟩ :=
    signers.shaped isSigned
  have shape := mandatePayload_ok built
  -- The lists of the payload are sorted names.
  obtain ⟨signedTools, toolsNorm, inTools⟩ := shape.tools
  rw [sameTools, normList_ofNames] at toolsNorm
  cases toolsNorm
  obtain ⟨signedServers, serversNorm, inServers⟩ := shape.servers
  rw [sameServers, normList_ofNames] at serversNorm
  cases serversNorm
  obtain ⟨columnTools, columnToolsNorm, inColumnTools⟩ := columns.tools
  obtain ⟨columnServers, columnServersNorm, inColumnServers⟩ := columns.servers
  have toolIff :=
    (list_column_iff (.inl rfl) (agrees "tools" (by simp [signedKeys]))
      inTools inColumnTools columnToolsNorm toolListed).trans
      (oneCharacter_iff toolsLoad)
  have serverIff :=
    (list_column_iff (.inr rfl) (agrees "servers" (by simp [signedKeys]))
      inServers inColumnServers columnServersNorm serverListed).trans
      (oneCharacter_iff serversLoad)
  constructor
  · rintro ⟨other, otherLoads, _, _, permits⟩
    cases loads.symm.trans otherLoads
    exact ⟨toolIff.mp permits.tool, serverIff.mp permits.server⟩
  · rintro ⟨toolOk, serverOk⟩
    refine ⟨payload, loads, bound, isSigned, ?_⟩
    obtain ⟨sameMaxCall, sameMaxCalls, sameExpiry⟩ :=
      scalars_enforced format shape columns agrees
    refine
      { tool := toolIff.mpr toolOk
        server := serverIff.mpr serverOk
        price :=
          ⟨terms.maxCallCents, shape.maxCallCents, sameMaxCall ▸ price⟩
        calls := ?_
        fresh := ?_ }
    · rw [shape.maxCalls, sameMaxCalls]
      cases limit : mandate.maxCalls with
      | none => exact Or.inl rfl
      | some maxCalls => exact Or.inr ⟨maxCalls, rfl, calls _ limit⟩
    · rw [shape.expiresAt]
      cases signedExpiry : terms.expiresAt with
      | none => exact Or.inl rfl
      | some expires =>
          rw [signedExpiry] at sameExpiry
          obtain ⟨enforced, isEnforced, same⟩ :=
            Option.map_eq_some_iff.mp sameExpiry.symm
          refine Or.inr ⟨expires, rfl, ?_⟩
          rw [← same]
          exact notPast enforced isEnforced

end Accepted

/-! ## A list and a string that sort alike -/

/-- The arguments of a mandate for the tools `a` and `b`. -/
def pairFields : PayloadFields where
  principalId := 1
  agentId := 1
  parentMandateId := none
  spendLimitCents := 100
  maxCallCents := 100
  maxCalls := some 5
  tools := .ofStrings ["a", "b"]
  servers := .null
  expiresAt := none
  maxSubagentBudgetCents := some 100
  nonce := "n"

/-- Its payload. -/
def pairPayload : Json :=
  .object
    [("agent_id", .string "1"), ("expires_at", .null),
      ("max_call_cents", .int 100), ("max_calls", .int 5),
      ("max_subagent_budget_cents", .int 100), ("nonce", .string "n"),
      ("parent_mandate_id", .null), ("principal_id", .string "1"),
      ("servers", .null), ("spend_limit_cents", .int 100),
      ("tools", .ofStrings ["a", "b"]), ("v", .int 1)]

/-- The text of that payload. -/
def pairJson : String :=
  "\x7b\"agent_id\":\"1\",\"expires_at\":null," ++
    "\"max_call_cents\":100,\"max_calls\":5," ++
    "\"max_subagent_budget_cents\":100,\"nonce\":\"n\"," ++
    "\"parent_mandate_id\":null,\"principal_id\":\"1\"," ++
    "\"servers\":null,\"spend_limit_cents\":100," ++
    "\"tools\":[\"a\",\"b\"],\"v\":1\x7d"

/-- The texts of the example, with one key that has signed one payload. -/
def pairText : TextFormat where
  loads text := (Json.loads halfText text.toList).toOption
  idText id := toString id
  isoformat dt :=
    .ofList
      ((if dt.wall < 0 then '-' else '+') :: List.replicate dt.wall.natAbs '1')
  issuerPubkey := "c0"
  verifyObj payload signature key :=
    payload = pairPayload && signature = "5e" && key = "c0"

/-- The instants of the example are told apart. -/
theorem pairText_isoformat : Isoformat pairText where
  injective first second same := by
    have chars := String.ofList_injective same
    obtain ⟨sameSign, sameDigits⟩ := List.cons.inj chars
    have sameSize := congrArg List.length sameDigits
    simp only [List.length_replicate] at sameSize
    have sameWall : (asUtc first).wall = (asUtc second).wall := by
      by_cases firstSign : (asUtc first).wall < 0 <;>
        by_cases secondSign : (asUtc second).wall < 0 <;>
        simp [firstSign, secondSign] at sameSign <;> omega
    exact congrArg (fun wall => (⟨wall, some 0⟩ : Datetime)) sameWall
  nonempty dt := by
    simp [pairText]

/-- The one payload of the example is of the right shape. -/
def pairSigners : Signers pairText where
  Signed key payload := key = "c0" ∧ payload = pairPayload
  genuine verified := by
    simp only [pairText, Bool.and_eq_true, decide_eq_true_eq] at verified
    exact ⟨verified.2, verified.1.1⟩
  shaped signed := by
    obtain ⟨_, rfl⟩ := signed
    exact ⟨pairFields, some ["a", "b"], none, rfl, rfl, by decide⟩

/-- A stored row with this payload and some text for its tools. -/
def storedPair (toolsJson : String) : StoredMandate where
  principalId := 1
  agentId := 1
  parentMandateId := none
  spendLimitCents := 100
  remainingCents := 100
  maxCallCents := 100
  maxCalls := some 5
  callsUsed := 0
  toolsJson := some toolsJson
  serversJson := none
  expiresAt := none
  maxSubagentBudgetCents := some 100
  nonce := "n"
  signature := "5e"
  pubkeyHex := "c0"
  payloadJson := pairJson
  revoked := false

/-- One live agent. -/
def pairViews : Views := fun _ =>
  { Db.empty with
    agents :=
      { rows := [⟨1, 1, none, false⟩]
        keysNodup := by decide } }

/-- The text is read as the payload. -/
theorem pairJson_loads : pairText.loads pairJson = some pairPayload := by
  decide +kernel

/-- So is the text of the stored rows. -/
theorem storedPair_payloadObj (toolsJson : String) :
    (storedPair toolsJson).payloadObj pairText = .ok pairPayload := by
  simp [payloadObj, storedPair, pairJson_loads, orError]

/-- A row whose columns agree with the payload loads as live. -/
theorem storedPair_loaded
    {toolsJson : String}
    (state : (storedPair toolsJson).checkSignedState pairText = .ok ()) :
    loadLiveMandate pairText pairViews ⟨0, none⟩
        (some (storedPair toolsJson)) =
      .ok (storedPair toolsJson) := by
  have signed :
      (storedPair toolsJson).checkMandateSignature pairText
          (boundPubkeys
            ((pairViews 0).principals.find (storedPair toolsJson).principalId)
            pairText.issuerPubkey) =
        .ok () := by
    unfold checkMandateSignature
    rw [storedPair_payloadObj]
    rfl
  have fresh :
      (storedPair toolsJson).checkFresh pairText ⟨0, none⟩ = .ok () := rfl
  have live :
      requireLiveAgent (fun n => pairViews (n + 1))
          (storedPair toolsJson).agentId =
        .ok ⟨1, 1, none, false⟩ := rfl
  simp only [loadLiveMandate, verifyStoredMandate, orError, bind, Except.bind,
    signed, state, fresh, live]

/-- With the list that was signed, the call is signed for. -/
theorem accepted_call_is_signed_example :
    ∃ payload, pairText.loads pairJson = some payload ∧
      pairSigners.Signed "c0" payload ∧
      Permits pairText payload "a" "mock" 10 0 ⟨0, none⟩ := by
  let mandate := storedPair "[\"a\",\"b\"]"
  have state : mandate.checkSignedState pairText = .ok () := by
    unfold checkSignedState
    rw [storedPair_payloadObj]
    decide +kernel
  have accepted : mandate.checkTool pairText "a" "mock" 10 = .ok () := by
    unfold checkTool
    rw [state]
    decide +kernel
  have tools :
      loadList pairText mandate.toolsJson = .ok (.ofStrings ["a", "b"]) := by
    decide +kernel
  have servers : loadList pairText mandate.serversJson = .ok .null := by
    decide +kernel
  have toolListed : OneCharacter pairText mandate.toolsJson "a" := by
    rw [← oneCharacter_iff tools]
    intro whole isString
    cases isString
  have serverListed : OneCharacter pairText mandate.serversJson "mock" := by
    rw [← oneCharacter_iff servers]
    intro whole isString
    cases isString
  obtain ⟨payload, loads, _, signed, permits⟩ :=
    (accepted_call_is_signed_iff pairText_isoformat pairSigners
      (storedPair_loaded state) accepted).mpr ⟨toolListed, serverListed⟩
  exact ⟨payload, loads, signed, permits⟩

/--
The column `"ab"` sorts like the signed list of `a` and `b`, and lets the tool
`ab` pass, which the payload does not list.
-/
theorem accepted_call_not_signed :
    let mandate := storedPair "\"ab\""
    loadLiveMandate pairText pairViews ⟨0, none⟩ (some mandate) =
        .ok mandate ∧
      mandate.checkTool pairText "ab" "mock" 10 = .ok () ∧
      ∀ payload, pairText.loads mandate.payloadJson = some payload →
        ¬ Permits pairText payload "ab" "mock" 10 mandate.callsUsed
            ⟨0, none⟩ := by
  have state : (storedPair "\"ab\"").checkSignedState pairText = .ok () := by
    unfold checkSignedState
    rw [storedPair_payloadObj]
    decide +kernel
  refine ⟨storedPair_loaded state, ?_, ?_⟩
  · unfold checkTool
    rw [state]
    decide +kernel
  intro payload loads permits
  cases pairJson_loads.symm.trans loads
  obtain ⟨tools, inTools, listed⟩ := permits.tool
  cases inTools
  have inPair : "ab" ∈ ["a", "b"] := listed_ofNames.mp listed
  revert inPair
  decide

end StoredMandate

end Crossing
