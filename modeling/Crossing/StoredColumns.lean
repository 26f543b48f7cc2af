import Crossing.CanonicalText
import Crossing.Mandate
import Crossing.StoredTerms

namespace Crossing

open Python

/-!
# Mandates in text columns

The columns that `issue_mandate` writes with `_dumps`.  On them the checks of
`policy.py`, which read the texts back, do what the checks on the values do.
-/

namespace Codec

variable (codec : Codec) (isoformat : Datetime → String)

/-- The dict of a signed payload, in the order of `mandate_payload`. -/
def payloadDict (payload : MandatePayload) : Json :=
  .object
    [("v", .int payload.v),
      ("principal_id", .string (codec.idText payload.principalId)),
      ("agent_id", .string (codec.idText payload.agentId)),
      ("parent_mandate_id",
        .ofOption (payload.parentMandateId.map codec.idText)),
      ("spend_limit_cents", .int payload.spendLimitCents),
      ("max_call_cents", .int payload.maxCallCents),
      ("max_calls", StoredMandate.ofNumber payload.maxCalls),
      ("tools", StoredMandate.ofNames payload.tools),
      ("servers", StoredMandate.ofNames payload.servers),
      ("expires_at", .ofOption (payload.expiresAt.map isoformat)),
      ("max_subagent_budget_cents",
        StoredMandate.ofNumber payload.maxSubagentBudgetCents),
      ("nonce", .string payload.nonce)]

/-- The row that `issue_mandate` writes for these values. -/
def storedMandate (mandate : Mandate) : StoredMandate where
  principalId := mandate.principalId
  agentId := mandate.agentId
  parentMandateId := mandate.parentMandateId
  spendLimitCents := mandate.spendLimitCents
  remainingCents := mandate.remainingCents
  maxCallCents := mandate.maxCallCents
  maxCalls := mandate.maxCalls
  callsUsed := mandate.callsUsed
  toolsJson :=
    mandate.toolsJson.map fun names => codec.canonical (.ofStrings names)
  serversJson :=
    mandate.serversJson.map fun names => codec.canonical (.ofStrings names)
  expiresAt := mandate.expiresAt
  maxSubagentBudgetCents := mandate.maxSubagentBudgetCents
  nonce := mandate.nonce
  signature := mandate.signature
  pubkeyHex := mandate.pubkeyHex
  payloadJson := codec.canonical (codec.payloadDict isoformat mandate.payloadJson)
  revoked := mandate.revoked

variable (crypto : Crypto)

/-- `verify_obj`, under a key that is given; a `ValueError` is a failure. -/
def verifyObj (obj : Json) (signature pubkey : String) : Bool :=
  match canonicalDumps codec obj with
  | some text => crypto.verify text signature pubkey
  | none => false

/-- `json.loads` and `verify_obj` for the checks on stored rows. -/
def format : TextFormat where
  loads text := (Json.loads codec.floats text.toList).toOption
  idText := codec.idText
  isoformat := isoformat
  issuerPubkey := crypto.issuerPubkey
  verifyObj := codec.verifyObj crypto

/-- The environment whose mandates are signed as canonical texts. -/
def signing (env : Env) : Env :=
  { env with
    issuerPubkey := crypto.issuerPubkey
    isoformat := isoformat
    signObj := fun payload =>
      crypto.sign
        (codec.canonical (codec.payloadDict isoformat payload)).toList
    verifyObj := fun payload =>
      codec.verifyObj crypto (codec.payloadDict isoformat payload) }

end Codec

/-! ## Reading the columns back -/

/-- The integers of a payload have texts, and its expiry is in UTC. -/
structure MandatePayload.Storable (payload : MandatePayload) : Prop where
  v : Json.shortInt payload.v = true
  spendLimitCents : Json.shortInt payload.spendLimitCents = true
  maxCallCents : Json.shortInt payload.maxCallCents = true
  maxCalls : ∀ limit ∈ payload.maxCalls, Json.shortInt limit = true
  maxSubagentBudgetCents :
    ∀ budget ∈ payload.maxSubagentBudgetCents, Json.shortInt budget = true
  expiresAt : payload.expiresAt.map asUtc = payload.expiresAt

section Loading

variable
  {codec : Codec}
  {isoformat : Datetime → String}
  {crypto : Crypto}
  {payload : MandatePayload}

/-- `None` and numbers with a text are fine. -/
theorem ofNumber_fine
    {floats : FloatText}
    {number : Option Int}
    (short : ∀ value ∈ number, Json.shortInt value = true) :
    Json.Fine floats (StoredMandate.ofNumber number) := by
  cases number with
  | none => exact ⟨trivial, rfl⟩
  | some value => exact ⟨trivial, short value rfl⟩

/-- `None` and strings are fine. -/
theorem ofOption_fine (floats : FloatText) (text : Option String) :
    Json.Fine floats (.ofOption text) := by
  cases text <;> exact ⟨trivial, rfl⟩

/-- A list of strings is fine. -/
theorem ofStrings_fine (floats : FloatText) (names : List String) :
    Json.Fine floats (.ofStrings names) := by
  refine Json.fine_array fun item member => ?_
  obtain ⟨name, _, rfl⟩ := List.mem_map.mp member
  exact ⟨trivial, rfl⟩

/-- `None` and lists of strings are fine. -/
theorem ofNames_fine (floats : FloatText) (names : Option (List String)) :
    Json.Fine floats (StoredMandate.ofNames names) := by
  cases names with
  | none => exact ⟨trivial, rfl⟩
  | some names => exact ofStrings_fine floats names

/-- A payload that can be stored is a value of Python that has a text. -/
theorem payloadDict_fine (storable : payload.Storable) :
    Json.Fine codec.floats (codec.payloadDict isoformat payload) := by
  refine Json.fine_object (by simp) ?_
  simp only [List.forall_mem_cons]
  exact ⟨⟨trivial, storable.v⟩, ⟨trivial, rfl⟩, ⟨trivial, rfl⟩,
    ofOption_fine _ _, ⟨trivial, storable.spendLimitCents⟩,
    ⟨trivial, storable.maxCallCents⟩, ofNumber_fine storable.maxCalls,
    ofNames_fine _ _, ofNames_fine _ _, ofOption_fine _ _,
    ofNumber_fine storable.maxSubagentBudgetCents, ⟨trivial, rfl⟩,
    List.forall_mem_nil _⟩

/-- A canonical text is loaded as the sorted value. -/
theorem format_loads
    {value : Json}
    (fine : Json.Fine codec.floats value) :
    (codec.format isoformat crypto).loads (codec.canonical value) =
      some value.ordered := by
  have loaded :=
    Json.loads_dumpsSorted fine.1 (Json.dumpsSorted_eq_some fine.2)
  simp only [Codec.format, Codec.canonical, String.toList_ofList, loaded]
  rfl

/-- A list of strings is sorted as it is. -/
theorem ordered_ofStrings (names : List String) :
    (Json.ofStrings names).ordered = .ofStrings names := by
  rw [Json.ofStrings, Json.ordered, Json.orderedItems_eq, List.map_map]
  rfl

/-- A canonical text is not empty. -/
theorem canonical_nonempty
    {value : Json}
    (fine : Json.Fine codec.floats value) :
    codec.canonical value ≠ "" := by
  intro empty
  have loaded :=
    Json.loads_dumpsSorted fine.1 (Json.dumpsSorted_eq_some fine.2)
  have noText := congrArg String.toList empty
  rw [Codec.canonical, String.toList_ofList] at noText
  rw [noText] at loaded
  cases loaded

/-- The lists are read back from their columns. -/
theorem loadList_names (names : Option (List String)) :
    StoredMandate.loadList (codec.format isoformat crypto)
        (names.map fun names => codec.canonical (.ofStrings names)) =
      .ok (StoredMandate.ofNames names) := by
  cases names with
  | none => rfl
  | some names =>
      have fine := ofStrings_fine codec.floats names
      rw [Option.map_some, StoredMandate.loadList,
        truthy_some (canonical_nonempty fine)]
      simp only [format_loads fine, orError, ordered_ofStrings]
      rfl

/-- The sorted dict of a payload. -/
theorem payloadDict_ordered (payload : MandatePayload) :
    (codec.payloadDict isoformat payload).ordered =
      .object
        [("agent_id", .string (codec.idText payload.agentId)),
          ("expires_at", .ofOption (payload.expiresAt.map isoformat)),
          ("max_call_cents", .int payload.maxCallCents),
          ("max_calls", StoredMandate.ofNumber payload.maxCalls),
          ("max_subagent_budget_cents",
            StoredMandate.ofNumber payload.maxSubagentBudgetCents),
          ("nonce", .string payload.nonce),
          ("parent_mandate_id",
            .ofOption (payload.parentMandateId.map codec.idText)),
          ("principal_id", .string (codec.idText payload.principalId)),
          ("servers", StoredMandate.ofNames payload.servers),
          ("spend_limit_cents", .int payload.spendLimitCents),
          ("tools", StoredMandate.ofNames payload.tools),
          ("v", .int payload.v)] := by
  have before (left right : String × Json) :
      Json.keyLe left right ↔ left.1 ≤ right.1 := Iff.rfl
  have names (listed : Option (List String)) :
      (StoredMandate.ofNames listed).ordered =
        StoredMandate.ofNames listed := by
    cases listed with
    | none => rfl
    | some listed => exact ordered_ofStrings listed
  have number (value : Option Int) :
      (StoredMandate.ofNumber value).ordered =
        StoredMandate.ofNumber value := by
    cases value <;> rfl
  have text (value : Option String) :
      (Json.ofOption value).ordered = .ofOption value := by
    cases value <;> rfl
  simp [Codec.payloadDict, Json.ordered, Json.orderedFields, before, names,
    number, text]

/-- The payload that the columns stand for is the dict of the rebuilt one. -/
theorem rebuilt_stored (mandate : Mandate) :
    (codec.storedMandate isoformat mandate).rebuilt
        (codec.format isoformat crypto) =
      .ok (codec.payloadDict isoformat (rebuiltPayload mandate)).ordered := by
  unfold StoredMandate.rebuilt
  simp only [Codec.storedMandate, loadList_names, bind, Except.bind,
    StoredMandate.mandatePayload, StoredMandate.fields,
    StoredMandate.normList_ofNames, payloadDict_ordered]
  simp [rebuiltPayload, mandatePayload, Mandate.toolsList,
    Mandate.serversList, Codec.format, Option.map_map, Function.comp_def]

/-- The payload is read back sorted. -/
theorem payloadObj_stored
    {mandate : Mandate}
    (storable : mandate.payloadJson.Storable) :
    (codec.storedMandate isoformat mandate).payloadObj
        (codec.format isoformat crypto) =
      .ok (codec.payloadDict isoformat mandate.payloadJson).ordered := by
  unfold StoredMandate.payloadObj
  simp only [Codec.storedMandate]
  rw [format_loads (payloadDict_fine storable)]
  rfl

/-! ## Comparisons -/

/-- Integers are the same when they are equal. -/
theorem same_int (left right : Int) :
    (Json.int left).same (.int right) = false ↔ left ≠ right := by
  simp [Json.same, Json.sameScalar, Json.number]

/-- Texts are the same when they are equal. -/
theorem same_text (left right : String) :
    (Json.string left).same (.string right) = false ↔ left ≠ right := by
  simp [Json.same, Json.sameScalar]

/-- Optional numbers are the same when they are equal. -/
theorem same_ofNumber (left right : Option Int) :
    (StoredMandate.ofNumber left).same (StoredMandate.ofNumber right) =
        false ↔
      left ≠ right := by
  cases left <;> cases right <;>
    simp [StoredMandate.ofNumber, Json.same, Json.sameScalar, Json.number]

/-- Optional texts are the same when they are equal. -/
theorem same_ofOption (left right : Option String) :
    (Json.ofOption left).same (.ofOption right) = false ↔ left ≠ right := by
  cases left <;> cases right <;>
    simp [Json.ofOption, Json.same, Json.sameScalar, Json.number]

/-- Lists of names are the same when they are equal. -/
theorem same_ofNames (left right : Option (List String)) :
    (StoredMandate.ofNames left).same (StoredMandate.ofNames right) = false ↔
      left ≠ right := by
  cases left with
  | none =>
      cases right <;>
        simp [StoredMandate.ofNames, Json.ofStrings, Json.same,
          Json.sameScalar, Json.number]
  | some left =>
      cases right with
      | none =>
          simp [StoredMandate.ofNames, Json.ofStrings, Json.same,
            Json.sameScalar, Json.number]
      | some right =>
          have inner :
              Json.same (.ofStrings left) (.ofStrings right) = true ↔
                right = left := by
            rw [Json.ofStrings, Json.ofStrings, Json.same,
              Json.sameItems_strings]
            exact (List.map_injective_iff.mpr Json.string_injective).eq_iff
          rw [StoredMandate.ofNames, StoredMandate.ofNames,
            ← Bool.not_eq_true, inner]
          simp [eq_comm]

/-! ## Checks -/

/-- A check on texts that fails when a check on values does. -/
theorem refuseWhen_eq
    {failed failed' : Prop}
    [Decidable failed]
    [Decidable failed']
    (same : failed ↔ failed')
    (reason : Reason)
    (detail : String) :
    refuseWhen failed reason detail =
      (denyWhen failed' reason detail).mapError .denied := by
  unfold refuseWhen denyWhen
  by_cases fails : failed
  · rw [if_pos fails, if_pos (same.mp fails)]
    rfl
  · rw [if_neg fails, if_neg (fun fails' => fails (same.mpr fails'))]
    rfl

/-- One check after another, with the exceptions of the texts. -/
theorem mapError_bind
    {α β : Type}
    (first : Except Denied α)
    (next : α → Except Denied β) :
    (first >>= next).mapError StoredError.denied =
      first.mapError .denied >>= fun value =>
        (next value).mapError .denied := by
  cases first <;> rfl

section Keys

variable
  {signed rebuilt signedValue rebuiltValue : Json}
  {key : String}
  {failed : Prop}
  [Decidable failed]

/-- A key whose values are compared as they are. -/
theorem compareKey_plain
    (signedGet : signed.get key = some signedValue)
    (rebuiltGet : rebuilt.get key = some rebuiltValue)
    (noList : ¬ (key = "tools" ∨ key = "servers"))
    (noExpiry : key ≠ "expires_at")
    (same : signedValue.same rebuiltValue = false ↔ failed) :
    StoredMandate.compareKey signed rebuilt key =
      (denyWhen failed .signedStateDiverged key).mapError .denied := by
  rw [← refuseWhen_eq same]
  simp only [StoredMandate.compareKey, signedGet, rebuiltGet, orError, bind,
    Except.bind, if_neg noList, if_neg noExpiry]

/-- A key whose lists are compared in their order. -/
theorem compareKey_list
    {signedNames rebuiltNames : Option (List String)}
    (signedGet : signed.get key = some (StoredMandate.ofNames signedNames))
    (rebuiltGet : rebuilt.get key = some (StoredMandate.ofNames rebuiltNames))
    (isList : key = "tools" ∨ key = "servers") :
    StoredMandate.compareKey signed rebuilt key =
      (denyWhen (sortedList signedNames ≠ sortedList rebuiltNames)
        .signedStateDiverged key).mapError .denied := by
  rw [← refuseWhen_eq (same_ofNames _ _)]
  simp only [StoredMandate.compareKey, signedGet, rebuiltGet, orError, bind,
    Except.bind, if_pos isList, StoredMandate.normList_ofNames]

/-- The expiry. -/
theorem compareKey_expiry
    {signedText rebuiltText : Option String}
    (signedGet : signed.get "expires_at" = some (.ofOption signedText))
    (rebuiltGet : rebuilt.get "expires_at" = some (.ofOption rebuiltText))
    (signedNonempty : ∀ text ∈ signedText, text ≠ "")
    (rebuiltNonempty : ∀ text ∈ rebuiltText, text ≠ "")
    (same : signedText ≠ rebuiltText ↔ failed) :
    StoredMandate.compareKey signed rebuilt "expires_at" =
      (denyWhen failed .signedStateDiverged "expires_at").mapError
        .denied := by
  have given
      {text : Option String}
      (nonempty : ∀ value ∈ text, value ≠ "") :
      StoredMandate.orNone (.ofOption text) = .ofOption text := by
    cases text with
    | none => rfl
    | some text =>
        have isText : text ≠ "" := nonempty text rfl
        simp [StoredMandate.orNone, Json.ofOption, Json.truthy, isText]
  have noList : ¬ ("expires_at" = "tools" ∨ "expires_at" = "servers") := by
    decide
  rw [← refuseWhen_eq ((same_ofOption _ _).trans same)]
  simp only [StoredMandate.compareKey, signedGet, rebuiltGet, orError, bind,
    Except.bind, if_neg noList, if_true, given signedNonempty,
    given rebuiltNonempty]

end Keys

/-- Datetimes in UTC have the same text when they are equal. -/
theorem isoformat_ne_iff
    (iso : StoredMandate.Isoformat (codec.format isoformat crypto))
    {left right : Option Datetime}
    (leftUtc : left.map asUtc = left)
    (rightUtc : right.map asUtc = right) :
    left.map isoformat ≠ right.map isoformat ↔ left ≠ right := by
  refine not_congr ⟨fun same => ?_, fun same => by rw [same]⟩
  cases left with
  | none =>
      cases right with
      | none => rfl
      | some right => cases same
  | some left =>
      cases right with
      | none => cases same
      | some right =>
          have leftShape : asUtc left = left := Option.some.inj leftUtc
          have rightShape : asUtc right = right := Option.some.inj rightUtc
          have texts : isoformat left = isoformat right :=
            Option.some.inj same
          rw [← leftShape, ← rightShape] at texts ⊢
          exact congrArg some (iso.injective left right texts)

/-- The text of a datetime is not empty. -/
theorem isoformat_nonempty
    (iso : StoredMandate.Isoformat (codec.format isoformat crypto))
    (instant : Option Datetime) :
    ∀ text ∈ instant.map isoformat, text ≠ "" := by
  intro text member
  obtain ⟨dt, _, rfl⟩ := Option.mem_map.mp member
  exact iso.nonempty dt

/-- A check that is the last one. -/
theorem bind_done (check : Except StoredError Unit) :
    (check >>= fun _ => .ok ()) = check := by
  cases check <;> rfl

/-- Every signed key is compared on the texts as it is on the values. -/
theorem compareKeys_stored
    (iso : StoredMandate.Isoformat (codec.format isoformat crypto))
    {mandate : Mandate}
    (utc :
      mandate.payloadJson.expiresAt.map asUtc =
        mandate.payloadJson.expiresAt) :
    StoredMandate.compareKeys
        (codec.payloadDict isoformat mandate.payloadJson).ordered
        (codec.payloadDict isoformat (rebuiltPayload mandate)).ordered
        StoredMandate.signedKeys =
      (checkSignedState mandate).mapError .denied := by
  have ids (left right : Id) :
      (Json.string (codec.idText left)).same
          (.string (codec.idText right)) = false ↔
        left ≠ right := by
    rw [same_text, codec.idText_injective.ne_iff]
  have optionalIds (left right : Option Id) :
      (Json.ofOption (left.map codec.idText)).same
          (.ofOption (right.map codec.idText)) = false ↔
        left ≠ right := by
    rw [same_ofOption,
      (Option.map_injective codec.idText_injective).ne_iff]
  have rebuiltUtc :
      (rebuiltPayload mandate).expiresAt.map asUtc =
        (rebuiltPayload mandate).expiresAt := by
    change (mandate.expiresAt.map asUtc).map asUtc =
      mandate.expiresAt.map asUtc
    rw [Option.map_map]
    refine congrArg (mandate.expiresAt.map ·) (funext fun dt => ?_)
    simp [asUtc]
  unfold checkSignedState
  rw [payloadDict_ordered, payloadDict_ordered]
  simp only [StoredMandate.signedKeys, StoredMandate.compareKeys,
    mapError_bind]
  rw [compareKey_plain rfl rfl (by decide) (by decide) (ids _ _),
    compareKey_plain rfl rfl (by decide) (by decide) (ids _ _),
    compareKey_plain rfl rfl (by decide) (by decide) (optionalIds _ _),
    compareKey_plain rfl rfl (by decide) (by decide) (same_int _ _),
    compareKey_plain rfl rfl (by decide) (by decide) (same_int _ _),
    compareKey_plain rfl rfl (by decide) (by decide) (same_ofNumber _ _),
    compareKey_list rfl rfl (by decide),
    compareKey_list rfl rfl (by decide),
    compareKey_expiry rfl rfl (isoformat_nonempty iso _)
      (isoformat_nonempty iso _) (isoformat_ne_iff iso utc rebuiltUtc),
    compareKey_plain rfl rfl (by decide) (by decide) (same_ofNumber _ _),
    compareKey_plain rfl rfl (by decide) (by decide) (same_text _ _)]
  simp only [bind_done]

/-- `check_signed_state`. -/
theorem checkSignedState_stored
    (iso : StoredMandate.Isoformat (codec.format isoformat crypto))
    {mandate : Mandate}
    (storable : mandate.payloadJson.Storable) :
    (codec.storedMandate isoformat mandate).checkSignedState
        (codec.format isoformat crypto) =
      (checkSignedState mandate).mapError .denied := by
  have loaded := @payloadObj_stored codec isoformat crypto mandate storable
  rw [← compareKeys_stored iso storable.expiresAt]
  unfold StoredMandate.checkSignedState
  rw [loaded, rebuilt_stored]
  -- The signed dict has no key for the accounting.
  have noAccounting :
      StoredMandate.refuseAccounting
          (codec.payloadDict isoformat mandate.payloadJson).ordered
          ["remaining_cents", "calls_used", "used_calls"] =
        .ok () := by
    rw [payloadDict_ordered]
    rfl
  simp only [bind, Except.bind, noAccounting]

/-- `check_mandate_signature`. -/
theorem checkMandateSignature_stored
    {mandate : Mandate}
    (storable : mandate.payloadJson.Storable)
    (env : Env)
    (allowed : List String) :
    (codec.storedMandate isoformat mandate).checkMandateSignature
        (codec.format isoformat crypto) allowed =
      (checkMandateSignature (codec.signing isoformat crypto env) mandate
        allowed).mapError .denied := by
  have loaded := @payloadObj_stored codec isoformat crypto mandate storable
  have sameText :
      codec.verifyObj crypto
          (codec.payloadDict isoformat mandate.payloadJson).ordered =
        codec.verifyObj crypto
          (codec.payloadDict isoformat mandate.payloadJson) := by
    have sorted :=
      Json.ordered_ordered (@payloadDict_fine codec isoformat _ storable).1
    funext signature pubkey
    simp only [Codec.verifyObj, canonicalDumps, Json.dumpsSorted, sorted]
  have byFormat :
      (codec.format isoformat crypto).verifyObj = codec.verifyObj crypto :=
    rfl
  have bySigning :
      (codec.signing isoformat crypto env).verifyObj =
        fun payload =>
          codec.verifyObj crypto (codec.payloadDict isoformat payload) := by
    simp only [Codec.signing]
  have columns :
      (codec.storedMandate isoformat mandate).pubkeyHex =
          mandate.pubkeyHex ∧
        (codec.storedMandate isoformat mandate).signature =
          mandate.signature :=
    ⟨rfl, rfl⟩
  unfold StoredMandate.checkMandateSignature checkMandateSignature
  rw [loaded, mapError_bind, ← refuseWhen_eq Iff.rfl,
    ← refuseWhen_eq Iff.rfl, byFormat, bySigning, columns.1, columns.2]
  simp only [bind, Except.bind, sameText]

/-- `check_fresh`. -/
theorem checkFresh_stored
    (env : Env)
    (now : Datetime)
    (mandate : Mandate) :
    (codec.storedMandate isoformat mandate).checkFresh
        (codec.format isoformat crypto) now =
      (checkFresh (codec.signing isoformat crypto env) now
        mandate).mapError .denied := by
  unfold StoredMandate.checkFresh checkFresh
  rw [mapError_bind, ← refuseWhen_eq Iff.rfl]
  refine congrArg _ (funext fun _ => ?_)
  cases expiry : mandate.expiresAt.map asUtc with
  | none => simp [Codec.storedMandate, expiry, Except.mapError]
  | some expires =>
      simp only [Codec.storedMandate, expiry]
      rw [← refuseWhen_eq Iff.rfl]
      rfl

/-- `name not in names` on a list that was read back. -/
theorem checkListed_names
    (names : Option (List String))
    (name : String)
    (reason : Reason) :
    StoredMandate.checkListed (StoredMandate.ofNames names) name reason =
      (denyWhen (∃ listed ∈ names, name ∉ listed) reason name).mapError
        .denied := by
  cases names with
  | none =>
      have never : ¬ ∃ listed ∈ (none : Option (List String)), name ∉ listed :=
        nofun
      rw [denyWhen, if_neg never]
      rfl
  | some names =>
      have contained :
          (Json.ofStrings names).containsText name =
            some (decide (name ∈ names)) := by
        refine congrArg some (Bool.eq_iff_iff.mpr ?_)
        simp
      have missing :
          decide (name ∈ names) = false ↔
            ∃ listed ∈ some names, name ∉ listed := by
        simp
      rw [← refuseWhen_eq missing]
      change
        (do
          let present ←
            orError .typeError ((Json.ofStrings names).containsText name)
          refuseWhen (present = false) reason name) =
          _
      rw [contained]
      rfl

/-- `check_tool`. -/
theorem checkTool_stored
    (iso : StoredMandate.Isoformat (codec.format isoformat crypto))
    {mandate : Mandate}
    (storable : mandate.payloadJson.Storable)
    (tool server : String)
    (priceCents : Cents) :
    (codec.storedMandate isoformat mandate).checkTool
        (codec.format isoformat crypto) tool server priceCents =
      (checkTool mandate tool server priceCents).mapError .denied := by
  have toolsLoad :
      StoredMandate.loadList (codec.format isoformat crypto)
          (codec.storedMandate isoformat mandate).toolsJson =
        .ok (StoredMandate.ofNames mandate.toolsList) :=
    loadList_names mandate.toolsJson
  have serversLoad :
      StoredMandate.loadList (codec.format isoformat crypto)
          (codec.storedMandate isoformat mandate).serversJson =
        .ok (StoredMandate.ofNames mandate.serversList) :=
    loadList_names mandate.serversJson
  unfold StoredMandate.checkTool checkTool
  rw [toolsLoad, serversLoad, checkSignedState_stored iso storable]
  simp only [mapError_bind, ← checkListed_names]
  simp only [← refuseWhen_eq Iff.rfl]
  rfl

/-- `_verify_stored_mandate`. -/
theorem verifyStoredMandate_stored
    (iso : StoredMandate.Isoformat (codec.format isoformat crypto))
    {mandate : Mandate}
    (storable : mandate.payloadJson.Storable)
    (env : Env)
    (view : Db) :
    (codec.storedMandate isoformat mandate).verifyStoredMandate
        (codec.format isoformat crypto) view =
      (verifyStoredMandate (codec.signing isoformat crypto env) view
        mandate).mapError .denied := by
  unfold StoredMandate.verifyStoredMandate verifyStoredMandate
  rw [mapError_bind, ← checkSignedState_stored iso storable,
    ← checkMandateSignature_stored storable]
  rfl

/-- `load_live_mandate`, on the row that was found. -/
theorem loadLiveMandate_stored
    (iso : StoredMandate.Isoformat (codec.format isoformat crypto))
    {views : Views}
    {mandateId : Id}
    (storable :
      ∀ mandate ∈ (views 0).mandates.find mandateId,
        mandate.payloadJson.Storable)
    (env : Env)
    (now : Datetime) :
    StoredMandate.loadLiveMandate (codec.format isoformat crypto)
        (views.after 1) now
        (((views 0).mandates.find mandateId).map
          (codec.storedMandate isoformat)) =
      ((loadLiveMandate (codec.signing isoformat crypto env) views now
        mandateId).map (codec.storedMandate isoformat)).mapError
          .denied := by
  unfold StoredMandate.loadLiveMandate loadLiveMandate findMandate
  cases found : (views 0).mandates.find mandateId with
  | none => rfl
  | some mandate =>
      have isStorable := storable mandate found
      have laterViews :
          (fun statement => views.after 1 (statement + 1)) =
            views.after 2 := by
        funext statement
        exact congrArg views (by omega)
      have verifies :
          (codec.storedMandate isoformat mandate).verifyStoredMandate
              (codec.format isoformat crypto) (views.after 1 0) =
            (verifyStoredMandate (codec.signing isoformat crypto env)
              (views 1) mandate).mapError .denied :=
        verifyStoredMandate_stored iso isStorable env (views 1)
      have freshens :=
        @checkFresh_stored codec isoformat crypto env now mandate
      have agent :
          (codec.storedMandate isoformat mandate).agentId =
            mandate.agentId := rfl
      simp only [Option.map_some, orError, bind, Except.bind, verifies,
        freshens, laterViews, agent]
      cases verifyStoredMandate (codec.signing isoformat crypto env)
        (views 1) mandate with
      | error outcome => rfl
      | ok _ =>
          cases checkFresh (codec.signing isoformat crypto env) now
            mandate with
          | error outcome => rfl
          | ok _ =>
              cases requireLiveAgent (views.after 2) mandate.agentId with
              | error outcome => rfl
              | ok agent => rfl

/--
On the text columns that `issue_mandate` writes, loading a live mandate and
`check_tool` answer and refuse as they do on the values, for every row whose
integers have texts, whether it was changed since it was signed or not.
-/
theorem text_columns_checked_alike
    (iso : StoredMandate.Isoformat (codec.format isoformat crypto))
    (env : Env)
    {views : Views}
    {mandateId : Id}
    (storable :
      ∀ mandate ∈ (views 0).mandates.find mandateId,
        mandate.payloadJson.Storable)
    (now : Datetime) :
    StoredMandate.loadLiveMandate (codec.format isoformat crypto)
          (views.after 1) now
          (((views 0).mandates.find mandateId).map
            (codec.storedMandate isoformat)) =
        ((loadLiveMandate (codec.signing isoformat crypto env) views now
          mandateId).map (codec.storedMandate isoformat)).mapError
            .denied ∧
      ∀ mandate ∈ (views 0).mandates.find mandateId,
        ∀ tool server priceCents,
          (codec.storedMandate isoformat mandate).checkTool
              (codec.format isoformat crypto) tool server priceCents =
            (checkTool mandate tool server priceCents).mapError .denied :=
  ⟨loadLiveMandate_stored iso storable env now,
    fun mandate found tool server priceCents =>
      checkTool_stored iso (storable mandate found) tool server priceCents⟩

end Loading

/-- A row whose price limit was raised after it was signed. -/
def raisedMandate : Mandate :=
  let args : IssueMandate :=
    { principalId := 1
      agentId := 1
      spendLimitCents := 100
      tools := some ["search"] }
  { issuedMandate args 1 "n1" "signed" "issuer" with maxCallCents := 1000 }

/-- The raised row is refused on its texts, too. -/
theorem text_columns_checked_alike_example :
    let format := Codec.plain.format StoredMandate.pairText.isoformat
      Crypto.plain
    let stored :=
      Codec.plain.storedMandate StoredMandate.pairText.isoformat
        raisedMandate
    StoredMandate.checkTool format stored "search" "mock" 500 =
      .error (.denied ⟨.signedStateDiverged, "max_call_cents"⟩) := by
  intro format stored
  have iso : StoredMandate.Isoformat format :=
    ⟨StoredMandate.pairText_isoformat.injective,
      StoredMandate.pairText_isoformat.nonempty⟩
  let db : Db :=
    { Db.empty with
      mandates := ⟨[raisedMandate], by simp⟩ }
  have storable :
      ∀ mandate ∈ db.mandates.find 1, mandate.payloadJson.Storable := by
    intro mandate found
    cases found
    exact ⟨by decide, by decide, by decide, by decide, by decide, rfl⟩
  exact
    (@text_columns_checked_alike .plain StoredMandate.pairText.isoformat
      .plain iso Env.plain (fun _ => db) 1 storable noon).2 raisedMandate rfl
      "search" "mock" 500

end Crossing
