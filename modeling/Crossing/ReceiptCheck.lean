import Crossing.JsonValue

namespace Crossing

open Python

/-!
# What a verified receipt proves

`verify_receipt` takes the body, the signature and the public key from the
object that it checks.  Receipts are read here as they arrive, as a row with
text columns or as a dict in the shape of `to_dict`, with any value in each
field.
-/

/-! ## Verification -/

/--
An Ed25519 implementation and the record of what has been signed.  A signature
verifies under a key only on what the holder of its secret key signed.
-/
structure Signatures (Key : Type) where
  verify : Key → Json → String → Bool
  Signed : Key → Json → Prop
  genuine :
    ∀ {key payload signature},
      verify key payload signature = true → Signed key payload

/-- How key texts are decoded, and the key of The Crossing. -/
structure KeyRing (Key : Type) where
  verifyKey : String → Option Key
  issuer : Key

/-- `if pubkey_hex_str`: the key that is named, else the issuer's key. -/
def KeyRing.named
    {Key : Type}
    (ring : KeyRing Key)
    (pubkeyHex : Json) :
    Option Key :=
  if pubkeyHex.truthy then
    match pubkeyHex with
    | .string hex => ring.verifyKey hex
    | _ => none
  else
    some ring.issuer

/-- `verify_obj`: a value that is no text, or no key, fails the check. -/
def verifyObj
    {Key : Type}
    (ring : KeyRing Key)
    (signatures : Signatures Key)
    (obj signatureHex pubkeyHex : Json) :
    Bool :=
  match signatureHex, ring.named pubkeyHex with
  | .string signature, some key => signatures.verify key obj signature
  | _, _ => false

/-- A row of `receipts`, with the columns as they are stored. -/
structure ReceiptRow where
  id : String
  principalId : String
  mandateId : String
  agentId : Option String
  taskId : Option String
  reservationId : Option String
  tool : String
  server : String
  amountCents : Int
  bodyJson : String
  signature : String
  pubkeyHex : String

/-- A dict in the shape of `to_dict`, with any value under each key. -/
structure ShownReceipt where
  id : Json
  principalId : Json
  mandateId : Json
  agentId : Json
  taskId : Json
  reservationId : Json
  tool : Json
  server : Json
  amountCents : Json
  body : Json
  signature : Json
  pubkeyHex : Json
  kid : Json
  createdAt : Json

/-- The dict without `signature` and `pubkey_hex`. -/
def ShownReceipt.unsigned (receipt : ShownReceipt) : Json :=
  .object
    [("agent_id", receipt.agentId),
      ("amount_cents", receipt.amountCents),
      ("body", receipt.body),
      ("created_at", receipt.createdAt),
      ("id", receipt.id),
      ("kid", receipt.kid),
      ("mandate_id", receipt.mandateId),
      ("principal_id", receipt.principalId),
      ("reservation_id", receipt.reservationId),
      ("server", receipt.server),
      ("task_id", receipt.taskId),
      ("tool", receipt.tool)]

/-- `body or receipt.get("body") or {...}`. -/
def ShownReceipt.payload
    (receipt : ShownReceipt)
    (body : Option Json) :
    Json :=
  match body.filter Json.truthy with
  | some given => given
  | none =>
      if receipt.body.truthy then receipt.body else receipt.unsigned

/-- The two kinds of argument that `verify_receipt` takes. -/
inductive AnyReceipt where
  | row (receipt : ReceiptRow)
  | dict (receipt : ShownReceipt)

/-- `verify_receipt`; `none` when the stored body is no JSON text. -/
def verifyReceipt
    {Key : Type}
    (ring : KeyRing Key)
    (signatures : Signatures Key)
    (loads : String → Option Json)
    (receipt : AnyReceipt)
    (body : Option Json) :
    Option Bool :=
  match receipt with
  | .dict receipt =>
      some
        (verifyObj ring signatures (receipt.payload body) receipt.signature
          receipt.pubkeyHex)
  | .row receipt => do
      let payload ←
        match body with
        | some given => some given
        | none => loads receipt.bodyJson
      some
        (verifyObj ring signatures payload (.string receipt.signature)
          (.string receipt.pubkeyHex))

/-! ## What a receipt claims -/

namespace AnyReceipt

/-- The body of the receipt. -/
def body (loads : String → Option Json) : AnyReceipt → Option Json
  | .row receipt => loads receipt.bodyJson
  | .dict receipt => some receipt.body

/-- The signature beside the body. -/
def signature : AnyReceipt → Json
  | .row receipt => .string receipt.signature
  | .dict receipt => receipt.signature

/-- The public key beside the body. -/
def pubkeyHex : AnyReceipt → Json
  | .row receipt => .string receipt.pubkeyHex
  | .dict receipt => receipt.pubkeyHex

/-- The fields beside the body that repeat a field of it. -/
def shown : AnyReceipt → List (String × Json)
  | .row receipt =>
      [("id", .string receipt.id),
        ("mandate_id", .string receipt.mandateId),
        ("agent_id", .ofOption receipt.agentId),
        ("task_id", .ofOption receipt.taskId),
        ("reservation_id", .ofOption receipt.reservationId),
        ("tool", .string receipt.tool),
        ("server", .string receipt.server),
        ("amount_cents", .int receipt.amountCents)]
  | .dict receipt =>
      [("id", receipt.id),
        ("mandate_id", receipt.mandateId),
        ("agent_id", receipt.agentId),
        ("task_id", receipt.taskId),
        ("reservation_id", receipt.reservationId),
        ("tool", receipt.tool),
        ("server", receipt.server),
        ("amount_cents", receipt.amountCents)]

/-- Each field shown beside the body is the one of the body. -/
def ShowsBody (receipt : AnyReceipt) (body : Json) : Prop :=
  ∀ field ∈ receipt.shown, body.field? field.1 = some field.2

/-- The body was signed by The Crossing, and the fields beside it are its. -/
def Issued
    {Key : Type}
    (ring : KeyRing Key)
    (signatures : Signatures Key)
    (loads : String → Option Json)
    (receipt : AnyReceipt) :
    Prop :=
  ∃ body, receipt.body loads = some body ∧
    signatures.Signed ring.issuer body ∧
    receipt.ShowsBody body

/-! ## When the check is enough -/

/-- The check gets as far as the signature. -/
def Checkable
    {Key : Type}
    (ring : KeyRing Key)
    (loads : String → Option Json)
    (receipt : AnyReceipt)
    (body : Option Json) :
    Prop :=
  (∃ text, receipt.signature = .string text) ∧
    (∃ key, ring.named receipt.pubkeyHex = some key) ∧
    (receipt.body loads ≠ none ∨ body ≠ none)

/-- No other body is given, and the dict's own is not empty. -/
def OwnBody
    (loads : String → Option Json) :
    AnyReceipt → Option Json → Prop
  | .row receipt, body =>
      loads receipt.bodyJson ≠ none ∧
        ∀ given ∈ body, loads receipt.bodyJson = some given
  | .dict receipt, body =>
      receipt.body.truthy = true ∧
        ∀ given ∈ body, given.truthy = true → given = receipt.body

/-- The receipt names the key of The Crossing, its own body and its fields. -/
def Bound
    {Key : Type}
    (ring : KeyRing Key)
    (loads : String → Option Json)
    (receipt : AnyReceipt)
    (body : Option Json) :
    Prop :=
  ring.named receipt.pubkeyHex = some ring.issuer ∧
    receipt.OwnBody loads body ∧
    ∀ own, receipt.body loads = some own → receipt.ShowsBody own

/-- The body that `verify_receipt` checks. -/
def payload
    (loads : String → Option Json) :
    AnyReceipt → Option Json → Option Json
  | .row receipt, none => loads receipt.bodyJson
  | .row _, some given => some given
  | .dict receipt, body => some (receipt.payload body)

/-- A checked receipt has something to check. -/
theorem payload_eq_none_iff
    {loads : String → Option Json}
    {receipt : AnyReceipt}
    {body : Option Json} :
    receipt.payload loads body = none ↔
      receipt.body loads = none ∧ body = none := by
  cases receipt with
  | row receipt =>
      cases body with
      | none => simp [payload, AnyReceipt.body]
      | some given => simp [payload]
  | dict receipt => simp [payload, AnyReceipt.body]

/-- The checked body is the receipt's own body under `OwnBody` only. -/
theorem payload_own_iff
    {loads : String → Option Json}
    {receipt : AnyReceipt}
    {body : Option Json}
    {own : Json}
    (isOwn : receipt.body loads = some own) :
    receipt.payload loads body = some own ↔ receipt.OwnBody loads body := by
  cases receipt with
  | row receipt =>
      have stored : loads receipt.bodyJson = some own := isOwn
      cases body with
      | none => simp [payload, OwnBody, stored]
      | some given => simp [payload, OwnBody, stored, eq_comm]
  | dict receipt =>
      cases isOwn
      -- An empty body is never what is checked: the rest is not empty.
      have notUnsigned :
          receipt.body.truthy = false → receipt.unsigned ≠ receipt.body := by
        intro empty same
        have nonempty : receipt.unsigned.truthy = true := rfl
        rw [same, empty] at nonempty
        cases nonempty
      cases truth : receipt.body.truthy with
      | true =>
          cases body with
          | none => simp [payload, ShownReceipt.payload, OwnBody, truth]
          | some given =>
              by_cases used : given.truthy = true
              · simp [payload, ShownReceipt.payload, OwnBody, truth,
                  Option.filter, used]
              · simp [payload, ShownReceipt.payload, OwnBody, truth,
                  Option.filter, used]
      | false =>
          have differs := notUnsigned truth
          cases body with
          | none =>
              simp [payload, ShownReceipt.payload, OwnBody, truth, differs]
          | some given =>
              by_cases used : given.truthy = true
              · have other : given ≠ receipt.body := by
                  intro same
                  rw [same, truth] at used
                  cases used
                simp [payload, ShownReceipt.payload, OwnBody, truth,
                  Option.filter, used, other]
              · simp [payload, ShownReceipt.payload, OwnBody, truth,
                  Option.filter, used, differs]

end AnyReceipt

section Soundness

variable
  {Key : Type}
  {ring : KeyRing Key}
  {loads : String → Option Json}
  {receipt : AnyReceipt}
  {body : Option Json}

/-- The one signature that a successful check has verified. -/
theorem verifyReceipt_iff {signatures : Signatures Key} :
    verifyReceipt ring signatures loads receipt body = some true ↔
      ∃ payload key text,
        receipt.payload loads body = some payload ∧
          ring.named receipt.pubkeyHex = some key ∧
          receipt.signature = .string text ∧
          signatures.verify key payload text = true := by
  have objIff (payload signature pubkeyHex : Json) :
      verifyObj ring signatures payload signature pubkeyHex = true ↔
        ∃ key text, ring.named pubkeyHex = some key ∧
          signature = .string text ∧
          signatures.verify key payload text = true := by
    unfold verifyObj
    split
    case h_1 key signature text named =>
      simp [named]
    case h_2 noMatch =>
      constructor
      · intro passes
        cases passes
      · rintro ⟨key, text, named, isText, _⟩
        exact (noMatch text key isText named).elim
  cases receipt with
  | dict receipt =>
      simp [verifyReceipt, AnyReceipt.payload, AnyReceipt.signature,
        AnyReceipt.pubkeyHex, objIff]
  | row receipt =>
      cases body with
      | none =>
          simp [verifyReceipt, AnyReceipt.payload, AnyReceipt.signature,
            AnyReceipt.pubkeyHex, objIff, Option.bind_eq_some_iff]
      | some given =>
          simp [verifyReceipt, AnyReceipt.payload, AnyReceipt.signature,
            AnyReceipt.pubkeyHex, objIff]

open Classical in
/-- The record in which one key holder has signed one payload. -/
noncomputable def Signatures.single
    (key : Key)
    (payload : Json) :
    Signatures Key where
  verify key' payload' _ := decide (key' = key ∧ payload' = payload)
  Signed key' payload' := key' = key ∧ payload' = payload
  genuine verified := of_decide_eq_true verified

/-- Its one signature is genuine. -/
theorem Signatures.single_verifies
    {key : Key}
    {payload : Json}
    {text : String} :
    (Signatures.single key payload).verify key payload text = true := by
  simp [Signatures.single]

/--
A successful check proves that The Crossing issued the receipt exactly when the
receipt names the issuer's key, is checked against its own body, and shows the
fields of that body; or when it cannot be checked at all.
-/
theorem verified_receipt_is_issued_iff :
    (∀ signatures : Signatures Key,
      verifyReceipt ring signatures loads receipt body = some true →
        receipt.Issued ring signatures loads) ↔
      (receipt.Checkable ring loads body → receipt.Bound ring loads body) := by
  constructor
  · rintro sound ⟨⟨text, isText⟩, ⟨key, named⟩, present⟩
    cases checked : receipt.payload loads body with
    | none =>
        obtain ⟨noBody, noGiven⟩ := AnyReceipt.payload_eq_none_iff.mp checked
        rcases present with present | present
        · exact (present noBody).elim
        · exact (present noGiven).elim
    | some payload =>
        -- Nothing but the checked payload need have been signed.
        have verified :
            verifyReceipt ring (.single key payload) loads receipt body =
              some true :=
          verifyReceipt_iff.mpr
            ⟨payload, key, text, checked, named, isText,
              Signatures.single_verifies⟩
        obtain ⟨own, isOwn, ⟨sameKey, rfl⟩, shows⟩ := sound _ verified
        refine ⟨sameKey ▸ named, ?_, ?_⟩
        · exact (AnyReceipt.payload_own_iff isOwn).mp checked
        · intro own' isOwn'
          cases isOwn.symm.trans isOwn'
          exact shows
  · intro bound signatures verified
    obtain ⟨payload, key, text, checked, named, isText, passes⟩ :=
      verifyReceipt_iff.mp verified
    have checkable : receipt.Checkable ring loads body := by
      refine ⟨⟨text, isText⟩, ⟨key, named⟩, ?_⟩
      by_contra absent
      obtain ⟨noBody, noGiven⟩ := not_or.mp absent
      rw [AnyReceipt.payload_eq_none_iff.mpr
        ⟨not_not.mp noBody, not_not.mp noGiven⟩] at checked
      cases checked
    obtain ⟨namesIssuer, ownBody, shows⟩ := bound checkable
    cases named.symm.trans namesIssuer
    cases isOwn : receipt.body loads with
    | none =>
        cases receipt with
        | row receipt => exact (ownBody.1 isOwn).elim
        | dict receipt => cases isOwn
    | some own =>
        have checkedOwn := (AnyReceipt.payload_own_iff isOwn).mpr ownBody
        cases checked.symm.trans checkedOwn
        exact ⟨payload, isOwn, signatures.genuine passes, shows _ isOwn⟩

end Soundness

/-! ## Two receipts that verify -/

/-- The body of a call that cost ten cents. -/
def bodyOfTen : Json :=
  .object
    [("agent_id", .string "a"), ("amount_cents", .int 10),
      ("id", .string "r"), ("mandate_id", .string "m"),
      ("reservation_id", .string "h"), ("server", .string "mock"),
      ("task_id", .null), ("tool", .string "search")]

/-- A receipt over a body, with its amount and key chosen freely. -/
def shownWith (body : Json) (amount : Int) (pubkeyHex : String) :
    ShownReceipt where
  id := .string "r"
  principalId := .string "p"
  mandateId := .string "m"
  agentId := .string "a"
  taskId := .null
  reservationId := .string "h"
  tool := .string "search"
  server := .string "mock"
  amountCents := .int amount
  body := body
  signature := .string "5e"
  pubkeyHex := .string pubkeyHex
  kid := .null
  createdAt := .null

/-- The Crossing has signed one body; the holder of another key signs any. -/
def twoSigners : Signatures String where
  verify key payload _ := key = "a7" || (key = "c0" && payload = bodyOfTen)
  Signed key payload := key = "a7" ∨ (key = "c0" ∧ payload = bodyOfTen)
  genuine verified := by simpa using verified

/-- Each key text is a key, and `c0` is the one of The Crossing. -/
def twoKeys : KeyRing String where
  verifyKey := some
  issuer := "c0"

/--
Two dicts that verify: a body that another key holder has signed, and a body of
The Crossing with another amount beside it.
-/
theorem verified_receipt_not_issued :
    let forged := AnyReceipt.dict (shownWith (.object [("v", .int 1)]) 10 "a7")
    let altered := AnyReceipt.dict (shownWith bodyOfTen 99999 "c0")
    let noText : String → Option Json := fun _ => none
    verifyReceipt twoKeys twoSigners noText forged none = some true ∧
      ¬ forged.Issued twoKeys twoSigners noText ∧
      verifyReceipt twoKeys twoSigners noText altered none = some true ∧
      ¬ altered.Issued twoKeys twoSigners noText := by
  refine ⟨by decide, ?_, by decide, ?_⟩
  · rintro ⟨body, isBody, signed, _⟩
    cases isBody
    revert signed
    unfold twoSigners
    decide
  · rintro ⟨body, isBody, _, shows⟩
    cases isBody
    have amount :
        bodyOfTen.field? "amount_cents" = some (.int 99999) :=
      shows ("amount_cents", .int 99999)
        (by simp [AnyReceipt.shown, shownWith])
    exact absurd amount (by decide)

end Crossing
