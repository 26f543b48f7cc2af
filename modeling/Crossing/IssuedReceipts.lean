import Crossing.Completion
import Crossing.StoredResults

namespace Crossing

open Python
open Relational

/-!
# What holders of receipts can check

Every receipt that a running system stores was issued by it, so it verifies as a
row, as the dict that is shown, and inside an answer that is replayed from its
text.
-/

namespace Codec

variable (codec : Codec) (isoformat : Datetime → String) (crypto : Crypto)

/-- The environment whose receipts are signed as canonical texts. -/
def issuing (env : Env) : Env :=
  { env with
    issuerPubkey := crypto.issuerPubkey
    signReceipt := fun body =>
      crypto.sign (codec.canonical (codec.bodyDict isoformat body)).toList }

/-- Keys by their texts, the issuer's for want of another. -/
def keyRing : KeyRing String where
  verifyKey := some
  issuer := crypto.issuerPubkey

/-- Signatures on canonical texts, and what has one. -/
def signatures : Signatures String where
  verify key payload signature :=
    codec.verifyObj crypto payload signature key
  Signed key payload :=
    ∃ signature, codec.verifyObj crypto payload signature key = true
  genuine verified := ⟨_, verified⟩

/-- `verify_receipt` without a body beside the receipt. -/
def verifies (receipt : AnyReceipt) : Option Bool :=
  verifyReceipt (keyRing crypto) (codec.signatures crypto) codec.loads receipt
    none

end Codec

/-! ## Receipts that were issued -/

/-- Every stored receipt is one that `issue` makes. -/
def Db.Issues (env : Env) (db : Db) : Prop :=
  ∀ receipt ∈ db.receipts.rows, ∃ args, receipt = issuedReceipt env args

/-- A finalizer stores receipts that `issue` makes. -/
theorem ReceiptStep.issues
    {env : Env}
    {callbacks : FinalizeCallbacks}
    {stored receipts : Table Receipt}
    {reservationId : Id}
    {receipt : Option Receipt}
    (step :
      ReceiptStep env callbacks stored reservationId receipts receipt)
    (issued :
      ∀ row ∈ stored.rows, ∃ args, row = issuedReceipt env args) :
    ∀ row ∈ receipts.rows, ∃ args, row = issuedReceipt env args := by
  cases step with
  | skipped => exact issued
  | known => exact issued
  | issued _ _ inserted =>
      intro row member
      rcases (Table.mem_insert inserted).mp member with inOld | rfl
      · exact issued row inOld
      · exact ⟨_, rfl⟩

/-- In every reachable state of a paired run the receipts were issued. -/
theorem reachable_issues
    {env : Env}
    {allowed : Sys → Action → Prop}
    {s : Sys}
    (discipline : Discipline)
    (paired : discipline.paired)
    (keeps : ∀ s action, allowed s action → discipline.Allows action)
    (reachable : Reachable env allowed s) :
    s.db.Issues env := by
  apply reachable_db_invariant discipline (Db.Issues env) keeps _ _ reachable
  · intro receipt member
    cases member
  · intro s origin entries db' isReachable effect issued
    have pairs := reachable_paired discipline paired keeps isReachable
    cases effect with
    | settled settling => exact settling.receiptStep.issues issued
    | resettled resettling via pairing =>
        exact (pairs.not_resettled resettling via (pairing paired)).elim
    | _ => exact issued

section Checks

variable
  {codec : Codec}
  {isoformat : Datetime → String}
  {crypto : Crypto}
  {env : Env}

/-- The signature of a receipt is one on its sorted body. -/
theorem issued_signature
    {args : ReceiptArgs}
    {receipt : Receipt}
    (issued :
      receipt = issuedReceipt (codec.issuing isoformat crypto env) args)
    (storable : receipt.bodyJson.Storable) :
    codec.verifyObj crypto
        (codec.bodyDict isoformat receipt.bodyJson).ordered
        receipt.signature crypto.issuerPubkey =
      true := by
  obtain ⟨proper, fits⟩ :=
    @bodyDict_fine codec isoformat receipt.bodyJson storable
  have text :
      canonicalDumps codec
          (codec.bodyDict isoformat receipt.bodyJson).ordered =
        some
          (codec.canonical
            (codec.bodyDict isoformat receipt.bodyJson)).toList := by
    rw [canonicalDumps,
      Json.dumpsSorted_eq_some (by rw [Json.intsFit_ordered, fits]),
      Json.ordered_ordered proper, Codec.canonical, String.toList_ofList]
  have signature :
      receipt.signature =
        crypto.sign
          (codec.canonical
            (codec.bodyDict isoformat receipt.bodyJson)).toList := by
    rw [issued]
    rfl
  rw [Codec.verifyObj, text, signature]
  exact crypto.verify_sign _

/-- A key text names a key, and an empty one the issuer's. -/
theorem keyRing_named :
    (Codec.keyRing crypto).named (.string crypto.issuerPubkey) =
      some crypto.issuerPubkey := by
  unfold KeyRing.named
  split <;> rfl

/-- What a signature verifies. -/
theorem signatures_verify (payload : Json) (signature key : String) :
    (codec.signatures crypto).verify key payload signature =
      codec.verifyObj crypto payload signature key :=
  rfl

/-- A receipt of the issuer verifies when its body is signed. -/
theorem verifies_of_signed
    {shown : AnyReceipt}
    {body : Json}
    {signature : String}
    (payload : shown.payload codec.loads none = some body)
    (pubkey : shown.pubkeyHex = .string crypto.issuerPubkey)
    (isSignature : shown.signature = .string signature)
    (signed :
      codec.verifyObj crypto body signature crypto.issuerPubkey = true) :
    codec.verifies crypto shown = some true := by
  unfold Codec.verifies
  refine verifyReceipt_iff.mpr
    ⟨body, crypto.issuerPubkey, signature, payload, ?_, isSignature, ?_⟩
  · rw [pubkey, keyRing_named]
  · rw [signatures_verify, signed]

/-- The key of a receipt that was issued. -/
theorem issued_pubkey
    {args : ReceiptArgs}
    {receipt : Receipt}
    (issued :
      receipt = issuedReceipt (codec.issuing isoformat crypto env) args) :
    receipt.pubkeyHex = crypto.issuerPubkey := by
  rw [issued]
  rfl

/-- A stored receipt that was issued verifies. -/
theorem issued_row_verifies
    {args : ReceiptArgs}
    {receipt : Receipt}
    (issued :
      receipt = issuedReceipt (codec.issuing isoformat crypto env) args)
    (storable : receipt.bodyJson.Storable) :
    codec.verifies crypto
        (.row (codec.storedReceipt isoformat receipt).toReceiptRow) =
      some true := by
  have pubkey := issued_pubkey issued
  exact verifies_of_signed (body_loads storable)
    (congrArg Json.string pubkey) rfl (issued_signature issued storable)

/-- A shown body is not empty. -/
theorem bodyDict_truthy (body : ReceiptBody) :
    (codec.bodyDict isoformat body).ordered.truthy = true := by
  rw [bodyDict_ordered]
  rfl

/-- The dict of a receipt that was issued verifies. -/
theorem issued_dict_verifies
    {args : ReceiptArgs}
    {receipt : Receipt}
    (issued :
      receipt = issuedReceipt (codec.issuing isoformat crypto env) args)
    (storable : receipt.bodyJson.Storable) :
    codec.verifies crypto
        (.dict (codec.shownReceipt isoformat receipt.toDict)) =
      some true := by
  have pubkey := issued_pubkey issued
  have payload :
      (AnyReceipt.dict (codec.shownReceipt isoformat receipt.toDict)).payload
          codec.loads none =
        some (codec.bodyDict isoformat receipt.bodyJson).ordered :=
    congrArg some (if_pos (bodyDict_truthy _))
  exact verifies_of_signed payload (congrArg Json.string pubkey) rfl
    (issued_signature issued storable)

/-- A receipt that was issued shows the fields of its body. -/
theorem issued_shows
    {args : ReceiptArgs}
    {receipt : Receipt}
    (issued :
      receipt = issuedReceipt (codec.issuing isoformat crypto env) args) :
    (AnyReceipt.dict (codec.shownReceipt isoformat receipt.toDict)).ShowsBody
      (codec.bodyDict isoformat receipt.bodyJson).ordered := by
  have sameFields :
      (receipt.id, receipt.mandateId, receipt.agentId, receipt.taskId,
          receipt.reservationId, receipt.tool, receipt.server,
          receipt.amountCents) =
        (receipt.bodyJson.id, receipt.bodyJson.mandateId,
          receipt.bodyJson.agentId, receipt.bodyJson.taskId,
          receipt.bodyJson.reservationId, receipt.bodyJson.tool,
          receipt.bodyJson.server, receipt.bodyJson.amountCents) := by
    rw [issued]
    rfl
  simp only [Prod.mk.injEq] at sameFields
  obtain ⟨id, mandate, agent, task, reservation, tool, server, amount⟩ :=
    sameFields
  rw [bodyDict_ordered]
  unfold AnyReceipt.ShowsBody AnyReceipt.shown
  simp only [Codec.shownReceipt, Receipt.toDict, id, mandate, agent, task,
    reservation, tool, server, amount, List.forall_mem_cons]
  cases receipt.bodyJson.result <;>
    exact ⟨rfl, rfl, rfl, rfl, rfl, rfl, rfl, rfl, List.forall_mem_nil _⟩

/-- A receipt that was issued proves what it shows. -/
theorem issued_dict_issued
    {args : ReceiptArgs}
    {receipt : Receipt}
    (issued :
      receipt = issuedReceipt (codec.issuing isoformat crypto env) args)
    (storable : receipt.bodyJson.Storable) :
    (AnyReceipt.dict (codec.shownReceipt isoformat receipt.toDict)).Issued
      (Codec.keyRing crypto) (codec.signatures crypto) codec.loads :=
  ⟨_, rfl, ⟨receipt.signature, issued_signature issued storable⟩,
    issued_shows issued⟩

end Checks

/-! ## Receipts of a running system -/

/--
In every reachable state a stored receipt verifies as a row, `to_dict` shows it
as a dict that verifies as well, and the dict shows the fields of the body that
was signed.
-/
theorem shown_receipts_verify
    {codec : Codec}
    {isoformat : Datetime → String}
    {crypto : Crypto}
    {env : Env}
    {allowed : Sys → Action → Prop}
    {s : Sys}
    {receipt : Receipt}
    (discipline : Discipline)
    (paired : discipline.paired)
    (keeps : ∀ s action, allowed s action → discipline.Allows action)
    (reachable : Reachable (codec.issuing isoformat crypto env) allowed s)
    (isReceipt : receipt ∈ s.db.receipts.rows)
    (storable : receipt.bodyJson.Storable) :
    ∃ shown,
      (codec.storedReceipt isoformat receipt).toDict codec.loads isoformat =
          .ok shown ∧
        codec.verifies crypto
            (.row (codec.storedReceipt isoformat receipt).toReceiptRow) =
          some true ∧
        codec.verifies crypto (.dict shown) = some true ∧
        (AnyReceipt.dict shown).Issued (Codec.keyRing crypto)
          (codec.signatures crypto) codec.loads := by
  obtain ⟨args, issued⟩ :=
    reachable_issues discipline paired keeps reachable receipt isReceipt
  exact ⟨_, toDict_stored storable, issued_row_verifies issued storable,
    issued_dict_verifies issued storable, issued_dict_issued issued storable⟩

/-- The numbers of the stored receipts and results have texts. -/
structure Db.Storable (db : Db) : Prop where
  receipts :
    ∀ receipt ∈ db.receipts.rows, receipt.bodyJson.Storable
  results :
    ∀ claim ∈ db.idempotencyRecords.rows,
      ∀ result ∈ claim.resultJson, result.Storable

instance (db : Db) : Decidable db.Storable :=
  decidable_of_iff
    ((∀ receipt ∈ db.receipts.rows, receipt.bodyJson.Storable) ∧
      ∀ claim ∈ db.idempotencyRecords.rows,
        ∀ result ∈ claim.resultJson, result.Storable)
    ⟨fun ⟨receipts, results⟩ => ⟨receipts, results⟩,
      fun ⟨receipts, results⟩ => ⟨receipts, results⟩⟩

/--
The answer of a committed operation is replayed from its text, and the receipt
in it is the one that `to_dict` shows, and verifies.
-/
theorem replay_shows_stored_receipt
    {codec : Codec}
    {isoformat : Datetime → String}
    {crypto : Crypto}
    {env : Env}
    {s : Sys}
    {row : Invocation}
    {principalId : Id}
    {key requestHash : String}
    (reachable :
      Reachable (codec.issuing isoformat crypto env)
        (fun _ action => Discipline.api.Allows action) s)
    (storable : s.db.Storable)
    (member : row ∈ s.db.invocations.rows)
    (committed : row.status = .committed)
    (operation : row.operation = some (principalId, key))
    (hashed : truthy row.requestHash = some requestHash) :
    ∃ receipt ∈ s.db.receipts.rows, ∃ shown answer,
      receipt.reservationId = row.reservationId ∧
        (codec.storedReceipt isoformat receipt).toDict codec.loads
            isoformat =
          .ok shown ∧
        StoredClaim.loadIdem codec.loads (some key)
            ((s.db.idempotencyRecords.find (principalId, key)).map
              (codec.storedClaim isoformat))
            requestHash =
          .ok (some answer) ∧
        answer.ok = .bool true ∧
        answer.replayed = .bool true ∧
        answer.receipt = shown.dict ∧
        codec.verifies crypto (.dict shown) = some true := by
  have keeps :
      ∀ (s : Sys) action,
        Discipline.api.Allows action → Discipline.api.Allows action :=
    fun _ _ kept => kept
  have answers :=
    (reachable_answers .api trivial trivial trivial trivial keeps
      reachable).answers row member
  obtain ⟨claim, stored, receipt, claimFor, isStored, ok, isReceipt, ofThis,
    isShown⟩ := (answers.committed committed _ operation).claim
  have receiptStorable := storable.receipts receipt isReceipt
  obtain ⟨args, issued⟩ :=
    reachable_issues .api trivial keeps reachable receipt isReceipt
  have keyed : truthy (some key) = some key := by
    obtain ⟨given, isGiven, same⟩ := Option.map_eq_some_iff.mp operation
    cases same
    exact truthy_some
      (of_decide_eq_true (Option.filter_eq_some_iff.mp isGiven).2)
  have sameHash : ∀ hash ∈ truthy claim.requestHash, hash = requestHash := by
    intro hash isHash
    have given := (Option.filter_eq_some_iff.mp isHash).1
    rw [claimFor.sameHash _ hashed] at given
    exact (Option.some.inj given).symm
  have cached :=
    loadIdem_cached keyed claimFor.found sameHash claimFor.completed isStored
  have loaded :=
    @loadIdem_stored codec isoformat s.db principalId storable.results
      (some key) requestHash
  rw [keyed, Option.bind_some, cached] at loaded
  have shows :
      (codec.resultObject isoformat (replayOf stored)).receipt =
        (codec.shownReceipt isoformat receipt.toDict).dict := by
    simp [Codec.resultObject, replayOf, isShown]
  exact ⟨receipt, isReceipt, _, _, ofThis, toDict_stored receiptStorable,
    loaded, congrArg Json.bool ok, rfl, shows,
    issued_dict_verifies issued receiptStorable⟩

/-- The small deployment with signed texts. -/
def Env.issuing : Env :=
  Codec.plain.issuing (fun _ => "noon") .plain .plain

/-- The receipt of the settled call verifies. -/
theorem shown_receipts_verify_example :
    ∃ s receipt shown,
      Reachable .issuing (fun _ action => Discipline.api.Allows action) s ∧
        receipt ∈ s.db.receipts.rows ∧
        (Codec.plain.storedReceipt (fun _ => "noon") receipt).toDict
            Codec.plain.loads (fun _ => "noon") =
          .ok shown ∧
        Codec.plain.verifies .plain (.dict shown) = some true := by
  have checked :
      (run .issuing Sys.start (deploy ++ settle)).any
          (fun s =>
            s.db.receipts.rows.any fun receipt =>
              decide receipt.bodyJson.Storable) =
        true := by
    decide
  obtain ⟨s, reachable, passes⟩ :=
    reachable_of_check (.routine (by decide) .api _) checked
  obtain ⟨receipt, isReceipt, storable⟩ := List.any_eq_true.mp passes
  obtain ⟨shown, toDict, _, verified, _⟩ :=
    shown_receipts_verify .api trivial (fun _ _ kept => kept) reachable
      isReceipt (of_decide_eq_true storable)
  exact ⟨s, receipt, shown, reachable, isReceipt, toDict, verified⟩

/-- The settled call is replayed with its receipt. -/
theorem replay_shows_stored_receipt_example :
    ∃ s answer,
      Reachable .issuing (fun _ action => Discipline.api.Allows action) s ∧
        StoredClaim.loadIdem Codec.plain.loads (some "key")
            ((s.db.idempotencyRecords.find (1, "key")).map
              (Codec.plain.storedClaim fun _ => "noon"))
            "1|mock|search|\x7b\x7d" =
          .ok (some answer) ∧
        answer.replayed = .bool true := by
  have checked :
      (run .issuing Sys.start (deploy ++ settle)).any
          (fun s =>
            decide s.db.Storable &&
              s.db.invocations.rows.any fun row =>
                row.status = .committed &&
                  decide (row.operation = some (1, "key")) &&
                    decide
                      (truthy row.requestHash =
                        some "1|mock|search|\x7b\x7d")) =
        true := by
    decide
  obtain ⟨s, reachable, passes⟩ :=
    reachable_of_check (.routine (by decide) .api _) checked
  obtain ⟨storable, passes⟩ := Bool.and_eq_true_iff.mp passes
  obtain ⟨row, member, passes⟩ := List.any_eq_true.mp passes
  obtain ⟨passes, hashed⟩ := Bool.and_eq_true_iff.mp passes
  obtain ⟨committed, operation⟩ := Bool.and_eq_true_iff.mp passes
  obtain ⟨receipt, _, shown, answer, _, _, loaded, _, replayed, _⟩ :=
    replay_shows_stored_receipt reachable (of_decide_eq_true storable) member
      (of_decide_eq_true committed) (of_decide_eq_true operation)
      (of_decide_eq_true hashed)
  exact ⟨s, answer, reachable, loaded, replayed⟩

end Crossing
