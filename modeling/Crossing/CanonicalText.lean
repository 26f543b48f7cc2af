import Crossing.Idempotency
import Crossing.JsonOrder
import Crossing.Runs

namespace Crossing

open Python

/-!
# Canonical text

`canonical_dumps`, `payload_hash` and `request_fingerprint` on the text that is
hashed.  The text of a request determines the request up to the order of keys,
so an operation key stands for one request.
-/

/-- The texts of ids and of floats. -/
structure Codec where
  floats : FloatText
  idText : Id → String
  idText_injective : Function.Injective idText

/-- SHA-256 and the issuer's Ed25519 key, on text. -/
structure Crypto where
  digest : List Char → String
  digest_nonempty : ∀ text, digest text ≠ ""
  issuerPubkey : String
  sign : List Char → String
  verify : List Char → String → String → Bool
  verify_sign : ∀ text, verify text (sign text) issuerPubkey = true

/-- `canonical_dumps`; `none` stands for `ValueError`. -/
def canonicalDumps (codec : Codec) (obj : Json) : Option (List Char) :=
  obj.dumpsSorted codec.floats

/-- `payload_hash`. -/
def payloadHash (codec : Codec) (crypto : Crypto) (obj : Json) :
    Option String :=
  (canonicalDumps codec obj).map crypto.digest

/-! ## Requests -/

/-- A request of `invoke` with its arguments as they were sent. -/
structure SentRequest where
  mandateId : Id
  server : String
  tool : String
  arguments : Option (List (String × Json))

namespace SentRequest

/-- `arguments or {}`. -/
def given (request : SentRequest) : List (String × Json) :=
  request.arguments.getD []

/-- The dict that `request_fingerprint` hashes. -/
def body (codec : Codec) (request : SentRequest) : Json :=
  .object
    [("mandate_id", .string (codec.idText request.mandateId)),
      ("server", .string request.server),
      ("tool", .string request.tool),
      ("arguments", .object request.given)]

/-- `request_fingerprint`. -/
def fingerprint (codec : Codec) (crypto : Crypto) (request : SentRequest) :
    Option String :=
  payloadHash codec crypto (request.body codec)

/-- The arguments are a dict of Python whose integers have texts. -/
def Sendable (codec : Codec) (request : SentRequest) : Prop :=
  Json.Fine codec.floats (.object request.given)

/-- Two requests that differ at most in the order of keys. -/
structure Same (left right : SentRequest) : Prop where
  mandate : left.mandateId = right.mandateId
  server : left.server = right.server
  tool : left.tool = right.tool
  arguments :
    ∀ path,
      (Json.object left.given).view path = (Json.object right.given).view path

variable {codec : Codec} {crypto : Crypto} {left right request : SentRequest}

/-- The keys of the hashed dict are distinct. -/
theorem body_distinct (request : SentRequest) :
    ([("mandate_id", .string (codec.idText request.mandateId)),
        ("server", .string request.server),
        ("tool", .string request.tool),
        ("arguments", .object request.given)] :
          List (String × Json)).map Prod.fst |>.Nodup := by
  simp

/-- The hashed dict is a value of Python whose integers have texts. -/
theorem body_fine (sendable : request.Sendable codec) :
    Json.Fine codec.floats (request.body codec) := by
  refine Json.fine_object (body_distinct request) ?_
  simp only [List.forall_mem_cons]
  exact ⟨⟨trivial, rfl⟩, ⟨trivial, rfl⟩, ⟨trivial, rfl⟩, sendable,
    List.forall_mem_nil _⟩

/-- No path tells two hashed dicts apart just when the requests are the same. -/
theorem view_body_iff :
    (∀ path, (left.body codec).view path = (right.body codec).view path) ↔
      left.Same right := by
  have key (request : SentRequest) (text : String) (path : List Json.Step) :
      (request.body codec).view (.key text :: path) =
        (([("mandate_id", .string (codec.idText request.mandateId)),
            ("server", .string request.server),
            ("tool", .string request.tool),
            ("arguments", .object request.given)] :
              List (String × Json)).lookup text).bind (Json.view · path) :=
    rfl
  constructor
  · intro same
    refine ⟨?_, ?_, ?_, fun path => same (.key "arguments" :: path)⟩
    · have shapes := Option.some.inj (same [.key "mandate_id"])
      simp only [Json.shape, Json.Shape.leaf.injEq, Json.string.injEq]
        at shapes
      exact codec.idText_injective shapes
    · have shapes := Option.some.inj (same [.key "server"])
      simpa only [Json.shape, Json.Shape.leaf.injEq, Json.string.injEq]
        using shapes
    · have shapes := Option.some.inj (same [.key "tool"])
      simpa only [Json.shape, Json.Shape.leaf.injEq, Json.string.injEq]
        using shapes
  · intro same path
    cases path with
    | nil => rfl
    | cons step path =>
        cases step with
        | index position => rfl
        | key text =>
            rw [key, key, same.mandate, same.server, same.tool]
            simp only [List.lookup_cons, List.lookup_nil]
            split
            · rfl
            · split
              · rfl
              · split
                · rfl
                · split
                  · exact same.arguments path
                  · rfl

/-- The text that `request_fingerprint` hashes. -/
def text (codec : Codec) (request : SentRequest) : List Char :=
  (request.body codec).ordered.write codec.floats []

/-- A request that can be sent is hashed. -/
theorem fingerprint_eq (sendable : request.Sendable codec) :
    request.fingerprint codec crypto =
      some (crypto.digest (request.text codec)) := by
  rw [fingerprint, payloadHash, canonicalDumps,
    Json.dumpsSorted_eq_some (body_fine sendable).2]
  rfl

/-- The hashed texts are equal just when the requests are the same. -/
theorem text_eq_iff
    (leftSendable : left.Sendable codec)
    (rightSendable : right.Sendable codec) :
    left.text codec = right.text codec ↔ left.Same right := by
  obtain ⟨leftProper, leftFits⟩ := body_fine leftSendable
  obtain ⟨rightProper, rightFits⟩ := body_fine rightSendable
  exact (Json.dumpsSorted_inj leftProper rightProper
    (Json.dumpsSorted_eq_some leftFits)
    (Json.dumpsSorted_eq_some rightFits)).trans view_body_iff

/--
Two requests have one fingerprint just when they name the same mandate, server
and tool and no path tells their arguments apart, as far as the hash does not
collide on their two texts.
-/
theorem fingerprint_identifies_request
    (leftSendable : left.Sendable codec)
    (rightSendable : right.Sendable codec)
    (separates :
      crypto.digest (left.text codec) = crypto.digest (right.text codec) →
        left.text codec = right.text codec) :
    left.fingerprint codec crypto = right.fingerprint codec crypto ↔
      left.Same right := by
  rw [fingerprint_eq leftSendable, fingerprint_eq rightSendable,
    Option.some.injEq]
  constructor
  · intro same
    exact (text_eq_iff leftSendable rightSendable).mp (separates same)
  · intro same
    rw [(text_eq_iff leftSendable rightSendable).mpr same]

end SentRequest

/-! ## A small codec -/

/-- Ids in digits. -/
def Codec.plain : Codec where
  floats := halfText
  idText := Nat.repr
  idText_injective := by
    intro left right same
    have digits := congrArg String.toList same
    rw [Nat.toList_repr, Nat.toList_repr] at digits
    rw [← Nat.ofDigitChars_ten_toDigits (n := left), digits,
      Nat.ofDigitChars_ten_toDigits]

/-- Hashes that keep the text, and signatures that do as well. -/
def Crypto.plain : Crypto where
  digest text := .ofList ('#' :: text)
  digest_nonempty text := by simp
  issuerPubkey := "issuer"
  sign := .ofList
  verify text signature pubkey :=
    signature = .ofList text && pubkey = "issuer"
  verify_sign := by simp

/-- A request with two arguments. -/
def SentRequest.forward : SentRequest where
  mandateId := 1
  server := "mock"
  tool := "search"
  arguments := some [("q", .string "x"), ("k", .float (.finite (1 / 2)))]

/-- The same request with its arguments in another order. -/
def SentRequest.backward : SentRequest :=
  { SentRequest.forward with
    arguments := some [("k", .float (.finite (1 / 2))), ("q", .string "x")] }

/-- The fingerprints of the two requests. -/
theorem fingerprint_identifies_request_example :
    SentRequest.forward.fingerprint .plain .plain =
        SentRequest.backward.fingerprint .plain .plain ↔
      SentRequest.forward.Same .backward := by
  have half : halfText.Denoted (1 / 2) := ⟨"0.5".toList, rfl⟩
  refine SentRequest.fingerprint_identifies_request ?_ ?_ ?_
  · exact ⟨⟨by decide, trivial, half, trivial⟩, by decide⟩
  · exact ⟨⟨by decide, half, trivial, trivial⟩, by decide⟩
  · intro same
    exact List.tail_eq_of_cons_eq (String.ofList_injective same)

/-! ## Requests of a running system -/

namespace Codec

variable (codec : Codec) (crypto : Crypto)

/-- The canonical text of a value, as arguments are passed on. -/
def canonical (obj : Json) : JsonText :=
  .ofList (obj.ordered.write codec.floats [])

/-- The text that is hashed for a request, around that of its arguments. -/
def requestText
    (mandateId : Id)
    (server tool : String)
    (arguments : JsonText) :
    List Char :=
  let field (key : String) (value rest : List Char) :=
    Json.quote key ++ ':' :: (value ++ rest)
  '{' ::
    field "arguments" arguments.toList
      (',' ::
        field "mandate_id" (Json.quote (codec.idText mandateId))
          (',' ::
            field "server" (Json.quote server)
              (',' :: field "tool" (Json.quote tool) ['}'])))

/-- The environment whose requests are hashed as `request_fingerprint` does. -/
def hashing (env : Env) : Env :=
  { env with
    hashRequest := fun mandateId server tool arguments =>
      crypto.digest (codec.requestText mandateId server tool arguments) }

/-- The hashes of requests are hashes. -/
theorem hashing_hashes (env : Env) : (codec.hashing crypto env).Hashes :=
  fun _ => crypto.digest_nonempty _

/-- The keyword arguments of `invoke` for a request that was sent. -/
structure Sends
    (sent : SentRequest)
    (request : InvokeRequest) :
    Prop where
  mandate : request.mandateId = sent.mandateId
  server : request.server = sent.server
  tool : request.tool = sent.tool
  payload : request.payload = codec.canonical (.object sent.given)

variable {codec crypto} {sent sent' : SentRequest} {request : InvokeRequest}

/-- The hashed text, around that of the arguments, is that of the dict. -/
theorem requestText_eq (sent : SentRequest) :
    codec.requestText sent.mandateId sent.server sent.tool
        (codec.canonical (.object sent.given)) =
      sent.text codec := by
  have before (left right : String × Json) :
      Json.keyLe left right ↔ left.1 ≤ right.1 := Iff.rfl
  have sorted :
      (sent.body codec).ordered =
        .object
          [("arguments", .object (Json.orderedFields sent.given)),
            ("mandate_id", .string (codec.idText sent.mandateId)),
            ("server", .string sent.server),
            ("tool", .string sent.tool)] := by
    simp [SentRequest.body, Json.ordered, Json.orderedFields, before]
  unfold SentRequest.text
  rw [sorted]
  simp [requestText, canonical, Json.write, Json.writeFields, Json.ordered]

/-- The fingerprint of a request is that of what was sent. -/
theorem Sends.fingerprint
    (sends : codec.Sends sent request)
    (env : Env) :
    requestFingerprint (codec.hashing crypto env) request =
      crypto.digest (sent.text codec) := by
  have hashed :
      requestFingerprint (codec.hashing crypto env) request =
        crypto.digest
          (codec.requestText request.mandateId request.server request.tool
            request.payload) :=
    rfl
  rw [hashed, sends.mandate, sends.server, sends.tool, sends.payload,
    requestText_eq]

end Codec

/--
Two positive answers under one operation key of one principal answer the same
request, up to the order of keys in its arguments, with the same receipt.
-/
theorem one_request_per_operation
    {codec : Codec}
    {crypto : Crypto}
    {env : Env}
    {s : Sys}
    {sent sent' : SentRequest}
    {request request' : InvokeRequest}
    {result result' : InvokeResult}
    {key : String}
    {principalId : Id}
    (reachable :
      Reachable (codec.hashing crypto env)
        (fun _ action => Discipline.idempotent.Allows action) s)
    (answered : .answered request result ∈ s.log)
    (succeeded : result.ok = true)
    (keyed : truthy request.idempotencyKey = some key)
    (ofPrincipal : OfPrincipal s.db request principalId)
    (answered' : .answered request' result' ∈ s.log)
    (succeeded' : result'.ok = true)
    (keyed' : truthy request'.idempotencyKey = some key)
    (ofPrincipal' : OfPrincipal s.db request' principalId)
    (sends : codec.Sends sent request)
    (sends' : codec.Sends sent' request')
    (sendable : sent.Sendable codec)
    (sendable' : sent'.Sendable codec)
    (separates :
      crypto.digest (sent.text codec) = crypto.digest (sent'.text codec) →
        sent.text codec = sent'.text codec) :
    sent.Same sent' ∧
      result.receipt = result'.receipt ∧
      result.reservationId = result'.reservationId ∧
      result.amountCents = result'.amountCents := by
  have remembered :=
    reachable_remembered .idempotent (codec.hashing_hashes crypto env)
      trivial trivial (fun _ _ kept => kept) reachable
  have atKey
      {request : InvokeRequest}
      {result : InvokeResult}
      (answered : .answered request result ∈ s.log)
      (succeeded : result.ok = true)
      (keyed : truthy request.idempotencyKey = some key)
      (ofPrincipal : OfPrincipal s.db request principalId) :
      ∃ claim,
        s.db.idempotencyRecords.find (principalId, key) = some claim ∧
          Remembers (codec.hashing crypto env) claim request result := by
    obtain ⟨mandate, claim, isMandate, found, remembers⟩ :=
      remembered request result key answered succeeded keyed
    obtain ⟨mandate', isMandate', rfl⟩ := ofPrincipal
    cases isMandate.symm.trans isMandate'
    exact ⟨claim, found, remembers⟩
  obtain ⟨claim, found, remembers⟩ :=
    atKey answered succeeded keyed ofPrincipal
  obtain ⟨claim', found', remembers'⟩ :=
    atKey answered' succeeded' keyed' ofPrincipal'
  cases found.symm.trans found'
  constructor
  · have sameHash := remembers.sameHash.symm.trans remembers'.sameHash
    rw [sends.fingerprint, sends'.fingerprint, Option.some.injEq] at sameHash
    exact (SentRequest.text_eq_iff sendable sendable').mp
      (separates sameHash)
  · obtain ⟨stored, isStored, _, receipt, reservation, amount⟩ :=
      remembers.answer
    obtain ⟨stored', isStored', _, receipt', reservation', amount'⟩ :=
      remembers'.answer
    cases isStored.symm.trans isStored'
    exact ⟨receipt.symm.trans receipt', reservation.symm.trans reservation',
      amount.symm.trans amount'⟩

/-- The small deployment with hashed texts. -/
def Env.hashed : Env :=
  Codec.plain.hashing .plain .plain

/-- The call of the small deployment, as it was sent. -/
def SentRequest.plain : SentRequest where
  mandateId := 1
  server := "mock"
  tool := "search"
  arguments := none

/-- The call, settled and repeated with another nonce. -/
theorem one_request_per_operation_example :
    ∃ s result result',
      Reachable .hashed (fun _ action => Discipline.idempotent.Allows action)
          s ∧
        .answered call result ∈ s.log ∧
        .answered { call with nonce := some "again" } result' ∈ s.log ∧
        SentRequest.plain.Same .plain ∧
        result.receipt = result'.receipt := by
  have checked :
      (run .hashed Sys.start
          (deploy ++ settle ++
            [.invoke [] { call with nonce := some "again" }
              (drawTen 2)])).any
          (fun s =>
            (s.db.mandates.find 1).any (fun row => row.principalId = 1) &&
              s.log.any
                (fun
                  | .answered request result =>
                      request = call && result.ok
                  | _ => false) &&
              s.log.any
                (fun
                  | .answered request result =>
                      request = { call with nonce := some "again" } &&
                        result.ok
                  | _ => false)) =
        true := by
    decide
  obtain ⟨s, reachable, passes⟩ :=
    reachable_of_check (.routine (by decide) .idempotent _) checked
  obtain ⟨passes, hasAgain⟩ := Bool.and_eq_true_iff.mp passes
  obtain ⟨hasMandate, hasCall⟩ := Bool.and_eq_true_iff.mp passes
  obtain ⟨mandate, found, isFirst⟩ := (Option.any_eq_true _ _).mp hasMandate
  obtain ⟨entry, answered, isCall⟩ := List.any_eq_true.mp hasCall
  obtain ⟨entry', answered', isAgain⟩ := List.any_eq_true.mp hasAgain
  cases entry <;> try cases isCall
  cases entry' <;> try cases isAgain
  case answered.answered request result request' result' =>
    obtain ⟨sameCall, succeeded⟩ := Bool.and_eq_true_iff.mp isCall
    obtain ⟨sameAgain, succeeded'⟩ := Bool.and_eq_true_iff.mp isAgain
    cases of_decide_eq_true sameCall
    cases of_decide_eq_true sameAgain
    have ofPrincipal : OfPrincipal s.db call 1 :=
      ⟨mandate, found, of_decide_eq_true isFirst⟩
    have sendable : SentRequest.plain.Sendable .plain :=
      ⟨⟨by decide, trivial⟩, by decide⟩
    obtain ⟨same, receipt, _⟩ :=
      one_request_per_operation reachable answered succeeded rfl ofPrincipal
        answered' succeeded' rfl ofPrincipal ⟨rfl, rfl, rfl, by decide⟩
        ⟨rfl, rfl, rfl, by decide⟩ sendable sendable fun _ => rfl
    exact ⟨s, result, result', reachable, answered, answered', same,
      receipt⟩

end Crossing
