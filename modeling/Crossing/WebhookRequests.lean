import Crossing.CanonicalText
import Crossing.JsonLoads
import Crossing.WebhookReplay
import Crossing.WebhookSignature

namespace Crossing

open Messaging (IdempotentReceiver)
open Python (Json LoadsError halfText)

/-!
# Requests of Stripe

`stripe_webhook` from the bytes of a request on: its signature is checked
against the bytes, then they are decoded and loaded, and the event is recorded.
Requests that Stripe has not signed change nothing, wherever they stand among
the others, and a signed one is taken for the event it was written for.
-/

/-! ## UTF-8 -/

/-- `payload.decode("utf-8")`; `none` stands for `UnicodeDecodeError`. -/
def decodeUtf8 (payload : List UInt8) : Option String :=
  String.fromUTF8? ⟨payload.toArray⟩

/-- The bytes from a place on. -/
theorem toList_loop (bytes : ByteArray) (place : Nat) (read : List UInt8) :
    ByteArray.toList.loop bytes place read =
      read.reverse ++ bytes.data.toList.drop place := by
  fun_induction ByteArray.toList.loop bytes place read with
  | case1 place read below inductionHypothesis =>
      have inside : place < bytes.data.toList.length := below
      have same : bytes.get! place = bytes.data.toList[place] :=
        getElem!_pos bytes.data place below
      rw [inductionHypothesis, List.drop_eq_getElem_cons inside, same]
      simp
  | case2 place read ended =>
      have past : bytes.data.toList.length ≤ place := Nat.le_of_not_lt ended
      rw [List.drop_eq_nil_of_le past, List.append_nil]

/-- Encoded text is decoded as the text. -/
theorem decodeUtf8_utf8 (text : String) : decodeUtf8 (utf8 text) = some text := by
  have bytes : text.toUTF8.toList = text.toUTF8.data.toList := by
    unfold ByteArray.toList
    rw [toList_loop]
    rfl
  unfold decodeUtf8 utf8 String.fromUTF8?
  rw [bytes]
  exact dif_pos text.isValidUTF8

/-! ## The route -/

/--
A request to `POST /v1/stripe/webhooks`: its bytes and its signature, the two
clocks, and what a `Delivery` takes from outside.
-/
structure WebhookRequest where
  payload : List UInt8
  header : Option String
  clock : Int
  priceId : String
  now : Datetime
  seen : Bool
  seenAgain : Bool
  stopsAt : Option Webhook.Stage

/--
What the route takes from outside.  `loads` is `json.loads`, which reads the
texts of the model as the model does and more texts besides.
-/
structure WebhookSite where
  hmac : HmacSha256
  secret : String
  textOf : Webhook.TextOf
  floats : Python.FloatText
  loads : String → Except LoadsError Json
  loads_value :
    ∀ text value, Json.loads floats text.toList = .ok value →
      loads text = .ok value

/-- The delivery of what was loaded. -/
def WebhookRequest.delivery (request : WebhookRequest) (event : Option Json) :
    Webhook.Delivery where
  verified := true
  payload := event
  priceId := request.priceId
  now := request.now
  seen := request.seen
  seenAgain := request.seenAgain
  stopsAt := request.stopsAt

namespace WebhookSite

variable (site : WebhookSite)

/-- `verify_webhook_signature` as the route calls it. -/
def verify (request : WebhookRequest) : Except PythonError Bool :=
  verifyWebhookSignature site.hmac site.secret request.clock request.payload
    request.header none 300

/-- `stripe_webhook`. -/
def receive (request : WebhookRequest) (store : BillingDb) :
    Webhook.Answer × BillingDb :=
  match site.verify request with
  | .error _ => (.serverError, store)
  | .ok false => (.badRequest "invalid signature", store)
  | .ok true =>
      match (decodeUtf8 request.payload).map site.loads with
      | none => (.badRequest "invalid json", store)
      | some (.error .decode) => (.badRequest "invalid json", store)
      -- Digits that `int` refuses are a `ValueError`, which nothing catches.
      | some (.error _) => (.serverError, store)
      | some (.ok event) =>
          Webhook.stripeWebhook site.textOf (request.delivery (some event))
            store

/-- The event of a request, once its signature is verified. -/
def event (request : WebhookRequest) : Option Json :=
  match site.verify request, (decodeUtf8 request.payload).map site.loads with
  | .ok true, some (.ok event) => some event
  | _, _ => none

/-- A request whose header has the HMAC of its stamp and its bytes. -/
def Genuine (request : WebhookRequest) : Prop :=
  ∃ header ∈ request.header,
    Crossing.Genuine site.hmac request.clock request.payload header
      site.secret 300

end WebhookSite

section Requests

variable {site : WebhookSite} {request : WebhookRequest}

/-- A request is received as the delivery of its event. -/
theorem receive_deliver
    (site : WebhookSite)
    (request : WebhookRequest)
    (store : BillingDb) :
    ((site.receive request store).1.isOk, (site.receive request store).2) =
      (Webhook.receiver site.textOf).deliver
        (request.delivery (site.event request)) store := by
  unfold WebhookSite.receive WebhookSite.event
  cases site.verify request with
  | error exception => rfl
  | ok verified =>
      cases verified with
      | false => rfl
      | true =>
          cases (decodeUtf8 request.payload).map site.loads with
          | none => rfl
          | some loaded =>
              cases loaded with
              | error exception => cases exception <;> rfl
              | ok event => rfl

/-- A header is verified under the secret of the site. -/
theorem verify_given
    {header : String}
    (given : request.header = some header) :
    site.verify request =
      verifyWebhookSignature site.hmac site.secret request.clock
        request.payload (some header) (some site.secret) 300 := by
  rw [WebhookSite.verify, given]
  rfl

/-- Nothing is verified without a secret. -/
theorem verify_unconfigured (unconfigured : site.secret = "") :
    site.verify request = .ok false := by
  unfold WebhookSite.verify verifyWebhookSignature
  exact if_pos (.inr unconfigured)

/-- What is verified is genuine. -/
theorem genuine_of_verified
    (verified : site.verify request = .ok true) :
    site.Genuine request := by
  have configured : site.secret ≠ "" := by
    intro unconfigured
    cases (verify_unconfigured unconfigured).symm.trans verified
  cases given : request.header with
  | none =>
      rw [WebhookSite.verify, given] at verified
      cases verified
  | some header =>
      rw [verify_given given, verifyWebhookSignature_eq configured] at verified
      cases fresh : freshStamp request.clock 300 header with
      | none =>
          rw [fresh] at verified
          cases verified
      | some stamp =>
          rw [fresh] at verified
          have ascii := isAscii_hexdigest
            (site.hmac (utf8 site.secret)
              (utf8 (stamp ++ ".") ++ request.payload))
          by_cases incomparable :
              Incomparable
                (expectedSignature site.hmac request.payload site.secret stamp)
                (valuesOf "v1" (headerParts header))
          · cases (anyDigest_error ascii incomparable).symm.trans verified
          · have answered :=
              (anyDigest_ok ascii incomparable).symm.trans verified
            exact ⟨header, given, stamp, fresh,
              of_decide_eq_true (Except.ok.inj answered)⟩

/-- A request that is not genuine is refused and changes nothing. -/
theorem receive_forged
    (forged : ¬ site.Genuine request)
    (store : BillingDb) :
    (site.receive request store).1.isOk = false ∧
      (site.receive request store).2 = store := by
  have refused : site.verify request ≠ .ok true :=
    fun verified => forged (genuine_of_verified verified)
  unfold WebhookSite.receive
  cases decided : site.verify request with
  | error exception => exact ⟨rfl, rfl⟩
  | ok verified =>
      cases verified with
      | false => exact ⟨rfl, rfl⟩
      | true => exact absurd decided refused

/-- A signed text is received as the event that it was written for. -/
theorem receive_signed
    {text header : String}
    {event : Json}
    {ts : Int}
    (configured : site.secret ≠ "")
    (loaded : Json.loads site.floats text.toList = .ok event)
    (isText : request.payload = utf8 text)
    (given : request.header = some header)
    (signed :
      signWebhookPayload site.hmac request.payload site.secret ts =
        .ok header)
    (fresh : (request.clock - ts).natAbs ≤ 300)
    (store : BillingDb) :
    site.receive request store =
      Webhook.stripeWebhook site.textOf (request.delivery (some event))
        store := by
  have accepted : site.verify request = .ok true := by
    rw [verify_given given]
    exact signed_accepted configured signed (Int.ofNat_le.mpr fresh)
  have read :
      (decodeUtf8 request.payload).map site.loads = some (.ok event) := by
    rw [isText, decodeUtf8_utf8, Option.map_some,
      site.loads_value text event loaded]
  unfold WebhookSite.receive
  rw [accepted, read]

end Requests

/-! ## Sequences of requests -/

/-- The route as a receiver of events, from the bytes on. -/
def WebhookSite.receiver (site : WebhookSite) :
    IdempotentReceiver BillingDb WebhookRequest (Option String) where
  deliver request store :=
    ((site.receive request store).1.isOk, (site.receive request store).2)
  message request := (request.delivery (site.event request)).eventId
  Handled := Webhook.Handled
  failed_unchanged := by
    intro request store failed
    rw [receive_deliver] at failed ⊢
    exact (Webhook.receiver site.textOf).failed_unchanged failed
  repeated_unchanged := by
    intro request store handled
    rw [receive_deliver]
    exact (Webhook.receiver site.textOf).repeated_unchanged handled
  succeeded_handles := by
    intro request store success
    rw [receive_deliver] at success ⊢
    exact (Webhook.receiver site.textOf).succeeded_handles success

open Classical in
/-- Requests that are not genuine may be left out of a sequence. -/
theorem run_genuine
    (site : WebhookSite)
    (start : BillingDb)
    (requests : List WebhookRequest) :
    let genuine := requests.filter fun request => site.Genuine request
    site.receiver.run start genuine = site.receiver.run start requests ∧
      site.receiver.succeeded start genuine =
        site.receiver.succeeded start requests := by
  refine site.receiver.run_filter ?_ start requests
  intro request store forged
  exact (receive_forged (of_decide_eq_false forged) store).1

open Classical in
/--
Only what Stripe has signed counts.  A sequence of requests ends in the state
of the first successful ones among those that are genuine; an event has one row
when such a request has carried it or it was there before, and none otherwise;
and a request with a JSON text of an event, signed within the tolerance, is
taken for the event.
-/
theorem webhook_requests_authentic
    (site : WebhookSite)
    (configured : site.secret ≠ "")
    (start : BillingDb)
    (requests : List WebhookRequest) :
    let genuine := requests.filter fun request => site.Genuine request
    site.receiver.run start
        (site.receiver.firstSuccesses [] start genuine) =
      site.receiver.run start requests ∧
    (∀ eventId,
      (site.receiver.run start requests).stripeEvents.countWhere
          (fun row => row.eventId = eventId) =
        if (start.stripeEvents.find eventId).isSome = true ∨
            some eventId ∈ site.receiver.succeeded start genuine then
          1
        else
          0) ∧
    ∀ (request : WebhookRequest) (text header : String) event ts store,
      Json.loads site.floats text.toList = .ok event →
        request.payload = utf8 text →
          request.header = some header →
            signWebhookPayload site.hmac request.payload site.secret ts =
                .ok header →
              (request.clock - ts).natAbs ≤ 300 →
                site.receive request store =
                  Webhook.stripeWebhook site.textOf
                    (request.delivery (some event)) store := by
  intro genuine
  obtain ⟨sameRun, sameSuccesses⟩ := run_genuine site start requests
  refine ⟨?_, ?_, ?_⟩
  · rw [← sameRun]
    exact site.receiver.run_firstSuccesses (by simp) genuine
  · intro eventId
    have handledIff (store : BillingDb) :
        site.receiver.Handled store (some eventId) ↔
          (store.stripeEvents.find eventId).isSome = true := by
      simp [WebhookSite.receiver, Webhook.Handled]
    have handled :
        ((site.receiver.run start requests).stripeEvents.find eventId).isSome =
            true ↔
          (start.stripeEvents.find eventId).isSome = true ∨
            some eventId ∈ site.receiver.succeeded start genuine := by
      rw [← handledIff, ← handledIff, sameSuccesses]
      exact site.receiver.handled_run start requests (some eventId)
    simp only [← handled]
    exact Relational.Table.countWhere_key _ eventId
  · intro request text header event ts store loaded isText given signed fresh
    exact receive_signed configured loaded isText given signed fresh store

/-- A text of an event with an id and nothing else. -/
def bareEventText : String := "\x7b\"id\": \"evt_1\"\x7d"

/-- The HMAC of `whsec` for the stamp 1000 and this text. -/
def bareEventHmac : HmacSha256 := fun _ _ =>
  #v[129, 126, 81, 254, 193, 15, 166, 138, 15, 96, 125, 4, 63, 229, 134, 224,
    124, 118, 145, 209, 214, 147, 83, 214, 246, 92, 111, 141, 15, 36, 109, 48]

/-- The header of Stripe for it. -/
def bareEventHeader : String :=
  "t=1000,v1=817e51fec10fa68a0f607d043fe586e0" ++
    "7c7691d1d69353d6f65c6f8d0f246d30"

/-- A site with the secret `whsec`. -/
def WebhookSite.sample : WebhookSite where
  hmac := bareEventHmac
  secret := "whsec"
  textOf _ := ""
  floats := halfText
  loads text := Json.loads halfText text.toList
  loads_value _ _ loaded := loaded

/-- The event as it is sent with a header. -/
def bareEventRequest (header : String) : WebhookRequest where
  payload := utf8 bareEventText
  header := some header
  clock := 1000
  priceId := ""
  now := ⟨0, none⟩
  seen := true
  seenAgain := true
  stopsAt := none

/-- A forged request, the signed one, and the signed one again. -/
def bareEventRequests : List WebhookRequest :=
  [bareEventRequest "t=1000,v1=00", bareEventRequest bareEventHeader,
    bareEventRequest bareEventHeader]

/--
The forged request is refused, and the signed one is taken for its event, which
has one row after it was sent twice.
-/
theorem webhook_requests_authentic_example :
    WebhookSite.sample.secret ≠ "" ∧
      (WebhookSite.sample.receive (bareEventRequest "t=1000,v1=00")
          Webhook.oneCustomer).1 =
        .badRequest "invalid signature" ∧
      WebhookSite.sample.receive (bareEventRequest bareEventHeader)
          Webhook.oneCustomer =
        Webhook.stripeWebhook (fun _ => "")
          ((bareEventRequest bareEventHeader).delivery
            (some (.object [("id", .string "evt_1")])))
          Webhook.oneCustomer ∧
      (WebhookSite.sample.receiver.run Webhook.oneCustomer
            bareEventRequests).stripeEvents.countWhere
          (fun row => row.eventId = "evt_1") =
        1 := by
  have configured : WebhookSite.sample.secret ≠ "" := by decide
  have loaded :
      Json.loads halfText bareEventText.toList =
        .ok (.object [("id", .string "evt_1")]) := by
    decide +kernel
  have signed :
      signWebhookPayload bareEventHmac (utf8 bareEventText) "whsec" 1000 =
        .ok bareEventHeader := by
    decide +kernel
  have refused :
      (WebhookSite.sample.receive (bareEventRequest "t=1000,v1=00")
          Webhook.oneCustomer).1 =
        .badRequest "invalid signature" := by
    decide +kernel
  obtain ⟨_, rows, taken⟩ :=
    webhook_requests_authentic WebhookSite.sample configured
      Webhook.oneCustomer bareEventRequests
  have asEvent (store : BillingDb) :=
    taken (bareEventRequest bareEventHeader) bareEventText bareEventHeader _
      1000 store loaded rfl rfl signed (by decide)
  refine ⟨configured, refused, asEvent Webhook.oneCustomer, ?_⟩
  rw [rows "evt_1"]
  refine if_pos (.inr ?_)
  rw [(run_genuine _ _ _).2]
  decide +kernel

end Crossing
