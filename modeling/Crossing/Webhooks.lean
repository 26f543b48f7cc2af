import Crossing.Billing
import Crossing.IdempotentReceiver
import Crossing.JsonValue

namespace Crossing

open Relational
open Relational.Transaction
open Python (Json)

/-!
# Stripe webhooks

`stripe_webhook` of `api.py` and the functions of `billing.py` it runs in one
session.  They use two columns of `accounts` and the table of processed events,
which no other modelled function reads, so these stand beside the database.

A delivery may stop at any of its statements.  Its session is then rolled back,
and Stripe sends the event again.
-/

/-- `stripe_events`. -/
structure StripeEvent where
  eventId : String
  type : String
  accountId : Option Id
  createdAt : Datetime
  deriving Repr, DecidableEq

instance : Keyed StripeEvent String := ⟨StripeEvent.eventId⟩

/-- The columns of `accounts` that only the webhook writes. -/
structure PlanColumns where
  stripeSubscriptionId : Option String
  stripePriceId : Option String
  deriving Repr, DecidableEq

/-- The database with the plan columns and the processed events. -/
structure BillingDb where
  db : Db
  plans : Id → PlanColumns
  stripeEvents : Table StripeEvent

namespace Webhook

/-- The exceptions of a delivery. -/
inductive Failure where
  | valueError (text : String)
  | attributeError
  | integrityError
  | stopped
  deriving Repr, DecidableEq

/-- A transaction body over the billing tables. -/
abbrev BillingBody := Transaction BillingDb Failure

/-- Where a delivery may stop. -/
inductive Stage where
  | inserted
  | applied
  | linked
  deriving Repr, DecidableEq

/--
A request to `POST /v1/stripe/webhooks`, with what it takes from the
environment and the clock.  `seen` and `seenAgain` tell whether the two lookups
of the event see a row that an overlapping delivery has committed.
-/
structure Delivery where
  verified : Bool
  payload : Option Json
  priceId : String
  now : Datetime
  seen : Bool
  seenAgain : Bool
  stopsAt : Option Stage
  deriving DecidableEq

/-- `str(value)` of the type of an event. -/
abbrev TextOf := Json → String

/-! ## The fields of an event -/

/-- `value or {}`. -/
def orEmpty (value : Json) : Json :=
  if value.truthy then value else .object []

/-- `(event.get("data") or {}).get("object") or {}`. -/
def eventObject (event : Json) : Option Json := do
  let data ← event.get "data"
  let object ← (orEmpty data).get "object"
  some (orEmpty object)

/-- `_customer_from_event`, when the object is a dict. -/
def customerOf (object : Json) : Option (Option String) := do
  let named : Option String ←
    match ← object.get "customer" with
    | .string customer => some (truthy (some customer))
    | _ => some none
  match named with
  | some customer => some (some customer)
  | none =>
      if (← object.get "object").same (.string "customer") then
        match ← object.get "id" with
        | .string id => some (some id)
        | _ => some none
      else
        some none

/-- `_customer_from_event`. -/
def customerFromEvent (event : Json) : Option (Option String) := do
  let object ← eventObject event
  match object with
  | .object _ => customerOf object
  | _ => some none

/-- The event types that carry a plan. -/
def billingTypes : List String :=
  ["invoice.paid", "invoice.payment_succeeded", "checkout.session.completed"]

/-- The test of `apply_stripe_event` on `event.get("type") or ""`. -/
def carriesPlan (event : Json) : Option Bool := do
  let type ← event.get "type"
  if type.truthy then
    match type with
    | .string type =>
        some
          (type.startsWith "customer.subscription" || type ∈ billingTypes)
    | _ => none
  else
    some false

/-- The string that a value is, if it is one. -/
def stringOf : Json → Option String
  | .string text => some text
  | _ => none

/-- The subscription of an object. -/
def subscriptionOf (object : Json) : Option Json := do
  if (← object.get "object").same (.string "subscription") then
    object.get "id"
  else
    object.get "subscription"

/-- The price of the first item. -/
def itemPrice (object : Json) : Option Json := do
  let items ← object.get "items"
  let data : Json :=
    match orEmpty items with
    | .object fields => (Json.field? (.object fields) "data").getD .null
    | _ => .null
  match data with
  | .array (first :: _) => do
      let price ← (orEmpty first).get "price"
      match orEmpty price with
      | .object fields => (Json.object fields).get "id"
      | _ => some .null
  | _ => some .null

/-- The price of an object: that of the first item, else of the plan. -/
def priceOf (object : Json) : Option Json := do
  let price ← itemPrice object
  if price.truthy then
    some price
  else
    match ← object.get "plan" with
    | .object fields => (Json.object fields).get "id"
    | _ => some .null

/-! ## Recording and applying -/

/-- `select(Account)` by its Stripe customer. -/
def accountOf (store : BillingDb) (customer : String) : Option Account :=
  store.db.accounts.rows.find? fun row => row.stripeCustomerId = some customer

/-- `if isinstance(status, str): account.stripe_status = status`. -/
def assignStatus (account : Account) (status : Option String) :
    BillingBody Unit :=
  match status with
  | none => pure ()
  | some status =>
      modify fun store =>
        { store with
          db.accounts := store.db.accounts.modify account.id fun row =>
            { row with stripeStatus := some status } }

/-- Assign a string, if there is one, to a plan column of an account. -/
def assignPlan
    (account : Account)
    (change : String → PlanColumns → PlanColumns)
    (text : Option String) :
    BillingBody Unit :=
  match text with
  | none => pure ()
  | some text =>
      modify fun store =>
        { store with
          plans :=
            Function.update store.plans account.id
              (change text (store.plans account.id)) }

/-- The price that an event sets: its own, else the configured one. -/
def chosenPrice (price : Json) (priceId : String) : Option String :=
  match stringOf price with
  | some price => some price
  | none => truthy (some priceId)

/-- The assignments of `apply_stripe_event`. -/
def applyFields
    (account : Account)
    (object : Json)
    (priceId : String) :
    BillingBody Unit := do
  let status ← orRaise .attributeError (object.get "status")
  assignStatus account (stringOf status)
  let subscription ← orRaise .attributeError (subscriptionOf object)
  assignPlan account
    (fun text plan => { plan with stripeSubscriptionId := some text })
    (stringOf subscription)
  let price ← orRaise .attributeError (priceOf object)
  assignPlan account
    (fun text plan => { plan with stripePriceId := some text })
    (chosenPrice price priceId)

/-- The assignments, when the type of the event carries a plan. -/
def applyWhen
    (carries : Bool)
    (account : Account)
    (object : Json)
    (priceId : String) :
    BillingBody Unit :=
  if carries then applyFields account object priceId else pure ()

/-- `apply_stripe_event`. -/
def applyStripeEvent
    (event : Json)
    (priceId : String) :
    BillingBody (Option Account) := do
  let customer ← orRaise .attributeError (customerFromEvent event)
  match truthy customer with
  | none => pure none
  | some customer => do
      let store ← get
      match accountOf store customer with
      | none => pure none
      | some account => do
          let object ← orRaise .attributeError (eventObject event)
          let carries ← orRaise .attributeError (carriesPlan event)
          applyWhen carries account object priceId
          pure (some account)

/-- The INSERT of the event. -/
def insertEvent (row : StripeEvent) : BillingBody Unit := do
  let store ← get
  let inserted ← orRaise .integrityError (store.stripeEvents.insert? row)
  set { store with stripeEvents := inserted }

/-- `row.account_id = account.id`. -/
def linkAccount (eventId : String) (account : Option Account) :
    BillingBody Unit :=
  match account with
  | none => pure ()
  | some account =>
      modify fun store =>
        { store with
          stripeEvents := store.stripeEvents.modify eventId fun row =>
            { row with accountId := some account.id } }

/-- The id of an event, as `record_stripe_event` takes it. -/
def eventId? (event : Json) : Option String :=
  (event.get "id").bind fun id => truthy (stringOf id)

/-- `event.get("type") or ""`, as text. -/
def typeText (textOf : TextOf) (event : Json) : String :=
  match event.get "type" with
  | some (.string type) => type
  | some type => if type.truthy then textOf type else ""
  | none => ""

/-- Stop when the delivery stops here. -/
def passes (delivery : Delivery) (stage : Stage) : BillingBody Unit :=
  raiseWhen (delivery.stopsAt = some stage) .stopped

/-- `session.get(StripeEvent, event_id)`, which may miss a recent row. -/
def lookUp (sees : Bool) (eventId : String) : BillingBody Bool :=
  (fun store => sees && (store.stripeEvents.find eventId).isSome) <$> get

/-- The INSERT in its savepoint, and what a taken id leads to. -/
def insertOnce (delivery : Delivery) (row : StripeEvent) : BillingBody Bool :=
  tryCatch
    (savepoint ((fun _ => true) <$> insertEvent row))
    fun
      | .integrityError => do
          if ← lookUp delivery.seenAgain row.eventId then
            pure false
          else
            throw .integrityError
      | failure => throw failure

/-- `record_stripe_event`: whether the event was inserted. -/
def recordStripeEvent
    (textOf : TextOf)
    (event : Json)
    (delivery : Delivery) :
    BillingBody Bool := do
  let eventId ← orRaise (.valueError "missing event id") (eventId? event)
  if ← lookUp delivery.seen eventId then
    pure false
  else do
    let row : StripeEvent :=
      { eventId := eventId
        type := typeText textOf event
        accountId := none
        createdAt := delivery.now }
    if ← insertOnce delivery row then do
      passes delivery .inserted
      let account ← applyStripeEvent event delivery.priceId
      passes delivery .applied
      linkAccount eventId account
      passes delivery .linked
      pure true
    else
      pure false

/-! ## The route -/

/-- The response to a delivery. -/
inductive Answer where
  | ok (duplicate : Bool)
  | badRequest (detail : String)
  | serverError
  deriving Repr, DecidableEq

/-- Stripe takes the event as delivered. -/
def Answer.isOk : Answer → Bool
  | .ok _ => true
  | _ => false

/-- What the route makes of the outcome of its session. -/
def answerTo : Except Failure Bool → Answer
  | .ok inserted => .ok (!inserted)
  | .error .integrityError => .ok true
  | .error (.valueError text) => .badRequest text
  | .error _ => .serverError

/-- `isinstance(event, dict) and event.get("id")`. -/
def hasId (event : Json) : Bool :=
  (event.get "id").any Json.truthy

/-- `stripe_webhook`: a session that raises is rolled back. -/
def stripeWebhook
    (textOf : TextOf)
    (delivery : Delivery)
    (store : BillingDb) :
    Answer × BillingDb :=
  if delivery.verified = false then
    (.badRequest "invalid signature", store)
  else
    match delivery.payload with
    | none => (.badRequest "invalid json", store)
    | some event =>
        if hasId event = false then
          (.badRequest "missing event id", store)
        else
          let (outcome, store') :=
            exec (savepoint (recordStripeEvent textOf event delivery)) store
          (answerTo outcome, store')

end Webhook

end Crossing
