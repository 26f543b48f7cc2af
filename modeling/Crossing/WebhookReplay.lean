import Crossing.Runs
import Crossing.Webhooks

namespace Crossing.Webhook

open Relational
open Relational.Transaction
open Messaging (IdempotentReceiver)
open Python (Json)

/-!
# Replayed webhooks

A delivery either leaves the store alone, or it records an event that was not
recorded and sets the Stripe fields of one account in the same transaction.
So the route is an idempotent receiver of events, named by their ids.
-/

/-- The Stripe status is set or kept; no other column of an account is. -/
def StatusSet (account : Account) (db db' : Db) : Prop :=
  db' = db ∨
    ∃ status,
      db' =
        { db with
          accounts := db.accounts.modify account.id fun row =>
            { row with stripeStatus := some status } }

/-- Only the Stripe fields of one account differ. -/
structure FieldsSet (account : Account) (store store' : BillingDb) : Prop where
  status : StatusSet account store.db store'.db
  plans : ∀ id, id ≠ account.id → store'.plans id = store.plans id
  events : store'.stripeEvents = store.stripeEvents

/-- What `apply_stripe_event` does for the account it answers with. -/
inductive Applied (event : Json) (store : BillingDb) :
    Option Account → BillingDb → Prop where
  | nobody : Applied event store none store
  | account
      {customer : String}
      {account : Account}
      {store' : BillingDb}
      (ofEvent : customerFromEvent event = some (some customer))
      (found : accountOf store customer = some account)
      (fields : FieldsSet account store store') :
      Applied event store (some account) store'

/-! ## The functions -/

section Functions

variable {store store' : BillingDb}

/-- An assignment to the plan keeps the other fields as they are. -/
theorem FieldsSet.assignPlan
    {account : Account}
    {first : BillingDb}
    {change : String → PlanColumns → PlanColumns}
    {text : Option String}
    {done : Unit}
    (fields : FieldsSet account first store)
    (returned :
      exec (assignPlan account change text) store = (.ok done, store')) :
    FieldsSet account first store' := by
  cases text with
  | none =>
      cases returned
      exact fields
  | some text =>
      cases returned
      refine ⟨fields.status, ?_, fields.events⟩
      intro id different
      exact (Function.update_of_ne different _ _).trans
        (fields.plans id different)

/-- An assignment to the status keeps the other fields as they are. -/
theorem assignStatus_ok
    {account : Account}
    {status : Option String}
    {done : Unit}
    (returned :
      exec (assignStatus account status) store = (.ok done, store')) :
    FieldsSet account store store' := by
  cases status with
  | none =>
      cases returned
      exact ⟨.inl rfl, fun _ _ => rfl, rfl⟩
  | some status =>
      cases returned
      exact ⟨.inr ⟨status, rfl⟩, fun _ _ => rfl, rfl⟩

/-- The assignments of an event touch the fields of its account only. -/
theorem applyFields_ok
    {account : Account}
    {object : Json}
    {priceId : String}
    {done : Unit}
    (returned :
      exec (applyFields account object priceId) store = (.ok done, store')) :
    FieldsSet account store store' := by
  obtain ⟨status, _, statusRun, rest⟩ := bind_ok returned
  obtain ⟨_, rfl⟩ := orRaise_ok statusRun
  obtain ⟨_, withStatus, statusSet, rest⟩ := bind_ok rest
  obtain ⟨subscription, _, subscriptionRun, rest⟩ := bind_ok rest
  obtain ⟨_, rfl⟩ := orRaise_ok subscriptionRun
  obtain ⟨_, withSubscription, subscriptionSet, rest⟩ := bind_ok rest
  obtain ⟨price, _, priceRun, priceSet⟩ := bind_ok rest
  obtain ⟨_, rfl⟩ := orRaise_ok priceRun
  exact ((assignStatus_ok statusSet).assignPlan subscriptionSet).assignPlan
    priceSet

/-- `apply_stripe_event` sets the fields of the event's account, if any. -/
theorem applyStripeEvent_ok
    {event : Json}
    {priceId : String}
    {account : Option Account}
    (returned :
      exec (applyStripeEvent event priceId) store = (.ok account, store')) :
    Applied event store account store' := by
  obtain ⟨named, _, namedRun, rest⟩ := bind_ok returned
  obtain ⟨isNamed, rfl⟩ := orRaise_ok namedRun
  cases given : truthy named with
  | none =>
      rw [given] at rest
      cases rest
      exact .nobody
  | some customer =>
      rw [given] at rest
      obtain ⟨same, _⟩ := Option.filter_eq_some_iff.mp given
      obtain ⟨_, _, readRun, rest⟩ := bind_ok rest
      cases readRun
      cases found : accountOf store customer with
      | none =>
          rw [found] at rest
          cases rest
          exact .nobody
      | some account =>
          rw [found] at rest
          obtain ⟨object, _, objectRun, rest⟩ := bind_ok rest
          obtain ⟨_, rfl⟩ := orRaise_ok objectRun
          obtain ⟨carries, _, carriesRun, rest⟩ := bind_ok rest
          obtain ⟨_, rfl⟩ := orRaise_ok carriesRun
          obtain ⟨_, _, fieldsRun, rest⟩ := bind_ok rest
          cases rest
          refine .account (isNamed.trans (congrArg some same)) found ?_
          cases carries with
          | true => exact applyFields_ok fieldsRun
          | false =>
              cases fieldsRun
              exact ⟨.inl rfl, fun _ _ => rfl, rfl⟩

/-- An assignment does not raise. -/
theorem assignPlan_error
    {account : Account}
    {change : String → PlanColumns → PlanColumns}
    {text : Option String}
    {failure : Failure}
    (raised :
      exec (assignPlan account change text) store =
        (.error failure, store')) :
    False := by
  cases text <;> cases raised

/-- The assignments of an event raise for want of a method only. -/
theorem applyWhen_error
    {carries : Bool}
    {account : Account}
    {object : Json}
    {priceId : String}
    {failure : Failure}
    (raised :
      exec (applyWhen carries account object priceId) store =
        (.error failure, store')) :
    failure = .attributeError := by
  cases carries with
  | false => cases raised
  | true =>
      rcases bind_error raised with status | ⟨status, _, _, rest⟩
      · exact (orRaise_error status).2.1
      rcases bind_error rest with statusSet | ⟨_, _, _, rest⟩
      · cases isText : stringOf status <;>
          simp [assignStatus, isText] at statusSet
      rcases bind_error rest with subscription | ⟨subscription, _, _, rest⟩
      · exact (orRaise_error subscription).2.1
      rcases bind_error rest with subscriptionSet | ⟨_, _, _, rest⟩
      · exact (assignPlan_error subscriptionSet).elim
      rcases bind_error rest with price | ⟨price, _, _, priceSet⟩
      · exact (orRaise_error price).2.1
      · exact (assignPlan_error priceSet).elim

/-- `apply_stripe_event` does not violate a unique key. -/
theorem applyStripeEvent_error
    {event : Json}
    {priceId : String}
    {failure : Failure}
    (raised :
      exec (applyStripeEvent event priceId) store =
        (.error failure, store')) :
    failure = .attributeError := by
  rcases bind_error raised with named | ⟨named, _, namedRun, rest⟩
  · exact (orRaise_error named).2.1
  cases given : truthy named with
  | none =>
      rw [given] at rest
      cases rest
  | some customer =>
      rw [given] at rest
      rcases bind_error rest with read | ⟨_, _, readRun, rest⟩
      · cases read
      cases readRun
      cases found : accountOf _ customer with
      | none =>
          rw [found] at rest
          cases rest
      | some account =>
          rw [found] at rest
          rcases bind_error rest with object | ⟨object, _, _, rest⟩
          · exact (orRaise_error object).2.1
          rcases bind_error rest with carries | ⟨carries, _, _, rest⟩
          · exact (orRaise_error carries).2.1
          rcases bind_error rest with fields | ⟨_, _, _, rest⟩
          · exact applyWhen_error fields
          · cases rest

/-- The INSERT of an event whose id was free. -/
theorem insertEvent_ok
    {row : StripeEvent}
    {done : Unit}
    (returned : exec (insertEvent row) store = (.ok done, store')) :
    ∃ events,
      store.stripeEvents.insert? row = some events ∧
        store' = { store with stripeEvents := events } := by
  obtain ⟨_, _, readRun, rest⟩ := bind_ok returned
  cases readRun
  obtain ⟨events, _, insertRun, setRun⟩ := bind_ok rest
  obtain ⟨accepted, rfl⟩ := orRaise_ok insertRun
  cases setRun
  exact ⟨events, accepted, rfl⟩

/-- A refused INSERT found its id taken. -/
theorem insertEvent_error
    {row : StripeEvent}
    {failure : Failure}
    (raised : exec (insertEvent row) store = (.error failure, store')) :
    failure = .integrityError ∧
      (store.stripeEvents.find row.eventId).isSome = true := by
  rcases bind_error raised with read | ⟨_, _, readRun, rest⟩
  · cases read
  cases readRun
  rcases bind_error rest with refused | ⟨_, _, _, setRun⟩
  · obtain ⟨taken, isFailure, _⟩ := orRaise_error refused
    exact ⟨isFailure, Table.insert?_eq_none.mp taken⟩
  · cases setRun

/-- The guarded INSERT inserts the event, or finds it recorded. -/
theorem insertOnce_ok
    {delivery : Delivery}
    {row : StripeEvent}
    {inserted : Bool}
    (returned :
      exec (insertOnce delivery row) store = (.ok inserted, store')) :
    (inserted = true ∧
        ∃ events,
          store.stripeEvents.insert? row = some events ∧
            store' = { store with stripeEvents := events }) ∨
      (inserted = false ∧ store' = store ∧
        (store.stripeEvents.find row.eventId).isSome = true) := by
  rcases tryCatch_savepoint_ok returned with
    returned | ⟨failure, _, insertRaised, handled⟩
  · obtain ⟨_, insertRun, isTrue⟩ := map_ok returned
    exact .inl ⟨isTrue, insertEvent_ok insertRun⟩
  · obtain ⟨rfl, taken⟩ := insertEvent_error (map_error insertRaised)
    obtain ⟨known, _, lookUpRun, rest⟩ := bind_ok handled
    cases lookUpRun
    by_cases sees : delivery.seenAgain = true
    · simp only [sees, taken, Bool.and_self, ↓reduceIte] at rest
      cases rest
      exact .inr ⟨rfl, rfl, taken⟩
    · simp [sees] at rest

/-- The guarded INSERT raises when it misses the event that is recorded. -/
theorem insertOnce_error
    {delivery : Delivery}
    {row : StripeEvent}
    {failure : Failure}
    (raised :
      exec (insertOnce delivery row) store = (.error failure, store')) :
    (store.stripeEvents.find row.eventId).isSome = true := by
  obtain ⟨_, _, insertRaised, _⟩ := tryCatch_savepoint_error raised
  exact (insertEvent_error (map_error insertRaised)).2

/-- The row that a delivery inserts. -/
def eventRow
    (textOf : TextOf)
    (event : Json)
    (delivery : Delivery)
    (eventId : String) :
    StripeEvent where
  eventId := eventId
  type := typeText textOf event
  accountId := none
  createdAt := delivery.now

/-- The row of an event, with its account. -/
def linkedEvents
    (events : Table StripeEvent)
    (eventId : String)
    (account : Option Account) :
    Table StripeEvent :=
  match account with
  | none => events
  | some account =>
      events.modify eventId fun row => { row with accountId := some account.id }

/-- What a delivery leaves that has recorded its event. -/
structure Recorded
    (row : StripeEvent)
    (event : Json)
    (store store' : BillingDb) :
    Prop where
  effect :
    ∃ events account applied,
      store.stripeEvents.insert? row = some events ∧
        Applied event { store with stripeEvents := events } account applied ∧
        store' =
          { applied with
            stripeEvents :=
              linkedEvents applied.stripeEvents row.eventId account }

/-- `record_stripe_event` finds the event recorded, or records it. -/
theorem recordStripeEvent_ok
    {textOf : TextOf}
    {event : Json}
    {delivery : Delivery}
    {inserted : Bool}
    (returned :
      exec (recordStripeEvent textOf event delivery) store =
        (.ok inserted, store')) :
    ∃ eventId,
      eventId? event = some eventId ∧
        ((inserted = false ∧ store' = store ∧
            (store.stripeEvents.find eventId).isSome = true) ∨
          (inserted = true ∧
            Recorded (eventRow textOf event delivery eventId) event store
              store')) := by
  obtain ⟨eventId, _, idRun, rest⟩ := bind_ok returned
  obtain ⟨named, rfl⟩ := orRaise_ok idRun
  refine ⟨eventId, named, ?_⟩
  obtain ⟨known, _, lookUpRun, rest⟩ := bind_ok rest
  cases lookUpRun
  by_cases seen :
      (delivery.seen &&
        (store.stripeEvents.find eventId).isSome) = true
  · rw [if_pos seen] at rest
    cases rest
    exact .inl ⟨rfl, rfl, (Bool.and_eq_true_iff.mp seen).2⟩
  rw [if_neg seen] at rest
  obtain ⟨fresh, _, insertRun, decided⟩ := bind_ok rest
  rcases insertOnce_ok insertRun with
    ⟨rfl, events, accepted, rfl⟩ | ⟨rfl, rfl, taken⟩
  · right
    simp only [↓reduceIte] at decided
    obtain ⟨_, _, stage, rest⟩ := bind_ok decided
    obtain ⟨_, rfl⟩ := raiseWhen_ok stage
    obtain ⟨account, applied, applyRun, rest⟩ := bind_ok rest
    obtain ⟨_, _, stage, rest⟩ := bind_ok rest
    obtain ⟨_, rfl⟩ := raiseWhen_ok stage
    obtain ⟨_, _, linkRun, rest⟩ := bind_ok rest
    obtain ⟨_, _, stage, rest⟩ := bind_ok rest
    obtain ⟨_, rfl⟩ := raiseWhen_ok stage
    cases rest
    refine
      ⟨rfl, events, account, applied, accepted, applyStripeEvent_ok applyRun,
        ?_⟩
    cases account <;> cases linkRun <;> rfl
  · left
    cases decided
    exact ⟨rfl, rfl, taken⟩

/-- An id that violates the key was recorded. -/
theorem recordStripeEvent_integrity
    {textOf : TextOf}
    {event : Json}
    {delivery : Delivery}
    (raised :
      exec (recordStripeEvent textOf event delivery) store =
        (.error .integrityError, store')) :
    ∃ eventId,
      eventId? event = some eventId ∧
        (store.stripeEvents.find eventId).isSome = true := by
  rcases bind_error raised with unnamed | ⟨eventId, _, idRun, rest⟩
  · cases (orRaise_error unnamed).2.1
  obtain ⟨named, rfl⟩ := orRaise_ok idRun
  refine ⟨eventId, named, ?_⟩
  rcases bind_error rest with read | ⟨known, _, lookUpRun, rest⟩
  · cases read
  cases lookUpRun
  by_cases seen :
      (delivery.seen &&
        (store.stripeEvents.find eventId).isSome) = true
  · rw [if_pos seen] at rest
    cases rest
  rw [if_neg seen] at rest
  rcases bind_error rest with insertRaised | ⟨fresh, _, _, rest⟩
  · exact insertOnce_error insertRaised
  cases fresh with
  | false => cases rest
  | true =>
      simp only [↓reduceIte] at rest
      rcases bind_error rest with stage | ⟨_, _, _, rest⟩
      · cases (raiseWhen_error stage).2.1
      rcases bind_error rest with applied | ⟨account, _, _, rest⟩
      · cases applyStripeEvent_error applied
      rcases bind_error rest with stage | ⟨_, _, _, rest⟩
      · cases (raiseWhen_error stage).2.1
      rcases bind_error rest with linked | ⟨_, _, _, rest⟩
      · cases account <;> cases linked
      rcases bind_error rest with stage | ⟨_, _, _, rest⟩
      · cases (raiseWhen_error stage).2.1
      · cases rest

end Functions

/-! ## One delivery -/

/-- The event id of a delivery. -/
def Delivery.eventId (delivery : Delivery) : Option String :=
  delivery.payload.bind eventId?

/-- The account whose Stripe customer is that of the event. -/
def Delivery.account (delivery : Delivery) (store : BillingDb) :
    Option Account :=
  (delivery.payload.bind fun event => (customerFromEvent event).join).bind
    (accountOf store)

/-- What a delivery may change. -/
structure OnlyBilling (delivery : Delivery) (store store' : BillingDb) :
    Prop where
  otherTables : { store'.db with accounts := store.db.accounts } = store.db
  otherEvents :
    ∀ eventId, delivery.eventId ≠ some eventId →
      store'.stripeEvents.find eventId = store.stripeEvents.find eventId
  keptEvents :
    ∀ eventId row, store.stripeEvents.find eventId = some row →
      store'.stripeEvents.find eventId = some row
  otherAccounts :
    ∀ accountId, (delivery.account store).map Account.id ≠ some accountId →
      store'.db.accounts.find accountId = store.db.accounts.find accountId ∧
        store'.plans accountId = store.plans accountId
  otherColumns :
    ∀ accountId,
      (store'.db.accounts.find accountId).map
          (fun row => { row with stripeStatus := none }) =
        (store.db.accounts.find accountId).map
          (fun row => { row with stripeStatus := none })

section Delivering

variable {textOf : TextOf} {delivery : Delivery} {store store' : BillingDb}

/-- A delivery that leaves everything alone. -/
theorem OnlyBilling.refl : OnlyBilling delivery store store where
  otherTables := rfl
  otherEvents := fun _ _ => rfl
  keptEvents := fun _ _ found => found
  otherAccounts := fun _ _ => ⟨rfl, rfl⟩
  otherColumns := fun _ => rfl

/-- Lookup of an event after one of them was linked to its account. -/
theorem find_link
    (accountId : Id)
    (events : Table StripeEvent)
    (k k' : String) :
    (events.modify k fun row => { row with accountId := some accountId }).find
        k' =
      if k = k' then
        (events.find k').map fun row => { row with accountId := some accountId }
      else
        events.find k' := by
  apply Table.find_modify
  intro row
  rfl

/-- Lookup of an account after the status of one of them was set. -/
theorem find_setStatus
    (status : String)
    (accounts : Table Account)
    (k k' : Id) :
    (accounts.modify k fun row => { row with stripeStatus := some status }).find
        k' =
      if k = k' then
        (accounts.find k').map fun row =>
          { row with stripeStatus := some status }
      else
        accounts.find k' := by
  apply Table.find_modify
  intro row
  rfl

/-- A recorded event is found under its id, and the others as before. -/
theorem Recorded.find
    {row : StripeEvent}
    {event : Json}
    (recorded : Recorded row event store store') :
    ∃ accountId, ∀ eventId,
      store'.stripeEvents.find eventId =
        if row.eventId = eventId then
          some { row with accountId := accountId }
        else
          store.stripeEvents.find eventId := by
  obtain ⟨events, account, applied, accepted, applies, rfl⟩ := recorded.effect
  have found := Table.find_insert accepted
  cases applies with
  | nobody => exact ⟨row.accountId, found⟩
  | @account customer account _ _ _ fields =>
      refine ⟨some account.id, ?_⟩
      intro eventId
      have linked :=
        find_link account.id events row.eventId eventId
      simp only [linkedEvents, fields.events]
      rw [linked, found eventId]
      by_cases isRow : row.eventId = eventId
      · simp [Keyed.key, isRow]
      · simp [Keyed.key, isRow]

/-- Setting a status changes one account, in one column. -/
theorem StatusSet.find
    {account : Account}
    {db db' : Db}
    (set : StatusSet account db db')
    (accountId : Id) :
    { db' with accounts := db.accounts } = db ∧
      (accountId ≠ account.id →
        db'.accounts.find accountId = db.accounts.find accountId) ∧
      (db'.accounts.find accountId).map
          (fun row => { row with stripeStatus := none }) =
        (db.accounts.find accountId).map
          (fun row => { row with stripeStatus := none }) := by
  rcases set with rfl | ⟨status, rfl⟩
  · exact ⟨rfl, fun _ => rfl, rfl⟩
  have modified := find_setStatus status db.accounts account.id accountId
  refine ⟨rfl, ?_, ?_⟩
  · intro different
    exact modified.trans (if_neg (Ne.symm different))
  · by_cases isAccount : account.id = accountId
    · rw [if_pos isAccount] at modified
      simp only [modified, Option.map_map]
      rfl
    · rw [if_neg isAccount] at modified
      simp only [modified]

/-- A recorded event changes its row and the fields of its account only. -/
theorem Recorded.onlyBilling
    {event : Json}
    {eventId : String}
    (payload : delivery.payload = some event)
    (named : eventId? event = some eventId)
    (recorded :
      Recorded (eventRow textOf event delivery eventId) event store store') :
    OnlyBilling delivery store store' := by
  have isEvent : delivery.eventId = some eventId := by
    simp [Delivery.eventId, payload, named]
  obtain ⟨accountId, found⟩ := recorded.find
  obtain ⟨events, account, applied, accepted, applies, rfl⟩ := recorded.effect
  have fresh : store.stripeEvents.find eventId = none :=
    (Table.insert?_eq_some accepted).1
  have otherEvents :
      ∀ other, delivery.eventId ≠ some other →
        (linkedEvents applied.stripeEvents eventId account).find other =
          store.stripeEvents.find other := by
    intro other different
    have notRow : eventId ≠ other := fun same =>
      different (same ▸ isEvent)
    exact (found other).trans (if_neg notRow)
  have keptEvents :
      ∀ other row, store.stripeEvents.find other = some row →
        (linkedEvents applied.stripeEvents eventId account).find other =
          some row := by
    intro other row isRow
    have notRow : eventId ≠ other := by
      rintro rfl
      rw [fresh] at isRow
      cases isRow
    exact ((found other).trans (if_neg notRow)).trans isRow
  cases applies with
  | nobody =>
      exact
        { otherTables := rfl
          otherEvents := otherEvents
          keptEvents := keptEvents
          otherAccounts := fun _ _ => ⟨rfl, rfl⟩
          otherColumns := fun _ => rfl }
  | @account customer account _ ofEvent isAccount fields =>
      have ofDelivery : delivery.account store = some account := by
        simp only [Delivery.account, payload, Option.bind_some, ofEvent,
          Option.join_some]
        exact isAccount
      exact
        { otherTables := (fields.status.find account.id).1
          otherEvents := otherEvents
          keptEvents := keptEvents
          otherAccounts := by
            intro accountId notAccount
            have different : accountId ≠ account.id := by
              rintro rfl
              exact notAccount (by simp [ofDelivery])
            exact ⟨(fields.status.find accountId).2.1 different,
              fields.plans accountId different⟩
          otherColumns := fun accountId =>
            (fields.status.find accountId).2.2 }

/-- A delivery fails and changes nothing, or its event is recorded after it. -/
theorem stripeWebhook_cases
    (textOf : TextOf)
    (delivery : Delivery)
    (store : BillingDb) :
    ((stripeWebhook textOf delivery store).1.isOk = false ∧
        (stripeWebhook textOf delivery store).2 = store) ∨
      ∃ event eventId,
        delivery.payload = some event ∧
          eventId? event = some eventId ∧
          (stripeWebhook textOf delivery store).1.isOk = true ∧
          (((stripeWebhook textOf delivery store).2 = store ∧
              (store.stripeEvents.find eventId).isSome = true) ∨
            Recorded (eventRow textOf event delivery eventId) event store
              (stripeWebhook textOf delivery store).2) := by
  unfold stripeWebhook
  by_cases verified : delivery.verified = false
  · rw [if_pos verified]
    exact .inl ⟨rfl, rfl⟩
  rw [if_neg verified]
  cases payload : delivery.payload with
  | none => exact .inl ⟨rfl, rfl⟩
  | some event =>
      by_cases noId : hasId event = false
      · simp only [noId, ↓reduceIte]
        exact .inl ⟨rfl, trivial⟩
      have hasIt : hasId event = true := by simpa using noId
      simp only [hasIt, Bool.true_eq_false, ↓reduceIte, exec_savepoint]
      cases bodyRun : exec (recordStripeEvent textOf event delivery) store with
      | mk outcome store' =>
          cases outcome with
          | ok inserted =>
              obtain ⟨eventId, named, effect⟩ := recordStripeEvent_ok bodyRun
              refine .inr ⟨event, eventId, rfl, named, rfl, ?_⟩
              rcases effect with ⟨_, same, known⟩ | ⟨_, recorded⟩
              · exact .inl ⟨same, known⟩
              · exact .inr recorded
          | error failure =>
              cases failure with
              | integrityError =>
                  obtain ⟨eventId, named, known⟩ :=
                    recordStripeEvent_integrity bodyRun
                  exact .inr ⟨event, eventId, rfl, named, rfl,
                    .inl ⟨rfl, known⟩⟩
              | valueError text => exact .inl ⟨rfl, rfl⟩
              | attributeError => exact .inl ⟨rfl, rfl⟩
              | stopped => exact .inl ⟨rfl, rfl⟩

/-- A delivery changes only what its event is about. -/
theorem stripeWebhook_onlyBilling
    (textOf : TextOf)
    (delivery : Delivery)
    (store : BillingDb) :
    OnlyBilling delivery store (stripeWebhook textOf delivery store).2 := by
  rcases stripeWebhook_cases textOf delivery store with
    ⟨_, same⟩ | ⟨event, eventId, payload, named, _, effect⟩
  · rw [same]
    exact .refl
  rcases effect with ⟨same, _⟩ | recorded
  · rw [same]
    exact .refl
  · exact recorded.onlyBilling payload named

end Delivering

/-! ## Sequences of deliveries -/

/-- The event of a message is recorded. -/
def Handled (store : BillingDb) (message : Option String) : Prop :=
  ∃ eventId ∈ message, (store.stripeEvents.find eventId).isSome = true

/-- The route as a receiver of events. -/
def receiver (textOf : TextOf) :
    IdempotentReceiver BillingDb Delivery (Option String) where
  deliver delivery store :=
    ((stripeWebhook textOf delivery store).1.isOk,
      (stripeWebhook textOf delivery store).2)
  message := Delivery.eventId
  Handled := Handled
  failed_unchanged := by
    intro delivery store failed
    rcases stripeWebhook_cases textOf delivery store with
      ⟨_, same⟩ | ⟨event, eventId, _, _, success, _⟩
    · exact same
    · cases failed.symm.trans success
  repeated_unchanged := by
    intro delivery store handled
    obtain ⟨known, isKnown, found⟩ := handled
    rcases stripeWebhook_cases textOf delivery store with
      ⟨_, same⟩ | ⟨event, eventId, payload, named, _, effect⟩
    · exact same
    rcases effect with ⟨same, _⟩ | recorded
    · exact same
    · -- The id was free, but it is the one that was handled.
      obtain ⟨events, account, applied, accepted, _⟩ := recorded.effect
      have fresh : store.stripeEvents.find eventId = none :=
        (Table.insert?_eq_some accepted).1
      have same : eventId = known := by
        simpa [Delivery.eventId, payload, named] using isKnown
      rw [← same, fresh] at found
      cases found
  succeeded_handles := by
    intro delivery store success message
    rcases stripeWebhook_cases textOf delivery store with
      ⟨failed, _⟩ | ⟨event, eventId, payload, named, _, effect⟩
    · cases failed.symm.trans success
    have isEvent : delivery.eventId = some eventId := by
      simp [Delivery.eventId, payload, named]
    rw [isEvent]
    rcases effect with ⟨same, known⟩ | recorded
    · simp only [same]
      constructor
      · exact .inl
      · rintro (handled | rfl)
        · exact handled
        · exact ⟨eventId, rfl, known⟩
    · obtain ⟨accountId, found⟩ := recorded.find
      constructor
      · rintro ⟨other, rfl, isFound⟩
        by_cases isEvent : eventId = other
        · exact .inr (congrArg some isEvent.symm)
        · rw [found other, eventRow, if_neg isEvent] at isFound
          exact .inl ⟨other, rfl, isFound⟩
      · rintro (⟨other, rfl, isFound⟩ | rfl)
        · refine ⟨other, rfl, ?_⟩
          rw [found other]
          split
          · rfl
          · exact isFound
        · refine ⟨eventId, rfl, ?_⟩
          rw [found eventId, eventRow, if_pos rfl]
          rfl

/--
Replayed and failed deliveries change nothing: a sequence of deliveries ends in
the state of its first successful deliveries, every delivered event has one row,
and a delivery changes only that row and the Stripe fields of one account.
-/
theorem webhook_replay_changes_nothing
    (textOf : TextOf)
    (start : BillingDb)
    (deliveries : List Delivery) :
    (receiver textOf).run start
        ((receiver textOf).firstSuccesses [] start deliveries) =
      (receiver textOf).run start deliveries ∧
    (∀ eventId,
      ((receiver textOf).run start deliveries).stripeEvents.countWhere
          (fun row => row.eventId = eventId) =
        if (start.stripeEvents.find eventId).isSome = true ∨
            some eventId ∈ (receiver textOf).succeeded start deliveries then
          1
        else
          0) ∧
    (∀ delivery store,
      OnlyBilling delivery store
        ((receiver textOf).deliver delivery store).2) := by
  refine ⟨?_, ?_, ?_⟩
  · exact (receiver textOf).run_firstSuccesses (by simp) deliveries
  · intro eventId
    have handled :=
      (receiver textOf).handled_run start deliveries (some eventId)
    have handledIff (store : BillingDb) :
        (receiver textOf).Handled store (some eventId) ↔
          (store.stripeEvents.find eventId).isSome = true := by
      simp [receiver, Handled]
    rw [handledIff, handledIff] at handled
    simp only [← handled]
    exact Table.countWhere_key _ eventId
  · exact stripeWebhook_onlyBilling textOf

/-- A store with one account, bound to a Stripe customer. -/
def oneCustomer : BillingDb where
  db :=
    { Db.empty with
      accounts :=
        (Table.empty.insert?
          { id := 1
            stripeCustomerId := some "cus_replay"
            stripeStatus := none
            feeMicrocents := 0
            feeInvoicedCents := 0 }).getD
          .empty }
  plans := fun _ => ⟨none, none⟩
  stripeEvents := .empty

/-- A subscription of that customer that became active. -/
def subscriptionUpdated : Json :=
  .object
    [("id", .string "evt_replay_1"),
      ("type", .string "customer.subscription.updated"),
      ("data", .object
        [("object", .object
          [("object", .string "subscription"),
            ("id", .string "sub_1"),
            ("customer", .string "cus_replay"),
            ("status", .string "active"),
            ("items", .object
              [("data", .array
                [.object [("price", .object
                  [("id", .string "price_test_plan")])]])])])])]

/-- A verified delivery of that event. -/
def delivered (stopsAt : Option Stage) : Delivery where
  verified := true
  payload := some subscriptionUpdated
  priceId := ""
  now := noon
  seen := true
  seenAgain := true
  stopsAt := stopsAt

/-- Stopped after its changes, delivered again, and then delivered once more. -/
example :
    let store :=
      (receiver fun _ => "").run oneCustomer
        [delivered (some .linked), delivered none, delivered none]
    store.stripeEvents.rows.map StripeEvent.accountId = [some 1] ∧
      store.plans 1 = ⟨some "sub_1", some "price_test_plan"⟩ ∧
      (store.db.accounts.find 1).map Account.stripeStatus =
        some (some "active") := by
  decide +kernel

/-! ## The database of the running system -/

/-- A delivery does to the database what one transaction or none does. -/
theorem stripeWebhook_db
    (textOf : TextOf)
    (delivery : Delivery)
    (store : BillingDb) :
    (stripeWebhook textOf delivery store).2.db = store.db ∨
      ∃ customer status,
        exec (Crossing.applyStripeEvent store.db customer status) store.db =
          (.ok (), (stripeWebhook textOf delivery store).2.db) := by
  rcases stripeWebhook_cases textOf delivery store with
    ⟨_, same⟩ | ⟨event, eventId, _, _, _, effect⟩
  · exact .inl (by rw [same])
  rcases effect with ⟨same, _⟩ | recorded
  · exact .inl (by rw [same])
  obtain ⟨events, account, applied, _, applies, same⟩ := recorded.effect
  rw [same]
  cases applies with
  | nobody => exact .inl rfl
  | @account customer account _ _ found fields =>
      rcases fields.status with unset | ⟨status, isSet⟩
      · exact .inl unset
      · right
        refine ⟨customer, status, ?_⟩
        unfold accountOf at found
        unfold Crossing.applyStripeEvent
        rw [found, exec_modify, isSet]

/-- What deliveries do to the database, transactions of the system do. -/
theorem run_db
    (env : Env)
    (textOf : TextOf)
    {store : BillingDb}
    {s : Sys}
    (sameDb : s.db = store.db)
    (deliveries : List Delivery) :
    ∃ s',
      Later env (fun _ _ => True) s s' ∧
        s'.db = ((receiver textOf).run store deliveries).db := by
  induction deliveries generalizing store s with
  | nil => exact ⟨s, .refl, sameDb⟩
  | cons delivery rest inductionHypothesis =>
      rcases stripeWebhook_db textOf delivery store with
        same | ⟨customer, status, applied⟩
      · exact inductionHypothesis (sameDb.trans same.symm)
      · -- The transaction sees the database as it is.
        let body := Txn.applyStripeEvent customer status
        have committed :
            Transaction.commit (body.body env (s.views [])) s.db =
              some ([], (stripeWebhook textOf delivery store).2.db) := by
          refine commit_eq_some.mpr ?_
          simp only [body, Txn.body, silently, exec_map, Sys.views_nil, sameDb,
            applied]
        have stepped :
            Step env (fun _ _ => True) s
              (s.commit (stripeWebhook textOf delivery store).2.db []) := by
          refine ⟨.txn [] body, trivial, ?_⟩
          simp only [step, Monotone, List.Pairwise.nil, Txn.Loaded, body,
            and_self, ↓reduceIte]
          rw [committed]
          rfl
        obtain ⟨s', later, isDb⟩ :=
          inductionHypothesis
            (show
                (s.commit _ []).db =
                  (stripeWebhook textOf delivery store).2.db
              from rfl)
        exact ⟨s', .head stepped later, isDb⟩

end Crossing.Webhook
