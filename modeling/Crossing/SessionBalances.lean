import Crossing.BalanceLog
import Crossing.BillingStatus

namespace Crossing

open Relational

/-!
# What a session still shows

A session goes on with the mandate that it has loaded.  As long as nobody has
debited, escrowed or refunded anything on the mandate since, the session shows
what is left on it.
-/

/-- Since a state something was debited, escrowed or refunded on a mandate. -/
def MovedSince (older db : Db) (mandateId : Id) : Prop :=
  ∃ event ∈ db.ledgerEvents.drop older.ledgerEvents.length,
    event.mandateId = mandateId ∧
      event.kind ∈ [EventKind.reserve, .escrow, .release]

section Unmoved

variable
  {env : Env}
  {allowed : Sys → Action → Prop}
  {s s₁ : Sys}

/-- What is left on a mandate that was not moved is what was left on it. -/
theorem remaining_unmoved
    {mandateId : Id}
    {old : Mandate}
    (reachable : Reachable env allowed s₁)
    (later : Later env allowed s₁ s)
    (found : s₁.db.mandates.find mandateId = some old)
    (unmoved : ¬MovedSince s₁.db s.db mandateId) :
    (s.db.mandates.find mandateId).map Mandate.remainingCents =
      some old.remainingCents := by
  obtain ⟨recent, appended⟩ := later_events reachable later
  obtain ⟨new, isNew, same⟩ :=
    (later_evolves reachable later).mandates _ _ found
  have still :
      ∀ event ∈ recent, event.mandateId = mandateId → event.delta = 0 := by
    intro event inRecent ofMandate
    by_contra moves
    refine unmoved ⟨event, ?_, ofMandate, ?_⟩
    · rw [← appended, List.drop_left]
      exact inRecent
    · cases isKind : event.kind with
      | reserve | escrow | release => simp
      | commit | deny => exact absurd (by simp [LedgerEvent.delta, isKind]) moves
  have before :=
    (reachable_audited reachable).replayed old (Table.mem_of_find found)
  have after :=
    (reachable_audited (reachable.later later)).replayed new
      (Table.mem_of_find isNew)
  have sameLimit : new.spendLimitCents = old.spendLimitCents := by
    rw [same.1]
  have oldId : old.id = mandateId := Table.key_of_find found
  have newId : new.id = mandateId := Table.key_of_find isNew
  simp only [Db.books] at before after
  rw [newId, sameLimit, ← appended, netDelta_append_still still, ← oldId,
    ← before] at after
  rw [isNew, Option.map_some, after]

/-- A session that has loaded a mandate shows it until it is moved. -/
theorem shownBy_of_unmoved
    {sessionMandate : Id → Option Mandate}
    {reservationId : Id}
    (reachable : Reachable env allowed s₁)
    (later : Later env allowed s₁ s)
    (loaded :
      ∀ row ∈ s.db.reservations.find reservationId,
        ∃ old,
          s₁.db.mandates.find row.mandateId = some old ∧
            sessionMandate row.mandateId = some old)
    (unmoved :
      ∀ row ∈ s.db.reservations.find reservationId,
        ¬MovedSince s₁.db s.db row.mandateId) :
    s.db.ShownBy sessionMandate reservationId := by
  intro row isRow _
  obtain ⟨old, found, inSession⟩ := loaded row isRow
  rw [sessionRemaining, inSession, Option.map_some,
    remaining_unmoved reachable later found (unmoved row isRow)]

/-- A statement of a transaction shows a mandate that was not moved since. -/
theorem view_shownBy_of_unmoved
    {ages : List Nat}
    {statement : Nat}
    {reservationId : Id}
    (reachable : Reachable env allowed s)
    (since : Since .start s ages)
    (loaded :
      ∀ row ∈ s.db.reservations.find reservationId,
        ((s.views ages statement).mandates.find row.mandateId).isSome = true)
    (unmoved :
      ∀ row ∈ s.db.reservations.find reservationId,
        ¬MovedSince (s.views ages statement) s.db row.mandateId) :
    s.db.ShownBy (s.views ages statement).mandates.find reservationId := by
  obtain ⟨s₁, isReachable, later, _, isView⟩ :=
    seen_state reachable since statement
  rw [isView] at loaded unmoved ⊢
  refine shownBy_of_unmoved isReachable later ?_ unmoved
  intro row isRow
  obtain ⟨old, found⟩ := Option.isSome_iff_exists.mp (loaded row isRow)
  exact ⟨old, found, found⟩

/-! ## The mandate of a call -/

/-- The call has its reservation and its mandate from this state. -/
structure ReservedIn (db : Db) (attempt : Attempt) : Prop where
  mandate : db.mandates.find attempt.mandate.id = some attempt.mandate
  event :
    db.ledgerEvents.getLast?.bind LedgerEvent.reservationId =
      some attempt.reservation.id
  ofMandate :
    ∃ row,
      db.reservations.find attempt.reservation.id = some row ∧
        row.mandateId = attempt.mandate.id

/-- A call that begins has its mandate from the state that it commits. -/
theorem Begins.reservedIn
    {request : InvokeRequest}
    {draw : InvokeDraw}
    {loaded : Mandate}
    {attempt : Attempt}
    {discipline : Discipline}
    {db db' : Db}
    {views : Views}
    (begins : Begins env views request draw db loaded attempt)
    (effect :
      Effect env discipline .call db [.reserved attempt.invocation.id] db')
    (reserved :
      db.reservations.insert? attempt.reservation = some db'.reservations) :
    ReservedIn db' attempt := by
  obtain ⟨old, _, _, _, opened, _, isMandate, _⟩ := begins.opening
  generalize isEntries : [Entry.reserved attempt.invocation.id] = entries
    at effect
  cases effect <;> try cases isEntries
  case opened old' reservation' _ _ _ _ opening _ _ _ _ =>
    have sameRow : reservation' = attempt.reservation := by
      have rows := (Table.insert?_eq_some opening.debit.inserted).2
      have rows' := (Table.insert?_eq_some reserved).2
      exact
        List.singleton_inj.mp
          (List.append_cancel_left (rows.symm.trans rows'))
    subst sameRow
    have sameOld : old' = old := by
      have sameId := opening.debit.ofMandate.symm.trans opened.debit.ofMandate
      have found := opening.debit.found
      rw [sameId, opened.debit.found] at found
      exact (Option.some.inj found).symm
    subst sameOld
    have price : attempt.price = attempt.reservation.amountCents := by
      rw [← opened.sameAmount, begins.isInvocation]
      rfl
    rw [price] at isMandate
    refine ⟨?_, ?_, ?_⟩
    · rw [isMandate]
      exact Table.find_put_self opening.debit.found
    · simp [reservationEvent]
    · refine ⟨attempt.reservation, ?_, ?_⟩
      · rw [Table.find_insert opening.debit.inserted]
        exact if_pos rfl
      · rw [isMandate]
        exact opening.debit.ofMandate
  -- The other effects make no entry for a reservation.
  case moved toStatus _ _ => cases toStatus <;> cases isEntries
  case settled => cases (List.map_eq_singleton_iff.mp isEntries.symm).choose_spec.2
  case released => cases (List.map_eq_singleton_iff.mp isEntries.symm).choose_spec.2

/-- There are the states in which the calls have reserved. -/
def Sys.CallsReserved
    (env : Env)
    (allowed : Sys → Action → Prop)
    (s : Sys) :
    Prop :=
  ∀ call ∈ s.calls.rows, ∃ s₁,
    Reachable env allowed s₁ ∧
      Later env allowed s₁ s ∧ ReservedIn s₁.db call.attempt

/-- Every call has its mandate from the state in which it has reserved. -/
theorem reachable_callsReserved
    (reachable : Reachable env allowed s) :
    s.CallsReserved env allowed := by
  refine Transition.Reachable.invariant ?_ ?_ reachable
  · rintro _ rfl call member
    cases member
  · rintro s s' isReachable reserved ⟨action, isAllowed, taken⟩ call member
    have isStep : Later env allowed s s' := .single ⟨action, isAllowed, taken⟩
    have kept
        (old :
          ∃ before ∈ s.calls.rows, before.attempt = call.attempt) :
        ∃ s₁,
          Reachable env allowed s₁ ∧
            Later env allowed s₁ s' ∧ ReservedIn s₁.db call.attempt := by
      obtain ⟨before, inOld, same⟩ := old
      obtain ⟨s₁, isReachable₁, later, holds⟩ := reserved before inOld
      exact ⟨s₁, isReachable₁, later.trans isStep, same ▸ holds⟩
    have shape :=
      stepped (reachable_kept isReachable) (Discipline.free_allows action) taken
    rcases shape.call_origin call member with old | ⟨_, _, _, _, isInvoke, _⟩
    · exact kept old
    · subst isInvoke
      cases shape with
      | answered => exact kept ⟨call, member, rfl⟩
      | began begins effect _ inserted opens =>
          rcases (Table.mem_insert inserted).mp member with inOld | rfl
          · exact kept ⟨call, inOld, rfl⟩
          · exact
              ⟨_, isReachable.later isStep, .refl,
                begins.reservedIn effect opens⟩

/--
The session of a call shows its mandate until another session moves it: there is
the state in which the call has reserved, and unless something was debited,
escrowed or refunded on the mandate since, the call can commit what it shows.
-/
theorem call_shownBy_of_unmoved
    {call : InvokeCall}
    (reachable : Reachable env allowed s)
    (member : call ∈ s.calls.rows) :
    ∃ s₁,
      Reachable env allowed s₁ ∧
        Later env allowed s₁ s ∧
        ReservedIn s₁.db call.attempt ∧
        (¬MovedSince s₁.db s.db call.attempt.mandate.id →
          s.db.ShownBy call.attempt.sessionMandate
            call.attempt.reservation.id) := by
  obtain ⟨s₁, isReachable, later, reserved⟩ :=
    reachable_callsReserved reachable call member
  refine ⟨s₁, isReachable, later, reserved, ?_⟩
  intro unmoved
  have ofMandate :
      ∀ row ∈ s.db.reservations.find call.attempt.reservation.id,
        row.mandateId = call.attempt.mandate.id := by
    intro row isRow
    obtain ⟨old, found, isMandate⟩ := reserved.ofMandate
    obtain ⟨row', found', same⟩ :=
      (later_evolves isReachable later).reservations _ _ found
    cases isRow.symm.trans found'
    rw [same]
    exact isMandate
  refine shownBy_of_unmoved isReachable later ?_ ?_
  · intro row isRow
    rw [ofMandate row isRow]
    exact ⟨_, reserved.mandate, if_pos rfl⟩
  · intro row isRow
    rw [ofMandate row isRow]
    exact unmoved

/-- So the settlement of a call tells the truth unless its mandate was moved. -/
theorem finish_shown_of_unmoved
    {id : Id}
    {draw : FinishDraw}
    (reachable : Reachable env allowed s)
    (unmoved :
      ∀ call ∈ s.calls.find id, ∀ s₁,
        Later env allowed s₁ s →
          ReservedIn s₁.db call.attempt →
            ¬MovedSince s₁.db s.db call.attempt.mandate.id) :
    (Action.finish id draw).Shown s := by
  intro call isCall _
  obtain ⟨s₁, _, later, reserved, shown⟩ :=
    call_shownBy_of_unmoved reachable (Table.mem_of_find isCall)
  exact shown (unmoved call isCall s₁ later reserved)

end Unmoved

end Crossing
