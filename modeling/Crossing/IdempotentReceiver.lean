import Mathlib.Data.List.Basic

namespace Messaging

/-!
# Idempotent receivers

A receiver takes deliveries one after another.  A delivery may fail, and then
it leaves the state alone; one that succeeds marks its message as handled, and
a later delivery of that message leaves the state alone.  The runs of such a
receiver do not depend on failed and repeated deliveries.
-/

/-- A receiver of deliveries `δ` in states `σ`, for messages named by `κ`. -/
structure IdempotentReceiver (σ δ κ : Type) where
  /-- The delivery succeeds, and the state it leaves. -/
  deliver : δ → σ → Bool × σ
  message : δ → κ
  Handled : σ → κ → Prop
  failed_unchanged :
    ∀ {delivery state},
      (deliver delivery state).1 = false →
      (deliver delivery state).2 = state
  repeated_unchanged :
    ∀ {delivery state},
      Handled state (message delivery) →
      (deliver delivery state).2 = state
  succeeded_handles :
    ∀ {delivery state},
      (deliver delivery state).1 = true →
      ∀ name,
        Handled (deliver delivery state).2 name ↔
          Handled state name ∨ name = message delivery

namespace IdempotentReceiver

variable {σ δ κ : Type} (receiver : IdempotentReceiver σ δ κ)

/-- The state after a sequence of deliveries. -/
def run : σ → List δ → σ
  | state, [] => state
  | state, delivery :: rest => run (receiver.deliver delivery state).2 rest

/-- The messages with a successful delivery. -/
def succeeded : σ → List δ → List κ
  | _, [] => []
  | state, delivery :: rest =>
      let (success, state') := receiver.deliver delivery state
      if success then
        receiver.message delivery :: succeeded state' rest
      else
        succeeded state' rest

variable [DecidableEq κ]

/-- The deliveries that are the first to succeed for a message not in `done`. -/
def firstSuccesses : List κ → σ → List δ → List δ
  | _, _, [] => []
  | done, state, delivery :: rest =>
      let (success, state') := receiver.deliver delivery state
      if success ∧ receiver.message delivery ∉ done then
        delivery ::
          firstSuccesses (receiver.message delivery :: done) state' rest
      else
        firstSuccesses done state' rest

/-- Failed and repeated deliveries may be left out of a run. -/
theorem run_firstSuccesses
    {done : List κ}
    {state : σ}
    (handled : ∀ name ∈ done, receiver.Handled state name)
    (deliveries : List δ) :
    receiver.run state (receiver.firstSuccesses done state deliveries) =
      receiver.run state deliveries := by
  induction deliveries generalizing done state with
  | nil => rfl
  | cons delivery rest inductionHypothesis =>
      simp only [firstSuccesses, run]
      by_cases success : (receiver.deliver delivery state).1 = true
      · by_cases repeated : receiver.message delivery ∈ done
        · -- The message was handled before: the state stays.
          have same := receiver.repeated_unchanged (handled _ repeated)
          simp only [repeated, not_true_eq_false, and_false, ↓reduceIte, same]
          exact inductionHypothesis handled
        · simp only [success, repeated, not_false_eq_true, and_self,
            ↓reduceIte, run]
          apply inductionHypothesis
          intro name member
          rw [receiver.succeeded_handles success]
          rcases List.mem_cons.mp member with rfl | inDone
          · exact .inr rfl
          · exact .inl (handled name inDone)
      · have same := receiver.failed_unchanged (by simpa using success)
        simp only [success, false_and, Bool.false_eq_true, ↓reduceIte, same]
        exact inductionHypothesis handled

omit [DecidableEq κ] in
/-- A run handles the messages that it delivers successfully, and no others. -/
theorem handled_run
    (state : σ)
    (deliveries : List δ)
    (name : κ) :
    receiver.Handled (receiver.run state deliveries) name ↔
      receiver.Handled state name ∨
        name ∈ receiver.succeeded state deliveries := by
  induction deliveries generalizing state with
  | nil => simp [run, succeeded]
  | cons delivery rest inductionHypothesis =>
      simp only [run, succeeded]
      rw [inductionHypothesis]
      by_cases success : (receiver.deliver delivery state).1 = true
      · rw [receiver.succeeded_handles success]
        simp [success, or_assoc]
      · have same := receiver.failed_unchanged (by simpa using success)
        simp [success, same]

omit [DecidableEq κ] in
/-- Deliveries that always fail may be left out of a run. -/
theorem run_filter
    {keeps : δ → Bool}
    (fails :
      ∀ delivery state, keeps delivery = false →
        (receiver.deliver delivery state).1 = false)
    (state : σ)
    (deliveries : List δ) :
    receiver.run state (deliveries.filter keeps) =
        receiver.run state deliveries ∧
      receiver.succeeded state (deliveries.filter keeps) =
        receiver.succeeded state deliveries := by
  induction deliveries generalizing state with
  | nil => exact ⟨rfl, rfl⟩
  | cons delivery rest inductionHypothesis =>
      cases kept : keeps delivery with
      | true =>
          simp only [List.filter_cons_of_pos kept, run, succeeded,
            inductionHypothesis, and_self]
      | false =>
          have failed := fails delivery state kept
          have same := receiver.failed_unchanged failed
          have dropped : ¬ keeps delivery = true := by simp [kept]
          simp only [List.filter_cons_of_neg dropped, run, succeeded, failed,
            same, inductionHypothesis, Bool.false_eq_true, ↓reduceIte,
            and_self]

end IdempotentReceiver

end Messaging
