import Crossing.OutboxRequeue

namespace Crossing

open Relational

/-!
# Delivered rows

A claim and a terminal UPDATE test the status of the row that they write.
`requeue_dead` writes back a row that it has read before, without a test: a
delivered row keeps its status as long as no such flush meets it.
-/

/-- The status of a row that is not delivered. -/
abbrev Undelivered (status : OutboxStatus) : Prop :=
  status ∉ [OutboxStatus.sent, .noop]

/-- Unless a flush meets it, a delivered row keeps its status. -/
theorem RowStep.delivered
    {id : Id}
    {old : Outbox}
    {row' : Option Outbox}
    {entries : List OutboxEntry}
    (step : RowStep Undelivered id (some old) row' entries)
    (delivered : old.status ∈ [OutboxStatus.sent, .noop]) :
    ∃ new, row' = some new ∧ new.status = old.status := by
  cases step with
  | still => exact ⟨old, rfl, rfl⟩
  | claimed _ _ isClaimable =>
      have waits := claimable_status isClaimable
      generalize old.status = status at delivered waits
      cases status <;> simp at delivered waits
  | recorded _ _ sending => simp [sending] at delivered
  | requeued _ _ undelivered => exact (undelivered delivered).elim

namespace OutboxSys

variable {s s' : OutboxSys} {id : Id}

/-- Once a row is committed as sent or noop, its status never changes. -/
theorem delivered_is_final
    {row : Outbox}
    (reachable : Reachable (Flushes Undelivered) s)
    (found : s.row id = some row)
    (delivered : row.status ∈ [OutboxStatus.sent, .noop])
    (run : Later (Flushes Undelivered) s s') :
    ∃ row', s'.row id = some row' ∧ row'.status = row.status := by
  induction run with
  | refl => exact ⟨row, found, rfl⟩
  | tail prior taken inductionHypothesis =>
      obtain ⟨row', found', same⟩ := inductionHypothesis
      obtain ⟨action, _, taken⟩ := taken
      have sound : Sound Undelivered _ :=
        reachable_sound (fun _ _ flushes => flushes) (reachable.later prior)
      obtain ⟨entries, step, _⟩ := sound.rowStep (step_took taken) id
      rw [found'] at step
      obtain ⟨row'', found'', same'⟩ := step.delivered (same ▸ delivered)
      exact ⟨row'', found'', same'.trans same⟩

/-- Two requeues read the dead row; the drain between their flushes delivers it. -/
def twoRequeues : List OutboxAction :=
  let now := 9 * 3600 * microsPerSecond
  attachedEarly ++
    [.selectDead 1 now (some 1), .view 2 1, .selectDead 2 now (some 1),
      .flush 1, .commitRequeue 1,
      .begin 0 now none 1, .select 0 [1]] ++
    drainRest .accepted now

/-- The second requeue makes the delivered row pending again. -/
theorem delivered_is_requeued :
    ∃ s s', Reachable Unrestricted s ∧
      (s.row 1).map Outbox.status = some .sent ∧
      Later Unrestricted s s' ∧
      (s'.row 1).map Outbox.status = some .pending := by
  have runs :
      ((start.play Unrestricted twoRequeues).bind fun s =>
        (s.play Unrestricted [.flush 2, .commitRequeue 2]).map fun s' =>
          ((s.row 1).map Outbox.status, (s'.row 1).map Outbox.status)) =
        some (some .sent, some .pending) := by
    decide +kernel
  obtain ⟨s, played, goesOn⟩ := Option.bind_eq_some_iff.mp runs
  obtain ⟨s', flushes, facts⟩ := Option.map_eq_some_iff.mp goesOn
  simp only [Prod.mk.injEq] at facts
  exact
    ⟨s, s', reachable_of_play played, facts.1, later_of_play flushes,
      facts.2⟩

/-- A row that is delivered stays so while another requeue finds nothing. -/
theorem delivered_is_final_requeue :
    ∃ s s', (s.row 1).map Outbox.status = some .sent ∧
      Later (Flushes Undelivered) s s' ∧
      (s'.row 1).map Outbox.status = some .sent := by
  have runs :
      ((start.play (Flushes Undelivered) twoRequeues).bind fun s =>
        (s.play (Flushes Undelivered)
            [.selectDead 3 0 none, .commitRequeue 3]).map fun _ =>
          (s.row 1).map Outbox.status) =
        some (some .sent) := by
    decide +kernel
  obtain ⟨s, played, goesOn⟩ := Option.bind_eq_some_iff.mp runs
  obtain ⟨s', requeues, isSent⟩ := Option.map_eq_some_iff.mp goesOn
  obtain ⟨row, found, sent⟩ := Option.map_eq_some_iff.mp isSent
  have later := later_of_play requeues
  obtain ⟨row', found', same⟩ :=
    delivered_is_final (reachable_of_play played) found (by simp [sent]) later
  exact ⟨s, s', isSent, later, by simp [found', same, sent]⟩

end OutboxSys

end Crossing
