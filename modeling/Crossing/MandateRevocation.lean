import Crossing.Tenancy

namespace Crossing

open Relational
open Relational.Transaction

/-!
# Revocation of mandates

`revoke_mandate` flags one row, and the guards of the debit and of the escrow
read that row as it is when they commit.  So a revoked mandate is never debited
again and has no further children, whatever its callers have read.  The flag is
not passed on: mandates that were issued from it before stay usable.
-/

/-- The mandate is stored and flagged. -/
def Db.RevokedMandate (db : Db) (mandateId : Id) : Prop :=
  db.MandateHas (·.revoked = true) mandateId

section Steps

variable
  {env : Env}
  {discipline : Discipline}
  {db db' : Db}
  {s s' : Sys}
  {action : Action}
  {mandateId : Id}

/-- The flag of a mandate is kept. -/
theorem Db.RevokedMandate.evolves
    (revoked : db.RevokedMandate mandateId)
    (evolves : Evolves db db') :
    db'.RevokedMandate mandateId := by
  obtain ⟨mandate, found, flagged⟩ := revoked
  obtain ⟨mandate', found', same⟩ := evolves.mandates _ _ found
  exact ⟨mandate', found', same.2 flagged⟩

/-- A stored mandate that is not flagged is not revoked. -/
theorem Db.RevokedMandate.not_live
    {mandate : Mandate}
    (revoked : db.RevokedMandate mandateId)
    (found : db.mandates.find mandateId = some mandate) :
    mandate.revoked ≠ false := by
  obtain ⟨row, rowFound, flagged⟩ := revoked
  cases rowFound.symm.trans found
  simp [flagged]

/-- What `revoke_mandate` does to the mandates. -/
theorem revokeMandate_mandates
    {views : Views}
    {done : Unit}
    (returned : exec (revokeMandate views mandateId) db = (.ok done, db')) :
    (∃ seen, (views 0).mandates.find mandateId = some seen) ∧
      db'.mandates =
        db.mandates.modify mandateId fun row => { row with revoked := true } := by
  obtain ⟨mandate, _, present, afterPresent⟩ := bind_ok returned
  obtain ⟨found, rfl⟩ := orRaise_ok present
  cases afterPresent
  exact ⟨⟨mandate, found⟩, rfl⟩

/-- A flagged row is under its own key. -/
theorem revoked_keepsKey (row : Mandate) :
    Keyed.key { row with revoked := true } = Keyed.key row :=
  rfl

/-- `revoke_mandate` flags a stored mandate. -/
theorem revokeMandate_ok
    {views : Views}
    {done : Unit}
    (seen : Seen views db)
    (returned : exec (revokeMandate views mandateId) db = (.ok done, db')) :
    db'.RevokedMandate mandateId := by
  obtain ⟨⟨_, found⟩, modified⟩ := revokeMandate_mandates returned
  obtain ⟨row, stored, _⟩ := (seen 0).mandates _ _ found
  refine ⟨{ row with revoked := true }, ?_, rfl⟩
  rw [modified, Table.find_modify revoked_keepsKey]
  simp [stored]

/-- `revoke_mandate` leaves every other mandate as it is. -/
theorem revokeMandate_others
    {views : Views}
    {done : Unit}
    {otherId : Id}
    (returned : exec (revokeMandate views mandateId) db = (.ok done, db'))
    (isOther : otherId ≠ mandateId) :
    db'.mandates.find otherId = db.mandates.find otherId := by
  rw [(revokeMandate_mandates returned).2, Table.find_modify revoked_keepsKey,
    if_neg isOther.symm]

/-- A committed `revoke_mandate` leaves its mandate flagged. -/
theorem Stepped.revokesMandate
    {ages : List Nat}
    (stepped :
      Stepped env discipline s (.txn ages (.revokeMandate mandateId)) s')
    (kept : s.Kept env) :
    s'.db.RevokedMandate mandateId := by
  cases stepped with
  | txn ran _ =>
      obtain ⟨_, run, _⟩ := map_ok ran
      exact revokeMandate_ok (kept.seen ages) run

/-- It leaves every other mandate as it was. -/
theorem Stepped.revokesNoOther
    {ages : List Nat}
    {otherId : Id}
    (stepped :
      Stepped env discipline s (.txn ages (.revokeMandate mandateId)) s')
    (isOther : otherId ≠ mandateId) :
    s'.db.mandates.find otherId = s.db.mandates.find otherId := by
  cases stepped with
  | txn ran _ =>
      obtain ⟨_, run, _⟩ := map_ok ran
      exact revokeMandate_others run isOther

/-- No reservation is made under a revoked mandate. -/
theorem Stepped.no_reservation
    {reservation : Reservation}
    (stepped : Stepped env discipline s action s')
    (revoked : s.db.RevokedMandate mandateId)
    (member : reservation ∈ s'.db.reservations.rows)
    (under : reservation.mandateId = mandateId) :
    ∃ before, s.db.reservations.find reservation.id = some before := by
  obtain ⟨_, _, effect⟩ := stepped.effect
  rcases effect.reservation_origin member with isOld | reservedNow
  · exact isOld
  · obtain ⟨mandate, found, live⟩ := reservedNow.ofMandate
    rw [under] at found
    exact (revoked.not_live found live).elim

/-- No child is issued from a revoked mandate. -/
theorem Stepped.no_child
    {child : Mandate}
    (stepped : Stepped env discipline s action s')
    (kept : s.Kept env)
    (revoked : s.db.RevokedMandate mandateId)
    (member : child ∈ s'.db.mandates.rows)
    (link : child.parentMandateId = some mandateId) :
    ∃ before, s.db.mandates.find child.id = some before := by
  rcases stepped.mandate_origin kept member with isOld | issues
  · exact isOld
  · obtain ⟨issued⟩ := issues
    obtain ⟨_, parent, _, found, _, live, _⟩ := issued.parentChecked link
    exact (revoked.not_live found live).elim

end Steps

section Runs

variable
  {env : Env}
  {allowed : Sys → Action → Prop}
  {s s' : Sys}
  {mandateId : Id}

/-- What was reserved or issued under a mandate was so in an earlier state. -/
structure Sys.Ended (before after : Sys) (mandateId : Id) : Prop where
  reservations :
    ∀ reservation ∈ after.db.reservations.rows,
      reservation.mandateId = mandateId →
        ∃ row, before.db.reservations.find reservation.id = some row
  children :
    ∀ child ∈ after.db.mandates.rows,
      child.parentMandateId = some mandateId →
        ∃ row, before.db.mandates.find child.id = some row

/-- A step under a revoked mandate reserves and issues nothing. -/
theorem Sys.Ended.step
    {before : Sys}
    {discipline : Discipline}
    {action : Action}
    (ended : before.Ended s mandateId)
    (kept : s.Kept env)
    (revoked : s.db.RevokedMandate mandateId)
    (stepped : Stepped env discipline s action s') :
    before.Ended s' mandateId where
  reservations := by
    intro reservation member under
    obtain ⟨row, found⟩ := stepped.no_reservation revoked member under
    have same := stepped.evolves.reservations.related found
      (Table.find_of_mem member)
    have rowId : row.id = reservation.id := Table.key_of_find found
    rw [same] at under
    rw [← rowId]
    exact ended.reservations row (Table.mem_of_find found) under
  children := by
    intro child member link
    obtain ⟨row, found⟩ := stepped.no_child kept revoked member link
    have same := stepped.evolves.mandates.related found
      (Table.find_of_mem member)
    have rowId : row.id = child.id := Table.key_of_find found
    rw [same.parentMandateId] at link
    rw [← rowId]
    exact ended.children row (Table.mem_of_find found) link

/--
`revoke_mandate` changes no other mandate, and once it has committed nothing is
reserved under its mandate and no child is issued from it any more.
-/
theorem revocation_ends_authority
    {revoked : Sys}
    {ages : List Nat}
    (reachable : Reachable env (fun _ _ => True) s)
    (revokes :
      step env s (.txn ages (.revokeMandate mandateId)) = some revoked)
    (later : Later env (fun _ _ => True) revoked s') :
    (∀ otherId, otherId ≠ mandateId →
        revoked.db.mandates.find otherId = s.db.mandates.find otherId) ∧
      revoked.Ended s' mandateId := by
  have isReachable : Reachable env (fun _ _ => True) revoked :=
    reachable.next ⟨_, trivial, revokes⟩
  have kept := reachable_kept reachable
  have shape := stepped kept (Discipline.free_allows _) revokes
  have flagged := shape.revokesMandate kept
  refine ⟨fun _ isOther => shape.revokesNoOther isOther, ?_⟩
  refine
    (Transition.later_invariant
      (fun s =>
        s.db.RevokedMandate mandateId ∧ revoked.Ended s mandateId)
      ?_ isReachable ⟨flagged, ?_⟩ later).2
  · rintro s s' isReachable ⟨flagged, ended⟩ ⟨action, _, taken⟩
    have kept := reachable_kept isReachable
    have shape := stepped kept (Discipline.free_allows action) taken
    exact ⟨flagged.evolves shape.evolves, ended.step kept flagged shape⟩
  · constructor
    · intro reservation member _
      exact ⟨reservation, Table.find_of_mem member⟩
    · intro child member _
      exact ⟨child, Table.find_of_mem member⟩

end Runs

/-! ## A child outlives its parent -/

/-- A child spends and delegates on, after the mandate above it was revoked. -/
def spendOn : List Action :=
  [.invoke [] { call with mandateId := 2 } (drawTen 1),
    .txn []
      (.issueMandate noon noon
        { principalId := 1
          agentId := 2
          spendLimitCents := 20
          parentMandateId := some 2 }
        3 "n3")]

/-- The first mandate is revoked, and then its child spends on. -/
theorem revoked_then_spent_on :
    ∃ s revoked s',
      Reachable .plain (fun _ _ => True) s ∧
        step .plain s (.txn [] (.revokeMandate 1)) = some revoked ∧
        Later .plain (fun _ _ => True) revoked s' ∧
        revoked.calls.find 1 = none ∧
        revoked.db.mandates.find 3 = none ∧
        s'.db.books.parentOf 2 = some 1 ∧
        (∃ call, s'.calls.find 1 = some call ∧
          call.attempt.reservation.mandateId = 2) ∧
        ∃ child, s'.db.mandates.find 3 = some child ∧
          child.parentMandateId = some 2 := by
  have checked :
      (run .plain Sys.start delegate).any
          (fun s =>
            (step .plain s (.txn [] (.revokeMandate 1))).any
              fun revoked =>
                (run .plain revoked spendOn).any fun s' =>
                  (revoked.calls.find 1).isNone &&
                    (revoked.db.mandates.find 3).isNone &&
                    s'.db.books.parentOf 2 = some 1 &&
                    (s'.calls.find 1).any
                      (·.attempt.reservation.mandateId = 2) &&
                    (s'.db.mandates.find 3).any
                      (·.parentMandateId = some 2)) =
        true := by
    decide
  obtain ⟨s, reachable, passes⟩ :=
    reachable_of_check (.of_forall (fun _ _ _ => trivial) _) checked
  obtain ⟨revoked, revokes, passes⟩ := (Option.any_eq_true _ _).mp passes
  obtain ⟨s', ran, passes⟩ := (Option.any_eq_true _ _).mp passes
  simp only [Bool.and_eq_true, Option.isNone_iff_eq_none, decide_eq_true_eq,
    Option.any_eq_true] at passes
  obtain ⟨⟨⟨⟨noCall, noChild⟩, link⟩, isCall⟩, isChild⟩ := passes
  exact ⟨s, revoked, s', reachable, revokes,
    later_of_run (.of_forall (fun _ _ _ => trivial) _) ran, noCall, noChild,
    link, isCall, isChild⟩

/-- The law for a mandate whose child spends on. -/
theorem revocation_ends_authority_example :
    ∃ s revoked s' : Sys,
      Later .plain (fun _ _ => True) revoked s' ∧
        revoked.db.mandates.find 3 = none ∧
        (∃ child, s'.db.mandates.find 3 = some child) ∧
        (∀ otherId, otherId ≠ 1 →
          revoked.db.mandates.find otherId = s.db.mandates.find otherId) ∧
        revoked.Ended s' 1 := by
  obtain ⟨s, revoked, s', reachable, revokes, later, _, noChild, _, _, child,
    found, _⟩ := revoked_then_spent_on
  exact ⟨s, revoked, s', later, noChild, ⟨child, found⟩,
    revocation_ends_authority reachable revokes later⟩

/--
After a mandate was revoked, a call debits its child, and the child is delegated
further.
-/
theorem revoked_parent_outlived :
    ∃ s revoked s' call child,
      Reachable .plain (fun _ _ => True) s ∧
        step .plain s (.txn [] (.revokeMandate 1)) = some revoked ∧
        Later .plain (fun _ _ => True) revoked s' ∧
        (s'.calls.find 1 = some call ∧
          revoked.calls.find 1 = none ∧
          Delegation.SelfOrAncestor s'.db.books.parentOf
            call.attempt.reservation.mandateId 1) ∧
        s'.db.mandates.find 3 = some child ∧
          revoked.db.mandates.find 3 = none ∧
          ∃ parentId, child.parentMandateId = some parentId ∧
            Delegation.SelfOrAncestor s'.db.books.parentOf parentId 1 := by
  obtain ⟨s, revoked, s', reachable, revokes, later, noCall, noChild, link,
    ⟨call, isCall, ofChild⟩, child, isChild, below⟩ := revoked_then_spent_on
  have above : Delegation.SelfOrAncestor s'.db.books.parentOf 2 1 :=
    .step link (.refl _ 1)
  exact ⟨s, revoked, s', call, child, reachable, revokes, later,
    ⟨isCall, noCall, ofChild.symm ▸ above⟩, isChild, noChild, 2, below,
    above⟩

end Crossing
