import Crossing.ReserveOutcomes
import Crossing.Runs

namespace Crossing

open Relational
open Relational.Transaction

/-!
# Why a debit failed

The guard of the debit is a WHERE clause over the row.  The denial is explained
by a second test, over the object that the session holds, which is an earlier
version of the row.  The two agree on expiry except at the instant of expiry,
and on money and calls as far as the object is up to date.
-/

/-- `now > expires_at`, the expiry test of the explanation. -/
def pastExpiry (now : Datetime) (row : Mandate) : Bool :=
  row.expiresAt.any fun expires => (asUtc expires).wall < (asUtc now).wall

/-- `max_calls is not None and calls_used >= max_calls`. -/
def Mandate.callsUsedUp (row : Mandate) : Bool :=
  row.maxCalls.any (· ≤ row.callsUsed)

/-- A mandate that is past its expiry does not pass the guard. -/
theorem notExpired_of_pastExpiry
    {now : Datetime}
    {row : Mandate}
    (past : pastExpiry now row = true) :
    notExpired now row = false := by
  unfold pastExpiry at past
  unfold notExpired
  cases isExpiry : row.expiresAt with
  | none =>
      rw [isExpiry] at past
      cases past
  | some expires =>
      rw [isExpiry] at past
      have before : (asUtc expires).wall < (asUtc now).wall := by
        simpa using past
      simpa using le_of_lt before

/-- The reason of a denial, for an object that is not revoked. -/
theorem reserveDenyReason_eq
    {now : Datetime}
    {object : Mandate}
    {amountCents : Cents}
    (unrevoked : object.revoked = false) :
    reserveDenyReason now (some object) amountCents =
      if pastExpiry now object then
        .mandateExpired
      else if amountCents ≤ object.remainingCents ∧ object.callsUsedUp then
        .maxCallsExceeded
      else
        .budgetExceeded := by
  have sameExpiry :
      (∃ expires ∈ object.expiresAt.map asUtc,
          (asUtc now).wall > expires.wall) ↔
        pastExpiry now object = true := by
    cases isExpiry : object.expiresAt <;> simp [pastExpiry, isExpiry]
  have sameCalls :
      (∃ maxCalls ∈ object.maxCalls, object.callsUsed ≥ maxCalls) ↔
        object.callsUsedUp = true := by
    simp [Mandate.callsUsedUp, Option.any_eq_true]
  simp only [reserveDenyReason, unrevoked, Bool.false_eq_true, ↓reduceIte,
    sameExpiry, sameCalls]
  by_cases past : pastExpiry now object = true
  · simp [past]
  · by_cases short : object.remainingCents < amountCents
    · have notCovered : ¬ amountCents ≤ object.remainingCents :=
        not_le.mpr short
      simp [past, short, notCovered]
    · have covered : amountCents ≤ object.remainingCents := not_lt.mp short
      simp [past, short, covered]

/-- The outcome of a debit names the clause that its row does not pass. -/
structure Explained
    {α : Type}
    (now : Datetime)
    (row : Mandate)
    (amountCents : Cents)
    (outcome : Except Raised α) :
    Prop where
  raises :
    (∃ outcome', outcome = .error (denied outcome')) ↔
      debitGuard now amountCents row = false
  expired :
    ∀ detail, outcome = .error (denied ⟨.mandateExpired, detail⟩) →
      notExpired now row = false
  budget :
    ∀ detail, outcome = .error (denied ⟨.budgetExceeded, detail⟩) →
      row.remainingCents < amountCents
  calls :
    ∀ detail, outcome = .error (denied ⟨.maxCallsExceeded, detail⟩) →
      ∃ maxCalls, row.maxCalls = some maxCalls ∧ maxCalls ≤ row.callsUsed

/-- A denial explains a failed debit when its reason is one of the row. -/
theorem explained_denied
    {α : Type}
    {now : Datetime}
    {row : Mandate}
    {amountCents : Cents}
    {outcome : Denied}
    (refused : debitGuard now amountCents row = false) :
    Explained now row amountCents (.error (denied outcome) : Except Raised α) ↔
      (outcome.reason = .mandateExpired → notExpired now row = false) ∧
        (outcome.reason = .budgetExceeded →
          row.remainingCents < amountCents) ∧
        (outcome.reason = .maxCallsExceeded → row.callsUsedUp = true) := by
  have usedUp :
      row.callsUsedUp = true ↔
        ∃ maxCalls, row.maxCalls = some maxCalls ∧
          maxCalls ≤ row.callsUsed := by
    simp [Mandate.callsUsedUp, Option.any_eq_true]
  obtain ⟨reason, detail⟩ := outcome
  constructor
  · intro explained
    refine ⟨?_, ?_, ?_⟩
    · rintro rfl
      exact explained.expired detail rfl
    · rintro rfl
      exact explained.budget detail rfl
    · rintro rfl
      exact usedUp.mpr (explained.calls detail rfl)
  · rintro ⟨expired, budget, calls⟩
    refine ⟨by simp [refused], ?_, ?_, ?_⟩
    · intro detail' same
      cases same
      exact expired rfl
    · intro detail' same
      cases same
      exact budget rfl
    · intro detail' same
      cases same
      exact usedUp.mp (calls rfl)

/-- The shortage that the object shows is one that the row has. -/
def SharesShortage (amountCents : Cents) (object row : Mandate) : Prop :=
  if amountCents ≤ object.remainingCents ∧ object.callsUsedUp = true then
    row.callsUsedUp = true
  else
    row.remainingCents < amountCents

/--
A failed debit is explained by the clause that failed exactly when it does not
fail, or fails past the expiry, or for the shortage that the object shows.
-/
theorem debit_explained_iff
    {db : Db}
    {now : Datetime}
    {object row : Mandate}
    {amountCents : Cents}
    {idempotencyKey nonce : Option String}
    {taskId : Option Id}
    {recordDeny : Bool}
    {newId : Id}
    (stored : db.mandates.find object.id = some row)
    (earlier : object.SameTerms row)
    (unrevoked : row.revoked = false)
    (nonnegative : 0 ≤ amountCents) :
    Explained now row amountCents
        (exec
          (reserve now object amountCents idempotencyKey nonce taskId
            recordDeny newId)
          db).1 ↔
      debitGuard now amountCents row = true ∨
        pastExpiry now row = true ∨
        SharesShortage amountCents object row := by
  cases passes : debitGuard now amountCents row with
  | true =>
      rw [reserve_debitable nonnegative stored passes]
      refine iff_of_true ?_ (.inl rfl)
      -- The only exception left is that of a taken id.
      cases db.reservations.insert?
          (heldReservation newId row amountCents idempotencyKey nonce) <;>
        exact
          { raises := by simp [passes]
            expired := by simp
            budget := by simp
            calls := by simp }
  | false =>
      have refused : ¬ Debitable db now object.id amountCents := by
        rintro ⟨other, found, passesOther⟩
        cases stored.symm.trans found
        rw [passes] at passesOther
        cases passesOther
      rw [reserve_refused nonnegative refused]
      have objectUnrevoked : object.revoked = false := by
        cases isRevoked : object.revoked with
        | false => rfl
        | true =>
            rw [earlier.2 isRevoked] at unrevoked
            cases unrevoked
      have samePast : pastExpiry now object = pastExpiry now row := by
        rw [earlier.1]
        rfl
      have reason :
          (refusedDebit now object amountCents).reason =
            if pastExpiry now row then
              .mandateExpired
            else if amountCents ≤ object.remainingCents ∧
                object.callsUsedUp then
              .maxCallsExceeded
            else
              .budgetExceeded := by
        rw [← samePast]
        exact reserveDenyReason_eq objectUnrevoked
      rw [explained_denied passes]
      by_cases past : pastExpiry now row = true
      · rw [if_pos past] at reason
        refine iff_of_true ?_ (.inr (.inl past))
        simp [reason, notExpired_of_pastExpiry past]
      rw [if_neg past] at reason
      by_cases usedUp :
          amountCents ≤ object.remainingCents ∧ object.callsUsedUp = true
      · rw [if_pos usedUp] at reason
        simp [reason, past, SharesShortage, usedUp]
      · rw [if_neg usedUp] at reason
        simp [reason, past, SharesShortage, usedUp]

/-- A debit of more than the mandate has is explained. -/
theorem debit_explained_iff_short :
    ∃ s row,
      Reachable .plain (fun _ _ => True) s ∧
        s.db.mandates.find 1 = some row ∧
        Explained noon row 200
          (exec (reserve noon row 200 none none none true 1) s.db).1 := by
  have checked :
      (run .plain Sys.start deploy).any
          (fun s => (s.db.mandates.find 1).any fun row =>
            row.revoked = false && row.remainingCents < 200 &&
              row.callsUsedUp = false) =
        true := by
    decide
  obtain ⟨s, reachable, passes⟩ :=
    reachable_of_check (.of_forall (fun _ _ _ => trivial) _) checked
  simp only [Option.any_eq_true, Bool.and_eq_true, decide_eq_true_eq]
    at passes
  obtain ⟨row, found, ⟨unrevoked, short⟩, notUsedUp⟩ := passes
  have stored : s.db.mandates.find row.id = some row :=
    Table.find_of_mem (Table.mem_of_find found)
  refine ⟨s, row, reachable, found, ?_⟩
  refine
    (debit_explained_iff stored (.refl row) unrevoked (by decide)).mpr
      (.inr (.inr ?_))
  simp [SharesShortage, notUsedUp, short]

/-- The outcome is a denial for this reason. -/
def isDeniedFor {α : Type} (reason : Reason) : Except Raised α → Bool
  | .error (.policyDenied outcome) => outcome.reason = reason
  | _ => false

/-- A denial for a reason that the row does not bear out is not explained. -/
theorem not_explained_of_budget
    {α : Type}
    {now : Datetime}
    {row : Mandate}
    {amountCents : Cents}
    {outcome : Except Raised α}
    (isDenied : isDeniedFor .budgetExceeded outcome = true)
    (covered : amountCents ≤ row.remainingCents) :
    ¬ Explained now row amountCents outcome := by
  intro explained
  cases outcome with
  | ok value => cases isDenied
  | error exception =>
      cases exception with
      | policyDenied outcome =>
          obtain ⟨reason, detail⟩ := outcome
          have isBudget : reason = .budgetExceeded := by
            simpa [isDeniedFor] using isDenied
          subst isBudget
          exact absurd (explained.budget detail rfl) (not_lt.mpr covered)
      | _ => cases isDenied

/-- A mandate of one call that expires at noon, and another that does not. -/
def twoMandates : List Action :=
  [.txn [] (.createPrincipal none none 1 1),
    .txn [] (.createAgent 1 none 1),
    .txn []
      (.issueMandate noon noon
        { principalId := 1
          agentId := 1
          spendLimitCents := 100
          expiresAt := some noon }
        1 "n1"),
    .txn []
      (.issueMandate noon noon
        { principalId := 1
          agentId := 1
          spendLimitCents := 100
          maxCalls := some 1 }
        2 "n2"),
    .invoke [] { call with mandateId := 2 } (drawTen 1)]

/-- The failed debit of five cents is blamed on money that the row has. -/
def blamesMoney (db : Db) (object : Mandate) : Bool :=
  (db.mandates.find object.id).any fun row =>
    row.revoked = false && 5 ≤ row.remainingCents &&
      isDeniedFor .budgetExceeded
        (exec (reserve noon object 5 none none none true 2) db).1

/-- A debit that is blamed on money is not explained. -/
theorem not_explained_of_blamesMoney
    {db : Db}
    {object : Mandate}
    (blames : blamesMoney db object = true) :
    ∃ row,
      db.mandates.find object.id = some row ∧
        row.revoked = false ∧
        ¬ Explained noon row 5
          (exec (reserve noon object 5 none none none true 2) db).1 := by
  simp only [blamesMoney, Option.any_eq_true, Bool.and_eq_true,
    decide_eq_true_eq] at blames
  obtain ⟨row, found, ⟨unrevoked, covered⟩, isDenied⟩ := blames
  exact ⟨row, found, unrevoked, not_explained_of_budget isDenied covered⟩

/--
Two debits that are not explained: one at the instant of expiry, and one whose
call another session has used up since the object was loaded.
-/
theorem debits_not_explained :
    ∃ s object other,
      Reachable .plain (fun _ _ => True) s ∧
        s.db.mandates.find 1 = some object ∧
        (∃ row,
          s.db.mandates.find object.id = some row ∧
            row.revoked = false ∧
            ¬ Explained noon row 5
              (exec (reserve noon object 5 none none none true 2) s.db).1) ∧
        s.Known Db.mandates other ∧
        (∃ row,
          s.db.mandates.find other.id = some row ∧
            row.revoked = false ∧
            ¬ Explained noon row 5
              (exec (reserve noon other 5 none none none true 2) s.db).1) := by
  have checked :
      (run .plain Sys.start twoMandates).any
          (fun s =>
            (s.db.mandates.find 1).any (blamesMoney s.db) &&
              s.past.any fun view =>
                (view.mandates.find 2).any (blamesMoney s.db)) =
        true := by
    decide +kernel
  obtain ⟨s, reachable, passes⟩ :=
    reachable_of_check (.of_forall (fun _ _ _ => trivial) _) checked
  simp only [Option.any_eq_true, Bool.and_eq_true, List.any_eq_true] at passes
  obtain ⟨⟨object, found, blames⟩, view, isPast, other, isOther, blamesOther⟩ :=
    passes
  have isKnown : view.mandates.find other.id = some other :=
    Table.find_of_mem (Table.mem_of_find isOther)
  exact
    ⟨s, object, other, reachable, found, not_explained_of_blamesMoney blames,
      ⟨view, List.mem_cons_of_mem _ isPast, isKnown⟩,
      not_explained_of_blamesMoney blamesOther⟩

end Crossing
