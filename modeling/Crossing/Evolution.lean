import Crossing.LedgerSpec
import Crossing.System

namespace Crossing

open Relational

/-!
# What never changes

Rows are not deleted (claims apart), and most columns are written once.  Two
states of one database are related by `Evolves` when the later one keeps every
row of the earlier one up to the columns that may move.
-/

/-- A mandate keeps its terms; its counters move and it may get revoked. -/
def Mandate.SameTerms (old new : Mandate) : Prop :=
  new =
      { old with
        remainingCents := new.remainingCents
        callsUsed := new.callsUsed
        revoked := new.revoked } ∧
    (old.revoked = true → new.revoked = true)

/-- An agent keeps its place in the forest and stays revoked. -/
def Agent.SameAgent (old new : Agent) : Prop :=
  new = { old with revoked := new.revoked } ∧
    (old.revoked = true → new.revoked = true)

/-- An attempt keeps everything but its status. -/
def Invocation.SameAttempt (old new : Invocation) : Prop :=
  new = { old with status := new.status }

/-- A reservation keeps everything but its status. -/
def Reservation.SameHold (old new : Reservation) : Prop :=
  new = { old with status := new.status }

/-- An account keeps its identity and what it was invoiced. -/
def Account.SameAccount (old new : Account) : Prop :=
  new.id = old.id ∧ new.feeInvoicedCents = old.feeInvoicedCents

namespace Mandate.SameTerms

theorem refl (mandate : Mandate) : mandate.SameTerms mandate :=
  ⟨rfl, fun revoked => revoked⟩

theorem trans
    {first second third : Mandate}
    (one : first.SameTerms second)
    (two : second.SameTerms third) :
    first.SameTerms third := by
  obtain ⟨shape, stays⟩ := one
  obtain ⟨shape', stays'⟩ := two
  refine ⟨?_, fun revoked => stays' (stays revoked)⟩
  rw [shape', shape]

/-- The tools of a mandate do not change. -/
theorem toolsList {old new : Mandate} (same : old.SameTerms new) :
    new.toolsList = old.toolsList := by
  rw [same.1]
  rfl

/-- The servers of a mandate do not change. -/
theorem serversList {old new : Mandate} (same : old.SameTerms new) :
    new.serversList = old.serversList := by
  rw [same.1]
  rfl

/-- The parent of a mandate does not change. -/
theorem parentMandateId {old new : Mandate} (same : old.SameTerms new) :
    new.parentMandateId = old.parentMandateId := by
  rw [same.1]

end Mandate.SameTerms

namespace Agent.SameAgent

theorem refl (agent : Agent) : agent.SameAgent agent :=
  ⟨rfl, fun revoked => revoked⟩

theorem trans
    {first second third : Agent}
    (one : first.SameAgent second)
    (two : second.SameAgent third) :
    first.SameAgent third := by
  obtain ⟨shape, stays⟩ := one
  obtain ⟨shape', stays'⟩ := two
  refine ⟨?_, fun revoked => stays' (stays revoked)⟩
  rw [shape', shape]

end Agent.SameAgent

namespace Invocation.SameAttempt

theorem refl (invocation : Invocation) : invocation.SameAttempt invocation :=
  rfl

theorem trans
    {first second third : Invocation}
    (one : first.SameAttempt second)
    (two : second.SameAttempt third) :
    first.SameAttempt third := by
  unfold SameAttempt at *
  rw [two, one]

/-- The logical operation of an attempt does not change. -/
theorem operation
    {old new : Invocation}
    (same : old.SameAttempt new) :
    new.operation = old.operation := by
  rw [same]
  rfl

/-- The reservation of an attempt does not change. -/
theorem reservationId
    {old new : Invocation}
    (same : old.SameAttempt new) :
    new.reservationId = old.reservationId := by
  rw [same]

end Invocation.SameAttempt

namespace Reservation.SameHold

theorem refl (reservation : Reservation) : reservation.SameHold reservation :=
  rfl

theorem trans
    {first second third : Reservation}
    (one : first.SameHold second)
    (two : second.SameHold third) :
    first.SameHold third := by
  unfold SameHold at *
  rw [two, one]

end Reservation.SameHold

namespace Account.SameAccount

theorem refl (account : Account) : account.SameAccount account :=
  ⟨rfl, rfl⟩

theorem trans
    {first second third : Account}
    (one : first.SameAccount second)
    (two : second.SameAccount third) :
    first.SameAccount third :=
  ⟨two.1.trans one.1, two.2.trans one.2⟩

end Account.SameAccount

/-- The later database keeps every row of the earlier one. -/
structure Evolves (old new : Db) : Prop where
  accounts : old.accounts.Extends Account.SameAccount new.accounts
  principals : old.principals.Extends Eq new.principals
  agents : old.agents.Extends Agent.SameAgent new.agents
  mandates : old.mandates.Extends Mandate.SameTerms new.mandates
  reservations :
    old.reservations.Extends Reservation.SameHold new.reservations
  invocations :
    old.invocations.Extends Invocation.SameAttempt new.invocations

namespace Evolves

/-- A database keeps its own rows. -/
theorem refl (db : Db) : Evolves db db where
  accounts := .refl Account.SameAccount.refl _
  principals := .refl Eq.refl _
  agents := .refl Agent.SameAgent.refl _
  mandates := .refl Mandate.SameTerms.refl _
  reservations := .refl Reservation.SameHold.refl _
  invocations := .refl Invocation.SameAttempt.refl _

/-- What is kept twice is kept. -/
theorem trans
    {first second third : Db}
    (one : Evolves first second)
    (two : Evolves second third) :
    Evolves first third where
  accounts := .trans .trans one.accounts two.accounts
  principals := .trans .trans one.principals two.principals
  agents := .trans .trans one.agents two.agents
  mandates := .trans .trans one.mandates two.mandates
  reservations := .trans .trans one.reservations two.reservations
  invocations := .trans .trans one.invocations two.invocations

end Evolves

end Crossing
