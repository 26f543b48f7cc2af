import Crossing.Lifecycle

namespace Crossing

/-!
# The reasons of denials

Each check denies for reasons of its own, and a sequence of checks for the
reasons of its parts.
-/

/-- Every denial of the check has one of the reasons. -/
def DeniesOnly
    {α : Type}
    (among : Reason → Prop)
    (check : Except Denied α) :
    Prop :=
  ∀ outcome, check = .error outcome → among outcome.reason

namespace DeniesOnly

variable
  {α β : Type}
  {among others : Reason → Prop}

theorem ok {value : α} : DeniesOnly among (.ok value) := by
  intro outcome isError
  cases isError

theorem error
    {outcome : Denied}
    (isAmong : among outcome.reason) :
    DeniesOnly among (.error outcome : Except Denied α) := by
  intro outcome isError
  cases isError
  exact isAmong

theorem denyWhen
    {failed : Prop}
    [Decidable failed]
    {reason : Reason}
    {detail : String}
    (isAmong : among reason) :
    DeniesOnly among (Crossing.denyWhen failed reason detail) := by
  unfold Crossing.denyWhen
  split
  · exact .error isAmong
  · exact .ok

theorem bind
    {first : Except Denied α}
    {next : α → Except Denied β}
    (ofFirst : DeniesOnly among first)
    (ofNext : ∀ value, DeniesOnly among (next value)) :
    DeniesOnly among (first >>= next) := by
  cases first with
  | error outcome => exact .error (ofFirst outcome rfl)
  | ok value => exact ofNext value

/-- The reasons are among others. -/
theorem weaken
    {check : Except Denied α}
    (only : DeniesOnly among check)
    (isOther : ∀ reason, among reason → others reason) :
    DeniesOnly others check :=
  fun outcome isError => isOther _ (only outcome isError)

end DeniesOnly

section Checks

variable
  {env : Env}
  {view : Db}
  {views : Views}
  {now : Datetime}
  {mandate : Mandate}

/-- Terms that are not the signed ones have diverged. -/
theorem checkSignedState_reason :
    DeniesOnly (· = .signedStateDiverged) (checkSignedState mandate) := by
  unfold checkSignedState
  iterate 10 refine .bind (.denyWhen rfl) fun _ => ?_
  exact .denyWhen rfl

/-- A mandate without its seal is forged, or its terms have diverged. -/
theorem verifyStoredMandate_reason :
    DeniesOnly (· ∈ [Reason.mandateForged, .signedStateDiverged])
      (verifyStoredMandate env view mandate) := by
  refine .bind ?_ fun _ => ?_
  · refine .bind (.denyWhen List.mem_cons_self) fun _ => ?_
    exact .denyWhen List.mem_cons_self
  · refine checkSignedState_reason.weaken ?_
    rintro _ rfl
    decide

/-- A mandate that is not fresh is revoked or expired. -/
theorem checkFresh_reason :
    DeniesOnly (· ∈ [Reason.mandateRevoked, .mandateExpired])
      (checkFresh env now mandate) := by
  refine .bind (.denyWhen (by decide)) fun _ => ?_
  split
  · exact .ok
  · exact .denyWhen (by decide)

/-- An agent that fails its check is missing or revoked. -/
theorem checkAgent_reason {agent : Option Agent} :
    DeniesOnly (· = .agentRevoked) (checkAgent agent) := by
  unfold checkAgent
  split
  · exact .error rfl
  · split
    · exact .error rfl
    · exact .ok

/-- An agent that cannot be used is missing or revoked. -/
theorem requireLiveAgent_reason {agentId : Id} :
    DeniesOnly (· = .agentRevoked) (requireLiveAgent views agentId) := by
  refine .bind checkAgent_reason fun agent => ?_
  split
  · exact .ok
  · exact .bind checkAgent_reason fun _ => .ok

/-- A mandate that is not live is denied for its state or for its agent. -/
theorem loadLiveMandate_reason {mandateId : Id} :
    DeniesOnly
      (· ∈
        [Reason.mandateRevoked, .mandateForged, .signedStateDiverged,
          .mandateExpired, .agentRevoked])
      (loadLiveMandate env views now mandateId) := by
  refine .bind ?_ fun mandate => .bind ?_ fun _ => .bind ?_ fun _ =>
    .bind ?_ fun _ => .ok
  · unfold findMandate
    split
    · exact .error List.mem_cons_self
    · exact .ok
  · exact verifyStoredMandate_reason.weaken (by decide)
  · exact checkFresh_reason.weaken (by decide)
  · refine requireLiveAgent_reason.weaken ?_
    rintro _ rfl
    decide

/-- What a mandate does not permit is denied for the bound that it breaks. -/
theorem checkTool_reason {tool server : String} {priceCents : Cents} :
    DeniesOnly
      (· ∈
        [Reason.signedStateDiverged, .toolNotAllowed, .serverNotAllowed,
          .callOverMax, .maxCallsExceeded, .budgetExceeded])
      (checkTool mandate tool server priceCents) := by
  refine .bind ?_ fun _ => ?_
  · refine checkSignedState_reason.weaken ?_
    rintro _ rfl
    decide
  · iterate 4 refine .bind (.denyWhen (by decide)) fun _ => ?_
    exact .denyWhen (by decide)

end Checks

end Crossing
