import Crossing.DenialReasons
import Crossing.TenantReplies

namespace Crossing

open Relational
open Relational.Transaction

/-!
# What a tenant learns of other accounts

A reply should be the same on any two states that agree on the rows of the
caller's account.  It is, except where an operation looks at an agent or a
mandate of another account before its owner is compared: the parent of a new
agent, the agent of a mandate, and the parent of a mandate.
-/

/-! ## The condition -/

/-- Why a mandate cannot be used, whoever asks; nothing when it can. -/
def Db.standing
    (env : Env)
    (db : Db)
    (now : Datetime)
    (mandateId : Id) :
    Option Reason :=
  match db.mandates.find mandateId with
  | none => some .mandateRevoked
  | some mandate =>
      match verifyStoredMandate env db mandate with
      | .error outcome => some outcome.reason
      | .ok () =>
          match checkFresh env now mandate with
          | .error outcome => some outcome.reason
          | .ok _ => none

namespace Query

/--
The ids that a request names and that its account does not own stand for alike
things in both databases, where the request gets as far as looking at them.
-/
def SameForeign (env : Env) (ctx : AuthContext) (one two : Db) :
    Query → Prop
  | .postAgent principalId parentId newId =>
      (Route.postAgent principalId parentId newId).admitted ctx = .ok () →
        one.owns ctx.accountId principalId = true →
          ∀ id ∈ parentId, ¬ one.OwnAgent ctx.accountId id →
            (checkAgent (one.agents.find id)).isOk =
              (checkAgent (two.agents.find id)).isOk
  | .postMandate now debitNow body newId freshNonce =>
      (Route.postMandate now debitNow body newId freshNonce).admitted ctx =
          .ok () →
        one.owns ctx.accountId body.principalId = true →
          (¬ one.OwnAgent ctx.accountId body.agentId →
            (requireLiveAgent (fun _ => one) body.agentId).isOk =
              (requireLiveAgent (fun _ => two) body.agentId).isOk) ∧
          ∀ agent, one.OwnAgent ctx.accountId body.agentId →
            requireLiveAgent (fun _ => one) body.agentId = .ok agent →
            agent.principalId = body.principalId →
              ∀ id ∈ body.parentMandateId,
                ¬ one.OwnMandate ctx.accountId id →
                  one.standing env now id = two.standing env now id
  | _ => True

/-- What is drawn for the request is new, but for nonces of the account. -/
structure Fresh (query : Query) (accountId : Id) (db : Db) : Prop where
  unused : ∀ id ∈ query.draws, db.Unused id
  ownNonces :
    ∀ nonce ∈ query.nonces, ∀ row ∈ db.mandates.rows, row.nonce = nonce →
      db.owns accountId row.principalId = true

end Query

/-! ## Agents -/

section Agents

variable
  {env : Env}
  {ctx : AuthContext}
  {one two : Db}

/-- A reason that depends on a check shows how the check came out. -/
theorem reply_eq_iff
    {status : Nat}
    {first second : Reason}
    {passes passes' : Bool}
    (different : first ≠ second) :
    Reply.mk status (some (if passes then first else second)) =
        Reply.mk status (some (if passes' then first else second)) ↔
      passes = passes' := by
  cases passes <;> cases passes' <;> simp [different, different.symm]

/--
A handler that compares the owner of a principal before its operation shows no
more than the operation, and shows nothing of other accounts where it stops
earlier.
-/
theorem behindPrincipal_reply_iff
    {α : Type}
    {route : Route}
    {principalId : Id}
    {operation : Db → Body α}
    {alike : Prop}
    (same : SameShare ctx.accountId one two)
    (tenant : ctx.isAdmin = false)
    (isHandler :
      ∀ db, route.admitted ctx = .ok () →
        Reply.of (route.respond env (fun _ => db) ctx db).1 =
          .ofOutcome (some 400)
            (exec
              (do
                let _ ← ownPrincipal db ctx principalId
                operation db)
              db).1)
    (shows :
      route.admitted ctx = .ok () →
        one.owns ctx.accountId principalId = true →
          (Reply.ofOutcome (some 400) (exec (operation one) one).1 =
              Reply.ofOutcome (some 400) (exec (operation two) two).1 ↔
            alike)) :
    Reply.of (route.respond env (fun _ => one) ctx one).1 =
        Reply.of (route.respond env (fun _ => two) ctx two).1 ↔
      (route.admitted ctx = .ok () →
        one.owns ctx.accountId principalId = true → alike) := by
  cases isAdmitted : route.admitted ctx with
  | error refusal =>
      rw [Route.respond_refused isAdmitted, Route.respond_refused isAdmitted]
      refine iff_of_true rfl ?_
      intro admitted
      cases admitted
  | ok =>
      rw [isHandler one isAdmitted, isHandler two isAdmitted]
      cases owns : one.owns ctx.accountId principalId with
      | false =>
          rw [exec_bind, exec_bind, ownPrincipal_closed tenant owns,
            ownPrincipal_closed tenant (same.owns principalId ▸ owns)]
          refine iff_of_true rfl ?_
          intro _ isOwn
          cases isOwn
      | true =>
          have ownsTwo := (same.owns principalId).symm.trans owns
          obtain ⟨_, opened⟩ := ownPrincipal_open owns
          obtain ⟨_, opened'⟩ := ownPrincipal_open ownsTwo
          rw [exec_bind, exec_bind, opened, opened']
          dsimp only
          rw [shows isAdmitted owns]
          exact ⟨fun isAlike _ _ => isAlike, fun isAlike => isAlike rfl rfl⟩

/-- Below an agent of another account no agent is created. -/
theorem createAgent_foreign
    {db : Db}
    {principalId parentId newId : Id}
    (owns : db.owns ctx.accountId principalId = true)
    (foreign : ¬ db.OwnAgent ctx.accountId parentId) :
    Reply.ofOutcome (some 400)
        (exec (createAgent (fun _ => db) principalId (some parentId) newId)
          db).1 =
      ⟨400,
        some
          (if (checkAgent (db.agents.find parentId)).isOk then
            .principalMissing
          else
            .agentRevoked)⟩ := by
  unfold createAgent checkParentAgent
  dsimp only
  cases found : db.agents.find parentId with
  | none => rfl
  | some parent =>
      have other : parent.principalId ≠ principalId := by
        rintro rfl
        exact foreign ⟨parent, found, owns⟩
      cases revoked : parent.revoked with
      | true =>
          simp [checkAgent, revoked, Except.isOk, Except.toBool]
          rfl
      | false =>
          simp [checkAgent, revoked, other, Except.isOk, Except.toBool]
          rfl

/-- A new agent is created below an own parent, or below none. -/
theorem createAgent_own
    {principalId newId : Id}
    {parentId : Option Id}
    (same : SameShare ctx.accountId one two)
    (owns : one.owns ctx.accountId principalId = true)
    (unused : one.Unused newId ∧ two.Unused newId)
    (own : ∀ id ∈ parentId, one.OwnAgent ctx.accountId id) :
    (exec (createAgent (fun _ => one) principalId parentId newId) one).1 =
      (exec (createAgent (fun _ => two) principalId parentId newId) two).1 := by
  let watch : Watch :=
    { accountId := ctx.accountId
      principalId := principalId
      draws := [newId] }
  have alike : watch.Alike one two := by
    refine same.alike owns ?_ ?_ ?_ ?_
    · intro id absent
      cases absent
    · intro id drawn
      cases List.mem_singleton.mp drawn
      exact unused
    · intro nonce absent
      cases absent
    · intro nonce absent
      cases absent
  have sameParent :
      ∀ id ∈ parentId, one.agents.find id = two.agents.find id := by
    intro id named
    obtain ⟨agent, found, ownsAgent⟩ := own id named
    rw [found, same.agents.found found ownsAgent]
  have drawn : newId ∈ watch.draws := List.mem_singleton.mpr rfl
  have paired := Watch.createAgent_paired drawn sameParent
  exact (paired one two alike).2.eq

/-- `post_agent` leaks whether a foreign parent is live. -/
theorem postAgent_reply_iff
    {principalId newId : Id}
    {parentId : Option Id}
    (same : SameShare ctx.accountId one two)
    (tenant : ctx.isAdmin = false)
    (unused : one.Unused newId ∧ two.Unused newId) :
    Query.reply env ctx one (.postAgent principalId parentId newId) =
        Query.reply env ctx two (.postAgent principalId parentId newId) ↔
      Query.SameForeign env ctx one two
        (.postAgent principalId parentId newId) := by
  refine behindPrincipal_reply_iff same tenant
    (fun db isAdmitted =>
      (Route.respond_outcome isAdmitted).trans ofOutcome_map) ?_
  intro _ owns
  rw [Views.after_const, Views.after_const]
  by_cases own : ∀ id ∈ parentId, one.OwnAgent ctx.accountId id
  · rw [createAgent_own same owns unused own]
    refine iff_of_true rfl ?_
    intro id named foreign
    exact (foreign (own id named)).elim
  · push Not at own
    obtain ⟨id, named, foreign⟩ := own
    cases named
    have ownsTwo := (same.owns principalId).symm.trans owns
    have foreign' : ¬ two.OwnAgent ctx.accountId id :=
      fun own => foreign (same.ownAgent_iff.mpr own)
    rw [createAgent_foreign owns foreign,
      createAgent_foreign ownsTwo foreign', reply_eq_iff (by decide)]
    constructor
    · intro sameLive _ named _
      cases named
      exact sameLive
    · intro sameForeign
      exact sameForeign id rfl foreign

end Agents

/-! ## Mandates -/

section Standing

variable
  {env : Env}
  {db : Db}
  {now : Datetime}

/-- The standing of a mandate says nothing about its agent. -/
theorem standing_reason
    {mandateId : Id}
    {reason : Reason}
    (stands : db.standing env now mandateId = some reason) :
    reason ≠ .childAgentNotDescendant := by
  have sealed (mandate : Mandate) :
      DeniesOnly (· ≠ .childAgentNotDescendant)
        (verifyStoredMandate env db mandate) :=
    verifyStoredMandate_reason.weaken (by decide)
  have fresh (mandate : Mandate) :
      DeniesOnly (· ≠ .childAgentNotDescendant)
        (checkFresh env now mandate) :=
    checkFresh_reason.weaken (by decide)
  unfold Db.standing at stands
  split at stands
  · cases stands
    decide
  · split at stands
    · rename_i verified
      cases stands
      exact sealed _ _ verified
    · split at stands
      · rename_i checked
        cases stands
        exact fresh _ _ checked
      · cases stands

/-- A parent of another account is refused for what it is. -/
theorem checkParent_foreign
    {accountId mandateId : Id}
    {args : IssueMandate}
    (unmixed : db.Unmixed)
    (verify : args.verify = true)
    (ownAgent : db.OwnAgent accountId args.agentId)
    (foreign : ¬ db.OwnMandate accountId mandateId) :
    ∃ outcome,
      exec (checkParent env (fun _ => db) now args mandateId) db =
          (.error (denied outcome), db) ∧
        outcome.reason =
          (db.standing env now mandateId).getD .childAgentNotDescendant := by
  unfold checkParent Db.standing
  dsimp only
  cases found : db.mandates.find mandateId with
  | none => exact ⟨_, rfl, rfl⟩
  | some parent =>
      have foreignAgent : ¬ db.OwnAgent accountId parent.agentId := by
        rintro ⟨agent, agentFound, owns⟩
        obtain ⟨bound, boundFound, ofPrincipal⟩ :=
          unmixed.ofAgent parent (Table.mem_of_find found)
        cases agentFound.symm.trans boundFound
        exact foreign ⟨parent, found, ofPrincipal ▸ owns⟩
      have notBelow := unmixed.notBelow ownAgent foreignAgent
      simp only [orRaise, pure_bind, if_pos verify]
      cases verified : verifyStoredMandate env db parent with
      | error outcome => exact ⟨outcome, rfl, rfl⟩
      | ok =>
          cases checked : checkFresh env now parent with
          | error outcome => exact ⟨outcome, rfl, rfl⟩
          | ok =>
              rw [notBelow]
              exact ⟨_, rfl, rfl⟩

end Standing

section Issuing

variable
  {env : Env}
  {ctx : AuthContext}
  {one two db : Db}
  {now debitNow : Datetime}
  {args : IssueMandate}
  {newId : Id}
  {freshNonce : String}

/-- Amounts that are not negative pass. -/
theorem checkNonNegativeMoney_passes
    {amounts : List (String × Option Cents)}
    (notNegative :
      ∀ named ∈ amounts, ∀ amount ∈ named.2, 0 ≤ amount) :
    checkNonNegativeMoney amounts = .ok () := by
  induction amounts with
  | nil => rfl
  | cons head rest inductionHypothesis =>
      obtain ⟨name, value⟩ := head
      have headPasses : ¬ ∃ amount ∈ value, amount < 0 := by
        rintro ⟨amount, isValue, negative⟩
        have isNot := notNegative _ List.mem_cons_self amount isValue
        exact absurd negative (not_lt.mpr isNot)
      have restPasses :=
        inductionHypothesis fun named member =>
          notNegative named (List.mem_cons_of_mem _ member)
      unfold checkNonNegativeMoney
      exact except_bind_eq_ok.mpr
        ⟨(), denyWhen_eq_ok.mpr headPasses, restPasses⟩

/-- The amounts of a valid body. -/
theorem Route.validMandate_iff :
    Route.validMandate args = true ↔
      0 ≤ args.spendLimitCents ∧ (∀ amount ∈ args.maxCallCents, 0 ≤ amount) ∧
        ∀ amount ∈ args.maxSubagentBudgetCents, 0 ≤ amount := by
  simp [Route.validMandate, Option.all_eq_true, and_assoc]

/-- What is asked for passes the first check on money. -/
theorem validMandate_passes
    (valid : Route.validMandate args = true) :
    checkNonNegativeMoney
        [("spend_limit_cents", some args.spendLimitCents),
          ("max_call_cents", args.maxCallCents),
          ("max_subagent_budget_cents", args.maxSubagentBudgetCents),
          ("remaining_cents", some args.spendLimitCents)] =
      .ok () := by
  obtain ⟨spendLimit, maxCall, maxSubagentBudget⟩ :=
    Route.validMandate_iff.mp valid
  apply checkNonNegativeMoney_passes
  simp_all

/-- The defaults pass the second. -/
theorem validMandate_defaults
    (valid : Route.validMandate args = true) :
    checkNonNegativeMoney
        [("max_call_cents", some args.maxCall),
          ("max_subagent_budget_cents", some args.maxSubagentBudget)] =
      .ok () := by
  obtain ⟨spendLimit, maxCall, maxSubagentBudget⟩ :=
    Route.validMandate_iff.mp valid
  have notNegative
      {value : Option Cents}
      (given : ∀ amount ∈ value, 0 ≤ amount) :
      0 ≤ value.getD args.spendLimitCents := by
    cases value with
    | none => exact spendLimit
    | some amount => exact given amount rfl
  apply checkNonNegativeMoney_passes
  simpa using ⟨notNegative maxCall, notNegative maxSubagentBudget⟩

/-- A mandate whose agent cannot be used is refused. -/
theorem issueMandate_deadAgent
    {outcome : Denied}
    (valid : Route.validMandate args = true)
    (dead : requireLiveAgent (fun _ => db) args.agentId = .error outcome) :
    exec (issueMandate env (fun _ => db) now debitNow args newId freshNonce)
        db =
      (.error (denied outcome), db) := by
  unfold issueMandate
  rw [validMandate_passes valid, dead]
  rfl

/-- A mandate for an agent of another principal is refused. -/
theorem issueMandate_mismatch
    {agent : Agent}
    (valid : Route.validMandate args = true)
    (live : requireLiveAgent (fun _ => db) args.agentId = .ok agent)
    (other : agent.principalId ≠ args.principalId) :
    exec (issueMandate env (fun _ => db) now debitNow args newId freshNonce)
        db =
      (.error (denied
        ⟨.agentPrincipalMismatch, "agent is not bound to principal"⟩), db) := by
  unfold issueMandate
  rw [validMandate_passes valid, live]
  simp [other]

/-- A mandate whose parent is refused is refused. -/
theorem issueMandate_refusedParent
    {agent : Agent}
    {exception : Raised}
    (valid : Route.validMandate args = true)
    (live : requireLiveAgent (fun _ => db) args.agentId = .ok agent)
    (ofPrincipal : agent.principalId = args.principalId)
    (refused :
      exec (loadParent env (fun _ => db) now args) db =
        (.error exception, db)) :
    exec (issueMandate env (fun _ => db) now debitNow args newId freshNonce)
        db =
      (.error exception, db) := by
  unfold issueMandate
  rw [validMandate_passes valid, live, validMandate_defaults valid]
  simp [ofPrincipal, Views.after_const, refused]

/-- For an agent of another account no mandate is issued. -/
theorem issueMandate_foreignAgent
    (valid : Route.validMandate args = true)
    (owns : db.owns ctx.accountId args.principalId = true)
    (foreign : ¬ db.OwnAgent ctx.accountId args.agentId) :
    Reply.ofOutcome (some 400)
        (exec
          (issueMandate env (fun _ => db) now debitNow args newId freshNonce)
          db).1 =
      ⟨400,
        some
          (if (requireLiveAgent (fun _ => db) args.agentId).isOk then
            .agentPrincipalMismatch
          else
            .agentRevoked)⟩ := by
  cases live : requireLiveAgent (fun _ => db) args.agentId with
  | error outcome =>
      rw [issueMandate_deadAgent valid live]
      have isRevoked := requireLiveAgent_reason outcome live
      exact congrArg (fun reason => Reply.mk 400 (some reason)) isRevoked
  | ok agent =>
      have other : agent.principalId ≠ args.principalId := by
        intro same
        exact foreign ⟨agent, (requireLiveAgent_ok live).1, same ▸ owns⟩
      rw [issueMandate_mismatch valid live other]
      rfl

/-- A mandate for an own agent, below an own parent or below none. -/
theorem issueMandate_own
    (same : SameShare ctx.accountId one two)
    (unmixed : one.Unmixed)
    (owns : one.owns ctx.accountId args.principalId = true)
    (ownAgent : one.OwnAgent ctx.accountId args.agentId)
    (ownParent :
      ∀ id ∈ args.parentMandateId, one.OwnMandate ctx.accountId id)
    (unused : one.Unused newId ∧ two.Unused newId)
    (ownNonce :
      ∀ row ∈ one.mandates.rows,
        row.nonce = (truthy args.nonce).getD freshNonce →
          one.owns ctx.accountId row.principalId = true)
    (ownNonce' :
      ∀ row ∈ two.mandates.rows,
        row.nonce = (truthy args.nonce).getD freshNonce →
          two.owns ctx.accountId row.principalId = true) :
    (exec
        (issueMandate env (fun _ => one) now debitNow args newId freshNonce)
        one).1 =
      (exec
        (issueMandate env (fun _ => two) now debitNow args newId freshNonce)
        two).1 := by
  let watch : Watch :=
    { accountId := ctx.accountId
      principalId := args.principalId
      mandateIds := args.parentMandateId.toList
      draws := [newId]
      nonces := [(truthy args.nonce).getD freshNonce] }
  have known (id : Id) (named : id ∈ args.parentMandateId) :
      id ∈ watch.mandateIds :=
    Option.mem_toList.mpr named
  have alike : watch.Alike one two := by
    refine same.alike owns ?_ ?_ ?_ ?_
    · intro id isKnown
      exact ownParent id (Option.mem_toList.mp isKnown)
    · intro id drawn
      cases List.mem_singleton.mp drawn
      exact unused
    · intro nonce isNonce
      cases List.mem_singleton.mp isNonce
      exact ownNonce
    · intro nonce isNonce
      cases List.mem_singleton.mp isNonce
      exact ownNonce'
  have sameStanding
      (id : Id)
      (named : id ∈ args.parentMandateId)
      (parent : Mandate)
      (found : one.mandates.find id = some parent) :
      verifyStoredMandate env one parent =
          verifyStoredMandate env two parent ∧
        isSelfOrDescendant one.agents args.agentId parent.agentId =
          isSelfOrDescendant two.agents args.agentId parent.agentId := by
    obtain ⟨mandate, mandateFound, ownsMandate⟩ := ownParent id named
    cases found.symm.trans mandateFound
    exact ⟨same.verifyStoredMandate ownsMandate,
      same.isSelfOrDescendant unmixed ownAgent⟩
  have issues :
      Paired watch.Alike
        (issueMandate env (fun _ => one) now debitNow args newId freshNonce)
        (issueMandate env (fun _ => two) now debitNow args newId freshNonce)
        Eq :=
    Watch.issueMandate_paired alike rfl (List.mem_singleton.mpr rfl)
      (List.mem_singleton.mpr rfl) (same.requireLiveAgent unmixed ownAgent)
      (Watch.loadParent_paired alike known sameStanding)
  exact (issues one two alike).2.eq

/-- Standings show in the reason for which a foreign parent is refused. -/
theorem standing_eq_iff
    {mandateId : Id} :
    (one.standing env now mandateId).getD .childAgentNotDescendant =
        (two.standing env now mandateId).getD .childAgentNotDescendant ↔
      one.standing env now mandateId = two.standing env now mandateId := by
  cases ofOne : one.standing env now mandateId with
  | none =>
      cases ofTwo : two.standing env now mandateId with
      | none => simp
      | some reason => simpa using (standing_reason ofTwo).symm
  | some reason =>
      cases ofTwo : two.standing env now mandateId with
      | none => simpa using standing_reason ofOne
      | some reason' => simp

/-- Below a mandate of another account no mandate is issued. -/
theorem issueMandate_foreignParent
    {accountId mandateId : Id}
    {agent : Agent}
    (valid : Route.validMandate args = true)
    (verify : args.verify = true)
    (unmixed : db.Unmixed)
    (live : requireLiveAgent (fun _ => db) args.agentId = .ok agent)
    (ofPrincipal : agent.principalId = args.principalId)
    (ownAgent : db.OwnAgent accountId args.agentId)
    (named : args.parentMandateId = some mandateId)
    (foreign : ¬ db.OwnMandate accountId mandateId) :
    Reply.ofOutcome (some 400)
        (exec
          (issueMandate env (fun _ => db) now debitNow args newId freshNonce)
          db).1 =
      ⟨400,
        some
          ((db.standing env now mandateId).getD .childAgentNotDescendant)⟩ := by
  obtain ⟨outcome, checked, isReason⟩ :=
    @checkParent_foreign env db now _ _ _ unmixed verify ownAgent foreign
  have refused :
      exec (loadParent env (fun _ => db) now args) db =
        (.error (denied outcome), db) := by
    unfold loadParent
    rw [named]
    dsimp only
    rw [exec_map, checked]
  rw [issueMandate_refusedParent valid live ofPrincipal refused, ← isReason]
  rfl

/-- Below a mandate of another account its standing shows. -/
theorem foreignParent_reply_iff
    {mandateId : Id}
    {agent : Agent}
    (valid : Route.validMandate args = true)
    (verify : args.verify = true)
    (same : SameShare ctx.accountId one two)
    (unmixed : one.Unmixed)
    (unmixed' : two.Unmixed)
    (live : requireLiveAgent (fun _ => one) args.agentId = .ok agent)
    (ofPrincipal : agent.principalId = args.principalId)
    (ownAgent : one.OwnAgent ctx.accountId args.agentId)
    (named : args.parentMandateId = some mandateId)
    (foreign : ¬ one.OwnMandate ctx.accountId mandateId) :
    Reply.ofOutcome (some 400)
          (exec
            (issueMandate env (fun _ => one) now debitNow args newId
              freshNonce)
            one).1 =
        Reply.ofOutcome (some 400)
          (exec
            (issueMandate env (fun _ => two) now debitNow args newId
              freshNonce)
            two).1 ↔
      one.standing env now mandateId = two.standing env now mandateId := by
  have live' := (same.requireLiveAgent unmixed ownAgent).symm.trans live
  have ownAgent' := same.ownAgent_iff.mp ownAgent
  have foreign' : ¬ two.OwnMandate ctx.accountId mandateId :=
    fun own => foreign (same.ownMandate_iff.mpr own)
  rw [
    issueMandate_foreignParent valid verify unmixed live ofPrincipal ownAgent
      named foreign,
    issueMandate_foreignParent valid verify unmixed' live' ofPrincipal
      ownAgent' named foreign']
  refine Iff.trans ?_ standing_eq_iff
  constructor
  · intro sameReply
    exact Option.some.inj (Reply.mk.inj sameReply).2
  · intro sameReason
    rw [sameReason]

/-- A request for a mandate whose body is admitted. -/
theorem Route.admitted_valid
    {body : IssueMandate}
    (admitted :
      (Route.postMandate now debitNow body newId freshNonce).admitted ctx =
        .ok ()) :
    Route.validMandate body = true := by
  obtain ⟨_, _, checked⟩ := except_bind_eq_ok.mp admitted
  split at checked
  · rename_i valid
    exact valid
  · cases checked

/-- `issue_mandate` shows what becomes of foreign agents and mandates. -/
theorem issueMandate_reply_iff
    (verify : args.verify = true)
    (valid : Route.validMandate args = true)
    (same : SameShare ctx.accountId one two)
    (unmixed : one.Unmixed)
    (unmixed' : two.Unmixed)
    (owns : one.owns ctx.accountId args.principalId = true)
    (fresh :
      (Query.postMandate now debitNow args newId freshNonce).Fresh
        ctx.accountId one)
    (fresh' :
      (Query.postMandate now debitNow args newId freshNonce).Fresh
        ctx.accountId two) :
    Reply.ofOutcome (some 400)
          (exec
            (issueMandate env (fun _ => one) now debitNow args newId
              freshNonce)
            one).1 =
        Reply.ofOutcome (some 400)
          (exec
            (issueMandate env (fun _ => two) now debitNow args newId
              freshNonce)
            two).1 ↔
      (¬ one.OwnAgent ctx.accountId args.agentId →
          (requireLiveAgent (fun _ => one) args.agentId).isOk =
            (requireLiveAgent (fun _ => two) args.agentId).isOk) ∧
        ∀ agent, one.OwnAgent ctx.accountId args.agentId →
          requireLiveAgent (fun _ => one) args.agentId = .ok agent →
          agent.principalId = args.principalId →
            ∀ id ∈ args.parentMandateId,
              ¬ one.OwnMandate ctx.accountId id →
                one.standing env now id = two.standing env now id := by
  by_cases ownAgent : one.OwnAgent ctx.accountId args.agentId
  swap
  · have foreign' : ¬ two.OwnAgent ctx.accountId args.agentId :=
      fun own => ownAgent (same.ownAgent_iff.mpr own)
    have ownsTwo := (same.owns args.principalId).symm.trans owns
    rw [issueMandate_foreignAgent valid owns ownAgent,
      issueMandate_foreignAgent valid ownsTwo foreign',
      reply_eq_iff (by decide)]
    constructor
    · intro sameLive
      exact ⟨fun _ => sameLive, fun _ own => (ownAgent own).elim⟩
    · rintro ⟨sameLive, _⟩
      exact sameLive ownAgent
  have sameAgent := same.requireLiveAgent unmixed ownAgent
  cases live : requireLiveAgent (fun _ => one) args.agentId with
  | error outcome =>
      rw [issueMandate_deadAgent valid live,
        issueMandate_deadAgent valid (sameAgent.symm.trans live)]
      refine iff_of_true rfl ⟨fun foreign => (foreign ownAgent).elim, ?_⟩
      intro agent _ isLive
      cases isLive
  | ok agent =>
      have live' := sameAgent.symm.trans live
      by_cases ofPrincipal : agent.principalId = args.principalId
      swap
      · rw [issueMandate_mismatch valid live ofPrincipal,
          issueMandate_mismatch valid live' ofPrincipal]
        refine iff_of_true rfl ⟨fun foreign => (foreign ownAgent).elim, ?_⟩
        intro other _ isLive isBound
        cases isLive
        exact (ofPrincipal isBound).elim
      by_cases ownParent :
          ∀ id ∈ args.parentMandateId, one.OwnMandate ctx.accountId id
      · have drawn : newId ∈ [newId] := List.mem_singleton.mpr rfl
        have chosen := List.mem_singleton.mpr
          (rfl : (truthy args.nonce).getD freshNonce = _)
        rw [issueMandate_own same unmixed owns ownAgent ownParent
          ⟨fresh.unused newId drawn, fresh'.unused newId drawn⟩
          (fresh.ownNonces _ chosen) (fresh'.ownNonces _ chosen)]
        refine iff_of_true rfl ⟨fun foreign => (foreign ownAgent).elim, ?_⟩
        intro _ _ _ _ id named foreign
        exact (foreign (ownParent id named)).elim
      · push Not at ownParent
        obtain ⟨id, named, foreign⟩ := ownParent
        rw [foreignParent_reply_iff valid verify same unmixed unmixed' live
          ofPrincipal ownAgent named foreign]
        constructor
        · intro sameStanding
          refine ⟨fun absent => (absent ownAgent).elim, ?_⟩
          intro _ _ _ _ id' named' _
          cases named.symm.trans named'
          exact sameStanding
        · rintro ⟨_, sameStanding⟩
          exact sameStanding agent ownAgent rfl ofPrincipal id named foreign

/-- `post_mandate` leaks what becomes of foreign agents and mandates. -/
theorem postMandate_reply_iff
    {body : IssueMandate}
    (same : SameShare ctx.accountId one two)
    (unmixed : one.Unmixed)
    (unmixed' : two.Unmixed)
    (tenant : ctx.isAdmin = false)
    (fresh :
      (Query.postMandate now debitNow body newId freshNonce).Fresh
        ctx.accountId one)
    (fresh' :
      (Query.postMandate now debitNow body newId freshNonce).Fresh
        ctx.accountId two) :
    Query.reply env ctx one
          (.postMandate now debitNow body newId freshNonce) =
        Query.reply env ctx two
          (.postMandate now debitNow body newId freshNonce) ↔
      Query.SameForeign env ctx one two
        (.postMandate now debitNow body newId freshNonce) := by
  refine behindPrincipal_reply_iff same tenant
    (fun db isAdmitted =>
      (Route.respond_outcome isAdmitted).trans ofOutcome_map) ?_
  intro isAdmitted owns
  have valid : Route.validMandate body = true :=
    Route.admitted_valid isAdmitted
  exact @issueMandate_reply_iff env ctx one two now debitNow
    { body with verify := true } newId freshNonce rfl valid same unmixed
    unmixed' owns ⟨fresh.unused, fresh.ownNonces⟩
    ⟨fresh'.unused, fresh'.ownNonces⟩

end Issuing

/-! ## Replies -/

/--
What a tenant learns: in two databases with the same rows of its account, any
request that names ids has the same reply exactly when the ids of other accounts
that it names stand for alike things wherever they are looked at.
-/
theorem foreign_ids_hidden_iff
    {env : Env}
    {ctx : AuthContext}
    {one two : Sys}
    {query : Query}
    (reachable : Reachable env (fun _ _ => True) one)
    (reachable' : Reachable env (fun _ _ => True) two)
    (tenant : ctx.isAdmin = false)
    (same : one.db.share ctx.accountId = two.db.share ctx.accountId)
    (fresh : query.Fresh ctx.accountId one.db)
    (fresh' : query.Fresh ctx.accountId two.db) :
    query.reply env ctx one.db = query.reply env ctx two.db ↔
      query.SameForeign env ctx one.db two.db := by
  have shares := sameShare_of_eq same
  have unused (id : Id) (drawn : id ∈ query.draws) :
      one.db.Unused id ∧ two.db.Unused id :=
    ⟨fresh.unused id drawn, fresh'.unused id drawn⟩
  cases query with
  | postAgent principalId parentId newId =>
      exact postAgent_reply_iff shares tenant
        (unused newId (List.mem_singleton.mpr rfl))
  | postMandate now debitNow body newId freshNonce =>
      exact postMandate_reply_iff shares (reachable_unmixed reachable)
        (reachable_unmixed reachable') tenant fresh fresh'
  | getMandate mandateId =>
      exact iff_of_true (readReply_congr (shares.ownMandate tenant)) trivial
  | postInvoke limited request draw provider finish =>
      refine iff_of_true ?_ trivial
      exact postInvoke_reply (reachable_kept reachable)
        (reachable_unmixed reachable) shares tenant unused
  | listReceipts =>
      exact iff_of_true (readReply_congr (shares.listReceipts tenant)) trivial
  | getReceipt receiptId =>
      exact iff_of_true (readReply_congr (shares.getReceipt tenant)) trivial

deriving instance DecidableEq for Rows

/-- The id is unused when no table has it. -/
theorem Db.unused_iff
    {db : Db}
    {id : Id} :
    db.Unused id ↔
      db.agents.find id = none ∧ db.tasks.find id = none ∧
        db.mandates.find id = none ∧ db.reservations.find id = none ∧
        db.invocations.find id = none ∧ db.receipts.find id = none ∧
        (∀ row ∈ db.receipts.rows, row.reservationId ≠ some id) ∧
        db.billingOutbox.find id = none ∧
        ∀ row ∈ db.billingOutbox.rows, row.receiptId ≠ id :=
  ⟨fun unused =>
    ⟨unused.agents, unused.tasks, unused.mandates, unused.reservations,
      unused.invocations, unused.receipts, unused.receiptsOf,
      unused.billingOutbox, unused.billsOf⟩,
    fun ⟨agents, tasks, mandates, reservations, invocations, receipts,
      receiptsOf, billingOutbox, billsOf⟩ =>
    { agents, tasks, mandates, reservations, invocations, receipts, receiptsOf,
      billingOutbox, billsOf }⟩

instance (db : Db) (id : Id) : Decidable (db.Unused id) :=
  decidable_of_iff _ Db.unused_iff.symm

/-- A second tenant has an agent, which is not an agent of the first. -/
def strangers : List Action :=
  [.txn [] (.createPrincipal none none 1 1),
    .txn [] (.createPrincipal none none 2 2),
    .txn [] (.createAgent 2 none 5)]

/-- The first tenant asks for an agent below the agent of the second. -/
def probe : Query := .postAgent 1 (some 5) 9

/-- The context of the first tenant's key. -/
def prober : AuthContext := (customerKey 1 1 "a").context

/-- The probe is fresh where its new id is not in use. -/
theorem probe_fresh
    {db : Db}
    (unused : db.Unused 9) :
    probe.Fresh prober.accountId db where
  unused id drawn := by
    cases List.mem_singleton.mp drawn
    exact unused
  ownNonces nonce absent := by
    cases absent

/-- The stranger adds an agent, and the probe is answered alike. -/
theorem foreign_ids_hidden_iff_example :
    ∃ one two,
      Reachable .plain (fun _ _ => True) one ∧
        Reachable .plain (fun _ _ => True) two ∧
        one.db.share 1 = two.db.share 1 ∧
        one.db.agents.find 6 ≠ two.db.agents.find 6 ∧
        probe.reply .plain prober one.db =
          probe.reply .plain prober two.db := by
  have checked :
      (run .plain Sys.start strangers).any
          (fun one =>
            (run .plain one [.txn [] (.createAgent 2 (some 5) 6)]).any
              fun two =>
                one.db.share 1 = two.db.share 1 ∧
                  one.db.agents.find 6 ≠ two.db.agents.find 6 ∧
                  (checkAgent (one.db.agents.find 5)).isOk =
                    (checkAgent (two.db.agents.find 5)).isOk ∧
                  one.db.Unused 9 ∧ two.db.Unused 9) =
        true := by
    decide
  obtain ⟨one, two, reachable, later, passes⟩ :=
    later_of_check (.of_forall (fun _ _ _ => trivial) _)
      (.of_forall fun _ _ _ => trivial) checked
  obtain ⟨same, differ, alike, unused, unused'⟩ := of_decide_eq_true passes
  have reachable' := reachable.later later
  refine ⟨one, two, reachable, reachable', same, differ, ?_⟩
  refine (foreign_ids_hidden_iff reachable reachable' rfl same
    (probe_fresh unused) (probe_fresh unused')).mpr ?_
  intro _ _ id named _
  cases named
  exact alike

/--
The reply to the same request depends on whether the agent of the other account
is revoked.
-/
theorem foreign_ids_not_hidden :
    ∃ one two,
      Reachable .plain (fun _ _ => True) one ∧
        Reachable .plain (fun _ _ => True) two ∧
        prober.isAdmin = false ∧
        one.db.share prober.accountId = two.db.share prober.accountId ∧
        probe.Fresh prober.accountId one.db ∧
        probe.Fresh prober.accountId two.db ∧
        probe.reply .plain prober one.db =
          ⟨400, some .principalMissing⟩ ∧
        probe.reply .plain prober two.db = ⟨400, some .agentRevoked⟩ := by
  have checked :
      (run .plain Sys.start strangers).any
          (fun one =>
            (run .plain one [.txn [] (.revokeAgent 3 5)]).any fun two =>
              one.db.share 1 = two.db.share 1 ∧
                one.db.Unused 9 ∧ two.db.Unused 9 ∧
                probe.reply .plain prober one.db =
                  ⟨400, some .principalMissing⟩ ∧
                probe.reply .plain prober two.db =
                  ⟨400, some .agentRevoked⟩) =
        true := by
    decide
  obtain ⟨one, two, reachable, later, passes⟩ :=
    later_of_check (.of_forall (fun _ _ _ => trivial) _)
      (.of_forall fun _ _ _ => trivial) checked
  obtain ⟨same, unused, unused', reply, reply'⟩ := of_decide_eq_true passes
  exact ⟨one, two, reachable, reachable.later later, rfl, same,
    probe_fresh unused, probe_fresh unused', reply, reply'⟩

end Crossing
