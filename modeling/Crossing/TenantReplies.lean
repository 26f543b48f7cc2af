import Crossing.SharedRows

namespace Crossing

open Relational
open Relational.Transaction

/-!
# Replies from the rows of the account

A handler compares the owner of what it loads.  What another account owns is
closed like what is missing, so the reads and the calls of a tenant reply the
same on any two databases with the same rows of its account.
-/

/-! ## Ownership checks -/

section Checks

variable
  {ctx : AuthContext}
  {view db : Db}

/-- A principal of another account is closed. -/
theorem ownPrincipal_closed
    {principalId : Id}
    (tenant : ctx.isAdmin = false)
    (foreign : view.owns ctx.accountId principalId = false) :
    exec (ownPrincipal view ctx principalId) db = (.error .notFound, db) := by
  unfold ownPrincipal
  unfold Db.owns at foreign
  cases found : view.principals.find principalId with
  | none => rfl
  | some principal =>
      rw [found, Option.any_some] at foreign
      have other : principal.accountId ≠ ctx.accountId :=
        of_decide_eq_false foreign
      simp [other, tenant]

/-- A principal of the account is let through. -/
theorem ownPrincipal_open
    {principalId : Id}
    (owns : view.owns ctx.accountId principalId = true) :
    ∃ principal,
      exec (ownPrincipal view ctx principalId) db = (.ok principal, db) := by
  obtain ⟨principal, found, ofAccount⟩ := Db.owns_iff.mp owns
  refine ⟨principal, ?_⟩
  unfold ownPrincipal
  simp [found, ofAccount]

/-- A mandate that the account does not own is closed. -/
theorem ownMandate_closed
    {mandateId : Id}
    (tenant : ctx.isAdmin = false)
    (foreign : ¬ view.OwnMandate ctx.accountId mandateId) :
    exec (ownMandate (fun _ => view) ctx mandateId) db =
      (.error .notFound, db) := by
  unfold ownMandate
  dsimp only
  cases found : view.mandates.find mandateId with
  | none => rfl
  | some mandate =>
      have other : mandate.principalId ∉ principalIds view ctx := by
        intro owns
        exact foreign ⟨mandate, found, mem_principalIds.mp owns⟩
      simp [other, tenant]

/-- A mandate of the account is let through. -/
theorem ownMandate_open
    {mandateId : Id}
    {mandate : Mandate}
    (found : view.mandates.find mandateId = some mandate)
    (owns : view.owns ctx.accountId mandate.principalId = true) :
    exec (ownMandate (fun _ => view) ctx mandateId) db =
      (.ok mandate, db) := by
  have ofAccount := mem_principalIds.mpr owns
  unfold ownMandate
  simp [found, ofAccount]

end Checks

/-! ## Responses -/

section Responses

variable
  {env : Env}
  {ctx : AuthContext}

/-- The reply to an admitted request is the outcome of its transaction. -/
theorem Route.respond_outcome
    {views : Views}
    {route : Route}
    {db : Db}
    (admitted : route.admitted ctx = .ok ()) :
    Reply.of (route.respond env views ctx db).1 =
      .ofOutcome route.deniedStatus
        (exec (route.body env views ctx) db).1 := by
  unfold Route.respond
  rw [admitted]
  dsimp only
  cases exec (route.body env views ctx) db with
  | mk outcome db' =>
      cases outcome <;> rfl

/-- The reply to a request that is refused before its transaction. -/
theorem Route.respond_refused
    {views : Views}
    {route : Route}
    {db : Db}
    {refusal : HttpError}
    (refused : route.admitted ctx = .error refusal) :
    Reply.of (route.respond env views ctx db).1 = .ofError refusal := by
  unfold Route.respond
  rw [refused]
  rfl

/-- A mapped body has the same reply. -/
theorem ofOutcome_map
    {α β : Type}
    {deniedStatus : Option Nat}
    {change : α → β}
    {body : Body α}
    {db : Db} :
    Reply.ofOutcome deniedStatus (exec (change <$> body) db).1 =
      .ofOutcome deniedStatus (exec body db).1 := by
  rw [exec_map]
  cases exec body db with
  | mk outcome db' =>
      cases outcome <;> rfl

/-- Without other transactions every statement sees the same state. -/
theorem Views.after_const (db : Db) (count : Nat) :
    Views.after (fun _ => db) count = fun _ => db :=
  rfl

end Responses

/-! ## Reads -/

section Reads

variable
  {ctx : AuthContext}
  {one two : Db}

/-- A handler that only reads replies with what its body comes to. -/
theorem readReply_congr
    {α : Type}
    {body body' : Body α}
    (same : (exec body one).1 = (exec body' two).1) :
    Query.readReply ctx body one = Query.readReply ctx body' two := by
  unfold Query.readReply
  rw [same]

/-- The principals of the account are the same. -/
theorem SameShare.principalIds
    (same : SameShare ctx.accountId one two) :
    Crossing.principalIds one ctx = Crossing.principalIds two ctx :=
  congrArg (List.map Principal.id) same.principals

/-- A mandate of the account is loaded, any other id is closed. -/
theorem SameShare.ownMandate
    {mandateId : Id}
    (same : SameShare ctx.accountId one two)
    (tenant : ctx.isAdmin = false) :
    (exec (Crossing.ownMandate (fun _ => one) ctx mandateId) one).1 =
      (exec (Crossing.ownMandate (fun _ => two) ctx mandateId) two).1 := by
  by_cases own : one.OwnMandate ctx.accountId mandateId
  · obtain ⟨mandate, found, owns⟩ := own
    have found' := same.mandates.found found owns
    rw [ownMandate_open found owns,
      ownMandate_open found' (same.owns mandate.principalId ▸ owns)]
  · have foreign' : ¬ two.OwnMandate ctx.accountId mandateId :=
      fun own' => own (same.ownMandate_iff.mpr own')
    rw [ownMandate_closed tenant own, ownMandate_closed tenant foreign']

/-- The receipts of the account are listed. -/
theorem SameShare.listReceipts
    (same : SameShare ctx.accountId one two)
    (tenant : ctx.isAdmin = false) :
    (exec (Crossing.listReceipts (fun _ => one) ctx) one).1 =
      (exec (Crossing.listReceipts (fun _ => two) ctx) two).1 := by
  have listed (db : Db) :
      db.receipts.rows.filter (·.principalId ∈ Crossing.principalIds db ctx) =
        db.receipts.rows.filter (db.owns ctx.accountId ·.principalId) := by
    apply List.filter_congr
    intro receipt _
    rw [Bool.eq_iff_iff, decide_eq_true_iff]
    exact mem_principalIds
  have rows :
      one.receipts.rows.filter (one.owns ctx.accountId ·.principalId) =
        two.receipts.rows.filter (two.owns ctx.accountId ·.principalId) := by
    simp only [← same.owns]
    exact same.receipts
  unfold Crossing.listReceipts
  simp only [tenant, exec_pure, Bool.false_eq_true, if_false]
  rw [listed, listed, rows]

/-- A receipt of the account is loaded, any other id is closed. -/
theorem SameShare.getReceipt
    {receiptId : Id}
    (same : SameShare ctx.accountId one two)
    (tenant : ctx.isAdmin = false) :
    (exec (Crossing.getReceipt (fun _ => one) ctx receiptId) one).1 =
      (exec (Crossing.getReceipt (fun _ => two) ctx receiptId) two).1 := by
  have closed
      {db : Db}
      (foreign :
        ¬ ∃ receipt, db.receipts.find receiptId = some receipt ∧
          db.owns ctx.accountId receipt.principalId = true) :
      (exec (Crossing.getReceipt (fun _ => db) ctx receiptId) db).1 =
        .error .notFound := by
    unfold Crossing.getReceipt
    dsimp only
    cases found : db.receipts.find receiptId with
    | none => rfl
    | some receipt =>
        have other : receipt.principalId ∉ Crossing.principalIds db ctx :=
          fun owns => foreign ⟨receipt, found, mem_principalIds.mp owns⟩
        simp [tenant, other]
  by_cases own :
      ∃ receipt, one.receipts.find receiptId = some receipt ∧
        one.owns ctx.accountId receipt.principalId = true
  · obtain ⟨receipt, found, owns⟩ := own
    have found' := same.receipts.found found owns
    have ofAccount := mem_principalIds.mpr owns
    have ofAccount' := same.principalIds ▸ ofAccount
    unfold Crossing.getReceipt
    simp [found, found', ofAccount, ofAccount']
  · have foreign := own
    rw [same.receipts.found_iff] at foreign
    simp only [same.owns] at foreign
    rw [closed own, closed foreign]

end Reads

/-! ## Calls -/

section Drawn

/-- All that the body returns satisfies `post`. -/
abbrev Returns {α : Type} (body : Body α) (post : α → Prop) : Prop :=
  Transaction.Keeps (fun _ => True) (fun _ => ()) body post

/-- Nothing in particular is returned. -/
theorem returns_any
    {α : Type}
    {body : Body α} :
    Returns body fun _ => True :=
  fun _ _ => ⟨rfl, trivial, fun _ _ => trivial⟩

variable {env : Env}

/-- `reserve` returns a reservation with the id that is drawn for it. -/
theorem reserve_drawn
    {now : Datetime}
    {mandate : Mandate}
    {amountCents : Cents}
    {idempotencyKey nonce : Option String}
    {taskId : Option Id}
    {recordDeny : Bool}
    {newId : Id} :
    Returns
      (reserve now mandate amountCents idempotencyKey nonce taskId recordDeny
        newId)
      fun returned => returned.1.id = newId := by
  unfold reserve
  refine returns_any.bind fun _ _ => returns_any.bind fun row _ => ?_
  cases row with
  | none =>
      dsimp only
      split
      · exact returns_any.bind fun _ _ => .throw
      · exact .throw
  | some debited =>
      exact returns_any.bind fun _ _ => returns_any.bind fun _ _ => .pure rfl

/-- So does `reserve_and_commit`, with an attempt of its own. -/
theorem reserveAndCommit_drawn
    {view : Db}
    {now : Datetime}
    {mandate : Mandate}
    {amountCents : Cents}
    {idempotencyKey nonce : Option String}
    {tool server : String}
    {requestHash : Option String}
    {taskId : Option Id}
    {reservationNewId invocationNewId : Id} :
    Returns
      (reserveAndCommit view now mandate amountCents idempotencyKey nonce tool
        server requestHash taskId reservationNewId invocationNewId)
      fun returned =>
        returned.1.id = reservationNewId ∧
          returned.2.1.id = invocationNewId := by
  unfold reserveAndCommit claimAndReserve
  refine Transaction.Keeps.tryCatch (.savepoint ?_) fun exception => ?_
  · refine returns_any.bind fun _ _ => ?_
    refine reserve_drawn.bind fun reserved drawn => ?_
    exact returns_any.bind fun _ _ => .pure ⟨drawn, rfl⟩
  · cases exception with
    | policyDenied outcome =>
        refine returns_any.bind fun _ _ => returns_any.bind fun _ _ => ?_
        dsimp only
        split
        · exact returns_any.bind fun _ _ => .throw
        · exact .throw
    | idempotencyReplay _ => exact .throw
    | finalizeLost => exact .throw
    | integrityError => exact .throw
    | notFound => exact .throw
    | badRequest => exact .throw
    | unfinished => exact .throw

/-- The call that `invoke` reserves has the ids that are drawn for it. -/
def Begun.Drawn (draw : InvokeDraw) (begun : Begun) : Prop :=
  ∀ attempt, begun = .reserved attempt →
    attempt.reservation.id = draw.newReservationId ∧
      attempt.invocation.id = draw.newInvocationId

/-- An answer reserves no call. -/
theorem Begun.drawn_answered
    {draw : InvokeDraw}
    {result : InvokeResult} :
    (Begun.answered result).Drawn draw := by
  intro attempt isReserved
  cases isReserved

/-- `invoke` opens the attempt that is drawn for it. -/
theorem reserveOrAnswer_drawn
    {view : Db}
    {mandate : Mandate}
    {price : Cents}
    {request : InvokeRequest}
    {requestHash : String}
    {taskId : Option Id}
    {draw : InvokeDraw} :
    Returns
      (reserveOrAnswer view mandate price request requestHash taskId draw)
      (Begun.Drawn draw) := by
  unfold reserveOrAnswer
  refine Transaction.Keeps.tryCatch ?_ fun exception => ?_
  · refine reserveAndCommit_drawn.bind fun reserved drawn => .pure ?_
    intro attempt isReserved
    cases isReserved
    exact drawn
  · cases exception with
    | policyDenied outcome =>
        exact returns_any.bind fun _ _ => .pure Begun.drawn_answered
    | idempotencyReplay _ => exact .pure Begun.drawn_answered
    | finalizeLost => exact .throw
    | integrityError => exact .throw
    | notFound => exact .throw
    | badRequest => exact .throw
    | unfinished => exact .throw

/-- So does the whole first transaction. -/
theorem invokeBegin_drawn
    {views : Views}
    {request : InvokeRequest}
    {draw : InvokeDraw} :
    Returns (invokeBegin env views request draw) (Begun.Drawn draw) := by
  have denies
      {body : Body InvokeResult} :
      Returns (Begun.answered <$> body) (Begun.Drawn draw) :=
    .map (returns_any.weaken fun _ _ => Begun.drawn_answered)
  unfold invokeBegin
  dsimp only
  split
  · exact denies
  · split
    · split
      · exact .pure Begun.drawn_answered
      · exact denies
    · exact .pure Begun.drawn_answered
    · split
      · exact denies
      · split
        · exact denies
        · exact returns_any.bind fun _ _ => returns_any.bind fun _ _ =>
            reserveOrAnswer_drawn

end Drawn

section Calls

variable
  {env : Env}
  {ctx : AuthContext}
  {one two : Db}
  {watch : Watch}
  {request : InvokeRequest}
  {draw : InvokeDraw}

/-- The deny event of `post_invoke` goes to the ledger only. -/
theorem recordInvokeDenial_paired
    {mandate : Mandate}
    {outcome : Denied} :
    Paired watch.Alike (recordInvokeDenial mandate request outcome)
      (recordInvokeDenial mandate request outcome) Eq :=
  Watch.appendEvent_paired.step fun _ => .pure rfl

/-- `post_invoke` up to the reservation, with a mandate of the account. -/
theorem postInvoke_paired
    {mandate : Mandate}
    (alike : watch.Alike one two)
    (found : one.mandates.find request.mandateId = some mandate)
    (found' : two.mandates.find request.mandateId = some mandate)
    (owns : one.owns ctx.accountId mandate.principalId = true)
    (owns' : two.owns ctx.accountId mandate.principalId = true)
    (ofPrincipal : mandate.principalId = watch.principalId)
    (known : request.mandateId ∈ watch.mandateIds)
    (live :
      loadLiveMandate env (fun _ => one) draw.now request.mandateId =
        loadLiveMandate env (fun _ => two) draw.now request.mandateId)
    (taskDrawn : draw.newTaskId ∈ watch.draws)
    (reservationDrawn : draw.newReservationId ∈ watch.draws)
    (invocationDrawn : draw.newInvocationId ∈ watch.draws) :
    Paired watch.Alike (postInvoke env (fun _ => one) ctx request draw)
      (postInvoke env (fun _ => two) ctx request draw) Eq := by
  intro left right holds
  unfold postInvoke
  rw [exec_bind, exec_bind, ownMandate_open found owns,
    ownMandate_open found' owns']
  refine Paired.tryCatch
    (Watch.invokeBegin_paired alike found ofPrincipal known live taskDrawn
      reservationDrawn invocationDrawn) ?_ left right holds
  intro exception
  cases exception with
  | policyDenied outcome => exact recordInvokeDenial_paired
  | idempotencyReplay _ => exact .throw
  | finalizeLost => exact .throw
  | integrityError => exact .throw
  | notFound => exact .throw
  | badRequest => exact .throw
  | unfinished => exact .throw

/-- A call that goes on comes to the same outcome. -/
theorem Attempt.goOn_eq
    {attempt : Attempt}
    {scope : Scope}
    {provider : Except String JsonText}
    {finish : FinishDraw}
    (alike : watch.AlikeIn scope one two)
    (own : attempt.mandate.principalId = watch.principalId)
    (ofScope : scope.principalId = watch.principalId)
    (ofReservation : attempt.reservation.id ∈ scope.reservations)
    (ofInvocation : attempt.invocation.id ∈ scope.invocations)
    (reservationDrawn : attempt.reservation.id ∈ watch.draws)
    (invocationDrawn : attempt.invocation.id ∈ watch.draws)
    (receiptDrawn : finish.newReceiptId ∈ watch.draws)
    (outboxDrawn : finish.newOutboxId ∈ watch.draws) :
    attempt.goOn env provider finish one =
      attempt.goOn env provider finish two := by
  have marks :
      Paired (watch.AlikeIn scope) (invokeMark attempt) (invokeMark attempt)
        Eq :=
    (Watch.within (Watch.invokeMark_paired invocationDrawn)
      (Scope.confines_invokeMark ofInvocation)).weaken fun _ _ same => same.1
  unfold Attempt.goOn
  cases leftRun : exec (invokeMark attempt) one with
  | mk outcome marked =>
      cases rightRun : exec (invokeMark attempt) two with
      | mk outcome' marked' =>
          obtain ⟨rfl, alike'⟩ := marks.run leftRun rightRun alike
          cases outcome with
          | error exception => rfl
          | ok answer =>
              cases answer with
              | some result => rfl
              | none =>
                  cases provider with
                  | error error =>
                      have fails :=
                        @Watch.invokeFail_paired watch attempt error
                          invocationDrawn
                      exact (fails _ _ alike'.1).2.eq
                  | ok toolResult =>
                      have finishes :
                          Paired (watch.AlikeIn scope)
                            (invokeFinish env attempt toolResult finish)
                            (invokeFinish env attempt toolResult finish) Eq :=
                        Watch.invokeFinish_paired own ofScope ofReservation
                          ofInvocation reservationDrawn invocationDrawn
                          receiptDrawn outboxDrawn
                      exact (finishes _ _ alike').2.eq

/-- The response of `post_invoke` to an admitted request. -/
theorem Route.respond_postInvoke
    {views : Views}
    {limited : Bool}
    {db : Db}
    (admitted :
      (Route.postInvoke limited request draw).admitted ctx = .ok ()) :
    Route.respond env views ctx (.postInvoke limited request draw) db =
      match exec (Crossing.postInvoke env views ctx request draw) db with
      | (.ok begun, db') => (.ok (.begun request begun), db')
      | (.error exception, _) =>
          (.error (exception.response (some 403)), db) := by
  unfold Route.respond
  rw [admitted]
  unfold Route.body
  dsimp only
  rw [exec_map]
  cases exec (Crossing.postInvoke env views ctx request draw) db with
  | mk outcome db' =>
      cases outcome <;> rfl

/-- What a call of an account meets. -/
def callWatch
    (accountId : Id)
    (mandate : Mandate)
    (draw : InvokeDraw)
    (finish : FinishDraw) :
    Watch where
  accountId := accountId
  principalId := mandate.principalId
  mandateIds := [mandate.id]
  draws :=
    [draw.newTaskId, draw.newReservationId, draw.newInvocationId,
      finish.newReceiptId, finish.newOutboxId]

section Reserved

variable
  {s : Sys}
  {mandate : Mandate}
  {provider : Except String JsonText}
  {finish : FinishDraw}

/-- Databases with the same share look alike to a call of the account. -/
theorem SameShare.callAlike
    (same : SameShare ctx.accountId one two)
    (found : one.mandates.find request.mandateId = some mandate)
    (owns : one.owns ctx.accountId mandate.principalId = true)
    (unused :
      ∀ id ∈ (callWatch ctx.accountId mandate draw finish).draws,
        one.Unused id ∧ two.Unused id) :
    (callWatch ctx.accountId mandate draw finish).Alike one two := by
  have isMandate : mandate.id = request.mandateId := Table.key_of_find found
  refine same.alike owns ?_ unused ?_ ?_
  · intro id known
    cases List.mem_singleton.mp known
    exact ⟨mandate, isMandate ▸ found, owns⟩
  · intro nonce absent
    cases absent
  · intro nonce absent
    cases absent

/-- After its reservation a call goes on alike. -/
theorem begun_goOn
    {attempt : Attempt}
    {begun : Db}
    (kept : s.Kept env)
    (tenant : ctx.isAdmin = false)
    (found : s.db.mandates.find request.mandateId = some mandate)
    (ran :
      exec (postInvoke env (fun _ => s.db) ctx request draw) s.db =
        (.ok (.reserved attempt), begun))
    (alike :
      (callWatch ctx.accountId mandate draw finish).Alike begun two) :
    attempt.goOn env provider finish begun =
      attempt.goOn env provider finish two := by
  rw [← s.views_nil] at ran
  obtain ⟨owns, reserved, ofReservation, stored, ofMandate⟩ :=
    begun_owned kept tenant ran
  have own := ofMandate mandate found
  obtain ⟨_, _, drawn⟩ :=
    invokeBegin_drawn.run (postInvoke_ok tenant ran).1 trivial
  obtain ⟨reservationDrawn, invocationDrawn⟩ := drawn _ rfl attempt rfl
  have holds := stored.holds owns reserved ofReservation
  exact Attempt.goOn_eq ⟨alike, holds⟩ own own rfl rfl
    (by simp [callWatch, reservationDrawn])
    (by simp [callWatch, invocationDrawn]) (by simp [callWatch])
    (by simp [callWatch])

/-- `post_invoke` replies from the rows of the account. -/
theorem postInvoke_reply
    {limited : Bool}
    (kept : s.Kept env)
    (unmixed : s.db.Unmixed)
    (same : SameShare ctx.accountId s.db two)
    (tenant : ctx.isAdmin = false)
    (unused :
      ∀ id ∈ (Query.postInvoke limited request draw provider finish).draws,
        s.db.Unused id ∧ two.Unused id) :
    Query.reply env ctx s.db
        (.postInvoke limited request draw provider finish) =
      Query.reply env ctx two
        (.postInvoke limited request draw provider finish) := by
  unfold Query.reply
  dsimp only
  cases isAdmitted : (Route.postInvoke limited request draw).admitted ctx with
  | error refusal =>
      unfold Route.respond
      rw [isAdmitted]
  | ok =>
      rw [Route.respond_postInvoke isAdmitted,
        Route.respond_postInvoke isAdmitted]
      by_cases own : s.db.OwnMandate ctx.accountId request.mandateId
      swap
      · have foreign' : ¬ two.OwnMandate ctx.accountId request.mandateId :=
          fun own' => own (same.ownMandate_iff.mpr own')
        unfold postInvoke
        rw [exec_bind, exec_bind, ownMandate_closed tenant own,
          ownMandate_closed tenant foreign']
      obtain ⟨mandate, found, owns⟩ := own
      have isMandate : mandate.id = request.mandateId :=
        Table.key_of_find found
      have alike : (callWatch ctx.accountId mandate draw finish).Alike _ _ :=
        same.callAlike found owns unused
      have begins :
          Paired (callWatch ctx.accountId mandate draw finish).Alike
            (postInvoke env (fun _ => s.db) ctx request draw)
            (postInvoke env (fun _ => two) ctx request draw) Eq :=
        postInvoke_paired alike found (same.mandates.found found owns) owns
          ((same.owns mandate.principalId).symm.trans owns) rfl
          (by simp [callWatch, isMandate])
          (same.loadLiveMandate unmixed ⟨mandate, found, owns⟩)
          (by simp [callWatch]) (by simp [callWatch]) (by simp [callWatch])
      cases leftRun :
          exec (postInvoke env (fun _ => s.db) ctx request draw) s.db with
      | mk outcome begun =>
          cases rightRun :
              exec (postInvoke env (fun _ => two) ctx request draw) two with
          | mk outcome' begun' =>
              obtain ⟨rfl, alike'⟩ := begins.run leftRun rightRun alike
              cases outcome with
              | error exception => rfl
              | ok answer =>
                  cases answer with
                  | answered result => rfl
                  | reserved attempt =>
                      dsimp only
                      rw [begun_goOn kept tenant found leftRun alike']

end Reserved

end Calls

end Crossing
