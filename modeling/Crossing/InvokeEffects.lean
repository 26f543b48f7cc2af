import Crossing.TxnEffects

namespace Crossing

open Relational
open Relational.Transaction

/-!
# The effects of an invocation

What each transaction of `invoke` does, and what is known of the attempt that a
call carries from one transaction to the next.
-/

/-- What a call knows of the attempt it has opened. -/
structure Attempt.Stored
    (env : Env)
    (db : Db)
    (attempt : Attempt) :
    Prop where
  loaded :
    ∃ row, db.mandates.find attempt.mandate.id = some row ∧
      row.principalId = attempt.mandate.principalId
  ofMandate : attempt.mandate.id = attempt.invocation.mandateId
  ofPrincipal :
    attempt.mandate.principalId = attempt.invocation.principalId
  ofReservation :
    attempt.invocation.reservationId = some attempt.reservation.id
  priced : attempt.invocation.amountCents = attempt.price
  requested : Requested env attempt.invocation attempt.request
  fingerprint : attempt.requestHash = requestFingerprint env attempt.request
  held : HeldAttempt db attempt.invocation

/-- What a call knows of its attempt stays true. -/
theorem Attempt.Stored.evolves
    {env : Env}
    {db db' : Db}
    {attempt : Attempt}
    (stored : attempt.Stored env db)
    (evolves : Evolves db db') :
    attempt.Stored env db' := by
  obtain ⟨row, found, same⟩ := stored.held
  obtain ⟨row', found', same'⟩ := evolves.invocations _ _ found
  obtain ⟨mandate, isMandate, ofPrincipal⟩ := stored.loaded
  obtain ⟨mandate', isMandate', sameTerms⟩ :=
    evolves.mandates _ _ isMandate
  exact
    { stored with
      loaded := ⟨mandate', isMandate', by rw [sameTerms.1]; exact ofPrincipal⟩
      held := ⟨row', found', same.trans same'⟩ }

/-- The callbacks of a call bill its attempt. -/
theorem Attempt.Stored.bills
    {env : Env}
    {db : Db}
    {attempt : Attempt}
    (stored : attempt.Stored env db)
    (toolResult : JsonText)
    (draw : FinishDraw) :
    Bills (attempt.callbacks toolResult draw) attempt.invocation where
  receipt :=
    ⟨_, rfl, stored.ofReservation.symm, stored.ofPrincipal,
      stored.priced.symm⟩
  billing := ⟨_, rfl, stored.ofPrincipal, stored.priced.symm⟩

section Begin

variable
  {env : Env}
  {discipline : Discipline}
  {origin : Origin}
  {views : Views}
  {db db' : Db}

/-- The nonce row touches the nonces only. -/
theorem bookNonce_ok
    {principalId : Id}
    {nonce : Option String}
    {done : Unit}
    (returned :
      exec (bookNonce principalId nonce) db = (.ok done, db')) :
    ∃ usedNonces, db' = { db with usedNonces := usedNonces } := by
  unfold bookNonce at returned
  cases given : truthy nonce with
  | none =>
      rw [given] at returned
      cases returned
      exact ⟨_, rfl⟩
  | some text =>
      rw [given] at returned
      obtain ⟨usedNonces, _, rfl⟩ := addRow_ok returned
      exact ⟨usedNonces, rfl⟩

/-- The task row touches the tasks only. -/
theorem bookTask_ok
    {mandate : Mandate}
    {taskId : Option Id}
    {newTaskId chosen : Id}
    (returned :
      exec (bookTask mandate taskId newTaskId) db = (.ok chosen, db')) :
    ∃ tasks, db' = { db with tasks := tasks } := by
  cases taskId with
  | some given =>
      cases returned
      exact ⟨_, rfl⟩
  | none =>
      obtain ⟨task, createRun, _⟩ := map_ok returned
      obtain ⟨_, _, addRun, answer⟩ := bind_ok createRun
      obtain ⟨tasks, _, rfl⟩ := addRow_ok addRun
      cases answer
      exact ⟨tasks, rfl⟩

/-- `_deny` answers with a failure and leaves at most its event. -/
theorem deny_ok
    {principalId : Option Id}
    {mandateId : Id}
    {outcome : Denied}
    {remaining : Option Cents}
    {idempotencyKey : Option String}
    {result : InvokeResult}
    (returned :
      exec
          (deny principalId mandateId outcome remaining idempotencyKey)
          db =
        (.ok result, db')) :
    result.ok = false ∧
      result.reason = some outcome.reason ∧
      DenialRecorded db db' := by
  obtain ⟨_, _, recordRun, answer⟩ := bind_ok returned
  cases answer
  refine ⟨rfl, rfl, ?_⟩
  cases principalId with
  | none =>
      cases recordRun
      exact .unrecorded
  | some given =>
      cases recordRun
      exact .recorded _ rfl

/-- A mandate that loads as live, with the agent that was checked. -/
theorem loadLiveMandate_ok
    {now : Datetime}
    {mandateId : Id}
    {mandate : Mandate}
    (live : loadLiveMandate env views now mandateId = .ok mandate) :
    (views 0).mandates.find mandateId = some mandate ∧
      mandate.revoked = false ∧
      ∃ agent,
        requireLiveAgent (views.after 2) mandate.agentId = .ok agent := by
  obtain ⟨loaded, found, rest⟩ := except_bind_eq_ok.mp live
  obtain ⟨_, _, rest⟩ := except_bind_eq_ok.mp rest
  obtain ⟨_, fresh, rest⟩ := except_bind_eq_ok.mp rest
  obtain ⟨agent, agentLive, answer⟩ := except_bind_eq_ok.mp rest
  cases answer
  unfold findMandate at found
  cases stored : (views 0).mandates.find mandateId with
  | none =>
      rw [stored] at found
      cases found
  | some row =>
      rw [stored] at found
      cases found
      obtain ⟨_, unrevoked, _⟩ := except_bind_eq_ok.mp fresh
      exact ⟨rfl, by simpa using denyWhen_eq_ok.mp unrevoked,
        agent, agentLive⟩

/-- What `check_tool` has checked of a call. -/
structure ToolChecked
    (mandate : Mandate)
    (tool server : String)
    (priceCents : Cents) :
    Prop where
  signed : checkSignedState mandate = .ok ()
  tool : ∀ tools ∈ mandate.toolsList, tool ∈ tools
  server : ∀ servers ∈ mandate.serversList, server ∈ servers
  price : priceCents ≤ mandate.maxCallCents
  calls : ∀ maxCalls ∈ mandate.maxCalls, mandate.callsUsed < maxCalls
  remaining : priceCents ≤ mandate.remainingCents

/-- A call that passes `check_tool` passes each of its checks. -/
theorem checkTool_ok
    {mandate : Mandate}
    {tool server : String}
    {priceCents : Cents}
    (passed : checkTool mandate tool server priceCents = .ok ()) :
    ToolChecked mandate tool server priceCents := by
  obtain ⟨_, signed, passed⟩ := except_bind_eq_ok.mp passed
  obtain ⟨_, toolPassed, passed⟩ := except_bind_eq_ok.mp passed
  obtain ⟨_, serverPassed, passed⟩ := except_bind_eq_ok.mp passed
  obtain ⟨_, pricePassed, passed⟩ := except_bind_eq_ok.mp passed
  obtain ⟨_, callsPassed, remainingPassed⟩ := except_bind_eq_ok.mp passed
  have noToolMissing := denyWhen_eq_ok.mp toolPassed
  have noServerMissing := denyWhen_eq_ok.mp serverPassed
  have noneUsedUp := denyWhen_eq_ok.mp callsPassed
  exact
    { signed := signed
      tool := fun listed isListed =>
        by_contra fun missing => noToolMissing ⟨listed, isListed, missing⟩
      server := fun listed isListed =>
        by_contra fun missing => noServerMissing ⟨listed, isListed, missing⟩
      price := not_lt.mp (denyWhen_eq_ok.mp pricePassed)
      calls := fun maxCalls isMax =>
        not_le.mp fun usedUp => noneUsedUp ⟨maxCalls, isMax, usedUp⟩
      remaining := not_lt.mp (denyWhen_eq_ok.mp remainingPassed) }

/-- A price that passes its checks passed `check_tool` at its price. -/
theorem checkedPrice_ok
    {view : Db}
    {mandate : Mandate}
    {request : InvokeRequest}
    {quoted : Except Denied Cents}
    {price : Cents}
    (passed : checkedPrice env view mandate request quoted = .ok price) :
    quoted = .ok price ∧
      checkTool mandate request.tool request.server price = .ok () := by
  obtain ⟨quote, isQuote, rest⟩ := except_bind_eq_ok.mp passed
  obtain ⟨_, toolChecked, rest⟩ := except_bind_eq_ok.mp rest
  obtain ⟨_, _, rest⟩ := except_bind_eq_ok.mp rest
  by_cases configured : env.stripeConfigured = true
  · simp only [configured, ↓reduceIte] at rest
    obtain ⟨_, _, answer⟩ := except_bind_eq_ok.mp rest
    cases answer
    exact ⟨isQuote, toolChecked⟩
  · simp only [configured] at rest
    cases rest
    exact ⟨isQuote, toolChecked⟩

/-- The completed claim that a replayed answer was read from. -/
structure Replays
    (view : Db)
    (principalId : Id)
    (key : Option String)
    (requestHash : String)
    (result : InvokeResult) :
    Prop where
  claim :
    ∃ text record stored,
      truthy key = some text ∧
        view.idempotencyRecords.find (principalId, text) = some record ∧
        record.status = .completed ∧
        record.resultJson = some stored ∧
        result = replayOf stored ∧
        ¬ ∃ hash ∈ truthy record.requestHash,
          ∃ requested ∈ truthy (some requestHash), hash ≠ requested

/-- A cached answer of `_load_idem` replays a completed claim. -/
theorem loadIdem_replays
    {view : Db}
    {principalId : Id}
    {key : Option String}
    {requestHash : String}
    {cached : InvokeResult}
    (loaded :
      loadIdem view principalId key requestHash = .ok (some cached)) :
    Replays view principalId key requestHash cached := by
  unfold loadIdem at loaded
  cases keyed : truthy key with
  | none =>
      simp [keyed] at loaded
  | some text =>
      simp only [keyed] at loaded
      cases found : view.idempotencyRecords.find (principalId, text) with
      | none =>
          simp [found] at loaded
      | some record =>
          simp only [found] at loaded
          by_cases conflicts :
              ∃ hash ∈ truthy record.requestHash, hash ≠ requestHash
          · rw [if_pos conflicts] at loaded
            cases loaded
          · rw [if_neg conflicts] at loaded
            cases status : record.status with
            | inProgress =>
                simp [status] at loaded
            | completed =>
                cases stored : record.resultJson with
                | none =>
                    simp [status, stored] at loaded
                | some result =>
                    simp only [status, stored, Except.ok.injEq,
                      Option.some.injEq] at loaded
                    refine
                      ⟨text, record, result, keyed, found, status, stored,
                        loaded.symm, ?_⟩
                    rintro ⟨hash, isHash, requested, isRequested, differs⟩
                    obtain ⟨same, _⟩ :=
                      Option.filter_eq_some_iff.mp isRequested
                    cases same
                    exact conflicts ⟨hash, isHash, differs⟩

/-- What is known when the first transaction of `invoke` opens an attempt. -/
structure Begins
    (env : Env)
    (views : Views)
    (request : InvokeRequest)
    (draw : InvokeDraw)
    (db : Db)
    (loaded : Mandate)
    (attempt : Attempt) :
    Prop where
  live :
    loadLiveMandate env views draw.now request.mandateId = .ok loaded
  notCached :
    loadIdem (views 4) loaded.principalId request.idempotencyKey
        (requestFingerprint env request) =
      .ok none
  allowed :
    checkTool loaded request.tool request.server attempt.price = .ok ()
  opening :
    ∃ old reservations invocations claims,
      Opened db old attempt.reservation attempt.invocation reservations
          invocations claims ∧
        old.id = loaded.id ∧
        attempt.mandate = debited attempt.price old ∧
        notExpired draw.debitNow old = true
  isRequest : attempt.request = request
  fingerprint : attempt.requestHash = requestFingerprint env request
  isInvocation :
    attempt.invocation =
      reservedInvocation draw.newInvocationId attempt.mandate
        attempt.reservation attempt.taskId request.tool request.server
        (some attempt.requestHash) request.idempotencyKey attempt.price

/-- The reservation in `invoke` opens an attempt, or answers. -/
theorem reserveOrAnswer_ok
    {view : Db}
    {mandate : Mandate}
    {price : Cents}
    {request : InvokeRequest}
    {requestHash : String}
    {taskId : Option Id}
    {draw : InvokeDraw}
    {begun : Begun}
    (returned :
      exec
          (reserveOrAnswer view mandate price request requestHash taskId
            draw)
          db =
        (.ok begun, db'))
    (samePrincipal :
      ∀ row, db.mandates.find mandate.id = some row →
        row.principalId = mandate.principalId) :
    (∃ result,
      begun = .answered result ∧
        DenialRecorded db db' ∧
        (result.ok = true →
          Replays view mandate.principalId request.idempotencyKey
            requestHash result)) ∨
    (∃ attempt old reservations invocations claims,
      begun = .reserved attempt ∧
        Opened db old attempt.reservation attempt.invocation reservations
          invocations claims ∧
        old.id = mandate.id ∧
        attempt.mandate = debited price old ∧
        notExpired draw.debitNow old = true ∧
        attempt.request = request ∧
        attempt.requestHash = requestHash ∧
        attempt.price = price ∧
        attempt.invocation =
          reservedInvocation draw.newInvocationId attempt.mandate
            attempt.reservation attempt.taskId request.tool request.server
            (some requestHash) request.idempotencyKey price ∧
        db' =
          openedDb db old attempt.reservation taskId reservations
            invocations claims) := by
  unfold reserveOrAnswer at returned
  rw [exec_tryCatch, exec_bind] at returned
  cases openRun :
      exec
        (reserveAndCommit view draw.debitNow mandate price
          request.idempotencyKey request.nonce request.tool request.server
          (some requestHash) taskId draw.newReservationId
          draw.newInvocationId)
        db with
  | mk outcome between =>
      rw [openRun] at returned
      cases outcome with
      | ok opened =>
          obtain ⟨reservation, invocation, after⟩ := opened
          cases returned
          right
          obtain
            ⟨old, reservations, invocations, claims, opening, sameId,
              isAfter, inTime, isInvocation, rfl⟩ :=
            claimAndReserve_ok (reserveAndCommit_ok openRun) samePrincipal
          exact
            ⟨_, old, reservations, invocations, claims, rfl, opening,
              sameId, isAfter, inTime, rfl, rfl, rfl, isInvocation, rfl⟩
      | error exception =>
          obtain ⟨denial, replay⟩ := reserveAndCommit_error openRun
          left
          cases exception with
          | policyDenied outcome =>
              cases returned
              exact ⟨_, rfl, denial, by simp⟩
          | idempotencyReplay record =>
              cases returned
              refine ⟨_, rfl, denial, ?_⟩
              intro _
              obtain ⟨_, taken⟩ := replay record rfl
              obtain ⟨key, keyed, found⟩ := taken.found
              obtain ⟨stored, isStored⟩ :=
                Option.isSome_iff_exists.mp taken.hasResult
              exact
                ⟨key, record, stored, keyed, found, taken.completed,
                  isStored, by simp [isStored], taken.sameRequest⟩
          | _ => cases returned

/-- A call that has just begun knows its attempt. -/
theorem Begins.stored
    {request : InvokeRequest}
    {draw : InvokeDraw}
    {loaded : Mandate}
    {attempt : Attempt}
    (begins : Begins env views request draw db loaded attempt)
    (mandateLoaded :
      ∃ row, db'.mandates.find attempt.mandate.id = some row ∧
        row.principalId = attempt.mandate.principalId)
    (held : HeldAttempt db' attempt.invocation) :
    attempt.Stored env db' := by
  obtain ⟨old, reservations, invocations, claims, opened, sameId,
    isMandate, _⟩ := begins.opening
  obtain ⟨found, _, _⟩ := loadLiveMandate_ok begins.live
  have loadedId : loaded.id = request.mandateId := Table.key_of_find found
  have mandateId : attempt.mandate.id = old.id := by
    rw [isMandate]
    rfl
  have principalId : attempt.mandate.principalId = old.principalId := by
    rw [isMandate]
    rfl
  exact
    { loaded := mandateLoaded
      ofMandate := mandateId.trans opened.ofMandate.symm
      ofPrincipal := principalId.trans opened.ofPrincipal.symm
      ofReservation := opened.ofReservation
      priced := by
        rw [begins.isInvocation]
        rfl
      requested := by
        rw [begins.isRequest]
        exact
          { mandate := by rw [opened.ofMandate, sameId, loadedId]
            tool := by
              rw [begins.isInvocation]
              rfl
            server := by
              rw [begins.isInvocation]
              rfl
            key := by
              rw [begins.isInvocation]
              rfl
            hash := by
              rw [begins.isInvocation, begins.fingerprint]
              rfl }
      fingerprint := by
        rw [begins.fingerprint, begins.isRequest]
      held := held }

/-- A denial in `invoke` that is answered at once. -/
theorem deniedAnswer_ok
    {principalId : Option Id}
    {mandateId : Id}
    {outcome : Denied}
    {remaining : Option Cents}
    {idempotencyKey : Option String}
    {begun : Begun}
    (returned :
      exec
          (.answered <$>
            deny principalId mandateId outcome remaining idempotencyKey)
          db =
        (.ok begun, db')) :
    ∃ result,
      begun = .answered result ∧
        result.ok = false ∧
        Effect env discipline origin db [] db' := by
  obtain ⟨result, denyRun, rfl⟩ := map_ok returned
  obtain ⟨failed, _, denial⟩ := deny_ok denyRun
  exact
    ⟨result, rfl, failed,
      DenialRecorded.effect db.tasks db.usedNonces denial⟩

/-- The first transaction of `invoke` has opened an attempt. -/
structure BeginsIn
    (env : Env)
    (discipline : Discipline)
    (origin : Origin)
    (views : Views)
    (request : InvokeRequest)
    (draw : InvokeDraw)
    (db db' : Db)
    (loaded : Mandate)
    (attempt : Attempt) :
    Prop where
  begins : Begins env views request draw db loaded attempt
  stored : attempt.Stored env db'
  effect :
    Effect env discipline origin db [.reserved attempt.invocation.id] db'
  reserved :
    db.reservations.insert? attempt.reservation = some db'.reservations

/-- An answer of the first transaction of `invoke`. -/
structure AnswersIn
    (env : Env)
    (discipline : Discipline)
    (origin : Origin)
    (views : Views)
    (request : InvokeRequest)
    (draw : InvokeDraw)
    (db db' : Db)
    (result : InvokeResult) :
    Prop where
  effect : Effect env discipline origin db [] db'
  replays :
    result.ok = true →
      ∃ loaded statement,
        loadLiveMandate env views draw.now request.mandateId = .ok loaded ∧
          Replays (views statement) loaded.principalId
            request.idempotencyKey (requestFingerprint env request) result

/-- A denial answers. -/
theorem deniedAnswer_answersIn
    {principalId : Option Id}
    {mandateId : Id}
    {outcome : Denied}
    {remaining : Option Cents}
    {idempotencyKey : Option String}
    {begun : Begun}
    {request : InvokeRequest}
    {draw : InvokeDraw}
    (returned :
      exec
          (.answered <$>
            deny principalId mandateId outcome remaining idempotencyKey)
          db =
        (.ok begun, db')) :
    ∃ result,
      begun = .answered result ∧
        AnswersIn env discipline origin views request draw db db' result := by
  obtain ⟨result, rfl, failed, effect⟩ := deniedAnswer_ok returned
  exact ⟨result, rfl, { effect := effect, replays := by simp [failed] }⟩

/-- The last stage of the first transaction: nonce, task and reservation. -/
theorem invokeReserve_ok
    {request : InvokeRequest}
    {draw : InvokeDraw}
    {loaded : Mandate}
    {price : Cents}
    {begun : Begun}
    (seen : Seen views db)
    (live :
      loadLiveMandate env views draw.now request.mandateId = .ok loaded)
    (notCached :
      loadIdem (views 4) loaded.principalId request.idempotencyKey
          (requestFingerprint env request) =
        .ok none)
    (admission :
      checkedPrice env (views 6) loaded request draw.quoted = .ok price)
    (returned :
      exec
          (do
            bookNonce loaded.principalId request.nonce
            let taskId ← bookTask loaded request.taskId draw.newTaskId
            reserveOrAnswer (views 7) loaded price request
              (requestFingerprint env request) (some taskId) draw)
          db =
        (.ok begun, db')) :
    (∃ result,
      begun = .answered result ∧
        AnswersIn env discipline origin views request draw db db' result) ∨
    (∃ attempt loaded,
      begun = .reserved attempt ∧
        BeginsIn env discipline origin views request draw db db' loaded
          attempt) := by
  obtain ⟨_, _, nonceRun, afterNonce⟩ := bind_ok returned
  obtain ⟨usedNonces, rfl⟩ := bookNonce_ok nonceRun
  obtain ⟨taskId, _, taskRun, reserveRun⟩ := bind_ok afterNonce
  obtain ⟨tasks, rfl⟩ := bookTask_ok taskRun
  obtain ⟨found, _, _⟩ := loadLiveMandate_ok live
  have loadedId : loaded.id = request.mandateId := Table.key_of_find found
  have samePrincipal :
      ∀ row, db.mandates.find loaded.id = some row →
        row.principalId = loaded.principalId := by
    intro row rowFound
    obtain ⟨row', rowFound', same⟩ := (seen 0).mandates _ _ found
    rw [loadedId, rowFound'] at rowFound
    cases rowFound
    rw [same.1]
  rcases reserveOrAnswer_ok reserveRun samePrincipal with
    ⟨result, rfl, denial, replays⟩ |
    ⟨attempt, old, reservations, invocations, claims, rfl, opening, sameId,
      isMandate, inTime, isRequest, isHash, isPrice, isInvocation, rfl⟩
  · left
    refine ⟨result, rfl, ?_⟩
    exact
      { effect := DenialRecorded.effect tasks usedNonces denial
        replays := fun succeeded => ⟨loaded, 7, live, replays succeeded⟩ }
  · right
    have opened :
        Opened db old attempt.reservation attempt.invocation reservations
          invocations claims :=
      { opening with debit := { opening.debit with } }
    have begins : Begins env views request draw db loaded attempt :=
      { live := live
        notCached := notCached
        allowed := isPrice ▸ (checkedPrice_ok admission).2
        opening :=
          ⟨old, reservations, invocations, claims, opened, sameId,
            isPrice ▸ isMandate, inTime⟩
        isRequest := isRequest
        fingerprint := isHash
        isInvocation := by
          rw [isInvocation, isHash, isPrice] }
    have mandateFound :
        (db.mandates.put
            (debited attempt.reservation.amountCents old)).find old.id =
          some (debited attempt.reservation.amountCents old) :=
      Table.find_put_self opened.debit.found
    have attemptFound :
        invocations.find attempt.invocation.id = some attempt.invocation :=
      Table.find_of_mem
        ((Table.mem_insert opened.inserted).mpr (.inr rfl))
    have stored :
        attempt.Stored env
          { openedDb db old attempt.reservation (some taskId) reservations
              invocations claims with
            tasks := tasks
            usedNonces := usedNonces } := by
      refine begins.stored ?_ ⟨attempt.invocation, attemptFound, rfl⟩
      rw [isMandate]
      exact ⟨_, mandateFound, rfl⟩
    refine ⟨attempt, loaded, rfl, ?_⟩
    exact
      { begins := begins
        stored := stored
        effect :=
          .opened opened (some taskId) tasks usedNonces
            fun _ => ⟨_, stored.requested⟩
        reserved := opened.debit.inserted }

/--
The first transaction of `invoke` answers, and a positive answer replays a
completed claim, or it opens an attempt.
-/
theorem invokeBegin_ok
    {request : InvokeRequest}
    {draw : InvokeDraw}
    {begun : Begun}
    (seen : Seen views db)
    (returned :
      exec (invokeBegin env views request draw) db = (.ok begun, db')) :
    (∃ result,
      begun = .answered result ∧
        AnswersIn env discipline origin views request draw db db' result) ∨
    (∃ attempt loaded,
      begun = .reserved attempt ∧
        BeginsIn env discipline origin views request draw db db' loaded
          attempt) := by
  unfold invokeBegin at returned
  cases live : loadLiveMandate env views draw.now request.mandateId with
  | error outcome =>
      simp only [live] at returned
      exact .inl (deniedAnswer_answersIn returned)
  | ok loaded =>
      simp only [live] at returned
      cases cached :
          loadIdem (views 4) loaded.principalId request.idempotencyKey
            (requestFingerprint env request) with
      | error outcome =>
          simp only [cached] at returned
          by_cases waiting : outcome.reason = .inProgress
          · rw [if_pos waiting] at returned
            cases returned
            exact .inl ⟨_, rfl, { effect := .idle, replays := by simp }⟩
          · rw [if_neg waiting] at returned
            exact .inl (deniedAnswer_answersIn returned)
      | ok answer =>
          cases answer with
          | some result =>
              simp only [cached] at returned
              cases returned
              left
              refine ⟨result, rfl, { effect := .idle, replays := ?_ }⟩
              intro _
              exact ⟨loaded, 4, live, loadIdem_replays cached⟩
          | none =>
              simp only [cached] at returned
              by_cases clash :
                  nonceClash (views 5) loaded.principalId request.nonce = true
              · rw [if_pos clash] at returned
                exact .inl (deniedAnswer_answersIn returned)
              · rw [if_neg clash] at returned
                cases admission :
                    checkedPrice env (views 6) loaded request draw.quoted with
                | error outcome =>
                    simp only [admission] at returned
                    exact .inl (deniedAnswer_answersIn returned)
                | ok price =>
                    simp only [admission] at returned
                    exact invokeReserve_ok seen live cached admission
                      returned

end Begin

section Continue

variable
  {env : Env}
  {discipline : Discipline}
  {db db' : Db}

/-- The dispatch barrier wins, or answers without a change. -/
theorem invokeMark_ok
    {attempt : Attempt}
    {answer : Option InvokeResult}
    (returned : exec (invokeMark attempt) db = (.ok answer, db')) :
    (∃ result, answer = some result ∧ result.ok = false ∧ db' = db) ∨
      ∃ row : Invocation,
        answer = none ∧
          db.invocations.find row.id = some row ∧
          row.id = attempt.invocation.id ∧
          row.status = .reserved ∧
          db' = movedDb db row .executing := by
  obtain ⟨marked, _, markRun, afterMark⟩ := bind_ok returned
  rcases markExecuting_ok markRun with
    ⟨lost, rfl⟩ | ⟨row, found, sameId, reserved, won, rfl⟩
  · left
    simp only [lost, Bool.false_eq_true, ↓reduceIte] at afterMark
    obtain ⟨_, _, readRun, afterRead⟩ := bind_ok afterMark
    cases readRun
    obtain ⟨_, _, present, answered⟩ := bind_ok afterRead
    obtain ⟨_, rfl⟩ := orRaise_ok present
    cases answered
    exact ⟨_, rfl, rfl, rfl⟩
  · right
    simp only [won, ↓reduceIte] at afterMark
    cases afterMark
    exact ⟨row, rfl, found, sameId, reserved, rfl⟩

/-- After a provider failure the attempt stays open. -/
theorem invokeFail_ok
    {origin : Origin}
    {attempt : Attempt}
    {error : String}
    {result : InvokeResult}
    (returned : exec (invokeFail attempt error) db = (.ok result, db')) :
    result.ok = false ∧ Effect env discipline origin db [] db' := by
  obtain ⟨_, _, markRun, answer⟩ := bind_ok returned
  cases answer
  exact ⟨rfl, markExecutedFail_effect markRun⟩

/--
The finalization of `invoke` loses and changes nothing, or it settles the
attempt of the call and answers with its receipt.
-/
theorem invokeFinish_ok
    {attempt : Attempt}
    {toolResult : JsonText}
    {draw : FinishDraw}
    {result : InvokeResult}
    (returned :
      exec (invokeFinish env attempt toolResult draw) db =
        (.ok result, db')) :
    (result.ok = false ∧ db' = db) ∨
      ∃ (row : Reservation) (invocation : Invocation)
          (receipt : Option Receipt) (receipts : Table Receipt)
          (outbox : Table Outbox) (accounts : Table Account)
          (claims : Table IdempotencyRecord),
        Settled env (attempt.callbacks toolResult draw)
            ((attempt.callbacks toolResult draw).payload env) db row
            invocation receipt receipts outbox accounts claims ∧
          row.id = attempt.reservation.id ∧
          invocation.id = attempt.invocation.id ∧
          invocation.status ∈
            [InvocationStatus.executing, .executedOk] ∧
          result = attempt.success toolResult receipt ∧
          receipt =
            (attempt.callbacks toolResult draw).receiptFn.map
              (issuedReceipt env) ∧
          db' =
            settledDb db row invocation .committed
              (sessionRemaining attempt.sessionMandate row) receipts outbox
              accounts claims [] := by
  obtain ⟨finalized, _, finalizeRun, answer⟩ := bind_ok returned
  rcases onFinalizeLost_ok finalizeRun with ⟨rfl, rfl⟩ | finished
  · cases answer
    exact .inl ⟨rfl, rfl⟩
  · right
    obtain
      ⟨row, invocation, receipt, receipts, outbox, accounts, claims,
        settling, rowId, invocationId, fromStatus, won, isReceipt, issued,
        rfl⟩ :=
      successUnit_ok finished
    simp only [won, isReceipt, ↓reduceIte] at answer
    cases answer
    exact
      ⟨row, invocation, receipt, receipts, outbox, accounts, claims,
        settling, rowId, invocationId, fromStatus, rfl, issued, rfl⟩

/-- The finalization of `invoke` has the effect of a settlement. -/
theorem invokeFinish_effect
    {attempt : Attempt}
    {toolResult : JsonText}
    {draw : FinishDraw}
    {result : InvokeResult}
    (stored : attempt.Stored env db)
    (returned :
      exec (invokeFinish env attempt toolResult draw) db =
        (.ok result, db')) :
    Effect env discipline (.finish attempt.invocation.id) db [] db' := by
  obtain ⟨finalized, _, finalizeRun, answer⟩ := bind_ok returned
  have bills := stored.bills toolResult draw
  have effect :
      Effect env discipline (.finish attempt.invocation.id) db [] _ :=
    finalizeSuccess_effect stored.held
      (fun _ => ⟨stored.ofReservation, bills.addressed⟩)
      (fun _ => bills)
      (fun _ => ⟨_, rfl, rfl⟩)
      (fun _ => rfl)
      finalizeRun
  by_cases won : finalized.won = true
  · simp only [won, ↓reduceIte] at answer
    cases answer
    exact effect
  · simp only [won] at answer
    cases answer
    exact effect

end Continue

end Crossing
