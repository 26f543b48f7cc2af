import Crossing.Metering
import Crossing.Replay

namespace Crossing

open Relational

/-!
# What the billing status shows

`billing_status` of `billing.py` reads the account, its principals, their
receipts and the outbox one after another, while calls are being settled.  What
it shows adds up when nothing else runs, and what is read later is never behind.
-/

/-- The dict that `billing_status` returns. -/
structure BillingStatus where
  accountId : Id
  planPriceId : Option String
  stripeCustomerPresent : Bool
  stripeStatus : Option String
  receiptCount : Nat
  usageCents : Cents
  outboxPending : Nat
  outboxSent : Nat
  outboxDead : Nat
  feeBps : Int
  feeMicrocents : Int
  feeInvoicedCents : Int
  deriving Repr, DecidableEq

/-- The principals of an account, by their ids. -/
def principalsOf (view : Db) (accountId : Id) : List Id :=
  (view.principals.rows.filter fun row => row.accountId = accountId).map
    Principal.id

/-- The outbox rows whose status is one of these. -/
def countStatus (rows : List Outbox) (statuses : List OutboxStatus) : Nat :=
  (rows.filter fun row => row.status ∈ statuses).length

/--
`billing_status`; `none` stands for `KeyError`.  `priceId` is the price of the
account, `defaultPriceId` the one of the environment.
-/
def billingStatus
    (env : Env)
    (views : Views)
    (priceId defaultPriceId : Option String)
    (accountId : Id) :
    Option BillingStatus := do
  let account ← (views 0).accounts.find accountId
  let pids := principalsOf (views 1) accountId
  let receipts :=
    (views 2).receipts.rows.filter fun row => row.principalId ∈ pids
  let mine :=
    (views 3).billingOutbox.rows.filter fun row =>
      row.payloadJson.principalId ∈ pids
  some
    { accountId := account.id
      planPriceId := truthy ((truthy priceId).or defaultPriceId)
      stripeCustomerPresent := (truthy account.stripeCustomerId).isSome
      stripeStatus := account.stripeStatus
      receiptCount := receipts.length
      usageCents := (receipts.map Receipt.amountCents).sum
      outboxPending := countStatus mine [.pending, .failed, .sending]
      outboxSent := countStatus mine [.sent, .noop]
      outboxDead := countStatus mine [.dead]
      feeBps := env.feeBps
      feeMicrocents := account.feeMicrocents
      feeInvoicedCents := account.feeInvoicedCents }

/-! ## Receipts and the outbox -/

/-- Who is charged by a receipt, and how much. -/
def Receipt.charge (receipt : Receipt) : Id × Id × Cents :=
  (receipt.id, receipt.principalId, receipt.amountCents)

/-- The charge that an outbox row reports. -/
def Outbox.charge (row : Outbox) : Id × Id × Cents :=
  (row.receiptId, row.payloadJson.principalId, row.payloadJson.amountCents)

/-- The outbox reports the charges of the receipts, one by one. -/
structure Db.Mirrored (db : Db) : Prop where
  charges :
    db.billingOutbox.rows.map Outbox.charge =
      db.receipts.rows.map Receipt.charge
  nonnegative : ∀ receipt ∈ db.receipts.rows, 0 ≤ receipt.amountCents

namespace Db.Mirrored

variable {env : Env} {db : Db}

/-- A metered settlement adds one charge to both. -/
theorem settled
    (law : db.Mirrored)
    {reservation : Reservation}
    {issued : Receipt}
    {receipts : Table Receipt}
    {outbox : Table Outbox}
    {accounts : Table Account}
    (nonnegative : 0 ≤ reservation.amountCents)
    (metering : Metered env db reservation issued receipts outbox accounts) :
    outbox.rows.map Outbox.charge = receipts.rows.map Receipt.charge ∧
      ∀ receipt ∈ receipts.rows, 0 ≤ receipt.amountCents := by
  obtain ⟨newId, billed⟩ := metering.billed
  constructor
  · rw [(Table.insert?_eq_some billed).2,
      (Table.insert?_eq_some metering.inserted).2, List.map_append,
      List.map_append, law.charges]
    simp [Outbox.charge, Receipt.charge, pendingOutbox,
      metering.samePrincipal, metering.sameAmount]
  · intro receipt member
    rcases (Table.mem_insert metering.inserted).mp member with inOld | rfl
    · exact law.nonnegative receipt inOld
    · rw [metering.sameAmount]
      exact nonnegative

/-- The drain reports the same charges. -/
theorem drained
    (law : db.Mirrored)
    {outbox : Table Outbox}
    (sameBills :
      outbox.rows.map Outbox.bill = db.billingOutbox.rows.map Outbox.bill) :
    ({ db with billingOutbox := outbox } : Db).Mirrored where
  charges := by
    have byBill :
        Outbox.charge =
          (fun bill => (bill.1, bill.2.principalId, bill.2.amountCents)) ∘
            Outbox.bill :=
      rfl
    change outbox.rows.map Outbox.charge = _
    rw [byBill, ← List.map_map, sameBills, List.map_map, ← byBill]
    exact law.charges
  nonnegative := law.nonnegative

/-- Every effect of a paired run that meters its attempts keeps the law. -/
theorem step
    {discipline : Discipline}
    {origin : Origin}
    {entries : List Entry}
    {db' : Db}
    (law : db.Mirrored)
    (coupled : db.Coupled)
    (balanced : db.books.Balanced)
    (paired : discipline.paired)
    (metered : discipline.metered)
    (effect : Effect env discipline origin db entries db') :
    db'.Mirrored := by
  cases effect with
  | drained sameBills => exact law.drained sameBills
  | settled settling via pairing metering =>
      obtain ⟨link, _⟩ := pairing paired
      have found := settling.reservationFound
      have holds := coupled.holdsFor settling.invocationFound found link
      obtain ⟨issued, _, metering⟩ :=
        coupled.metered settling holds (metering metered)
      obtain ⟨charges, nonnegative⟩ :=
        law.settled (balanced.amounts _ (Table.mem_of_find found)) metering
      exact ⟨charges, nonnegative⟩
  | resettled resettling via pairing =>
      exact (coupled.not_resettled resettling via (pairing paired)).elim
  | _ => exact ⟨law.charges, law.nonnegative⟩

/-- An effect of such a run only ever adds receipts. -/
theorem receipts_grow
    {discipline : Discipline}
    {origin : Origin}
    {entries : List Entry}
    {db' : Db}
    (coupled : db.Coupled)
    (paired : discipline.paired)
    (metered : discipline.metered)
    (effect : Effect env discipline origin db entries db') :
    db.receipts.rows <+: db'.receipts.rows := by
  cases effect with
  | settled settling via pairing metering =>
      obtain ⟨link, _⟩ := pairing paired
      have holds :=
        coupled.holdsFor settling.invocationFound settling.reservationFound
          link
      obtain ⟨issued, _, metering⟩ :=
        coupled.metered settling holds (metering metered)
      exact ⟨[issued], (Table.insert?_eq_some metering.inserted).2.symm⟩
  | resettled resettling via pairing =>
      exact (coupled.not_resettled resettling via (pairing paired)).elim
  | _ => exact List.prefix_refl _

end Db.Mirrored

section Runs

variable
  {env : Env}
  {allowed : Sys → Action → Prop}
  {s s' : Sys}

/-- In every reachable state the outbox reports the charges of the receipts. -/
theorem reachable_mirrored
    (discipline : Discipline)
    (paired : discipline.paired)
    (metered : discipline.metered)
    (keeps : ∀ s action, allowed s action → discipline.Allows action)
    (reachable : Reachable env allowed s) :
    s.db.Mirrored := by
  apply reachable_db_invariant discipline Db.Mirrored keeps _ _ reachable
  · exact ⟨rfl, fun receipt member => by cases member⟩
  · intro s origin entries db' isReachable effect law
    exact law.step
      (reachable_coupled discipline paired metered keeps isReachable)
      (reachable_balanced isReachable) paired metered effect

/-- Receipts are only ever added. -/
theorem later_receipts
    (discipline : Discipline)
    (paired : discipline.paired)
    (metered : discipline.metered)
    (keeps : ∀ s action, allowed s action → discipline.Allows action)
    (reachable : Reachable env allowed s)
    (later : Later env allowed s s') :
    s.db.receipts.rows <+: s'.db.receipts.rows := by
  refine Transition.later_invariant
    (fun s' => s.db.receipts.rows <+: s'.db.receipts.rows) ?_ reachable
    (List.prefix_refl _) later
  rintro s₁ s₂ isReachable grown ⟨action, isAllowed, taken⟩
  have shape :=
    stepped (reachable_kept isReachable) (keeps s₁ action isAllowed) taken
  obtain ⟨_, _, effect⟩ := shape.effect
  exact grown.trans
    (Db.Mirrored.receipts_grow
      (reachable_coupled discipline paired metered keeps isReachable) paired
      metered effect)

/-! ## What statements see -/

/-- Each committed state is that of a reachable state with what came before. -/
theorem earlier_state
    (reachable : Reachable env allowed s)
    {age : Nat}
    (known : age ≤ s.past.length) :
    ∃ s₁,
      Reachable env allowed s₁ ∧
        Later env allowed s₁ s ∧
        s₁.states = s.states.drop age := by
  obtain ⟨first, isStart, run⟩ := reachable
  induction run generalizing age with
  | refl =>
      rw [isStart] at known ⊢
      cases Nat.le_zero.mp known
      exact ⟨.start, .start rfl, .refl, rfl⟩
  | @tail s₁ s₂ before taken inductionHypothesis =>
      have isReachable : Reachable env allowed s₁ := ⟨first, isStart, before⟩
      have isLater : Later env allowed s₁ s₂ := .single taken
      obtain ⟨action, _, isStep⟩ := taken
      have shape :=
        stepped (reachable_kept isReachable) (Discipline.free_allows action)
          isStep
      have upTo
          {older : Nat}
          (known : older ≤ s₁.past.length)
          (same : s₂.states.drop age = s₁.states.drop older) :
          ∃ s₀,
            Reachable env allowed s₀ ∧
              Later env allowed s₀ s₂ ∧
              s₀.states = s₂.states.drop age := by
        obtain ⟨s₀, isReachable₀, later, states⟩ := inductionHypothesis known
        exact ⟨s₀, isReachable₀, later.trans isLater, states.trans same.symm⟩
      rcases shape.states_eq with same | grown
      · have lengths := congrArg List.length same
        simp only [Sys.states, List.length_cons] at lengths
        exact @upTo age (by omega) (by rw [same])
      · cases age with
        | zero => exact ⟨s₂, isReachable.later isLater, .refl, rfl⟩
        | succ older =>
            have lengths := congrArg List.length grown
            simp only [Sys.states, List.length_cons] at lengths
            exact @upTo older (by omega) (by rw [grown, List.drop_succ_cons])

/-- The state that a statement sees. -/
theorem seen_state
    (reachable : Reachable env allowed s)
    {ages : List Nat}
    (since : Since .start s ages)
    (statement : Nat) :
    ∃ s₁,
      Reachable env allowed s₁ ∧
        Later env allowed s₁ s ∧
        s₁.states = s.states.drop (ages.getD statement 0) ∧
        s.views ages statement = s₁.db := by
  have known : ages.getD statement 0 ≤ s.past.length := by
    rw [List.getD_eq_getElem?_getD]
    cases found : ages[statement]? with
    | none => exact Nat.zero_le _
    | some age =>
        have bound := since age (List.mem_of_getElem? found)
        simp only [Sys.start, List.length_nil, zero_add] at bound
        exact bound
  obtain ⟨s₁, isReachable, later, states⟩ := earlier_state reachable known
  refine ⟨s₁, isReachable, later, states, ?_⟩
  unfold Sys.views
  have head := congrArg (fun states => states[0]?) states
  simp only [Sys.states, List.getElem?_cons_zero, List.getElem?_drop,
    add_zero] at head
  rw [List.getD_eq_getElem?_getD, Sys.states, ← head]
  rfl

/-- Ages do not grow from one statement to a later one. -/
theorem Monotone.getD
    {ages : List Nat}
    (monotone : Monotone ages)
    {first second : Nat}
    (before : first ≤ second) :
    ages.getD second 0 ≤ ages.getD first 0 := by
  rcases Nat.lt_or_eq_of_le before with earlier | rfl
  · rw [List.getD_eq_getElem?_getD, List.getD_eq_getElem?_getD]
    cases found : ages[second]? with
    | none => exact Nat.zero_le _
    | some age =>
        obtain ⟨inRange, isAge⟩ := List.getElem?_eq_some_iff.mp found
        have firstInRange : first < ages.length := earlier.trans inRange
        rw [List.getElem?_eq_getElem firstInRange, ← isAge]
        exact List.pairwise_iff_getElem.mp monotone first second
          firstInRange inRange earlier
  · exact le_refl _

/-- Later statements see later states. -/
theorem seen_states
    (reachable : Reachable env allowed s)
    {ages : List Nat}
    (monotone : Monotone ages)
    (since : Since .start s ages)
    {first second : Nat}
    (before : first ≤ second) :
    ∃ s₁ s₂,
      Reachable env allowed s₁ ∧
        Later env allowed s₁ s₂ ∧
        s.views ages first = s₁.db ∧
        s.views ages second = s₂.db := by
  obtain ⟨s₁, isReachable, later, states, isFirst⟩ :=
    seen_state reachable since first
  have younger : ages.getD second 0 ≤ ages.getD first 0 :=
    monotone.getD before
  have lengths := congrArg List.length states
  simp only [Sys.states, List.length_cons, List.length_drop] at lengths
  have sinceFirst : Since s₁ s [ages.getD second 0] := by
    intro age member
    rw [List.mem_singleton.mp member]
    omega
  obtain ⟨s₂, between, isSecond⟩ :=
    view_since isReachable later sinceFirst 0
  exact ⟨s₁, s₂, isReachable, between, isFirst, isSecond⟩

/-! ## What is shown -/

/-- A principal of an account is stored with it. -/
theorem mem_principalsOf
    {view : Db}
    {accountId principalId : Id} :
    principalId ∈ principalsOf view accountId ↔
      ∃ principal,
        view.principals.find principalId = some principal ∧
          principal.accountId = accountId := by
  unfold principalsOf
  constructor
  · intro member
    obtain ⟨principal, inRows, rfl⟩ := List.mem_map.mp member
    obtain ⟨inRows, ofAccount⟩ := List.mem_filter.mp inRows
    exact ⟨principal, Table.find_of_mem inRows,
      of_decide_eq_true ofAccount⟩
  · rintro ⟨principal, found, ofAccount⟩
    exact List.mem_map.mpr
      ⟨principal,
        List.mem_filter.mpr
          ⟨Table.mem_of_find found, decide_eq_true ofAccount⟩,
        Table.key_of_find found⟩

/-- The principals of an account are the listed ones. -/
theorem ofAccount_eq
    (view : Db)
    (account : Account)
    (principalId : Id) :
    ofAccount view.principals account principalId =
      decide (principalId ∈ principalsOf view account.id) := by
  refine Bool.eq_iff_iff.mpr ?_
  rw [decide_eq_true_iff, mem_principalsOf]
  simp [ofAccount, Option.any_eq_true]

/-- An account keeps its principals. -/
theorem principalsOf_subset
    {old new : Db}
    (evolves : Evolves old new)
    (accountId : Id) :
    ∀ id ∈ principalsOf old accountId, id ∈ principalsOf new accountId := by
  intro id member
  obtain ⟨principal, found, ofAccount⟩ := mem_principalsOf.mp member
  obtain ⟨principal', found', rfl⟩ := evolves.principals _ _ found
  exact mem_principalsOf.mpr ⟨principal, found', ofAccount⟩

/-- Every row is pending, sent or dead. -/
theorem countStatus_total (rows : List Outbox) :
    countStatus rows [.pending, .failed, .sending] +
        countStatus rows [.sent, .noop] +
        countStatus rows [.dead] =
      rows.length := by
  unfold countStatus
  induction rows with
  | nil => rfl
  | cons row rest inductionHypothesis =>
      rw [List.length_cons, ← inductionHypothesis]
      cases status : row.status <;> simp [status] <;> omega

/-- The reported charges of some principals are those of their receipts. -/
theorem Db.Mirrored.length_eq
    {db : Db}
    (law : db.Mirrored)
    (pids : List Id) :
    (db.billingOutbox.rows.filter fun row =>
        row.payloadJson.principalId ∈ pids).length =
      (db.receipts.rows.filter fun row => row.principalId ∈ pids).length := by
  have counted :=
    congrArg
      (fun charges => (charges.filter fun charge => charge.2.1 ∈ pids).length)
      law.charges
  simp only [List.filter_map, Function.comp_def, Outbox.charge,
    Receipt.charge, List.length_map] at counted
  exact counted

/-- Later receipts of more principals are not fewer and do not cost less. -/
theorem receipts_mono
    {old new : Db}
    {pids pids' : List Id}
    (grown : old.receipts.rows <+: new.receipts.rows)
    (more : ∀ id ∈ pids, id ∈ pids') :
    (old.receipts.rows.filter fun row => row.principalId ∈ pids).Sublist
      (new.receipts.rows.filter fun row => row.principalId ∈ pids') := by
  refine (grown.sublist.filter _).trans (List.monotone_filter_right _ ?_)
  intro row isOld
  exact decide_eq_true (more _ (of_decide_eq_true isOld))

/-- What some principals have receipted, in cents. -/
theorem receipted_eq (db : Db) (pids : List Id) :
    db.receipted (· ∈ pids) =
      ((db.receipts.rows.filter fun row => row.principalId ∈ pids).map
        Receipt.amountCents).sum :=
  rfl

/-- The fee of an account is that of the receipts of its principals. -/
theorem Db.Billed.fee_receipted
    {db : Db}
    {account : Account}
    {accountId : Id}
    (law : db.Billed env)
    (found : db.accounts.find accountId = some account) :
    account.feeMicrocents =
      100 * env.feeBps *
        db.receipted (· ∈ principalsOf db accountId) := by
  have isAccount : account.id = accountId := Table.key_of_find found
  have holders :
      ofAccount db.principals account =
        (· ∈ principalsOf db accountId) := by
    funext id
    rw [ofAccount_eq, isAccount]
  rw [law.fees account (Table.mem_of_find found), holders, law.receipts]

/-- What is known of the four reads of `billing_status`. -/
structure StatusReads (env : Env) (views : Views) (accountId : Id) : Prop where
  morePrincipals :
    ∀ id ∈ principalsOf (views 0) accountId,
      id ∈ principalsOf (views 1) accountId
  moreReceipts : (views 0).receipts.rows <+: (views 2).receipts.rows
  moreThen : (views 2).receipts.rows <+: (views 3).receipts.rows
  billed : (views 0).Billed env
  receipts : (views 2).Mirrored
  outbox : (views 3).Mirrored

/-- The reads see later and later states of the run. -/
theorem statusReads
    {ages : List Nat}
    (reachable :
      Reachable env (fun _ action => Discipline.coupled.Allows action) s)
    (monotone : Monotone ages)
    (since : Since .start s ages)
    (accountId : Id) :
    StatusReads env (s.views ages) accountId := by
  have keeps :
      ∀ (s : Sys) action,
        Discipline.coupled.Allows action →
          Discipline.coupled.Allows action :=
    fun _ _ kept => kept
  have sees {first second : Nat} (before : first ≤ second) :=
    seen_states reachable monotone since before
  obtain ⟨s₀, s₁, isReachable₀, upTo₁, view₀, view₁⟩ :=
    sees (Nat.zero_le 1)
  obtain ⟨s₀', s₂, isReachable₀', upTo₂, view₀', view₂⟩ :=
    sees (Nat.zero_le 2)
  obtain ⟨s₂', s₃, isReachable₂, upTo₃, view₂', view₃⟩ :=
    sees (Nat.le_succ 2)
  exact
    { morePrincipals := by
        rw [view₀, view₁]
        exact principalsOf_subset (later_evolves isReachable₀ upTo₁)
          accountId
      moreReceipts := by
        rw [view₀', view₂]
        exact later_receipts .coupled trivial trivial keeps isReachable₀'
          upTo₂
      moreThen := by
        rw [view₂', view₃]
        exact later_receipts .coupled trivial trivial keeps isReachable₂
          upTo₃
      billed := by
        rw [view₀]
        exact reachable_billed .coupled trivial trivial keeps isReachable₀
      receipts := by
        rw [view₂']
        exact reachable_mirrored .coupled trivial trivial keeps isReachable₂
      outbox := by
        rw [view₃]
        exact reachable_mirrored .coupled trivial trivial keeps
          (isReachable₂.later upTo₃) }

/-- What was receipted first is not more than what is shown as usage. -/
theorem StatusReads.usage
    {views : Views}
    {accountId : Id}
    (reads : StatusReads env views accountId) :
    (views 0).receipted (· ∈ principalsOf (views 0) accountId) ≤
      (views 2).receipted (· ∈ principalsOf (views 1) accountId) := by
  have amounts :=
    (receipts_mono reads.moreReceipts reads.morePrincipals).map
      Receipt.amountCents
  rw [receipted_eq, receipted_eq]
  refine amounts.sum_le_sum ?_
  intro amount member
  obtain ⟨receipt, isReceipt, rfl⟩ := List.mem_map.mp member
  exact reads.receipts.nonnegative receipt (List.mem_filter.mp isReceipt).1

/-- The receipts that are shown are not more than the rows of the outbox. -/
theorem StatusReads.counted
    {views : Views}
    {accountId : Id}
    (reads : StatusReads env views accountId)
    (pids : List Id) :
    ((views 2).receipts.rows.filter fun row =>
        row.principalId ∈ pids).length ≤
      ((views 3).billingOutbox.rows.filter fun row =>
        row.payloadJson.principalId ∈ pids).length := by
  rw [reads.outbox.length_eq]
  exact (receipts_mono reads.moreThen fun _ member => member).length_le

/--
The billing status of an account never shows a fee that is ahead of its usage,
nor receipts that are ahead of the outbox, whatever is settled while it is put
together.  When nothing is, the fee is that of the usage, the usage is what was
spent, and the outbox has one row for each receipt.
-/
theorem billing_status_adds_up
    {ages : List Nat}
    {priceId defaultPriceId : Option String}
    {accountId : Id}
    {status : BillingStatus}
    (reachable :
      Reachable env (fun _ action => Discipline.coupled.Allows action) s)
    (monotone : Monotone ages)
    (since : Since .start s ages)
    (shown :
      billingStatus env (s.views ages) priceId defaultPriceId accountId =
        some status) :
    status.feeMicrocents ≤ 100 * status.feeBps * status.usageCents ∧
      status.receiptCount ≤
        status.outboxPending + status.outboxSent + status.outboxDead ∧
      (ages = [] →
        status.feeMicrocents = 100 * status.feeBps * status.usageCents ∧
          status.usageCents =
            s.db.spent (· ∈ principalsOf s.db accountId) ∧
          status.receiptCount =
            status.outboxPending + status.outboxSent +
              status.outboxDead) := by
  have reads := statusReads reachable monotone since accountId
  unfold billingStatus at shown
  obtain ⟨account, found, shape⟩ := Option.bind_eq_some_iff.mp shown
  cases shape
  have fee := reads.billed.fee_receipted found
  refine ⟨?_, ?_, ?_⟩
  · rw [fee]
    exact mul_le_mul_of_nonneg_left reads.usage (by positivity)
  · exact (reads.counted _).trans (countStatus_total _).symm.le
  · rintro rfl
    refine ⟨fee, ?_, ?_⟩
    · exact reads.billed.receipts (· ∈ principalsOf s.db accountId)
    · rw [countStatus_total]
      exact (reads.receipts.length_eq _).symm

end Runs

/-- The billing status after the settled call. -/
theorem billing_status_adds_up_example :
    ∃ s status,
      Reachable .plain (fun _ action => Discipline.coupled.Allows action)
          s ∧
        billingStatus .plain (s.views []) none none 1 = some status ∧
        status.usageCents = 10 ∧
        status.feeMicrocents = 100 * status.feeBps * status.usageCents ∧
        status.receiptCount =
          status.outboxPending + status.outboxSent + status.outboxDead := by
  have checked :
      (run .plain Sys.start (deploy ++ settle)).any
          (fun s =>
            (billingStatus .plain (s.views []) none none 1).any
              fun status => status.usageCents = 10) =
        true := by
    decide
  obtain ⟨s, reachable, passes⟩ :=
    reachable_of_check (.routine (by decide) .coupled _) checked
  obtain ⟨status, shown, usage⟩ := (Option.any_eq_true _ _).mp passes
  obtain ⟨_, _, alone⟩ :=
    billing_status_adds_up reachable .nil (by simp [Since]) shown
  obtain ⟨fee, _, counts⟩ := alone rfl
  exact ⟨s, status, reachable, shown, of_decide_eq_true usage, fee, counts⟩

end Crossing
