import Crossing.Universe

namespace Crossing

open Relational
open Relational.Transaction

/-!
# Metering equals spending

What is billed, what is receipted and what is spent are sums over three
tables that grow together, and the fee of an account is the fee of what its
principals have spent.
-/

/-- The amounts billed in the outbox, over some principals. -/
def Db.billed (db : Db) (of : Id → Bool) : Cents :=
  db.billingOutbox.sumWhere (fun row => of row.payloadJson.principalId)
    fun row => row.payloadJson.amountCents

/-- The amounts of the receipts of some principals. -/
def Db.receipted (db : Db) (of : Id → Bool) : Cents :=
  db.receipts.sumWhere (fun row => of row.principalId) Receipt.amountCents

/-- The amounts of the committed reservations of some principals. -/
def Db.spent (db : Db) (of : Id → Bool) : Cents :=
  db.reservations.sumWhere
    (fun row => row.status = .committed && of row.principalId)
    Reservation.amountCents

/-- The principals of an account. -/
def ofAccount
    (principals : Table Principal)
    (account : Account)
    (principalId : Id) :
    Bool :=
  (principals.find principalId).any fun principal =>
    principal.accountId = account.id

/-- A column refers to stored principals. -/
def Refers (principals : Table Principal) (column : List Id) : Prop :=
  ∀ id ∈ column, ∃ principal, principals.find id = some principal

/-- The sums agree, and every fee is that of what was spent. -/
structure Db.Billed (env : Env) (db : Db) : Prop where
  principals :
    ∀ principal ∈ db.principals.rows,
      ∃ account, db.accounts.find principal.accountId = some account
  agents : Refers db.principals (db.agents.rows.map Agent.principalId)
  mandates : Refers db.principals (db.mandates.rows.map Mandate.principalId)
  reservations :
    Refers db.principals (db.reservations.rows.map Reservation.principalId)
  receipts : ∀ of, db.receipted of = db.spent of
  bills : ∀ of, db.billed of = db.receipted of
  fees :
    ∀ account ∈ db.accounts.rows,
      account.feeMicrocents =
        100 * env.feeBps * db.spent (ofAccount db.principals account)

/-! ## References -/

/-- References stay when principals are added. -/
theorem Refers.extend
    {principals principals' : Table Principal}
    {column : List Id}
    (refers : Refers principals column)
    (later : principals.Extends Eq principals') :
    Refers principals' column := by
  intro id member
  obtain ⟨principal, found⟩ := refers id member
  obtain ⟨principal', found', _⟩ := later _ _ found
  exact ⟨principal', found'⟩

/-- A row that refers to a stored principal may be added. -/
theorem Refers.insert
    {ρ : Type}
    [Keyed ρ Id]
    {principals : Table Principal}
    {table inserted : Table ρ}
    {row : ρ}
    {column : ρ → Id}
    (refers : Refers principals (table.rows.map column))
    (accepted : table.insert? row = some inserted)
    (refersNew : ∃ principal, principals.find (column row) = some principal) :
    Refers principals (inserted.rows.map column) := by
  intro id member
  obtain ⟨stored, isStored, rfl⟩ := List.mem_map.mp member
  rcases (Table.mem_insert accepted).mp isStored with inOld | rfl
  · exact refers _ (List.mem_map_of_mem inOld)
  · exact refersNew

/-- Revocation leaves the principals of the agents alone. -/
theorem map_principalId_revokeAll (agents : Table Agent) (ids : List Id) :
    (revokeAll agents ids).rows.map Agent.principalId =
      agents.rows.map Agent.principalId := by
  induction ids generalizing agents with
  | nil =>
      rfl
  | cons id rest inductionHypothesis =>
      unfold revokeAll at inductionHypothesis ⊢
      rw [List.foldl_cons, inductionHypothesis]
      apply Table.map_modify
      · intro agent
        rfl
      · intro agent
        rfl

/-! ## Fees -/

/-- The fee of an amount that is not negative. -/
theorem feeMicrocentsFor_of_nonneg
    (env : Env)
    {amountCents : Cents}
    (nonnegative : 0 ≤ amountCents) :
    feeMicrocentsFor env amountCents = 100 * env.feeBps * amountCents := by
  unfold feeMicrocentsFor
  rw [if_neg (not_lt.mpr nonnegative)]
  ring

/-- A fee is added to the one account it is charged to. -/
theorem mem_feeCharged
    {env : Env}
    {accounts : Table Account}
    {charged row : Account}
    {amountCents : Cents}
    (found : accounts.find charged.id = some charged)
    (nonnegative : 0 ≤ amountCents)
    (member : row ∈ (feeCharged env accounts (some charged) amountCents).rows) :
    ∃ old ∈ accounts.rows,
      old.id = row.id ∧
        row.feeMicrocents =
          old.feeMicrocents +
            if old.id = charged.id then
              100 * env.feeBps * amountCents
            else
              0 := by
  have fee := feeMicrocentsFor_of_nonneg env nonnegative
  have feeNonnegative : 0 ≤ 100 * (env.feeBps : Int) * amountCents := by
    positivity
  simp only [feeCharged, fee] at member
  by_cases free : 100 * (env.feeBps : Int) * amountCents ≤ 0
  · have zero : 100 * (env.feeBps : Int) * amountCents = 0 :=
      le_antisymm free feeNonnegative
    rw [if_pos free] at member
    exact ⟨row, member, rfl, by simp [zero]⟩
  · rw [if_neg free, Table.modify_of_find found] at member
    rcases Table.mem_put member with rfl | ⟨inOld, different⟩
    · exact ⟨charged, Table.mem_of_find found, rfl, by simp⟩
    · have notCharged : row.id ≠ charged.id := different
      exact ⟨row, inOld, rfl, by simp [notCharged]⟩

namespace Db.Billed

variable {env : Env} {db : Db}

/-- Principals that are not stored have spent nothing. -/
theorem spent_eq_zero
    (law : db.Billed env)
    {of : Id → Bool}
    (unknown :
      ∀ principal ∈ db.principals.rows, of principal.id = false) :
    db.spent of = 0 := by
  apply Table.sumWhere_eq_zero
  intro reservation member
  obtain ⟨principal, found⟩ :=
    law.reservations _ (List.mem_map_of_mem member)
  have isHolder : principal.id = reservation.principalId :=
    Table.key_of_find found
  have notOf := unknown principal (Table.mem_of_find found)
  rw [isHolder] at notOf
  simp [notOf]

/-- What is spent depends on the stored principals only. -/
theorem spent_congr
    (law : db.Billed env)
    {of of' : Id → Bool}
    (same :
      ∀ principal ∈ db.principals.rows, of principal.id = of' principal.id) :
    db.spent of = db.spent of' := by
  apply Table.sumWhere_congr
  intro reservation member
  obtain ⟨principal, found⟩ :=
    law.reservations _ (List.mem_map_of_mem member)
  have isHolder : principal.id = reservation.principalId :=
    Table.key_of_find found
  have sameOf := same principal (Table.mem_of_find found)
  rw [isHolder] at sameOf
  simp [Table.share, sameOf]

/-- A new principal, with or without a new account, keeps the law. -/
theorem registered
    (law : db.Billed env)
    {accounts : Table Account}
    {principal : Principal}
    {principals : Table Principal}
    (opening :
      accounts = db.accounts ∨
        ∃ account,
          account.feeMicrocents = 0 ∧
            account.feeInvoicedCents = 0 ∧
            db.accounts.insert? account = some accounts)
    (hasAccount : ∃ account, accounts.find principal.accountId = some account)
    (inserted : db.principals.insert? principal = some principals) :
    ({ db with accounts := accounts, principals := principals } :
      Db).Billed env := by
  have later : db.principals.Extends Eq principals := .insert Eq.refl inserted
  have ofStored (account : Account) :
      ∀ stored ∈ db.principals.rows,
        ofAccount principals account stored.id =
          ofAccount db.principals account stored.id := by
    intro stored member
    have found : db.principals.find stored.id = some stored :=
      Table.find_of_mem member
    simp [ofAccount, found,
      Table.find_insert_of_some inserted found]
  have accountStays
      {id : Id}
      (before : ∃ account, db.accounts.find id = some account) :
      ∃ account, accounts.find id = some account := by
    obtain ⟨account, found⟩ := before
    rcases opening with rfl | ⟨_, _, _, opened⟩
    · exact ⟨account, found⟩
    · exact ⟨account, Table.find_insert_of_some opened found⟩
  have feeStays
      {account : Account}
      (member : account ∈ db.accounts.rows) :
      account.feeMicrocents =
        100 * env.feeBps * db.spent (ofAccount principals account) := by
    rw [law.fees account member, law.spent_congr (ofStored account)]
  refine
    { principals := ?_
      agents := law.agents.extend later
      mandates := law.mandates.extend later
      reservations := law.reservations.extend later
      receipts := law.receipts
      bills := law.bills
      fees := ?_ }
  · intro stored member
    rcases (Table.mem_insert inserted).mp member with inOld | rfl
    · exact accountStays (law.principals stored inOld)
    · exact hasAccount
  · intro account member
    rcases opening with rfl | ⟨new, noFee, _, opened⟩
    · exact feeStays member
    · rcases (Table.mem_insert opened).mp member with inOld | rfl
      · exact feeStays inOld
      · have nothing : db.spent (ofAccount principals account) = 0 := by
          apply law.spent_eq_zero
          intro stored isStored
          have found : db.principals.find stored.id = some stored :=
            Table.find_of_mem isStored
          rw [ofStored account stored isStored]
          simp only [ofAccount, found, Option.any_some,
            decide_eq_false_iff_not]
          intro same
          obtain ⟨known, knownFound⟩ := law.principals stored isStored
          have fresh : db.accounts.find account.id = none :=
            (Table.insert?_eq_some opened).1
          rw [same, fresh] at knownFound
          cases knownFound
        change
          account.feeMicrocents =
            100 * env.feeBps * db.spent (ofAccount principals account)
        rw [noFee, nothing, mul_zero]

/-- A new reservation is held, so nothing is spent yet. -/
theorem spent_insert_held
    {reservation : Reservation}
    {reservations : Table Reservation}
    (inserted : db.reservations.insert? reservation = some reservations)
    (held : reservation.status = .held)
    (of : Id → Bool) :
    ({ db with reservations := reservations } : Db).spent of =
      db.spent of := by
  unfold Db.spent
  rw [Table.sumWhere_insert inserted]
  simp [Table.share, held]

/-- A settled reservation adds its amount to what is spent. -/
theorem spent_settled
    {reservation : Reservation}
    (found : db.reservations.find reservation.id = some reservation)
    (held : reservation.status = .held)
    (of : Id → Bool) :
    ({ db with
        reservations :=
          db.reservations.put { reservation with status := .committed } } :
      Db).spent of =
      db.spent of +
        if of reservation.principalId then reservation.amountCents else 0 := by
  have stored :
      db.reservations.find
          (Keyed.key
            ({ reservation with status := .committed } : Reservation)) =
        some reservation :=
    found
  have exchange :=
    Table.sumWhere_put stored
      (fun row => row.status = .committed && of row.principalId)
      Reservation.amountCents
  simpa [Db.spent, Table.share, held] using exchange

/-- A released reservation adds nothing to what is spent. -/
theorem spent_released
    {reservation : Reservation}
    (found : db.reservations.find reservation.id = some reservation)
    (held : reservation.status = .held)
    (of : Id → Bool) :
    ({ db with
        reservations :=
          db.reservations.put { reservation with status := .released } } :
      Db).spent of =
      db.spent of := by
  have stored :
      db.reservations.find
          (Keyed.key
            ({ reservation with status := .released } : Reservation)) =
        some reservation :=
    found
  exact Table.sumWhere_put_of_share_eq stored
    (by simp [Table.share, held])

section Settlement

variable
  {reservation : Reservation}
  {issued : Receipt}
  {receipts : Table Receipt}
  {outbox : Table Outbox}
  {accounts : Table Account}

/-- A metered settlement adds its amount to what is receipted. -/
theorem receipted_settled
    (metering : Metered env db reservation issued receipts outbox accounts)
    (of : Id → Bool) :
    ({ db with receipts := receipts } : Db).receipted of =
      db.receipted of +
        if of reservation.principalId then reservation.amountCents else 0 := by
  unfold Db.receipted
  rw [Table.sumWhere_insert metering.inserted, Table.share,
    metering.samePrincipal, metering.sameAmount]

/-- A metered settlement adds its amount to what is billed. -/
theorem billed_settled
    (metering : Metered env db reservation issued receipts outbox accounts)
    (of : Id → Bool) :
    ({ db with billingOutbox := outbox } : Db).billed of =
      db.billed of +
        if of reservation.principalId then reservation.amountCents else 0 := by
  obtain ⟨newId, inserted⟩ := metering.billed
  unfold Db.billed
  rw [Table.sumWhere_insert inserted]
  rfl

/-- A metered settlement charges the account of its principal. -/
theorem fee_settled
    (law : db.Billed env)
    (found : db.reservations.find reservation.id = some reservation)
    (held : reservation.status = .held)
    (nonnegative : 0 ≤ reservation.amountCents)
    (metering : Metered env db reservation issued receipts outbox accounts) :
    ∀ account ∈ accounts.rows,
      account.feeMicrocents =
        100 * env.feeBps *
          ({ db with
              reservations :=
                db.reservations.put
                  { reservation with status := .committed } } : Db).spent
            (ofAccount db.principals account) := by
  have member := Table.mem_of_find found
  obtain ⟨principal, principalFound⟩ :=
    law.reservations _ (List.mem_map_of_mem member)
  obtain ⟨charged, chargedFound⟩ :=
    law.principals principal (Table.mem_of_find principalFound)
  have isCharged : charged.id = principal.accountId :=
    Table.key_of_find chargedFound
  have accountsShape :
      accounts =
        feeCharged env db.accounts (some charged)
          reservation.amountCents := by
    rw [metering.charged, accountForPrincipal, principalFound]
    simp only [Option.bind_some, chargedFound]
  intro account isAccount
  rw [accountsShape] at isAccount
  obtain ⟨old, inOld, sameId, fee⟩ :=
    mem_feeCharged (isCharged ▸ chargedFound) nonnegative isAccount
  have sameOf :
      ofAccount db.principals account = ofAccount db.principals old := by
    funext id
    simp [ofAccount, sameId]
  have isHolder :
      ofAccount db.principals old reservation.principalId =
        decide (old.id = charged.id) := by
    rw [ofAccount, principalFound, isCharged]
    simp [eq_comm]
  rw [fee, law.fees old inOld, spent_settled found held, sameOf, isHolder]
  by_cases isThis : old.id = charged.id
  · simp only [isThis, if_true, decide_true]
    ring
  · simp [isThis]

/-- A metered settlement keeps the law. -/
theorem settled
    (law : db.Billed env)
    {invocation : Invocation}
    (found : db.reservations.find reservation.id = some reservation)
    (held : reservation.status = .held)
    (nonnegative : 0 ≤ reservation.amountCents)
    (metering : Metered env db reservation issued receipts outbox accounts)
    (toStatus : InvocationStatus)
    (remaining : Option Cents)
    (claims : Table IdempotencyRecord)
    (evidence : List ReconciliationEvent) :
    (settledDb db reservation invocation toStatus remaining receipts outbox
      accounts claims evidence).Billed env := by
  have spentGrows := spent_settled found held
  have receiptedGrows := receipted_settled metering
  have billedGrows := billed_settled metering
  have sameHolders :
      (db.reservations.put
          { reservation with status := .committed }).rows.map
            Reservation.principalId =
        db.reservations.rows.map Reservation.principalId :=
    Table.map_put found rfl
  have later : db.accounts.Extends Account.SameAccount accounts := by
    rw [metering.charged]
    exact Charged.extends_ (.inr ⟨_, _, rfl⟩)
  refine
    { principals := ?_
      agents := law.agents
      mandates := law.mandates
      reservations := sameHolders ▸ law.reservations
      receipts := ?_
      bills := ?_
      fees := law.fee_settled found held nonnegative metering }
  · intro stored isStored
    obtain ⟨account, accountFound⟩ := law.principals stored isStored
    obtain ⟨account', accountFound', _⟩ := later _ _ accountFound
    exact ⟨account', accountFound'⟩
  · intro of
    exact (receiptedGrows of).trans
      ((congrArg (· + _) (law.receipts of)).trans (spentGrows of).symm)
  · intro of
    exact (billedGrows of).trans
      ((congrArg (· + _) (law.bills of)).trans (receiptedGrows of).symm)

end Settlement

/-- The drain of the outbox leaves the sums alone. -/
theorem drained
    (law : db.Billed env)
    {outbox : Table Outbox}
    (sameBills :
      outbox.rows.map Outbox.bill = db.billingOutbox.rows.map Outbox.bill) :
    ({ db with billingOutbox := outbox } : Db).Billed env where
  principals := law.principals
  agents := law.agents
  mandates := law.mandates
  reservations := law.reservations
  receipts := law.receipts
  bills := by
    intro of
    have sameSum :=
      Table.sumWhere_eq_of_map_eq sameBills
        (fun bill => of bill.2.principalId) fun bill => bill.2.amountCents
    exact sameSum.trans (law.bills of)
  fees := law.fees

/-- The Stripe columns of an account do not bear on the law. -/
theorem relinked
    (law : db.Billed env)
    {account : Account}
    (customer status : Option String)
    (found : db.accounts.find account.id = some account) :
    ({ db with
        accounts :=
          db.accounts.put
            { account with
              stripeCustomerId := customer
              stripeStatus := status } } : Db).Billed env :=
  { law with
    principals := by
      intro principal member
      obtain ⟨known, knownFound⟩ := law.principals principal member
      rw [Table.find_put, knownFound]
      split
      · exact ⟨_, rfl⟩
      · exact ⟨known, rfl⟩
    fees := by
      intro row member
      rcases Table.mem_put member with rfl | ⟨inOld, _⟩
      · exact law.fees account (Table.mem_of_find found)
      · exact law.fees row inOld }

/-- The agent of an issued mandate belongs to a stored principal. -/
theorem issued_principal
    (law : db.Billed env)
    {mandate : Mandate}
    {mandates : Table Mandate}
    (issued : Issued db mandate mandates) :
    ∃ principal, db.principals.find mandate.principalId = some principal := by
  obtain ⟨agent, agentFound, same⟩ := issued.ofAgent
  rw [← same]
  exact law.agents _ (List.mem_map_of_mem (Table.mem_of_find agentFound))

/-- Every effect of a paired run that meters its attempts keeps the law. -/
theorem step
    {discipline : Discipline}
    {origin : Origin}
    {entries : List Entry}
    {db' : Db}
    (law : db.Billed env)
    (coupled : db.Coupled)
    (balanced : db.books.Balanced)
    (paired : discipline.paired)
    (metered : discipline.metered)
    (effect : Effect env discipline origin db entries db') :
    db'.Billed env := by
  cases effect with
  | booked => exact { law with }
  | registered opening hasAccount inserted =>
      exact law.registered opening hasAccount inserted
  | agentAdded inserted _ ofPrincipal =>
      exact { law with agents := law.agents.insert inserted ofPrincipal }
  | agentsRevoked visited =>
      exact { law with
        agents := (map_principalId_revokeAll _ _).symm ▸ law.agents }
  | relinked customer status found =>
      exact law.relinked customer status found
  | drained sameBills => exact law.drained sameBills
  | denied => exact { law with }
  | issuedRoot issued =>
      exact { law with
        mandates :=
          law.mandates.insert issued.inserted (law.issued_principal issued) }
  | @issuedChild mandate parent mandates event issued parentFound =>
      have stillFound : mandates.find parent.id = some parent :=
        Table.find_insert_of_some issued.inserted parentFound
      have sameHolders :
          (mandates.put
              (escrowed mandate.spendLimitCents parent)).rows.map
                Mandate.principalId =
            mandates.rows.map Mandate.principalId :=
        Table.map_put stillFound rfl
      exact { law with
        mandates :=
          sameHolders ▸
            law.mandates.insert issued.inserted
              (law.issued_principal issued) }
  | mandateRevoked mandateId =>
      have sameHolders :
          (db.mandates.modify mandateId fun row =>
              { row with revoked := true }).rows.map Mandate.principalId =
            db.mandates.rows.map Mandate.principalId := by
        apply Table.map_modify <;> intro row <;> rfl
      exact { law with mandates := sameHolders ▸ law.mandates }
  | reservedOnly lowLevel => exact (lowLevel paired).elim
  | @opened old reservation invocation reservations invocations claims
      opening taskId =>
      have debit := opening.debit
      have sameHolders :
          (db.mandates.put
              (debited reservation.amountCents old)).rows.map
                Mandate.principalId =
            db.mandates.rows.map Mandate.principalId :=
        Table.map_put debit.found rfl
      have holder :
          ∃ principal,
            db.principals.find reservation.principalId = some principal := by
        rw [debit.ofPrincipal]
        exact law.mandates _
          (List.mem_map_of_mem (Table.mem_of_find debit.found))
      have sameSpent := spent_insert_held debit.inserted debit.held
      exact
        { principals := law.principals
          agents := law.agents
          mandates := sameHolders ▸ law.mandates
          reservations := law.reservations.insert debit.inserted holder
          receipts := fun of => (law.receipts of).trans (sameSpent of).symm
          bills := law.bills
          fees := by
            intro account member
            exact (law.fees account member).trans
              (congrArg _ (sameSpent _).symm) }
  | moved => exact { law with }
  | settled settling via pairing metering =>
      obtain ⟨link, _⟩ := pairing paired
      have bills := metering metered
      have found := settling.reservationFound
      have holds := coupled.holdsFor settling.invocationFound found link
      obtain ⟨issued, _, metering⟩ := coupled.metered settling holds bills
      have nonnegative :=
        balanced.amounts _ (Table.mem_of_find found)
      exact law.settled found settling.held nonnegative metering _ _ _ _
  | resettled resettling via pairing =>
      exact (coupled.not_resettled resettling via (pairing paired)).elim
  | @released reservation _ _ _ _ releasing =>
      have found := releasing.reservationFound
      have sameHolders :
          (refundedMandates db.mandates reservation).rows.map
              Mandate.principalId =
            db.mandates.rows.map Mandate.principalId := by
        apply Table.map_modify <;> intro row <;> rfl
      have sameReservations :
          (db.reservations.put
              { reservation with status := .released }).rows.map
                Reservation.principalId =
            db.reservations.rows.map Reservation.principalId :=
        Table.map_put found rfl
      have sameSpent := spent_released found releasing.held
      exact
        { principals := law.principals
          agents := law.agents
          mandates := sameHolders ▸ law.mandates
          reservations := sameReservations ▸ law.reservations
          receipts := fun of => (law.receipts of).trans (sameSpent of).symm
          bills := law.bills
          fees := by
            intro account member
            exact (law.fees account member).trans
              (congrArg _ (sameSpent _).symm) }
  | committedOnly lowLevel => exact (lowLevel paired).elim
  | refundedOnly lowLevel => exact (lowLevel paired).elim

/-- Nothing is spent in the empty database. -/
theorem empty (env : Env) : Db.empty.Billed env where
  principals := by
    intro principal member
    cases member
  agents := by
    intro id member
    cases member
  mandates := by
    intro id member
    cases member
  reservations := by
    intro id member
    cases member
  receipts := fun _ => rfl
  bills := fun _ => rfl
  fees := by
    intro account member
    cases member

end Db.Billed

/-! ## Every run -/

/-- In every reachable state of a paired run metering equals spending. -/
theorem reachable_billed
    {env : Env}
    {allowed : Sys → Action → Prop}
    {s : Sys}
    (discipline : Discipline)
    (paired : discipline.paired)
    (metered : discipline.metered)
    (keeps : ∀ s action, allowed s action → discipline.Allows action)
    (reachable : Reachable env allowed s) :
    s.db.Billed env := by
  apply reachable_db_invariant discipline (Db.Billed env) keeps (.empty env)
    _ reachable
  intro s origin entries db' isReachable effect law
  exact law.step (reachable_coupled discipline paired metered keeps isReachable)
    (reachable_balanced isReachable) paired metered effect

/-- A finalization that does not win writes nothing. -/
structure LosesCleanly {α : Type} (body : Body α) (won : α → Bool) : Prop where
  lost :
    ∀ db result db', exec body db = (.ok result, db') →
      won result = false → db' = db
  raised :
    ∀ db exception db', exec body db = (.error exception, db') → db' = db

/-- `finalize_success` writes all or nothing. -/
theorem finalizeSuccess_losesCleanly
    (env : Env)
    (sessionMandate : Id → Option Mandate)
    (reservation : Reservation)
    (invocation : Invocation)
    (callbacks : FinalizeCallbacks) :
    LosesCleanly
      (finalizeSuccess env sessionMandate reservation invocation callbacks)
      FinalizeResult.won where
  lost := by
    intro db result db' returned notWon
    rcases onFinalizeLost_ok returned with ⟨_, same⟩ | finished
    · exact same
    · obtain ⟨_, _, _, _, _, _, _, _, _, _, _, won, _, _⟩ :=
        successUnit_ok finished
      rw [won] at notWon
      cases notWon
  raised := by
    intro db exception db' raised
    exact onFinalizeLost_error raised

/-- `reconcile_commit` writes all or nothing. -/
theorem reconcileCommit_losesCleanly
    (env : Env)
    (views : Views)
    (sessionMandate : Id → Option Mandate)
    (seen : Invocation)
    (evidence : Evidence)
    (callbacks : FinalizeCallbacks) :
    LosesCleanly
      (reconcileCommit env views sessionMandate seen evidence callbacks)
      Option.isSome where
  lost := by
    intro db result db' returned notWon
    rcases reconcileCommit_ok returned with ⟨_, same⟩ | finished
    · exact same
    · obtain ⟨_, _, _, _, _, _, _, isSome, _⟩ :=
        reconcileCommitUnit_ok finished
      rw [isSome] at notWon
      cases notWon
  raised := by
    intro db exception db' raised
    rcases bind_error raised with evidenceRaised | ⟨kind, _, required, rest⟩
    · exact ofExcept_error evidenceRaised
    · obtain ⟨_, rfl⟩ := ofExcept_ok required
      rcases bind_error rest with kindRaised | ⟨_, _, kindCheck, rest⟩
      · exact (raiseWhen_error kindRaised).2.2
      · obtain ⟨_, rfl⟩ := raiseWhen_ok kindCheck
        exact onFinalizeLost_error rest

/--
Metering equals spending: bills, receipts and committed reservations of an
account have one sum, and its fee is the fee of that sum.
-/
theorem metering_equals_spending
    {env : Env}
    {s : Sys}
    (reachable :
      Reachable env (fun _ action => Discipline.coupled.Allows action) s) :
    (∀ account ∈ s.db.accounts.rows,
      s.db.billed (ofAccount s.db.principals account) =
          s.db.receipted (ofAccount s.db.principals account) ∧
        s.db.receipted (ofAccount s.db.principals account) =
          s.db.spent (ofAccount s.db.principals account) ∧
        account.feeMicrocents =
          100 * env.feeBps *
            s.db.spent (ofAccount s.db.principals account) ∧
        ∀ s',
          Later env (fun _ action => Discipline.coupled.Allows action) s s' →
          ∃ account',
            s'.db.accounts.find account.id = some account' ∧
              account'.feeInvoicedCents = account.feeInvoicedCents) ∧
      (∀ reservation ∈ s.db.reservations.rows,
        reservation.status = .committed →
          s.db.receipts.countWhere
              (fun row => row.reservationId = some reservation.id) =
            1 ∧
          billCount s.db reservation.id = 1) ∧
      (∀ sessionMandate reservation invocation callbacks,
        LosesCleanly
          (finalizeSuccess env sessionMandate reservation invocation
            callbacks)
          FinalizeResult.won) ∧
      ∀ views sessionMandate seen evidence callbacks,
        LosesCleanly
          (reconcileCommit env views sessionMandate seen evidence callbacks)
          Option.isSome := by
  have keeps :
      ∀ (s : Sys) action,
        Discipline.coupled.Allows action →
          Discipline.coupled.Allows action :=
    fun _ _ kept => kept
  have law := reachable_billed .coupled trivial trivial keeps reachable
  have coupled := reachable_coupled .coupled trivial trivial keeps reachable
  refine ⟨?_, ?_, finalizeSuccess_losesCleanly env,
    reconcileCommit_losesCleanly env⟩
  · intro account member
    refine ⟨law.bills _, law.receipts _, law.fees account member, ?_⟩
    intro s' later
    obtain ⟨account', found, same⟩ :=
      (later_evolves reachable later).accounts _ _ (Table.find_of_mem member)
    exact ⟨account', found, same.2⟩
  · intro reservation member committed
    rw [coupled.receipted reservation member,
      coupled.billCount_eq member, committed]
    exact ⟨rfl, rfl⟩

/-- The meter of a settled call. -/
theorem metering_equals_spending_example :
    ∃ s account,
      Reachable .plain (fun _ action => Discipline.coupled.Allows action)
          s ∧
        account ∈ s.db.accounts.rows ∧
        account.feeMicrocents = 100000 ∧
        account.feeMicrocents =
          100 * Env.plain.feeBps *
            s.db.spent (ofAccount s.db.principals account) := by
  have checked :
      (run .plain Sys.start (deploy ++ settle)).any
          (fun s => (s.db.accounts.find 1).any (·.feeMicrocents = 100000)) =
        true := by
    decide
  obtain ⟨s, reachable, passes⟩ :=
    reachable_of_check (.routine (by decide) .coupled _) checked
  obtain ⟨account, found, fee⟩ := (Option.any_eq_true _ _).mp passes
  have member := Table.mem_of_find found
  obtain ⟨_, _, fees, _⟩ :=
    (metering_equals_spending reachable).1 account member
  exact ⟨s, account, reachable, member, of_decide_eq_true fee, fees⟩

end Crossing
