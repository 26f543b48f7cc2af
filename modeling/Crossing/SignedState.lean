import Crossing.Issuance
import Crossing.Runs

namespace Crossing

open Relational

/-!
# Signed payload and enforcement columns

A mandate stores its terms twice: signed in its payload, and in the columns that
are enforced.  `_verify_stored_mandate` rebuilds the one from the other on every
use.  The columns are terms, which no operation changes, and the payload is
built from them in the form that the rebuilding gives, so a mandate that was
verified when it was issued is accepted ever after.
-/

/-! ## What the verification depends on -/

section Verification

variable
  {env : Env}
  {view later : Db}
  {mandate : Mandate}

/-- The signed state depends on the payload and on what is rebuilt. -/
theorem checkSignedState_congr
    {other : Mandate}
    (samePayload : other.payloadJson = mandate.payloadJson)
    (sameRebuilt : rebuiltPayload other = rebuiltPayload mandate) :
    checkSignedState other = checkSignedState mandate := by
  unfold checkSignedState
  rw [samePayload, sameRebuilt]

/-- A principal that gets registered keeps the keys that were bound before. -/
theorem boundPubkeys_evolves
    {principalId : Id}
    (evolves : Evolves view later) :
    boundPubkeys (view.principals.find principalId) env.issuerPubkey ⊆
      boundPubkeys (later.principals.find principalId) env.issuerPubkey := by
  cases found : view.principals.find principalId with
  | none =>
      intro key isIssuer
      have only : key = env.issuerPubkey := by
        simpa [boundPubkeys] using isIssuer
      subst only
      unfold boundPubkeys
      split
      · split <;> simp
      · simp
  | some principal =>
      obtain ⟨principal', found', rfl⟩ := evolves.principals _ _ found
      rw [found']
      exact List.Subset.refl _

/-- A mandate that verifies is signed under a bound key. -/
theorem verifyStoredMandate_iff :
    verifyStoredMandate env view mandate = .ok () ↔
      mandate.pubkeyHex ∈
          boundPubkeys (view.principals.find mandate.principalId)
            env.issuerPubkey ∧
        env.verifyObj mandate.payloadJson mandate.signature
            mandate.pubkeyHex =
          true ∧
        checkSignedState mandate = .ok () := by
  unfold verifyStoredMandate checkMandateSignature
  constructor
  · intro verified
    obtain ⟨_, signed, state⟩ := except_bind_eq_ok.mp verified
    obtain ⟨_, bound, genuine⟩ := except_bind_eq_ok.mp signed
    exact ⟨by simpa using denyWhen_eq_ok.mp bound,
      by simpa using denyWhen_eq_ok.mp genuine, state⟩
  · rintro ⟨bound, genuine, state⟩
    refine except_bind_eq_ok.mpr ⟨(), ?_, state⟩
    refine except_bind_eq_ok.mpr ⟨(), ?_, ?_⟩
    · exact denyWhen_eq_ok.mpr (not_not.mpr bound)
    · exact denyWhen_eq_ok.mpr (by simp [genuine])

/-- A row with the same signature and the same terms verifies later as well. -/
theorem verifyStoredMandate_later
    {other : Mandate}
    (verified : verifyStoredMandate env view mandate = .ok ())
    (evolves : Evolves view later)
    (samePrincipal : other.principalId = mandate.principalId)
    (sameSignature : other.signature = mandate.signature)
    (samePubkey : other.pubkeyHex = mandate.pubkeyHex)
    (samePayload : other.payloadJson = mandate.payloadJson)
    (sameRebuilt : rebuiltPayload other = rebuiltPayload mandate) :
    verifyStoredMandate env later other = .ok () := by
  obtain ⟨bound, genuine, state⟩ := verifyStoredMandate_iff.mp verified
  refine verifyStoredMandate_iff.mpr ⟨?_, ?_, ?_⟩
  · rw [samePubkey, samePrincipal]
    exact boundPubkeys_evolves evolves bound
  · rw [samePayload, sameSignature, samePubkey]
    exact genuine
  · rw [checkSignedState_congr samePayload sameRebuilt]
    exact state

end Verification

/-! ## A database that drops the time zone -/

/-- What SQLite gives back of a datetime: its wall clock. -/
def Datetime.naive (dt : Datetime) : Datetime where
  wall := dt.wall
  utcoffset := none

/-- The row after a round trip that drops the time zone. -/
def Mandate.naive (mandate : Mandate) : Mandate :=
  { mandate with expiresAt := mandate.expiresAt.map Datetime.naive }

/-- The wall clock of a datetime in UTC is read as UTC. -/
theorem asUtc_naive_asUtc (dt : Datetime) :
    asUtc (asUtc dt).naive = asUtc dt := by
  simp [asUtc, Datetime.naive]

/-- Conversion to UTC is made once. -/
theorem asUtc_asUtc (dt : Datetime) : asUtc (asUtc dt) = asUtc dt := by
  simp [asUtc]

/-- An expiry in UTC survives the round trip. -/
theorem rebuiltPayload_naive
    {mandate : Mandate}
    {given : Option Datetime}
    (inUtc : mandate.expiresAt = given.map asUtc) :
    rebuiltPayload mandate.naive = rebuiltPayload mandate := by
  have sameExpiry :
      (mandate.expiresAt.map Datetime.naive).map asUtc =
        mandate.expiresAt.map asUtc := by
    rw [inUtc]
    cases given with
    | none => rfl
    | some dt => simp [asUtc_naive_asUtc, asUtc_asUtc]
  unfold rebuiltPayload mandatePayload Mandate.naive
  simp only [sameExpiry]
  rfl

/-! ## Every run -/

section Runs

variable
  {env : Env}
  {s s' first second : Sys}

/-- The terms that are rebuilt and the signature over them do not change. -/
theorem Mandate.SameTerms.rebuiltPayload
    {old new : Mandate}
    (same : old.SameTerms new) :
    Crossing.rebuiltPayload new = Crossing.rebuiltPayload old := by
  rw [same.1]
  rfl

/--
No operation breaks a genuine mandate: what was issued with verification
verifies when it is loaded again, from any later state and with its principal
from a state that is later still, and also without the time zone of its expiry.
-/
theorem issued_mandate_stays_genuine
    {ages : List Nat}
    {now debitNow : Datetime}
    {args : IssueMandate}
    {newId : Id}
    {freshNonce : String}
    (reachable : Reachable env (fun _ _ => True) s)
    (taken :
      step env s
          (.txn ages (.issueMandate now debitNow args newId freshNonce)) =
        some s')
    (verifies : args.verify = true)
    (loadedFrom : Later env (fun _ _ => True) s' first)
    (verifiedIn : Later env (fun _ _ => True) first second) :
    ∃ row, first.db.mandates.find newId = some row ∧
      verifyStoredMandate env second.db row = .ok () ∧
      verifyStoredMandate env second.db row.naive = .ok () := by
  have kept := reachable_kept reachable
  have shape := stepped kept (Discipline.free_allows _) taken
  obtain ⟨mandate, issued, change⟩ := shape.issued kept
  have verified := issued.verified verifies
  obtain ⟨nonce, signature, pubkeyHex, isRow⟩ := issued.isRow
  -- The row of the new mandate, now and in the state it is loaded from.
  have stored : s'.db.mandates.find newId = some mandate := by
    have member := change.stored
    rw [isRow] at member ⊢
    exact Table.find_of_mem member
  have afterIssue : Reachable env (fun _ _ => True) s' :=
    reachable.next ⟨_, trivial, taken⟩
  have toFirst := later_evolves afterIssue loadedFrom
  have toSecond := later_evolves (afterIssue.later loadedFrom) verifiedIn
  obtain ⟨row, found, same⟩ := toFirst.mandates _ _ stored
  have evolves : Evolves (s.views ages 7) second.db :=
    (((kept.seen ages 7).trans shape.evolves).trans toFirst).trans toSecond
  have sameRow :
      row.principalId = mandate.principalId ∧
        row.signature = mandate.signature ∧
        row.pubkeyHex = mandate.pubkeyHex ∧
        row.payloadJson = mandate.payloadJson := by
    rw [same.1]
    exact ⟨rfl, rfl, rfl, rfl⟩
  obtain ⟨samePrincipal, sameSignature, samePubkey, samePayload⟩ := sameRow
  have sameExpiry : row.expiresAt = args.expiresAt.map asUtc := by
    rw [same.1, isRow]
    rfl
  have rebuilt := same.rebuiltPayload
  refine ⟨row, found, ?_, ?_⟩
  · exact verifyStoredMandate_later verified evolves samePrincipal
      sameSignature samePubkey samePayload rebuilt
  · exact verifyStoredMandate_later verified evolves samePrincipal
      sameSignature samePubkey samePayload
      ((rebuiltPayload_naive sameExpiry).trans rebuilt)

end Runs

/-- A mandate with an expiry in another zone, before and after a call. -/
theorem issued_mandate_stays_genuine_example :
    ∃ s' first row,
      Later .plain (fun _ _ => True) s' first ∧
        (∃ call, first.calls.find 1 = some call) ∧
        first.db.mandates.find 1 = some row ∧
        verifyStoredMandate .plain first.db row = .ok () ∧
        verifyStoredMandate .plain first.db row.naive = .ok () := by
  let register : List Action :=
    [.txn [] (.createPrincipal none none 1 1),
      .txn [] (.createAgent 1 none 1)]
  let issue : Action :=
    .txn []
      (.issueMandate noon noon
        { principalId := 1
          agentId := 1
          spendLimitCents := 100
          tools := some ["search", "buy", "search"]
          expiresAt := some { wall := 7200, utcoffset := some 3600 } }
        1 "n1")
  have checked :
      (run .plain Sys.start register).any
          (fun s =>
            (step .plain s issue).any fun s' =>
              (run .plain s' [.invoke [] call (drawTen 1)]).any
                fun first => (first.calls.find 1).isSome) =
        true := by
    decide
  obtain ⟨s, reachable, passes⟩ :=
    reachable_of_check (.of_forall (fun _ _ _ => trivial) _) checked
  obtain ⟨s', taken, passes⟩ := (Option.any_eq_true _ _).mp passes
  obtain ⟨first, ran, called⟩ := (Option.any_eq_true _ _).mp passes
  have later := later_of_run (.of_forall (fun _ _ _ => trivial) _) ran
  obtain ⟨row, found, verified, naive⟩ :=
    issued_mandate_stays_genuine reachable taken rfl later .refl
  exact ⟨s', first, row, later, Option.isSome_iff_exists.mp called, found,
    verified, naive⟩

end Crossing
