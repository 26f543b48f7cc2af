import Crossing.Policy
import Crossing.SlidingWindow
import Mathlib.Algebra.Order.Ring.Rat

namespace Crossing

open SlidingWindow

/-!
# The rate limit of `POST /v1/invoke`

`check_rate_limit` of `abuse.py`: one list of instants per API key, pruned and
extended on every call of the key.  Instants are those of `time.monotonic`.
-/

/-- `_hits`: `setdefault` makes a missing key an empty list. -/
abbrev Hits := Id → List Rat

/-- `_hits` when the process starts. -/
def Hits.empty : Hits := fun _ => []

/-- `check_rate_limit`, with what it leaves of `_hits`. -/
def checkRateLimit
    (limit : Int)
    (now : Rat)
    (keyId : Id)
    (hits : Hits) :
    Except Denied Unit × Hits :=
  if limit ≤ 0 then
    (.ok (), hits)
  else
    let cutoff := now - 60
    let window := (hits keyId).filter fun t => t > cutoff
    if window.length ≥ limit then
      (.error ⟨.rateLimited, "per-key rate limit"⟩,
        Function.update hits keyId window)
    else
      (.ok (), Function.update hits keyId (window ++ [now]))

/-- A sequence of calls of `check_rate_limit`, with whether each returned. -/
def rateLimited (limit : Int) :
    Hits → List (Call Id Rat) → Answered Id Rat
  | _, [] => []
  | hits, call :: rest =>
      let (outcome, hits') := checkRateLimit limit call.time call.key hits
      (call, outcome.isOk) :: rateLimited limit hits' rest

section Window

variable {limit : Int} {hits : Hits} {past : Answered Id Rat}

/-- What `check_rate_limit` answers and leaves, in terms of recent instants. -/
theorem checkRateLimit_eq
    (positive : 0 < limit)
    (now : Rat)
    (keyId : Id)
    (hits : Hits) :
    checkRateLimit limit now keyId hits =
      if (recent 60 now (hits keyId)).length < limit.toNat then
        (.ok (),
          Function.update hits keyId (recent 60 now (hits keyId) ++ [now]))
      else
        (.error ⟨.rateLimited, "per-key rate limit"⟩,
          Function.update hits keyId (recent 60 now (hits keyId))) := by
  have isRecent :
      ((hits keyId).filter fun t => decide (t > now - 60)) =
        recent 60 now (hits keyId) :=
    rfl
  unfold checkRateLimit
  rw [if_neg (not_le.mpr positive)]
  simp only [isRecent, ge_iff_le]
  by_cases free : (recent 60 now (hits keyId)).length < limit.toNat
  · rw [if_neg (by omega), if_pos free]
  · rw [if_pos (by omega), if_neg free]

/--
At every later instant the lists show what counts of the admitted calls, though
they have lost calls that counted before.
-/
def Represents (hits : Hits) (past : Answered Id Rat) : Prop :=
  ∀ keyId now,
    (∀ answer ∈ past, answer.1.time ≤ now) →
      recent 60 now (hits keyId) = recent 60 now (acceptedTimes keyId past)

/-- The list of the key is pruned, and extended when the call is admitted. -/
theorem Represents.next
    {call : Call Id Rat}
    (accepted : Bool)
    (represents : Represents hits past)
    (latest : ∀ answer ∈ past, answer.1.time ≤ call.time) :
    Represents
      (Function.update hits call.key
        (recent 60 call.time (hits call.key) ++
          if accepted then [call.time] else []))
      (past ++ [(call, accepted)]) := by
  intro keyId later bounds
  have ordered : call.time ≤ later := bounds (call, accepted) (by simp)
  have shown :=
    represents keyId later fun answer member =>
      (latest answer member).trans ordered
  rw [acceptedTimes_append, acceptedTimes_answer, recent_append]
  by_cases isKey : keyId = call.key
  · subst isKey
    rw [Function.update_self, recent_append, recent_recent ordered, shown]
    simp
  · rw [Function.update_of_ne isKey, shown, if_neg (by simp [Ne.symm isKey])]
    exact (List.append_nil _).symm

/-- One call answers like the exact limiter, and keeps what counts. -/
theorem Represents.step
    {call : Call Id Rat}
    (positive : 0 < limit)
    (represents : Represents hits past)
    (latest : ∀ answer ∈ past, answer.1.time ≤ call.time) :
    (checkRateLimit limit call.time call.key hits).1.isOk =
        admits 60 limit.toNat past call ∧
      Represents (checkRateLimit limit call.time call.key hits).2
        (past ++ [(call, admits 60 limit.toNat past call)]) := by
  have now := represents call.key call.time latest
  rw [checkRateLimit_eq positive]
  unfold admits
  rw [← now]
  by_cases free : (recent 60 call.time (hits call.key)).length < limit.toNat
  · rw [if_pos free, decide_eq_true free]
    exact ⟨rfl, represents.next true latest⟩
  · rw [if_neg free, decide_eq_false free]
    refine ⟨rfl, ?_⟩
    have kept := represents.next false latest
    rwa [if_neg Bool.false_ne_true, List.append_nil] at kept

/-- In order, calls are answered like the exact limiter answers them. -/
theorem Represents.answers
    {calls : List (Call Id Rat)}
    (positive : 0 < limit)
    (represents : Represents hits past)
    (inOrder : InOrder (past.map Prod.fst ++ calls)) :
    rateLimited limit hits calls =
      SlidingWindow.answers 60 limit.toNat past calls := by
  induction calls generalizing hits past with
  | nil => rfl
  | cons call rest inductionHypothesis =>
      have latest : ∀ answer ∈ past, answer.1.time ≤ call.time := by
        intro answer member
        exact (List.pairwise_append.mp inOrder).2.2 answer.1
          (List.mem_map_of_mem member) call List.mem_cons_self
      obtain ⟨same, kept⟩ := represents.step positive latest
      simp only [rateLimited, SlidingWindow.answers, same]
      refine congrArg (_ :: ·) (inductionHypothesis kept ?_)
      simpa [InOrder] using inOrder

end Window

/-- `check_rate_limit` answers like the exact limiter. -/
theorem rateLimited_eq
    {limit : Int}
    {calls : List (Call Id Rat)}
    (positive : 0 < limit)
    (inOrder : InOrder calls) :
    rateLimited limit .empty calls = answers 60 limit.toNat [] calls := by
  have represents : Represents .empty [] := by
    intro keyId now _
    rfl
  exact represents.answers positive inOrder

/--
The rate limiter is an exact sliding window.  Any `limit + 1` consecutive
accepted calls of a key span sixty seconds; a call is rejected when and only
when `limit` calls of its key were accepted less than sixty seconds before; and
without a rejected call all others are answered the same.
-/
theorem rate_limit_is_exact
    {limit : Int}
    {calls : List (Call Id Rat)}
    (positive : 0 < limit)
    (inOrder : InOrder calls) :
    (∀ keyId,
        Spaced 60 limit.toNat
          (acceptedTimes keyId (rateLimited limit .empty calls))) ∧
      ∀ before call accepted after,
        rateLimited limit .empty calls = before ++ (call, accepted) :: after →
          (accepted = false ↔
            limit ≤
              ((acceptedTimes call.key before).filter
                fun time => call.time - time < 60).length) ∧
          (accepted = false →
            rateLimited limit .empty
                (before.map Prod.fst ++ after.map Prod.fst) =
              before ++ after) := by
  rw [rateLimited_eq positive inOrder]
  refine ⟨?_, ?_⟩
  · intro keyId
    have spaced : Spaced (60 : Rat) limit.toNat (acceptedTimes keyId []) := by
      intro position first last isFirst _
      cases isFirst
    exact spaced_answers keyId (by exact inOrder) spaced
  · intro before call accepted after answered
    obtain ⟨_, isAnswer, _⟩ := answers_split answered
    refine ⟨?_, ?_⟩
    · have counted :
          ((acceptedTimes call.key before).filter
              fun time => decide (call.time - time < 60)) =
            recent 60 call.time (acceptedTimes call.key before) := by
        unfold recent
        simp only [sub_lt_comm]
      rw [counted, isAnswer, List.nil_append, admits, decide_eq_false_iff_not]
      omega
    · rintro rfl
      rw [← answers_without_rejected answered]
      apply rateLimited_eq positive
      have listed :
          before.map Prod.fst ++ call :: after.map Prod.fst = calls := by
        rw [← map_fst_answers [] calls, answered, List.map_append,
          List.map_cons]
      rw [← listed] at inOrder
      exact inOrder.sublist
        ((List.sublist_cons_self _ _).append_left (before.map Prod.fst))

/-- Of three calls at once two are admitted, and one more a minute later. -/
theorem rate_limit_is_exact_example :
    rateLimited 2 .empty [⟨1, 0⟩, ⟨1, 0⟩, ⟨1, 30⟩, ⟨2, 30⟩, ⟨1, 60⟩] =
        [(⟨1, 0⟩, true), (⟨1, 0⟩, true), (⟨1, 30⟩, false), (⟨2, 30⟩, true),
          (⟨1, 60⟩, true)] ∧
      Spaced 60 2
        (acceptedTimes 1
          (rateLimited 2 .empty
            [⟨1, 0⟩, ⟨1, 0⟩, ⟨1, 30⟩, ⟨2, 30⟩, ⟨1, 60⟩])) := by
  have inOrder :
      InOrder
        ([⟨1, 0⟩, ⟨1, 0⟩, ⟨1, 30⟩, ⟨2, 30⟩, ⟨1, 60⟩] : List (Call Id Rat)) := by
    unfold InOrder
    decide +kernel
  exact ⟨by decide +kernel, (rate_limit_is_exact (by decide) inOrder).1 1⟩

end Crossing
