import Mathlib.Algebra.Order.Group.Defs
import Mathlib.Algebra.Order.Sub.Basic
import Mathlib.Data.List.Basic
import Mathlib.Tactic.Abel

namespace SlidingWindow

/-!
# Sliding windows

A limiter answers calls, each with a key and an instant.  The exact limiter
admits a call when fewer than `limit` calls of its key were admitted within
the last `span`; it remembers every call.  What holds of its answers holds of
every limiter that gives the same ones.
-/

/-- A call under a key at an instant. -/
structure Call (κ τ : Type) where
  key : κ
  time : τ
  deriving Repr, DecidableEq

/-- Calls with their answers, oldest first. -/
abbrev Answered (κ τ : Type) := List (Call κ τ × Bool)

section Window

variable {τ : Type} [AddCommGroup τ] [LinearOrder τ] {span now later : τ}

/-- The instants that are less than `span` ago. -/
def recent (span now : τ) (times : List τ) : List τ :=
  times.filter fun time => decide (now - span < time)

/-- Instants that follow are looked at separately. -/
theorem recent_append (earlier times : List τ) :
    recent span now (earlier ++ times) =
      recent span now earlier ++ recent span now times :=
  List.filter_append ..

/-- What was recent at some instant has all that is recent afterwards. -/
theorem recent_recent
    [IsOrderedAddMonoid τ]
    (ordered : now ≤ later)
    (times : List τ) :
    recent span later (recent span now times) = recent span later times := by
  unfold recent
  rw [List.filter_filter]
  apply List.filter_congr
  intro time _
  have stays : later - span < time → now - span < time :=
    (sub_le_sub_right ordered span).trans_lt
  simpa using stays

end Window

section Limiter

variable
  {κ τ : Type}
  [DecidableEq κ]
  [AddCommGroup τ]
  [LinearOrder τ]
  {span : τ}
  {limit : ℕ}

/-- The instants of the admitted calls of a key. -/
def acceptedTimes (key : κ) (answered : Answered κ τ) : List τ :=
  answered.filterMap fun (call, accepted) =>
    if accepted ∧ call.key = key then some call.time else none

/-- Fewer than `limit` calls of the key were admitted within the span. -/
def admits
    (span : τ)
    (limit : ℕ)
    (past : Answered κ τ)
    (call : Call κ τ) :
    Bool :=
  (recent span call.time (acceptedTimes call.key past)).length < limit

/-- The answers of the exact limiter, after those it has given. -/
def answers (span : τ) (limit : ℕ) :
    Answered κ τ → List (Call κ τ) → Answered κ τ
  | _, [] => []
  | past, call :: rest =>
      let answer := (call, admits span limit past call)
      answer :: answers span limit (past ++ [answer]) rest

/-- Instants of the calls do not decrease. -/
def InOrder (calls : List (Call κ τ)) : Prop :=
  calls.Pairwise fun earlier later => earlier.time ≤ later.time

/-- Any `limit + 1` consecutive instants span at least `span`. -/
def Spaced (span : τ) (limit : ℕ) (times : List τ) : Prop :=
  ∀ (position : ℕ) (first last : τ),
    times[position]? = some first →
      times[position + limit]? = some last →
        span ≤ last - first

/-! ## The admitted calls -/

omit [AddCommGroup τ] [LinearOrder τ] in
/-- Admitted calls are looked at in order. -/
theorem acceptedTimes_append (key : κ) (earlier answered : Answered κ τ) :
    acceptedTimes key (earlier ++ answered) =
      acceptedTimes key earlier ++ acceptedTimes key answered :=
  List.filterMap_append ..

omit [AddCommGroup τ] in
/-- Admitted calls are in order when all calls are. -/
theorem sorted_acceptedTimes
    (key : κ)
    {answered : Answered κ τ}
    (inOrder : InOrder (answered.map Prod.fst)) :
    (acceptedTimes key answered).Pairwise (· ≤ ·) := by
  unfold InOrder at inOrder
  rw [List.pairwise_map] at inOrder
  unfold acceptedTimes
  rw [List.pairwise_filterMap]
  refine inOrder.imp ?_
  intro first second ordered time isTime time' isTime'
  cases (Option.ite_none_right_eq_some.mp isTime).2
  cases (Option.ite_none_right_eq_some.mp isTime').2
  exact ordered

omit [AddCommGroup τ] [LinearOrder τ] in
/-- A call of another key is not looked at. -/
theorem acceptedTimes_answer (key : κ) (call : Call κ τ) (accepted : Bool) :
    acceptedTimes key [(call, accepted)] =
      if accepted ∧ call.key = key then [call.time] else [] := by
  unfold acceptedTimes
  split <;> simp_all

/-! ## The answers -/

/-- Every call is answered, in order. -/
theorem map_fst_answers
    (past : Answered κ τ)
    (calls : List (Call κ τ)) :
    (answers span limit past calls).map Prod.fst = calls := by
  induction calls generalizing past with
  | nil => rfl
  | cons call rest inductionHypothesis =>
      exact congrArg (call :: ·) (inductionHypothesis _)

/-- Answers depend on the admitted calls only. -/
theorem answers_congr
    {past past' : Answered κ τ}
    (same : ∀ key, acceptedTimes key past = acceptedTimes key past')
    (calls : List (Call κ τ)) :
    answers span limit past calls = answers span limit past' calls := by
  induction calls generalizing past past' with
  | nil => rfl
  | cons call rest inductionHypothesis =>
      have sameAnswer :
          admits span limit past call = admits span limit past' call := by
        unfold admits
        rw [same]
      simp only [answers, sameAnswer]
      refine congrArg (_ :: ·) (inductionHypothesis ?_)
      intro key
      rw [acceptedTimes_append, acceptedTimes_append, same]

/-- What follows the first calls is answered after their answers. -/
theorem answers_append
    (past : Answered κ τ)
    (calls rest : List (Call κ τ)) :
    answers span limit past (calls ++ rest) =
      answers span limit past calls ++
        answers span limit (past ++ answers span limit past calls) rest := by
  induction calls generalizing past with
  | nil => simp [answers]
  | cons call calls inductionHypothesis =>
      simp only [List.cons_append, answers]
      rw [inductionHypothesis, List.append_assoc, List.singleton_append]

/--
A call is answered by what was admitted before it, the calls before it as if
they were all, and those after it with its answer in mind.
-/
theorem answers_split
    {past before after : Answered κ τ}
    {calls : List (Call κ τ)}
    {call : Call κ τ}
    {accepted : Bool}
    (answered :
      answers span limit past calls = before ++ (call, accepted) :: after) :
    answers span limit past (before.map Prod.fst) = before ∧
      accepted = admits span limit (past ++ before) call ∧
      answers span limit (past ++ before ++ [(call, accepted)])
          (after.map Prod.fst) =
        after := by
  induction before generalizing past calls with
  | nil =>
      cases calls with
      | nil => cases answered
      | cons first rest =>
          cases answered
          rw [map_fst_answers, List.append_nil]
          exact ⟨rfl, rfl, rfl⟩
  | cons answer before inductionHypothesis =>
      cases calls with
      | nil => cases answered
      | cons first rest =>
          obtain ⟨rfl, tailAnswered⟩ := List.cons_eq_cons.mp answered
          obtain ⟨beforeAnswered, isAnswer, afterAnswered⟩ :=
            inductionHypothesis tailAnswered
          rw [List.append_cons]
          exact ⟨congrArg (_ :: ·) beforeAnswered, isAnswer, afterAnswered⟩

/-- Without a rejected call all others are answered the same. -/
theorem answers_without_rejected
    {before after : Answered κ τ}
    {calls : List (Call κ τ)}
    {call : Call κ τ}
    (answered :
      answers span limit [] calls = before ++ (call, false) :: after) :
    answers span limit [] (before.map Prod.fst ++ after.map Prod.fst) =
      before ++ after := by
  obtain ⟨beforeAnswered, _, afterAnswered⟩ := answers_split answered
  rw [answers_append, beforeAnswered, List.nil_append]
  congr 1
  refine Eq.trans (answers_congr ?_ _) afterAnswered
  intro key
  simp [acceptedTimes]

/-! ## Spacing -/

/-- An instant that is admitted keeps the spacing. -/
theorem Spaced.append
    [IsOrderedAddMonoid τ]
    {times : List τ}
    {now : τ}
    (spaced : Spaced span limit times)
    (sorted : times.Pairwise (· ≤ ·))
    (admitted : (recent span now times).length < limit) :
    Spaced span limit (times ++ [now]) := by
  intro position first last isFirst isLast
  by_cases isOld : position + limit < times.length
  · rw [List.getElem?_append_left isOld] at isLast
    rw [List.getElem?_append_left (by omega)] at isFirst
    exact spaced position first last isFirst isLast
  · -- The last of these instants is the new one.
    have atEnd : position + limit = times.length := by
      have bounded := (List.getElem?_eq_some_iff.mp isLast).1
      rw [List.length_append, List.length_singleton] at bounded
      omega
    have isNow : now = last := by
      rw [atEnd, List.getElem?_concat_length] at isLast
      exact Option.some.inj isLast
    subst isNow
    rw [List.getElem?_append_left (by omega)] at isFirst
    by_contra close
    have isRecent : now - span < first := by
      rw [not_le] at close
      exact sub_lt_comm.mp close
    -- All instants from the first on are recent, and these are `limit`.
    have allRecent :
        recent span now (times.drop position) = times.drop position := by
      unfold recent
      rw [List.filter_eq_self]
      intro time member
      have fromFirst :
          times.drop position = first :: times.drop (position + 1) := by
        obtain ⟨inside, rfl⟩ := List.getElem?_eq_some_iff.mp isFirst
        exact List.drop_eq_getElem_cons inside
      have sortedDrop := sorted.sublist (List.drop_sublist position times)
      rw [fromFirst] at member sortedDrop
      have afterFirst : first ≤ time := by
        rcases List.mem_cons.mp member with rfl | later
        · exact le_refl time
        · exact (List.pairwise_cons.mp sortedDrop).1 time later
      exact decide_eq_true (isRecent.trans_le afterFirst)
    rw [← List.take_append_drop position times, recent_append, allRecent,
      List.length_append, List.length_drop] at admitted
    omega

/-- What the exact limiter has admitted of a key is in order and spaced. -/
theorem spaced_answers
    [IsOrderedAddMonoid τ]
    {past : Answered κ τ}
    {calls : List (Call κ τ)}
    (key : κ)
    (inOrder : InOrder (past.map Prod.fst ++ calls))
    (spaced : Spaced span limit (acceptedTimes key past)) :
    Spaced span limit
      (acceptedTimes key (past ++ answers span limit past calls)) := by
  induction calls generalizing past with
  | nil => simpa [answers] using spaced
  | cons call rest inductionHypothesis =>
      simp only [answers]
      rw [List.append_cons]
      apply inductionHypothesis
      · simpa [InOrder] using inOrder
      · rw [acceptedTimes_append, acceptedTimes_answer]
        split
        · rename_i admitted
          obtain ⟨isAdmitted, rfl⟩ := admitted
          refine spaced.append ?_ (of_decide_eq_true isAdmitted)
          exact sorted_acceptedTimes call.key
            (List.pairwise_append.mp inOrder).1
        · rwa [List.append_nil]

end Limiter

end SlidingWindow
