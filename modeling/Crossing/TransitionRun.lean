import Mathlib.Data.List.Destutter
import Mathlib.Logic.Relation

namespace Transition

/-!
# Runs of a transition system

States reachable through a step relation, the rule that carries an invariant
over every run, the order of entries in an append-only log, and the history of
an observation along a run with repetitions removed.
-/

section Reachability

variable {σ : Type} {initial : σ → Prop} {step : σ → σ → Prop}

/-- States that some run from an initial state reaches. -/
def Reachable (initial : σ → Prop) (step : σ → σ → Prop) (state : σ) : Prop :=
  ∃ start, initial start ∧ Relation.ReflTransGen step start state

/-- States that some run leads to from a given state. -/
abbrev Later (step : σ → σ → Prop) : σ → σ → Prop :=
  Relation.ReflTransGen step

namespace Reachable

/-- Initial states are reachable. -/
theorem start {state : σ} (isInitial : initial state) :
    Reachable initial step state :=
  ⟨state, isInitial, .refl⟩

/-- One more step keeps a state reachable. -/
theorem next
    {state state' : σ}
    (reachable : Reachable initial step state)
    (taken : step state state') :
    Reachable initial step state' := by
  obtain ⟨first, isInitial, run⟩ := reachable
  exact ⟨first, isInitial, run.tail taken⟩

/-- Every later state of a reachable state is reachable. -/
theorem later
    {state state' : σ}
    (reachable : Reachable initial step state)
    (run : Later step state state') :
    Reachable initial step state' := by
  obtain ⟨first, isInitial, prefixRun⟩ := reachable
  exact ⟨first, isInitial, prefixRun.trans run⟩

/--
Invariant rule: what holds initially and is kept by every step from a
reachable state holds in every reachable state.
-/
theorem invariant
    {Invariant : σ → Prop}
    (base : ∀ state, initial state → Invariant state)
    (kept :
      ∀ state state',
        Reachable initial step state →
        Invariant state →
        step state state' →
        Invariant state')
    {state : σ}
    (reachable : Reachable initial step state) :
    Invariant state := by
  obtain ⟨first, isInitial, run⟩ := reachable
  induction run with
  | refl =>
      exact base first isInitial
  | tail prefixRun taken inductionHypothesis =>
      exact kept _ _ ⟨first, isInitial, prefixRun⟩
        inductionHypothesis taken

end Reachable

/--
What holds in a reachable state and is kept by every step from a reachable
state holds in every later state.
-/
theorem later_invariant
    (Invariant : σ → Prop)
    (kept :
      ∀ state state',
        Reachable initial step state →
        Invariant state →
        step state state' →
        Invariant state')
    {state state' : σ}
    (reachable : Reachable initial step state)
    (holds : Invariant state)
    (run : Later step state state') :
    Invariant state' := by
  induction run with
  | refl =>
      exact holds
  | tail prefixRun taken inductionHypothesis =>
      exact kept _ _ (reachable.later prefixRun)
        inductionHypothesis taken

/-- Along a run from an initial state every step starts in a reachable state. -/
theorem isChain_reachable
    {states : List σ}
    (run : states.IsChain step)
    (fromStart : ∀ state ∈ states.head?, Reachable initial step state) :
    states.IsChain fun state state' =>
      Reachable initial step state ∧ step state state' := by
  induction run with
  | nil => exact .nil
  | singleton state => exact .singleton state
  | @cons_cons state state' rest taken _ inductionHypothesis =>
      have reachable := fromStart state (by simp)
      refine .cons_cons ⟨reachable, taken⟩ (inductionHypothesis ?_)
      intro next isNext
      cases isNext
      exact reachable.next taken

end Reachability

/-! ## Lists of actions -/

section Play

variable
  {σ α : Type}
  {step : σ → α → Option σ}
  {allowed : σ → α → Prop}
  [∀ state action, Decidable (allowed state action)]

/-- The state after a list of actions, when all are allowed and succeed. -/
def play
    (step : σ → α → Option σ)
    (allowed : σ → α → Prop)
    [∀ state action, Decidable (allowed state action)]
    (state : σ) :
    List α → Option σ
  | [] => some state
  | action :: rest =>
      if allowed state action then
        (step state action).bind fun state' => play step allowed state' rest
      else
        none

/-- A list of actions that is played is a run. -/
theorem later_of_play
    {state state' : σ}
    {actions : List α}
    (played : play step allowed state actions = some state') :
    Later
      (fun state state' =>
        ∃ action, allowed state action ∧ step state action = some state')
      state state' := by
  induction actions generalizing state with
  | nil =>
      cases played
      exact .refl
  | cons action rest inductionHypothesis =>
      simp only [play] at played
      split at played
      · rename_i isAllowed
        obtain ⟨middle, taken, playedRest⟩ := Option.bind_eq_some_iff.mp played
        exact .head ⟨action, isAllowed, taken⟩
          (inductionHypothesis playedRest)
      · cases played

end Play

section Order

variable {α : Type}

/-- `first` occurs somewhere before an occurrence of `second`. -/
def Before (first second : α) (log : List α) : Prop :=
  List.Sublist [first, second] log

namespace Before

variable {first second : α} {log : List α}

/-- The earlier entry occurs. -/
theorem first_mem (before : Before first second log) : first ∈ log :=
  before.subset (by simp)

/-- The later entry occurs. -/
theorem second_mem (before : Before first second log) : second ∈ log :=
  before.subset (by simp)

/--
Order in a log that has grown: both entries are old, or an old entry precedes
a new one, or both are new.
-/
theorem append_iff {recent : List α} :
    Before first second (log ++ recent) ↔
      Before first second log ∨
        (first ∈ log ∧ second ∈ recent) ∨
        Before first second recent := by
  unfold Before
  rw [List.sublist_append_iff]
  constructor
  · rintro ⟨old, new, shape, oldSublist, newSublist⟩
    cases old with
    | nil =>
        right; right
        simpa using shape ▸ newSublist
    | cons head tail =>
        cases tail with
        | nil =>
            right; left
            simp only [List.cons_append, List.nil_append,
              List.cons.injEq] at shape
            obtain ⟨rfl, rfl⟩ := shape
            exact ⟨List.singleton_sublist.mp oldSublist,
              List.singleton_sublist.mp newSublist⟩
        | cons next rest =>
            left
            simp only [List.cons_append, List.cons.injEq,
              List.nil_eq, List.append_eq_nil_iff] at shape
            obtain ⟨rfl, rfl, rfl, rfl⟩ := shape
            exact oldSublist
  · rintro (bothOld | ⟨firstOld, secondNew⟩ | bothNew)
    · exact ⟨[first, second], [], by simp, bothOld, List.nil_sublist _⟩
    · exact ⟨[first], [second], by simp,
        List.singleton_sublist.mpr firstOld,
        List.singleton_sublist.mpr secondNew⟩
    · exact ⟨[], [first, second], by simp, List.nil_sublist _, bothNew⟩

/-- A log that grows keeps its order. -/
theorem append
    (before : Before first second log)
    (recent : List α) :
    Before first second (log ++ recent) :=
  append_iff.mpr (.inl before)

/-- An old entry precedes a new one. -/
theorem old_new
    {recent : List α}
    (firstOld : first ∈ log)
    (secondNew : second ∈ recent) :
    Before first second (log ++ recent) :=
  append_iff.mpr (.inr (.inl ⟨firstOld, secondNew⟩))

end Before

/-- Two entries of a log that differ occur in one order or the other. -/
theorem before_or_before
    {first second : α}
    {log : List α}
    (firstMember : first ∈ log)
    (secondMember : second ∈ log)
    (different : first ≠ second) :
    Before first second log ∨ Before second first log := by
  obtain ⟨earlier, later, rfl⟩ := List.append_of_mem firstMember
  have placed : second ∈ earlier ∨ second ∈ later := by
    have inEither := List.mem_append.mp secondMember
    rcases inEither with inEarlier | inRest
    · exact .inl inEarlier
    · rcases List.mem_cons.mp inRest with same | inLater
      · exact (different same.symm).elim
      · exact .inr inLater
  rcases placed with inEarlier | inLater
  · right
    exact Before.old_new inEarlier (by simp)
  · left
    apply Before.append_iff.mpr
    right; right
    exact List.Sublist.cons_cons first
      (List.singleton_sublist.mpr inLater)

end Order

section Histories

variable {σ α : Type} {step : σ → σ → Prop} {arrow : α → α → Prop}

/--
The values an observation takes along a list of states, each repetition of the
previous value left out.
-/
def history
    [DecidableEq α]
    (observe : σ → Option α)
    (states : List σ) :
    List α :=
  (states.filterMap observe).destutter (· ≠ ·)

/-- Along a run, consecutive observations are equal or related. -/
theorem isChain_filterMap
    (observe : σ → Option α)
    (stays :
      ∀ {state state' value},
        step state state' →
        observe state = some value →
        ∃ value', observe state' = some value' ∧
          (value = value' ∨ arrow value value'))
    {states : List σ}
    (run : states.IsChain step) :
    (states.filterMap observe).IsChain
      (fun value value' => value = value' ∨ arrow value value') := by
  induction run with
  | nil =>
      exact .nil
  | singleton state =>
      cases observed : observe state with
      | none => simp [observed]
      | some value => simp [observed]
  | @cons_cons state state' rest taken _ inductionHypothesis =>
      cases observed : observe state with
      | none =>
          simpa [observed] using inductionHypothesis
      | some value =>
          obtain ⟨value', observed', related⟩ := stays taken observed
          rw [List.filterMap_cons_some observed]
          rw [List.filterMap_cons_some observed'] at inductionHypothesis ⊢
          exact .cons_cons related inductionHypothesis

/-- Removing repetitions from a weak chain leaves a chain. -/
theorem isChain_destutter
    [DecidableEq α]
    {values : List α}
    (weak :
      values.IsChain
        (fun value value' => value = value' ∨ arrow value value')) :
    (values.destutter (· ≠ ·)).IsChain arrow := by
  have fromHead :
      ∀ (rest : List α) (head : α),
        (head :: rest).IsChain
          (fun value value' => value = value' ∨ arrow value value') →
        (rest.destutter' (· ≠ ·) head).IsChain arrow ∧
          ∃ tail, rest.destutter' (· ≠ ·) head = head :: tail := by
    intro rest
    induction rest with
    | nil =>
        intro head _
        exact ⟨.singleton head, [], rfl⟩
    | cons next rest inductionHypothesis =>
        intro head weak
        obtain ⟨related, weakRest⟩ := List.isChain_cons_cons.mp weak
        obtain ⟨chain, tail, shape⟩ := inductionHypothesis next weakRest
        by_cases same : head = next
        · subst same
          rw [List.destutter'_cons_neg rest (by simp)]
          exact ⟨chain, tail, shape⟩
        · rw [List.destutter'_cons_pos rest (by exact same)]
          refine ⟨?_, _, rfl⟩
          rw [shape] at chain ⊢
          exact .cons_cons (related.resolve_left same) chain
  cases values with
  | nil => exact .nil
  | cons head rest =>
      exact (fromHead rest head weak).1

/--
The history of an observation that each step keeps or moves along `arrow` is a
path of `arrow`.
-/
theorem history_isChain
    [DecidableEq α]
    {observe : σ → Option α}
    (stays :
      ∀ {state state' value},
        step state state' →
        observe state = some value →
        ∃ value', observe state' = some value' ∧
          (value = value' ∨ arrow value value'))
    {states : List σ}
    (run : states.IsChain step) :
    (history observe states).IsChain arrow :=
  isChain_destutter (isChain_filterMap observe stays run)

/--
The history of an observation that is unset in the first state begins with a
value it can appear with.
-/
theorem history_head
    [DecidableEq α]
    {observe : σ → Option α}
    {start : α → Prop}
    (appears :
      ∀ {state state' value},
        step state state' →
        observe state = none →
        observe state' = some value →
        start value)
    {states : List σ}
    (run : states.IsChain step)
    (unset : ∀ state ∈ states.head?, observe state = none) :
    ∀ value ∈ (history observe states).head?, start value := by
  have firstOf :
      ∀ value ∈ (states.filterMap observe).head?, start value := by
    induction run with
    | nil => simp
    | singleton state =>
        have missing := unset state (by simp)
        simp [missing]
    | @cons_cons state state' rest taken _ inductionHypothesis =>
        have missing := unset state (by simp)
        rw [List.filterMap_cons_none missing]
        cases observed' : observe state' with
        | none =>
            exact inductionHypothesis (by simpa using observed')
        | some value' =>
            intro value member
            rw [List.filterMap_cons_some observed'] at member
            simp only [List.head?_cons, Option.mem_some_iff] at member
            subst member
            exact appears taken missing observed'
  intro value member
  apply firstOf value
  unfold history at member
  cases observations : states.filterMap observe with
  | nil => simp [observations] at member
  | cons head rest =>
      rw [observations, List.destutter_cons'] at member
      have headKept :
          ∀ (rest : List α),
            (rest.destutter' (· ≠ ·) head).head? = some head := by
        intro rest
        induction rest with
        | nil => rfl
        | cons next rest inductionHypothesis =>
            rw [List.destutter'_cons]
            split
            · rfl
            · exact inductionHypothesis
      rw [headKept] at member
      simpa using member

end Histories

end Transition
