import Mathlib.Algebra.BigOperators.Group.Finset.Basic
import Mathlib.Algebra.Order.BigOperators.Group.Finset
import Mathlib.Logic.Relation
import Mathlib.Tactic.Linarith

namespace Delegation

/-!
# Forests of delegated budgets

Nodes with a partial parent function form a forest when a rank decreases from
every node to its parent.  If every node's own spending and the limits it has
handed to its children fit in its limit, then the spending of a whole subtree
fits in the limit of its root.
-/

variable {ι : Type}

/-- `ancestor` is `node` itself or is reached from it by parent links. -/
def SelfOrAncestor (parent : ι → Option ι) (node ancestor : ι) : Prop :=
  Relation.ReflTransGen (fun child up => parent child = some up) node ancestor

/-- Parent links strictly decrease some rank, so they form no cycle. -/
def Ranked (parent : ι → Option ι) : Prop :=
  ∃ rank : ι → ℕ, ∀ child up, parent child = some up → rank up < rank child

namespace SelfOrAncestor

variable {parent : ι → Option ι} {node middle ancestor : ι}

/-- Every node is its own self-or-ancestor. -/
theorem refl (parent : ι → Option ι) (node : ι) :
    SelfOrAncestor parent node node :=
  Relation.ReflTransGen.refl

/-- The ancestors of a parent are ancestors of its child. -/
theorem step
    {up : ι}
    (link : parent node = some up)
    (above : SelfOrAncestor parent up ancestor) :
    SelfOrAncestor parent node ancestor :=
  Relation.ReflTransGen.head link above

/-- A self-or-ancestor is the node or is above its parent. -/
theorem cases_parent
    (above : SelfOrAncestor parent node ancestor) :
    node = ancestor ∨
      ∃ up, parent node = some up ∧ SelfOrAncestor parent up ancestor :=
  Relation.ReflTransGen.cases_head above

/-- A property that parents pass on reaches every node below. -/
theorem inherit
    {Property : ι → Prop}
    (passes :
      ∀ child up, parent child = some up → Property up → Property child)
    (above : SelfOrAncestor parent node ancestor)
    (holds : Property ancestor) :
    Property node := by
  induction above using Relation.ReflTransGen.head_induction_on with
  | refl =>
      exact holds
  | head link _ inductionHypothesis =>
      exact passes _ _ link inductionHypothesis

/-- A property that children pass up reaches every ancestor. -/
theorem ascend
    {Property : ι → Prop}
    (passes :
      ∀ child up, parent child = some up → Property child → Property up)
    (above : SelfOrAncestor parent node ancestor)
    (holds : Property node) :
    Property ancestor := by
  induction above with
  | refl =>
      exact holds
  | tail _ link inductionHypothesis =>
      exact passes _ _ link inductionHypothesis

/-- Ancestry is kept by a parent function that keeps every link. -/
theorem mono
    {parent' : ι → Option ι}
    (keeps : ∀ child up, parent child = some up → parent' child = some up)
    (above : SelfOrAncestor parent node ancestor) :
    SelfOrAncestor parent' node ancestor := by
  induction above with
  | refl =>
      exact .refl parent' node
  | tail _ link inductionHypothesis =>
      exact Relation.ReflTransGen.tail inductionHypothesis (keeps _ _ link)

/--
Ancestry is that of any parent function which agrees on a set of nodes that is
closed under parents.
-/
theorem restrict
    {parent' : ι → Option ι}
    {Known : ι → Prop}
    (agrees : ∀ child, Known child → parent' child = parent child)
    (closed : ∀ child up, Known child → parent child = some up → Known up)
    (above : SelfOrAncestor parent' node ancestor)
    (known : Known node) :
    SelfOrAncestor parent node ancestor := by
  induction above using Relation.ReflTransGen.head_induction_on with
  | refl =>
      exact .refl parent ancestor
  | head link _ inductionHypothesis =>
      have link' := (agrees _ known).symm.trans link
      exact .step link' (inductionHypothesis (closed _ _ known link'))

end SelfOrAncestor

namespace Ranked

variable {parent : ι → Option ι}

/-- No node lies above its own parent. -/
theorem not_selfOrAncestor_of_parent
    (ranked : Ranked parent)
    {node up : ι}
    (link : parent node = some up) :
    ¬ SelfOrAncestor parent up node := by
  obtain ⟨rank, decreases⟩ := ranked
  intro above
  have rankLe : rank node ≤ rank up := by
    clear link
    induction above with
    | refl =>
        exact Nat.le_refl (rank up)
    | tail _ link' inductionHypothesis =>
        exact (decreases _ _ link').le.trans inductionHypothesis
  exact absurd (decreases _ _ link) (by omega)

/-- A forest without links is ranked. -/
theorem of_none (roots : ∀ node, parent node = none) : Ranked parent :=
  ⟨fun _ => 0, fun child up link => by simp [roots child] at link⟩

/--
A forest stays ranked when a node that was nobody's parent and had no parent
gets one.
-/
theorem attach
    [DecidableEq ι]
    (ranked : Ranked parent)
    {parent' : ι → Option ι}
    {leaf : ι}
    (childless : ∀ child, parent child ≠ some leaf)
    (notSelf : parent' leaf ≠ some leaf)
    (others : ∀ node, node ≠ leaf → parent' node = parent node) :
    Ranked parent' := by
  obtain ⟨rank, decreases⟩ := ranked
  cases leafParent : parent' leaf with
  | none =>
      refine ⟨rank, fun child up link => ?_⟩
      have different : child ≠ leaf := by
        intro same
        subst same
        rw [leafParent] at link
        cases link
      exact decreases child up (others child different ▸ link)
  | some up =>
      refine ⟨Function.update rank leaf (rank up + 1), fun child up' link => ?_⟩
      by_cases isLeaf : child = leaf
      · subst isLeaf
        rw [leafParent] at link
        cases link
        have upNotLeaf : up ≠ child := by
          intro same
          exact notSelf (same ▸ leafParent)
        simp [Function.update_of_ne upNotLeaf]
      · rw [others child isLeaf] at link
        have upNotLeaf : up' ≠ leaf := by
          intro same
          exact childless child (same ▸ link)
        rw [Function.update_of_ne isLeaf, Function.update_of_ne upNotLeaf]
        exact decreases child up' link

end Ranked

section Budget

open scoped Classical in
/--
Subtree bound.  When each node's own spending and its children's limits fit in
its limit, the spending of the subtree below `root` fits in the limit of
`root`.
-/
theorem subtree_spent_le_limit
    [DecidableEq ι]
    {parent : ι → Option ι}
    (ranked : Ranked parent)
    (nodes : Finset ι)
    (closed :
      ∀ child ∈ nodes, ∀ up, parent child = some up → up ∈ nodes)
    (limit spent : ι → ℤ)
    (fits :
      ∀ node ∈ nodes,
        spent node +
            ∑ child ∈ nodes with parent child = some node, limit child ≤
          limit node)
    {root : ι}
    (member : root ∈ nodes) :
    ∑ node ∈ nodes with SelfOrAncestor parent node root, spent node ≤
      limit root := by
  let subtree := nodes.filter fun node => SelfOrAncestor parent node root
  let children (node : ι) : Finset ι :=
    nodes.filter fun child => parent child = some node
  have rootIn : root ∈ subtree :=
    Finset.mem_filter.mpr ⟨member, SelfOrAncestor.refl parent root⟩
  -- Every node of the subtree but its root is the child of one of its nodes.
  have childrenShape : subtree.biUnion children = subtree.erase root := by
    ext child
    simp only [Finset.mem_biUnion, Finset.mem_erase, subtree,
      Finset.mem_filter, children]
    constructor
    · rintro ⟨node, ⟨_, below⟩, childIn, link⟩
      refine ⟨?_, childIn, below.step link⟩
      rintro rfl
      exact ranked.not_selfOrAncestor_of_parent link below
    · rintro ⟨notRoot, childIn, below⟩
      rcases below.cases_parent with same | ⟨up, link, above⟩
      · exact (notRoot same).elim
      · exact ⟨up, ⟨closed child childIn up link, above⟩, childIn, link⟩
  have childrenDisjoint :
      (subtree : Set ι).PairwiseDisjoint children := by
    intro first _ second _ different
    rw [Function.onFun, Finset.disjoint_left]
    intro child firstChild secondChild
    have firstLink := (Finset.mem_filter.mp firstChild).2
    have secondLink := (Finset.mem_filter.mp secondChild).2
    exact different (Option.some.inj (firstLink.symm.trans secondLink))
  have delegated :
      ∑ node ∈ subtree, ∑ child ∈ children node, limit child =
        ∑ child ∈ subtree.erase root, limit child := by
    rw [← childrenShape, Finset.sum_biUnion childrenDisjoint]
  have limits :
      limit root + ∑ child ∈ subtree.erase root, limit child =
        ∑ node ∈ subtree, limit node :=
    Finset.add_sum_erase subtree limit rootIn
  have total :
      ∑ node ∈ subtree, (spent node + ∑ child ∈ children node, limit child) ≤
        ∑ node ∈ subtree, limit node :=
    Finset.sum_le_sum fun node nodeIn =>
      fits node (Finset.mem_filter.mp nodeIn).1
  rw [Finset.sum_add_distrib, delegated] at total
  change ∑ node ∈ subtree, spent node ≤ limit root
  linarith

end Budget

end Delegation
