import Mathlib.Algebra.Group.Nat.Defs

/-!
# Eviction trees

A complete binary tree with a bit at each inner node that names the half to evict from.
An access turns the bits on the path to its leaf away from it. So a leaf is named only if
all bits on its path name its half, and every access to another leaf turns one of them back
at most; and whoever evicts leaf after leaf takes turns between the two halves of each node.
-/

namespace PageWalk.Replacement

/-- A complete binary tree of node bits; a set bit names the upper half. -/
inductive EvictionTree : Nat → Type
  | leaf : EvictionTree 0
  | node {depth : Nat} (upper : Bool) (low high : EvictionTree depth) :
      EvictionTree (depth + 1)

namespace EvictionTree

/-- The leaf that the bits lead to. -/
def victim : {depth : Nat} → EvictionTree depth → Nat
  | _, .leaf => 0
  | depth + 1, .node upper low high =>
      if upper then 2 ^ depth + high.victim else low.victim

/-- Turns the bits on the path to a leaf away from it. -/
def touch (way : Nat) : {depth : Nat} → EvictionTree depth → EvictionTree depth
  | _, .leaf => .leaf
  | depth + 1, .node _ low high =>
      if way.testBit depth then .node false low (high.touch way)
      else .node true (low.touch way) high

/-- How many bits on the path to a leaf name the half that it lies in. -/
def bitsTowards (way : Nat) : {depth : Nat} → EvictionTree depth → Nat
  | _, .leaf => 0
  | depth + 1, .node upper low high =>
      (if upper = way.testBit depth then 1 else 0) +
        (if way.testBit depth then high.bitsTowards way else low.bitsTowards way)

/-- The tree after its victim was accessed. -/
def evict {depth : Nat} (tree : EvictionTree depth) : EvictionTree depth :=
  tree.touch tree.victim

/-- The victims of so many rounds. -/
def evictions {depth : Nat} : Nat → EvictionTree depth → List Nat
  | 0, _ => []
  | rounds + 1, tree => tree.victim :: evictions rounds tree.evict

variable {depth : Nat}

theorem victim_lt (tree : EvictionTree depth) : tree.victim < 2 ^ depth := by
  induction tree with
  | leaf => exact Nat.one_pos
  | node upper low high lowBelow highBelow =>
      rw [victim, Nat.pow_succ]
      split
      · omega
      · omega

/-! ## Leaves that were accessed -/

theorem bitsTowards_touch_self (way : Nat) (tree : EvictionTree depth) :
    (tree.touch way).bitsTowards way = 0 := by
  induction tree with
  | leaf => rfl
  | @node depth upper low high lowTurned highTurned =>
      cases side : way.testBit depth with
      | true => simp [touch, bitsTowards, side, highTurned]
      | false => simp [touch, bitsTowards, side, lowTurned]

/-- Two leaves part at one node: an access to the one turns that bit towards the other, and
the bits above it away from both. -/
theorem bitsTowards_touch_le (way other : Nat) (tree : EvictionTree depth) :
    (tree.touch other).bitsTowards way ≤ tree.bitsTowards way + 1 := by
  induction tree with
  | leaf => exact Nat.zero_le _
  | @node depth upper low high lowTurned highTurned =>
      cases side : way.testBit depth <;> cases otherSide : other.testBit depth
      all_goals
        simp only [touch, bitsTowards, side, otherSide, if_true, if_false, Bool.false_eq_true,
          Bool.true_eq_false]
        omega

/-- Only the bits of a number below the depth of a tree name the path to its leaf. -/
private theorem bitsTowards_congr
    {way other : Nat} (tree : EvictionTree depth)
    (same : ∀ bit < depth, way.testBit bit = other.testBit bit) :
    tree.bitsTowards way = tree.bitsTowards other := by
  induction tree with
  | leaf => rfl
  | @node depth upper low high lowSame highSame =>
      have below (bit : Nat) (inside : bit < depth) : way.testBit bit = other.testBit bit :=
        same bit (Nat.lt_succ_of_lt inside)
      rw [bitsTowards, bitsTowards, same depth (Nat.lt_succ_self depth), lowSame below,
        highSame below]

private theorem touch_congr
    {way other : Nat} (tree : EvictionTree depth)
    (same : ∀ bit < depth, way.testBit bit = other.testBit bit) :
    tree.touch way = tree.touch other := by
  induction tree with
  | leaf => rfl
  | @node depth upper low high lowSame highSame =>
      have below (bit : Nat) (inside : bit < depth) : way.testBit bit = other.testBit bit :=
        same bit (Nat.lt_succ_of_lt inside)
      rw [touch, touch, same depth (Nat.lt_succ_self depth), lowSame below, highSame below]

private theorem testBit_victim (tree : EvictionTree depth) : tree.victim.testBit depth = false :=
  Nat.testBit_lt_two_pow tree.victim_lt

private theorem testBit_upper (tree : EvictionTree depth) :
    (2 ^ depth + tree.victim).testBit depth = true := by
  rw [Nat.testBit_two_pow_add_eq, testBit_victim]
  rfl

/-- All bits on the path to the victim name its half. -/
theorem bitsTowards_victim (tree : EvictionTree depth) :
    tree.bitsTowards tree.victim = depth := by
  induction tree with
  | leaf => rfl
  | @node depth upper low high lowFull highFull =>
      cases upper with
      | true =>
          have path := bitsTowards_congr high fun bit inside =>
            Nat.testBit_two_pow_add_gt inside high.victim
          simp only [victim, bitsTowards, if_true, testBit_upper, path, highFull]
          omega
      | false =>
          simp only [victim, bitsTowards, Bool.false_eq_true, if_false, testBit_victim,
            if_true, lowFull]
          omega

/-- A leaf with a bit on its path that names the other half is not the victim. -/
theorem victim_ne
    {way : Nat} {tree : EvictionTree depth} (turned : tree.bitsTowards way < depth) :
    tree.victim ≠ way := by
  intro same
  rw [← same, bitsTowards_victim] at turned
  exact Nat.lt_irrefl depth turned

/-! ## Rounds of evictions -/

/-- An eviction is one of the half that the root names, and turns the root. -/
theorem evict_node (upper : Bool) (low high : EvictionTree depth) :
    (node upper low high).evict =
      if upper then node false low high.evict else node true low.evict high := by
  unfold evict
  cases upper with
  | true =>
      have path := touch_congr high fun bit inside =>
        Nat.testBit_two_pow_add_gt inside high.victim
      simp only [victim, touch, if_true, testBit_upper, path]
  | false => simp only [victim, touch, Bool.false_eq_true, if_false, testBit_victim]

/-- In every two rounds each half has one of its own. -/
theorem evictions_node_perm
    (rounds : Nat) (upper : Bool) (low high : EvictionTree depth) :
    (evictions (2 * rounds) (node upper low high)).Perm
      (evictions rounds low ++ (evictions rounds high).map (2 ^ depth + ·)) := by
  induction rounds generalizing low high with
  | zero => exact .nil
  | succ rounds inductionHypothesis =>
      have rest := inductionHypothesis low.evict high.evict
      rw [Nat.mul_succ]
      cases upper with
      | true =>
          simp only [evictions, evict_node, victim, if_true, Bool.false_eq_true, if_false,
            List.map_cons, List.cons_append]
          refine .trans (.swap _ _ _) (.cons _ (.trans (.cons _ rest) ?_))
          exact List.perm_middle.symm
      | false =>
          simp only [evictions, evict_node, victim, if_true, Bool.false_eq_true, if_false,
            List.map_cons, List.cons_append]
          refine .cons _ (.trans (.cons _ rest) ?_)
          exact List.perm_middle.symm

/-- From any tree, as many rounds as there are leaves evict every leaf once. -/
theorem evictions_perm (tree : EvictionTree depth) :
    (evictions (2 ^ depth) tree).Perm (List.range (2 ^ depth)) := by
  induction tree with
  | leaf => exact .refl _
  | @node depth upper low high lowAll highAll =>
      have halves : 2 ^ (depth + 1) = 2 * 2 ^ depth := Nat.pow_succ'
      rw [halves]
      refine (evictions_node_perm _ upper low high).trans ?_
      rw [Nat.two_mul, List.range_add]
      exact lowAll.append (highAll.map _)

end EvictionTree

end PageWalk.Replacement
