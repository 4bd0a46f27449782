import PageWalk.Proofs.Replacement
import PageWalk.Proofs.Replacement.EvictionTree

/-!
# The tree policy

The node bits of a set, kept in heap order, are an eviction tree, and what the policy does
to them is what is done to the tree. So a way that was accessed is spared for as many
accesses as the tree has levels, and evicting way after way goes once round the set. Sets
whose nodes lie apart know nothing of each other; that is so for all sets of a policy as long
as its nodes can be counted in 32 bits.
-/

namespace PageWalk

namespace Replacement.TreePlru

variable {depth : Nat} {base number way node : UInt32}

/-! ## Numbers in heap order -/

/-- So many bits can be appended to a number. -/
def Room (depth : Nat) (number : UInt32) : Prop :=
  (number.toNat + 1) * 2 ^ depth ≤ UInt32.size

theorem Room.toNat_child (room : Room (depth + 1) number) (upper : Bool) :
    (child number upper).toNat = 2 * number.toNat + upper.toNat := by
  have some : 0 < 2 ^ depth := Nat.two_pow_pos depth
  have bit : (if upper then 1 else 0 : UInt32).toNat = upper.toNat := by cases upper <;> rfl
  have small : upper.toNat ≤ 1 := Bool.toNat_le upper
  have two : (2 : UInt32).toNat = 2 := rfl
  have narrow : 2 * (number.toNat + 1) ≤ UInt32.size := by
    refine Nat.le_trans ?_ room
    rw [Nat.pow_succ, Nat.mul_comm]
    exact Nat.mul_le_mul_left _ (by omega)
  unfold child
  rw [UInt32.toNat_add, UInt32.toNat_mul, two, bit, Nat.mod_add_mod,
    Nat.mod_eq_of_lt (by change _ < UInt32.size; omega)]
  omega

theorem Room.child (room : Room (depth + 1) number) (upper : Bool) :
    Room depth (child number upper) := by
  have small : upper.toNat ≤ 1 := Bool.toNat_le upper
  unfold Room at room ⊢
  rw [Room.toNat_child room]
  calc
    (2 * number.toNat + upper.toNat + 1) * 2 ^ depth
        ≤ (2 * number.toNat + 2) * 2 ^ depth := Nat.mul_le_mul_right _ (by omega)
    _ = (number.toNat + 1) * 2 ^ (depth + 1) := by
        rw [Nat.pow_succ']
        grind
    _ ≤ UInt32.size := room

/-- The nodes of a subtree with so many levels. -/
inductive Below : (depth : Nat) → (node inner : UInt32) → Prop
  | here {depth : Nat} {node : UInt32} : Below (depth + 1) node node
  | child {depth : Nat} {node inner : UInt32} (upper : Bool)
      (below : Below depth (TreePlru.child node upper) inner) : Below (depth + 1) node inner

theorem Below.le
    {inner : UInt32} (below : Below depth node inner) (room : Room depth node) :
    node.toNat ≤ inner.toNat := by
  induction below with
  | here => exact Nat.le_refl _
  | child upper _ inductionHypothesis =>
      have later := inductionHypothesis (room.child upper)
      rw [room.toNat_child upper] at later
      omega

theorem Below.lt
    {inner : UInt32} (below : Below depth node inner) (room : Room depth node) :
    2 * (inner.toNat + 1) ≤ (node.toNat + 1) * 2 ^ depth := by
  induction below with
  | @here depth node =>
      have some : 0 < 2 ^ depth := Nat.two_pow_pos depth
      rw [Nat.pow_succ', Nat.mul_left_comm]
      exact Nat.mul_le_mul_left 2 (Nat.le_mul_of_pos_right _ some)
  | @child depth node inner upper _ inductionHypothesis =>
      have small : upper.toNat ≤ 1 := Bool.toNat_le upper
      have later := inductionHypothesis (room.child upper)
      rw [room.toNat_child upper] at later
      calc
        2 * (inner.toNat + 1) ≤ (2 * node.toNat + upper.toNat + 1) * 2 ^ depth := later
        _ ≤ (2 * node.toNat + 2) * 2 ^ depth := Nat.mul_le_mul_right _ (by omega)
        _ = (node.toNat + 1) * 2 ^ (depth + 1) := by
            rw [Nat.pow_succ']
            grind

/-- Subtrees of two nodes of one level have no node in common. -/
theorem Below.ne
    {other inner otherInner : UInt32}
    (below : Below depth node inner) (otherBelow : Below depth other otherInner)
    (room : Room depth node) (otherRoom : Room depth other)
    (different : node.toNat ≠ other.toNat)
    (left : node.toNat < 2 * other.toNat) (right : other.toNat < 2 * node.toNat) :
    inner ≠ otherInner := by
  induction below generalizing other with
  | here =>
      cases otherBelow with
      | here => exact fun same => different (congrArg UInt32.toNat same)
      | child otherUpper otherBelow =>
          have later := otherBelow.le (otherRoom.child otherUpper)
          rw [otherRoom.toNat_child otherUpper] at later
          intro same
          rw [← same] at later
          omega
  | child upper below inductionHypothesis =>
      cases otherBelow with
      | here =>
          have later := below.le (room.child upper)
          rw [room.toNat_child upper] at later
          intro same
          rw [same] at later
          omega
      | child otherUpper otherBelow =>
          have small : upper.toNat ≤ 1 := Bool.toNat_le upper
          have otherSmall : otherUpper.toNat ≤ 1 := Bool.toNat_le otherUpper
          refine inductionHypothesis otherBelow (room.child upper)
            (otherRoom.child otherUpper) ?_ ?_ ?_
          all_goals
            rw [room.toNat_child upper, otherRoom.toNat_child otherUpper]
            omega

/-! ## Node bits as a tree -/

/-- The tree of the bits from a node on. -/
def subtree (tree : TreePlru) (base : UInt32) :
    (depth : Nat) → (node : UInt32) → EvictionTree depth
  | 0, _ => .leaf
  | depth + 1, node =>
      .node (tree.bit (base + node)) (tree.subtree base depth (child node false))
        (tree.subtree base depth (child node true))

theorem bit_insert (tree : TreePlru) (position other : UInt32) (upper : Bool) :
    TreePlru.bit { nodes := tree.nodes.insert position upper } other =
      if position = other then upper else tree.bit other := by
  unfold bit
  rw [Std.TreeMap.getD_insert]
  simp only [Std.compare_eq_iff_eq]

/-- Only the nodes of a subtree are touched. -/
theorem bit_touchFrom
    {tree : TreePlru} {position : UInt32}
    (apart : ∀ inner, Below depth node inner → base + inner ≠ position) :
    (touchFrom base way depth node tree).bit position = tree.bit position := by
  induction depth generalizing node tree with
  | zero => rfl
  | succ depth inductionHypothesis =>
      unfold touchFrom
      dsimp only
      rw [inductionHypothesis fun inner below => apart inner (.child _ below), bit_insert,
        if_neg (apart node .here)]

theorem subtree_congr
    {tree other : TreePlru}
    (same : ∀ inner, Below depth node inner →
      tree.bit (base + inner) = other.bit (base + inner)) :
    tree.subtree base depth node = other.subtree base depth node := by
  induction depth generalizing node with
  | zero => rfl
  | succ depth inductionHypothesis =>
      unfold subtree
      rw [same node .here, inductionHypothesis fun inner below => same inner (.child _ below),
        inductionHypothesis fun inner below => same inner (.child _ below)]

theorem toNat_descendFrom
    (tree : TreePlru) (base node : UInt32) (room : Room depth way) :
    (tree.descendFrom base depth node way).toNat =
      way.toNat * 2 ^ depth + (tree.subtree base depth node).victim := by
  induction depth generalizing node way with
  | zero => simp [descendFrom, subtree, EvictionTree.victim]
  | succ depth inductionHypothesis =>
      unfold descendFrom subtree
      dsimp only
      rw [inductionHypothesis _ (room.child _), room.toNat_child, Nat.pow_succ',
        EvictionTree.victim]
      cases tree.bit (base + node) with
      | true =>
          simp only [Bool.toNat_true, if_true]
          grind
      | false =>
          simp only [Bool.toNat_false, Bool.false_eq_true, if_false]
          grind

private theorem turn_eq_testBit (way : UInt32) {depth : Nat} (narrow : depth < 32) :
    ((way >>> UInt32.ofNat depth) &&& 1 == 1) = way.toNat.testBit depth := by
  have shift : (UInt32.ofNat depth).toNat = depth :=
    UInt32.toNat_ofNat_of_lt' (Nat.lt_trans narrow (by decide))
  have number : ((way >>> UInt32.ofNat depth) &&& 1).toNat = way.toNat >>> depth % 2 := by
    rw [UInt32.toNat_and, UInt32.toNat_shiftRight, shift, Nat.mod_eq_of_lt narrow]
    exact Nat.and_one_is_mod _
  rw [Nat.testBit_eq_decide_div_mod_eq, ← Nat.shiftRight_eq_div_pow, ← number, Bool.eq_iff_iff,
    beq_iff_eq, decide_eq_true_iff]
  exact ⟨fun same => congrArg UInt32.toNat same, fun same => UInt32.toNat_inj.1 same⟩

/-- Touching the node bits touches the tree. -/
theorem subtree_touchFrom
    (tree : TreePlru) (base way : UInt32) (room : Room depth node) (inside : 0 < node.toNat) :
    (touchFrom base way depth node tree).subtree base depth node =
      (tree.subtree base depth node).touch way.toNat := by
  induction depth generalizing node tree with
  | zero => rfl
  | succ depth inductionHypothesis =>
      have narrow : depth < 32 := by
        have leaves : 2 ^ (depth + 1) ≤ 2 ^ 32 :=
          Nat.le_trans (Nat.le_mul_of_pos_left _ (Nat.succ_pos _)) room
        have bound := (Nat.pow_le_pow_iff_right (by decide : 1 < 2)).1 leaves
        omega
      have number (upper : Bool) := room.toNat_child upper
      have turn := turn_eq_testBit way narrow
      unfold touchFrom
      dsimp only
      generalize (way >>> UInt32.ofNat depth &&& 1 == 1) = upper at turn ⊢
      let turned : TreePlru := { nodes := tree.nodes.insert (base + node) !upper }
      have root : (touchFrom base way depth (child node upper) turned).bit (base + node) =
          !upper := by
        rw [bit_touchFrom, bit_insert, if_pos rfl]
        intro inner below same
        have later := below.le (room.child upper)
        rw [(UInt32.add_right_inj base).1 same, number upper] at later
        omega
      -- The bit of the node itself is no bit of its halves.
      have half (side : Bool) :
          turned.subtree base depth (child node side) =
            tree.subtree base depth (child node side) := by
        refine subtree_congr fun inner below => ?_
        rw [bit_insert, if_neg]
        intro same
        have later := below.le (room.child side)
        rw [← (UInt32.add_right_inj base).1 same, number side] at later
        omega
      have touched :
          (touchFrom base way depth (child node upper) turned).subtree base depth
              (child node upper) =
            (tree.subtree base depth (child node upper)).touch way.toNat := by
        rw [inductionHypothesis turned (room.child upper) (by rw [number]; omega), half]
      have untouched :
          (touchFrom base way depth (child node upper) turned).subtree base depth
              (child node !upper) =
            tree.subtree base depth (child node !upper) := by
        rw [← half]
        refine subtree_congr fun inner below => bit_touchFrom fun other otherBelow same => ?_
        have distinct := otherBelow.ne below (room.child upper) (room.child !upper)
        rw [number, number] at distinct
        refine distinct ?_ ?_ ?_ ((UInt32.add_right_inj base).1 same)
        all_goals
          cases upper <;> simp only [Bool.not_true, Bool.not_false, Bool.toNat_true,
            Bool.toNat_false] <;> omega
      rw [subtree, subtree, EvictionTree.touch, root]
      cases upper with
      | true =>
          rw [if_pos turn.symm, touched]
          exact congrArg (EvictionTree.node false · _) untouched
      | false =>
          rw [if_neg (by rw [← turn]; exact Bool.noConfusion), touched]
          exact congrArg (EvictionTree.node true _ ·) untouched

/-! ## The tree of a set -/

/-- The tree of the node bits of a set. -/
def setTree (tree : TreePlru) (ways set : UInt32) : EvictionTree (TreePlru.depth ways) :=
  tree.subtree (set * ways) (TreePlru.depth ways) 1

variable {ways set other : UInt32} {tree : TreePlru}

theorem depth_of_power (power : ways.toNat = 2 ^ depth) : TreePlru.depth ways = depth := by
  unfold TreePlru.depth floorLogTwo
  rw [UInt32.toNat_toUInt64, power, Nat.log2_two_pow]

/-- A power of two that 32 bits can hold divides the number of 32-bit values. -/
private theorem dvd_size (power : ways.toNat = 2 ^ depth) :
    depth < 32 ∧ ways.toNat ∣ UInt32.size := by
  have narrow : depth < 32 := by
    have small := ways.toNat_lt
    rw [power] at small
    exact (Nat.pow_lt_pow_iff_right (by decide)).1 small
  rw [power]
  exact ⟨narrow, Nat.pow_dvd_pow 2 (Nat.le_of_lt narrow)⟩

theorem room_of_power (power : ways.toNat = 2 ^ depth) {number : UInt32}
    (small : number.toNat ≤ 1) : Room (TreePlru.depth ways) number := by
  have narrow := (dvd_size power).1
  rw [depth_of_power power]
  calc
    (number.toNat + 1) * 2 ^ depth ≤ 2 * 2 ^ depth := Nat.mul_le_mul_right _ (by omega)
    _ = 2 ^ (depth + 1) := Nat.pow_succ'.symm
    _ ≤ UInt32.size := Nat.pow_le_pow_right (by decide) narrow

theorem toNat_victim (power : ways.toNat = 2 ^ depth) (tree : TreePlru) (set : UInt32) :
    (tree.victim ways set).toNat = (tree.setTree ways set).victim := by
  have zero : (0 : UInt32).toNat = 0 := rfl
  unfold victim setTree
  rw [toNat_descendFrom tree _ _ (room_of_power power (by rw [zero]; omega)), zero, Nat.zero_mul,
    Nat.zero_add]

theorem setTree_access
    (power : ways.toNat = 2 ^ depth) (tree : TreePlru) (set way : UInt32) :
    (tree.access ways set way).setTree ways set =
      (tree.setTree ways set).touch way.toNat :=
  subtree_touchFrom tree _ way (room_of_power power (Nat.le_refl 1)) Nat.one_pos

/-- The nodes of a set fill a row of the node bits. -/
private theorem exists_row (power : ways.toNat = 2 ^ depth) (set : UInt32) :
    ∃ row, (set * ways).toNat = ways.toNat * row ∧
      ways.toNat * row + ways.toNat ≤ UInt32.size := by
  obtain ⟨rows, size⟩ := (dvd_size power).2
  have divides : ways.toNat ∣ (set * ways).toNat := by
    rw [UInt32.toNat_mul]
    exact (Nat.dvd_mod_iff ⟨rows, size⟩).2 (Nat.dvd_mul_left _ _)
  obtain ⟨row, base⟩ := divides
  refine ⟨row, base, ?_⟩
  have inside : ways.toNat * row < ways.toNat * rows := by
    rw [← base, ← size]
    exact UInt32.toNat_lt _
  rw [size, ← Nat.mul_succ]
  exact Nat.mul_le_mul_left _ (Nat.lt_of_mul_lt_mul_left inside)

private theorem row_of_node
    (power : ways.toNat = 2 ^ depth) {row : Nat} (base : (set * ways).toNat = ways.toNat * row)
    (room : ways.toNat * row + ways.toNat ≤ UInt32.size) {inner : UInt32}
    (below : Below (TreePlru.depth ways) 1 inner) :
    (set * ways + inner).toNat / ways.toNat = row := by
  have one : (1 : UInt32).toNat = 1 := rfl
  have last := below.lt (room_of_power power (Nat.le_refl 1))
  rw [depth_of_power power, ← power, one] at last
  rw [UInt32.toNat_add, base, Nat.mod_eq_of_lt (by change _ < UInt32.size; omega),
    Nat.mul_add_div (by omega), Nat.div_eq_of_lt (by omega), Nat.add_zero]

/-- An access leaves the sets alone whose nodes lie elsewhere. -/
theorem setTree_access_of_ne
    (power : ways.toNat = 2 ^ depth) (tree : TreePlru) (way : UInt32)
    (apart : other * ways ≠ set * ways) :
    (tree.access ways other way).setTree ways set = tree.setTree ways set := by
  obtain ⟨row, base, room⟩ := exists_row power set
  obtain ⟨otherRow, otherBase, otherRoom⟩ := exists_row power other
  refine subtree_congr fun inner below => bit_touchFrom fun otherInner otherBelow same => ?_
  have rows : otherRow = row := by
    rw [← row_of_node power otherBase otherRoom otherBelow, same,
      row_of_node power base room below]
  exact apart (UInt32.toNat_inj.1 (by rw [otherBase, base, rows]))

/-- As long as the nodes can be counted in 32 bits, those of two sets lie apart. -/
theorem apart_of_counted
    {sets : UInt32} (counted : sets.toNat * ways.toNat ≤ UInt32.size) (positive : 0 < ways.toNat)
    (inside : set < sets) (otherInside : other < sets) (different : other ≠ set) :
    other * ways ≠ set * ways := by
  have product (set : UInt32) (inside : set < sets) :
      (set * ways).toNat = set.toNat * ways.toNat := by
    have below : set.toNat * ways.toNat < sets.toNat * ways.toNat :=
      Nat.mul_lt_mul_of_pos_right (UInt32.lt_iff_toNat_lt.1 inside) positive
    rw [UInt32.toNat_mul, Nat.mod_eq_of_lt (Nat.lt_of_lt_of_le below counted)]
  intro same
  have products := congrArg UInt32.toNat same
  rw [product other otherInside, product set inside] at products
  exact different (UInt32.toNat_inj.1 (Nat.eq_of_mul_eq_mul_right positive products))

end Replacement.TreePlru

open Replacement

namespace ReplacementPolicy

/-! ## Runs of the policy -/

/-- The ways of a set that so many evictions return. -/
def evictions (set : UInt32) : Nat → ReplacementPolicy → List UInt32
  | 0, _ => []
  | rounds + 1, policy => (policy.evict set).1 :: evictions set rounds (policy.evict set).2

variable {ways : UInt32} {depth : Nat}

/-- Accesses turn at most one bit each back to a way. -/
theorem bitsTowards_accessAll
    (power : ways.toNat = 2 ^ depth) (sets set way : UInt32)
    (accesses : List (UInt32 × UInt32)) (tree : TreePlru) :
    ∃ after, accessAll ⟨sets, ways, .treePlru tree⟩ accesses = ⟨sets, ways, .treePlru after⟩ ∧
      (after.setTree ways set).bitsTowards way.toNat ≤
        (tree.setTree ways set).bitsTowards way.toNat + accesses.length := by
  induction accesses generalizing tree with
  | nil => exact ⟨tree, rfl, Nat.le_refl _⟩
  | cons access later inductionHypothesis =>
      obtain ⟨other, otherWay⟩ := access
      obtain ⟨after, reached, bits⟩ := inductionHypothesis (tree.access ways other otherWay)
      refine ⟨after, reached, Nat.le_trans bits ?_⟩
      rw [List.length_cons]
      by_cases here : other * ways = set * ways
      · have same : tree.access ways other otherWay = tree.access ways set otherWay := by
          unfold TreePlru.access
          rw [here]
        have turned := (tree.setTree ways set).bitsTowards_touch_le way.toNat otherWay.toNat
        rw [same, TreePlru.setTree_access power]
        omega
      · rw [TreePlru.setTree_access_of_ne power tree otherWay here]
        omega

/-- Accesses to sets whose nodes lie elsewhere leave a set as it is. -/
theorem setTree_accessAll_of_ne
    (power : ways.toNat = 2 ^ depth) (sets : UInt32) {set : UInt32}
    {accesses : List (UInt32 × UInt32)}
    (apart : ∀ access ∈ accesses, access.1 * ways ≠ set * ways) (tree : TreePlru) :
    ∃ after, accessAll ⟨sets, ways, .treePlru tree⟩ accesses = ⟨sets, ways, .treePlru after⟩ ∧
      after.setTree ways set = tree.setTree ways set := by
  induction accesses generalizing tree with
  | nil => exact ⟨tree, rfl, rfl⟩
  | cons access later inductionHypothesis =>
      obtain ⟨after, reached, same⟩ := inductionHypothesis
        (fun other member => apart other (List.mem_cons_of_mem _ member))
        (tree.access ways access.1 access.2)
      refine ⟨after, reached, same.trans ?_⟩
      exact TreePlru.setTree_access_of_ne power tree access.2 (apart access List.mem_cons_self)

/-- Evictions from a set are evictions from its tree. -/
theorem evictions_treePlru
    (power : ways.toNat = 2 ^ depth) (sets set : UInt32) (rounds : Nat) (tree : TreePlru) :
    (evictions set rounds ⟨sets, ways, .treePlru tree⟩).map UInt32.toNat =
      (tree.setTree ways set).evictions rounds := by
  induction rounds generalizing tree with
  | zero => rfl
  | succ rounds inductionHypothesis =>
      have later := inductionHypothesis (tree.access ways set (tree.victim ways set))
      rw [TreePlru.setTree_access power, TreePlru.toNat_victim power] at later
      rw [EvictionTree.evictions, ← TreePlru.toNat_victim power]
      exact congrArg _ later

/-- Whatever the node bits of a tree policy are, a way that was accessed is not the victim
of its set until there were as many further accesses, to whatever sets, as the tree has
levels. Accesses to sets whose nodes lie apart from those of a set do not change its victim;
all sets lie apart if the nodes can be counted in 32 bits, and sets that do not lie apart
are one and the same to the policy. -/
theorem victims_of_accesses
    (power : ways.toNat = 2 ^ depth) (tree : TreePlru) (sets set : UInt32) :
    let policy : ReplacementPolicy := ⟨sets, ways, .treePlru tree⟩
    (∀ way later, later.length < depth →
      (((policy.access set way).accessAll later).victim set).1 ≠ way) ∧
    (∀ accesses, (∀ access ∈ accesses, access.1 * ways ≠ set * ways) →
      ((policy.accessAll accesses).victim set).1 = (policy.victim set).1) ∧
    (sets.toNat * ways.toNat ≤ UInt32.size → set < sets →
      ∀ accesses, (∀ access ∈ accesses, access.1 < sets ∧ access.1 ≠ set) →
        ((policy.accessAll accesses).victim set).1 = (policy.victim set).1) ∧
    ∀ other, other * ways = set * ways →
      policy.victim other = policy.victim set ∧
        ∀ way, policy.access other way = policy.access set way := by
  intro policy
  have elsewhere (accesses : List (UInt32 × UInt32))
      (apart : ∀ access ∈ accesses, access.1 * ways ≠ set * ways) :
      ((policy.accessAll accesses).victim set).1 = (policy.victim set).1 := by
    obtain ⟨after, reached, same⟩ := setTree_accessAll_of_ne power sets apart tree
    rw [reached]
    apply UInt32.toNat_inj.1
    calc
      (after.victim ways set).toNat = (after.setTree ways set).victim :=
        TreePlru.toNat_victim power after set
      _ = (tree.setTree ways set).victim := by rw [same]
      _ = (tree.victim ways set).toNat := (TreePlru.toNat_victim power tree set).symm
  refine ⟨fun way later few => ?_, elsewhere, fun counted inside accesses others => ?_,
    fun other same => ?_⟩
  · obtain ⟨after, reached, bits⟩ :=
      bitsTowards_accessAll power sets set way later
        (tree.access ways set way)
    rw [TreePlru.setTree_access power, EvictionTree.bitsTowards_touch_self, Nat.zero_add] at bits
    have levels : later.length < TreePlru.depth ways := by
      rw [TreePlru.depth_of_power power]
      exact few
    intro same
    change ((accessAll ⟨sets, ways, .treePlru (tree.access ways set way)⟩ later).victim set).1 =
      way at same
    rw [reached] at same
    refine EvictionTree.victim_ne (Nat.lt_of_le_of_lt bits levels) ?_
    rw [← TreePlru.toNat_victim power]
    exact congrArg UInt32.toNat same
  · have positive : 0 < ways.toNat := by
      rw [power]
      exact Nat.two_pow_pos depth
    refine elsewhere accesses fun access member => ?_
    exact TreePlru.apart_of_counted counted positive inside (others access member).1
      (others access member).2
  · constructor
    · change (tree.victim ways other, policy) = (tree.victim ways set, policy)
      unfold TreePlru.victim
      rw [same]
    · intro way
      change (⟨sets, ways, .treePlru (tree.access ways other way)⟩ : ReplacementPolicy) =
        ⟨sets, ways, .treePlru (tree.access ways set way)⟩
      unfold TreePlru.access
      rw [same]

/-- A way of eight that was accessed, and two more accesses, one of them to another set. -/
theorem victims_of_small_accesses :
    let policy : ReplacementPolicy := ⟨2, 8, .treePlru {}⟩
    let later : List (UInt32 × UInt32) := [(0, 4), (1, 0)]
    (8 : UInt32).toNat = 2 ^ 3 ∧ later.length < 3 ∧
      (((policy.access 0 0).accessAll later).victim 0).1 ≠ 0 ∧
      (∀ access ∈ [((1 : UInt32), (3 : UInt32))], access.1 < 2 ∧ access.1 ≠ 0) ∧
      ((policy.accessAll [(1, 3)]).victim 0).1 = (policy.victim 0).1 := by
  intro policy later
  have eight : (8 : UInt32).toNat = 2 ^ 3 := rfl
  have others : ∀ access ∈ [((1 : UInt32), (3 : UInt32))], access.1 < 2 ∧ access.1 ≠ 0 := by
    intro access member
    rw [List.mem_singleton.1 member]
    decide
  obtain ⟨spared, _, counted, _⟩ := victims_of_accesses eight {} 2 0
  exact ⟨eight, by decide, spared 0 later (by decide), others,
    counted (by decide) (by decide) [(1, 3)] others⟩

/-- The positions of node bits are 32 bits wide: with two ways, sets 0 and `2 ^ 31` have the
same one, and an access to the one set changes the victim of the other. -/
theorem far_sets_share_nodes :
    let policy : ReplacementPolicy := ⟨0x80000001, 2, .treePlru {}⟩
    create "plru" policy.sets policy.ways = .ok policy ∧
      (0 : UInt32) < policy.sets ∧ (0x80000000 : UInt32) < policy.sets ∧
      (policy.victim 0x80000000).1 = 0 ∧
      ((policy.access 0 0).victim 0x80000000).1 = 1 := by
  exact ⟨rfl, by decide, by decide, by decide +kernel, by decide +kernel⟩

/-- From whatever node bits, as many evictions from a set as it has ways return every way
once. -/
theorem ways_of_evictions
    (power : ways.toNat = 2 ^ depth) (tree : TreePlru) (sets set : UInt32) :
    (evictions set ways.toNat ⟨sets, ways, .treePlru tree⟩).Perm
      ((List.range ways.toNat).map UInt32.ofNat) := by
  have numbers := evictions_treePlru power sets set ways.toNat tree
  have all := (tree.setTree ways set).evictions_perm
  have leaves : ways.toNat = 2 ^ TreePlru.depth ways := by
    rw [TreePlru.depth_of_power power, power]
  rw [← leaves] at all
  have numbered : UInt32.ofNat ∘ UInt32.toNat = id := funext fun _ => UInt32.ofNat_toNat
  have back := (numbers ▸ all).map UInt32.ofNat
  rwa [List.map_map, numbered, List.map_id] at back

/-- Eight ways of two sets, after accesses to some of them. -/
theorem ways_of_small_evictions :
    let policy : ReplacementPolicy :=
      accessAll ⟨2, 8, .treePlru {}⟩ [(1, 0), (0, 5), (1, 3), (0, 5), (0, 6)]
    ∃ tree, policy = ⟨2, 8, .treePlru tree⟩ ∧ (8 : UInt32).toNat = 2 ^ 3 ∧
      (policy.evictions 0 8).map UInt32.toNat = [0, 4, 2, 7, 1, 5, 3, 6] ∧
      (policy.evictions 0 8).Perm ((List.range 8).map UInt32.ofNat) := by
  intro policy
  have eight : (8 : UInt32).toNat = 2 ^ 3 := rfl
  obtain ⟨tree, same⟩ : ∃ tree, policy = ⟨2, 8, .treePlru tree⟩ := ⟨_, rfl⟩
  refine ⟨tree, same, eight, by decide +kernel, ?_⟩
  rw [same]
  exact ways_of_evictions eight tree 2 0

end ReplacementPolicy

end PageWalk
