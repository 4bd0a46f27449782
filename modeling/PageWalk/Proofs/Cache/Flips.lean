import PageWalk.Proofs.Cache.Examination
import PageWalk.Proofs.LineCode

/-!
# Single changed bits of a line

The fields of a leaf are packed into one word and do not overlap as long as its page number
is one of 44 bits, as that of every entry is. So a single changed bit of a field is a single
changed bit of one word of the line, and the parity code finds it.
-/

namespace PageWalk

/-! ## Changes -/

/-- One of the flags is changed. -/
inductive Permissions.Flipped (permissions : Permissions) : Permissions → Prop
  | dirty : Flipped permissions { permissions with dirty := !permissions.dirty }
  | accessed : Flipped permissions { permissions with accessed := !permissions.accessed }
  | global : Flipped permissions { permissions with global := !permissions.global }
  | user : Flipped permissions { permissions with user := !permissions.user }
  | execute : Flipped permissions { permissions with execute := !permissions.execute }
  | write : Flipped permissions { permissions with write := !permissions.write }
  | read : Flipped permissions { permissions with read := !permissions.read }

/-- One bit of a leaf is changed. -/
inductive LeafSlot.Flipped (leaf : LeafSlot) : LeafSlot → Prop
  | ppn (bit : Nat) (inside : bit < ppnBits.toNat) :
      Flipped leaf { leaf with ppn := flipBit leaf.ppn bit }
  | permissions {changed : Permissions} (flipped : leaf.permissions.Flipped changed) :
      Flipped leaf { leaf with permissions := changed }
  | valid : Flipped leaf { leaf with valid := !leaf.valid }
  | accessFault : Flipped leaf { leaf with accessFault := !leaf.accessFault }

/-- One bit of the region or the page number of a pointer is changed, but not its code. -/
inductive PointerLine.Flipped (line : PointerLine) : PointerLine → Prop
  | region (bit : Nat) (inside : bit < 64) :
      Flipped line { line with tag := { line.tag with region := flipBit line.tag.region bit } }
  | ppn (bit : Nat) (inside : bit < 64) :
      Flipped line { line with ppn := flipBit line.ppn bit }

/-- One bit of the region or of a leaf of a sector is changed, but not its code. -/
inductive SectorLine.Flipped (line : SectorLine) : SectorLine → Prop
  | region (bit : Nat) (inside : bit < 64) :
      Flipped line { line with tag := { line.tag with region := flipBit line.tag.region bit } }
  | leaf (slot : Fin 8) {changed : LeafSlot} (flipped : line.slots[slot].Flipped changed) :
      Flipped line { line with slots := line.slots.set slot changed }

/-! ## The word of a leaf -/

/-- The page number of a leaf fits into its field. -/
def LeafSlot.Narrow (leaf : LeafSlot) : Prop :=
  leaf.ppn.toNat < 2 ^ ppnBits.toNat

/-- The page number of an entry is one of 44 bits. -/
theorem LeafSlot.narrow_ofPte (mode : Mode) (addressBits : UInt32) (pte : Pte) :
    (LeafSlot.ofPte mode addressBits pte).Narrow := by
  change ((pte.raw >>> 10) &&& lowMask ppnBits).toNat < 2 ^ ppnBits.toNat
  rw [UInt64.toNat_and]
  exact Nat.lt_of_le_of_lt Nat.and_le_right (by decide)

theorem Permissions.Flipped.flags
    {permissions changed : Permissions} (flipped : permissions.Flipped changed) :
    ∃ bit < 8, changed.flags = flipBit permissions.flags bit := by
  have each : ∀ dirty accessed global user execute write read : Bool,
      let flags := flipBit (Permissions.flags ⟨dirty, accessed, global, user, execute, write, read⟩)
      Permissions.flags ⟨!dirty, accessed, global, user, execute, write, read⟩ = flags 7 ∧
      Permissions.flags ⟨dirty, !accessed, global, user, execute, write, read⟩ = flags 6 ∧
      Permissions.flags ⟨dirty, accessed, !global, user, execute, write, read⟩ = flags 5 ∧
      Permissions.flags ⟨dirty, accessed, global, !user, execute, write, read⟩ = flags 4 ∧
      Permissions.flags ⟨dirty, accessed, global, user, !execute, write, read⟩ = flags 3 ∧
      Permissions.flags ⟨dirty, accessed, global, user, execute, !write, read⟩ = flags 2 ∧
      Permissions.flags ⟨dirty, accessed, global, user, execute, write, !read⟩ = flags 1 := by
    decide
  obtain ⟨dirty, accessed, global, user, execute, write, read⟩ := each permissions.dirty
    permissions.accessed permissions.global permissions.user permissions.execute
    permissions.write permissions.read
  cases flipped with
  | dirty => exact ⟨7, by decide, dirty⟩
  | accessed => exact ⟨6, by decide, accessed⟩
  | global => exact ⟨5, by decide, global⟩
  | user => exact ⟨4, by decide, user⟩
  | execute => exact ⟨3, by decide, execute⟩
  | write => exact ⟨2, by decide, write⟩
  | read => exact ⟨1, by decide, read⟩

private theorem testBit_shiftLeft (word shift : Word) (small : shift.toNat < 64) {bit : Nat}
    (inside : bit < 64) :
    (word <<< shift).toNat.testBit bit =
      (decide (shift.toNat ≤ bit) && word.toNat.testBit (bit - shift.toNat)) := by
  rw [UInt64.toNat_shiftLeft, Nat.mod_eq_of_lt small, Nat.testBit_mod_two_pow,
    Nat.testBit_shiftLeft, decide_eq_true inside, Bool.true_and]

private theorem testBit_indicator (condition : Bool) (bit : Nat) :
    (if condition then 1 else 0 : Word).toNat.testBit bit = (condition && decide (bit = 0)) := by
  cases condition with
  | false => exact Nat.zero_testBit bit
  | true => simpa [eq_comm] using Nat.testBit_two_pow (n := 0) (m := bit)

theorem Permissions.flags_lt (permissions : Permissions) : permissions.flags.toNat < 2 ^ 8 := by
  have each : ∀ dirty accessed global user execute write read : Bool,
      (Permissions.flags ⟨dirty, accessed, global, user, execute, write, read⟩).toNat < 2 ^ 8 := by
    decide
  exact each _ _ _ _ _ _ _

/-- The fields of the word of a leaf: its page number, its flags, whether it is valid, and
whether it is out of range. -/
theorem LeafSlot.Narrow.testBit_word {leaf : LeafSlot} (narrow : leaf.Narrow) {bit : Nat}
    (inside : bit < 64) :
    leaf.word.toNat.testBit bit =
      if bit < 44 then leaf.ppn.toNat.testBit bit
      else if bit < 62 then leaf.permissions.flags.toNat.testBit (bit - 44)
      else if bit < 63 then leaf.valid
      else leaf.accessFault := by
  have number (high : 44 ≤ bit) : leaf.ppn.toNat.testBit bit = false :=
    Nat.testBit_lt_two_pow (Nat.lt_of_lt_of_le narrow (Nat.pow_le_pow_right (by decide) high))
  have flags (high : 62 ≤ bit) : leaf.permissions.flags.toNat.testBit (bit - 44) = false :=
    Nat.testBit_lt_two_pow (Nat.lt_of_lt_of_le leaf.permissions.flags_lt
      (Nat.pow_le_pow_right (by decide) (by omega)))
  have shifts : ppnBits.toUInt64.toNat = 44 ∧ (62 : Word).toNat = 62 ∧ (63 : Word).toNat = 63 := by
    decide
  obtain ⟨ppnShift, validShift, faultShift⟩ := shifts
  unfold LeafSlot.word
  simp only [UInt64.toNat_or, Nat.testBit_or]
  rw [testBit_shiftLeft _ _ (by decide) inside, testBit_shiftLeft _ _ (by decide) inside,
    testBit_shiftLeft _ _ (by decide) inside, ppnShift, validShift, faultShift,
    testBit_indicator, testBit_indicator]
  by_cases low : bit < 44
  · have none : ¬ 44 ≤ bit ∧ ¬ 62 ≤ bit ∧ ¬ 63 ≤ bit := by omega
    simp [low, none]
  by_cases middle : bit < 62
  · have only : 44 ≤ bit ∧ ¬ 62 ≤ bit ∧ ¬ 63 ≤ bit := by omega
    simp [low, middle, only, number]
  by_cases upper : bit < 63
  · have same : bit = 62 := by omega
    subst same
    simp [number, flags]
  · have same : bit = 63 := by omega
    subst same
    simp [number, flags]

/-- A changed bit of a page number of 44 bits leaves it one of 44 bits. -/
theorem LeafSlot.Narrow.flip
    {leaf : LeafSlot} (narrow : leaf.Narrow) {bit : Nat} (inside : bit < ppnBits.toNat) :
    LeafSlot.Narrow { leaf with ppn := flipBit leaf.ppn bit } := by
  change (flipBit leaf.ppn bit).toNat < 2 ^ ppnBits.toNat
  have low : bit < 44 := inside
  refine Nat.lt_pow_two_of_testBit _ fun tested high => ?_
  rw [testBit_flipBit _ (by omega)]
  have other : bit ≠ tested := by omega
  have none : leaf.ppn.toNat.testBit tested = false :=
    Nat.testBit_lt_two_pow (Nat.lt_of_lt_of_le narrow (Nat.pow_le_pow_right (by decide) high))
  simp [none, other]

/-- One changed bit of a leaf is one changed bit of its word. -/
theorem LeafSlot.Flipped.word
    {leaf changed : LeafSlot} (flipped : leaf.Flipped changed) (narrow : leaf.Narrow) :
    ∃ bit < 64, changed.word = flipBit leaf.word bit := by
  cases flipped with
  | ppn bit inside =>
      have low : bit < 44 := inside
      refine ⟨bit, by omega, eq_flipBit_of_testBit (by omega) fun tested low => ?_⟩
      rw [(narrow.flip inside).testBit_word low, narrow.testBit_word low]
      dsimp only
      rw [testBit_flipBit _ (by omega)]
      by_cases here : tested < 44
      · simp [here]
      · have other : bit ≠ tested := by omega
        simp [here, other]
  | @permissions changed flipped =>
      obtain ⟨bit, small, flags⟩ := flipped.flags
      have same : LeafSlot.Narrow { leaf with permissions := changed } := narrow
      refine ⟨bit + 44, by omega, eq_flipBit_of_testBit (by omega) fun tested low => ?_⟩
      rw [same.testBit_word low, narrow.testBit_word low]
      dsimp only
      rw [flags, testBit_flipBit _ (by omega)]
      by_cases number : tested < 44
      · have other : bit + 44 ≠ tested := by omega
        simp [number, other]
      by_cases here : tested < 62
      · have moved : bit = tested - 44 ↔ bit + 44 = tested := by omega
        simp [number, here, moved]
      · have other : bit + 44 ≠ tested := by omega
        simp [number, here, other]
  | valid =>
      have same : LeafSlot.Narrow { leaf with valid := !leaf.valid } := narrow
      refine ⟨62, by decide, eq_flipBit_of_testBit (by decide) fun tested low => ?_⟩
      rw [same.testBit_word low, narrow.testBit_word low]
      grind
  | accessFault =>
      have same : LeafSlot.Narrow { leaf with accessFault := !leaf.accessFault } := narrow
      refine ⟨63, by decide, eq_flipBit_of_testBit (by decide) fun tested low => ?_⟩
      rw [same.testBit_word low, narrow.testBit_word low]
      grind

/-! ## Changed lines -/

/-- One changed bit of a pointer does not match its code. -/
theorem PointerLine.Flipped.hasError
    {line changed : PointerLine} (flipped : line.Flipped changed) (coded : line.Coded .parity) :
    LineCode.parity.hasError changed.words changed.code = true := by
  cases flipped with
  | region bit inside =>
      change LineCode.parity.hasError [flipBit line.tag.region bit, line.ppn] line.code = true
      rw [coded]
      exact LineCode.hasError_of_flipBit [] [line.ppn] line.tag.region inside
  | ppn bit inside =>
      change LineCode.parity.hasError [line.tag.region, flipBit line.ppn bit] line.code = true
      rw [coded]
      exact LineCode.hasError_of_flipBit [line.tag.region] [] line.ppn inside

/-- One changed bit of a sector does not match its code. -/
theorem SectorLine.Flipped.hasError
    {line changed : SectorLine} (flipped : line.Flipped changed) (coded : line.Coded .parity)
    (narrow : ∀ leaf ∈ line.slots, leaf.Narrow) :
    LineCode.parity.hasError changed.words changed.code = true := by
  cases flipped with
  | region bit inside =>
      change LineCode.parity.hasError
        (flipBit line.tag.region bit :: line.slots.toList.map LeafSlot.word) line.code = true
      rw [coded]
      exact LineCode.hasError_of_flipBit [] _ line.tag.region inside
  | @leaf slot changed flipped =>
      obtain ⟨bit, inside, word⟩ := flipped.word (narrow _ (Vector.getElem_mem slot.isLt))
      let words := line.slots.toList.map LeafSlot.word
      have long : slot.val < words.length := by simp [words]
      have kept : words = words.take slot ++ line.slots[slot].word :: words.drop (slot + 1) := by
        have here : words[slot.val] = line.slots[slot].word := by simp [words]
        rw [← here, List.getElem_cons_drop, List.take_append_drop]
      have after : (line.slots.set slot changed).toList.map LeafSlot.word =
          words.take slot ++ flipBit line.slots[slot].word bit :: words.drop (slot + 1) := by
        rw [Vector.toList_set, List.map_set, List.set_eq_take_append_cons_drop, if_pos long, word]
      change LineCode.parity.hasError
        (line.tag.region :: (line.slots.set slot changed).toList.map LeafSlot.word)
        line.code = true
      have code : line.code = LineCode.parity.encode (line.tag.region :: words) := coded
      rw [kept] at code
      rw [code, after]
      exact LineCode.hasError_of_flipBit (line.tag.region :: words.take slot) _ _ inside

/-- The parity code tells two lines of words of one length apart just if, at the positions of
some residue, they differ in an odd number of bits. So a pointer or a sector that matches its
code no longer does after one bit of it has changed. -/
theorem parity_detects :
    (∀ words others : List Word, words.length = others.length →
      (LineCode.parity.hasError others (LineCode.parity.encode words) = true ↔
        ∃ residue < 8, bitsApartAt residue words others % 2 = 1)) ∧
    (∀ line changed : PointerLine, line.Coded .parity → line.Flipped changed →
      LineCode.parity.hasError changed.words changed.code = true) ∧
    ∀ line changed : SectorLine, line.Coded .parity → (∀ leaf ∈ line.slots, leaf.Narrow) →
      line.Flipped changed → LineCode.parity.hasError changed.words changed.code = true := by
  refine ⟨?_, ?_, ?_⟩
  · intro words others long
    exact LineCode.hasError_parity_iff long
  · intro line changed coded flipped
    exact flipped.hasError coded
  · intro line changed coded narrow flipped
    exact flipped.hasError coded narrow

/-- The second of two words is changed in one bit, a sector in the write flag of a leaf that was
read from an entry, and a pointer in the top bit of its region. -/
theorem parity_detects_small :
    let leaves : Vector LeafSlot 8 :=
      (Vector.ofFn fun slot : Fin 8 => 0x1dccf + 0x400 * UInt64.ofNat slot.val).map fun word =>
        LeafSlot.ofPte .direct 36 ⟨word⟩
    let sector : SectorLine := { tag := { region := 5 }, slots := leaves }
    let sector := { sector with code := LineCode.parity.encode sector.words }
    let leaf := leaves[6]
    let flags := { leaf.permissions with write := !leaf.permissions.write }
    let changed := { sector with slots := leaves.set 6 { leaf with permissions := flags } }
    let pointer : PointerLine := { tag := { region := 5 }, ppn := 0x77 }
    let pointer := { pointer with code := LineCode.parity.encode pointer.words }
    let moved := { pointer with tag := { pointer.tag with region := flipBit 5 63 } }
    ([5, 0x100] : List Word).length = ([5, 0] : List Word).length ∧
      LineCode.parity.hasError [5, 0] (LineCode.parity.encode [5, 0x100]) = true ∧
      (sector.Coded .parity ∧ (∀ leaf ∈ sector.slots, leaf.Narrow) ∧ sector.Flipped changed ∧
        LineCode.parity.hasError changed.words changed.code = true) ∧
      pointer.Coded .parity ∧ pointer.Flipped moved ∧
      LineCode.parity.hasError moved.words moved.code = true := by
  intro leaves sector coded leaf flags changed pointer pointed moved
  have narrow : ∀ leaf ∈ coded.slots, leaf.Narrow := by
    intro leaf inside
    obtain ⟨word, -, same⟩ := Vector.mem_map.mp inside
    rw [← same]
    exact LeafSlot.narrow_ofPte .direct 36 ⟨word⟩
  have sectorCode : coded.Coded .parity := rfl
  have pointerCode : pointed.Coded .parity := rfl
  have flipped : coded.Flipped changed := .leaf 6 (.permissions .write)
  have shifted : pointed.Flipped moved := .region 63 (by decide)
  refine ⟨rfl, (parity_detects.1 [5, 0x100] [5, 0] rfl).mpr ⟨1, by decide, by decide⟩, ?_, ?_⟩
  · exact ⟨sectorCode, narrow, flipped, parity_detects.2.2 _ _ sectorCode narrow flipped⟩
  · exact ⟨pointerCode, shifted, parity_detects.2.1 _ _ pointerCode shifted⟩

end PageWalk
