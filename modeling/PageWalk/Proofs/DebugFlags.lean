import PageWalk.Logger

/-!
# Flags that a list asks for

A comma-separated list asks for flags by name, of two flags with one name for the first,
and by `All` for every flag. Flags stay in their places under their names, so no piece
changes what another one asks for: to switch the pieces on one after the other comes to the
same as to switch on at once every flag that one of them asks for.
-/

namespace PageWalk.DebugFlags

/-- The pieces of a comma-separated list. -/
def namesIn (list : String) : List String :=
  (list.toList.splitOn ',').map String.ofList

/-- Pieces ask for a flag that was registered behind the `earlier` ones. -/
def AskFor (pieces : List String) (earlier : List DebugFlag) (flag : DebugFlag) : Prop :=
  "All" ∈ pieces ∨
    flag.name ∈ pieces ∧ flag.name ≠ "" ∧ ∀ other ∈ earlier, other.name ≠ flag.name

/-- A piece names a flag that none of the registered ones is. -/
def IsUnknown (registry : DebugFlags) (piece : String) : Prop :=
  piece ≠ "" ∧ piece ≠ "All" ∧ ∀ flag ∈ registry.flags, flag.name ≠ piece

instance (registry : DebugFlags) (piece : String) : Decidable (registry.IsUnknown piece) :=
  inferInstanceAs (Decidable (_ ∧ _ ∧ _))

/-- Whether a piece asks for the flag at a position. -/
def asksAt (names : List String) (piece : String) (position : Nat) : Bool :=
  if piece = "" then false
  else if piece = "All" then true
  else names.idxOf piece == position

/-- The flags, with those switched on whose positions are asked for. -/
def switchOn (asked : Nat → Bool) (flags : List DebugFlag) : List DebugFlag :=
  flags.mapIdx fun position flag => { flag with enabled := flag.enabled || asked position }

theorem pieces_eq_splitOn (list : List Char) : pieces list = list.splitOn ',' := by
  induction list with
  | nil => rfl
  | cons char rest inductionHypothesis =>
      rw [pieces, List.splitOn_cons_eq_if_modifyHead, inductionHypothesis]
      by_cases comma : char = ','
      · simp [comma]
      · cases split : rest.splitOn ',' with
        | nil => exact absurd split (List.splitOn_ne_nil ',' rest)
        | cons piece others => simp [comma]

/-! ## One piece -/

theorem getElem?_switchOn (asked : Nat → Bool) (flags : List DebugFlag) (position : Nat) :
    (switchOn asked flags)[position]? =
      flags[position]?.map fun flag =>
        { flag with enabled := flag.enabled || asked position } :=
  List.getElem?_mapIdx

theorem length_switchOn (asked : Nat → Bool) (flags : List DebugFlag) :
    (switchOn asked flags).length = flags.length :=
  List.length_mapIdx

@[simp]
theorem names_switchOn (asked : Nat → Bool) (flags : List DebugFlag) :
    (switchOn asked flags).map (·.name) = flags.map (·.name) := by
  apply List.ext_getElem?
  intro position
  simp [getElem?_switchOn, Function.comp_def]

theorem switchOn_of_none
    {asked : Nat → Bool} {flags : List DebugFlag}
    (none : ∀ position < flags.length, asked position = false) :
    switchOn asked flags = flags := by
  apply List.ext_getElem?
  intro position
  rw [getElem?_switchOn]
  cases found : flags[position]? with
  | none => rfl
  | some flag =>
      obtain ⟨inside, -⟩ := List.getElem?_eq_some_iff.1 found
      simp [none position inside]

theorem switchOn_switchOn (first second : Nat → Bool) (flags : List DebugFlag) :
    switchOn second (switchOn first flags) =
      switchOn (fun position => first position || second position) flags := by
  apply List.ext_getElem?
  intro position
  simp [getElem?_switchOn, Function.comp_def, Bool.or_assoc]

theorem switchAll_eq_switchOn (registry : DebugFlags) :
    registry.switchAll true = ⟨switchOn (fun _ => true) registry.flags⟩ := by
  unfold switchAll
  congr 1
  apply List.ext_getElem?
  intro position
  simp [getElem?_switchOn]

theorem switchFirst_eq_switchOn (name : String) (flags : List DebugFlag) :
    switchFirst name true flags =
      switchOn (fun position => (flags.map (·.name)).idxOf name == position) flags := by
  induction flags with
  | nil => rfl
  | cons flag flags inductionHypothesis =>
      unfold switchFirst
      by_cases same : flag.name = name
      · have others : switchOn (fun position => 0 == position + 1) flags = flags :=
          switchOn_of_none fun _ _ => rfl
        simpa [switchOn, same, List.idxOf_cons] using others.symm
      · have differs : (flag.name == name) = false := beq_eq_false_iff_ne.2 same
        simpa [switchOn, differs, List.idxOf_cons] using inductionHypothesis

/-- A piece switches on what it asks for. -/
theorem enablePiece_eq (registry : DebugFlags) (piece : String) :
    registry.enablePiece piece =
      (⟨switchOn (asksAt (registry.flags.map (·.name)) piece) registry.flags⟩,
        if registry.IsUnknown piece then some piece else none) := by
  unfold enablePiece
  by_cases empty : piece = ""
  · have nothing : switchOn (asksAt (registry.flags.map (·.name)) "") registry.flags =
        registry.flags := switchOn_of_none fun _ _ => rfl
    simp [empty, nothing, IsUnknown]
  by_cases all : piece = "All"
  · have everything : asksAt (registry.flags.map (·.name)) "All" = fun _ => true := rfl
    simp [all, switchAll_eq_switchOn, everything, IsUnknown]
  have first : asksAt (registry.flags.map (·.name)) piece =
      fun position => (registry.flags.map (·.name)).idxOf piece == position := by
    funext position
    simp [asksAt, empty, all]
  rw [if_neg empty, if_neg all, first, change?]
  cases found : registry.find? piece with
  | some flag =>
      have known : ¬ registry.IsUnknown piece := fun unknown =>
        unknown.2.2 flag (List.mem_of_find?_eq_some found) (by simpa using List.find?_some found)
      simp [switchFirst_eq_switchOn, known]
  | none =>
      have absent : ∀ flag ∈ registry.flags, flag.name ≠ piece := by
        simpa [find?] using found
      have unknown : registry.IsUnknown piece := ⟨empty, all, absent⟩
      have nothing : switchOn
          (fun position => (registry.flags.map (·.name)).idxOf piece == position)
          registry.flags = registry.flags := by
        refine switchOn_of_none fun position inside => ?_
        have missing : piece ∉ registry.flags.map (·.name) := by
          simpa using absent
        rw [List.idxOf_eq_length missing, List.length_map]
        exact beq_eq_false_iff_ne.2 (Nat.ne_of_gt inside)
      simp [nothing, unknown]

/-! ## All pieces of a list -/

theorem isUnknown_switchOn (registry : DebugFlags) (asked : Nat → Bool) (piece : String) :
    (⟨switchOn asked registry.flags⟩ : DebugFlags).IsUnknown piece ↔
      registry.IsUnknown piece := by
  have absent (flags : List DebugFlag) :
      (∀ flag ∈ flags, flag.name ≠ piece) ↔ piece ∉ flags.map (·.name) := by
    simp
  simp only [IsUnknown, absent, names_switchOn]

/-- Pieces switch on what any of them asks for, and those that no flag has come back. -/
theorem enablePieces_eq (registry : DebugFlags) (pieces : List String) :
    registry.enablePieces pieces =
      (⟨switchOn (fun position => pieces.any (asksAt (registry.flags.map (·.name)) · position))
          registry.flags⟩,
        pieces.filter fun piece => registry.IsUnknown piece) := by
  induction pieces generalizing registry with
  | nil =>
      have nothing : switchOn (fun _ => false) registry.flags = registry.flags :=
        switchOn_of_none fun _ _ => rfl
      simp [enablePieces, nothing]
  | cons piece others inductionHypothesis =>
      simp only [enablePieces, enablePiece_eq, inductionHypothesis, names_switchOn,
        switchOn_switchOn, isUnknown_switchOn, List.any_cons, List.filter_cons,
        decide_eq_true_eq]
      split
      · rfl
      · rfl

/-- The flag behind the `earlier` ones is the first of its name if none of them has it. -/
theorem idxOf_names_eq_iff (earlier later : List DebugFlag) (flag : DebugFlag) (name : String) :
    ((earlier ++ flag :: later).map (·.name)).idxOf name = earlier.length ↔
      name = flag.name ∧ ∀ other ∈ earlier, other.name ≠ name := by
  induction earlier with
  | nil =>
      by_cases same : flag.name = name
      · simp [same]
      · have differs : (flag.name == name) = false := beq_eq_false_iff_ne.2 same
        simp [List.idxOf_cons, differs, Ne.symm same]
  | cons other earlier inductionHypothesis =>
      by_cases same : other.name = name
      · simp [same]
      · have differs : (other.name == name) = false := beq_eq_false_iff_ne.2 same
        simpa [List.idxOf_cons, same, differs] using inductionHypothesis

theorem asksAt_iff
    (earlier later : List DebugFlag) (flag : DebugFlag) (piece : String) :
    asksAt ((earlier ++ flag :: later).map (·.name)) piece earlier.length = true ↔
      piece = "All" ∨
        piece = flag.name ∧ flag.name ≠ "" ∧ ∀ other ∈ earlier, other.name ≠ flag.name := by
  unfold asksAt
  split
  case isTrue empty =>
    refine iff_of_false Bool.false_ne_true ?_
    rintro (all | ⟨named, nonempty, _⟩)
    · exact absurd (empty.symm.trans all) (by decide)
    · exact nonempty (named.symm.trans empty)
  split
  case isTrue all => simp [all]
  case isFalse named all =>
    rw [beq_iff_eq, idxOf_names_eq_iff]
    constructor
    · rintro ⟨rfl, first⟩
      exact Or.inr ⟨rfl, named, first⟩
    · rintro (same | ⟨rfl, _, first⟩)
      · exact absurd same all
      · exact ⟨rfl, first⟩

theorem any_asksAt_iff
    (earlier later : List DebugFlag) (flag : DebugFlag) (pieces : List String) :
    pieces.any (asksAt ((earlier ++ flag :: later).map (·.name)) · earlier.length) = true ↔
      AskFor pieces earlier flag := by
  simp only [List.any_eq_true, asksAt_iff]
  constructor
  · rintro ⟨_, listed, rfl | ⟨rfl, first⟩⟩
    · exact Or.inl listed
    · exact Or.inr ⟨listed, first⟩
  · rintro (listed | ⟨listed, first⟩)
    · exact ⟨"All", listed, Or.inl rfl⟩
    · exact ⟨flag.name, listed, Or.inr ⟨rfl, first⟩⟩

theorem enableWarned_eq (registry : DebugFlags) (list : String) :
    registry.enableWarned list =
      (⟨switchOn
          (fun position => (namesIn list).any (asksAt (registry.flags.map (·.name)) · position))
          registry.flags⟩,
        String.join
          (((namesIn list).filter fun piece => registry.IsUnknown piece).map unknownFlagText)) := by
  simp only [enableWarned, enable, pieces_eq_splitOn, enablePieces_eq, namesIn]

/-- After a list was switched on, the flags stand in their places, and a flag is enabled just
if it was before or the list asks for it. The log warns of every piece that names no flag, in
order. So lists with the same pieces leave the same flags, and a list that is switched on
again changes none. -/
theorem enabled_of_enableWarned (registry : DebugFlags) (list : String) :
    let after := (registry.enableWarned list).1
    after.flags.length = registry.flags.length ∧
      (∀ earlier flag later, registry.flags = earlier ++ flag :: later →
        ∃ enabled, after.flags[earlier.length]? = some { flag with enabled := enabled } ∧
          (enabled = true ↔ flag.enabled = true ∨ AskFor (namesIn list) earlier flag)) ∧
      (registry.enableWarned list).2 = String.join
        (((namesIn list).filter fun piece => registry.IsUnknown piece).map unknownFlagText) ∧
      (∀ other, (∀ piece, piece ∈ namesIn other ↔ piece ∈ namesIn list) →
        (registry.enableWarned other).1 = after) ∧
      (after.enableWarned list).1 = after := by
  intro after
  have switched : after = _ := congrArg Prod.fst (enableWarned_eq registry list)
  refine ⟨?_, ?_, ?_, ?_, ?_⟩
  · rw [switched]
    exact length_switchOn _ _
  · intro earlier flag later registered
    have found : registry.flags[earlier.length]? = some flag := by simp [registered]
    rw [switched, getElem?_switchOn, found]
    refine ⟨_, rfl, ?_⟩
    rw [Bool.or_eq_true, registered, any_asksAt_iff]
  · rw [enableWarned_eq]
  · intro other same
    have asked (position : Nat) :
        (namesIn other).any (asksAt (registry.flags.map (·.name)) · position) =
          (namesIn list).any (asksAt (registry.flags.map (·.name)) · position) := by
      rw [Bool.eq_iff_iff]
      simp only [List.any_eq_true, same]
    simp only [switched, enableWarned_eq, asked]
  · simp only [switched, enableWarned_eq, names_switchOn, switchOn_switchOn, Bool.or_self]

/-- Two flags have one name, a piece names none, another one is empty, and the same pieces stand
in another order. -/
theorem enabled_of_small_list :
    let registry : DebugFlags := ⟨[{ name := "PTW" }, { name := "HPTW" }, { name := "PTW" }]⟩
    let list := "Mem,PTW,,Mem"
    let other := "PTW,PTW,Mem,"
    registry.flags = [] ++ { name := "PTW" } :: [{ name := "HPTW" }, { name := "PTW" }] ∧
      (∀ piece, piece ∈ namesIn other ↔ piece ∈ namesIn list) ∧
      (registry.enableWarned list).1.flags[0]? = some { name := "PTW", enabled := true } ∧
      (registry.enableWarned list).2 =
        String.join [unknownFlagText "Mem", unknownFlagText "Mem"] ∧
      (registry.enableWarned other).1 = (registry.enableWarned list).1 := by
  intro registry list other
  obtain ⟨-, enabled, log, order, -⟩ := enabled_of_enableWarned registry list
  have pieces : namesIn list = ["Mem", "PTW", "", "Mem"] := by decide +kernel
  have otherPieces : namesIn other = ["PTW", "PTW", "Mem", ""] := by decide +kernel
  have same (piece : String) : piece ∈ namesIn other ↔ piece ∈ namesIn list := by
    simp only [pieces, otherPieces, List.mem_cons]
    grind
  have registered : registry.flags =
      [] ++ { name := "PTW" } :: [{ name := "HPTW" }, { name := "PTW" }] := rfl
  refine ⟨registered, same, ?_, ?_, order other same⟩
  · obtain ⟨on, found, asked⟩ := enabled _ _ _ registered
    have asks : AskFor (namesIn list) [] { name := "PTW" } :=
      Or.inr ⟨by simp [pieces], by decide, nofun⟩
    rw [asked.2 (Or.inr asks)] at found
    exact found
  · rw [log, pieces]
    have unknown : ["Mem", "PTW", "", "Mem"].filter (fun piece => registry.IsUnknown piece) =
        ["Mem", "Mem"] := by decide
    rw [unknown]
    rfl

end PageWalk.DebugFlags
