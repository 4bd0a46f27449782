import PageWalk.Fault

/-!
# Statistics

Named counters and their listing. Counters are 64 bits wide. The listing shows
them in order, names on the left and values on the right.
-/

namespace PageWalk

structure Statistic where
  name : String := ""
  description : String := ""
  flags : UInt32 := 0
  value : Word := 0
deriving DecidableEq, Repr, Inhabited

namespace Statistic

/-- The flag of a counter that is not listed while it is zero. -/
def hideZero : UInt32 := 1

def ofCount (unit name description : String) (count : Nat) : Statistic where
  name := unit ++ name
  description := description
  value := UInt64.ofNat count

/-- A counter of a unit that is only listed when it counted something. -/
def ofRare (unit name description : String) (count : Nat) : Statistic :=
  { ofCount unit name description count with flags := hideZero }

/-- Whether a counter is listed: it has a name, and it is not hidden. -/
def isListed (statistic : Statistic) : Bool :=
  statistic.name != "" && !(statistic.flags &&& hideZero != 0 && statistic.value == 0)

def line (statistic : Statistic) : String :=
  let name := Format.Layout.pad { left := true, width := 52 } (Format.bytesOf statistic.name)
  let value := Format.Layout.pad { width := 12 } (Nat.toDigits 10 statistic.value.toNat)
  Format.ofBytes (name ++ value) ++ "  # " ++ statistic.description ++ "\n"

end Statistic

namespace Statistics

def dump (statistics : List Statistic) : String :=
  "---------- Begin Simulation Statistics ----------\n" ++
    String.join ((statistics.filter Statistic.isListed).map Statistic.line) ++
    "---------- End Simulation Statistics   ----------\n"

def find? (statistics : List Statistic) (name : String) : Option Statistic :=
  statistics.find? fun statistic => statistic.name == name

/-- Changes the counter at an index, which must exist; its new value comes first. -/
def modify (statistics : List Statistic) (index : Nat) (change : Word → Word) :
    Except Fault (Word × List Statistic) :=
  match statistics[index]? with
  | none => .error .outOfRange
  | some statistic =>
      let value := change statistic.value
      .ok (value, statistics.set index { statistic with value := value })

/-- The counters without the one at an index, which must exist. -/
def remove (statistics : List Statistic) (index : Nat) : Except Fault (List Statistic) :=
  if index < statistics.length then .ok (statistics.eraseIdx index) else .error .outOfRange

def reset (statistics : List Statistic) : List Statistic :=
  statistics.map fun statistic => { statistic with value := 0 }

/-- The counters that counted something, in the order of their names. -/
def nonzero (statistics : List Statistic) : List Statistic :=
  (statistics.filter fun statistic => statistic.value != 0).mergeSort
    fun left right => left.name ≤ right.name

end Statistics

end PageWalk
