import PageWalk.Geometry
import PageWalk.Format.Directive

/-!
# Page-table entries

An entry is one word: flags in its low byte and a 44-bit page number from bit 10
on. A valid entry that may be read or executed is a leaf; any other valid entry
points to the table of the next level.
-/

namespace PageWalk

/-- What an entry allows, and what it says about its page. -/
structure Permissions where
  dirty : Bool := false
  accessed : Bool := false
  global : Bool := false
  user : Bool := false
  execute : Bool := false
  write : Bool := false
  read : Bool := false
deriving DecidableEq, Repr, Inhabited

/-- The letters of flags that are set, a dash for any other. -/
def flagLetters (flags : List (Char × Bool)) : String :=
  String.ofList (flags.map fun (letter, set) => if set then letter else '-')

def Permissions.letters (permissions : Permissions) : String :=
  flagLetters
    [('d', permissions.dirty), ('a', permissions.accessed), ('g', permissions.global),
      ('u', permissions.user), ('x', permissions.execute), ('w', permissions.write),
      ('r', permissions.read)]

def Permissions.ofLetters (text : String) : Permissions :=
  let has (letter : Char) : Bool := text.toList.contains letter
  { dirty := has 'd'
    accessed := has 'a'
    global := has 'g'
    user := has 'u'
    execute := has 'x'
    write := has 'w'
    read := has 'r' }

structure Pte where
  raw : Word := 0
deriving DecidableEq, Repr, Inhabited

namespace Pte

def validBit : Word := 0x01
def readBit : Word := 0x02
def writeBit : Word := 0x04
def executeBit : Word := 0x08
def userBit : Word := 0x10
def globalBit : Word := 0x20
def accessedBit : Word := 0x40
def dirtyBit : Word := 0x80

/-- The flags of a leaf that may be read, written and executed. -/
def leafFlags : Word := 0xcf

/-- The entry of a page number and its flags; bits that do not fit are dropped. -/
def make (ppn flags : Word) : Pte :=
  ⟨((ppn &&& lowMask ppnBits) <<< 10) ||| (flags &&& 0xff)⟩

def has (pte : Pte) (bit : Word) : Bool :=
  (pte.raw &&& bit) != 0

def ppn (pte : Pte) : Word :=
  (pte.raw >>> 10) &&& lowMask ppnBits

def valid (pte : Pte) : Bool :=
  pte.has validBit

def global (pte : Pte) : Bool :=
  pte.has globalBit

def permissions (pte : Pte) : Permissions where
  dirty := pte.has dirtyBit
  accessed := pte.has accessedBit
  global := pte.has globalBit
  user := pte.has userBit
  execute := pte.has executeBit
  write := pte.has writeBit
  read := pte.has readBit

/-- A valid entry that may be read or executed ends the walk. -/
def isLeaf (pte : Pte) : Bool :=
  pte.valid && (pte.has readBit || pte.has executeBit)

/-- Whether finding the entry at a level is a page fault: it is invalid, it may be
written but not read, it is a pointer at the leaf level, or it is a superpage
whose page number is not aligned to its level. -/
def pageFaultAt (pte : Pte) (level : Nat) : Bool :=
  if !pte.valid then true
  else if !pte.has readBit && pte.has writeBit then true
  else if !pte.isLeaf then level == leafLevel
  else (pte.ppn &&& lowMask (levelShift level)) != 0

/-- Whether the page number lies outside an address space of `addressBits` bits. -/
def beyond (pte : Pte) (addressBits : UInt32) : Bool :=
  (pte.ppn >>> (addressBits - pageOffsetBits).toUInt64) != 0

def text (pte : Pte) : String :=
  Format.render "pte[ppn %#llx %s%s]"
    [.integer pte.ppn, .text pte.permissions.letters,
      .text (flagLetters [('v', pte.valid)])]

end Pte

end PageWalk
