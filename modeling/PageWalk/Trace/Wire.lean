import PageWalk.Fault
import PageWalk.Trace.Message

/-!
# Trace files

A trace file is a magic number and then messages, each behind its length. A message is
a list of numbered fields: a field is a number or bytes, and the bytes of a nested
message are fields again. Numbers are written seven bits to a byte, the lowest first.
Of two fields with one number the later counts, nested messages are put together, and
fields that no message has are passed over.
-/

namespace PageWalk.Trace.Wire

inductive Content
  | number (word : Word)
  | bytes (bytes : List UInt8)
  /-- A number of fixed width, which no message uses. -/
  | other
deriving DecidableEq, Repr

structure Field where
  number : Nat
  content : Content
deriving DecidableEq, Repr

/-! ## Numbers and fields -/

/-- Reads a number of at most `limit` bytes and what follows it. -/
def readNumber : (limit : Nat) → List UInt8 → Option (Nat × List UInt8)
  | 0, _ => none
  | _ + 1, [] => none
  | limit + 1, byte :: rest =>
      if byte < 128 then
        some (byte.toNat, rest)
      else
        (readNumber limit rest).map fun (high, rest) => (byte.toNat % 128 + 128 * high, rest)

/-- The most bytes that a number takes. -/
def numberLimit : Nat := 10

/-- Takes `count` bytes, which have to be there. -/
def takeBytes (count : Nat) (bytes : List UInt8) : Option (List UInt8 × List UInt8) :=
  if count ≤ bytes.length then some (bytes.splitAt count) else none

/-- Reads the content of a field by the kind that its key gives. -/
def readContent (kind : Nat) (bytes : List UInt8) : Option (Content × List UInt8) :=
  if kind = 0 then
    (readNumber numberLimit bytes).map fun (number, rest) =>
      (.number (UInt64.ofNat number), rest)
  else if kind = 1 then
    (takeBytes 8 bytes).map fun (_, rest) => (.other, rest)
  else if kind = 2 then do
    let (count, rest) ← readNumber numberLimit bytes
    let (content, rest) ← takeBytes count rest
    return (.bytes content, rest)
  else if kind = 5 then
    (takeBytes 4 bytes).map fun (_, rest) => (.other, rest)
  else
    none

/-- Reads at most `limit` fields, up to the end of the bytes. -/
def readFields : (limit : Nat) → List UInt8 → Option (List Field)
  | _, [] => some []
  | 0, _ :: _ => none
  | limit + 1, bytes => do
      let (key, rest) ← readNumber numberLimit bytes
      if key / 8 = 0 then
        none
      else
        let (content, rest) ← readContent (key % 8) rest
        let fields ← readFields limit rest
        return ⟨key / 8, content⟩ :: fields

/-- The fields of a message; each takes at least one byte. -/
def fieldsOf (bytes : List UInt8) : Option (List Field) :=
  readFields bytes.length bytes

def word? (fields : List Field) (number : Nat) : Option Word :=
  fields.reverse.findSome? fun field =>
    match field.content with
    | .number word => if field.number = number then some word else none
    | _ => none

def half? (fields : List Field) (number : Nat) : Option UInt32 :=
  (word? fields number).map UInt64.toUInt32

def switch? (fields : List Field) (number : Nat) : Option Bool :=
  (word? fields number).map (· != 0)

/-- All bytes of a field, in order. -/
def pieces (fields : List Field) (number : Nat) : List (List UInt8) :=
  fields.filterMap fun field =>
    match field.content with
    | .bytes bytes => if field.number = number then some bytes else none
    | _ => none

def text? (fields : List Field) (number : Nat) : Option String :=
  (pieces fields number).getLast?.bind fun bytes => String.fromUTF8? ⟨bytes.toArray⟩

/-- The fields of a nested message, those of its pieces put together. -/
def nested (fields : List Field) (number : Nat) : Option (List Field) :=
  ((pieces fields number).mapM fieldsOf).map List.flatten

/-! ## Messages -/

def paramsMessage (fields : List Field) : ParamsMessage where
  rootSize := half? fields 1
  middleSets := half? fields 2
  middleWays := half? fields 3
  sectorSets := half? fields 4
  sectorWays := half? fields 5
  superpageSize := half? fields 6
  rootPolicy := text? fields 7
  middlePolicy := text? fields 8
  sectorPolicy := text? fields 9
  superpagePolicy := text? fields 10
  code := text? fields 11
  singlePort := switch? fields 12
  leafWalkerSize := half? fields 13
  missQueueSize := half? fields 14
  addressBits := half? fields 15
  timeoutThreshold := word? fields 16
  memoryLatency := word? fields 17

def rootMessage (fields : List Field) : RootMessage where
  id := (half? fields 1).getD 0
  ppn := (word? fields 2).getD 0

def registersMessage (fields : List Field) : Option RegistersMessage := do
  let satp ← nested fields 1
  let vsatp ← nested fields 2
  let hgatp ← nested fields 3
  return {
    satp := rootMessage satp
    vsatp := rootMessage vsatp
    hgatp := rootMessage hgatp
    virtual := (switch? fields 4).getD false }

def headerMessage (fields : List Field) : Option Header := do
  let params ← nested fields 2
  let registers ← (nested fields 3).bind registersMessage
  return { name := text? fields 1, params := paramsMessage params, registers := registers }

/-- A lookup has to name its page. A mode without a meaning is passed over. -/
def lookupMessage (fields : List Field) : Option LookupMessage := do
  let vpn ← word? fields 1
  let mode := (word? (fields.filter fun field =>
    match field.content with
    | .number word => word < 4
    | _ => false) 3).getD 0
  return {
    vpn := vpn
    source := (half? fields 2).getD 0
    mode := .ofCode mode.toUInt8 }

def fenceMessage (fields : List Field) : FenceMessage where
  everyAddress := (switch? fields 1).getD true
  everyIdentifier := (switch? fields 2).getD true
  address := (word? fields 3).getD 0
  id := (half? fields 4).getD 0
  guestVirtual := (switch? fields 5).getD false
  guestPhysical := (switch? fields 6).getD false

/-- The pieces of a choice: of several nested messages that exclude each other the last
counts, with the pieces of its own right before it. -/
def choice (fields : List Field) (numbers : List Nat) : List Field :=
  let pieces := fields.reverse.filter fun field => numbers.contains field.number
  match pieces with
  | [] => []
  | last :: _ => (pieces.takeWhile fun field => field.number == last.number).reverse

/-- An operation has to name its step. -/
def operationMessage (fields : List Field) : Option Record := do
  let step ← word? fields 1
  let chosen := choice fields [2, 3, 4]
  match chosen.head?.map Field.number with
  | none => return .operation step none
  | some 2 =>
      let message ← (nested chosen 2).bind lookupMessage
      return .operation step (some (.lookup message))
  | some 3 =>
      let message ← nested chosen 3
      return .operation step (some (.fence (fenceMessage message)))
  | some _ =>
      let message ← (nested chosen 4).bind registersMessage
      return .operation step (some (.registers message))

/-- A word of memory has to have its address and its data. -/
def recordMessage (fields : List Field) : Option Record := do
  let chosen := choice fields [1, 2]
  match chosen.head?.map Field.number with
  | none => return .empty
  | some 1 =>
      let message ← nested chosen 1
      let address ← word? message 1
      let data ← word? message 2
      return .word ⟨address, data⟩
  | some _ => (nested chosen 2).bind operationMessage

/-! ## Files -/

/-- The first four bytes of a trace file. -/
def magic : List UInt8 := [0x70, 0x74, 0x77, 0x74]

/-- Splits at most `limit` messages off, each behind its length. The last one may be cut
short. -/
def splitMessages : (limit : Nat) → List UInt8 → List (List UInt8)
  | 0, _ => []
  | limit + 1, bytes =>
      match readNumber numberLimit bytes with
      | none => []
      | some (size, rest) =>
          let size := size % UInt32.size
          rest.take size :: splitMessages limit (rest.drop size)

/-- Reads a trace file: its header, if there is one, and its records. -/
def readTrace (path : String) (bytes : List UInt8) :
    Except Fault (Option Header × List Record) :=
  if bytes.length < magic.length then
    .error (.trace path .noMagic)
  else if bytes.take magic.length != magic then
    .error (.trace path .wrongMagic)
  else
    match splitMessages bytes.length (bytes.drop magic.length) with
    | [] => .ok (none, [])
    | header :: records =>
        match (fieldsOf header).bind headerMessage,
            records.mapM fun record => (fieldsOf record).bind recordMessage with
        | some header, some records => .ok (some header, records)
        | _, _ => .error (.trace path .malformed)

end PageWalk.Trace.Wire
