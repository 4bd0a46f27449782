import PageWalk.Fault

/-!
# Physical memory protection

The walkers ask about every address before they read it. A protection answers for
all addresses at once; ranges of denied and of device addresses give one.
-/

namespace PageWalk

structure Verdict where
  denied : Bool := false
  /-- The address belongs to a device, where no page table can live. -/
  device : Bool := false
deriving DecidableEq, Repr, Inhabited

/-- Whether a walker must not read the address. -/
def Verdict.accessFault (verdict : Verdict) : Bool :=
  verdict.denied || verdict.device

/-- A verdict for every address. -/
abbrev Protection := Word → Verdict

/-- The protection that lets every read pass. -/
def Protection.allowAll : Protection :=
  fun _ => {}

/-- The addresses from `start` up to, but not including, `stop`. -/
structure AddressRange where
  start : Word
  stop : Word
deriving DecidableEq, Repr, Inhabited

def AddressRange.contains (range : AddressRange) (address : Word) : Bool :=
  range.start ≤ address && address < range.stop

/-- Denied and device address ranges. -/
structure ProtectedRanges where
  denied : List AddressRange := []
  devices : List AddressRange := []
deriving DecidableEq, Repr, Inhabited

namespace ProtectedRanges

/-- Denies loads from a range, which must not be empty. -/
def deny (ranges : ProtectedRanges) (start stop : Word) : Except Fault ProtectedRanges :=
  if stop ≤ start then
    .error (.emptyDenyRange start stop)
  else
    .ok { ranges with denied := ranges.denied ++ [⟨start, stop⟩] }

/-- Gives a range, which must not be empty, to a device. -/
def addDevice (ranges : ProtectedRanges) (start stop : Word) : Except Fault ProtectedRanges :=
  if stop ≤ start then
    .error (.emptyDeviceRange start stop)
  else
    .ok { ranges with devices := ranges.devices ++ [⟨start, stop⟩] }

def check (ranges : ProtectedRanges) : Protection := fun address =>
  { denied := ranges.denied.any (·.contains address)
    device := ranges.devices.any (·.contains address) }

end ProtectedRanges

end PageWalk
