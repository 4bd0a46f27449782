import PageWalk.Params
import PageWalk.Protection
import PageWalk.TableBuilder

/-!
# Scenes

A scene holds what the walkers work on: parameters, a memory with page tables in it,
registers and protected ranges. Scenarios are built by changing it step by step.
-/

namespace PageWalk.Bench

structure Scene where
  params : Params
  memory : Memory
  builder : TableBuilder := {}
  registers : Registers := {}
  ranges : ProtectedRanges := {}

namespace Scene

/-- A scene with an empty memory that records its reads. -/
def create (params : Params) (nextPpn : Word) (registers : Registers) : Scene where
  params := params
  memory := { name := params.memoryName, latency := params.memoryLatency, recording := true }
  builder := { nextPpn := nextPpn }
  registers := registers

def protection (scene : Scene) : Protection :=
  scene.ranges.check

def site (scene : Scene) : TableBuilder.Site :=
  ⟨scene.memory, scene.builder⟩

def withSite (scene : Scene) (site : TableBuilder.Site) : Scene :=
  { scene with memory := site.memory, builder := site.builder }

def allocate (scene : Scene) (guestRoot : Bool) : Word × Scene :=
  let (page, builder) := scene.builder.allocate guestRoot
  (page, { scene with builder := builder })

def map (scene : Scene) (guest : Bool) (root vpn ppn : Word) (level : Nat) (flags : Word) :
    Except Fault Scene :=
  scene.withSite <$> scene.site.map guest root vpn ppn level flags

def setEntry (scene : Scene) (guest : Bool) (root vpn : Word) (level : Nat) (entry : Word) :
    Except Fault Scene :=
  scene.withSite <$> scene.site.setEntry guest root vpn level entry

def entryAddressOf (scene : Scene) (guest : Bool) (root vpn : Word) (level : Nat) : Word :=
  TableBuilder.entryAddressOf scene.memory guest root vpn level

def leafTable (scene : Scene) (root vpn : Word) : Word :=
  scene.entryAddressOf false root vpn leafLevel >>> pageOffsetBits.toUInt64

/-- Maps all table pages to themselves under a second-stage root. -/
def mapTables (scene : Scene) (root : Word) : Except Fault Scene :=
  scene.withSite <$> scene.site.mapTables root

def write (scene : Scene) (address data : Word) : Except Fault Scene :=
  (fun memory => { scene with memory := memory }) <$> scene.memory.writeWord address data

def deny (scene : Scene) (start stop : Word) : Except Fault Scene :=
  (fun ranges => { scene with ranges := ranges }) <$> scene.ranges.deny start stop

def addDevice (scene : Scene) (start stop : Word) : Except Fault Scene :=
  (fun ranges => { scene with ranges := ranges }) <$> scene.ranges.addDevice start stop

def writeRegisters (scene : Scene) (write : RegistersWrite) : Scene :=
  { scene with registers := write.apply scene.registers }

end Scene

end PageWalk.Bench
