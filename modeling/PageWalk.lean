import PageWalk.Bench.CacheRun
import PageWalk.Bench.Leaf
import PageWalk.Bench.Scene
import PageWalk.Bench.StageTwo
import PageWalk.Bench.Stand
import PageWalk.Bench.TlbRun
import PageWalk.Bench.Upper
import PageWalk.BoundedQueue
import PageWalk.Cache.Basic
import PageWalk.Cache.Invalidate
import PageWalk.Cache.Line
import PageWalk.Cache.Pipeline
import PageWalk.Cache.Refill
import PageWalk.CommandLine.Numeral
import PageWalk.CommandLine.Options
import PageWalk.CommandLine.Session
import PageWalk.DebugFlags
import PageWalk.Event
import PageWalk.Fault
import PageWalk.Format.Bytes
import PageWalk.Format.Decimal
import PageWalk.Format.Directive
import PageWalk.Format.Number
import PageWalk.Format.Real
import PageWalk.Geometry
import PageWalk.LeafWalker
import PageWalk.LineCode
import PageWalk.Logger
import PageWalk.Main
import PageWalk.Memory
import PageWalk.Outcome
import PageWalk.Params
import PageWalk.Proofs.Answers
import PageWalk.Proofs.Cache.Agreement
import PageWalk.Proofs.Cache.Bypass
import PageWalk.Proofs.Cache.Codes
import PageWalk.Proofs.Cache.Corruption
import PageWalk.Proofs.Cache.Examination
import PageWalk.Proofs.Cache.Facts
import PageWalk.Proofs.Cache.Fences
import PageWalk.Proofs.Cache.Flips
import PageWalk.Proofs.Cache.History
import PageWalk.Proofs.Cache.LeafRefills
import PageWalk.Proofs.Cache.Lines
import PageWalk.Proofs.Cache.Order
import PageWalk.Proofs.Cache.Origins
import PageWalk.Proofs.Cache.Placement
import PageWalk.Proofs.Cache.RefillFrame
import PageWalk.Proofs.Cache.RoundTrip
import PageWalk.Proofs.Cache.Sets
import PageWalk.Proofs.Cache.Shape
import PageWalk.Proofs.Cache.Stages
import PageWalk.Proofs.Cache.Stock
import PageWalk.Proofs.DebugFlags
import PageWalk.Proofs.Format
import PageWalk.Proofs.Geometry
import PageWalk.Proofs.Journey
import PageWalk.Proofs.LeafWalker.Accounts
import PageWalk.Proofs.LeafWalker.Blocks
import PageWalk.Proofs.LeafWalker.Entries
import PageWalk.Proofs.LeafWalker.GuestPages
import PageWalk.Proofs.LeafWalker.Links
import PageWalk.Proofs.LeafWalker.Postings
import PageWalk.Proofs.LeafWalker.Sectors
import PageWalk.Proofs.LeafWalker.Traffic
import PageWalk.Proofs.LeafWalker.Verdicts
import PageWalk.Proofs.Lockstep.Cache
import PageWalk.Proofs.Lockstep.Commands
import PageWalk.Proofs.Lockstep.Memory
import PageWalk.Proofs.Lockstep.Tlb
import PageWalk.Proofs.Lockstep.Walkers
import PageWalk.Proofs.Memory
import PageWalk.Proofs.Outcome
import PageWalk.Proofs.Replacement
import PageWalk.Proofs.Replacement.Choices
import PageWalk.Proofs.Replacement.Draws
import PageWalk.Proofs.Replacement.EvictionTree
import PageWalk.Proofs.Replacement.Lru
import PageWalk.Proofs.Replacement.TreePlru
import PageWalk.Proofs.Replay.Lookups
import PageWalk.Proofs.Replay.Schedule
import PageWalk.Proofs.RoundRobin
import PageWalk.Proofs.StageTwoWalker
import PageWalk.Proofs.TableWalk
import PageWalk.Proofs.Tables.Building
import PageWalk.Proofs.Tables.Indices
import PageWalk.Proofs.Tables.Layout
import PageWalk.Proofs.Tables.Slots
import PageWalk.Proofs.Timeouts
import PageWalk.Proofs.Tlb.Between
import PageWalk.Proofs.Tlb.Coherence
import PageWalk.Proofs.Tlb.Commands
import PageWalk.Proofs.Tlb.DoubleHits
import PageWalk.Proofs.Tlb.GuestPages
import PageWalk.Proofs.Tlb.Permission
import PageWalk.Proofs.Tlb.Phases
import PageWalk.Proofs.Tlb.Queues
import PageWalk.Proofs.Tlb.Reads
import PageWalk.Proofs.Tlb.Renewal
import PageWalk.Proofs.Tlb.Rest
import PageWalk.Proofs.Tlb.Room
import PageWalk.Proofs.Tlb.Runs
import PageWalk.Proofs.Tlb.Served
import PageWalk.Proofs.Tlb.Sound
import PageWalk.Proofs.Tlb.Steps
import PageWalk.Proofs.Tlb.Translations
import PageWalk.Proofs.Tlb.Turns
import PageWalk.Proofs.Tlb.Uncollected
import PageWalk.Proofs.Trace
import PageWalk.Proofs.UpperWalker
import PageWalk.Proofs.WalkerKind
import PageWalk.Proofs.Walks.Leaf
import PageWalk.Proofs.Walks.Session
import PageWalk.Proofs.Walks.StageTwo
import PageWalk.Proofs.Walks.StageTwoJourney
import PageWalk.Proofs.Walks.Upper
import PageWalk.Proofs.Walks.UpperJourney
import PageWalk.Proofs.Watchdog
import PageWalk.Protection
import PageWalk.Pte
import PageWalk.Registers
import PageWalk.Replacement.Lru
import PageWalk.Replacement.Policy
import PageWalk.Replacement.TreePlru
import PageWalk.Replacement.Twister
import PageWalk.Replay
import PageWalk.Request
import PageWalk.Result
import PageWalk.RoundRobin
import PageWalk.StageTwoWalker
import PageWalk.Statistics
import PageWalk.TableBuilder
import PageWalk.Tlb.Basic
import PageWalk.Tlb.Tick
import PageWalk.Trace.Load
import PageWalk.Trace.Message
import PageWalk.Trace.Wire
import PageWalk.UpperWalker
import PageWalk.Watchdog
import PageWalk.Word
