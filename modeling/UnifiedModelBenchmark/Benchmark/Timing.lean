import UnifiedModelBenchmark.Infra.World
import UnifiedModelBenchmark.Mutils.Profiler

/-!
# Timing a round

What the drivers have in common: the profiler reads the clock of the world, a round is measured
between `start` and `end`, and there are two loops of rounds. An engine is a library that is not
part of the repository; what a driver asks of it is an event. A reading of the clock is an event
too, so that the events say what lies between two readings.
-/

namespace UnifiedModelBenchmark

open Infra Infra.Cxx Program

/-- Where a run stops early: at an error of `std::thread`, which ends the program, or at an index
behind the end of a vector. That is an undefined read, and nothing is known of what follows. -/
inductive Stop
  | thread (e : ThreadError)
  | undefinedRead
deriving DecidableEq, Repr

/-- The events of a driver have one for a reading of the clock. -/
class Clocked (Event : Type) where
  readClock : Event

variable {Event α : Type}

namespace MyProfiler

/-- `high_resolution_clock::now()` -/
def now [Clocked Event] : Program Stop Event Int := do
  emit Clocked.readClock
  readClock

/-- A step of `start` or `end`; only the two readings look at the clock. -/
def performOp [Clocked Event] (p : MyProfiler) (op : ProfilerOp) :
    Program Stop Event MyProfiler := do
  let now ← (if op = .readStartTime ∨ op = .readEndTime then now else pure 0)
  match p.exec now 0 op with
  | .ok p => pure p
  | .error e => stop (.thread e)

def performStart [Clocked Event] (android : Bool) (p : MyProfiler) :
    Program Stop Event MyProfiler :=
  (p.start android).foldlM performOp p

def performEnd [Clocked Event] (android : Bool) (p : MyProfiler) :
    Program Stop Event MyProfiler :=
  (p.end android).foldlM performOp p

end MyProfiler

/-- `start`, the inference, `end` and `get_time`. -/
def measured [Clocked Event] [Double α] (android : Bool) (inference : Program Stop Event Unit)
    (p : MyProfiler) : Program Stop Event (MyProfiler × α) := do
  let p ← p.performStart android
  inference
  let p ← p.performEnd android
  pure (p, p.getTime)

/-- `for (int i = 0; i < n; i++)` over a round, with `push_back` of its time. -/
def rounds (n : Int32) (round : MyProfiler → Program Stop Event (MyProfiler × α))
    (p : MyProfiler) : Program Stop Event (MyProfiler × List α) :=
  (List.range n.toInt.toNat).foldlM (fun (s : MyProfiler × List α) _ => do
    let x ← round s.1
    pure (x.1, s.2 ++ [x.2])) (p, [])

/-- The loop of the warm-up rounds and that of the measured ones, with a new profiler. -/
def phases (numWarmup numRuns : Int32)
    (warmupRound runRound : MyProfiler → Program Stop Event (MyProfiler × α)) :
    Program Stop Event (List α × List α) := do
  let warmup ← rounds numWarmup warmupRound {}
  let run ← rounds numRuns runRound warmup.1
  pure (warmup.2, run.2)

end UnifiedModelBenchmark
