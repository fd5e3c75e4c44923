import UnifiedModelBenchmark.Infra.World
import UnifiedModelBenchmark.Mutils.Profiler

/-!
# What a driver reports

The times of the rounds as a function of the clock alone, and the two lines a driver should end
its log with.
-/

namespace UnifiedModelBenchmark.Spec

open Infra Infra.Cxx Program

variable {α : Type} [Double α]

/-- The microseconds between the reading number `t` of the clock and the next one, cut off. -/
def duration (clock : Nat → Int) (t : Nat) : α := ((clock (t + 1) - clock t).tdiv 1000 : Int)

/-- The durations of `n` rounds from the reading number `t` on; a round reads the clock twice. -/
def durations (clock : Nat → Int) (t n : Nat) : List α :=
  (List.range n).map fun i => duration clock (t + 2 * i)

/-- How often a loop up to `n` runs. -/
def count (n : Int32) : Nat := n.toInt.toNat

/-- The times of the warm-up rounds. -/
def warmupDurations (clock : Nat → Int) (numWarmup : Int32) : List α :=
  durations clock 0 (count numWarmup)

/-- The times of the measured rounds, which follow the warm-up rounds. -/
def runDurations (clock : Nat → Int) (numWarmup numRuns : Int32) : List α :=
  durations clock (2 * count numWarmup) (count numRuns)

/-- A driver ended normally, and these are the last two lines of its log. -/
def EndsWith {ε Event β : Type} (r : Except (ε × World Event) (β × World Event))
    (warmupLine runLine : Str) : Prop :=
  ∃ b w lines, r = .ok (b, w) ∧ w.log = lines ++ [.info warmupLine, .info runLine]

end UnifiedModelBenchmark.Spec
