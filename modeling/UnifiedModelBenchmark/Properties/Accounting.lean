import UnifiedModelBenchmark.Infra.Gaps
import UnifiedModelBenchmark.Properties.Drivers
import UnifiedModelBenchmark.Properties.Stats

/-!
# What a driver reports, and the time it takes

A round lies between two readings of the clock, and the rounds follow each other. So if the clock
does not go back, the times that the two lines of a driver are made of are those of disjoint parts
of the time between its first and its last reading (`reports_timed`). The ncnn driver reports one of
these parts twice. All of this is exact arithmetic, and about the statistics; what is printed of
them is rounded.
-/

namespace UnifiedModelBenchmark

open Infra Infra.Cxx Program Spec

/-! ## The durations -/

theorem durations_add {α : Type} [Double α] (clock : Nat → Int) (t n m : Nat) :
    (durations clock t (n + m) : List α)
      = durations clock t n ++ durations clock (t + 2 * n) m := by
  unfold durations
  rw [List.range_add, List.map_append, List.map_map]
  congr 1
  refine List.map_congr_left fun i _ => ?_
  show duration clock (t + 2 * (n + i)) = duration clock (t + 2 * n + 2 * i)
  congr 1
  omega

/-- The microseconds of a round are cut off. -/
theorem duration_bounds {clock : Nat → Int} (hclock : Monotone clock) (t : Nat) :
    (0 : ℚ) ≤ duration clock t ∧ 1000 * (duration clock t : ℚ) ≤ clock (t + 1) - clock t := by
  have hle : clock t ≤ clock (t + 1) := hclock (Nat.le_succ t)
  have hcut := cutoff_bounds (show (0 : Int) < 1000 by decide)
    (show 0 ≤ clock (t + 1) - clock t by omega)
  have hnonneg : 0 ≤ (clock (t + 1) - clock t).tdiv 1000 := Int.tdiv_nonneg (by omega) (by decide)
  have hupper : 1000 * (clock (t + 1) - clock t).tdiv 1000 ≤ clock (t + 1) - clock t := by omega
  unfold duration
  exact ⟨by exact_mod_cast hnonneg, by exact_mod_cast hupper⟩

theorem durations_nonneg {clock : Nat → Int} (hclock : Monotone clock) (t n : Nat) :
    ∀ x ∈ (durations clock t n : List ℚ), 0 ≤ x := by
  intro x hx
  obtain ⟨i, -, rfl⟩ := List.mem_map.mp hx
  exact (duration_bounds hclock _).1

/-- **The rounds take no more than the time between two readings** that enclose them. -/
theorem sum_durations_le {clock : Nat → Int} (hclock : Monotone clock) (t : Nat) :
    ∀ {n m : Nat}, t ≤ m → t + 2 * n ≤ m + 1 →
      1000 * (durations clock t n : List ℚ).sum ≤ clock m - clock t
  | 0, m, hm, _ => by
    have hle : (clock t : ℚ) ≤ clock m := by exact_mod_cast hclock hm
    simpa [durations] using hle
  | n + 1, m, _, hn => by
    have hrest := sum_durations_le hclock t (n := n) (m := t + 2 * n) (by omega) (by omega)
    have hlast := (duration_bounds hclock (t + 2 * n)).2
    have hle : (clock (t + 2 * n + 1) : ℚ) ≤ clock m := by
      exact_mod_cast hclock (show t + 2 * n + 1 ≤ m by omega)
    rw [durations_succ, List.sum_append, List.sum_singleton, mul_add]
    linarith

/-! ## The lines -/

/-- These times, and the exact statistics on them, are consistent with the time that has elapsed. -/
structure Timed (elapsed : Int) (times : List ℚ) : Prop where
  nonneg : ∀ x ∈ times, 0 ≤ x
  sum_le : 1000 * times.sum ≤ elapsed
  min_nonneg : 0 ≤ (computeMinMaxAvgStd times).minVal
  avg_le : times ≠ [] → 1000 * (times.length * (computeMinMaxAvgStd times).avgVal) ≤ elapsed

/-- The average of times that are all visited. -/
theorem length_mul_avgVal {times : List ℚ} (hne : times ≠ []) (hlt : times.length < 2 ^ 31) :
    times.length * (computeMinMaxAvgStd times).avgVal = times.sum := by
  have hsize : intSize times = times.length := Int32.toInt_ofNat_of_lt hlt
  have hzero : (0.0 : ℚ) = 0 := by norm_num
  have hlength : (times.length : ℚ) ≠ 0 := (length_pos_cast hne).ne'
  rw [computeMinMaxAvgStd_eq, visited_eq hlt]
  dsimp only
  rw [foldl_addSample_rat, hsize, hzero, zero_add]
  exact mul_div_cancel₀ times.sum hlength

theorem timed_durations {clock : Nat → Int} (hclock : Monotone clock) {elapsed : Int} {t n : Nat}
    (hlt : n < 2 ^ 31) (hsum : 1000 * (durations clock t n : List ℚ).sum ≤ elapsed) :
    Timed elapsed (durations clock t n) := by
  have hnonneg := durations_nonneg hclock t n
  refine ⟨hnonneg, hsum, ?_, fun hne => ?_⟩
  · -- the minimum is one of the times, or what the loop starts from
    rw [minVal_rat]
    rcases (foldl_min (Double.dblMax : ℚ) (visited (durations clock t n))).1 with hstart | hmem
    · rw [hstart]
      decide +kernel
    · exact hnonneg _ (visited_subset _ hmem)
  · rw [length_mul_avgVal hne (by rw [length_durations]; exact hlt)]
    exact hsum

namespace Setup

variable (s : Setup) (clock : Nat → Int)

/-- The time between the first reading of the clock and the last one. -/
def elapsed : Int := clock (2 * (count s.numWarmup + count s.numRuns) - 1) - clock 0

/-- The two lists of a driver share the time it takes. -/
theorem sum_durations_le_elapsed {clock : Nat → Int} (hclock : Monotone clock) :
    1000 * ((warmupDurations clock s.numWarmup : List ℚ).sum
      + (runDurations clock s.numWarmup s.numRuns : List ℚ).sum) ≤ s.elapsed clock := by
  have hsum := sum_durations_le hclock 0 (n := count s.numWarmup + count s.numRuns)
    (m := 2 * (count s.numWarmup + count s.numRuns) - 1) (Nat.zero_le _) (by omega)
  rw [durations_add, List.sum_append, Nat.zero_add] at hsum
  unfold warmupDurations runDurations elapsed
  exact_mod_cast hsum

theorem timed_lists {clock : Nat → Int} (hclock : Monotone clock) :
    Timed (s.elapsed clock) (warmupDurations clock s.numWarmup) ∧
      Timed (s.elapsed clock) (runDurations clock s.numWarmup s.numRuns) := by
  have hsum := s.sum_durations_le_elapsed hclock
  have hwarmup : (0 : ℚ) ≤ (warmupDurations clock s.numWarmup : List ℚ).sum :=
    List.sum_nonneg (durations_nonneg hclock _ _)
  have hrun : (0 : ℚ) ≤ (runDurations clock s.numWarmup s.numRuns : List ℚ).sum :=
    List.sum_nonneg (durations_nonneg hclock _ _)
  exact ⟨timed_durations hclock (count_lt _) (show 1000 * (warmupDurations ..).sum ≤ _ by linarith),
    timed_durations hclock (count_lt _) (show 1000 * (runDurations ..).sum ≤ _ by linarith)⟩

/--
**The reported times fit into the time a driver takes**, in exact arithmetic. On a clock that does
not go back, the two lines of a driver are made of lists of times that are not negative, and the
number of rounds of a list times its average is at most the time between the first and the last
reading of the clock. For the first two drivers the same holds of both lists together; the ncnn
driver makes both lines of one list.
-/
theorem reports_timed (hclock : Monotone clock) :
    (∃ warmup run, s.onnxruntimeReports ℚ clock ("WARMUP:\t", warmup) ("RUN:\t", run) ∧
      Timed (s.elapsed clock) warmup ∧ Timed (s.elapsed clock) run ∧
      1000 * (warmup.sum + run.sum) ≤ s.elapsed clock) ∧
    (∃ warmup run, s.mnnReports ℚ clock ("WARMUP\t", warmup) ("RUN\t", run) ∧
      Timed (s.elapsed clock) warmup ∧ Timed (s.elapsed clock) run ∧
      1000 * (warmup.sum + run.sum) ≤ s.elapsed clock) ∧
    (Ncnn.Indexable s.ncnn s.inputTensorsInfo → ∃ warmup,
      s.ncnnReports ℚ clock ("WARMUP:\t", warmup) ("RUN:\t", warmup) ∧
      Timed (s.elapsed clock) warmup) := by
  have hsum := s.sum_durations_le_elapsed hclock
  obtain ⟨hwarmup, hrun⟩ := s.timed_lists hclock
  refine ⟨⟨_, _, onnxruntimeReports_own clock, hwarmup, hrun, hsum⟩,
    ⟨_, _, mnnReports_own clock, hwarmup, hrun, hsum⟩, fun hidx => ⟨_, ?_, hwarmup⟩⟩
  exact (ncnnReports_iff clock hidx).mpr ⟨rfl, rfl⟩

/-- 26 readings of a clock that goes on by a microsecond each time. -/
theorem reports_timed_default :
    ∃ warmup run, default.onnxruntimeReports ℚ (fun t => 1000 * t) ("WARMUP:\t", warmup)
        ("RUN:\t", run) ∧ Timed 25000 warmup ∧ Timed 25000 run ∧
      1000 * (warmup.sum + run.sum) ≤ (25000 : Int) := by
  have hclock : Monotone fun t : Nat => (1000 * t : Int) := fun t t' h => by
    dsimp only
    omega
  have helapsed : default.elapsed (fun t => 1000 * t) = 25000 := by decide
  have hlines := (reports_timed default (fun t => 1000 * t) hclock).1
  rw [helapsed] at hlines
  exact hlines

end Setup

end UnifiedModelBenchmark
