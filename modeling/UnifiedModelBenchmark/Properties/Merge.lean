import UnifiedModelBenchmark.Properties.Stats

/-!
# Metrics of several runs together

In exact arithmetic the four statistics of a metric, together with its number of rounds, are enough
to compute the metric of several runs taken as one. Nothing of the samples themselves is needed
(`Summary.of_flatten`). With one sample for each run this computes the metric while the samples come
in.
-/

namespace UnifiedModelBenchmark

open Infra Infra.Cxx

/-- The number of rounds and the statistics on them. -/
structure Summary where
  rounds : Nat
  stats : Stats ℝ

namespace Summary

noncomputable def of (xs : List ℝ) : Summary :=
  { rounds := xs.length, stats := computeMinMaxAvgStd xs }

/-- The metric of both runs as one. -/
noncomputable def merge (a b : Summary) : Summary :=
  let n : ℝ := a.rounds
  let m : ℝ := b.rounds
  { rounds := a.rounds + b.rounds
    stats :=
      { minVal := min a.stats.minVal b.stats.minVal
        maxVal := max a.stats.maxVal b.stats.maxVal
        avgVal := (n * a.stats.avgVal + m * b.stats.avgVal) / (n + m)
        stdVal := √((n * a.stats.stdVal ^ 2 + m * b.stats.stdVal ^ 2) / (n + m)
          + n * m / (n + m) ^ 2 * (a.stats.avgVal - b.stats.avgVal) ^ 2) } }

end Summary

namespace Summary

/-- The metric of a list that is visited in full. -/
theorem of_eq {xs : List ℝ} (hne : xs ≠ []) (hlt : xs.length < 2 ^ 31) :
    Summary.of xs
      = { rounds := xs.length
          stats :=
            { minVal := xs.foldl min Double.dblMax, maxVal := xs.foldl max Double.dblMin
              avgVal := mean xs, stdVal := √(variance xs) } } := by
  have hvisited := visited_eq hlt
  have hne' : visited xs ≠ [] := hvisited.symm ▸ hne
  rw [Summary.of, computeMinMaxAvgStd_real hne', hvisited]

/-- **Two runs**, as one run and merged. -/
theorem of_append {xs ys : List ℝ} (hx : xs ≠ []) (hy : ys ≠ [])
    (hlt : xs.length + ys.length < 2 ^ 31) :
    Summary.of (xs ++ ys) = (Summary.of xs).merge (Summary.of ys) := by
  have hlt' : (xs ++ ys).length < 2 ^ 31 := by rw [List.length_append]; exact hlt
  rw [of_eq (List.append_ne_nil_of_left_ne_nil hx ys) hlt', of_eq hx (by omega),
    of_eq hy (by omega), merge]
  dsimp only
  rw [Real.sq_sqrt (variance_nonneg xs), Real.sq_sqrt (variance_nonneg ys), foldl_min_append,
    foldl_max_append, mean_append hx hy, variance_append hx hy, List.length_append]

/--
**Any number of runs**, in exact arithmetic. The metric of the samples of several runs, taken
together in order, is what one gets from the metrics of the runs, merged one after the other.
-/
theorem of_flatten (first : List ℝ) (runs : List (List ℝ)) (hfirst : first ≠ [])
    (hruns : ∀ run ∈ runs, run ≠ []) (hlt : first.length + runs.flatten.length < 2 ^ 31) :
    Summary.of (first ++ runs.flatten)
      = runs.foldl (fun s run => s.merge (Summary.of run)) (Summary.of first) := by
  induction runs generalizing first with
  | nil => rw [List.flatten_nil, List.append_nil, List.foldl_nil]
  | cons run runs ih =>
    obtain ⟨hrun, hrest⟩ := List.forall_mem_cons.mp hruns
    rw [List.flatten_cons, List.length_append] at hlt
    rw [List.flatten_cons, ← List.append_assoc, List.foldl_cons,
      ← of_append hfirst hrun (by omega)]
    refine ih (first ++ run) (List.append_ne_nil_of_left_ne_nil hfirst run) hrest ?_
    rw [List.length_append]
    omega

/-- A latency of 2 and one of 4. -/
theorem of_flatten_two :
    Summary.of ([2] ++ [[4]].flatten) = (Summary.of [2]).merge (Summary.of [4]) :=
  of_flatten [2] [[4]] (by simp) (by simp) (by simp)

end Summary

end UnifiedModelBenchmark
