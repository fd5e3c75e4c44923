import UnifiedModelBenchmark.Properties.Timing

/-!
# The lines of a report

The line of `show_latency_metric` says how many rounds there were and the four statistics as they
are printed, and nothing else: no number is printed with a comma, so the fields can be read off
(`showMetric_eq_iff`).
-/

namespace UnifiedModelBenchmark

open Infra Infra.Cxx Program Spec

variable {α : Type} [Double α]

/-! ## One line -/

/-- The four statistics of the two lists are printed alike. -/
structure PrintAlike (xs ys : List α) : Prop where
  min : Double.text (computeMinMaxAvgStd xs).minVal = Double.text (computeMinMaxAvgStd ys).minVal
  max : Double.text (computeMinMaxAvgStd xs).maxVal = Double.text (computeMinMaxAvgStd ys).maxVal
  avg : Double.text (computeMinMaxAvgStd xs).avgVal = Double.text (computeMinMaxAvgStd ys).avgVal
  std : Double.text (computeMinMaxAvgStd xs).stdVal = Double.text (computeMinMaxAvgStd ys).stdVal

/-- The line, cut at its commas. -/
theorem showMetric_fields (unit : String) (data : List α) : showMetric unit data
    = "rounds: ".toList ++ (decimal (intSize data) ++ ',' ::
      (" min: ".toList ++ (Double.text (computeMinMaxAvgStd data).minVal ++ ',' ::
        (" max: ".toList ++ (Double.text (computeMinMaxAvgStd data).maxVal ++ ',' ::
          (" avg: ".toList ++ ((Double.text (computeMinMaxAvgStd data).avgVal ++ [' ']) ++ ',' ::
            ("std: ".toList ++ (Double.text (computeMinMaxAvgStd data).stdVal ++ ',' ::
              (" unit: ".toList ++ unit.toList)))))))))) := by
  unfold showMetric
  simp only [List.append_assoc]
  rfl

/-- **Two lines are the same exactly if the counts are and the statistics are printed alike.** -/
theorem showMetric_eq_iff {unit : String} {xs ys : List α} :
    showMetric unit xs = showMetric unit ys ↔
      intSize xs = intSize ys ∧ PrintAlike xs ys := by
  constructor
  · intro h
    rw [showMetric_fields, showMetric_fields] at h
    -- field by field, each up to its comma
    obtain ⟨hrounds, h⟩ := append_cons_inj (not_mem_decimal _) (not_mem_decimal _)
      (List.append_cancel_left h)
    obtain ⟨hmin, h⟩ := append_cons_inj (Double.not_mem_text _) (Double.not_mem_text _)
      (List.append_cancel_left h)
    obtain ⟨hmax, h⟩ := append_cons_inj (Double.not_mem_text _) (Double.not_mem_text _)
      (List.append_cancel_left h)
    have hspace : ∀ x : α, ',' ∉ Double.text x ++ [' '] := by
      intro x hx
      rcases List.mem_append.mp hx with hx | hx
      · exact Double.not_mem_text x hx
      · simp at hx
    obtain ⟨havg, h⟩ := append_cons_inj (hspace _) (hspace _) (List.append_cancel_left h)
    obtain ⟨hstd, -⟩ := append_cons_inj (Double.not_mem_text _) (Double.not_mem_text _)
      (List.append_cancel_left h)
    exact ⟨decimal_inj hrounds, hmin, hmax, List.append_cancel_right havg, hstd⟩
  · rintro ⟨hrounds, hmin, hmax, havg, hstd⟩
    rw [showMetric_fields, showMetric_fields, hrounds, hmin, hmax, havg, hstd]

/-! ## Counts -/

theorem count_lt (n : Int32) : count n < 2 ^ 31 := by
  have hlt := n.toInt_lt
  unfold count
  omega

@[simp] theorem length_durations (clock : Nat → Int) (t n : Nat) :
    (durations clock t n : List α).length = n := by
  unfold durations
  rw [List.length_map, List.length_range]

@[simp] theorem length_warmupDurations (clock : Nat → Int) (numWarmup : Int32) :
    (warmupDurations clock numWarmup : List α).length = count numWarmup := length_durations _ _ _

@[simp] theorem length_runDurations (clock : Nat → Int) (numWarmup numRuns : Int32) :
    (runDurations clock numWarmup numRuns : List α).length = count numRuns := length_durations _ _ _

/-- The number of rounds that is printed is the number of rounds. -/
theorem intSize_of_count {β : Type} {arr : List β} {n : Int32} (h : arr.length = count n) :
    intSize arr = count n := by
  unfold intSize
  rw [h, Int32.toInt_ofNat_of_lt (count_lt n)]

/-- Whether the warm-up rounds and the measured ones give the same line. -/
theorem showLatencyMetric_warmup_eq_run {clock : Nat → Int} {numWarmup numRuns : Int32} :
    showLatencyMetric (warmupDurations clock numWarmup : List α)
        = showLatencyMetric (runDurations clock numWarmup numRuns : List α) ↔
      count numWarmup = count numRuns ∧
        PrintAlike (warmupDurations clock numWarmup : List α)
          (runDurations clock numWarmup numRuns) := by
  unfold showLatencyMetric
  rw [showMetric_eq_iff, intSize_of_count (length_warmupDurations ..),
    intSize_of_count (length_runDurations ..), Int.natCast_inj]

/-! ## The last two lines of a log -/

variable {Event β γ : Type}

/-- The last two lines are determined. -/
theorem Spec.EndsWith.unique {r : Except (Stop × World Event) (β × World Event)}
    {l₁ l₂ l₁' l₂' : Str} (h : EndsWith r l₁ l₂) (h' : EndsWith r l₁' l₂') : l₁ = l₁' ∧ l₂ = l₂' := by
  obtain ⟨b, w, lines, hr, hlog⟩ := h
  obtain ⟨b', w', lines', hr', hlog'⟩ := h'
  obtain ⟨-, rfl⟩ := Prod.mk.inj (Except.ok.inj (hr.symm.trans hr'))
  have hlast := (List.append_inj' (hlog.symm.trans hlog') rfl).2
  simpa using hlast

end UnifiedModelBenchmark
