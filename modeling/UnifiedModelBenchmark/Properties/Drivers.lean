import UnifiedModelBenchmark.Properties.Calls

/-!
# What the three drivers report

The loops of the three drivers are written three times, but their rounds are all `Round`s, so the
lists they collect are the same functions of the clock. What the lines are made of is another
matter: the ncnn driver makes both lines of the times of its warm-up rounds. What the statistics on
a line divide by is 0 if the loop of its list does not run.

What is said of the ncnn driver is said of models whose shapes it can read (`Ncnn.Indexable`). With
another model it comes to an undefined read before its rounds.
-/

namespace UnifiedModelBenchmark

open Infra Infra.Cxx Program Spec

variable {α : Type} [Double α]

/-! ## The three drivers -/

/-- One benchmark for all three: the models, as the engines see them, and the flags. -/
structure Setup where
  android : Bool
  onnxruntime : Onnxruntime.Session
  mnn : Mnn.Session
  ncnn : Ncnn.Net
  modelPath : Str
  inputTensorsInfo : MTensorDict
  useVulkan : Bool
  numWarmup : Int32
  numRuns : Int32

namespace Setup

variable (α) (s : Setup) (clock : Nat → Int)

def runOnnxruntime := Onnxruntime.run α s.android s.onnxruntime s.numWarmup s.numRuns { clock }

def runMnn := Mnn.benchmark α s.android s.mnn s.numWarmup s.numRuns { clock }

def runNcnn := Ncnn.run α s.android s.ncnn s.modelPath s.inputTensorsInfo s.numWarmup s.numRuns
  s.useVulkan { clock }

def onnxruntimeCalls :=
  Onnxruntime.metricCalls α s.android s.onnxruntime s.numWarmup s.numRuns { clock }

def mnnCalls := Mnn.metricCalls α s.android s.mnn s.numWarmup s.numRuns { clock }

def ncnnCalls := Ncnn.metricCalls α s.android s.ncnn s.modelPath s.inputTensorsInfo s.numWarmup
  s.numRuns s.useVulkan { clock }

/-! ## The lists of the lines -/

/-- A driver makes its two lines of these lists. -/
def onnxruntimeReports (warmup run : String × List α) : Prop :=
  ReportsOn (s.runOnnxruntime α clock) (s.onnxruntimeCalls α clock) warmup run

def mnnReports (warmup run : String × List α) : Prop :=
  ReportsOn (s.runMnn α clock) (s.mnnCalls α clock) warmup run

def ncnnReports (warmup run : String × List α) : Prop :=
  ReportsOn (s.runNcnn α clock) (s.ncnnCalls α clock) warmup run

/-- All three drivers make the first line of the first rounds, and the second one of those that
follow. -/
structure Reports : Prop where
  onnxruntime : s.onnxruntimeReports α clock ("WARMUP:\t", warmupDurations clock s.numWarmup)
    ("RUN:\t", runDurations clock s.numWarmup s.numRuns)
  mnn : s.mnnReports α clock ("WARMUP\t", warmupDurations clock s.numWarmup)
    ("RUN\t", runDurations clock s.numWarmup s.numRuns)
  ncnn : s.ncnnReports α clock ("WARMUP:\t", warmupDurations clock s.numWarmup)
    ("RUN:\t", runDurations clock s.numWarmup s.numRuns)

/-- There are as many warm-up rounds as measured ones, and they took the same times, in order. -/
structure SameTimes : Prop where
  count_eq : count s.numWarmup = count s.numRuns
  duration_eq : ∀ i < count s.numRuns,
    (duration clock (2 * i) : α) = duration clock (2 * count s.numWarmup + 2 * i)

/-- Two clocks give the same readings once the warm-up is over. -/
def AgreeAfterWarmup (clock' : Nat → Int) : Prop :=
  ∀ t, 2 * count s.numWarmup ≤ t → clock t = clock' t

variable {α}

/-- Two executions of a driver make their second lines of the same list. -/
def SameRunLine (reports reports' : String × List α → String × List α → Prop) : Prop :=
  ∃ warmup warmup' run, reports warmup run ∧ reports' warmup' run

variable {s}

omit [Double α] in
theorem map_range_eq_iff {f g : Nat → α} {n : Nat} :
    (List.range n).map f = (List.range n).map g ↔ ∀ i < n, f i = g i := by
  rw [List.map_inj_left]
  simp only [List.mem_range]

theorem warmup_eq_run_iff :
    (warmupDurations clock s.numWarmup : List α) = runDurations clock s.numWarmup s.numRuns ↔
      s.SameTimes α clock := by
  constructor
  · intro h
    have hcount : count s.numWarmup = count s.numRuns := by
      have hlength := congrArg List.length h
      rwa [length_warmupDurations, length_runDurations] at hlength
    refine ⟨hcount, ?_⟩
    unfold warmupDurations runDurations durations at h
    rw [hcount, map_range_eq_iff] at h
    rw [hcount]
    simpa only [Nat.zero_add] using h
  · rintro ⟨hcount, hduration⟩
    unfold warmupDurations runDurations durations
    rw [hcount, map_range_eq_iff]
    rw [hcount] at hduration
    simpa only [Nat.zero_add] using hduration

theorem warmup_eq_warmup_iff {clock' : Nat → Int} :
    (warmupDurations clock s.numWarmup : List α) = warmupDurations clock' s.numWarmup ↔
      ∀ i < count s.numWarmup, (duration clock (2 * i) : α) = duration clock' (2 * i) := by
  unfold warmupDurations durations
  rw [map_range_eq_iff]
  simp only [Nat.zero_add]

/-- The measured rounds only depend on the clock after the warm-up. -/
theorem runDurations_congr {clock clock' : Nat → Int} (h : s.AgreeAfterWarmup clock clock') :
    (runDurations clock s.numWarmup s.numRuns : List α)
      = runDurations clock' s.numWarmup s.numRuns := by
  unfold runDurations durations
  refine List.map_congr_left fun i _ => ?_
  unfold duration
  rw [h _ (by omega), h _ (by omega)]

theorem onnxruntimeReports_own : s.onnxruntimeReports α clock
    ("WARMUP:\t", warmupDurations clock s.numWarmup)
    ("RUN:\t", runDurations clock s.numWarmup s.numRuns) := by
  unfold onnxruntimeReports runOnnxruntime onnxruntimeCalls
  rw [Onnxruntime.run_eq]
  exact (reportsOn_iff
    (Onnxruntime.yields_metricCalls s.android s.onnxruntime s.numWarmup s.numRuns clock)).mpr rfl

theorem mnnReports_own : s.mnnReports α clock
    ("WARMUP\t", warmupDurations clock s.numWarmup)
    ("RUN\t", runDurations clock s.numWarmup s.numRuns) := by
  unfold mnnReports runMnn mnnCalls
  rw [Mnn.benchmark_eq]
  exact (reportsOn_iff
    (Mnn.yields_metricCalls s.android s.mnn s.numWarmup s.numRuns clock)).mpr rfl

/-- **The ncnn driver makes both lines of the list of the warm-up rounds.** -/
theorem ncnnReports_iff (h : Ncnn.Indexable s.ncnn s.inputTensorsInfo)
    {warmup run : String × List α} : s.ncnnReports α clock warmup run ↔
      ("WARMUP:\t", warmupDurations clock s.numWarmup) = warmup ∧
        ("RUN:\t", warmupDurations clock s.numWarmup) = run := by
  unfold ncnnReports runNcnn ncnnCalls
  rw [Ncnn.run_eq, reportsOn_iff (Ncnn.yields_metricCalls s.android s.modelPath s.numWarmup
    s.numRuns s.useVulkan clock h)]
  unfold Ncnn.calls
  simp

theorem ncnnReports_own_iff (h : Ncnn.Indexable s.ncnn s.inputTensorsInfo) :
    s.ncnnReports α clock ("WARMUP:\t", warmupDurations clock s.numWarmup)
        ("RUN:\t", runDurations clock s.numWarmup s.numRuns) ↔ s.SameTimes α clock := by
  rw [ncnnReports_iff clock h, ← warmup_eq_run_iff]
  simp

theorem sameRunLine_ncnn (h : Ncnn.Indexable s.ncnn s.inputTensorsInfo) {clock' : Nat → Int} :
    SameRunLine (s.ncnnReports α clock) (s.ncnnReports α clock') ↔
      ∀ i < count s.numWarmup, (duration clock (2 * i) : α) = duration clock' (2 * i) := by
  rw [← warmup_eq_warmup_iff]
  constructor
  · rintro ⟨warmup, warmup', run, hreports, hreports'⟩
    obtain ⟨-, rfl⟩ := (ncnnReports_iff clock h).mp hreports
    obtain ⟨-, hrun⟩ := (ncnnReports_iff clock' h).mp hreports'
    exact (Prod.mk.inj hrun).2.symm
  · intro heq
    refine ⟨_, _, _, (ncnnReports_iff clock h).mpr ⟨rfl, rfl⟩,
      (ncnnReports_iff clock' h).mpr ⟨rfl, ?_⟩⟩
    rw [heq]

variable (α s)

/--
**Of which lists the three drivers make their lines.** The first two make them of the times of the
rounds they are labelled with, and the times of the warm-up rounds have no influence on their second
lines. For the ncnn driver this is so exactly if the warm-up rounds took the times of the measured
ones, and its second line does not depend on the warm-up rounds exactly as far as their times are
the same.
-/
theorem reports_iff :
    s.onnxruntimeReports α clock ("WARMUP:\t", warmupDurations clock s.numWarmup)
      ("RUN:\t", runDurations clock s.numWarmup s.numRuns) ∧
    s.mnnReports α clock ("WARMUP\t", warmupDurations clock s.numWarmup)
      ("RUN\t", runDurations clock s.numWarmup s.numRuns) ∧
    (Ncnn.Indexable s.ncnn s.inputTensorsInfo → (s.Reports α clock ↔ s.SameTimes α clock)) ∧
    ∀ clock', s.AgreeAfterWarmup clock clock' →
      SameRunLine (s.onnxruntimeReports α clock) (s.onnxruntimeReports α clock') ∧
      SameRunLine (s.mnnReports α clock) (s.mnnReports α clock') ∧
      (Ncnn.Indexable s.ncnn s.inputTensorsInfo →
        (SameRunLine (s.ncnnReports α clock) (s.ncnnReports α clock') ↔
          ∀ i < count s.numWarmup, (duration clock (2 * i) : α) = duration clock' (2 * i))) := by
  refine ⟨onnxruntimeReports_own clock, mnnReports_own clock, fun hidx => ?_, ?_⟩
  · rw [← ncnnReports_own_iff clock hidx]
    exact ⟨Reports.ncnn, fun h => ⟨onnxruntimeReports_own clock, mnnReports_own clock, h⟩⟩
  · intro clock' hagree
    have hrun := runDurations_congr (α := α) hagree
    have hort := onnxruntimeReports_own (α := α) (s := s) clock'
    have hmnn := mnnReports_own (α := α) (s := s) clock'
    rw [← hrun] at hort hmnn
    exact ⟨⟨_, _, _, onnxruntimeReports_own clock, hort⟩, ⟨_, _, _, mnnReports_own clock, hmnn⟩,
      fun hidx => sameRunLine_ncnn clock hidx⟩

/-- The flags as they are by default: 3 warm-up rounds and 10 measured ones. -/
def default : Setup :=
  { android := false, onnxruntime := ⟨[], []⟩, mnn := ⟨[], []⟩, ncnn := ⟨0, 0, [], []⟩
    modelPath := [], inputTensorsInfo := ⟨[]⟩, useVulkan := false, numWarmup := 3, numRuns := 10 }

theorem indexable_default : Ncnn.Indexable default.ncnn default.inputTensorsInfo :=
  fun _ h => by cases h

/-- With the default flags the ncnn driver reports on 3 measured rounds, and its line says so. -/
theorem reports_iff_not : ¬ default.Reports ℚ (fun t => 1000 * t) ∧
    ¬ EndsWith (default.runNcnn ℚ fun t => 1000 * t)
      ("WARMUP:\t".toList ++ showLatencyMetric (warmupDurations (fun t => 1000 * t) 3 : List ℚ))
      ("RUN:\t".toList ++ showLatencyMetric (runDurations (fun t => 1000 * t) 3 10 : List ℚ)) := by
  have hncnn := (ncnnReports_iff (α := ℚ) (fun t => 1000 * t) indexable_default).mpr ⟨rfl, rfl⟩
  constructor
  · intro h
    have hsame := (ncnnReports_own_iff _ indexable_default).mp h.ncnn
    exact absurd hsame.count_eq (by decide)
  · intro h
    have hlines := hncnn.endsWith.unique h
    have hcount := (showLatencyMetric_warmup_eq_run.mp (List.append_cancel_left hlines.2)).1
    exact absurd hcount (by decide)

/-! ## What the drivers divide by -/

section

variable {α s}

theorem allExact_onnxruntime :
    AllExact (s.onnxruntimeCalls α clock) ↔ 0 < s.numWarmup ∧ 0 < s.numRuns := by
  have hyields := Onnxruntime.yields_metricCalls (α := α) s.android s.onnxruntime s.numWarmup
    s.numRuns clock
  unfold onnxruntimeCalls
  rw [allExact_iff hyields, exact_ownCalls]

theorem allExact_mnn : AllExact (s.mnnCalls α clock) ↔ 0 < s.numWarmup ∧ 0 < s.numRuns := by
  have hyields := Mnn.yields_metricCalls (α := α) s.android s.mnn s.numWarmup s.numRuns clock
  unfold mnnCalls
  rw [allExact_iff hyields, exact_ownCalls]

theorem allExact_ncnn (h : Ncnn.Indexable s.ncnn s.inputTensorsInfo) :
    AllExact (s.ncnnCalls α clock) ↔ 0 < s.numWarmup ∧ s.numWarmup = s.numRuns := by
  have hyields := Ncnn.yields_metricCalls (α := α) s.android s.modelPath s.numWarmup s.numRuns
    s.useVulkan clock h
  unfold ncnnCalls
  rw [allExact_iff hyields, Ncnn.exact_calls]

end

/--
**When the drivers divide by the number of samples of their loops, and not by zero**: the first two,
if both loops run at all; the ncnn driver, where it gets to its loops, if they run equally often,
and run at all.
-/
theorem calls_allExact :
    (AllExact (s.onnxruntimeCalls α clock) ↔ 0 < s.numWarmup ∧ 0 < s.numRuns)
    ∧ (AllExact (s.mnnCalls α clock) ↔ 0 < s.numWarmup ∧ 0 < s.numRuns)
    ∧ (Ncnn.Indexable s.ncnn s.inputTensorsInfo →
      (AllExact (s.ncnnCalls α clock) ↔ 0 < s.numWarmup ∧ s.numWarmup = s.numRuns)) :=
  ⟨allExact_onnxruntime clock, allExact_mnn clock, allExact_ncnn clock⟩

/-- Without warm-up rounds the line on them is made of a division by zero, and with the default
flags the ncnn driver divides by 3 where 10 samples were collected. -/
theorem calls_allExact_not :
    ¬ AllExact ({ default with numWarmup := 0 }.onnxruntimeCalls ℚ fun t => 1000 * t) ∧
      ¬ AllExact (default.ncnnCalls ℚ fun t => 1000 * t) := by
  rw [allExact_onnxruntime, allExact_ncnn _ indexable_default]
  exact ⟨by decide, by decide⟩

end Setup

end UnifiedModelBenchmark
