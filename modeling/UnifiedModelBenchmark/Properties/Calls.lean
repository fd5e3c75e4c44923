import UnifiedModelBenchmark.Benchmark.Onnxruntime
import UnifiedModelBenchmark.Benchmark.Mnn
import UnifiedModelBenchmark.Benchmark.Ncnn
import UnifiedModelBenchmark.Properties.Report

/-!
# The calls that a driver reports with

A driver is cut in two: what it does up to its report, which ends in the calls of
`show_latency_metric` it is going to make, and the report itself (`run_eq`, `benchmark_eq`). The
calls are functions of the clock. So one can say which list a line is made of, which its text does
not tell. A call is exact if the `size` by which `compute_min_max_avg_std` divides is the number of
samples of the loop.
-/

namespace UnifiedModelBenchmark

open Infra Infra.Cxx Program Spec

variable {α : Type}

/-! ## Calls -/

/-- A call of `show_latency_metric`: the line it is made for, the list it is given, and the list
that the loop of this line collected. -/
structure MetricCall (α : Type) where
  label : String
  data : List α
  collected : List α

namespace MetricCall

/-- The divisor is the number of samples that were collected, and there are some. -/
structure Exact (c : MetricCall α) : Prop where
  size_eq : intSize c.data = c.collected.length
  size_ne_zero : intSize c.data ≠ 0
  data_ne_nil : c.data ≠ []

/-- A list from a loop up to `n` is exact for a loop up to `m` if the two are the same. -/
theorem exact_iff {c : MetricCall α} {n m : Int32} (hdata : c.data.length = count n)
    (hcollected : c.collected.length = count m) : c.Exact ↔ 0 < n ∧ n = m := by
  have hsize : intSize c.data = count n := intSize_of_count hdata
  rw [Int32.lt_iff_toInt_lt, ← Int32.toInt_inj, Int32.toInt_zero]
  constructor
  · rintro ⟨heq, hne, -⟩
    rw [hsize] at heq hne
    rw [hcollected] at heq
    unfold count at heq hne
    omega
  · rintro ⟨hpos, heq⟩
    have hcount : count n = count m := by unfold count; rw [heq]
    have hnonempty : 0 < count n := by unfold count; omega
    refine ⟨by rw [hsize, hcollected, hcount], by omega, ?_⟩
    exact List.ne_nil_of_length_pos (by omega)

end MetricCall

/-- The two calls of a driver that reports what each loop collected. -/
def ownCalls (warmupLabel runLabel : String) (lists : List α × List α) : List (MetricCall α) :=
  [{ label := warmupLabel, data := lists.1, collected := lists.1 },
    { label := runLabel, data := lists.2, collected := lists.2 }]

section

variable {Event : Type}

/-- The line of a call. -/
def MetricCall.line [Double α] (c : MetricCall α) : Str :=
  c.label.toList ++ showLatencyMetric c.data

def report [Double α] (calls : List (MetricCall α)) : Program Stop Event Unit :=
  calls.forM fun c => info c.line

/-- The report is reached, and all of its calls are exact. -/
def AllExact (made : Except (Stop × World Event) (List (MetricCall α) × World Event)) : Prop :=
  ∃ calls w, made = .ok (calls, w) ∧ ∀ c ∈ calls, c.Exact

/-- The execution `r` ends with a report on the calls that are `made`, and these are two, with the
labels and the lists of the two lines. So the log ends with the metrics of these lists. -/
structure ReportsOn [Double α] (r : Except (Stop × World Event) (Unit × World Event))
    (made : Except (Stop × World Event) (List (MetricCall α) × World Event))
    (warmup run : String × List α) : Prop where
  ends : r = made.bind fun x => report x.1 x.2
  calls : ∃ calls w, made = .ok (calls, w) ∧
    calls.map (fun c => (c.label, c.data)) = [warmup, run]
  endsWith : EndsWith r (warmup.1.toList ++ showLatencyMetric warmup.2)
    (run.1.toList ++ showLatencyMetric run.2)

/-! ## The drivers up to the report -/

theorem allExact_iff {clock : Nat → Int} {calls : List (MetricCall α)}
    {p : Program Stop Event (List (MetricCall α))} (h : Yields clock calls p) :
    AllExact (p { clock }) ↔ ∀ c ∈ calls, c.Exact := by
  obtain ⟨w, hok⟩ := h { clock } rfl rfl
  unfold AllExact
  rw [hok]
  constructor
  · rintro ⟨calls', w', heq, hall⟩
    obtain ⟨rfl, -⟩ := Prod.mk.inj (Except.ok.inj heq)
    exact hall
  · exact fun hall => ⟨calls, w, rfl, hall⟩

/-- The report on two calls ends with the lines of their lists. -/
theorem endsWith_report [Double α] {calls : List (MetricCall α)} {warmup run : String × List α}
    (h : calls.map (fun c => (c.label, c.data)) = [warmup, run]) (w : World Event) :
    EndsWith (report calls w) (warmup.1.toList ++ showLatencyMetric warmup.2)
      (run.1.toList ++ showLatencyMetric run.2) := by
  match calls, h with
  | [c₁, c₂], rfl =>
    refine ⟨(), _, w.log, rfl, ?_⟩
    rw [World.after_log, World.after_log, List.append_assoc]
    rfl

/-- Of which lists a driver makes its lines is a matter of its calls. -/
theorem reportsOn_iff [Double α] {clock : Nat → Int} {calls : List (MetricCall α)}
    {p : Program Stop Event (List (MetricCall α))} (h : Yields clock calls p)
    {warmup run : String × List α} :
    ReportsOn ((p >>= report) { clock }) (p { clock }) warmup run ↔
      calls.map (fun c => (c.label, c.data)) = [warmup, run] := by
  obtain ⟨w, hok⟩ := h { clock } rfl rfl
  constructor
  · rintro ⟨-, ⟨calls', w', heq, hlists⟩, -⟩
    obtain ⟨rfl, -⟩ := Prod.mk.inj (Except.ok.inj (hok.symm.trans heq))
    exact hlists
  · intro hlists
    refine ⟨rfl, ⟨calls, w, hok, hlists⟩, ?_⟩
    rw [bind_eq_ok hok]
    exact endsWith_report hlists w

/-- The two lists of the loops. -/
theorem yields_phases [Double α]
    {warmupRound runRound : MyProfiler → Program Stop Event (MyProfiler × α)}
    (hwarmup : Round warmupRound) (hrun : Round runRound) (numWarmup numRuns : Int32)
    (clock : Nat → Int) (calls : List α × List α → List (MetricCall α)) :
    Yields clock (calls (warmupDurations clock numWarmup, runDurations clock numWarmup numRuns))
      (phases numWarmup numRuns warmupRound runRound >>= fun x => pure (calls x)) := by
  rintro w rfl hticks
  obtain ⟨n, lines, events, hphases⟩ := phases_eq hwarmup hrun numWarmup numRuns hticks
  exact ⟨_, bind_eq_ok hphases⟩

end

variable [Double α]

theorem exact_ownCalls (warmupLabel runLabel : String) (clock : Nat → Int)
    (numWarmup numRuns : Int32) :
    (∀ c ∈ ownCalls (α := α) warmupLabel runLabel
        (warmupDurations clock numWarmup, runDurations clock numWarmup numRuns), c.Exact) ↔
      0 < numWarmup ∧ 0 < numRuns := by
  unfold ownCalls
  rw [List.forall_mem_cons, List.forall_mem_singleton,
    MetricCall.exact_iff (length_warmupDurations ..) (length_warmupDurations ..),
    MetricCall.exact_iff (length_runDurations ..) (length_runDurations ..)]
  simp only [and_true]

namespace Onnxruntime

theorem round_round (android : Bool) (session : Session) :
    Round (α := α) (round android session) :=
  round_measured android (Timeless.emit _)

theorem timeless_prepareInput (input : (Str × List Int) × Nat) : Timeless (prepareInput input) :=
  (Timeless.info _).bind fun _ => Timeless.emit _

def metricCalls (α : Type) [Double α] (android : Bool) (session : Session)
    (numsWarmup numRuns : Int32) : Program Stop Event (List (MetricCall α)) := do
  info "=================================\tRuntime Info\t=================================".toList
  session.inputs.zipIdx.forM prepareInput
  session.outputs.zipIdx.forM prepareOutput
  let lists ← phases numsWarmup numRuns (round (α := α) android session) (round android session)
  pure (ownCalls "WARMUP:\t" "RUN:\t" lists)

/-- **The driver makes these calls.** -/
theorem run_eq (android : Bool) (session : Session) (numsWarmup numRuns : Int32) :
    run α android session numsWarmup numRuns
      = metricCalls α android session numsWarmup numRuns >>= report := by
  unfold run metricCalls
  simp only [bind_assoc, pure_bind]
  rfl

theorem yields_metricCalls (android : Bool) (session : Session) (numsWarmup numRuns : Int32)
    (clock : Nat → Int) :
    Yields clock
      (ownCalls "WARMUP:\t" "RUN:\t"
        (warmupDurations clock numsWarmup, runDurations clock numsWarmup numRuns))
      (metricCalls α android session numsWarmup numRuns) := by
  unfold metricCalls
  refine Yields.bind (Timeless.info _) fun _ => ?_
  refine Yields.bind (Timeless.forM fun input _ => timeless_prepareInput input) fun _ => ?_
  refine Yields.bind (Timeless.forM fun output _ => Timeless.info _) fun _ => ?_
  exact yields_phases (round_round android session) (round_round android session) numsWarmup numRuns
    clock (ownCalls "WARMUP:\t" "RUN:\t")

end Onnxruntime

namespace Mnn

theorem round_round (android : Bool) (session : Session) :
    Round (α := α) (round android session) :=
  (round_measured android ((Timeless.emit _).bind fun _ =>
    Timeless.forM fun _ _ => Timeless.emit _)).before (Timeless.emit _)

def metricCalls (α : Type) [Double α] (android : Bool) (session : Session)
    (numWarmup numRun : Int32) : Program Stop Event (List (MetricCall α)) := do
  session.inputs.forM fun name => emit (.fillInput name)
  session.outputs.forM fun name => emit (.createHostTensor name)
  let lists ← phases numWarmup numRun (round (α := α) android session) (round android session)
  pure (ownCalls "WARMUP\t" "RUN\t" lists)

/-- **The driver makes these calls.** -/
theorem benchmark_eq (android : Bool) (session : Session) (numWarmup numRun : Int32) :
    benchmark α android session numWarmup numRun
      = metricCalls α android session numWarmup numRun >>= report := by
  unfold benchmark metricCalls
  simp only [bind_assoc, pure_bind]
  rfl

theorem yields_metricCalls (android : Bool) (session : Session) (numWarmup numRun : Int32)
    (clock : Nat → Int) :
    Yields clock
      (ownCalls "WARMUP\t" "RUN\t"
        (warmupDurations clock numWarmup, runDurations clock numWarmup numRun))
      (metricCalls α android session numWarmup numRun) := by
  unfold metricCalls
  refine Yields.bind (Timeless.forM fun _ _ => Timeless.emit _) fun _ => ?_
  refine Yields.bind (Timeless.forM fun _ _ => Timeless.emit _) fun _ => ?_
  exact yields_phases (round_round android session) (round_round android session) numWarmup numRun
    clock (ownCalls "WARMUP\t" "RUN\t")

end Mnn

namespace Ncnn

/-- All shapes that are looked up have the entries that are read. -/
def Indexable (net : Net) (inputTensorsInfo : MTensorDict) : Prop :=
  ∀ name ∈ net.inputNames, 4 ≤ (inputTensorsInfo.queryNcnnShapeInfo name).length

theorem timeless_indexShape (name : Str) {shape : List Int32} (h : 4 ≤ shape.length) :
    Timeless (indexShape name shape) := by
  unfold indexShape
  refine (Timeless.emit _).bind fun _ => ?_
  rw [List.getElem?_eq_getElem (show 3 < shape.length by omega),
    List.getElem?_eq_getElem (show 2 < shape.length by omega),
    List.getElem?_eq_getElem (show 1 < shape.length by omega)]
  exact Timeless.pure _

section

variable {net : Net} {inputTensorsInfo : MTensorDict}

theorem timeless_inference (h : Indexable net inputTensorsInfo) :
    Timeless (inference net inputTensorsInfo) := by
  refine Timeless.bind (Timeless.forM fun name hname => ?_) fun _ =>
    Timeless.forM fun _ _ => Timeless.emit _
  exact (timeless_indexShape name (h name hname)).bind fun _ => Timeless.emit _

theorem round_warmupRound (android : Bool) (h : Indexable net inputTensorsInfo) :
    Round (α := α) (warmupRound android net inputTensorsInfo) :=
  (round_measured android (timeless_inference h)).after (Timeless.emit _)

theorem round_runRound (android : Bool) (h : Indexable net inputTensorsInfo) :
    Round (α := α) (runRound android net inputTensorsInfo) :=
  round_measured android ((Timeless.emit _).bind fun _ => timeless_inference h)

theorem timeless_logInputs (h : Indexable net inputTensorsInfo) :
    Timeless (net.inputNames.zipIdx.forM (logInput inputTensorsInfo)) := by
  refine Timeless.forM fun input hinput => ?_
  have hname : input.1 ∈ net.inputNames := List.fst_mem_of_mem_zipIdx hinput
  exact (timeless_indexShape input.1 (h input.1 hname)).bind fun _ => Timeless.info _

/-- Every input of the model has a line. -/
theorem exists_mem_zipIdx {name : Str} (h : name ∈ net.inputNames) :
    ∃ i, (name, i) ∈ net.inputNames.zipIdx := by
  obtain ⟨i, hi, rfl⟩ := List.mem_iff_getElem.mp h
  exact ⟨i, List.mk_mem_zipIdx_iff_getElem?.mpr (List.getElem?_eq_getElem hi)⟩

end

/-- Both calls get the list of the warm-up loop. -/
def calls (lists : List α × List α) : List (MetricCall α) :=
  [{ label := "WARMUP:\t", data := lists.1, collected := lists.1 },
    { label := "RUN:\t", data := lists.1, collected := lists.2 }]

theorem exact_calls (clock : Nat → Int) (numWarmup numRuns : Int32) :
    (∀ c ∈ calls (α := α)
        (warmupDurations clock numWarmup, runDurations clock numWarmup numRuns), c.Exact) ↔
      0 < numWarmup ∧ numWarmup = numRuns := by
  unfold calls
  rw [List.forall_mem_cons, List.forall_mem_singleton,
    MetricCall.exact_iff (length_warmupDurations ..) (length_warmupDurations ..),
    MetricCall.exact_iff (length_warmupDurations ..) (length_runDurations ..)]
  constructor
  · exact fun h => h.2
  · exact fun h => ⟨⟨h.1, rfl⟩, h⟩

def metricCalls (α : Type) [Double α] (android : Bool) (net : Net) (modelPath : Str)
    (inputTensorsInfo : MTensorDict) (numsWarmup numRuns : Int32) (useVulkanCompute : Bool) :
    Program Stop Event (List (MetricCall α)) := do
  info "=================================\tRuntime Info\t=================================".toList
  (if useVulkanCompute then emit .setDevice else pure ())
  (if net.loadParam = -1 then error ("fail load param: ".toList ++ modelPath) else pure ())
  (if net.loadModel = -1 then error ("fail load model: ".toList ++ modelPath) else pure ())
  net.inputNames.zipIdx.forM (logInput inputTensorsInfo)
  let lists ← phases numsWarmup numRuns (warmupRound (α := α) android net inputTensorsInfo)
    (runRound android net inputTensorsInfo)
  pure (calls lists)

variable (android : Bool) {net : Net} (modelPath : Str) {inputTensorsInfo : MTensorDict}
  (numsWarmup numRuns : Int32) (useVulkan : Bool)

/-- **The driver makes these calls.** -/
theorem run_eq : run α android net modelPath inputTensorsInfo numsWarmup numRuns useVulkan
    = metricCalls α android net modelPath inputTensorsInfo numsWarmup numRuns useVulkan
      >>= report := by
  unfold run metricCalls
  simp only [bind_assoc, pure_bind]
  rfl

theorem yields_metricCalls (clock : Nat → Int) (h : Indexable net inputTensorsInfo) :
    Yields clock
      (calls (warmupDurations clock numsWarmup, runDurations clock numsWarmup numRuns))
      (metricCalls α android net modelPath inputTensorsInfo numsWarmup numRuns useVulkan) := by
  unfold metricCalls
  refine Yields.bind (Timeless.info _) fun _ => ?_
  refine Yields.bind (Timeless.ite (Timeless.emit _) (Timeless.pure _)) fun _ => ?_
  refine Yields.bind (Timeless.ite (Timeless.error _) (Timeless.pure _)) fun _ => ?_
  refine Yields.bind (Timeless.ite (Timeless.error _) (Timeless.pure _)) fun _ => ?_
  refine Yields.bind (timeless_logInputs h) fun _ => ?_
  exact yields_phases (round_warmupRound android h) (round_runRound android h) numsWarmup numRuns
    clock calls

end Ncnn

end UnifiedModelBenchmark
