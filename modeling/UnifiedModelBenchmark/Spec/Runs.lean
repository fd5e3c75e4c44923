import UnifiedModelBenchmark.Benchmark.Onnxruntime
import UnifiedModelBenchmark.Benchmark.Mnn
import UnifiedModelBenchmark.Benchmark.Ncnn
import UnifiedModelBenchmark.Spec.Report

/-!
# What a driver does from its start to its end

The worlds the three drivers leave behind, as functions of what they were given: the lines of the
log, and what the engine was asked, with the readings of the clock among it: what a round asks for
between its two readings is measured. There are no loops and no states in this, and the times of the
rounds appear in the last two lines only.

`Properties/Mains.lean` and `Properties/NcnnRun.lean` show that the drivers end like this.
-/

namespace UnifiedModelBenchmark.Spec

open Infra Infra.Cxx

variable {α : Type} [Double α]

/-- What is done `n` times. -/
def repeated {β : Type} (n : Nat) (l : List β) : List β := (List.replicate n l).flatten

def runtimeInfo : Line :=
  .info "=================================\tRuntime Info\t=================================".toList

/-- The line on the times of a loop. -/
def metricLine (label : String) (times : List α) : Line :=
  .info (label.toList ++ showLatencyMetric times)

/-! ## ONNX Runtime -/

namespace Onnxruntime

open UnifiedModelBenchmark.Onnxruntime

def inputLine (input : (Str × List Int) × Nat) : Line :=
  .info (decimal input.2 ++ ' ' :: tensorInfo "input: " input.1.1 (input.1.2.map fixedDim))

def outputLine (output : (Str × List Int) × Nat) : Line :=
  .info (decimal output.2 ++ ' ' :: tensorInfo "output: " output.1.1 (output.1.2.map fixedDim))

def createTensor (input : Str × List Int) : Event :=
  .createTensor (elementCount (input.2.map fixedDim)) (input.2.map fixedDim)

/-- Only the run is measured. -/
def roundEvents (session : Session) : List Event :=
  [.readClock, .run (session.inputs.map Prod.fst) (session.outputs.map Prod.fst), .readClock]

/-- One tensor for each input, and then one run for each round. -/
def events (session : Session) (numsWarmup numRuns : Int32) : List Event :=
  session.inputs.map createTensor
    ++ repeated (count numsWarmup + count numRuns) (roundEvents session)

def log (α : Type) [Double α] (session : Session) (numsWarmup numRuns : Int32) (clock : Nat → Int) :
    List Line :=
  runtimeInfo :: session.inputs.zipIdx.map inputLine ++ session.outputs.zipIdx.map outputLine
    ++ [metricLine "WARMUP:\t" (warmupDurations clock numsWarmup : List α),
      metricLine "RUN:\t" (runDurations clock numsWarmup numRuns : List α)]

def argLines (flags : Flags) : List Line :=
  [.info "=================================\tONNXRUNTIME Args Info\t=================================".toList,
    .info ("model path: ".toList ++ flags.model), .info ("backend: ".toList ++ flags.backend),
    .info ("cpu threads: ".toList ++ decimal flags.numThreads.toInt),
    .info ("num_warmup: ".toList ++ decimal flags.numWarmup.toInt),
    .info ("num_runs: ".toList ++ decimal flags.numRuns.toInt)]

/-- The backends of which the driver runs the session. -/
def Known (backend : Str) : Prop := backend = "arm".toList ∨ backend = "nnapi".toList

end Onnxruntime

/-! ## MNN -/

namespace Mnn

open UnifiedModelBenchmark.Mnn

/-- The outputs are waited for inside of the measured time, and the cache is updated outside. -/
def roundEvents (session : Session) : List Event :=
  .readClock :: .runSession :: session.outputs.map .wait ++ [.readClock, .updateCacheFile]

def events (session : Session) (numWarmup numRun : Int32) : List Event :=
  session.inputs.map .fillInput ++ session.outputs.map .createHostTensor
    ++ repeated (count numWarmup + count numRun) (roundEvents session)

def log (α : Type) [Double α] (numWarmup numRun : Int32) (clock : Nat → Int) : List Line :=
  [metricLine "WARMUP\t" (warmupDurations clock numWarmup : List α),
    metricLine "RUN\t" (runDurations clock numWarmup numRun : List α)]

def argLines (flags : Flags) : List Line :=
  [.info "=================================\tMNN Args Info\t=================================".toList,
    .info ("model path: ".toList ++ flags.model), .info ("backend: ".toList ++ flags.backend),
    .info ("cpu threads: ".toList ++ decimal flags.numThreads.toInt),
    .info ("num_warmup: ".toList ++ decimal flags.numWarmup.toInt),
    .info ("num_runs: ".toList ++ decimal flags.numRuns.toInt),
    .info ("cl_mem_type: ".toList ++ flags.clMemType),
    .info ("precision: ".toList ++ decimal flags.mnnPrecision.toInt)]

/-- The backends of an Android system. -/
def androidBackends : List (Str × ForwardType) :=
  [("arm".toList, .cpu), ("opencl".toList, .opencl), ("nnapi".toList, .nn),
    ("hw_npu".toList, .user0)]

/-- What a backend stands for on this system, if it is known there. -/
def forwardType? (linux android : Bool) (backend : Str) : Option ForwardType :=
  if backend = "x64".toList then if linux then some .cpu else none
  else if android then androidBackends.lookup backend else none

def gpuMode (clMemType : Str) : GpuMode :=
  if clMemType = "cl_mem_image".toList then .tuningWideImage else .tuningWideBuffer

/-- The threads are those of the CPU, and the mode is that of OpenCL. -/
def config (linux android : Bool) (flags : Flags) : ScheduleConfig where
  type := forwardType? linux android flags.backend
  numThread := if forwardType? linux android flags.backend = some .cpu then some flags.numThreads
    else none
  mode := if forwardType? linux android flags.backend = some .opencl then
      some (gpuMode flags.clMemType)
    else none
  backupType := .cpu
  precision := precisionMode flags.mnnPrecision

def modeLine : GpuMode → Line
  | .tuningWideBuffer =>
    .info "MNNGpuMode::MNN_GPU_TUNING_WIDE | MNNGpuMode::MNN_GPU_MEMORY_BUFFER".toList
  | .tuningWideImage =>
    .info "MNNGpuMode::MNN_GPU_TUNING_WIDE | MNNGpuMode::MNN_GPU_MEMORY_IMAGE".toList

/-- There is a line for two of the backends; that for `arm` always says four threads. -/
def configLines (android : Bool) (flags : Flags) : List Line :=
  if android = true ∧ flags.backend = "arm".toList then [.info "backend arm, num thread 4".toList]
  else if android = true ∧ flags.backend = "opencl".toList then
    [modeLine (gpuMode flags.clMemType)]
  else []

end Mnn

/-! ## ncnn -/

namespace Ncnn

open UnifiedModelBenchmark.Ncnn

section

variable (inputTensorsInfo : MTensorDict)

/-- The width, the height and the channels of an input, if its shape has these entries. -/
def whc? (name : Str) : Option (Int32 × Int32 × Int32) :=
  match inputTensorsInfo.queryNcnnShapeInfo name with
  | _ :: c :: h :: w :: _ => some (w, h, c)
  | _ => none

/-- The driver looks at the shape of an input. -/
def looksAt (name : Str) : Event := .indexShape name (inputTensorsInfo.queryNcnnShapeInfo name)

def inputLine (input : Str × Nat) : List Line :=
  match whc? inputTensorsInfo input.1 with
  | some (w, h, c) =>
    [.info (decimal input.2 ++ " input: ".toList ++ input.1 ++ ", WxHxDxC: ".toList
      ++ decimal w.toInt ++ 'x' :: decimal h.toInt ++ 'x' :: decimal 1 ++ 'x' :: decimal c.toInt)]
  | none => []

def inputEvents (name : Str) : List Event :=
  match whc? inputTensorsInfo name with
  | some (w, h, c) => [looksAt inputTensorsInfo name, .input name w h c]
  | none => [looksAt inputTensorsInfo name]

/-- All inputs, all outputs. -/
def inferenceEvents (net : Net) : List Event :=
  net.inputNames.flatMap (inputEvents inputTensorsInfo) ++ net.outputNames.map .extract

/-- The creation of the extractor is not measured in a warm-up round. -/
def warmupRoundEvents (net : Net) : List Event :=
  .createExtractor :: .readClock :: inferenceEvents inputTensorsInfo net ++ [.readClock]

/-- It is measured in the rounds that follow. -/
def runRoundEvents (net : Net) : List Event :=
  .readClock :: .createExtractor :: inferenceEvents inputTensorsInfo net ++ [.readClock]

end

section

variable (what : StdException → Str) (flags : Flags) (net : Net)

def argLines : List Line :=
  [.info "=================================\tNCNN Args Info\t=================================".toList,
    .info ("model path: ".toList ++ flags.model), .info ("param path: ".toList ++ flags.param),
    .info ("backend: ".toList ++ flags.backend),
    .info ("cpu threads: ".toList ++ decimal flags.numThreads.toInt),
    .info ("num_warmup: ".toList ++ decimal flags.numWarmup.toInt),
    .info ("num_runs: ".toList ++ decimal flags.numRuns.toInt),
    .info ("input_info: ".toList ++ flags.inputInfo)]

/-- `run` up to the first look at a shape. -/
def openingLines (modelPath : Str) : List Line :=
  [runtimeInfo]
    ++ (if net.loadParam = -1 then [.error ("fail load param: ".toList ++ modelPath)] else [])
    ++ (if net.loadModel = -1 then [.error ("fail load model: ".toList ++ modelPath)] else [])

/-- The lines before the first look at a shape: what the parser complains about, the flags, a
backend that is not known, and a model that cannot be loaded. -/
def startLines : List Line :=
  (parseTensorInfo flags.inputInfo []).logged.map (fun e => .error (what e)) ++ argLines flags
    ++ (if flags.backend = "arm".toList ∨ flags.backend = "vulkan".toList then []
      else [.error ("unkown backend for ncnn: ".toList ++ flags.backend)])
    ++ openingLines net flags.model

def startEvents : List Event :=
  if flags.backend = "vulkan".toList then [.setDevice] else []

def log (α : Type) [Double α] (clock : Nat → Int) : List Line :=
  startLines what flags net
    ++ net.inputNames.zipIdx.flatMap (inputLine (MTensorDict.ofFlag flags.inputInfo))
    ++ [metricLine "WARMUP:\t" (warmupDurations clock flags.numWarmup : List α),
      metricLine "RUN:\t" (warmupDurations clock flags.numWarmup : List α)]

def events : List Event :=
  startEvents flags ++ net.inputNames.map (looksAt (MTensorDict.ofFlag flags.inputInfo))
    ++ (repeated (count flags.numWarmup)
        (warmupRoundEvents (MTensorDict.ofFlag flags.inputInfo) net)
      ++ repeated (count flags.numRuns)
        (runRoundEvents (MTensorDict.ofFlag flags.inputInfo) net))

end

end Ncnn

end UnifiedModelBenchmark.Spec
