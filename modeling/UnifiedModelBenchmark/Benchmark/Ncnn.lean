import UnifiedModelBenchmark.Benchmark.Timing
import UnifiedModelBenchmark.Mutils.Tensor

/-!
# `benchmark/ncnn_benchmark.cpp`

An index behind the end of a vector is an undefined read: the run stops there, which says nothing of
what the program does next. The shapes that are indexed are kept as events, so that what can be said
of them does not depend on that.
-/

namespace UnifiedModelBenchmark.Ncnn

open Infra Infra.Cxx Program

/-- What the driver asks of ncnn, the shapes it indexes, and its readings of the clock. -/
inductive Event
  | setDevice
  | indexShape (name : Str) (shape : List Int32)
  | createExtractor
  | input (name : Str) (w h c : Int32)
  | extract (name : Str)
  | readClock
deriving DecidableEq, Repr

instance : Clocked Event where
  readClock := .readClock

/-- What `load_param` and `load_model` return, and the names of the inputs and outputs. -/
structure Net where
  loadParam : Int32
  loadModel : Int32
  inputNames : List Str
  outputNames : List Str

/-- The flags that the driver reads. -/
structure Flags where
  model : Str
  param : Str
  backend : Str
  numThreads : Int32
  numWarmup : Int32
  numRuns : Int32
  inputInfo : Str

variable {α : Type} [Double α]

/-- `shape[3]`, `shape[2]` and `shape[1]`: the width, the height and the channels. -/
def indexShape (name : Str) (shape : List Int32) : Program Stop Event (Int32 × Int32 × Int32) := do
  emit (.indexShape name shape)
  match shape[3]?, shape[2]?, shape[1]? with
  | some w, some h, some c => pure (w, h, c)
  | _, _, _ => stop .undefinedRead

/-- The line on the `i`-th input. -/
def logInput (inputTensorsInfo : MTensorDict) (input : Str × Nat) : Program Stop Event PUnit := do
  let (w, h, c) ← indexShape input.1 (inputTensorsInfo.queryNcnnShapeInfo input.1)
  info (decimal input.2 ++ " input: ".toList ++ input.1 ++ ", WxHxDxC: ".toList ++ decimal w.toInt
    ++ 'x' :: decimal h.toInt ++ 'x' :: decimal 1 ++ 'x' :: decimal c.toInt)

def setInput (inputTensorsInfo : MTensorDict) (name : Str) : Program Stop Event PUnit := do
  let (w, h, c) ← indexShape name (inputTensorsInfo.queryNcnnShapeInfo name)
  emit (.input name w h c)

/-- All inputs are set, then all outputs are extracted. -/
def inference (net : Net) (inputTensorsInfo : MTensorDict) : Program Stop Event Unit := do
  net.inputNames.forM (setInput inputTensorsInfo)
  net.outputNames.forM fun name => emit (.extract name)

/-- A warm-up round creates the extractor before it is measured. -/
def warmupRound (android : Bool) (net : Net) (inputTensorsInfo : MTensorDict)
    (timer : MyProfiler) : Program Stop Event (MyProfiler × α) := do
  emit .createExtractor
  measured android (inference net inputTensorsInfo) timer

/-- A measured round includes the creation of the extractor. -/
def runRound (android : Bool) (net : Net) (inputTensorsInfo : MTensorDict) (timer : MyProfiler) :
    Program Stop Event (MyProfiler × α) :=
  measured android (do
    emit .createExtractor
    inference net inputTensorsInfo) timer

/-- Both lines are made from the times of the warm-up rounds. -/
def run (α : Type) [Double α] (android : Bool) (net : Net) (modelPath : Str)
    (inputTensorsInfo : MTensorDict) (numsWarmup numRuns : Int32) (useVulkanCompute : Bool) :
    Program Stop Event Unit := do
  info "=================================\tRuntime Info\t=================================".toList
  (if useVulkanCompute then emit .setDevice else pure ())
  -- a failure to load is logged, and the driver goes on
  (if net.loadParam = -1 then error ("fail load param: ".toList ++ modelPath) else pure ())
  (if net.loadModel = -1 then error ("fail load model: ".toList ++ modelPath) else pure ())
  net.inputNames.zipIdx.forM (logInput inputTensorsInfo)
  let (warmupLatData, _runLatData) ← phases numsWarmup numRuns
    (warmupRound (α := α) android net inputTensorsInfo) (runRound android net inputTensorsInfo)
  info ("WARMUP:\t".toList ++ showLatencyMetric warmupLatData)
  info ("RUN:\t".toList ++ showLatencyMetric warmupLatData)

def printArgs (flags : Flags) : Program Stop Event Unit := do
  info "=================================\tNCNN Args Info\t=================================".toList
  info ("model path: ".toList ++ flags.model)
  info ("param path: ".toList ++ flags.param)
  info ("backend: ".toList ++ flags.backend)
  info ("cpu threads: ".toList ++ decimal flags.numThreads.toInt)
  info ("num_warmup: ".toList ++ decimal flags.numWarmup.toInt)
  info ("num_runs: ".toList ++ decimal flags.numRuns.toInt)
  info ("input_info: ".toList ++ flags.inputInfo)

/--
The code that `parse_tensor_info` returns is not looked at; it logs the `what` of its exceptions. A
backend that is not known leaves `use_vulkan_compute` as it is in a new `ncnn::Option`, which is
false.
-/
def main (α : Type) [Double α] (android : Bool) (net : Net) (what : StdException → Str)
    (flags : Flags) : Program Stop Event Unit := do
  (parseTensorInfo flags.inputInfo []).logged.forM fun e => error (what e)
  let inputTensorsInfo := MTensorDict.ofFlag flags.inputInfo
  printArgs flags
  if flags.backend = "arm".toList then
    run α android net flags.model inputTensorsInfo flags.numWarmup flags.numRuns false
  else if flags.backend = "vulkan".toList then
    run α android net flags.model inputTensorsInfo flags.numWarmup flags.numRuns true
  else
    error ("unkown backend for ncnn: ".toList ++ flags.backend)
    run α android net flags.model inputTensorsInfo flags.numWarmup flags.numRuns false

end UnifiedModelBenchmark.Ncnn
