import UnifiedModelBenchmark.Benchmark.Timing

/-!
# `benchmark/onnxruntime_benchmark.cpp`
-/

namespace UnifiedModelBenchmark.Onnxruntime

open Infra Infra.Cxx Program

/-- What the driver asks of ONNX Runtime, and its readings of the clock. -/
inductive Event
  | createTensor (size : UInt64) (dims : List Int)
  | run (inputNames outputNames : List Str)
  | readClock
deriving DecidableEq, Repr

instance : Clocked Event where
  readClock := .readClock

/-- What the session says about the model: the names and the dimensions. -/
structure Session where
  inputs : List (Str × List Int)
  outputs : List (Str × List Int)

/-- The flags that the driver uses. -/
structure Flags where
  model : Str
  backend : Str
  enableOpProfiling : Bool
  resultPrefix : Str
  numThreads : Int32
  numWarmup : Int32
  numRuns : Int32

/-- The options of a session that depend on the flags. -/
structure SessionOptions where
  profiling : Option Str
  intraOpNumThreads : Int32
deriving DecidableEq, Repr

variable {α : Type} [Double α]

/-- A dimension the model leaves open is taken to be 1. -/
def fixedDim (dim : Int) : Int := if dim = -1 then 1 else dim

/-- `name, dim: [d1,d2]` behind the kind of the tensor -/
def tensorInfo (kind : String) (name : Str) (dims : List Int) : Str :=
  kind.toList ++ name ++ ", dim: [".toList ++ List.intercalate [','] (dims.map decimal) ++ [']']

/-- `size *= dim` in `size_t`. -/
def elementCount (dims : List Int) : UInt64 :=
  dims.foldl (fun size dim => size * UInt64.ofInt dim) 1

/-- `sizeof(float) * size`, which is what `malloc` gets for an input. -/
def bufferBytes (dims : List Int) : UInt64 := 4 * elementCount dims

def prepareInput (input : (Str × List Int) × Nat) : Program Stop Event PUnit := do
  let dims := input.1.2.map fixedDim
  info (decimal input.2 ++ ' ' :: tensorInfo "input: " input.1.1 dims)
  emit (.createTensor (elementCount dims) dims)

def prepareOutput (output : (Str × List Int) × Nat) : Program Stop Event PUnit :=
  info (decimal output.2 ++ ' ' :: tensorInfo "output: " output.1.1 (output.1.2.map fixedDim))

/-- The rounds of the two loops are the same. -/
def round (android : Bool) (session : Session) (profiler : MyProfiler) :
    Program Stop Event (MyProfiler × α) :=
  measured android (emit (.run (session.inputs.map Prod.fst) (session.outputs.map Prod.fst)))
    profiler

def run (α : Type) [Double α] (android : Bool) (session : Session) (numsWarmup numRuns : Int32) :
    Program Stop Event Unit := do
  info "=================================\tRuntime Info\t=================================".toList
  session.inputs.zipIdx.forM prepareInput
  session.outputs.zipIdx.forM prepareOutput
  let (warmupLatData, runLatData) ← phases numsWarmup numRuns
    (round (α := α) android session) (round android session)
  info ("WARMUP:\t".toList ++ showLatencyMetric warmupLatData)
  info ("RUN:\t".toList ++ showLatencyMetric runLatData)

def printArgs (flags : Flags) : Program Stop Event Unit := do
  info "=================================\tONNXRUNTIME Args Info\t=================================".toList
  info ("model path: ".toList ++ flags.model)
  info ("backend: ".toList ++ flags.backend)
  info ("cpu threads: ".toList ++ decimal flags.numThreads.toInt)
  info ("num_warmup: ".toList ++ decimal flags.numWarmup.toInt)
  info ("num_runs: ".toList ++ decimal flags.numRuns.toInt)

def sessionOptions (flags : Flags) : SessionOptions where
  profiling := if flags.enableOpProfiling then some flags.resultPrefix else none
  intraOpNumThreads := flags.numThreads

/-- The session is created before the driver looks at the backend. The warning for `nnapi` is not a
line of this log. -/
def main (α : Type) [Double α] (android : Bool) (createSession : Str → SessionOptions → Session)
    (flags : Flags) : Program Stop Event Unit := do
  printArgs flags
  let session := createSession flags.model (sessionOptions flags)
  if flags.backend = "arm".toList then
    run α android session flags.numWarmup flags.numRuns
  else if flags.backend = "nnapi".toList then
    run α android session flags.numWarmup flags.numRuns
  else
    error ("unkown backend for onnxruntime: ".toList ++ flags.backend)

end UnifiedModelBenchmark.Onnxruntime
