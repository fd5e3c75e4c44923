import UnifiedModelBenchmark.Benchmark.Timing

/-!
# `benchmark/mnn_benchmark.cpp`
-/

namespace UnifiedModelBenchmark.Mnn

open Infra Infra.Cxx Program

/-- What the driver asks of MNN, and its readings of the clock. -/
inductive Event
  | fillInput (name : Str)
  | createHostTensor (name : Str)
  | runSession
  | wait (name : Str)
  | updateCacheFile
  | readClock
deriving DecidableEq, Repr

instance : Clocked Event where
  readClock := .readClock

/-- The names of the inputs and outputs of the session, in the order of the two maps. -/
structure Session where
  inputs : List Str
  outputs : List Str

/-- The flags that the driver reads. -/
structure Flags where
  model : Str
  backend : Str
  numThreads : Int32
  numWarmup : Int32
  numRuns : Int32
  clMemType : Str
  mnnPrecision : Int32

/-! ## What a session is created with -/

inductive PrecisionMode
  | normal
  | high
  | low
  | lowBF16
deriving DecidableEq, Repr

inductive ForwardType
  | cpu
  | opencl
  | nn
  | user0
deriving DecidableEq, Repr

/-- Both modes have `MNN_GPU_TUNING_WIDE` set. -/
inductive GpuMode
  | tuningWideBuffer
  | tuningWideImage
deriving DecidableEq, Repr

/-- What the driver sets in a `ScheduleConfig`, which is `none` where it leaves the default. -/
structure ScheduleConfig where
  type : Option ForwardType := none
  numThread : Option Int32 := none
  mode : Option GpuMode := none
  backupType : ForwardType
  precision : PrecisionMode
deriving DecidableEq, Repr

variable {α : Type} [Double α]

/-- The rounds of the two loops are the same. The outputs are waited for before `end`. -/
def round (android : Bool) (session : Session) (profiler : MyProfiler) :
    Program Stop Event (MyProfiler × α) := do
  let x ← measured android (do
    emit .runSession
    session.outputs.forM fun name => emit (.wait name)) profiler
  emit .updateCacheFile
  pure x

def benchmark (α : Type) [Double α] (android : Bool) (session : Session)
    (numWarmup numRun : Int32) : Program Stop Event Unit := do
  session.inputs.forM fun name => emit (.fillInput name)
  session.outputs.forM fun name => emit (.createHostTensor name)
  let (warmupLatData, runLatData) ← phases numWarmup numRun
    (round (α := α) android session) (round android session)
  info ("WARMUP\t".toList ++ showLatencyMetric warmupLatData)
  info ("RUN\t".toList ++ showLatencyMetric runLatData)

/-! ## From the flags -/

def printArgs (flags : Flags) : Program Stop Event Unit := do
  info "=================================\tMNN Args Info\t=================================".toList
  info ("model path: ".toList ++ flags.model)
  info ("backend: ".toList ++ flags.backend)
  info ("cpu threads: ".toList ++ decimal flags.numThreads.toInt)
  info ("num_warmup: ".toList ++ decimal flags.numWarmup.toInt)
  info ("num_runs: ".toList ++ decimal flags.numRuns.toInt)
  info ("cl_mem_type: ".toList ++ flags.clMemType)
  info ("precision: ".toList ++ decimal flags.mnnPrecision.toInt)

/-- The `switch` over the precision. -/
def precisionMode (precision : Int32) : PrecisionMode :=
  if precision = 0 then .normal
  else if precision = 1 then .high
  else if precision = 2 then .low
  else if precision = 3 then .lowBF16
  else .normal

/-- The branch for `opencl`; memory of a type that is not known is a buffer. -/
def configureOpencl (clMemType : Str) (conf : ScheduleConfig) :
    Program Stop Event ScheduleConfig := do
  let conf := { conf with type := some .opencl }
  let conf ← (if clMemType = "cl_mem_buffer".toList then do
      info "MNNGpuMode::MNN_GPU_TUNING_WIDE | MNNGpuMode::MNN_GPU_MEMORY_BUFFER".toList
      pure { conf with mode := some .tuningWideBuffer }
    else if clMemType = "cl_mem_image".toList then do
      info "MNNGpuMode::MNN_GPU_TUNING_WIDE | MNNGpuMode::MNN_GPU_MEMORY_IMAGE".toList
      pure { conf with mode := some .tuningWideImage }
    else do
      info "MNNGpuMode::MNN_GPU_TUNING_WIDE | MNNGpuMode::MNN_GPU_MEMORY_BUFFER".toList
      pure { conf with mode := some .tuningWideBuffer })
  pure { conf with backupType := .cpu }

/-- The configuration for the backend. An Android system is a Linux system, too. A backend that is
not known there leaves the type unset. -/
def configure (linux android : Bool) (flags : Flags) : Program Stop Event ScheduleConfig := do
  let conf : ScheduleConfig :=
    { backupType := .cpu, precision := precisionMode flags.mnnPrecision }
  let conf := if linux = true ∧ flags.backend = "x64".toList then
      { conf with type := some .cpu, numThread := some flags.numThreads, backupType := .cpu }
    else conf
  if android = true then
    if flags.backend = "arm".toList then
      let conf := { conf with type := some .cpu }
      info "backend arm, num thread 4".toList
      pure { conf with numThread := some flags.numThreads, backupType := .cpu }
    else if flags.backend = "opencl".toList then
      configureOpencl flags.clMemType conf
    else if flags.backend = "nnapi".toList then
      pure { conf with type := some .nn, backupType := .cpu }
    else if flags.backend = "hw_npu".toList then
      pure { conf with type := some .user0, backupType := .cpu }
    else
      pure conf
  else
    pure conf

/-- `createFromFile` gives an interpreter, which is what it makes of a configuration. -/
def main (α : Type) [Double α] (linux android : Bool)
    (createFromFile : Str → Option (ScheduleConfig → Session)) (flags : Flags) :
    Program Stop Event Unit := do
  printArgs flags
  match createFromFile flags.model with
  | none => pure ()
  | some createSession =>
    let conf ← configure linux android flags
    benchmark α android (createSession conf) flags.numWarmup flags.numRuns

end UnifiedModelBenchmark.Mnn
