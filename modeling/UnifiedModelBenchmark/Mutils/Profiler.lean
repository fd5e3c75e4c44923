import UnifiedModelBenchmark.Infra.Double

/-!
# `mutils/profiler.cpp`

The profiler object, the power monitor that runs in its own thread, and the reports.

Time points are nanoseconds. What a thread does between two points where another thread can get
in is a definition of its own: `ProfilerOp` for the thread that calls `start` and `end`,
`Monitor.openFiles` and the definitions after it for the monitor.
-/

namespace UnifiedModelBenchmark

open Infra Infra.Cxx

structure RuntimeProileData where
  intervalTime : Int
  currentValue : Int
  voltageValue : Int
  memoryValue : Int
deriving DecidableEq, Repr

/-! ## The profiler object -/

/-- `power_monitor_thread` is the thread the object is joinable with, by its number. -/
structure MyProfiler where
  startTime : Int := 0
  endTime : Int := 0
  isMonitorRunning : Bool := false
  powerMonitorThread : Option Nat := none
  useLatProfile : Bool := true
  useEnergyProfile : Bool := false
  data : List RuntimeProileData := []
  unit : String := "us"
deriving DecidableEq, Repr

/-- The steps of `start` and `end`. -/
inductive ProfilerOp
  | clearData
  | setRunning (b : Bool)
  | spawn
  | readStartTime
  | readEndTime
  | join
deriving DecidableEq, Repr

/-- The two errors of `std::thread`. -/
inductive ThreadError
  | assignToJoinable
  | joinNotJoinable
deriving DecidableEq, Repr

namespace MyProfiler

/-- `android` is whether `__ANDROID__` is defined. -/
def start (android : Bool) (p : MyProfiler) : List ProfilerOp :=
  (if android && p.useEnergyProfile then [.clearData, .setRunning true, .spawn] else [])
    ++ [.readStartTime]

def «end» (android : Bool) (p : MyProfiler) : List ProfilerOp :=
  .readEndTime :: (if android && p.useEnergyProfile then [.setRunning false, .join] else [])

/-- One step, at the time `now`; a thread that is spawned gets the number `id`. -/
def exec (now : Int) (id : Nat) (p : MyProfiler) : ProfilerOp → Except ThreadError MyProfiler
  | .clearData => .ok { p with data := [] }
  | .setRunning b => .ok { p with isMonitorRunning := b }
  | .spawn =>
    match p.powerMonitorThread with
    | some _ => .error .assignToJoinable
    | none => .ok { p with powerMonitorThread := some id }
  | .readStartTime => .ok { p with startTime := now }
  | .readEndTime => .ok { p with endTime := now }
  | .join =>
    match p.powerMonitorThread with
    | none => .error .joinNotJoinable
    | some _ => .ok { p with powerMonitorThread := none }

/-- `duration_cast<microseconds>` cuts off towards zero. -/
def getTime {α : Type} [Double α] (p : MyProfiler) : α := ((p.endTime - p.startTime).tdiv 1000 : Int)

end MyProfiler

/-! ## The power monitor -/

/-- What an iteration of the monitor finds: the content of the two files, if they can be opened,
and the time. -/
structure Reading where
  current : Option Str
  voltage : Option Str
  now : Int
deriving DecidableEq, Repr

/-- The local variables of `monitoring_power`. -/
structure Monitor where
  currentFile : IfStream
  voltageFile : IfStream
  currentValue : Str
  voltageValue : Str
  tp1 : Int
  tp2 : Int
deriving DecidableEq, Repr

namespace Monitor

/-- In front of the loop, at the time `now`. -/
def initial (now : Int) : Monitor :=
  { currentFile := .initial, voltageFile := .initial, currentValue := [], voltageValue := []
    tp1 := now, tp2 := 0 }

def openFiles (m : Monitor) (r : Reading) : Monitor :=
  { m with
    currentFile := m.currentFile.openFile r.current
    voltageFile := m.voltageFile.openFile r.voltage }

/-- `!current_file || !voltage_file` -/
def openFailed (m : Monitor) : Bool := m.currentFile.failbit || m.voltageFile.failbit

/-- The two `getline`s and the reading of the clock. -/
def readFiles (m : Monitor) (r : Reading) : Monitor :=
  { m with
    currentFile := (m.currentFile.getline m.currentValue).1
    currentValue := (m.currentFile.getline m.currentValue).2
    voltageFile := (m.voltageFile.getline m.voltageValue).1
    voltageValue := (m.voltageFile.getline m.voltageValue).2
    tp2 := r.now }

/-- `time_spent`, in microseconds. -/
def timeSpent (m : Monitor) : Int := (m.tp2 - m.tp1).tdiv 1000

/-- The sample that is pushed; `stoll` may throw. -/
def sample (m : Monitor) : Except StdException RuntimeProileData :=
  match stoll m.currentValue with
  | .error e => .error e
  | .ok current =>
    match stoll m.voltageValue with
    | .error e => .error e
    | .ok voltage =>
      .ok { intervalTime := m.timeSpent, currentValue := current.toInt
            voltageValue := voltage.toInt, memoryValue := 0 }

/-- `tp1 = tp2` -/
def restart (m : Monitor) : Monitor := { m with tp1 := m.tp2 }

def closeFiles (m : Monitor) : Monitor :=
  { m with currentFile := m.currentFile.close, voltageFile := m.voltageFile.close }

/-- The body of the loop on the locals and the samples. If a file cannot be opened, `continue`
leaves it before the files are closed. -/
def iteration (s : Monitor × List RuntimeProileData) (r : Reading) :
    Except StdException (Monitor × List RuntimeProileData) :=
  let m := s.1.openFiles r
  if m.openFailed then .ok (m, s.2)
  else
    let m := m.readFiles r
    match m.sample with
    | .error e => .error e
    | .ok x => .ok (m.restart.closeFiles, s.2 ++ [x])

end Monitor

/-- `monitoring_power` from the time `now`, over as many iterations as `is_monitor_running` was
seen true, each with what it found. -/
def monitoringPower (now : Int) (readings : List Reading) (powerData : List RuntimeProileData) :
    Except StdException (Monitor × List RuntimeProileData) :=
  readings.foldlM Monitor.iteration (.initial now, powerData)

/-- What has become of a call of `monitoring_power`. -/
inductive MonitorEnd
  | looping (s : Monitor × List RuntimeProileData)
  | returned (s : Monitor × List RuntimeProileData)
  | thrown (e : StdException)
deriving DecidableEq, Repr

/-- The loop, check by check: `none` sees `is_monitor_running` false, and `some r` sees it true, with
what the iteration then finds. -/
def monitorLoop (s : Monitor × List RuntimeProileData) : List (Option Reading) → MonitorEnd
  | [] => .looping s
  | none :: _ => .returned s
  | some r :: checks =>
    match Monitor.iteration s r with
    | .error e => .thrown e
    | .ok s' => monitorLoop s' checks

/-! ## Reports -/

/-- The lines of `debug`, if no sample is pushed in the meantime: the number of samples, and three
numbers for each. -/
def MyProfiler.debug (p : MyProfiler) : List Str :=
  decimal p.data.length :: p.data.map fun pData =>
    "time: ".toList ++ decimal pData.intervalTime ++ " current: ".toList
      ++ decimal pData.currentValue ++ " volatge: ".toList ++ decimal pData.voltageValue

section

variable {α : Type} [Double α]

structure Stats (α : Type) where
  minVal : α
  maxVal : α
  avgVal : α
  stdVal : α

/-- The sum, the maximum and the minimum after one more element. -/
def addSample (acc : α × α × α) (x : α) : α × α × α :=
  (acc.1 + x, if acc.2.1 < x then x else acc.2.1, if x < acc.2.2 then x else acc.2.2)

/-- `int size = arr.size()` -/
def intSize {β : Type} (arr : List β) : Int := (Int32.ofNat arr.length).toInt

/-- The loops run over the first `size` elements, and both divisions are by `size`. -/
def computeMinMaxAvgStd (arr : List α) : Stats α :=
  let size := intSize arr
  let visited := arr.take size.toNat
  -- the maximum starts at the smallest positive number
  let acc := visited.foldl addSample (0.0, Double.dblMin, Double.dblMax)
  let mean := acc.1 / (size : α)
  let stddev := visited.foldl (fun (s : α) x => s + Double.pow (x - mean) 2) 0.0
  { minVal := acc.2.2, maxVal := acc.2.1, avgVal := mean
    stdVal := Double.sqrt (stddev / (size : α)) }

/-- The line of `show_latency_metric` and of `show_energy_metric`, which differ in the unit. -/
def showMetric (unit : String) (data : List α) : Str :=
  let rounds := intSize data
  let stats := computeMinMaxAvgStd data
  "rounds: ".toList ++ decimal rounds ++ ", min: ".toList ++ Double.text stats.minVal
    ++ ", max: ".toList ++ Double.text stats.maxVal ++ ", avg: ".toList
    ++ Double.text stats.avgVal ++ " ,std: ".toList ++ Double.text stats.stdVal
    ++ ", unit: ".toList ++ unit.toList

def showLatencyMetric (latencyData : List α) : Str := showMetric "us" latencyData

def showEnergyMetric (powerData : List α) : Str := showMetric "mWh" powerData

/-- One sample added to the energy. -/
def addEnergy (energy : α) (d : RuntimeProileData) : α :=
  let current := 1e-3 * (d.currentValue : α)
  let voltage := 1e-3 * (d.voltageValue : α)
  let power := current * voltage
  energy + 1e-6 * (d.intervalTime : α) / ((3600 : Int) : α) * power

def computeEnergyFromPower (powerData : List RuntimeProileData) : α :=
  powerData.foldl addEnergy ((0 : Int) : α)

end

end UnifiedModelBenchmark
