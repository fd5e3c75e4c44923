import UnifiedModelBenchmark.Mutils.Profiler

/-!
# Rounds of energy profiling

A caller calls `start` and `end` in turn, on Android with `use_energy_profile` set, while the
threads it spawns run `monitoring_power`. The model is a transition function on the whole system:
an action says which thread makes its next step, and what it finds.

The caller's steps are the `ProfilerOp`s, a monitor's are those between two `Point`s. Everything
in between is local to one thread. The flag, the samples and the thread object are shared.
-/

namespace UnifiedModelBenchmark

open Infra Infra.Cxx

/-! ## Threads -/

/-- The points of `monitoring_power` where another thread can get in. -/
inductive Point
  | entry
  | check
  | opening
  | reading
  | pushing
  | closing
  | sleeping
deriving DecidableEq, Repr

/-- A monitor that has not returned yet. -/
structure Thread where
  id : Nat
  point : Point
  locals : Monitor
deriving DecidableEq, Repr

/-- What a step of a monitor comes to. -/
inductive ThreadStep
  | goesOn (t : Thread)
  | pushes (t : Thread) (x : RuntimeProileData)
  | returns
  | throws (e : StdException)
deriving DecidableEq, Repr

namespace Thread

/-- A step of a monitor while `is_monitor_running` is `running`. -/
def step (running : Bool) (t : Thread) (r : Reading) : ThreadStep :=
  match t.point with
  | .entry => .goesOn { t with point := .check, locals := .initial r.now }
  | .check => if running then .goesOn { t with point := .opening } else .returns
  | .opening =>
    let m := t.locals.openFiles r
    -- `continue` goes back to the check
    if m.openFailed then .goesOn { t with point := .check, locals := m }
    else .goesOn { t with point := .reading, locals := m }
  | .reading => .goesOn { t with point := .pushing, locals := t.locals.readFiles r }
  | .pushing =>
    match t.locals.sample with
    | .error e => .throws e
    | .ok x => .pushes { t with point := .closing, locals := t.locals.restart } x
  | .closing => .goesOn { t with point := .sleeping, locals := t.locals.closeFiles }
  | .sleeping => .goesOn { t with point := .check }

end Thread

/-! ## The system -/

/-- Where the caller is: between two calls, or in one of them with the steps that are left. -/
inductive Caller
  | idle
  | inStart (rest : List ProfilerOp)
  | measuring
  | inEnd (rest : List ProfilerOp)
deriving DecidableEq, Repr

/-- What ends the program: an error of `std::thread`, or an exception that leaves a monitor. -/
inductive Fault
  | thread (e : ThreadError)
  | uncaught (e : StdException)
deriving DecidableEq, Repr

/--
`threads` are the monitors that have not returned. They are numbered in the order they are
spawned, from 1. `ended` counts the calls of `end` that have returned, and `pushed` keeps every
sample with the number of the monitor that pushed it; the program has neither of the two.
-/
structure System where
  profiler : MyProfiler
  caller : Caller
  threads : List Thread
  spawned : Nat
  fault : Option Fault
  ended : Nat
  pushed : List (Nat × RuntimeProileData)
deriving DecidableEq, Repr

/-- A step of the caller, at a time; a look of the caller at the samples; a step of a monitor. -/
inductive Action
  | caller (now : Int)
  | readData
  | monitor (id : Nat) (r : Reading)
deriving DecidableEq, Repr

namespace System

def initial : System :=
  { profiler := { useEnergyProfile := true }, caller := .idle, threads := [], spawned := 0
    fault := none, ended := 0, pushed := [] }

/-- The samples the monitor with this number has pushed, in order. -/
def pushedBy (s : System) (id : Nat) : List RuntimeProileData :=
  (s.pushed.filter fun p => p.1 = id).map Prod.snd

/-- `join` has to wait while the thread runs. -/
def blocked (s : System) (op : ProfilerOp) : Bool :=
  op = .join && s.threads.any fun t => some t.id = s.profiler.powerMonitorThread

/-- The caller's step `op`, after which it is at `next`. -/
def perform (s : System) (now : Int) (op : ProfilerOp) (next : Caller) : Option System :=
  if s.blocked op then none
  else
    match s.profiler.exec now (s.spawned + 1) op with
    | .error e => some { s with fault := some (.thread e) }
    | .ok p =>
      if op = .spawn then
        some { s with
          profiler := p, caller := next, spawned := s.spawned + 1
          threads := s.threads ++
            [{ id := s.spawned + 1, point := .entry, locals := .initial now }] }
      else some { s with profiler := p, caller := next }

/-- The caller calls `start` and `end` in turn. -/
def callerStep (s : System) (now : Int) : Option System :=
  match s.caller with
  | .idle => some { s with caller := .inStart (s.profiler.start true) }
  | .inStart (op :: rest) => s.perform now op (.inStart rest)
  | .inStart [] => some { s with caller := .measuring }
  | .measuring => some { s with caller := .inEnd (s.profiler.end true) }
  | .inEnd (op :: rest) => s.perform now op (.inEnd rest)
  | .inEnd [] => some { s with caller := .idle, ended := s.ended + 1 }

def replaceThread (s : System) (t : Thread) : List Thread :=
  s.threads.map fun u => if u.id = t.id then t else u

/-- A step of the monitor `t`. -/
def threadStep (s : System) (t : Thread) (r : Reading) : System :=
  match t.step s.profiler.isMonitorRunning r with
  | .goesOn t' => { s with threads := s.replaceThread t' }
  | .pushes t' x =>
    { s with
      threads := s.replaceThread t'
      profiler := { s.profiler with data := s.profiler.data ++ [x] }
      pushed := s.pushed ++ [(t.id, x)] }
  | .returns => { s with threads := s.threads.filter fun u => u.id ≠ t.id }
  | .throws e => { s with fault := some (.uncaught e) }

def monitorStep (s : System) (id : Nat) (r : Reading) : Option System :=
  match s.threads.find? fun t => t.id = id with
  | none => none
  | some t => some (s.threadStep t r)

/-- One step of the system; after a fault there is none. -/
def step (s : System) (a : Action) : Option System :=
  match s.fault with
  | some _ => none
  | none =>
    match a with
    | .caller now => s.callerStep now
    | .readData => if s.caller = .idle then some s else none
    | .monitor id r => s.monitorStep id r

/-- Runs from the start. -/
def run (actions : List Action) : Option System := actions.foldlM step initial

end System

end UnifiedModelBenchmark
