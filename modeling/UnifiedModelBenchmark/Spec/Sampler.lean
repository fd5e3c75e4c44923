import UnifiedModelBenchmark.Mutils.Profiler

/-!
# What the power monitor observes

The power monitor without its streams and loop variables. An iteration finds both files, one of
them or none. What comes of a sequence of iterations is a matter of that, of the first lines of the
files, and of the times at which they are read.

`Properties/Sampler.lean` shows that `monitoring_power` computes this.
-/

namespace UnifiedModelBenchmark.Spec

open Infra Infra.Cxx

/-- The sample of files with these contents, read at the time `now`. The one before was taken at
the time `since`. -/
def sampleOf (since now : Int) (current voltage : Str) : Except StdException RuntimeProileData :=
  match stoll (IfStream.firstLine current) with
  | .error e => .error e
  | .ok i =>
    match stoll (IfStream.firstLine voltage) with
    | .error e => .error e
    | .ok u =>
      .ok { intervalTime := (now - since).tdiv 1000, currentValue := i.toInt
            voltageValue := u.toInt, memoryValue := 0 }

/-- The samples of the iterations. An iteration that finds both files takes a sample, one that finds
none is passed over, and with one that finds only one of them the sampling is over. -/
def observe (since : Int) : List Reading → Except StdException (List RuntimeProileData)
  | [] => .ok []
  | r :: rs =>
    match r.current, r.voltage with
    | some current, some voltage =>
      match sampleOf since r.now current voltage with
      | .error e => .error e
      | .ok x => (observe r.now rs).map (x :: ·)
    | none, none => observe since rs
    | some _, none => .ok []
    | none, some _ => .ok []

end UnifiedModelBenchmark.Spec
