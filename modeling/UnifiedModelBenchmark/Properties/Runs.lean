import UnifiedModelBenchmark.Infra.Effects
import UnifiedModelBenchmark.Properties.Calls
import UnifiedModelBenchmark.Spec.Runs

/-!
# The drivers from their start to their end

A loop of rounds that ask the engine for the same things asks for them as often as it runs
(`rounds_adds`), so the world after a driver can be written down. What a round asks for between its
two readings of the clock stands between them in the events (`roundAdds_measured`).
-/

namespace UnifiedModelBenchmark

open Infra Infra.Cxx Program Spec

variable {α : Type} [Double α]

/-! ## Loops of rounds -/

section

variable {Event : Type}

/-- A round without energy profiling that adds these events, and no lines. -/
def RoundAdds (round : MyProfiler → Program Stop Event (MyProfiler × α)) (events : List Event) :
    Prop :=
  ∀ p w, p.useEnergyProfile = false → ∃ p', p'.useEnergyProfile = false ∧
    Adds (round p) w (p', duration w.clock w.ticks) 2 [] events

theorem roundAdds_measured [Clocked Event] (android : Bool) {inference : Program Stop Event Unit}
    {events : List Event} (h : ∀ w, Adds inference w () 0 [] events) :
    RoundAdds (α := α) (measured android inference)
      (Clocked.readClock :: events ++ [Clocked.readClock]) := by
  intro p w hp
  refine ⟨{ p with startTime := w.clock w.ticks, endTime := w.clock (w.ticks + 1) }, hp, ?_⟩
  have hstart := performStart_eq hp android w
  have hend := performEnd_eq (p := { p with startTime := w.clock w.ticks }) hp android
    ((w.after 1 [] [Clocked.readClock]).after 0 [] events)
  unfold measured Adds
  rw [bind_eq_ok hstart, bind_eq_ok (h _), bind_eq_ok hend, World.after_after, World.after_after]
  rfl

theorem RoundAdds.after {before : Program Stop Event Unit}
    {round : MyProfiler → Program Stop Event (MyProfiler × α)} {events events' : List Event}
    (hb : ∀ w, Adds before w () 0 [] events') (h : RoundAdds round events) :
    RoundAdds (fun p => before >>= fun _ => round p) (events' ++ events) := by
  intro p w hp
  obtain ⟨p', hp', hround⟩ := h p (w.after 0 [] events') hp
  exact ⟨p', hp', (hb w).seq hround⟩

theorem RoundAdds.before {after : Program Stop Event Unit}
    {round : MyProfiler → Program Stop Event (MyProfiler × α)} {events events' : List Event}
    (ha : ∀ w, Adds after w () 0 [] events') (h : RoundAdds round events) :
    RoundAdds (fun p => round p >>= fun x => after >>= fun _ => pure x) (events ++ events') := by
  intro p w hp
  obtain ⟨p', hp', hround⟩ := h p w hp
  refine ⟨p', hp', ?_⟩
  show (round p >>= fun x => after >>= fun _ => pure x) w = _
  rw [bind_eq_ok hround, bind_eq_ok (ha _), World.after_after]
  rfl

theorem map_zipIdx {β γ : Type} (f : β → γ) (l : List β) :
    (l.zipIdx.map fun x => f x.1) = l.map f := by
  have h := congrArg (List.map f) (List.zipIdx_map_fst 0 l)
  rw [List.map_map] at h
  exact h

theorem repeated_succ {β : Type} (n : Nat) (l : List β) :
    repeated (n + 1) l = repeated n l ++ l := by
  unfold repeated
  rw [List.replicate_succ', List.flatten_append]
  simp

theorem repeated_add {β : Type} (n m : Nat) (l : List β) :
    repeated (n + m) l = repeated n l ++ repeated m l := by
  unfold repeated
  rw [List.replicate_add, List.flatten_append]

/-- **A loop adds the events of its round as often as it runs.** -/
theorem rounds_adds {round : MyProfiler → Program Stop Event (MyProfiler × α)}
    {events : List Event} (h : RoundAdds round events) (n : Int32) {p : MyProfiler}
    (hp : p.useEnergyProfile = false) (w : World Event) :
    ∃ p', p'.useEnergyProfile = false ∧
      Adds (rounds n round p) w (p', durations w.clock w.ticks (count n)) (2 * count n) []
        (repeated (count n) events) := by
  unfold rounds count
  generalize n.toInt.toNat = k
  induction k with
  | zero => exact ⟨p, hp, Adds.pure _ w⟩
  | succ k ih =>
    obtain ⟨p₁, hp₁, hloop⟩ := ih
    obtain ⟨p₂, hp₂, hround⟩ := h p₁ (w.after (2 * k) [] (repeated k events)) hp₁
    refine ⟨p₂, hp₂, ?_⟩
    rw [List.range_succ, List.foldlM_append, durations_succ, repeated_succ, Nat.mul_succ]
    unfold Adds
    rw [bind_eq_ok hloop]
    show ((round p₁ >>= fun x => pure (x.1, durations w.clock w.ticks k ++ [x.2])) >>= fun s =>
      pure s) _ = _
    rw [bind_pure, bind_eq_ok hround, World.after_after]
    rfl

/-- **The two loops of a driver**, of which the second goes on where the first has ended. -/
theorem phases_adds {warmupRound runRound : MyProfiler → Program Stop Event (MyProfiler × α)}
    {events events' : List Event} (hwarmup : RoundAdds warmupRound events)
    (hrun : RoundAdds runRound events') (numWarmup numRuns : Int32) {w : World Event}
    (hw : w.ticks = 0) :
    Adds (phases numWarmup numRuns warmupRound runRound) w
      (warmupDurations w.clock numWarmup, runDurations w.clock numWarmup numRuns)
      (2 * (count numWarmup + count numRuns)) []
      (repeated (count numWarmup) events ++ repeated (count numRuns) events') := by
  obtain ⟨p₁, hp₁, hfirst⟩ := rounds_adds hwarmup numWarmup (p := {}) rfl w
  obtain ⟨p₂, -, hsecond⟩ := rounds_adds hrun numRuns hp₁
    (w.after (2 * count numWarmup) [] (repeated (count numWarmup) events))
  unfold phases Adds
  rw [bind_eq_ok hfirst, bind_eq_ok hsecond, World.after_after, Nat.mul_add]
  unfold warmupDurations runDurations
  rw [World.after_ticks, hw, Nat.zero_add]
  rfl

theorem report_adds (calls : List (MetricCall α)) (w : World Event) :
    Adds (report calls) w ⟨⟩ 0 (calls.map fun c => .info c.line) [] :=
  Adds.forM_lines (fun c _ w => Adds.info c.line w) w

end

/-! ## ONNX Runtime and MNN -/

namespace Onnxruntime

theorem prepareInput_adds (input : (Str × List Int) × Nat) (w : World Event) :
    Adds (prepareInput input) w ⟨⟩ 0 [Spec.Onnxruntime.inputLine input]
      [Spec.Onnxruntime.createTensor input.1] :=
  (Adds.info _ w).seq (Adds.emit _ _)

theorem prepareOutput_adds (output : (Str × List Int) × Nat) (w : World Event) :
    Adds (prepareOutput output) w ⟨⟩ 0 [Spec.Onnxruntime.outputLine output] [] :=
  Adds.info _ w

/-- `run` in any world in which the clock was not read yet. -/
theorem run_adds (android : Bool) (session : Session) (numsWarmup numRuns : Int32)
    {w : World Event} (hw : w.ticks = 0) :
    Adds (run α android session numsWarmup numRuns) w () (2 * (count numsWarmup + count numRuns))
      (Spec.Onnxruntime.log α session numsWarmup numRuns w.clock)
      (Spec.Onnxruntime.events session numsWarmup numRuns) := by
  have hinputs := Adds.forM (l := session.inputs.zipIdx) fun input _ => prepareInput_adds input
  have houtputs := Adds.forM_lines (l := session.outputs.zipIdx)
    fun output _ => prepareOutput_adds output
  have hround : RoundAdds (α := α) (round android session) (Spec.Onnxruntime.roundEvents session) :=
    roundAdds_measured android (Adds.emit _)
  rw [run_eq]
  unfold metricCalls
  simp only [bind_assoc, pure_bind]
  unfold Adds
  rw [bind_eq_ok (Adds.info _ _), bind_eq_ok (hinputs _), bind_eq_ok (houtputs _)]
  refine (bind_eq_ok (phases_adds hround hround numsWarmup numRuns ?_)).trans ?_
  · exact hw
  refine (report_adds _ _).trans ?_
  simp only [World.after_after]
  congr 3
  · omega
  · simp [Spec.Onnxruntime.log, ← List.map_eq_flatMap, ownCalls, metricLine, runtimeInfo,
      MetricCall.line]
  · rw [← repeated_add, ← List.map_eq_flatMap, map_zipIdx]
    simp [Spec.Onnxruntime.events]

end Onnxruntime

namespace Mnn

/-- `benchmark` in any world in which the clock was not read yet. -/
theorem benchmark_adds (android : Bool) (session : Session) (numWarmup numRun : Int32)
    {w : World Event} (hw : w.ticks = 0) :
    Adds (benchmark α android session numWarmup numRun) w ()
      (2 * (count numWarmup + count numRun)) (Spec.Mnn.log α numWarmup numRun w.clock)
      (Spec.Mnn.events session numWarmup numRun) := by
  have hinference := fun (w : World Event) =>
    Adds.seq (ε := Stop) (q := fun _ => session.outputs.forM fun name => emit (Event.wait name))
      (Adds.emit .runSession w) (Adds.forM_emit Event.wait session.outputs _)
  have hround : RoundAdds (α := α) (round android session) (Spec.Mnn.roundEvents session) := by
    have hupdate := (roundAdds_measured (α := α) android hinference).before
      (Adds.emit Event.updateCacheFile)
    rw [List.append_assoc] at hupdate
    exact hupdate
  rw [benchmark_eq]
  unfold metricCalls
  simp only [bind_assoc, pure_bind]
  unfold Adds
  rw [bind_eq_ok (Adds.forM_emit Event.fillInput session.inputs _),
    bind_eq_ok (Adds.forM_emit Event.createHostTensor session.outputs _)]
  refine (bind_eq_ok (phases_adds hround hround numWarmup numRun ?_)).trans ?_
  · exact hw
  refine (report_adds _ _).trans ?_
  simp only [World.after_after]
  congr 3
  · omega
  · rw [← repeated_add]
    simp [Spec.Mnn.events]

end Mnn

end UnifiedModelBenchmark
