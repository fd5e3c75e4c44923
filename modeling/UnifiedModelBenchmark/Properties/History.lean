import UnifiedModelBenchmark.Properties.Sampler
import UnifiedModelBenchmark.Properties.Steps
import UnifiedModelBenchmark.Spec.History

/-!
# Every interleaving is a sampling

Whatever order the threads step in, the monitor of a round does what `monitoring_power` does on its
history (`Tracks`): at the point `pushing` the samples lag behind the history by one iteration,
everywhere else they are those of the whole history. So the samples of a round are what the sampler
observes, and an exception is the one it throws (`run_observes`).
-/

namespace UnifiedModelBenchmark

open Infra Infra.Cxx Spec

/-! ## Iterations -/

section

variable {m : Monitor} {data : List RuntimeProileData} {r : Reading}

theorem iteration_failed (h : (m.openFiles r).openFailed = true) :
    Monitor.iteration (m, data) r = .ok (m.openFiles r, data) := by
  unfold Monitor.iteration
  rw [if_pos h]

theorem iteration_sampled {x : RuntimeProileData} (h : (m.openFiles r).openFailed = false)
    (hx : ((m.openFiles r).readFiles r).sample = .ok x) :
    Monitor.iteration (m, data) r
      = .ok (((m.openFiles r).readFiles r).restart.closeFiles, data ++ [x]) := by
  unfold Monitor.iteration
  rw [if_neg (by simp [h])]
  dsimp only
  rw [hx]

theorem iteration_thrown {e : StdException} (h : (m.openFiles r).openFailed = false)
    (he : ((m.openFiles r).readFiles r).sample = .error e) :
    Monitor.iteration (m, data) r = .error e := by
  unfold Monitor.iteration
  rw [if_neg (by simp [h])]
  dsimp only
  rw [he]

end

/-- One more iteration. -/
theorem monitoringPower_snoc {now : Int} {readings : List Reading}
    {powerData : List RuntimeProileData} {s : Monitor × List RuntimeProileData}
    (h : monitoringPower now readings powerData = .ok s) (r : Reading) :
    monitoringPower now (readings ++ [r]) powerData = Monitor.iteration s r := by
  unfold monitoringPower at h ⊢
  rw [List.foldlM_append, h]
  show [r].foldlM Monitor.iteration s = _
  rw [List.foldlM_cons]
  cases Monitor.iteration s r <;> rfl

namespace System

/-! ## The invariant -/

/-- Where the monitor `t` is in the loop over its history, and the samples with it. -/
def Tracks (hist : History) (data : List RuntimeProileData) (t : Thread) : Prop :=
  let run (readings : List Reading) := monitoringPower hist.entered readings []
  match t.point with
  | .entry => data = []
  | .check => run hist.readings = .ok (t.locals, data)
  | .opening => run hist.readings = .ok (t.locals, data)
  | .reading => ∃ m, run hist.readings = .ok (m, data) ∧ t.locals = m.openFiles hist.opened
      ∧ (m.openFiles hist.opened).openFailed = false
  | .pushing => ∃ before r m, hist.readings = before ++ [r] ∧ run before = .ok (m, data)
      ∧ t.locals = (m.openFiles r).readFiles r ∧ (m.openFiles r).openFailed = false
  | .closing => run hist.readings = .ok (t.locals.closeFiles, data)
  | .sleeping => run hist.readings = .ok (t.locals, data)

/-- The samples are cleared, and the monitor is not spawned yet. -/
def Cleared (c : Caller) : Prop :=
  c = .inStart [.setRunning true, .spawn, .readStartTime] ∨ c = .inStart [.spawn, .readStartTime]

/-- What the history says about the state. -/
structure Recorded (s : System) (hist : History) : Prop where
  cleared : Cleared s.caller → s.profiler.data = []
  monitor : s.fault = none → ∀ t, s.threads = [t] → Tracks hist s.profiler.data t
  returned : s.threads = [] → ¬ Cleared s.caller →
    ∃ m, monitoringPower hist.entered hist.readings [] = .ok (m, s.profiler.data)
  thrown : ∀ e, s.fault = some (.uncaught e) →
    monitoringPower hist.entered hist.readings [] = .error e

theorem recorded_initial : Recorded initial History.initial where
  cleared := fun _ => rfl
  monitor := by intro _ t ht; cases ht
  returned := fun _ _ => ⟨_, rfl⟩
  thrown := by intro e he; cases he

/-! ## The steps keep it -/

/-- A step of the caller that leaves the monitor and the samples alone. -/
theorem Recorded.frame {s s' : System} {hist : History} (h : Recorded s hist)
    (hdata : s'.profiler.data = s.profiler.data) (hthreads : s'.threads = s.threads)
    (hfault : s'.fault = s.fault) (hc : Cleared s'.caller ↔ Cleared s.caller) :
    Recorded s' hist where
  cleared := by rw [hdata, hc]; exact h.cleared
  monitor := by rw [hdata, hthreads, hfault]; exact h.monitor
  returned := by rw [hdata, hthreads, hc]; exact h.returned
  thrown := by rw [hfault]; exact h.thrown

theorem recorded_callerStep {s s' : System} {hist : History} {now : Int} (hinv : Inv s)
    (h : Recorded s hist) (hfault : s.fault = none) (hs : CallerStep s now s') :
    Recorded s' hist := by
  have hnone : ∀ e, s.fault = some (.uncaught e) →
      monitoringPower hist.entered hist.readings [] = .error e := by
    intro e he
    rw [hfault] at he
    cases he
  cases hs with
  | clearsData hc =>
    have hpoint := hinv.point
    rw [hc] at hpoint
    cases hpoint with
    | clear hq =>
      refine ⟨fun _ => rfl, ?_, fun _ hnc => absurd (.inl rfl) hnc, hnone⟩
      intro _ t ht
      have hthreads : s.threads = [t] := ht
      rw [hq.threads] at hthreads
      cases hthreads
  | spawns hc hthreads =>
    refine ⟨fun hcl => ?_, ?_, ?_, hnone⟩
    · simp [Cleared] at hcl
    · intro _ t ht
      obtain rfl := (List.cons.inj ht).1
      exact h.cleared (.inr hc)
    · intro ht
      cases ht
  | callsStart hc => exact h.frame rfl rfl rfl (by simp [Cleared, hc])
  | setsFlag hc => exact h.frame rfl rfl rfl (by simp [Cleared, hc])
  | readsStartTime hc => exact h.frame rfl rfl rfl (by simp [Cleared, hc])
  | measures hc => exact h.frame rfl rfl rfl (by simp [Cleared, hc])
  | callsEnd hc => exact h.frame rfl rfl rfl (by simp [Cleared, hc])
  | readsEndTime hc => exact h.frame rfl rfl rfl (by simp [Cleared, hc])
  | clearsFlag hc => exact h.frame rfl rfl rfl (by simp [Cleared, hc])
  | joins hc _ => exact h.frame rfl rfl rfl (by simp [Cleared, hc])
  | returns hc => exact h.frame rfl rfl rfl (by simp [Cleared, hc])

/-- Where a monitor runs, the samples are not being cleared. -/
theorem Inv.not_cleared {s : System} {t : Thread} (h : Inv s) (ht : s.threads = [t]) :
    ¬ Cleared s.caller := by
  intro hc
  have hpoint := h.point
  rcases hc with hc | hc
  · rw [hc] at hpoint
    cases hpoint with
    | setFlag hq _ =>
      rw [hq.threads] at ht
      cases ht
  · rw [hc] at hpoint
    cases hpoint with
    | spawn hq _ =>
      rw [hq.threads] at ht
      cases ht

/-- A step after which the monitor runs on, and the program as well. -/
theorem Recorded.of_tracks {s' : System} {hist : History} {t' : Thread} (hc : ¬ Cleared s'.caller)
    (hfault : s'.fault = none) (ht' : s'.threads = [t'])
    (h : Tracks hist s'.profiler.data t') : Recorded s' hist where
  cleared := fun hcl => absurd hcl hc
  monitor := by
    intro _ t ht
    rw [ht'] at ht
    obtain rfl := (List.cons.inj ht).1
    exact h
  returned := by
    intro ht
    rw [ht'] at ht
    cases ht
  thrown := by
    intro e he
    rw [hfault] at he
    cases he

theorem recorded_monitorStep {s s' : System} {hist : History} {t : Thread} {r : Reading}
    (hinv : Inv s) (h : Recorded s hist) (hfault : s.fault = none) (ht : s.threads = [t])
    (hs : MonitorStep s t r s') : Recorded s' (hist.note t r) := by
  have hc := hinv.not_cleared ht
  have htracks := h.monitor hfault t ht
  unfold Tracks at htracks
  unfold History.note
  cases hs with
  | enters hp =>
    rw [hp] at htracks ⊢
    refine .of_tracks hc hfault rfl ?_
    show monitoringPower r.now [] [] = .ok (_, s.profiler.data)
    rw [show s.profiler.data = [] from htracks]
    rfl
  | seesTrue hp _ =>
    rw [hp] at htracks ⊢
    exact .of_tracks hc hfault rfl htracks
  | seesFalse hp _ =>
    rw [hp] at htracks ⊢
    refine ⟨fun hcl => absurd hcl hc, ?_, fun _ _ => ⟨_, htracks⟩, ?_⟩
    · intro _ u hu
      cases hu
    · intro e he
      rw [show s.fault = some (.uncaught e) from he] at hfault
      cases hfault
  | fails hp hfail =>
    rw [hp] at htracks ⊢
    rw [if_pos hfail]
    refine .of_tracks hc hfault rfl ?_
    show monitoringPower hist.entered (hist.readings ++ [r]) [] = _
    rw [monitoringPower_snoc htracks, iteration_failed hfail]
  | opens hp hopen =>
    rw [hp] at htracks ⊢
    rw [if_neg (by simp [hopen])]
    exact .of_tracks hc hfault rfl ⟨_, htracks, rfl, hopen⟩
  | reads hp =>
    rw [hp] at htracks ⊢
    obtain ⟨m, hrun, hlocals, hopen⟩ := htracks
    refine .of_tracks hc hfault rfl ⟨_, _, m, rfl, hrun, ?_, hopen⟩
    show t.locals.readFiles r = _
    rw [hlocals]
    rfl
  | pushes x hp hx =>
    rw [hp] at htracks ⊢
    obtain ⟨before, last, m, hreadings, hrun, hlocals, hopen⟩ := htracks
    refine .of_tracks hc hfault rfl ?_
    show monitoringPower hist.entered hist.readings [] = .ok (t.locals.restart.closeFiles, _)
    rw [hlocals] at hx ⊢
    rw [hreadings, monitoringPower_snoc hrun, iteration_sampled hopen hx]
  | throws e hp he =>
    rw [hp] at htracks ⊢
    obtain ⟨before, last, m, hreadings, hrun, hlocals, hopen⟩ := htracks
    refine ⟨fun hcl => absurd hcl hc, ?_, ?_, ?_⟩
    · intro hf
      cases hf
    · intro hnil
      rw [show s.threads = [] from hnil] at ht
      cases ht
    · intro e' he'
      obtain rfl : e = e' := by simpa using he'
      rw [hlocals] at he
      rw [hreadings, monitoringPower_snoc hrun, iteration_thrown hopen he]
  | closes hp =>
    rw [hp] at htracks ⊢
    exact .of_tracks hc hfault rfl htracks
  | wakes hp =>
    rw [hp] at htracks ⊢
    exact .of_tracks hc hfault rfl htracks

theorem after_monitor {s : System} {t : Thread} (ht : s.threads = [t]) (hist : History)
    (r : Reading) : hist.after s (.monitor t.id r) = hist.note t r := by
  unfold History.after
  rw [ht]
  simp

theorem recorded_step {s s' : System} {hist : History} {a : Action} (hinv : Inv s)
    (h : Recorded s hist) (hs : s.step a = some s') : Recorded s' (hist.after s a) := by
  obtain ⟨hfault, ⟨now, rfl, hstep⟩ | ⟨rfl, -, rfl⟩ | ⟨t, r, rfl, ht, hstep⟩⟩ := step_cases hinv hs
  · exact recorded_callerStep hinv h hfault hstep
  · exact h
  · rw [after_monitor ht]
    exact recorded_monitorStep hinv h hfault ht hstep

/-! ## Runs -/

theorem recorded_run {actions : List Action} {s : System} {hist : History}
    (h : record actions = some (s, hist)) : Inv s ∧ Recorded s hist := by
  refine (trace_of_foldlM_some h).invariant (fun _ sh => Inv sh.1 ∧ Recorded sh.1 sh.2)
    ⟨inv_initial, recorded_initial⟩ ?_
  intro _ sh a sh' ⟨hinv, hrec⟩ hstep
  obtain ⟨s₁, hs₁, rfl⟩ := Option.map_eq_some_iff.mp hstep
  exact ⟨inv_step hinv hs₁, recorded_step hinv hrec hs₁⟩

/-- In both cases of `Except`, the loop over a history is the sampler. -/
theorem observe_eq (hist : History) :
    observe hist.entered hist.readings
      = (monitoringPower hist.entered hist.readings []).map Prod.snd := by
  have hloop := Monitor.foldlM_iteration hist.readings (s := (.initial hist.entered, []))
    (Monitor.closed_initial _)
  have hsame : (observe hist.entered hist.readings).map ([] ++ ·)
      = observe hist.entered hist.readings := by
    cases observe hist.entered hist.readings <;> rfl
  exact (hloop.trans hsame).symm

/-- Where there is no monitor, the samples are those of the last history. -/
theorem Recorded.observe_eq_ok {s : System} {hist : History} (h : Recorded s hist) (hinv : Inv s)
    (hidle : s.caller = .idle) :
    observe hist.entered hist.readings = .ok s.profiler.data := by
  obtain ⟨m, hm⟩ := h.returned (hinv.point.threads_eq_nil (.inl hidle)) (by simp [Cleared, hidle])
  rw [observe_eq, hm]
  rfl

/--
**Every interleaving is a sampling.** However the steps of the caller and of the monitors are
interleaved, after a round the samples are those that the sampler observes in the history of its
monitor, and an exception that ends the program is the one that it throws there.
-/
theorem run_observes (actions : List Action) (s : System) (h : run actions = some s) :
    ∃ hist, record actions = some (s, hist) ∧
      (s.caller = .idle → observe hist.entered hist.readings = .ok s.profiler.data) ∧
      ∀ e, s.fault = some (.uncaught e) → observe hist.entered hist.readings = .error e := by
  obtain ⟨hist, hrec⟩ := exists_record h
  obtain ⟨hinv, hrecorded⟩ := recorded_run hrec
  refine ⟨hist, hrec, hrecorded.observe_eq_ok hinv, ?_⟩
  intro e he
  rw [observe_eq, hrecorded.thrown e he]
  rfl

theorem run_observes_two : ∃ hist, record twoRounds = some (afterTwoRounds, hist) ∧
    observe hist.entered hist.readings = .ok afterTwoRounds.profiler.data := by
  obtain ⟨hist, hrec, hok, -⟩ :=
    run_observes twoRounds afterTwoRounds (by decide +kernel)
  exact ⟨hist, hrec, hok (by decide +kernel)⟩

end System

end UnifiedModelBenchmark
