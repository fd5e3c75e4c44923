import UnifiedModelBenchmark.Properties.Rounds

/-!
# The steps of the system, one by one

What the invariant `Inv` leaves of the transition function: a table with a line for every step of
the caller (`CallerStep`) and one for every step of the monitor (`MonitorStep`). What is shown about
runs from here on goes by these tables and not by the definitions.
-/

namespace UnifiedModelBenchmark

open Infra Infra.Cxx

namespace System

/-- The steps of the caller at the time `now`. It is spawning or joining only while there is no
monitor. -/
inductive CallerStep (s : System) (now : Int) : System → Prop
  | callsStart (hc : s.caller = .idle) : CallerStep s now
      { s with caller := .inStart [.clearData, .setRunning true, .spawn, .readStartTime] }
  | clearsData (hc : s.caller = .inStart [.clearData, .setRunning true, .spawn, .readStartTime]) :
      CallerStep s now { s with
        profiler := { s.profiler with data := [] }
        caller := .inStart [.setRunning true, .spawn, .readStartTime] }
  | setsFlag (hc : s.caller = .inStart [.setRunning true, .spawn, .readStartTime]) :
      CallerStep s now { s with
        profiler := { s.profiler with isMonitorRunning := true }
        caller := .inStart [.spawn, .readStartTime] }
  | spawns (hc : s.caller = .inStart [.spawn, .readStartTime]) (hthreads : s.threads = []) :
      CallerStep s now { s with
        profiler := { s.profiler with powerMonitorThread := some (s.ended + 1) }
        caller := .inStart [.readStartTime], spawned := s.ended + 1
        threads := [{ id := s.ended + 1, point := .entry, locals := .initial now }] }
  | readsStartTime (hc : s.caller = .inStart [.readStartTime]) : CallerStep s now { s with
      profiler := { s.profiler with startTime := now }, caller := .inStart [] }
  | measures (hc : s.caller = .inStart []) : CallerStep s now { s with caller := .measuring }
  | callsEnd (hc : s.caller = .measuring) :
      CallerStep s now { s with caller := .inEnd [.readEndTime, .setRunning false, .join] }
  | readsEndTime (hc : s.caller = .inEnd [.readEndTime, .setRunning false, .join]) :
      CallerStep s now { s with
        profiler := { s.profiler with endTime := now }
        caller := .inEnd [.setRunning false, .join] }
  | clearsFlag (hc : s.caller = .inEnd [.setRunning false, .join]) : CallerStep s now { s with
      profiler := { s.profiler with isMonitorRunning := false }, caller := .inEnd [.join] }
  | joins (hc : s.caller = .inEnd [.join]) (hthreads : s.threads = []) : CallerStep s now { s with
      profiler := { s.profiler with powerMonitorThread := none }, caller := .inEnd [] }
  | returns (hc : s.caller = .inEnd []) :
      CallerStep s now { s with caller := .idle, ended := s.ended + 1 }

/-- The steps of the monitor `t`. -/
inductive MonitorStep (s : System) (t : Thread) (r : Reading) : System → Prop
  | enters (hp : t.point = .entry) : MonitorStep s t r
      { s with threads := [{ t with point := .check, locals := .initial r.now }] }
  | seesTrue (hp : t.point = .check) (hflag : s.profiler.isMonitorRunning = true) :
      MonitorStep s t r { s with threads := [{ t with point := .opening }] }
  | seesFalse (hp : t.point = .check) (hflag : s.profiler.isMonitorRunning = false) :
      MonitorStep s t r { s with threads := [] }
  | fails (hp : t.point = .opening) (hfail : (t.locals.openFiles r).openFailed = true) :
      MonitorStep s t r
        { s with threads := [{ t with point := .check, locals := t.locals.openFiles r }] }
  | opens (hp : t.point = .opening) (hopen : (t.locals.openFiles r).openFailed = false) :
      MonitorStep s t r
        { s with threads := [{ t with point := .reading, locals := t.locals.openFiles r }] }
  | reads (hp : t.point = .reading) : MonitorStep s t r
      { s with threads := [{ t with point := .pushing, locals := t.locals.readFiles r }] }
  | pushes (x : RuntimeProileData) (hp : t.point = .pushing) (hx : t.locals.sample = .ok x) :
      MonitorStep s t r { s with
        threads := [{ t with point := .closing, locals := t.locals.restart }]
        profiler := { s.profiler with data := s.profiler.data ++ [x] }
        pushed := s.pushed ++ [(t.id, x)] }
  | throws (e : StdException) (hp : t.point = .pushing) (he : t.locals.sample = .error e) :
      MonitorStep s t r { s with fault := some (.uncaught e) }
  | closes (hp : t.point = .closing) : MonitorStep s t r
      { s with threads := [{ t with point := .sleeping, locals := t.locals.closeFiles }] }
  | wakes (hp : t.point = .sleeping) :
      MonitorStep s t r { s with threads := [{ t with point := .check }] }

/-- **The steps of the caller** in a state of a run. -/
theorem callerStep_cases {s s' : System} {now : Int} (h : Inv s)
    (hs : s.callerStep now = some s') : CallerStep s now s' := by
  have henergy := h.energy
  have hpoint := h.point
  unfold callerStep at hs
  generalize hc : s.caller = c at hpoint hs
  cases hpoint with
  | idle hq _ =>
    have hstart : s.profiler.start true
        = [.clearData, .setRunning true, .spawn, .readStartTime] := by
      unfold MyProfiler.start
      rw [henergy]
      rfl
    dsimp only at hs
    rw [hstart] at hs
    obtain rfl := Option.some.inj hs
    exact .callsStart hc
  | clear hq =>
    have hop := hs.symm.trans (perform_of_ok (blocked_eq_false (by simp)) (by simp) rfl)
    obtain rfl := Option.some.inj hop
    exact .clearsData hc
  | setFlag hq _ =>
    have hop := hs.symm.trans (perform_of_ok (blocked_eq_false (by simp)) (by simp) rfl)
    obtain rfl := Option.some.inj hop
    exact .setsFlag hc
  | spawn hq _ =>
    have hop := hs.symm.trans (perform_spawn hq.threadObject)
    rw [hq.threads, hq.spawned] at hop
    obtain rfl := Option.some.inj hop
    exact .spawns hc hq.threads
  | startTime hl =>
    have hop := hs.symm.trans (perform_of_ok (blocked_eq_false (by simp)) (by simp) rfl)
    obtain rfl := Option.some.inj hop
    exact .readsStartTime hc
  | started hl =>
    obtain rfl := Option.some.inj hs
    exact .measures hc
  | measuring hl =>
    have hend : s.profiler.end true = [.readEndTime, .setRunning false, .join] := by
      unfold MyProfiler.end
      rw [henergy]
      rfl
    dsimp only at hs
    rw [hend] at hs
    obtain rfl := Option.some.inj hs
    exact .callsEnd hc
  | endTime hl =>
    have hop := hs.symm.trans (perform_of_ok (blocked_eq_false (by simp)) (by simp) rfl)
    obtain rfl := Option.some.inj hop
    exact .readsEndTime hc
  | clearFlag hl =>
    have hop := hs.symm.trans (perform_of_ok (blocked_eq_false (by simp)) (by simp) rfl)
    obtain rfl := Option.some.inj hop
    exact .clearsFlag hc
  | join hl =>
    obtain ⟨hthreads, rfl⟩ := perform_join hl hs
    exact .joins hc hthreads
  | joined hq _ =>
    obtain rfl := Option.some.inj hs
    exact .returns hc

/-- A monitor that runs is the only one. -/
theorem Inv.eq_singleton {s : System} {t : Thread} (h : Inv s) (ht : t ∈ s.threads) :
    s.threads = [t] := by
  rcases h.point.quiet_or_live with ⟨k, hq⟩ | hl
  · exact absurd ht hq.not_mem
  · exact (hl.eq_singleton ht).1

/-- What the only monitor does. -/
theorem threadStep_cases {s : System} {t : Thread} (ht : s.threads = [t]) (r : Reading) :
    MonitorStep s t r (s.threadStep t r) := by
  have hreplace : ∀ t' : Thread, t'.id = t.id → s.replaceThread t' = [t'] := by
    intro t' hid
    unfold replaceThread
    rw [ht]
    simp [hid]
  have hgoes : ∀ t' : Thread, t'.id = t.id → t.step s.profiler.isMonitorRunning r = .goesOn t' →
      s.threadStep t r = { s with threads := [t'] } := by
    intro t' hid hstep
    unfold threadStep
    rw [hstep, ← hreplace t' hid]
  cases hp : t.point with
  | entry =>
    rw [hgoes { t with point := .check, locals := .initial r.now } rfl
      (by unfold Thread.step; rw [hp])]
    exact .enters hp
  | check =>
    cases hflag : s.profiler.isMonitorRunning with
    | true =>
      rw [hgoes { t with point := .opening } rfl (by unfold Thread.step; rw [hp, hflag]; rfl)]
      exact .seesTrue hp hflag
    | false =>
      have hstep : t.step s.profiler.isMonitorRunning r = .returns := by
        unfold Thread.step
        rw [hp, hflag]
        rfl
      have hs : s.threadStep t r = { s with threads := [] } := by
        unfold threadStep
        rw [hstep]
        simp [ht]
      rw [hs]
      exact .seesFalse hp hflag
  | opening =>
    cases hfail : (t.locals.openFiles r).openFailed with
    | true =>
      rw [hgoes { t with point := .check, locals := t.locals.openFiles r } rfl
        (by unfold Thread.step; rw [hp]; exact if_pos hfail)]
      exact .fails hp hfail
    | false =>
      rw [hgoes { t with point := .reading, locals := t.locals.openFiles r } rfl
        (by unfold Thread.step; rw [hp]; exact if_neg (by simp [hfail]))]
      exact .opens hp hfail
  | reading =>
    rw [hgoes { t with point := .pushing, locals := t.locals.readFiles r } rfl
      (by unfold Thread.step; rw [hp])]
    exact .reads hp
  | pushing =>
    unfold threadStep Thread.step
    rw [hp]
    dsimp only
    cases hx : t.locals.sample with
    | error e => exact .throws e hp hx
    | ok x =>
      dsimp only
      rw [hreplace { t with point := .closing, locals := t.locals.restart } rfl]
      exact .pushes x hp hx
  | closing =>
    rw [hgoes { t with point := .sleeping, locals := t.locals.closeFiles } rfl
      (by unfold Thread.step; rw [hp])]
    exact .closes hp
  | sleeping =>
    rw [hgoes { t with point := .check } rfl (by unfold Thread.step; rw [hp])]
    exact .wakes hp

/-- **The steps of the system** in a state of a run. -/
theorem step_cases {s s' : System} {a : Action} (h : Inv s) (hs : s.step a = some s') :
    s.fault = none ∧
      ((∃ now, a = .caller now ∧ CallerStep s now s') ∨
        (a = .readData ∧ s.caller = .idle ∧ s' = s) ∨
        ∃ t r, a = .monitor t.id r ∧ s.threads = [t] ∧ MonitorStep s t r s') := by
  unfold step at hs
  cases hf : s.fault with
  | some f => rw [hf] at hs; cases hs
  | none =>
    rw [hf] at hs
    refine ⟨rfl, ?_⟩
    cases a with
    | caller now => exact .inl ⟨now, rfl, callerStep_cases h hs⟩
    | readData =>
      dsimp only at hs
      split at hs
      · next hidle => exact .inr (.inl ⟨rfl, hidle, (Option.some.inj hs).symm⟩)
      · cases hs
    | monitor id r =>
      dsimp only [monitorStep] at hs
      split at hs
      · cases hs
      · next t hfind =>
        obtain rfl := Option.some.inj hs
        have hid : t.id = id := by simpa using List.find?_some hfind
        have ht := h.eq_singleton (List.mem_of_find?_eq_some hfind)
        exact .inr (.inr ⟨t, r, by rw [hid], ht, threadStep_cases ht r⟩)

theorem callerStep_of_step {s s' : System} {now : Int} (h : Inv s)
    (hs : s.step (.caller now) = some s') : CallerStep s now s' := by
  obtain ⟨-, ⟨_, heq, hstep⟩ | ⟨heq, -⟩ | ⟨_, _, heq, -⟩⟩ := step_cases h hs
  · cases heq
    exact hstep
  · cases heq
  · cases heq

theorem monitorStep_of_step {s s' : System} {t : Thread} {r : Reading} (h : Inv s)
    (ht : s.threads = [t]) (hs : s.step (.monitor t.id r) = some s') : MonitorStep s t r s' := by
  obtain ⟨-, ⟨_, heq, -⟩ | ⟨heq, -⟩ | ⟨u, _, heq, hu, hstep⟩⟩ := step_cases h hs
  · cases heq
  · cases heq
  · obtain rfl : t = u := by simpa [hu] using ht.symm
    cases heq
    exact hstep

/-- In a state of a run no step of the caller is an error. -/
theorem CallerStep.fault {s s' : System} {now : Int} (h : CallerStep s now s') :
    s'.fault = s.fault := by
  cases h <;> rfl

theorem MonitorStep.caller {s s' : System} {t : Thread} {r : Reading} (h : MonitorStep s t r s') :
    s'.caller = s.caller := by
  cases h <;> rfl

theorem Inv.exists_thread {s : System} (h : Inv s) (ht : s.threads ≠ []) :
    ∃ t, s.threads = [t] := by
  obtain ⟨t, htmem⟩ := List.exists_mem_of_ne_nil _ ht
  exact ⟨t, h.eq_singleton htmem⟩

end System

end UnifiedModelBenchmark
