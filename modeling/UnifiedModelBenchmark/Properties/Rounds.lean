import UnifiedModelBenchmark.Infra.Trace
import UnifiedModelBenchmark.Mutils.Rounds
import UnifiedModelBenchmark.Properties.Monitor

/-!
# Rounds do not mix

Between `join` and the next spawn there is no monitor (`Quiet`); from the spawn to `join` there is
one thread to be joined, and it is the only one that can be running (`Live`). Every point of the
caller is of one of these two kinds (`At`), which is what the invariant says. That the samples are
those of one monitor follows, because they are cleared while there is none.
-/

namespace UnifiedModelBenchmark

open Infra Infra.Cxx

namespace System

/-! ## The invariant -/

/-- After the monitor number `k` was joined. -/
structure Quiet (k : Nat) (s : System) : Prop where
  threads : s.threads = []
  threadObject : s.profiler.powerMonitorThread = none
  spawned : s.spawned = k

/-- From the spawn of the monitor number `k` on. It has returned if it is not in `threads`. -/
structure Live (k : Nat) (s : System) : Prop where
  threads : s.threads = [] ∨ ∃ t, s.threads = [t] ∧ t.id = k
  threadObject : s.profiler.powerMonitorThread = some k
  spawned : s.spawned = k
  data : s.profiler.data = s.pushedBy k

/-- What holds where the caller is. -/
inductive At (s : System) : Caller → Prop
  | idle (h : Quiet s.ended s) (hdata : s.profiler.data = s.pushedBy s.ended) : At s .idle
  | clear (h : Quiet s.ended s) :
      At s (.inStart [.clearData, .setRunning true, .spawn, .readStartTime])
  | setFlag (h : Quiet s.ended s) (hdata : s.profiler.data = []) :
      At s (.inStart [.setRunning true, .spawn, .readStartTime])
  | spawn (h : Quiet s.ended s) (hdata : s.profiler.data = []) :
      At s (.inStart [.spawn, .readStartTime])
  | startTime (h : Live (s.ended + 1) s) : At s (.inStart [.readStartTime])
  | started (h : Live (s.ended + 1) s) : At s (.inStart [])
  | measuring (h : Live (s.ended + 1) s) : At s .measuring
  | endTime (h : Live (s.ended + 1) s) : At s (.inEnd [.readEndTime, .setRunning false, .join])
  | clearFlag (h : Live (s.ended + 1) s) : At s (.inEnd [.setRunning false, .join])
  | join (h : Live (s.ended + 1) s) : At s (.inEnd [.join])
  | joined (h : Quiet (s.ended + 1) s) (hdata : s.profiler.data = s.pushedBy (s.ended + 1)) :
      At s (.inEnd [])

theorem At.quiet_or_live {s : System} {c : Caller} (h : At s c) :
    (∃ k, Quiet k s) ∨ Live (s.ended + 1) s := by
  cases h <;> first | exact Or.inl ⟨_, ‹_›⟩ | exact Or.inr ‹_›

structure Inv (s : System) : Prop where
  energy : s.profiler.useEnergyProfile = true
  noThreadError : ∀ e, s.fault ≠ some (.thread e)
  ids : ∀ p ∈ s.pushed, p.1 ≤ s.spawned
  point : At s s.caller

theorem inv_initial : Inv initial where
  energy := rfl
  noThreadError := by intro e h; cases h
  ids := by intro p h; cases h
  point := .idle ⟨rfl, rfl, rfl⟩ rfl

/-! ## Steps of the caller -/

/-- A monitor that has not been spawned yet has not pushed anything. -/
theorem pushedBy_new {s : System} (h : ∀ p ∈ s.pushed, p.1 ≤ s.spawned) :
    s.pushedBy (s.spawned + 1) = [] := by
  unfold pushedBy
  rw [List.map_eq_nil_iff, List.filter_eq_nil_iff]
  intro p hp
  have hle := h p hp
  simp only [decide_eq_true_eq]
  omega

/-- `join` waits as long as the monitor runs. -/
theorem blocked_join {k : Nat} {s : System} (h : Live k s) (hblocked : s.blocked .join = false) :
    s.threads = [] := by
  rcases h.threads with ht | ⟨t, ht, hid⟩
  · exact ht
  · unfold blocked at hblocked
    rw [ht, h.threadObject, ← hid] at hblocked
    simp at hblocked

theorem blocked_eq_false {s : System} {op : ProfilerOp} (h : op ≠ .join) : s.blocked op = false := by
  unfold blocked
  rw [decide_eq_false h, Bool.false_and]

/-- A step that neither waits nor spawns changes the profiler object only. -/
theorem perform_of_ok {s : System} {now : Int} {op : ProfilerOp} {next : Caller} {p : MyProfiler}
    (hblocked : s.blocked op = false) (hspawn : op ≠ .spawn)
    (hexec : s.profiler.exec now (s.spawned + 1) op = .ok p) :
    s.perform now op next = some { s with profiler := p, caller := next } := by
  unfold perform
  rw [hblocked, hexec]
  simp [hspawn]

/-- A spawn without a thread to be joined is no error. -/
theorem perform_spawn {s : System} {now : Int} {next : Caller}
    (h : s.profiler.powerMonitorThread = none) :
    s.perform now .spawn next = some { s with
      profiler := { s.profiler with powerMonitorThread := some (s.spawned + 1) }, caller := next
      spawned := s.spawned + 1
      threads := s.threads ++ [{ id := s.spawned + 1, point := .entry, locals := .initial now }] } := by
  unfold perform
  rw [blocked_eq_false (by simp)]
  unfold MyProfiler.exec
  rw [h]
  simp

/-- A `join` that does not wait leaves no thread behind. -/
theorem perform_join {k : Nat} {s s' : System} {now : Int} {next : Caller} (h : Live k s)
    (hs : s.perform now .join next = some s') :
    s.threads = [] ∧
      s' = { s with profiler := { s.profiler with powerMonitorThread := none }, caller := next } := by
  cases hb : s.blocked .join with
  | true =>
    unfold perform at hs
    rw [hb] at hs
    cases hs
  | false =>
    have hexec : s.profiler.exec now (s.spawned + 1) .join
        = .ok { s.profiler with powerMonitorThread := none } := by
      unfold MyProfiler.exec
      rw [h.threadObject]
    rw [perform_of_ok hb (by simp) hexec] at hs
    exact ⟨blocked_join h hb, (Option.some.inj hs).symm⟩

/-- The caller's step keeps the invariant, whatever point it is at. -/
theorem inv_callerStep {s s' : System} {now : Int} (h : Inv s) (hs : s.callerStep now = some s') :
    Inv s' := by
  obtain ⟨henergy, hfault, hids, hpoint⟩ := h
  unfold callerStep at hs
  generalize hc : s.caller = c at hpoint hs
  cases hpoint with
  | idle hq hdata =>
    obtain rfl := Option.some.inj hs
    refine ⟨henergy, hfault, hids, ?_⟩
    show At _ (.inStart (s.profiler.start true))
    unfold MyProfiler.start
    rw [henergy]
    exact .clear ⟨hq.threads, hq.threadObject, hq.spawned⟩
  | clear hq =>
    have hop := hs.symm.trans (perform_of_ok (blocked_eq_false (by simp)) (by simp) rfl)
    obtain rfl := Option.some.inj hop
    exact ⟨henergy, hfault, hids, .setFlag ⟨hq.threads, hq.threadObject, hq.spawned⟩ rfl⟩
  | setFlag hq hdata =>
    have hop := hs.symm.trans (perform_of_ok (blocked_eq_false (by simp)) (by simp) rfl)
    obtain rfl := Option.some.inj hop
    exact ⟨henergy, hfault, hids, .spawn ⟨hq.threads, hq.threadObject, hq.spawned⟩ hdata⟩
  | spawn hq hdata =>
    have hop := hs.symm.trans (perform_spawn hq.threadObject)
    obtain rfl := Option.some.inj hop
    refine ⟨henergy, hfault, fun p hp => Nat.le_succ_of_le (hids p hp), .startTime ?_⟩
    -- the new monitor is the only one, and there are no samples yet
    refine ⟨.inr ⟨{ id := s.spawned + 1, point := .entry, locals := .initial now }, ?_, ?_⟩,
      ?_, ?_, ?_⟩
    · show s.threads ++ [_] = [_]
      rw [hq.threads]
      rfl
    · show s.spawned + 1 = s.ended + 1
      rw [hq.spawned]
    · show some (s.spawned + 1) = some (s.ended + 1)
      rw [hq.spawned]
    · show s.spawned + 1 = s.ended + 1
      rw [hq.spawned]
    · show s.profiler.data = s.pushedBy (s.ended + 1)
      rw [hdata, ← hq.spawned, pushedBy_new hids]
  | startTime hl =>
    have hop := hs.symm.trans (perform_of_ok (blocked_eq_false (by simp)) (by simp) rfl)
    obtain rfl := Option.some.inj hop
    exact ⟨henergy, hfault, hids, .started ⟨hl.threads, hl.threadObject, hl.spawned, hl.data⟩⟩
  | started hl =>
    obtain rfl := Option.some.inj hs
    exact ⟨henergy, hfault, hids, .measuring ⟨hl.threads, hl.threadObject, hl.spawned, hl.data⟩⟩
  | measuring hl =>
    obtain rfl := Option.some.inj hs
    refine ⟨henergy, hfault, hids, ?_⟩
    show At _ (.inEnd (s.profiler.end true))
    unfold MyProfiler.end
    rw [henergy]
    exact .endTime ⟨hl.threads, hl.threadObject, hl.spawned, hl.data⟩
  | endTime hl =>
    have hop := hs.symm.trans (perform_of_ok (blocked_eq_false (by simp)) (by simp) rfl)
    obtain rfl := Option.some.inj hop
    exact ⟨henergy, hfault, hids, .clearFlag ⟨hl.threads, hl.threadObject, hl.spawned, hl.data⟩⟩
  | clearFlag hl =>
    have hop := hs.symm.trans (perform_of_ok (blocked_eq_false (by simp)) (by simp) rfl)
    obtain rfl := Option.some.inj hop
    exact ⟨henergy, hfault, hids, .join ⟨hl.threads, hl.threadObject, hl.spawned, hl.data⟩⟩
  | join hl =>
    obtain ⟨hthreads, rfl⟩ := perform_join hl hs
    exact ⟨henergy, hfault, hids, .joined ⟨hthreads, rfl, hl.spawned⟩ hl.data⟩
  | joined hq hdata =>
    obtain rfl := Option.some.inj hs
    exact ⟨henergy, hfault, hids, .idle ⟨hq.threads, hq.threadObject, hq.spawned⟩ hdata⟩

/-! ## Steps of a monitor -/

/-- A step of a thread does not change its number. -/
theorem id_step {t t' : Thread} {running : Bool} {r : Reading}
    (h : t.step running r = .goesOn t' ∨ ∃ x, t.step running r = .pushes t' x) : t'.id = t.id := by
  unfold Thread.step at h
  grind

/-- The monitor that is running is the one of the round. -/
theorem Live.eq_singleton {k : Nat} {s : System} {t : Thread} (h : Live k s) (ht : t ∈ s.threads) :
    s.threads = [t] ∧ t.id = k := by
  rcases h.threads with hn | ⟨u, hu, hid⟩
  · rw [hn] at ht
    cases ht
  · rw [hu, List.mem_singleton] at ht
    rw [ht]
    exact ⟨hu, hid⟩

theorem Quiet.not_mem {k : Nat} {s : System} {t : Thread} (h : Quiet k s) : t ∉ s.threads := by
  rw [h.threads]
  exact List.not_mem_nil

/-- Only the monitor of the round can make a step, and it remains the only one. -/
theorem live_threadStep {k : Nat} {s : System} {t : Thread} (h : Live k s) (ht : t ∈ s.threads)
    (r : Reading) : Live k (s.threadStep t r) := by
  obtain ⟨hthreads, hid⟩ := h.eq_singleton ht
  have hreplace : ∀ t', t'.id = t.id → s.replaceThread t' = [t'] := by
    intro t' ht'
    unfold replaceThread
    rw [hthreads]
    simp [ht']
  unfold threadStep
  cases hstep : t.step s.profiler.isMonitorRunning r with
  | goesOn t' =>
    have ht' := id_step (Or.inl hstep)
    exact ⟨.inr ⟨t', hreplace t' ht', ht'.trans hid⟩, h.threadObject, h.spawned, h.data⟩
  | pushes t' x =>
    have ht' := id_step (Or.inr ⟨x, hstep⟩)
    refine ⟨.inr ⟨t', hreplace t' ht', ht'.trans hid⟩, h.threadObject, h.spawned, ?_⟩
    show s.profiler.data ++ [x] = ((s.pushed ++ [(t.id, x)]).filter fun p => p.1 = k).map Prod.snd
    rw [h.data, List.filter_append, List.map_append]
    simp [pushedBy, hid]
  | returns =>
    refine ⟨.inl ?_, h.threadObject, h.spawned, h.data⟩
    show s.threads.filter (fun u => u.id ≠ t.id) = []
    rw [hthreads]
    simp
  -- the exception ends the program, and the thread is never joined
  | throws e => exact ⟨h.threads, h.threadObject, h.spawned, h.data⟩

theorem caller_threadStep (s : System) (t : Thread) (r : Reading) :
    (s.threadStep t r).caller = s.caller := by
  unfold threadStep
  cases t.step s.profiler.isMonitorRunning r <;> rfl

theorem ended_threadStep (s : System) (t : Thread) (r : Reading) :
    (s.threadStep t r).ended = s.ended := by
  unfold threadStep
  cases t.step s.profiler.isMonitorRunning r <;> rfl

/-- Where a monitor is running, the caller is between the spawn and the `join`. -/
theorem At.threadStep {s : System} {t : Thread} {c : Caller} (h : At s c) (ht : t ∈ s.threads)
    (r : Reading) : At (s.threadStep t r) c := by
  have hlive : Live (s.ended + 1) s → Live ((s.threadStep t r).ended + 1) (s.threadStep t r) := by
    intro hl
    rw [ended_threadStep]
    exact live_threadStep hl ht r
  cases h with
  | idle hq _ => exact absurd ht hq.not_mem
  | clear hq => exact absurd ht hq.not_mem
  | setFlag hq _ => exact absurd ht hq.not_mem
  | spawn hq _ => exact absurd ht hq.not_mem
  | startTime hl => exact .startTime (hlive hl)
  | started hl => exact .started (hlive hl)
  | measuring hl => exact .measuring (hlive hl)
  | endTime hl => exact .endTime (hlive hl)
  | clearFlag hl => exact .clearFlag (hlive hl)
  | join hl => exact .join (hlive hl)
  | joined hq _ => exact absurd ht hq.not_mem

/-- A monitor that is running was spawned. -/
theorem At.id_le {s : System} {t : Thread} {c : Caller} (h : At s c) (ht : t ∈ s.threads) :
    t.id ≤ s.spawned := by
  rcases h.quiet_or_live with ⟨k, hq⟩ | hl
  · exact absurd ht hq.not_mem
  · rw [(hl.eq_singleton ht).2, hl.spawned]

theorem inv_threadStep {s : System} {t : Thread} (h : Inv s) (ht : t ∈ s.threads) (r : Reading) :
    Inv (s.threadStep t r) := by
  refine ⟨?_, ?_, ?_, ?_⟩
  · unfold threadStep
    cases t.step s.profiler.isMonitorRunning r <;> exact h.energy
  · unfold threadStep
    cases t.step s.profiler.isMonitorRunning r with
    | throws e =>
      intro e' he
      cases he
    | _ => exact h.noThreadError
  · unfold threadStep
    cases t.step s.profiler.isMonitorRunning r with
    | pushes t' x =>
      intro p hp
      rcases List.mem_append.mp hp with hp | hp
      · exact h.ids p hp
      · rw [List.mem_singleton.mp hp]
        exact h.point.id_le ht
    | _ => exact h.ids
  · rw [caller_threadStep]
    exact h.point.threadStep ht r

/-! ## An iteration in steps -/

theorem step_goesOn {s : System} {t t' : Thread} {r : Reading} (hf : s.fault = none)
    (ht : s.threads = [t]) (hstep : t.step s.profiler.isMonitorRunning r = .goesOn t') :
    s.step (.monitor t.id r) = some { s with threads := [t'] } := by
  have hid := id_step (Or.inl hstep)
  unfold step
  rw [hf]
  dsimp only [monitorStep]
  rw [ht, List.find?_cons_of_pos (by simp)]
  dsimp only [threadStep]
  rw [hstep]
  simp [replaceThread, ht, hid, hf]

theorem step_pushes {s : System} {t t' : Thread} {r : Reading} {x : RuntimeProileData}
    (hf : s.fault = none) (ht : s.threads = [t])
    (hstep : t.step s.profiler.isMonitorRunning r = .pushes t' x) :
    s.step (.monitor t.id r) = some { s with
      threads := [t'], profiler := { s.profiler with data := s.profiler.data ++ [x] }
      pushed := s.pushed ++ [(t.id, x)] } := by
  have hid := id_step (Or.inr ⟨x, hstep⟩)
  unfold step
  rw [hf]
  dsimp only [monitorStep]
  rw [ht, List.find?_cons_of_pos (by simp)]
  dsimp only [threadStep]
  rw [hstep]
  simp [replaceThread, ht, hid, hf]

/--
A monitor that is not interrupted goes through `Monitor.iteration` from the open files to the next
check, with the locals and the samples that the iteration ends with.
-/
theorem trace_iteration {s : System} {id : Nat} {m : Monitor} {r : Reading}
    {s' : Monitor × List RuntimeProileData} (hf : s.fault = none)
    (ht : s.threads = [{ id, point := .opening, locals := m }])
    (h : Monitor.iteration (m, s.profiler.data) r = .ok s') :
    ∃ n u, Trace (fun s₁ a s₂ => step s₁ a = some s₂) s (List.replicate n (.monitor id r)) u
      ∧ u.threads = [{ id, point := .check, locals := s'.1 }] ∧ u.profiler.data = s'.2 := by
  rcases Monitor.iteration_cases h with ⟨hskip, rfl⟩ | ⟨hpush, x, hx, rfl⟩
  · -- a file could not be opened: back to the check at once
    have hfail : (m.openFiles r).openFailed = true := (Monitor.openFailed_openFiles m r).mpr hskip
    have h₁ : s.step (.monitor id r)
        = some { s with threads := [⟨id, .check, m.openFiles r⟩] } :=
      step_goesOn hf ht (if_pos hfail)
    exact ⟨1, _, .single h₁, rfl, rfl⟩
  · have hopen : ¬ (m.openFiles r).openFailed = true :=
      fun hfail => (Monitor.openFailed_openFiles m r).mp hfail hpush
    -- open, read, push, close, sleep
    let s₁ : System := { s with threads := [⟨id, .reading, m.openFiles r⟩] }
    let s₂ : System := { s with threads := [⟨id, .pushing, (m.openFiles r).readFiles r⟩] }
    let s₃ : System := { s with
      threads := [⟨id, .closing, ((m.openFiles r).readFiles r).restart⟩]
      profiler := { s.profiler with data := s.profiler.data ++ [x] }
      pushed := s.pushed ++ [(id, x)] }
    let s₄ : System := { s₃ with threads := [⟨id, .sleeping, m.pushed r⟩] }
    let s₅ : System := { s₃ with threads := [⟨id, .check, m.pushed r⟩] }
    have h₁ : s.step (.monitor id r) = some s₁ := step_goesOn hf ht (if_neg hopen)
    have h₂ : s₁.step (.monitor id r) = some s₂ := step_goesOn (s := s₁) hf rfl rfl
    have h₃ : s₂.step (.monitor id r) = some s₃ := by
      refine step_pushes (s := s₂) hf rfl ?_
      dsimp only [Thread.step]
      rw [hx]
    have h₄ : s₃.step (.monitor id r) = some s₄ := step_goesOn (s := s₃) hf rfl rfl
    have h₅ : s₄.step (.monitor id r) = some s₅ := step_goesOn (s := s₄) hf rfl rfl
    exact ⟨5, s₅, .cons h₁ (.cons h₂ (.cons h₃ (.cons h₄ (.single h₅)))), rfl, rfl⟩

/-! ## Runs -/

theorem inv_step {s s' : System} {a : Action} (h : Inv s) (hs : s.step a = some s') : Inv s' := by
  unfold step at hs
  cases hf : s.fault with
  | some f => rw [hf] at hs; cases hs
  | none =>
    rw [hf] at hs
    cases a with
    | caller now => exact inv_callerStep h hs
    | readData =>
      dsimp only at hs
      split at hs
      · rw [← Option.some.inj hs]
        exact h
      · cases hs
    | monitor id r =>
      dsimp only [monitorStep] at hs
      split at hs
      · cases hs
      · next t ht =>
        rw [← Option.some.inj hs]
        exact inv_threadStep h (List.mem_of_find?_eq_some ht) r

/-- The invariant holds in every state that is reached, in whatever order the threads step. -/
theorem inv_run {actions : List Action} {s : System} (h : run actions = some s) : Inv s :=
  (trace_of_foldlM_some h).invariant (fun _ s => Inv s) inv_initial
    fun _ _ _ _ hinv hstep => inv_step hinv hstep

/-- Outside of the spawn and `join` there is no monitor. -/
theorem At.threads_eq_nil {s : System} (h : At s s.caller)
    (hc : s.caller = .idle ∨ ∃ rest, s.caller = .inStart (.clearData :: rest)) : s.threads = [] := by
  generalize s.caller = c at h hc
  cases h with
  | idle hq _ => exact hq.threads
  | clear hq => exact hq.threads
  | _ => simp at hc

theorem At.length_threads {s : System} {c : Caller} (h : At s c) : s.threads.length ≤ 1 := by
  rcases h.quiet_or_live with ⟨k, hq⟩ | hl
  · rw [hq.threads]
    exact Nat.zero_le 1
  · rcases hl.threads with hn | ⟨t, ht, -⟩
    · rw [hn]
      exact Nat.zero_le 1
    · rw [ht]
      exact Nat.le_refl 1

/-- The actions in which the caller clears the samples, or looks at them. -/
def TouchesData (s : System) : Action → Prop
  | .caller _ => ∃ rest, s.caller = .inStart (.clearData :: rest)
  | .readData => True
  | .monitor _ _ => False

/--
**Rounds are isolated.** In every state of every run: one monitor at most is running, no error of
`std::thread` was met, the caller can touch the samples only while no monitor is running, and
after the `k`-th `end` the samples are those that the `k`-th monitor pushed.
-/
theorem rounds_isolated (actions : List Action) (s : System) (h : run actions = some s) :
    s.threads.length ≤ 1
      ∧ (∀ e, s.fault ≠ some (.thread e))
      ∧ (∀ a s', s.step a = some s' → s.TouchesData a → s.threads = [])
      ∧ (s.caller = .idle → s.spawned = s.ended ∧ s.profiler.data = s.pushedBy s.ended) := by
  have hinv := inv_run h
  refine ⟨hinv.point.length_threads, hinv.noThreadError, ?_, ?_⟩
  · intro a s' hstep htouch
    refine hinv.point.threads_eq_nil ?_
    cases a with
    | caller now => exact Or.inr htouch
    | readData =>
      refine Or.inl ?_
      unfold step at hstep
      cases hf : s.fault with
      | some f => rw [hf] at hstep; cases hstep
      | none =>
        rw [hf] at hstep
        by_contra hidle
        rw [show (if s.caller = .idle then some s else none) = none from if_neg hidle] at hstep
        cases hstep
    | monitor id r => exact htouch.elim
  · intro hidle
    have hpoint := hinv.point
    rw [hidle] at hpoint
    cases hpoint with
    | idle hq hdata => exact ⟨hq.spawned, hdata⟩

/-- Two rounds with one sample each; `end` has to wait while the monitor closes the files. -/
def twoRounds : List Action :=
  let files (now : Int) : Reading :=
    { current := some ['5', '\n'], voltage := some ['7', '\n'], now }
  let round (id : Nat) : List Action :=
    List.replicate 6 (.caller 0) ++ .monitor id (files 1000)
      :: List.replicate 4 (.monitor id (files 4000)) ++ List.replicate 3 (.caller 9000)
      ++ List.replicate 3 (.monitor id (files 9000)) ++ List.replicate 2 (.caller 9000)
  round 1 ++ [.readData] ++ round 2

def afterTwoRounds : System := (run twoRounds).getD initial

theorem rounds_isolated_two :
    afterTwoRounds.ended = 2 ∧ afterTwoRounds.pushed = [(1, ⟨3, 5, 7, 0⟩), (2, ⟨3, 5, 7, 0⟩)]
      ∧ afterTwoRounds.profiler.data = afterTwoRounds.pushedBy afterTwoRounds.ended :=
  ⟨by decide +kernel, by decide +kernel,
    ((rounds_isolated twoRounds afterTwoRounds (by decide +kernel)).2.2.2 (by decide +kernel)).2⟩

end System

end UnifiedModelBenchmark
