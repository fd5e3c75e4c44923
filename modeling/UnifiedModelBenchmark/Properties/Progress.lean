import UnifiedModelBenchmark.Infra.Within
import UnifiedModelBenchmark.Properties.Steps

/-!
# `end` gets its monitor to return

The flag is set before the monitor is spawned and cleared before it is joined (`Flagged`). So the
monitor runs as long as the caller measures, and once the flag is cleared it has a bounded number of
steps left, whatever it finds (`Point.rank`). No round gets stuck.
-/

namespace UnifiedModelBenchmark

open Infra Infra.Cxx

/-- The steps a monitor has left when the flag is cleared. -/
def Point.rank : Point → Nat
  | .entry => 2
  | .check => 1
  | .opening => 6
  | .reading => 5
  | .pushing => 4
  | .closing => 3
  | .sleeping => 2

theorem Point.rank_le (p : Point) : p.rank ≤ 6 := by cases p <;> decide

namespace System

/-! ## The flag -/

/-- From the spawn until the flag is cleared. -/
def Monitored (c : Caller) : Prop :=
  c ∈ [.inStart [.readStartTime], .inStart [], .measuring,
    .inEnd [.readEndTime, .setRunning false, .join], .inEnd [.setRunning false, .join]]

structure Flagged (s : System) : Prop where
  set : s.caller = .inStart [.spawn, .readStartTime] ∨ Monitored s.caller →
    s.profiler.isMonitorRunning = true
  cleared : s.caller = .inEnd [.join] → s.profiler.isMonitorRunning = false
  running : Monitored s.caller → s.threads ≠ []

theorem flagged_step {s s' : System} {a : Action} (hinv : Inv s) (h : Flagged s)
    (hs : s.step a = some s') : Flagged s' := by
  obtain ⟨-, ⟨now, rfl, hstep⟩ | ⟨rfl, -, rfl⟩ | ⟨t, r, rfl, ht, hstep⟩⟩ := step_cases hinv hs
  · cases hstep with
    | callsStart _ => exact ⟨by simp [Monitored], by simp, by simp [Monitored]⟩
    | clearsData _ => exact ⟨by simp [Monitored], by simp, by simp [Monitored]⟩
    | setsFlag _ => exact ⟨fun _ => rfl, by simp, by simp [Monitored]⟩
    | spawns hc _ => exact ⟨fun _ => h.set (.inl hc), by simp, by simp⟩
    | readsStartTime hc =>
      have hm : Monitored s.caller := by simp [Monitored, hc]
      exact ⟨fun _ => h.set (.inr hm), by simp, fun _ => h.running hm⟩
    | measures hc =>
      have hm : Monitored s.caller := by simp [Monitored, hc]
      exact ⟨fun _ => h.set (.inr hm), by simp, fun _ => h.running hm⟩
    | callsEnd hc =>
      have hm : Monitored s.caller := by simp [Monitored, hc]
      exact ⟨fun _ => h.set (.inr hm), by simp, fun _ => h.running hm⟩
    | readsEndTime hc =>
      have hm : Monitored s.caller := by simp [Monitored, hc]
      exact ⟨fun _ => h.set (.inr hm), by simp, fun _ => h.running hm⟩
    | clearsFlag _ => exact ⟨by simp [Monitored], fun _ => rfl, by simp [Monitored]⟩
    | joins _ _ => exact ⟨by simp [Monitored], by simp, by simp [Monitored]⟩
    | returns _ => exact ⟨by simp [Monitored], by simp, by simp [Monitored]⟩
  · exact h
  · cases hstep with
    | seesFalse _ hflag =>
      refine ⟨h.set, h.cleared, fun hm => ?_⟩
      -- the flag is not cleared while the caller measures
      have hset := h.set (.inr hm)
      rw [hflag] at hset
      cases hset
    | throws e _ _ => exact ⟨h.set, h.cleared, h.running⟩
    | _ => exact ⟨h.set, h.cleared, by simp⟩

theorem flagged_run {actions : List Action} {s : System} (h : run actions = some s) :
    Flagged s := by
  have hboth : Inv s ∧ Flagged s := by
    refine (trace_of_foldlM_some h).invariant (fun _ s => Inv s ∧ Flagged s)
      ⟨inv_initial,
        ⟨by simp [initial, Monitored], by simp [initial], by simp [initial, Monitored]⟩⟩ ?_
    intro _ s a s' ⟨hinv, hflag⟩ hstep
    exact ⟨inv_step hinv hstep, flagged_step hinv hflag hstep⟩
  exact hboth.2

/-! ## Steps that are possible -/

theorem blocked_of_nil {s : System} (h : s.threads = []) (op : ProfilerOp) :
    s.blocked op = false := by
  unfold blocked
  rw [h]
  simp

/-- The caller can go on unless it waits for the monitor. -/
theorem exists_callerStep {s : System} (hinv : Inv s) (hfault : s.fault = none)
    (hjoin : s.caller = .inEnd [.join] → s.threads = []) (now : Int) :
    ∃ s', s.step (.caller now) = some s' := by
  have hpoint := hinv.point
  unfold step
  rw [hfault]
  dsimp only [callerStep]
  generalize s.caller = c at hpoint hjoin
  cases hpoint with
  | clear _ => exact ⟨_, perform_of_ok (blocked_eq_false (by simp)) (by simp) rfl⟩
  | setFlag _ _ => exact ⟨_, perform_of_ok (blocked_eq_false (by simp)) (by simp) rfl⟩
  | spawn hq _ => exact ⟨_, perform_spawn hq.threadObject⟩
  | startTime _ => exact ⟨_, perform_of_ok (blocked_eq_false (by simp)) (by simp) rfl⟩
  | endTime _ => exact ⟨_, perform_of_ok (blocked_eq_false (by simp)) (by simp) rfl⟩
  | clearFlag _ => exact ⟨_, perform_of_ok (blocked_eq_false (by simp)) (by simp) rfl⟩
  | join hl =>
    have hexec : s.profiler.exec now (s.spawned + 1) .join
        = .ok { s.profiler with powerMonitorThread := none } := by
      unfold MyProfiler.exec
      rw [hl.threadObject]
    exact ⟨_, perform_of_ok (blocked_of_nil (hjoin rfl) _) (by simp) hexec⟩
  | _ => exact ⟨_, rfl⟩

/-- A monitor that runs can always go on. -/
theorem exists_monitorStep {s : System} {t : Thread} (hfault : s.fault = none)
    (ht : s.threads = [t]) (r : Reading) : ∃ s', s.step (.monitor t.id r) = some s' := by
  unfold step
  rw [hfault]
  dsimp only [monitorStep]
  rw [ht, List.find?_cons_of_pos (by simp)]
  exact ⟨_, rfl⟩

/-! ## The rank -/

/-- The steps that are left of the round, if the monitor does not step before `join` waits. -/
def rank (s : System) : Nat :=
  match s.caller with
  | .idle => 0
  | .inStart rest => rest.length + 12
  | .measuring => 11
  | .inEnd [] => 1
  | .inEnd [.join] => 2 + (s.threads.map fun t => t.point.rank).sum
  | .inEnd rest => rest.length + 7

theorem sum_rank_le {s : System} (hinv : Inv s) :
    (s.threads.map fun t => t.point.rank).sum ≤ 6 := by
  have hlength := hinv.point.length_threads
  match h : s.threads with
  | [] => simp
  | [t] => simpa using t.point.rank_le
  | t :: u :: rest =>
    rw [h] at hlength
    simp at hlength

theorem rank_le {s : System} (hinv : Inv s) : s.rank ≤ 16 := by
  have hpoint := hinv.point
  have hsum := sum_rank_le hinv
  unfold rank
  generalize s.caller = c at hpoint
  cases hpoint with
  | join _ => exact Nat.add_le_add_left hsum 2 |>.trans (by decide)
  | _ => simp

theorem rank_pos {s : System} (hinv : Inv s) (hidle : s.caller ≠ .idle) : 0 < s.rank := by
  have hpoint := hinv.point
  unfold rank
  generalize s.caller = c at hpoint hidle
  cases hpoint with
  | idle _ _ => exact absurd rfl hidle
  | _ => simp

/-- Every step of the caller in a round lowers the rank. -/
theorem rank_callerStep {s s' : System} {now : Int} (hinv : Inv s) (hidle : s.caller ≠ .idle)
    (hs : CallerStep s now s') : s'.rank < s.rank := by
  have hsum := sum_rank_le hinv
  cases hs with
  | callsStart hc => exact absurd hc hidle
  | clearsFlag hc =>
    simp [rank, hc]
    omega
  | joins hc ht => simp [rank, hc, ht]
  | _ hc => simp [rank, hc]

/-- Every step of the monitor while `join` waits lowers the rank, or ends the program. -/
theorem rank_monitorStep {s s' : System} {t : Thread} {r : Reading} (hflag : Flagged s)
    (hjoin : s.caller = .inEnd [.join]) (ht : s.threads = [t]) (hs : MonitorStep s t r s') :
    (s'.fault = s.fault ∧ s'.rank < s.rank) ∨ ∃ e, s'.fault = some (.uncaught e) := by
  have hcleared := hflag.cleared hjoin
  cases hs with
  | seesTrue _ hset =>
    rw [hset] at hcleared
    cases hcleared
  | throws e _ _ => exact .inr ⟨e, rfl⟩
  | seesFalse hp _ => exact .inl ⟨rfl, by simp [rank, hjoin, ht, hp, Point.rank]⟩
  | fails hp _ => exact .inl ⟨rfl, by simp [rank, hjoin, ht, hp, Point.rank]⟩
  | opens hp _ => exact .inl ⟨rfl, by simp [rank, hjoin, ht, hp, Point.rank]⟩
  | pushes _ hp _ => exact .inl ⟨rfl, by simp [rank, hjoin, ht, hp, Point.rank]⟩
  | _ hp => exact .inl ⟨rfl, by simp [rank, hjoin, ht, hp, Point.rank]⟩

/-! ## Results -/

/-- The state the program is in when the round is over: `end` has returned, or an exception has
left the monitor. -/
def RoundOver (s : System) : Prop := s.caller = .idle ∨ ∃ e, s.fault = some (.uncaught e)

/-- The caller makes its turn at the time that the environment has, a monitor finds its files. -/
def turn (s : System) (thread : Option Nat) (r : Reading) : Option System :=
  match thread with
  | none => s.step (.caller r.now)
  | some id => s.step (.monitor id r)

/--
**No round gets stuck.** In every state of every run, if the program goes on, then the threads can
take turns such that `end` returns within 16 steps, or the monitor ends the program with an
exception: whatever the files hold and whatever the clock shows.
-/
theorem round_completes (actions : List Action) (s : System) (h : run actions = some s)
    (hfault : s.fault = none) : Within turn RoundOver 16 s := by
  refine Within.of_rank (fun s => Inv s ∧ Flagged s ∧ s.fault = none) rank ?_ 16
    ⟨inv_run h, flagged_run h, hfault⟩ (rank_le (inv_run h))
  rintro s ⟨hinv, hflag, hnone⟩ hnot
  have hidle : s.caller ≠ .idle := fun hc => hnot (.inl hc)
  refine ⟨rank_pos hinv hidle, ?_⟩
  by_cases hwaits : s.caller = .inEnd [.join] ∧ s.threads ≠ []
  · obtain ⟨hjoin, hthreads⟩ := hwaits
    obtain ⟨t, ht⟩ := hinv.exists_thread hthreads
    refine ⟨some t.id, fun r => ?_⟩
    obtain ⟨s', hs'⟩ := exists_monitorStep hnone ht r
    refine ⟨s', hs', ?_⟩
    rcases rank_monitorStep hflag hjoin ht (monitorStep_of_step hinv ht hs') with ⟨hf, hlt⟩ | he
    · exact .inr ⟨⟨inv_step hinv hs', flagged_step hinv hflag hs', hf.trans hnone⟩, hlt⟩
    · exact .inl (.inr he)
  · -- the caller steps whenever it can
    refine ⟨none, fun r => ?_⟩
    obtain ⟨s', hs'⟩ := exists_callerStep hinv hnone
      (fun hc => by_contra fun ht => hwaits ⟨hc, ht⟩) r.now
    have hcaller := callerStep_of_step hinv hs'
    exact ⟨s', hs', .inr ⟨⟨inv_step hinv hs', flagged_step hinv hflag hs',
      hcaller.fault.trans hnone⟩, rank_callerStep hinv hidle hcaller⟩⟩

/-- The state after the first `n` steps of the two rounds. -/
def afterSteps (n : Nat) : System := (run (twoRounds.take n)).getD initial

/-- In the middle of an iteration of the monitor. -/
theorem round_completes_reading : Within turn RoundOver 16 (afterSteps 9) :=
  round_completes (twoRounds.take 9) (afterSteps 9) (by decide +kernel) (by decide +kernel)

/-- A wait of the caller in `join`. -/
def Waits (s : System) (a : Action) (s' : System) : Prop :=
  s.step a = some s' ∧ s'.caller = .inEnd [.join]

instance (s : System) (a : Action) (s' : System) : Decidable (Waits s a s') := by
  unfold Waits
  infer_instance

/-- Only the monitor steps while the caller waits. -/
theorem Waits.monitorStep {s s' : System} {a : Action} (hinv : Inv s)
    (hjoin : s.caller = .inEnd [.join]) (h : Waits s a s') :
    s.fault = none ∧ ∃ t r, s.threads = [t] ∧ MonitorStep s t r s' := by
  obtain ⟨hstep, hjoin'⟩ := h
  obtain ⟨hfault, ⟨now, rfl, hcaller⟩ | ⟨rfl, hidle, -⟩ | ⟨t, r, rfl, ht, hmonitor⟩⟩ :=
    step_cases hinv hstep
  · cases hcaller with
    | joins _ _ => cases hjoin'
    | _ hc => simp [hc] at hjoin
  · rw [hidle] at hjoin
    cases hjoin
  · exact ⟨hfault, t, r, ht, hmonitor⟩

/-- While the caller waits there are steps left for the monitor, or an exception has left it. -/
theorem waits_bound {s s' : System} {waiting : List Action} (hinv : Inv s) (hflag : Flagged s)
    (hjoin : s.caller = .inEnd [.join]) (hwait : Trace Waits s waiting s') :
    Inv s' ∧ s'.caller = .inEnd [.join] ∧
      (waiting.length + s'.rank ≤ 8 ∨
        (waiting.length ≤ 6 ∧ ∃ e, s'.fault = some (.uncaught e))) := by
  have hrank : ∀ s : System, s.caller = .inEnd [.join] →
      s.rank = 2 + (s.threads.map fun t => t.point.rank).sum := by
    intro s hc
    unfold rank
    rw [hc]
  have hinvariant : (Inv s' ∧ Flagged s' ∧ s'.caller = .inEnd [.join]) ∧
      (waiting.length + s'.rank ≤ 8 ∨
        (waiting.length ≤ 6 ∧ ∃ e, s'.fault = some (.uncaught e))) := by
    refine hwait.invariant (fun as s₁ => (Inv s₁ ∧ Flagged s₁ ∧ s₁.caller = .inEnd [.join]) ∧
      (as.length + s₁.rank ≤ 8 ∨ (as.length ≤ 6 ∧ ∃ e, s₁.fault = some (.uncaught e))))
      ⟨⟨hinv, hflag, hjoin⟩, .inl ?_⟩ ?_
    · have hsum := sum_rank_le hinv
      rw [hrank s hjoin, List.length_nil]
      omega
    · rintro as s₁ a s₂ ⟨⟨hinv₁, hflag₁, hjoin₁⟩, hbound⟩ hstep
      obtain ⟨hnone, t, r, ht, hmonitor⟩ := hstep.monitorStep hinv₁ hjoin₁
      refine ⟨⟨inv_step hinv₁ hstep.1, flagged_step hinv₁ hflag₁ hstep.1, hstep.2⟩, ?_⟩
      have hbound₁ : as.length + s₁.rank ≤ 8 := by
        rcases hbound with hle | ⟨-, e, he⟩
        · exact hle
        · rw [hnone] at he
          cases he
      rw [List.length_append, List.length_singleton]
      rcases rank_monitorStep hflag₁ hjoin₁ ht hmonitor with ⟨-, hlt⟩ | hthrown
      · exact .inl (by omega)
      · -- the monitor that throws has a rank as well
        have hpos : 3 ≤ s₁.rank := by
          rw [hrank s₁ hjoin₁, ht]
          have hpoint : 1 ≤ t.point.rank := by cases t.point <;> decide
          simp
          omega
        exact .inr ⟨by omega, hthrown⟩
  exact ⟨hinvariant.1.1, hinvariant.1.2.2, hinvariant.2⟩

/--
**`join` comes to an end.** While the caller waits in `join` there are at most 6 steps, whatever
they are. No further step is possible in the wait exactly when the monitor has returned or an
exception has left it.
-/
theorem join_terminates (actions waiting : List Action) (s s' : System) (h : run actions = some s)
    (hjoin : s.caller = .inEnd [.join]) (hwait : Trace Waits s waiting s') :
    waiting.length ≤ 6 ∧
      ((∀ a s'', ¬ Waits s' a s'') ↔ s'.threads = [] ∨ ∃ e, s'.fault = some (.uncaught e)) := by
  obtain ⟨hinv', hjoin', hbound⟩ := waits_bound (inv_run h) (flagged_run h) hjoin hwait
  refine ⟨?_, ?_, ?_⟩
  · have hpos : 2 ≤ s'.rank := by
      unfold rank
      rw [hjoin']
      exact Nat.le_add_right 2 _
    omega
  · intro hstuck
    by_contra hruns
    rw [not_or] at hruns
    obtain ⟨hthreads, hthrown⟩ := hruns
    obtain ⟨t, ht⟩ := hinv'.exists_thread hthreads
    have hnone : s'.fault = none := by
      cases hf : s'.fault with
      | none => rfl
      | some f =>
        cases f with
        | thread e => exact absurd hf (hinv'.noThreadError e)
        | uncaught e => exact absurd ⟨e, hf⟩ hthrown
    obtain ⟨s'', hs''⟩ := exists_monitorStep hnone ht Reading.ones
    refine hstuck _ s'' ⟨hs'', ?_⟩
    rw [(monitorStep_of_step hinv' ht hs'').caller, hjoin']
  · rintro hover a s'' hw
    obtain ⟨hnone, t, r, ht, -⟩ := hw.monitorStep hinv' hjoin'
    rcases hover with hnil | ⟨e, he⟩
    · rw [hnil] at ht
      cases ht
    · rw [he] at hnone
      cases hnone

/-- The monitor has three steps left when the wait begins, and makes them. -/
theorem join_terminates_first : ((twoRounds.drop 14).take 3).length ≤ 6
    ∧ ¬ Waits (afterSteps 17) (.caller 9000) (afterSteps 18) := by
  have hwaits : ∀ n ∈ [14, 15, 16], ∀ a ∈ twoRounds[n]?,
      Waits (afterSteps n) a (afterSteps (n + 1)) := by
    decide +kernel
  have hwait : Trace Waits (afterSteps 14) ((twoRounds.drop 14).take 3) (afterSteps 17) :=
    .cons (hwaits 14 (by simp) _ rfl) (.cons (hwaits 15 (by simp) _ rfl)
      (.single (hwaits 16 (by simp) _ rfl)))
  obtain ⟨hbound, hover⟩ := join_terminates (twoRounds.take 14) ((twoRounds.drop 14).take 3)
    (afterSteps 14) (afterSteps 17) (by decide +kernel) (by decide +kernel) hwait
  exact ⟨hbound, hover.mpr (.inl (by decide +kernel)) _ _⟩

/--
**The monitor runs as long as the caller measures**: in every state between the two calls the flag
is set and exactly one monitor is running, which is that of the round.
-/
theorem measuring_monitored (actions : List Action) (s : System) (h : run actions = some s)
    (hc : s.caller = .measuring) :
    s.profiler.isMonitorRunning = true ∧ ∃ t, s.threads = [t] ∧ t.id = s.ended + 1 := by
  have hinv := inv_run h
  have hflag := flagged_run h
  have hm : Monitored s.caller := by simp [Monitored, hc]
  refine ⟨hflag.set (.inr hm), ?_⟩
  have hpoint := hinv.point
  rw [hc] at hpoint
  cases hpoint with
  | measuring hl =>
    rcases hl.threads with hnil | hrunning
    · exact absurd hnil (hflag.running hm)
    · exact hrunning

theorem measuring_monitored_first : (afterSteps 6).profiler.isMonitorRunning = true
    ∧ ∃ t, (afterSteps 6).threads = [t] ∧ t.id = (afterSteps 6).ended + 1 :=
  measuring_monitored (twoRounds.take 6) (afterSteps 6) (by decide +kernel) (by decide +kernel)

end System

end UnifiedModelBenchmark
