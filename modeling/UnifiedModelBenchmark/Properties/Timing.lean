import UnifiedModelBenchmark.Benchmark.Timing
import UnifiedModelBenchmark.Spec.Report

/-!
# The times of the rounds

The profiler of a driver does not profile energy, so `start` and `end` are one reading of the
clock each. A round whose inference does not read the clock is a `Round`: it yields the time
between two readings that follow each other. The lists of a driver are determined by that.
-/

namespace UnifiedModelBenchmark

open Infra Infra.Cxx Program Spec

variable {Event α : Type}

/-! ## One round -/

section

variable [Clocked Event]

theorem now_eq (w : World Event) :
    MyProfiler.now w = .ok (w.clock w.ticks, w.after 1 [] [Clocked.readClock]) := by
  show Except.ok (w.clock w.ticks, (w.after 0 [] [Clocked.readClock]).after 1 [] []) = _
  rw [World.after_after]
  rfl

theorem performOp_readStartTime (p : MyProfiler) (w : World Event) :
    p.performOp .readStartTime w
      = .ok ({ p with startTime := w.clock w.ticks }, w.after 1 [] [Clocked.readClock]) := by
  unfold MyProfiler.performOp
  rw [if_pos (.inl rfl)]
  exact bind_eq_ok (now_eq w)

theorem performOp_readEndTime (p : MyProfiler) (w : World Event) :
    p.performOp .readEndTime w
      = .ok ({ p with endTime := w.clock w.ticks }, w.after 1 [] [Clocked.readClock]) := by
  unfold MyProfiler.performOp
  rw [if_pos (.inr rfl)]
  exact bind_eq_ok (now_eq w)

theorem performStart_eq {p : MyProfiler} (h : p.useEnergyProfile = false) (android : Bool)
    (w : World Event) : p.performStart android w
      = .ok ({ p with startTime := w.clock w.ticks }, w.after 1 [] [Clocked.readClock]) := by
  have hops : p.start android = [.readStartTime] := by
    unfold MyProfiler.start
    rw [h, Bool.and_false]
    rfl
  unfold MyProfiler.performStart
  rw [hops, List.foldlM_cons, bind_eq_ok (performOp_readStartTime p w)]
  rfl

theorem performEnd_eq {p : MyProfiler} (h : p.useEnergyProfile = false) (android : Bool)
    (w : World Event) : p.performEnd android w
      = .ok ({ p with endTime := w.clock w.ticks }, w.after 1 [] [Clocked.readClock]) := by
  have hops : p.end android = [.readEndTime] := by
    unfold MyProfiler.end
    rw [h, Bool.and_false]
    rfl
  unfold MyProfiler.performEnd
  rw [hops, List.foldlM_cons, bind_eq_ok (performOp_readEndTime p w)]
  rfl

end

variable [Double α]

/-- A round of a profiler without energy profiling: two readings of the clock, and their time. -/
def Round (round : MyProfiler → Program Stop Event (MyProfiler × α)) : Prop :=
  ∀ p w, p.useEnergyProfile = false → ∃ p' lines events, p'.useEnergyProfile = false ∧
    round p w = .ok ((p', duration w.clock w.ticks), w.after 2 lines events)

theorem round_measured [Clocked Event] (android : Bool) {inference : Program Stop Event Unit}
    (h : Timeless inference) : Round (α := α) (measured android inference) := by
  intro p w hp
  obtain ⟨u, lines, events, hinf⟩ := h (w.after 1 [] [Clocked.readClock])
  refine ⟨{ p with startTime := w.clock w.ticks, endTime := w.clock (w.ticks + 1) }, lines,
    Clocked.readClock :: events ++ [Clocked.readClock], hp, ?_⟩
  have hstart := performStart_eq hp android w
  have hend := performEnd_eq (p := { p with startTime := w.clock w.ticks }) hp android
    ((w.after 1 [] [Clocked.readClock]).after 0 lines events)
  unfold measured
  rw [bind_eq_ok hstart, bind_eq_ok hinf, bind_eq_ok hend, World.after_after, World.after_after,
    List.append_nil]
  rfl

/-- What is done before a round does not count. -/
theorem Round.after {before : Program Stop Event Unit}
    {round : MyProfiler → Program Stop Event (MyProfiler × α)} (hb : Timeless before)
    (h : Round round) : Round fun p => before >>= fun _ => round p := by
  intro p w hp
  obtain ⟨u, lines, events, hbefore⟩ := hb w
  obtain ⟨p', lines', events', hp', hround⟩ := h p (w.after 0 lines events) hp
  refine ⟨p', lines ++ lines', events ++ events', hp', ?_⟩
  show (before >>= fun _ => round p) w = _
  rw [bind_eq_ok hbefore, hround, World.after_after]
  rfl

/-- Nor is what is done after it. -/
theorem Round.before {after : Program Stop Event Unit}
    {round : MyProfiler → Program Stop Event (MyProfiler × α)} (ha : Timeless after)
    (h : Round round) : Round fun p => round p >>= fun x => after >>= fun _ => pure x := by
  intro p w hp
  obtain ⟨p', lines, events, hp', hround⟩ := h p w hp
  obtain ⟨u, lines', events', hafter⟩ := ha (w.after 2 lines events)
  refine ⟨p', lines ++ lines', events ++ events', hp', ?_⟩
  show (round p >>= fun x => after >>= fun _ => pure x) w = _
  rw [bind_eq_ok hround, bind_eq_ok hafter, World.after_after]
  rfl

/-! ## Loops of rounds -/

theorem durations_succ (clock : Nat → Int) (t n : Nat) :
    (durations clock t (n + 1) : List α) = durations clock t n ++ [duration clock (t + 2 * n)] := by
  unfold durations
  rw [List.range_succ, List.map_append]
  rfl

/-- **The list of a loop** holds the times between the readings of its rounds, in order. -/
theorem rounds_eq {round : MyProfiler → Program Stop Event (MyProfiler × α)} (h : Round round)
    (n : Int32) {p : MyProfiler} (hp : p.useEnergyProfile = false) (w : World Event) :
    ∃ p' lines events, p'.useEnergyProfile = false ∧
      rounds n round p w
        = .ok ((p', durations w.clock w.ticks (count n)), w.after (2 * count n) lines events) := by
  unfold rounds count
  generalize n.toInt.toNat = k
  induction k with
  | zero => exact ⟨p, [], [], hp, by rw [Nat.mul_zero, w.after_zero]; rfl⟩
  | succ k ih =>
    obtain ⟨p₁, lines, events, hp₁, hloop⟩ := ih
    obtain ⟨p₂, lines', events', hp₂, hround⟩ := h p₁ (w.after (2 * k) lines events) hp₁
    refine ⟨p₂, lines ++ lines', events ++ events', hp₂, ?_⟩
    -- the last round appends its time to the list of the rounds before
    rw [List.range_succ, List.foldlM_append, bind_eq_ok hloop, durations_succ]
    show ((round p₁ >>= fun x => pure (x.1, durations w.clock w.ticks k ++ [x.2])) >>= fun s =>
      pure s) _ = _
    rw [bind_pure, bind_eq_ok hround, World.after_after]
    rfl

/-- **The two lists of a driver** hold the times of the first rounds and of those that follow. -/
theorem phases_eq {warmupRound runRound : MyProfiler → Program Stop Event (MyProfiler × α)}
    (hwarmup : Round warmupRound) (hrun : Round runRound) (numWarmup numRuns : Int32)
    {w : World Event} (hw : w.ticks = 0) : ∃ n lines events,
      phases numWarmup numRuns warmupRound runRound w
        = .ok ((warmupDurations w.clock numWarmup, runDurations w.clock numWarmup numRuns),
          w.after n lines events) := by
  obtain ⟨p₁, lines, events, hp₁, hfirst⟩ := rounds_eq hwarmup numWarmup (p := {}) rfl w
  obtain ⟨p₂, lines', events', -, hsecond⟩ := rounds_eq hrun numRuns hp₁
    (w.after (2 * count numWarmup) lines events)
  refine ⟨2 * count numWarmup + 2 * count numRuns, lines ++ lines', events ++ events', ?_⟩
  unfold phases
  rw [bind_eq_ok hfirst, bind_eq_ok hsecond, World.after_after]
  unfold warmupDurations runDurations
  rw [World.after_ticks, hw, Nat.zero_add]
  rfl

end UnifiedModelBenchmark
