import UnifiedModelBenchmark.Properties.History
import UnifiedModelBenchmark.Properties.Sampling

/-!
# A round does not sample more time than it takes

The times in a history are times of steps of the monitor, in the order of the steps
(`times_round`). The intervals of the samples are cut from the time between them, so on a clock that
does not go back they add up to no more than the round took, and the energy is bounded, in exact
arithmetic, by that of the largest power over this time.
-/

namespace UnifiedModelBenchmark

open Infra Infra.Cxx Spec

/-! ## The sampler -/

theorem sampleOf_intervalTime {since now : Int} {current voltage : Str} {x : RuntimeProileData}
    (h : sampleOf since now current voltage = .ok x) :
    x.intervalTime = (now - since).tdiv 1000 := by
  unfold sampleOf at h
  split at h
  · cases h
  · split at h
    · cases h
    · rw [← Except.ok.inj h]

/-- The intervals are gaps between some of the times. -/
theorem observe_gaps : ∀ {readings : List Reading} {since : Int} {data : List RuntimeProileData},
    observe since readings = .ok data → ∃ ts, ts.Sublist (readings.map Reading.now) ∧
      data.map RuntimeProileData.intervalTime = gaps 1000 since ts
  | [], since, data, h => by
    obtain rfl : [] = data := Except.ok.inj h
    exact ⟨[], .slnil, rfl⟩
  | r :: rs, since, data, h => by
    unfold observe at h
    split at h
    · next current voltage _ _ =>
      cases hx : sampleOf since r.now current voltage with
      | error e => rw [hx] at h; cases h
      | ok x =>
        rw [hx] at h
        dsimp only at h
        cases hobs : observe r.now rs with
        | error e => rw [hobs] at h; cases h
        | ok rest =>
          rw [hobs] at h
          obtain rfl : x :: rest = data := Except.ok.inj h
          obtain ⟨ts, hts, hgaps⟩ := observe_gaps hobs
          refine ⟨r.now :: ts, hts.cons_cons r.now, ?_⟩
          rw [List.map_cons, hgaps, sampleOf_intervalTime hx, gaps_cons]
    · obtain ⟨ts, hts, hgaps⟩ := observe_gaps h
      exact ⟨ts, hts.cons _, hgaps⟩
    · obtain rfl : [] = data := Except.ok.inj h
      exact ⟨[], List.nil_sublist _, rfl⟩
    · obtain rfl : [] = data := Except.ok.inj h
      exact ⟨[], List.nil_sublist _, rfl⟩

/-- On a clock that does not go back the intervals fit into the time up to `t₁`. -/
theorem observe_elapsed {readings : List Reading} {since t₁ : Int} {data : List RuntimeProileData}
    (h : observe since readings = .ok data)
    (hclock : (since :: readings.map Reading.now).Pairwise (· ≤ ·))
    (hle : ∀ t ∈ since :: readings.map Reading.now, t ≤ t₁) :
    (∀ x ∈ data, 0 ≤ x.intervalTime)
      ∧ 1000 * (data.map RuntimeProileData.intervalTime).sum ≤ t₁ - since := by
  obtain ⟨ts, hts, hgaps⟩ := observe_gaps h
  have hsub : (since :: ts).Sublist (since :: readings.map Reading.now) := hts.cons_cons since
  have hclock' : (since :: ts).Pairwise (· ≤ ·) := hclock.sublist hsub
  constructor
  · intro x hx
    refine gaps_nonneg (u := 1000) (by decide) hclock' x.intervalTime ?_
    rw [← hgaps]
    exact List.mem_map_of_mem hx
  · have hlast : ts.getLastD since ≤ t₁ := hle _ (hsub.subset (List.getLastD_mem_cons ..))
    have hsum := (sum_gaps (u := 1000) (by decide) hclock').1
    rw [hgaps]
    omega

/-- The energy is at most that of the power `p` over all intervals. -/
theorem abs_energy_le {p : Int} {data : List RuntimeProileData}
    (hinterval : ∀ x ∈ data, 0 ≤ x.intervalTime)
    (hpower : ∀ x ∈ data, |x.currentValue * x.voltageValue| ≤ p) :
    |(computeEnergyFromPower data : ℚ)|
      ≤ energyFactor * p * (data.map RuntimeProileData.intervalTime).sum := by
  have hfactor : 0 < energyFactor := by unfold energyFactor; norm_num
  have hwork : |(data.map work).sum| ≤ p * (data.map RuntimeProileData.intervalTime).sum := by
    induction data with
    | nil => simp
    | cons x data ih =>
      have hx : |work x| ≤ p * x.intervalTime := by
        have h0 := hinterval x (List.mem_cons_self ..)
        rw [work, mul_assoc, abs_mul, abs_of_nonneg h0, mul_comm]
        exact mul_le_mul_of_nonneg_right (hpower x (List.mem_cons_self ..)) h0
      have hrest := ih (fun y hy => hinterval y (List.mem_cons_of_mem _ hy))
        (fun y hy => hpower y (List.mem_cons_of_mem _ hy))
      rw [List.map_cons, List.sum_cons, List.map_cons, List.sum_cons, mul_add]
      exact (abs_add_le _ _).trans (add_le_add hx hrest)
  have hwork' :
      |((data.map work).sum : ℚ)| ≤ p * (data.map RuntimeProileData.intervalTime).sum := by
    exact_mod_cast hwork
  rw [computeEnergyFromPower_eq, abs_mul, abs_of_pos hfactor, mul_assoc]
  exact mul_le_mul_of_nonneg_left hwork' hfactor.le

/-! ## The times in a history -/

/-- A look at the samples has no time. -/
def Action.time : Action → Option Int
  | .caller now => some now
  | .readData => none
  | .monitor _ r => some r.now

namespace System

/-- A step adds its own time at most, at the end. -/
theorem times_note (hist : History) (t : Thread) (r : Reading) :
    (hist.note t r).times.Sublist (hist.times ++ [r.now]) := by
  unfold History.note
  split
  · exact List.sublist_append_right _ _
  · split
    · unfold History.times
      rw [List.map_append]
      exact List.Sublist.refl _
    · exact List.sublist_append_left _ _
  · unfold History.times
    rw [List.map_append]
    exact List.Sublist.refl _
  · exact List.sublist_append_left _ _

/-- The caller is on its way to the next spawn. -/
def BeforeSpawn (c : Caller) : Prop :=
  c = .idle ∨ c = .inStart [.clearData, .setRunning true, .spawn, .readStartTime] ∨ Cleared c

theorem Inv.not_beforeSpawn {s : System} {t : Thread} (h : Inv s) (ht : s.threads = [t]) :
    ¬ BeforeSpawn s.caller := by
  rintro (hc | hc | hc)
  · rw [h.point.threads_eq_nil (.inl hc)] at ht
    cases ht
  · rw [h.point.threads_eq_nil (.inr ⟨_, hc⟩)] at ht
    cases ht
  · exact h.not_cleared ht hc

/-- Since a state in which `ended` calls of `end` had returned, with the actions `as`: the next
monitor is not spawned yet, or has not entered yet, or its history has times of these actions
only. -/
inductive TimesOf (ended : Nat) (as : List Action) (s : System) (hist : History) : Prop
  | waiting (hended : s.ended = ended) (hc : BeforeSpawn s.caller)
  | spawned (t : Thread) (ht : s.threads = [t]) (hp : t.point = .entry)
  | entered (h : hist.times.Sublist (as.filterMap Action.time))

theorem timesOf_step {ended : Nat} {as : List Action} {s s' : System} {hist : History} {a : Action}
    (hinv : Inv s) (h : TimesOf ended as s hist) (hs : s.step a = some s') :
    TimesOf ended (as ++ [a]) s' (hist.after s a) := by
  have hsub : (as.filterMap Action.time).Sublist ((as ++ [a]).filterMap Action.time) := by
    rw [List.filterMap_append]
    exact List.sublist_append_left _ _
  obtain ⟨-, ⟨now, rfl, hstep⟩ | ⟨rfl, -, rfl⟩ | ⟨t, r, rfl, ht, hstep⟩⟩ := step_cases hinv hs
  · cases h with
    | waiting hended hc =>
      cases hstep with
      | callsStart _ => exact .waiting hended (.inr (.inl rfl))
      | clearsData _ => exact .waiting hended (.inr (.inr (.inl rfl)))
      | setsFlag _ => exact .waiting hended (.inr (.inr (.inr rfl)))
      | spawns _ _ => exact .spawned _ rfl rfl
      | readsStartTime hc' => simp [BeforeSpawn, Cleared, hc'] at hc
      | measures hc' => simp [BeforeSpawn, Cleared, hc'] at hc
      | callsEnd hc' => simp [BeforeSpawn, Cleared, hc'] at hc
      | readsEndTime hc' => simp [BeforeSpawn, Cleared, hc'] at hc
      | clearsFlag hc' => simp [BeforeSpawn, Cleared, hc'] at hc
      | joins hc' _ => simp [BeforeSpawn, Cleared, hc'] at hc
      | returns hc' => simp [BeforeSpawn, Cleared, hc'] at hc
    | spawned t ht hp =>
      -- there is no spawn and no `join` while it runs
      cases hstep with
      | spawns _ hthreads => rw [hthreads] at ht; cases ht
      | joins _ hthreads => rw [hthreads] at ht; cases ht
      | _ => exact .spawned t ht hp
    | entered h => exact .entered (h.trans hsub)
  · cases h with
    | waiting hended hc => exact .waiting hended hc
    | spawned t ht hp => exact .spawned t ht hp
    | entered h => exact .entered (h.trans hsub)
  · rw [after_monitor ht]
    cases h with
    | waiting _ hc => exact absurd hc (hinv.not_beforeSpawn ht)
    | spawned u hu hp =>
      obtain rfl : t = u := by simpa [hu] using ht.symm
      refine .entered ?_
      unfold History.note
      rw [hp, List.filterMap_append]
      exact List.sublist_append_right _ _
    | entered h =>
      refine .entered ((times_note hist t r).trans ?_)
      rw [List.filterMap_append]
      exact h.append_right _

/-- After a whole round the times in its history are times of its steps, in their order. -/
theorem times_round {round : List Action} {s₀ s : System} {hist₀ hist : History}
    (hrun : round.foldlM recordStep (s₀, hist₀) = some (s, hist)) (hinv : Inv s₀)
    (hidle₀ : s₀.caller = .idle) (hidle : s.caller = .idle) (hended : s₀.ended < s.ended) :
    hist.times.Sublist (round.filterMap Action.time) := by
  have htrace : Inv s ∧ TimesOf s₀.ended round s hist := by
    refine (trace_of_foldlM_some hrun).invariant
      (fun as sh => Inv sh.1 ∧ TimesOf s₀.ended as sh.1 sh.2) ⟨hinv, .waiting rfl (.inl hidle₀)⟩ ?_
    intro _ sh a sh' ⟨hinv, htimes⟩ hstep
    obtain ⟨s₁, hs₁, rfl⟩ := Option.map_eq_some_iff.mp hstep
    exact ⟨inv_step hinv hs₁, timesOf_step hinv htimes hs₁⟩
  cases htrace.2 with
  | waiting hended' _ => omega
  | spawned t ht _ =>
    rw [htrace.1.point.threads_eq_nil (.inl hidle)] at ht
    cases ht
  | entered h => exact h

/--
**A round does not sample more time than it takes.** Between two moments where the caller is in no
call, with a clock that goes from `t₀` to `t₁` and not back: no sample of the last round has a
negative interval, the intervals add up to no more than `t₁ - t₀`, and if no sample has a power
above `p`, the energy, in exact arithmetic, is not above that of `p` over this time.
-/
theorem round_elapsed (before round : List Action) (s₀ s : System) (t₀ t₁ : Int)
    (h₀ : run before = some s₀) (hidle₀ : s₀.caller = .idle)
    (h : run (before ++ round) = some s) (hidle : s.caller = .idle) (hended : s₀.ended < s.ended)
    (hclock : (t₀ :: round.filterMap Action.time).Pairwise (· ≤ ·))
    (hlast : ∀ t ∈ round.filterMap Action.time, t ≤ t₁) :
    (∀ x ∈ s.profiler.data, 0 ≤ x.intervalTime)
      ∧ 1000 * (s.profiler.data.map RuntimeProileData.intervalTime).sum ≤ t₁ - t₀
      ∧ ∀ p : Int, 0 ≤ p → (∀ x ∈ s.profiler.data, |x.currentValue * x.voltageValue| ≤ p) →
        |(computeEnergyFromPower s.profiler.data : ℚ)|
          ≤ energyFactor * p * ((t₁ - t₀ : Int) / 1000) := by
  obtain ⟨hist, hrec⟩ := exists_record h
  obtain ⟨hinv, hrecorded⟩ := recorded_run hrec
  have hobs := hrecorded.observe_eq_ok hinv hidle
  -- the history of the last round has times of the last actions only
  obtain ⟨hist₀, hrec₀⟩ := exists_record h₀
  have hround : round.foldlM recordStep (s₀, hist₀) = some (s, hist) := by
    unfold record at hrec hrec₀
    rw [List.foldlM_append, hrec₀] at hrec
    exact hrec
  have hsub := times_round hround (inv_run h₀) hidle₀ hidle hended
  rw [List.pairwise_cons] at hclock
  obtain ⟨hinterval, hsum⟩ := observe_elapsed hobs (hclock.2.sublist hsub)
    (fun t ht => hlast t (hsub.subset ht))
  have hfirst : t₀ ≤ hist.entered := hclock.1 _ (hsub.subset (List.mem_cons_self ..))
  have hsum' : 1000 * (s.profiler.data.map RuntimeProileData.intervalTime).sum ≤ t₁ - t₀ := by
    omega
  refine ⟨hinterval, hsum', ?_⟩
  intro p hp hpower
  have hfactor : 0 < energyFactor := by unfold energyFactor; norm_num
  have hsum'' : ((s.profiler.data.map RuntimeProileData.intervalTime).sum : ℚ)
      ≤ (t₁ - t₀ : Int) / 1000 := by
    rw [le_div_iff₀ (by norm_num), mul_comm]
    exact_mod_cast hsum'
  exact (abs_energy_le hinterval hpower).trans (by gcongr)

/-- The second of the two rounds takes 9 µs, and its sample covers 3 of them. -/
theorem round_elapsed_two :
    (∀ x ∈ afterTwoRounds.profiler.data, 0 ≤ x.intervalTime)
      ∧ 1000 * (afterTwoRounds.profiler.data.map RuntimeProileData.intervalTime).sum ≤ 9000 - 0
      ∧ |(computeEnergyFromPower afterTwoRounds.profiler.data : ℚ)|
          ≤ energyFactor * (35 : Int) * ((9000 - 0 : Int) / 1000) := by
  obtain ⟨hinterval, hsum, henergy⟩ := round_elapsed (twoRounds.take 20) (twoRounds.drop 20)
    ((run (twoRounds.take 20)).getD initial) afterTwoRounds 0 9000 (by decide +kernel)
    (by decide +kernel) (by decide +kernel) (by decide +kernel) (by decide +kernel)
    (by decide +kernel) (by decide +kernel)
  exact ⟨hinterval, hsum, henergy 35 (by decide) (by decide +kernel)⟩

end System

end UnifiedModelBenchmark
