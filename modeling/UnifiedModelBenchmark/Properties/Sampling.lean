import Mathlib.Tactic.Linarith
import UnifiedModelBenchmark.Infra.Gaps
import UnifiedModelBenchmark.Properties.Energy
import UnifiedModelBenchmark.Properties.Monitor

/-!
# Sampling loses no time

`tp1` only moves on in an iteration that pushes, so a sample covers all the time since the sample
before it, whatever the iterations in between did. The intervals of a run are therefore the gaps
between the clock readings of its samples (`monitoringPower_intervals`), and the energy is that of
the elapsed time, short of what cutting off takes away.
-/

namespace UnifiedModelBenchmark

open Infra

/-! ## The intervals are gaps -/

/-- The clock readings of the iterations that push a sample; no other iteration reads the clock. -/
def pushTimes (s : Monitor × List RuntimeProileData) : List Reading → List Int
  | [] => []
  | r :: rs =>
    match Monitor.iteration s r with
    | .error _ => []
    | .ok s' => if s'.2.length = s.2.length then pushTimes s' rs else r.now :: pushTimes s' rs

theorem pushTimes_skip {s s' : Monitor × List RuntimeProileData} {r : Reading}
    (h : Monitor.iteration s r = .ok s') (hdata : s'.2 = s.2) (rs : List Reading) :
    pushTimes s (r :: rs) = pushTimes s' rs := by
  rw [pushTimes, h]
  exact if_pos (congrArg List.length hdata)

theorem pushTimes_push {s s' : Monitor × List RuntimeProileData} {r : Reading}
    {x : RuntimeProileData} (h : Monitor.iteration s r = .ok s') (hdata : s'.2 = s.2 ++ [x])
    (rs : List Reading) : pushTimes s (r :: rs) = r.now :: pushTimes s' rs := by
  rw [pushTimes, h]
  exact if_neg (by simp [hdata])

/-- **The intervals of the samples are the gaps between their clock readings.** -/
theorem intervals_run : ∀ {readings : List Reading} {s s' : Monitor × List RuntimeProileData},
    readings.foldlM Monitor.iteration s = .ok s' →
      s'.2.map RuntimeProileData.intervalTime = s.2.map RuntimeProileData.intervalTime
        ++ gaps 1000 s.1.tp1 (pushTimes s readings)
  | [], s, s', h => by
    obtain rfl : s = s' := by simpa [pure, Except.pure] using h
    rw [pushTimes, gaps_nil, List.append_nil]
  | r :: rs, s, s', h => by
    rw [List.foldlM_cons] at h
    cases hstep : Monitor.iteration s r with
    | error e => rw [hstep] at h; cases h
    | ok s₁ =>
      rw [hstep] at h
      have ih := intervals_run h
      rcases Monitor.iteration_cases hstep with ⟨-, hs₁⟩ | ⟨-, x, hx, hs₁⟩
      · -- nothing is pushed, and `tp1` stays where it was
        rw [pushTimes_skip hstep (by rw [hs₁]), ih, hs₁, Monitor.openFiles_tp1]
      · have hdata : s₁.2 = s.2 ++ [x] := by rw [hs₁]
        have htp1 : s₁.1.tp1 = r.now := by rw [hs₁, Monitor.pushed_tp1]
        have hinterval : x.intervalTime = (r.now - s.1.tp1).tdiv 1000 := by
          rw [Monitor.sample_intervalTime hx, Monitor.timeSpent_readFiles]
        rw [pushTimes_push hstep hdata, ih, hdata, htp1, gaps_cons, List.map_append, ← hinterval]
        simp

/-- The case of a run that starts without samples. -/
theorem monitoringPower_intervals {t₀ : Int} {readings : List Reading}
    {data : List RuntimeProileData}
    (h : (monitoringPower t₀ readings []).map Prod.snd = .ok data) :
    data.map RuntimeProileData.intervalTime
      = gaps 1000 t₀ (pushTimes (.initial t₀, []) readings) := by
  cases hrun : monitoringPower t₀ readings [] with
  | error e => rw [hrun] at h; cases h
  | ok s =>
    rw [hrun] at h
    obtain rfl : s.2 = data := Except.ok.inj h
    exact intervals_run hrun

/-! ## The energy of the samples -/

/-- Samples of one current and one voltage: the energy is that of the sum of the intervals. -/
theorem computeEnergyFromPower_const {i v : Int} {data : List RuntimeProileData}
    (h : ∀ x ∈ data, x.currentValue = i ∧ x.voltageValue = v) :
    (computeEnergyFromPower data : ℚ)
      = energyFactor * (i * v) * (data.map RuntimeProileData.intervalTime).sum := by
  have hwork : ∀ x ∈ data, work x = x.intervalTime * (i * v) := by
    intro x hx
    obtain ⟨hi, hv⟩ := h x hx
    rw [work, hi, hv, Int.mul_assoc]
  rw [computeEnergyFromPower_eq, List.map_congr_left hwork, List.sum_map_mul_right]
  push_cast
  ring

/-! ## Results -/

/-- What is lost of the elapsed time is lost of the energy. -/
theorem energy_error {i v elapsed total bound : Int} (hlow : 0 ≤ elapsed - 1000 * total)
    (hhigh : elapsed - 1000 * total ≤ bound) :
    |energyFactor * (i * v) * elapsed / 1000 - energyFactor * (i * v) * total|
      ≤ bound / 1000 * energyFactor * |(i : ℚ) * v| := by
  have hfactor : 0 < energyFactor := by unfold energyFactor; norm_num
  have hlow' : (0 : ℚ) ≤ elapsed - 1000 * total := by exact_mod_cast hlow
  have hhigh' : (elapsed : ℚ) - 1000 * total ≤ bound := by exact_mod_cast hhigh
  have hdiff : energyFactor * (i * v) * elapsed / 1000 - energyFactor * (i * v) * total
      = energyFactor * ((elapsed - 1000 * total) / 1000) * (i * v) := by ring
  rw [hdiff, abs_mul, abs_mul, abs_of_pos hfactor, abs_of_nonneg (by linarith)]
  calc energyFactor * ((elapsed - 1000 * total) / 1000) * |(i : ℚ) * v|
      ≤ energyFactor * (bound / 1000) * |(i : ℚ) * v| := by gcongr
    _ = bound / 1000 * energyFactor * |(i : ℚ) * v| := by ring

/--
**Sampling loses no time.** `t₀` is the first clock reading, `tₙ` that of the last sample. The
intervals add up to the time in between but for less than a microsecond per sample, and if all
samples show the same current and voltage the energy is that of this time, up to the same error.
-/
theorem monitoringPower_no_time_lost (t₀ : Int) (readings : List Reading)
    (data : List RuntimeProileData)
    (hrun : (monitoringPower t₀ readings []).map Prod.snd = .ok data)
    (hclock : (t₀ :: pushTimes (.initial t₀, []) readings).Pairwise (· ≤ ·)) :
    let tₙ := (pushTimes (.initial t₀, []) readings).getLastD t₀
    let total := (data.map RuntimeProileData.intervalTime).sum
    (pushTimes (.initial t₀, []) readings).length = data.length
      ∧ (∀ x ∈ data, 0 ≤ x.intervalTime)
      ∧ 0 ≤ (tₙ - t₀) - 1000 * total ∧ (tₙ - t₀) - 1000 * total ≤ 999 * data.length
      ∧ ∀ i v : Int, (∀ x ∈ data, x.currentValue = i ∧ x.voltageValue = v) →
        |energyFactor * (i * v) * (tₙ - t₀ : Int) / 1000 - computeEnergyFromPower data|
          ≤ 0.999 * data.length * energyFactor * |(i : ℚ) * v| := by
  intro tₙ total
  have hgaps := monitoringPower_intervals hrun
  have hlength : (pushTimes (.initial t₀, []) readings).length = data.length := by
    rw [← length_gaps 1000 t₀, ← hgaps, List.length_map]
  have hsum := sum_gaps (u := 1000) (by decide) hclock
  rw [← hgaps, hlength] at hsum
  refine ⟨hlength, ?_, hsum.1, hsum.2, ?_⟩
  · intro x hx
    refine gaps_nonneg (u := 1000) (by decide) hclock x.intervalTime ?_
    rw [← hgaps]
    exact List.mem_map_of_mem hx
  · intro i v hconst
    rw [computeEnergyFromPower_const hconst]
    refine (energy_error hsum.1 hsum.2).trans (le_of_eq ?_)
    push_cast
    ring

/-- Two iterations that push, with one in between that finds no files. -/
def skipOnce : List Reading :=
  [{ current := some ['5', '\n'], voltage := some ['7', '\n'], now := 2700 },
    { current := none, voltage := none, now := 3000 },
    { current := some ['5', '\n'], voltage := some ['7', '\n'], now := 5600 }]

theorem monitoringPower_no_time_lost_two :
    |energyFactor * ((5 : Int) * (7 : Int)) * (5600 - 100 : Int) / 1000
        - computeEnergyFromPower [⟨2, 5, 7, 0⟩, ⟨2, 5, 7, 0⟩]|
      ≤ 0.999 * (2 : Nat) * energyFactor * |((5 : Int) : ℚ) * (7 : Int)| :=
  (monitoringPower_no_time_lost 100 skipOnce [⟨2, 5, 7, 0⟩, ⟨2, 5, 7, 0⟩] (by decide +kernel)
    (by decide +kernel)).2.2.2.2 5 7 (by decide)

end UnifiedModelBenchmark
