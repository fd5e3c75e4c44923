import Mathlib.Algebra.BigOperators.Ring.List
import Mathlib.Tactic.Ring
import Mathlib.Tactic.Linarith
import Mathlib.Tactic.NormNum
import UnifiedModelBenchmark.Mutils.Profiler

/-!
# What `compute_energy_from_power` computes

A sample holds microseconds, µA and µV. The two values are scaled to mA and mV, and their product
is a power in µW. The interval is scaled to hours, so the sum is in µWh, and not in the mWh that
are printed with it.
-/

namespace UnifiedModelBenchmark

open Infra

/-- The factor of `compute_energy_from_power`, per µA·µV·µs. -/
def energyFactor : ℚ := 1 / 10 ^ 12 / 3600

/-- The electrical work of a sample, in µA·µV·µs. -/
def work (d : RuntimeProileData) : Int := d.intervalTime * d.currentValue * d.voltageValue

theorem addEnergy_eq (energy : ℚ) (d : RuntimeProileData) :
    addEnergy energy d = energy + energyFactor * work d := by
  have hcode : addEnergy energy d = energy + (1e-6 : ℚ) * d.intervalTime / ((3600 : Int) : ℚ)
      * ((1e-3 : ℚ) * d.currentValue * ((1e-3 : ℚ) * d.voltageValue)) := rfl
  rw [hcode]
  unfold energyFactor work
  push_cast
  ring

theorem foldl_addEnergy : ∀ (data : List RuntimeProileData) (energy : ℚ),
    data.foldl addEnergy energy = energy + energyFactor * (data.map work).sum
  | [], energy => by simp
  | d :: data, energy => by
    rw [List.foldl_cons, foldl_addEnergy data, addEnergy_eq, List.map_cons, List.sum_cons]
    push_cast
    ring

/-- **The energy is the work of the samples**, in a unit of its own. -/
theorem computeEnergyFromPower_eq (data : List RuntimeProileData) :
    (computeEnergyFromPower data : ℚ) = energyFactor * (data.map work).sum := by
  have hzero : (computeEnergyFromPower data : ℚ) = data.foldl addEnergy ((0 : Int) : ℚ) := rfl
  rw [hzero, foldl_addEnergy]
  simp

/-! ## The unit -/

/-- The energy of a sample in mWh: a µA·µV·µs is `10⁻¹⁸` J, and a mWh is 3.6 J. -/
def milliwattHours (d : RuntimeProileData) : ℚ :=
  (d.intervalTime * d.currentValue * d.voltageValue : ℚ) * (1 / 10 ^ 18) / 3.6

theorem sum_milliwattHours (data : List RuntimeProileData) :
    (data.map milliwattHours).sum = energyFactor / 1000 * (data.map work).sum := by
  induction data with
  | nil => simp
  | cons d data ih =>
    rw [List.map_cons, List.sum_cons, ih, List.map_cons, List.sum_cons]
    unfold milliwattHours energyFactor work
    push_cast
    ring

/--
**The energy is a thousand times that in mWh**, so it is the energy in mWh exactly if the work of
the samples adds up to nothing.
-/
theorem computeEnergyFromPower_milliwattHours (data : List RuntimeProileData) :
    (computeEnergyFromPower data : ℚ) = 1000 * (data.map milliwattHours).sum ∧
      ((computeEnergyFromPower data : ℚ) = (data.map milliwattHours).sum ↔
        (data.map fun d => d.intervalTime * d.currentValue * d.voltageValue).sum = 0) := by
  have hfactor : energyFactor ≠ 0 := by unfold energyFactor; norm_num
  have hthousand : (computeEnergyFromPower data : ℚ) = 1000 * (data.map milliwattHours).sum := by
    rw [computeEnergyFromPower_eq, sum_milliwattHours]
    ring
  refine ⟨hthousand, ?_⟩
  show _ ↔ (data.map work).sum = 0
  have hzero : (data.map milliwattHours).sum = 0 ↔ (data.map work).sum = 0 := by
    rw [sum_milliwattHours, mul_eq_zero, Int.cast_eq_zero]
    exact or_iff_right (div_ne_zero hfactor (by norm_num))
  rw [hthousand, ← hzero]
  constructor
  · intro h
    linarith
  · intro h
    rw [h, mul_zero]

/-- An hour of 1 A at 1 V is 1000 mWh, and is reported as a million. -/
theorem computeEnergyFromPower_milliwattHours_not :
    (computeEnergyFromPower [⟨3600000000, 1000000, 1000000, 0⟩] : ℚ)
      ≠ ([(⟨3600000000, 1000000, 1000000, 0⟩ : RuntimeProileData)].map milliwattHours).sum := by
  decide +kernel

end UnifiedModelBenchmark
