import Mathlib.Data.List.Induction
import UnifiedModelBenchmark.Infra.Products
import UnifiedModelBenchmark.Benchmark.PaddleLite
import UnifiedModelBenchmark.Properties.Parse

/-!
# Element counts of accepted shapes

`shape_production` multiplies in 64 bits, and the Paddle-Lite driver multiplies the result by 4 in
`size_t`. The parser only checks that every factor is an `int`, so whether the count is exact is a
condition on the dimensions as a whole (`exactCount_iff`).
-/

namespace UnifiedModelBenchmark

open Infra Infra.Cxx Spec PaddleLite

/-! ## The product in 64 bits -/

/-- The product is taken modulo `2 ^ 64`, whatever the partial products are. -/
theorem toInt_shapeProduction (shape : List Int64) :
    (shapeProduction shape).toInt = (shape.map Int64.toInt).prod.bmod (2 ^ 64) := by
  induction shape using List.reverseRecOn with
  | nil => rfl
  | append_singleton shape i ih =>
    have hstep : shapeProduction (shape ++ [i]) = shapeProduction shape * i := List.foldl_concat ..
    rw [hstep, Int64.toInt_mul, ih, List.map_append, List.prod_append, Int.bmod_mul_bmod]
    simp

/-- **The product is exact** if it does not leave the range. -/
theorem shapeProduction_toInt {shape : List Int64}
    (h : PartialsInRange (2 ^ 63) (shape.map Int64.toInt)) :
    (shapeProduction shape).toInt = (shape.map Int64.toInt).prod := by
  rw [toInt_shapeProduction]
  exact Int.bmod_eq_of_le h.prod.1 h.prod.2

theorem toNat_toUInt64 (i : Int64) : (i.toUInt64.toNat : Int) = i.toInt % 2 ^ 64 := by
  have hcond := BitVec.toInt_eq_toNat_cond i.toBitVec
  have hlt := i.toUInt64.toNat_lt
  rw [Int64.toNat_toBitVec] at hcond
  show _ = i.toBitVec.toInt % 2 ^ 64
  split at hcond <;> omega

/-- **The bytes of the elements**, modulo `2 ^ 64`. -/
theorem toNat_byteCount (shape : List Int64) :
    ((byteCount shape).toNat : Int) = 4 * (shape.map Int64.toInt).prod % 2 ^ 64 := by
  have hnat : ((byteCount shape).toNat : Int)
      = ((shapeProduction shape).toUInt64.toNat : Int) * 4 % 2 ^ 64 := by
    unfold byteCount
    rw [UInt64.toNat_mul]
    rfl
  rw [hnat, toNat_toUInt64, toInt_shapeProduction, Int.bmod_def]
  split <;> omega

/-- No partial product overflows, the count is not negative, and the bytes for so many floats are
exact. -/
def ExactCount (shape : List Int64) : Prop :=
  PartialsInRange (2 ^ 63) (shape.map Int64.toInt) ∧ 0 ≤ (shapeProduction shape).toInt ∧
    ((byteCount shape).toNat : Int) = 4 * (shape.map Int64.toInt).prod

theorem exactCount_iff_prod (shape : List Int64) :
    ExactCount shape ↔ PartialsInRange (2 ^ 63) (shape.map Int64.toInt) ∧
      0 ≤ (shape.map Int64.toInt).prod ∧ (shape.map Int64.toInt).prod < 2 ^ 62 := by
  unfold ExactCount
  refine and_congr_right fun hpartials => ?_
  rw [shapeProduction_toInt hpartials, toNat_byteCount]
  omega

/-! ## The condition on the dimensions -/

/--
Without a zero: the magnitudes are small enough for four bytes each, and the number of negative
dimensions is even. With a zero: the dimensions in front of the first one fit.
-/
def Countable (dims : List Int) : Prop :=
  (0 ∉ dims → magnitude dims < 2 ^ 62 ∧ Even (negatives dims)) ∧
    (0 ∈ dims → FitsSigned (2 ^ 63) (dims.takeWhile (· ≠ 0)))

theorem countable_iff_of_not_mem {dims : List Int} (h : 0 ∉ dims) :
    (PartialsInRange (2 ^ 63) dims ∧ 0 ≤ dims.prod ∧ dims.prod < 2 ^ 62) ↔ Countable dims := by
  have hsign : 0 ≤ dims.prod ↔ Even (negatives dims) := by
    rw [← Int.not_lt, prod_neg_iff h, Nat.not_odd_iff_even]
  have hmag := natAbs_prod dims
  have hcountable : Countable dims ↔ magnitude dims < 2 ^ 62 ∧ Even (negatives dims) :=
    ⟨fun hc => hc.1 h, fun hc => ⟨fun _ => hc, fun hzero => absurd hzero h⟩⟩
  rw [hcountable, partialsInRange_iff h, hsign]
  constructor
  · rintro ⟨-, heven, hlt⟩
    have hnonneg := hsign.mpr heven
    exact ⟨by omega, heven⟩
  · rintro ⟨hlt, heven⟩
    have hnonneg := hsign.mpr heven
    exact ⟨Or.inl (by omega), heven, by omega⟩

theorem countable_iff_of_mem {dims : List Int} (h : 0 ∈ dims) :
    (PartialsInRange (2 ^ 63) dims ∧ 0 ≤ dims.prod ∧ dims.prod < 2 ^ 62) ↔ Countable dims := by
  have hprod : dims.prod = 0 := List.prod_eq_zero h
  have hcountable : Countable dims ↔ FitsSigned (2 ^ 63) (dims.takeWhile (· ≠ 0)) :=
    ⟨fun hc => hc.2 h, fun hc => ⟨fun hnot => absurd h hnot, fun _ => hc⟩⟩
  rw [hcountable, hprod]
  -- the dimensions in front of the first zero
  obtain ⟨lead, rest, rfl, hlead⟩ := List.eq_append_cons_of_mem h
  have htake : (lead ++ 0 :: rest).takeWhile (· ≠ 0) = lead := by
    rw [List.takeWhile_append_of_pos fun d hd => decide_eq_true (ne_of_mem_of_not_mem hd hlead)]
    simp
  rw [htake, partialsInRange_zero (by decide), partialsInRange_iff hlead]
  simp

/-- **When the count is exact.** -/
theorem exactCount_iff (shape : List Int64) :
    ExactCount shape ↔ Countable (shape.map Int64.toInt) := by
  rw [exactCount_iff_prod]
  by_cases h : 0 ∈ shape.map Int64.toInt
  · exact countable_iff_of_mem h
  · exact countable_iff_of_not_mem h

/-! ## Results -/

/--
**When the count of an accepted shape is exact**: without a zero, if the product of the magnitudes
is below 2^62 and the number of negative dimensions is even; with one, if the dimensions in front of
it fit into 64 bits.
-/
theorem parseShapeInfo_exactCount {w : Str} (h : (parseShapeInfo w []).retCode = 0) :
    ExactCount (parseShapeInfo w []).out ↔
      ∃ ds, dims? w = some ds ∧ Countable (ds.map Int32.toInt) := by
  cases hdims : dims? w with
  | none =>
    obtain ⟨out, e, hfails⟩ := parseShapeInfo_none hdims []
    have hcode : (-1 : Int64) ≠ 0 := by decide
    rw [hfails] at h
    exact absurd h hcode
  | some ds =>
    have hints : (ds.map Int32.toInt64).map Int64.toInt = ds.map Int32.toInt := by
      rw [List.map_map]
      exact List.map_congr_left fun n _ => Int32.toInt_toInt64 n
    rw [parseShapeInfo_some hdims, List.nil_append, exactCount_iff, hints]
    constructor
    · exact fun hc => ⟨ds, rfl, hc⟩
    · rintro ⟨ds', hds, hc⟩
      obtain rfl := Option.some.inj hds
      exact hc

theorem parseShapeInfo_exactCount_image :
    ExactCount (parseShapeInfo "1x3x224x224".toList []).out :=
  (parseShapeInfo_exactCount (by decide +kernel)).mpr ⟨[1, 3, 224, 224], by decide +kernel,
    fun _ => by decide +kernel, fun hzero => absurd hzero (by decide)⟩

/-- The batch size -1 of a dynamic shape: the count is negative. -/
theorem parseShapeInfo_exactCount_not :
    ¬ ((parseShapeInfo "-1x3x224x224".toList []).retCode = 0 →
      ExactCount (parseShapeInfo "-1x3x224x224".toList []).out) := by
  intro h
  have hcode : (parseShapeInfo "-1x3x224x224".toList []).retCode = 0 := by decide +kernel
  have hnegative : (shapeProduction (parseShapeInfo "-1x3x224x224".toList []).out).toInt < 0 := by
    decide +kernel
  exact absurd (h hcode).2.1 (Int.not_le.mpr hnegative)

end UnifiedModelBenchmark
