import Mathlib.Algebra.BigOperators.Group.List.Basic
import Mathlib.Algebra.Ring.Int.Defs
import UnifiedModelBenchmark.Benchmark.Onnxruntime

/-!
# The buffers of the ONNX Runtime driver

The driver multiplies the dimensions of an input in `size_t`, and the number of elements by 4. Both
products are taken modulo `2 ^ 64`, so partial products do not matter: the number of bytes is right
exactly if the number of elements is not negative and below `2 ^ 62` (`bufferBytes_iff`).
-/

namespace UnifiedModelBenchmark.Onnxruntime

open Infra Infra.Cxx

/-- The loop multiplies modulo `2 ^ 64`. -/
theorem foldl_mul_ofInt : ∀ (dims : List Int) (size : UInt64),
    dims.foldl (fun size dim => size * UInt64.ofInt dim) size = size * UInt64.ofInt dims.prod
  | [], size => by simp
  | dim :: dims, size => by
    rw [List.foldl_cons, foldl_mul_ofInt dims, List.prod_cons, UInt64.ofInt_mul, UInt64.mul_assoc]

theorem elementCount_eq (dims : List Int) : elementCount dims = UInt64.ofInt dims.prod := by
  rw [elementCount, foldl_mul_ofInt, UInt64.one_mul]

theorem toNat_ofInt (i : Int) : ((UInt64.ofInt i).toNat : Int) = i % 2 ^ 64 := by
  have hnonneg : 0 ≤ i % 2 ^ 64 := Int.emod_nonneg i (by decide)
  have hlt : i % 2 ^ 64 < 2 ^ 64 := Int.emod_lt_of_pos i (by decide)
  unfold UInt64.ofInt
  rw [UInt64.toNat_ofNat']
  omega

/-- The bytes of the elements, modulo `2 ^ 64`. -/
theorem toNat_bufferBytes (dims : List Int) :
    ((bufferBytes dims).toNat : Int) = 4 * dims.prod % 2 ^ 64 := by
  have hbytes : bufferBytes dims = UInt64.ofInt (4 * dims.prod) := by
    rw [bufferBytes, elementCount_eq, UInt64.ofInt_mul]
    rfl
  rw [hbytes, toNat_ofInt]

/-- The dimensions that are taken to be 1 do not count. -/
theorem prod_fixedDim : ∀ dims : List Int,
    (dims.map fixedDim).prod = (dims.filter (· ≠ -1)).prod
  | [] => rfl
  | dim :: dims => by
    rw [List.map_cons, List.prod_cons, prod_fixedDim dims, fixedDim]
    by_cases hopen : dim = -1
    · rw [if_pos hopen, one_mul, List.filter_cons_of_neg (by simp [hopen])]
    · rw [if_neg hopen, List.filter_cons_of_pos (by simp [hopen]), List.prod_cons]

/--
**When the buffer of an input has the size of its tensor**: if the product of the dimensions that
the model does not leave open is not negative and below `2 ^ 62`. The buffer is large enough for the
number of elements that ONNX Runtime is told exactly if this number is below `2 ^ 62`.
-/
theorem bufferBytes_iff (dims : List Int) :
    (((bufferBytes (dims.map fixedDim)).toNat : Int) = 4 * (dims.filter (· ≠ -1)).prod ↔
      0 ≤ (dims.filter (· ≠ -1)).prod ∧ (dims.filter (· ≠ -1)).prod < 2 ^ 62) ∧
    (4 * (elementCount (dims.map fixedDim)).toNat ≤ (bufferBytes (dims.map fixedDim)).toNat ↔
      (elementCount (dims.map fixedDim)).toNat < 2 ^ 62) := by
  have hbytes := toNat_bufferBytes (dims.map fixedDim)
  have hcount := toNat_ofInt (dims.map fixedDim).prod
  rw [← elementCount_eq, prod_fixedDim] at hcount
  rw [prod_fixedDim] at hbytes
  constructor
  · omega
  · omega

/-- So many elements that their bytes are 0. -/
example : bufferBytes ([2 ^ 31, -1, 2 ^ 31].map fixedDim) = 0 := by decide

end UnifiedModelBenchmark.Onnxruntime
