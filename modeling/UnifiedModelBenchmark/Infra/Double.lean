import Mathlib.Data.Rat.Sqrt
import Mathlib.Algebra.Order.Field.Rat
import UnifiedModelBenchmark.Infra.Cxx

/-!
# Arithmetic on `double`

The operations of `double` that numerical code uses, as an interface: a program is written over
any type that has them. What is proved about all such types holds for IEEE arithmetic in
particular. `Rat` with its own operations is exact arithmetic.
-/

namespace Infra

open Cxx

/-- The operations of `double`. Conversions from integers are `IntCast`, literals are
`OfScientific`. -/
class Double (α : Type) extends Add α, Sub α, Mul α, Div α, LT α, IntCast α, OfScientific α where
  decLt : DecidableLT α
  /-- `DBL_MIN`, the smallest positive normal number -/
  dblMin : α
  dblMax : α
  pow : α → Nat → α
  sqrt : α → α
  /-- what `operator<<` writes -/
  text : α → Str
  /-- A number is written without a comma. -/
  not_mem_text : ∀ x, ',' ∉ text x

instance Double.instDecidableLT {α : Type} [Double α] : DecidableLT α := Double.decLt

/-! ## Exact arithmetic -/

/-- An integer as it is written, any other number as a fraction. -/
def ratText (q : ℚ) : Str :=
  if q.den = 1 then decimal q.num else decimal q.num ++ '/' :: decimal q.den

theorem not_mem_decimal (i : Int) : ',' ∉ decimal i := by
  intro h
  rcases mem_intText (intText_decimal i) h with h | h | h <;> simp at h

theorem not_mem_ratText (q : ℚ) : ',' ∉ ratText q := by
  unfold ratText
  split
  · exact not_mem_decimal q.num
  · simp [not_mem_decimal]

/-- Exact arithmetic. The root is exact on squares. -/
instance : Double ℚ where
  decLt := inferInstance
  dblMin := 1 / 2 ^ 1022
  dblMax := (2 ^ 53 - 1) * 2 ^ 971
  pow := fun x n => x ^ n
  sqrt := Rat.sqrt
  text := ratText
  not_mem_text := not_mem_ratText

end Infra
