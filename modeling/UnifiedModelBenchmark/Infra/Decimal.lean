import Mathlib.Data.List.TakeWhile

/-!
# Decimal integers as text

`decimal` prints an integer. `strtol` reads one the way C does in base 10: white space is skipped,
one sign is taken, then the longest run of digits, and whatever follows is ignored.

`strtol_eq_some` gives the grammar of what `strtol` reads, and `strtol_decimal` is the round trip.
-/

namespace Infra

/-! ## Printing -/

/-- The decimal text of an integer. -/
def decimal (i : Int) : List Char :=
  if i < 0 then '-' :: Nat.toDigits 10 i.natAbs else Nat.toDigits 10 i.natAbs

/-! ## Reading -/

/-- `isspace` in the C locale. -/
def isSpace (c : Char) : Bool :=
  c == ' ' || c == '\t' || c == '\n' || c == '\x0b' || c == '\x0c' || c == '\r'

/-- An optional sign (`true` for minus) and what follows it. -/
def takeSign : List Char → Bool × List Char
  | [] => (false, [])
  | c :: s => if c = '-' then (true, s) else if c = '+' then (false, s) else (false, c :: s)

def signed (neg : Bool) (n : Nat) : Int := if neg then -(n : Int) else n

/-- The integer at the front of `s`; `none` when there is no digit to convert. -/
def strtol (s : List Char) : Option Int :=
  let t := takeSign (s.dropWhile isSpace)
  let ds := t.2.takeWhile Char.isDigit
  if ds.isEmpty then none else some (signed t.1 (Nat.ofDigitChars 10 ds 0))

/-! ## The grammar -/

/-- A sign that may stand in front of a number. -/
inductive SignText : List Char → Bool → Prop
  | none : SignText [] false
  | plus : SignText ['+'] false
  | minus : SignText ['-'] true

/-- `w` is an optionally signed decimal integer with the value `i`, and nothing else. -/
def IntText (w : List Char) (i : Int) : Prop :=
  ∃ sg neg ds, SignText sg neg ∧ ds ≠ [] ∧ (∀ c ∈ ds, c.isDigit = true) ∧ w = sg ++ ds ∧
    i = signed neg (Nat.ofDigitChars 10 ds 0)

/-- `s` starts, after white space, with an integer text of value `i` whose digits end there. -/
def IntPrefix (s : List Char) (i : Int) : Prop :=
  ∃ ws w rest, (∀ c ∈ ws, isSpace c = true) ∧ IntText w i ∧
    (∀ c ∈ rest.head?, c.isDigit = false) ∧ s = ws ++ w ++ rest

theorem isSpace_of_isDigit {c : Char} (h : c.isDigit = true) : isSpace c = false := by
  cases hs : isSpace c with
  | false => rfl
  | true =>
    simp only [isSpace, Bool.or_eq_true, beq_iff_eq] at hs
    rcases hs with (((((rfl | rfl) | rfl) | rfl) | rfl) | rfl) <;> simp at h

theorem ne_sign_of_isDigit {c : Char} (h : c.isDigit = true) : c ≠ '-' ∧ c ≠ '+' := by
  constructor <;> (rintro rfl; simp at h)

theorem takeSign_digits {ds : List Char} (hne : ds ≠ []) (h : ∀ c ∈ ds, c.isDigit = true)
    (rest : List Char) : takeSign (ds ++ rest) = (false, ds ++ rest) := by
  obtain ⟨c, cs, rfl⟩ := List.exists_cons_of_ne_nil hne
  obtain ⟨h1, h2⟩ := ne_sign_of_isDigit (h c List.mem_cons_self)
  simp [takeSign, h1, h2]

/-- White space ends where an integer text begins. -/
theorem isSpace_intText_head {w : List Char} {i : Int} (h : IntText w i) :
    ∃ c t, w = c :: t ∧ isSpace c = false := by
  obtain ⟨sg, neg, ds, hsg, hne, hds, rfl, -⟩ := h
  cases hsg with
  | none =>
    obtain ⟨c, cs, rfl⟩ := List.exists_cons_of_ne_nil hne
    exact ⟨c, cs, rfl, isSpace_of_isDigit (hds c List.mem_cons_self)⟩
  | plus => exact ⟨'+', ds, rfl, by decide⟩
  | minus => exact ⟨'-', ds, rfl, by decide⟩

theorem takeSign_intText {sg ds : List Char} {neg : Bool} (hsg : SignText sg neg) (hne : ds ≠ [])
    (hds : ∀ c ∈ ds, c.isDigit = true) (rest : List Char) :
    takeSign (sg ++ ds ++ rest) = (neg, ds ++ rest) := by
  cases hsg with
  | none => exact takeSign_digits hne hds rest
  | plus => rfl
  | minus => rfl

theorem takeWhile_digits {ds rest : List Char} (hds : ∀ c ∈ ds, c.isDigit = true)
    (hrest : ∀ c ∈ rest.head?, c.isDigit = false) :
    (ds ++ rest).takeWhile Char.isDigit = ds := by
  rw [List.takeWhile_append_of_pos hds]
  cases rest with
  | nil => simp
  | cons c t => simp [hrest c rfl]

/-- What follows the grammar is read as its value. -/
theorem strtol_intPrefix {s : List Char} {i : Int} (h : IntPrefix s i) : strtol s = some i := by
  obtain ⟨ws, w, rest, hws, hw, hrest, rfl⟩ := h
  obtain ⟨c, t, hct, hc⟩ := isSpace_intText_head hw
  obtain ⟨sg, neg, ds, hsg, hne, hds, rfl, rfl⟩ := hw
  have hdrop : (ws ++ (sg ++ ds) ++ rest).dropWhile isSpace = sg ++ ds ++ rest := by
    rw [List.append_assoc, List.dropWhile_append_of_pos hws, hct]
    simp [hc]
  unfold strtol
  simp only [hdrop, takeSign_intText hsg hne hds rest, takeWhile_digits hds hrest]
  simp [hne]

theorem takeSign_eq (s : List Char) :
    ∃ sg, SignText sg (takeSign s).1 ∧ s = sg ++ (takeSign s).2 := by
  cases s with
  | nil => exact ⟨[], .none, rfl⟩
  | cons c s =>
    by_cases hm : c = '-'
    · refine ⟨['-'], ?_, ?_⟩ <;> simp [takeSign, hm, SignText.minus]
    · by_cases hp : c = '+'
      · refine ⟨['+'], ?_, ?_⟩ <;> simp [takeSign, hp, SignText.plus]
      · refine ⟨[], ?_, ?_⟩ <;> simp [takeSign, hm, hp, SignText.none]

/-- The first symbol that `dropWhile` keeps does not satisfy the predicate. -/
theorem head?_dropWhile_not (p : Char → Bool) (s : List Char) :
    ∀ c ∈ (s.dropWhile p).head?, p c = false := by
  intro c hc
  have h := List.head?_dropWhile_not p s
  rw [Option.mem_def.mp hc] at h
  simpa using h

/-- **The grammar of `strtol`.** -/
theorem strtol_eq_some {s : List Char} {i : Int} : strtol s = some i ↔ IntPrefix s i := by
  refine ⟨fun h => ?_, strtol_intPrefix⟩
  unfold strtol at h
  simp only at h
  split at h
  · simp at h
  · next hne =>
    -- white space, a sign, the digits, and what follows them
    obtain ⟨sg, hsg, hs⟩ := takeSign_eq (s.dropWhile isSpace)
    refine ⟨s.takeWhile isSpace,
      sg ++ (takeSign (s.dropWhile isSpace)).2.takeWhile Char.isDigit,
      (takeSign (s.dropWhile isSpace)).2.dropWhile Char.isDigit, ?_, ?_, ?_, ?_⟩
    · exact fun c hc => List.mem_takeWhile_imp hc
    · refine ⟨sg, _, _, hsg, by simpa using hne, ?_, rfl, (Option.some.inj h).symm⟩
      exact fun c hc => List.mem_takeWhile_imp hc
    · exact head?_dropWhile_not _ _
    · rw [List.append_assoc, List.append_assoc, List.takeWhile_append_dropWhile, ← hs,
        List.takeWhile_append_dropWhile]

/-! ## The round trip -/

/-- An integer text with nothing around it is an integer prefix. -/
theorem IntText.intPrefix {w : List Char} {i : Int} (h : IntText w i) : IntPrefix w i :=
  ⟨[], w, [], by simp, h, by simp, by simp⟩

theorem intText_decimal (i : Int) : IntText (decimal i) i := by
  have hdigits : ∀ c ∈ Nat.toDigits 10 i.natAbs, c.isDigit = true := fun c hc =>
    Nat.isDigit_of_mem_toDigits (by decide) (by decide) hc
  unfold decimal
  split
  · next hneg =>
    refine ⟨['-'], true, _, .minus, Nat.toDigits_ne_nil, hdigits, rfl, ?_⟩
    rw [Nat.ofDigitChars_ten_toDigits]
    show i = -(i.natAbs : Int)
    omega
  · next hpos =>
    refine ⟨[], false, _, .none, Nat.toDigits_ne_nil, hdigits, rfl, ?_⟩
    rw [Nat.ofDigitChars_ten_toDigits]
    show i = (i.natAbs : Int)
    omega

/-- **A printed integer is read back.** -/
theorem strtol_decimal (i : Int) : strtol (decimal i) = some i :=
  strtol_intPrefix (intText_decimal i).intPrefix

/-- Printing is injective. -/
theorem decimal_inj {i j : Int} (h : decimal i = decimal j) : i = j := by
  have hi := strtol_decimal i
  rw [h, strtol_decimal j] at hi
  exact (Option.some.inj hi).symm

/-- An integer text consists of digits and possibly one sign. -/
theorem mem_intText {w : List Char} {i : Int} (h : IntText w i) {c : Char} (hc : c ∈ w) :
    c.isDigit = true ∨ c = '+' ∨ c = '-' := by
  obtain ⟨sg, neg, ds, hsg, -, hds, rfl, -⟩ := h
  rcases List.mem_append.mp hc with hc | hc
  · cases hsg with
    | none => simp at hc
    | plus => exact Or.inr (Or.inl (by simpa using hc))
    | minus => exact Or.inr (Or.inr (by simpa using hc))
  · exact Or.inl (hds c hc)

end Infra
