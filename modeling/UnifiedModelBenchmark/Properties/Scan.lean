import UnifiedModelBenchmark.Spec.Scanner

/-!
# The regular expression is the linear scanner

`pattern.allMatches` backtracks; `linearScan` does not. They find the same records.

1. Behind a `[`, each lazy group stops at the first delimiter (`firstMatch_lazy_delim`), so a match
   there is `readFields` of what is left of the line (`firstMatch_fields`).
2. If there is no match at the first `[` of a line, there is none at a later one: a later one
   sees fewer delimiters (`isSome_readFields_cons`). So the search over a line is `scanOne`
   (`search_segment`).
3. The iteration is `scanSegment` on each line (`allMatches_segment`, `allMatches_fields`).

The loops over the records and over the dimensions follow in `Properties.Parse`.
-/

namespace UnifiedModelBenchmark

open Infra Infra.Cxx Spec

/-! ## One record -/

/-- The part of the expression behind the `[`. -/
def fieldsPattern : Regex Char :=
  .concat [field, .sym (· == ','), field, .sym (· == ','), field, .sym (· == ']')]

theorem pattern_eq : pattern = .seq (.sym (· == '[')) fieldsPattern := rfl

theorem pattern_productive : pattern.Productive := Regex.productive_sym_seq _ _

/-- What of a match the program goes on with: the groups and the position. -/
def view (m : Match Char) : List Str × Str := (m.groups, m.rest)

theorem firstMatch_fieldsPattern (s : Str) :
    (fieldsPattern.firstMatch s).map view
      = (cutWhile dot ',' s).bind fun a => (cutWhile dot ',' a.2).bind fun b =>
          (cutWhile dot ']' b.2).map fun c => ([a.1, b.1, c.1], c.2) := by
  have h3 := Regex.firstMatch_lazy_delim (p := dot) (d := ']') (k := .eps) (by decide)
    (Regex.extendsBy_eps dot)
  have h2 := Regex.firstMatch_lazy_delim (p := dot) (d := ',')
    (k := .seq field (.seq (.sym (· == ']')) .eps)) (by decide) (Regex.extendsBy_lazy dot _)
  have h1 := Regex.firstMatch_lazy_delim (p := dot) (d := ',')
    (k := .seq field (.seq (.sym (· == ',')) (.seq field (.seq (.sym (· == ']')) .eps))))
    (by decide) (Regex.extendsBy_lazy dot _)
  -- the first match of a group is followed by the first match of the rest
  unfold field at h1 h2
  unfold fieldsPattern Regex.concat field
  simp only [List.foldr_cons, List.foldr_nil]
  rw [h1, Option.map_bind]
  congr 1
  funext a
  simp only [Function.comp_apply, Option.map_map]
  rw [h2, Option.map_bind]
  congr 1
  funext b
  simp only [Function.comp_apply, Option.map_map]
  rw [h3]
  cases cutWhile dot ']' b.2 <;> simp [view, Match.empty]

/-- Behind a `[`, a match is what `readFields` finds in the rest of the line. -/
theorem firstMatch_fields {seg tail : Str} (hseg : ∀ c ∈ seg, dot c = true)
    (htail : ∀ c ∈ tail.head?, dot c = false) :
    (fieldsPattern.firstMatch (seg ++ tail)).map view
      = (readFields seg).map fun x => (x.1.fields, x.2 ++ tail) := by
  have hbound : ∀ d : Char, dot d = true → ∀ c ∈ tail.head?, dot c = false ∧ c ≠ d := by
    intro d hd c hc
    refine ⟨htail c hc, ?_⟩
    rintro rfl
    rw [htail c hc] at hd
    exact Bool.noConfusion hd
  rw [firstMatch_fieldsPattern, readFields, cutWhile_append hseg (hbound ',' (by decide))]
  cases h1 : cut ',' seg with
  | none => rfl
  | some a =>
    obtain ⟨hs1, -⟩ := cut_eq_some h1
    have ha : ∀ c ∈ a.2, dot c = true := fun c hc => hseg c (by rw [hs1]; simp [hc])
    simp only [Option.map_some, Option.bind_some]
    rw [cutWhile_append ha (hbound ',' (by decide))]
    cases h2 : cut ',' a.2 with
    | none => rfl
    | some b =>
      obtain ⟨hs2, -⟩ := cut_eq_some h2
      have hb : ∀ c ∈ b.2, dot c = true := fun c hc => ha c (by rw [hs2]; simp [hc])
      simp only [Option.map_some, Option.bind_some]
      rw [cutWhile_append hb (hbound ']' (by decide))]
      cases h3 : cut ']' b.2 <;> rfl

/-! ## The search over a line -/

/-- **A longer text has no fewer delimiters**: if the fields can be read, they can be read with
one more symbol in front. -/
theorem isSome_readFields_cons (c : Char) {s : Str} (h : (readFields s).isSome) :
    (readFields (c :: s)).isSome := by
  obtain ⟨x, hx⟩ := Option.isSome_iff_exists.mp h
  obtain ⟨⟨a, s₁⟩, ha, hx⟩ := Option.bind_eq_some_iff.mp hx
  obtain ⟨⟨b, s₂⟩, hb, hx⟩ := Option.bind_eq_some_iff.mp hx
  obtain ⟨y, hy, -⟩ := Option.map_eq_some_iff.mp hx
  by_cases hc : c = ','
  · -- the new symbol is the first comma, so the first comma of `s` becomes the second one
    have hmem : ']' ∈ s₁ := by
      have hs₁ : s₁ = b ++ ',' :: s₂ := (cut_eq_some hb).1
      have hs₂ : s₂ = y.1 ++ ']' :: y.2 := (cut_eq_some hy).1
      simp [hs₁, hs₂]
    obtain ⟨z, hz⟩ : ∃ z, cut ']' s₁ = some z :=
      Option.ne_none_iff_exists'.mp (fun hnone => cut_eq_none.mp hnone hmem)
    simp [readFields, cut, hc, ha, hz]
  · simp [readFields, cut, hc, ha, hb, hy]

theorem isSome_readFields_append (pre : Str) {s : Str} (h : (readFields s).isSome) :
    (readFields (pre ++ s)).isSome := by
  induction pre with
  | nil => exact h
  | cons c pre ih => exact isSome_readFields_cons c ih

/-- If the fields cannot be read behind a `[`, the rest of the line has no record. -/
theorem scanOne_eq_none {s : Str} (h : readFields s = none) : scanOne s = none := by
  cases hs : scanOne s with
  | none => rfl
  | some x =>
    obtain ⟨pre, t, rfl, -, ht⟩ := scanOne_eq_some hs
    have hsome : (readFields (pre ++ '[' :: t)).isSome :=
      isSome_readFields_append pre (isSome_readFields_cons '[' (by rw [ht]; rfl))
    rw [h] at hsome
    exact Bool.noConfusion hsome

theorem firstMatch_pattern_cons {c : Char} {s : Str} (hc : c ≠ '[') :
    pattern.firstMatch (c :: s) = none := by
  rw [pattern_eq, Regex.firstMatch_sym_seq_cons, if_neg (by simp [hc])]

theorem firstMatch_pattern_bracket (s : Str) :
    (pattern.firstMatch ('[' :: s)).map view = (fieldsPattern.firstMatch s).map view := by
  rw [pattern_eq, Regex.firstMatch_sym_seq_cons, if_pos (by decide), Option.map_map]
  rfl

/-- A line terminator, or the end of the text, has no match. -/
theorem search_tail {tail : Str} (htail : ∀ c ∈ tail.head?, dot c = false) :
    pattern.search tail = pattern.search tail.tail := by
  cases tail with
  | nil => rfl
  | cons c t =>
    have hc : c ≠ '[' := by
      rintro rfl
      exact Bool.noConfusion (htail '[' rfl)
    rw [Regex.search, firstMatch_pattern_cons hc, Option.none_or, List.tail_cons]

/--
**The search over a line is `scanOne`**, and goes on behind the line if there is no record.

The case that matters is a `[` behind which the fields cannot be read: the regular expression
then looks for a later `[` in the line, and `scanOne_eq_none` says that there is nothing to find.
-/
theorem search_segment {tail : Str} (htail : ∀ c ∈ tail.head?, dot c = false) : ∀ {seg : Str},
    (∀ c ∈ seg, dot c = true) →
    (pattern.search (seg ++ tail)).map view
      = ((scanOne seg).map fun x => (x.1.fields, x.2 ++ tail)).or
          ((pattern.search tail.tail).map view)
  | [], _ => by rw [List.nil_append, search_tail htail]; rfl
  | c :: seg, hseg => by
    have hrest : ∀ x ∈ seg, dot x = true := fun x hx => hseg x (List.mem_cons_of_mem _ hx)
    have ih := search_segment htail hrest
    rw [List.cons_append, Regex.search, Option.map_or, ih]
    by_cases hc : c = '['
    · subst hc
      have hscan : scanOne ('[' :: seg) = readFields seg := by simp [scanOne, cut]
      rw [firstMatch_pattern_bracket, firstMatch_fields hrest htail, hscan]
      cases hf : readFields seg with
      | none => rw [scanOne_eq_none hf]; rfl
      | some x => rfl
    · have hscan : scanOne (c :: seg) = scanOne seg := by
        simp only [scanOne, cut, if_neg hc]
        cases cut '[' seg <;> rfl
      rw [firstMatch_pattern_cons hc, hscan]
      rfl

/-! ## The iteration -/

/-- Two texts with the same next match have the same matches. -/
theorem allMatches_congr {s t : Str}
    (h : (pattern.search s).map view = (pattern.search t).map view) :
    (pattern.allMatches s).map Match.groups = (pattern.allMatches t).map Match.groups := by
  rw [Regex.allMatches_eq pattern_productive s, Regex.allMatches_eq pattern_productive t]
  cases hs : pattern.search s with
  | none =>
    rw [hs] at h
    rw [Option.map_eq_none_iff.mp h.symm]
  | some m =>
    rw [hs] at h
    obtain ⟨n, hn, hview⟩ := Option.map_eq_some_iff.mp h.symm
    obtain ⟨hg, hr⟩ := Prod.mk.inj hview
    rw [hn]
    simp only [List.map_cons, hg, hr]

/-- The matches that start in a line are its records, and the others those behind the line. -/
theorem allMatches_segment {tail : Str} (htail : ∀ c ∈ tail.head?, dot c = false)
    (seg : Str) (hseg : ∀ c ∈ seg, dot c = true) :
    (pattern.allMatches (seg ++ tail)).map Match.groups
      = (scanSegment seg).map RawRecord.fields
        ++ (pattern.allMatches tail.tail).map Match.groups := by
  have hsearch := search_segment htail hseg
  cases hscan : scanOne seg with
  | none =>
    rw [hscan] at hsearch
    rw [scanSegment_none hscan]
    exact allMatches_congr hsearch
  | some x =>
    obtain ⟨r, rest⟩ := x
    rw [hscan] at hsearch
    obtain ⟨m, hm, hview⟩ := Option.map_eq_some_iff.mp hsearch
    obtain ⟨hg, hr⟩ := Prod.mk.inj hview
    obtain ⟨pre, t, hs, -, ht⟩ := scanOne_eq_some hscan
    -- behind the record the search goes on in the same line
    have hrest : ∀ c ∈ rest, dot c = true := by
      intro c hc
      refine hseg c ?_
      rw [hs, (readFields_eq_some ht).1]
      simp [hc]
    rw [Regex.allMatches_eq pattern_productive, hm, scanSegment_some hscan]
    simp only [List.map_cons, List.cons_append, hg, hr]
    rw [allMatches_segment htail rest hrest]
termination_by seg.length
decreasing_by exact scanOne_length hscan

/-! ## The whole text -/

theorem dot_eq (c : Char) : dot c = !isLineTerminator c := by
  simp [dot, isLineTerminator, bne]

/-- A text is a line and what starts with its terminator. -/
theorem exists_line (s : Str) : ∃ seg tail, s = seg ++ tail ∧ (∀ c ∈ seg, dot c = true) ∧
    ∀ c ∈ tail.head?, dot c = false :=
  ⟨s.takeWhile dot, s.dropWhile dot, List.takeWhile_append_dropWhile.symm,
    fun _ hc => List.mem_takeWhile_imp hc, head?_dropWhile_not dot s⟩

/-- **The regular expression is the linear scanner.** -/
theorem allMatches_fields (s : Str) :
    (pattern.allMatches s).map Match.groups = (linearScan s).map RawRecord.fields := by
  obtain ⟨seg, tail, hs, hseg, htail⟩ := exists_line s
  have hnot : ∀ c ∈ seg, isLineTerminator c = false := fun c hc => by
    simpa [dot_eq] using hseg c hc
  rw [hs, allMatches_segment htail seg hseg]
  cases tail with
  | nil =>
    rw [List.append_nil, linearScan, List.splitOnP_eq_singleton hnot]
    simp [Regex.allMatches, Regex.iterate]
  | cons c t =>
    have hc : isLineTerminator c = true := by simpa [dot_eq] using htail c rfl
    rw [List.tail_cons, allMatches_fields t, linearScan, linearScan,
      List.splitOnP_append_cons_of_forall_mem hnot c hc, List.flatMap_cons, List.map_append]
termination_by s.length
decreasing_by
  rw [hs]
  simp only [List.length_append, List.length_cons]
  omega

end UnifiedModelBenchmark
