import UnifiedModelBenchmark.Infra.Cut

/-!
# Backtracking regular expressions

A regular expression with capture groups and lazy repetition, read the way a backtracking
engine reads it: `runs` lists every way to match at the front of a string, the preferred way
first, so that "the match" is the head of that list and backtracking is moving along it.

* `firstMatch`: the preferred match at the front of the string.
* `search`: the leftmost position that has a match.
* `allMatches`: successive non-overlapping matches, each search starting where the last ended.

## Lazy repetition up to a delimiter

`(p*?)d k` first tries the shortest span of `p` symbols that is followed by `d`. If what comes
after (`k`) cannot match there, a backtracking engine goes on to a later `d`.
`firstMatch_lazy_delim` says when it never profits from that: `k` has to be such that a match
of `k` survives the addition of one more `p` symbol in front (`ExtendsBy`).
-/

namespace Infra

universe u

variable {α : Type u}

/-- Regular expressions over the symbols `α`. -/
inductive Regex (α : Type u) where
  | eps
  | sym (p : α → Bool)
  | seq (r t : Regex α)
  | lazyStar (r : Regex α)
  | group (r : Regex α)

/-- One way to match: the matched text, the text of each group in the order of their opening
brackets, and what is left of the string. -/
structure Match (α : Type u) where
  text : List α
  groups : List (List α)
  rest : List α
deriving DecidableEq, Repr

namespace Match

/-- The match that consumes nothing. -/
def empty (s : List α) : Match α := { text := [], groups := [], rest := s }

/-- A match followed by a match of what the first one left. -/
def append (m n : Match α) : Match α :=
  { text := m.text ++ n.text, groups := m.groups ++ n.groups, rest := n.rest }

@[simp] theorem append_text (m n : Match α) : (m.append n).text = m.text ++ n.text := rfl
@[simp] theorem append_groups (m n : Match α) : (m.append n).groups = m.groups ++ n.groups := rfl
@[simp] theorem append_rest (m n : Match α) : (m.append n).rest = n.rest := rfl

end Match

namespace Regex

/-! ## Matching at the front of a string -/

/--
Lazy repetition of `body`: stop at once, or match `body` once and repeat.

A round that consumes nothing is not counted, so `n` rounds suffice for a string of length `n`.
-/
def lazyRuns (body : List α → List (Match α)) : Nat → List α → List (Match α)
  | 0, s => [.empty s]
  | n + 1, s => .empty s :: (body s).flatMap fun m =>
      if m.text.isEmpty then [] else (lazyRuns body n m.rest).map m.append

/-- Every way to match at the front of `s`, the preferred way first. -/
def runs : Regex α → List α → List (Match α)
  | eps, s => [.empty s]
  | sym _, [] => []
  | sym p, c :: s => if p c then [{ text := [c], groups := [], rest := s }] else []
  | seq r t, s => (runs r s).flatMap fun m => (runs t m.rest).map m.append
  | lazyStar r, s => lazyRuns (runs r) s.length s
  | group r, s => (runs r s).map fun m => { m with groups := m.text :: m.groups }

/-- The match a backtracking engine reports at the front of `s`. -/
def firstMatch (r : Regex α) (s : List α) : Option (Match α) := (r.runs s).head?

/-- The leftmost match in `s`. -/
def search (r : Regex α) : List α → Option (Match α)
  | [] => r.firstMatch []
  | c :: s => (r.firstMatch (c :: s)).or (search r s)

/-- At most `n` successive matches in `s`. -/
def iterate (r : Regex α) : Nat → List α → List (Match α)
  | 0, _ => []
  | n + 1, s =>
    match r.search s with
    | none => []
    | some m => m :: iterate r n m.rest

/--
The successive non-overlapping matches in `s`.

This is for expressions that never match the empty string (`Productive`); what an iterator does
after an empty match is left out.
-/
def allMatches (r : Regex α) (s : List α) : List (Match α) := r.iterate s.length s

/-- A concatenation, as a sequence that ends in the empty expression. -/
def concat : List (Regex α) → Regex α := List.foldr seq eps

/-! ## A match splits the string -/

theorem text_append_rest_lazyRuns {body : List α → List (Match α)}
    (hb : ∀ s, ∀ m ∈ body s, m.text ++ m.rest = s) :
    ∀ (n : Nat) (s : List α), ∀ m ∈ lazyRuns body n s, m.text ++ m.rest = s
  | 0, s, m, hm => by
    simp only [lazyRuns, List.mem_singleton] at hm
    subst hm; rfl
  | n + 1, s, m, hm => by
    simp only [lazyRuns, List.mem_cons, List.mem_flatMap] at hm
    rcases hm with rfl | ⟨m₁, hm₁, hm⟩
    · rfl
    · split at hm
      · simp at hm
      · obtain ⟨m₂, hm₂, rfl⟩ := List.mem_map.mp hm
        have h₁ := hb s m₁ hm₁
        have h₂ := text_append_rest_lazyRuns hb n m₁.rest m₂ hm₂
        simp [List.append_assoc, h₂, h₁]

/-- **A match is a prefix of the string**, and `rest` is what follows it. -/
theorem text_append_rest (r : Regex α) : ∀ (s : List α), ∀ m ∈ r.runs s, m.text ++ m.rest = s := by
  induction r with
  | eps => intro s m hm; simp [runs] at hm; subst hm; rfl
  | sym p =>
    intro s m hm
    cases s with
    | nil => simp [runs] at hm
    | cons c s =>
      rw [runs] at hm
      split at hm
      · simp at hm; subst hm; rfl
      · simp at hm
  | seq r t ihr iht =>
    intro s m hm
    simp only [runs, List.mem_flatMap, List.mem_map] at hm
    obtain ⟨m₁, hm₁, m₂, hm₂, rfl⟩ := hm
    simp [List.append_assoc, iht m₁.rest m₂ hm₂, ihr s m₁ hm₁]
  | lazyStar r ih =>
    intro s m hm
    exact text_append_rest_lazyRuns ih s.length s m hm
  | group r ih =>
    intro s m hm
    obtain ⟨m₁, hm₁, rfl⟩ := List.mem_map.mp hm
    exact ih s m₁ hm₁

/-! ## The first match of each construct -/

@[simp] theorem firstMatch_eps (s : List α) : (eps : Regex α).firstMatch s = some (.empty s) := rfl

theorem firstMatch_seq (r t : Regex α) (s : List α) :
    (seq r t).firstMatch s
      = (r.runs s).findSome? fun m => (t.firstMatch m.rest).map m.append := by
  unfold firstMatch
  rw [runs, List.head?_flatMap]
  simp only [List.head?_map]

theorem firstMatch_sym_seq_nil (p : α → Bool) (k : Regex α) :
    (seq (sym p) k).firstMatch [] = none := rfl

theorem firstMatch_sym_seq_cons (p : α → Bool) (k : Regex α) (c : α) (s : List α) :
    (seq (sym p) k).firstMatch (c :: s)
      = if p c then (k.firstMatch s).map fun m => { m with text := c :: m.text } else none := by
  rw [firstMatch_seq, runs]
  split
  · cases h : k.firstMatch s <;> simp [h, Match.append]
  · rfl

/-- The ways to split `s` after a run of `p` symbols, the shortest run first. -/
def spans (p : α → Bool) : List α → List (List α × List α)
  | [] => [([], [])]
  | c :: s => ([], c :: s) :: if p c then (spans p s).map fun x => (c :: x.1, x.2) else []

theorem lazyRuns_sym (p : α → Bool) : ∀ (s : List α),
    lazyRuns (runs (sym p)) s.length s
      = (spans p s).map fun x => { text := x.1, groups := [], rest := x.2 }
  | [] => rfl
  | c :: s => by
    rw [List.length_cons, lazyRuns, spans]
    by_cases hc : p c
    · simp [runs, hc, lazyRuns_sym p s, Match.append, Match.empty]
    · simp [runs, hc, Match.empty]

/-- `(p*?)k` tries `k` after each run of `p` symbols in turn. -/
theorem firstMatch_lazy_seq (p : α → Bool) (k : Regex α) (s : List α) :
    (seq (group (lazyStar (sym p))) k).firstMatch s
      = (spans p s).findSome? fun x => (k.firstMatch x.2).map fun m =>
          { text := x.1 ++ m.text, groups := x.1 :: m.groups, rest := m.rest } := by
  rw [firstMatch_seq, runs, runs, lazyRuns_sym, List.findSome?_map, List.findSome?_map]
  rfl

theorem firstMatch_lazy_seq_nil (p : α → Bool) (k : Regex α) :
    (seq (group (lazyStar (sym p))) k).firstMatch []
      = (k.firstMatch []).map fun m => { m with groups := [] :: m.groups } := by
  rw [firstMatch_lazy_seq, spans]
  cases h : k.firstMatch [] <;> simp [h]

theorem firstMatch_lazy_seq_cons (p : α → Bool) (k : Regex α) (c : α) (s : List α) :
    (seq (group (lazyStar (sym p))) k).firstMatch (c :: s)
      = ((k.firstMatch (c :: s)).map fun m => { m with groups := [] :: m.groups }).or
        (if p c then ((seq (group (lazyStar (sym p))) k).firstMatch s).map fun m =>
          { m with text := c :: m.text, groups := m.groups.modifyHead (c :: ·) } else none) := by
  rw [firstMatch_lazy_seq, spans, List.findSome?_cons, firstMatch_lazy_seq]
  cases h : k.firstMatch (c :: s) with
  | some m => simp
  | none =>
    -- `k` does not match here, so the span has to take `c`
    simp only [Option.map_none, Option.none_or]
    split
    · rw [List.findSome?_map, List.map_findSome?]
      congr 1
      funext x
      cases h' : k.firstMatch x.2 <;> simp [h']
    · rfl

/-! ## Lazy repetition up to a delimiter -/

/-- A match of `k` survives one more `p` symbol in front of the string. -/
def ExtendsBy (p : α → Bool) (k : Regex α) : Prop :=
  ∀ c s, p c = true → (k.firstMatch s).isSome → (k.firstMatch (c :: s)).isSome

theorem extendsBy_eps (p : α → Bool) : ExtendsBy p (eps : Regex α) := fun _ _ _ _ => rfl

/-- A lazy repetition takes the additional symbol into its span. -/
theorem extendsBy_lazy (p : α → Bool) (k : Regex α) :
    ExtendsBy p (seq (group (lazyStar (sym p))) k) := by
  intro c s hc h
  rw [firstMatch_lazy_seq_cons, if_pos hc]
  simp [h]

variable [DecidableEq α] {p : α → Bool} {d : α} {k : Regex α}

theorem isSome_of_lazy_delim (hp : p d = true) (hk : ExtendsBy p k) : ∀ s : List α,
    ((seq (group (lazyStar (sym p))) (seq (sym (· == d)) k)).firstMatch s).isSome →
      (k.firstMatch s).isSome
  | [], h => by simp [firstMatch_lazy_seq_nil, firstMatch_sym_seq_nil] at h
  | c :: s, h => by
    rw [firstMatch_lazy_seq_cons, firstMatch_sym_seq_cons, Option.isSome_or, Bool.or_eq_true] at h
    rcases h with h | h
    · -- the delimiter comes next, and `k` matches behind it
      by_cases hc : c = d
      · subst hc
        exact hk c s hp (by simpa using h)
      · simp [hc] at h
    · -- the delimiter comes later, behind a span that takes `c`
      by_cases hc : p c = true
      · refine hk c s hc (isSome_of_lazy_delim hp hk s ?_)
        simpa [hc] using h
      · simp [hc] at h

/--
**Lazy repetition up to a delimiter stops at the first one.**

Going on to a later delimiter would leave a shorter string to `k`, and by `ExtendsBy` what
matches there already matched after the first delimiter.
-/
theorem firstMatch_lazy_delim (hp : p d = true) (hk : ExtendsBy p k) : ∀ s : List α,
    (seq (group (lazyStar (sym p))) (seq (sym (· == d)) k)).firstMatch s
      = (cutWhile p d s).bind fun x => (k.firstMatch x.2).map fun m =>
          { text := x.1 ++ d :: m.text, groups := x.1 :: m.groups, rest := m.rest }
  | [] => by simp [firstMatch_lazy_seq_nil, firstMatch_sym_seq_nil, cutWhile]
  | c :: s => by
    rw [firstMatch_lazy_seq_cons, firstMatch_sym_seq_cons, cutWhile]
    by_cases hc : c = d
    · subst hc
      cases h : k.firstMatch s with
      | some m => simp [h]
      | none =>
        -- a match behind a later delimiter would be one behind this one
        have hnone := mt (isSome_of_lazy_delim hp hk s) (by simp [h])
        simp [hp, h, Option.not_isSome_iff_eq_none.mp hnone]
    · rw [firstMatch_lazy_delim hp hk s]
      by_cases hpc : p c = true
      · cases hcut : cutWhile p d s with
        | none => simp [hc, hpc]
        | some x => cases h : k.firstMatch x.2 <;> simp [hc, hpc, h]
      · simp [hc, hpc]

/-! ## Iteration -/

omit [DecidableEq α]

/-- The expression never matches the empty string. -/
def Productive (r : Regex α) : Prop := ∀ s, ∀ m ∈ r.runs s, m.text ≠ []

theorem productive_sym_seq (p : α → Bool) (k : Regex α) : Productive (seq (sym p) k) := by
  intro s m hm
  simp only [runs, List.mem_flatMap, List.mem_map] at hm
  obtain ⟨m₁, hm₁, m₂, -, rfl⟩ := hm
  cases s with
  | nil => simp [runs] at hm₁
  | cons c s =>
    rw [runs] at hm₁
    split at hm₁
    · simp at hm₁; subst hm₁; simp
    · simp at hm₁

theorem search_eq_some {r : Regex α} : ∀ {s : List α} {m : Match α}, r.search s = some m →
    ∃ pre, ∃ t, s = pre ++ t ∧ m ∈ r.runs t
  | [], m, h => ⟨[], [], rfl, List.mem_of_mem_head? h⟩
  | c :: s, m, h => by
    rw [search, Option.or_eq_some_iff] at h
    rcases h with h | ⟨-, h⟩
    · exact ⟨[], c :: s, rfl, List.mem_of_mem_head? h⟩
    · obtain ⟨pre, t, rfl, hm⟩ := search_eq_some h
      exact ⟨c :: pre, t, rfl, hm⟩

/-- A match of a productive expression leaves less than it was given. -/
theorem rest_length_lt {r : Regex α} (hr : r.Productive) {s : List α} {m : Match α}
    (h : r.search s = some m) : m.rest.length < s.length := by
  obtain ⟨pre, t, rfl, hm⟩ := search_eq_some h
  have hpos : 0 < m.text.length := List.length_pos_iff.mpr (hr t m hm)
  rw [← text_append_rest r t m hm]
  simp only [List.length_append]
  omega

theorem iterate_eq {r : Regex α} (hr : r.Productive) : ∀ (n : Nat) (s : List α),
    s.length ≤ n → r.iterate n s = r.allMatches s
  | 0, s, h => by
    have hs : s.length = 0 := by omega
    rw [allMatches, hs]
  | n + 1, s, h => by
    rw [allMatches]
    cases hm : r.search s with
    | none => cases s <;> simp [iterate, hm]
    | some m =>
      have hlt := rest_length_lt hr hm
      -- both bounds are large enough for what the match leaves
      obtain ⟨l, hl⟩ : ∃ l, s.length = l + 1 := ⟨s.length - 1, by omega⟩
      rw [hl, iterate, iterate, hm]
      simp only
      rw [iterate_eq hr n m.rest (by omega), iterate_eq hr l m.rest (by omega)]

/-- **One step of the iteration**: search, and go on behind the match. -/
theorem allMatches_eq {r : Regex α} (hr : r.Productive) (s : List α) :
    r.allMatches s
      = match r.search s with
        | none => []
        | some m => m :: r.allMatches m.rest := by
  rw [← iterate_eq hr (s.length + 1) s (by omega), iterate]
  cases hm : r.search s with
  | none => rfl
  | some m => simp only [iterate_eq hr s.length m.rest (by have := rest_length_lt hr hm; omega)]

end Regex

end Infra
