import UnifiedModelBenchmark.Properties.Monitor

/-!
# What ends the power monitor

The loop is left if the flag is seen false, and if a conversion throws: nothing catches the
exceptions of `stoll`. A conversion is reached in an iteration that finds both files, unless a
stream was left open before that. After that nothing is read any more, and nothing can throw.
-/

namespace UnifiedModelBenchmark

open Infra Infra.Cxx

/-! ## Conversions -/

/-- What a first line has to hold. -/
theorem Reading.holdsInteger_iff (content : Str) : Reading.holdsInteger content = true ↔
    ∃ i : Int, IntPrefix (IfStream.firstLine content) i ∧ -2 ^ 63 ≤ i ∧ i < 2 ^ 63 :=
  isOk_stoll (IfStream.firstLine content)

namespace Monitor

/-- A conversion throws if a line that was read does not hold an integer. -/
theorem sample_throws {m : Monitor} {r : Reading} (hm : m.Closed) (ha : r.Available)
    (hn : ¬ r.Numeric) : ∃ e, ((m.openFiles r).readFiles r).sample = .error e := by
  obtain ⟨c, hc⟩ := Option.isSome_iff_exists.mp ha.1
  obtain ⟨v, hv⟩ := Option.isSome_iff_exists.mp ha.2
  have hbad : ¬ (Reading.holdsInteger c = true ∧ Reading.holdsInteger v = true) := by
    rintro ⟨hcur, hvol⟩
    refine hn ⟨fun c' hc' => ?_, fun v' hv' => ?_⟩
    · rw [hc, Option.mem_some_iff] at hc'
      exact hc' ▸ hcur
    · rw [hv, Option.mem_some_iff] at hv'
      exact hv' ▸ hvol
  unfold Reading.holdsInteger at hbad
  unfold sample
  rw [currentValue_readFiles hm hc, voltageValue_readFiles hm hv]
  cases hcur : stoll (IfStream.firstLine c) with
  | error e => exact ⟨e, rfl⟩
  | ok i =>
    cases hvol : stoll (IfStream.firstLine v) with
    | error e => exact ⟨e, rfl⟩
    | ok u =>
      rw [hcur, hvol] at hbad
      exact absurd ⟨rfl, rfl⟩ hbad

/-- So an iteration throws if it reads such a line. -/
theorem iteration_throws {s : Monitor × List RuntimeProileData} {r : Reading} (hs : s.1.Closed)
    (ha : r.Available) (hn : ¬ r.Numeric) : ∃ e, iteration s r = .error e := by
  obtain ⟨e, he⟩ := sample_throws hs ha hn
  exact ⟨e, by rw [iteration_read ⟨hs, ha⟩, he]; rfl⟩

end Monitor

/-! ## The loop -/

/-- The loop over some checks and those that follow them. -/
theorem monitorLoop_append (s : Monitor × List RuntimeProileData)
    (before checks : List (Option Reading)) :
    monitorLoop s (before ++ checks)
      = match monitorLoop s before with
        | .looping s' => monitorLoop s' checks
        | .returned s' => .returned s'
        | .thrown e => .thrown e := by
  induction before generalizing s with
  | nil => rfl
  | cons c before ih =>
    cases c with
    | none => rfl
    | some r =>
      rw [List.cons_append, monitorLoop, monitorLoop]
      cases Monitor.iteration s r with
      | error e => rfl
      | ok s' => exact ih s'

/-- While the flag is true, the loop is a run of its iterations. -/
theorem monitorLoop_some (s : Monitor × List RuntimeProileData) : ∀ readings : List Reading,
    monitorLoop s (readings.map some)
      = match readings.foldlM Monitor.iteration s with
        | .error e => .thrown e
        | .ok s' => .looping s' := by
  intro readings
  induction readings generalizing s with
  | nil => rfl
  | cons r readings ih =>
    rw [List.map_cons, monitorLoop, List.foldlM_cons]
    cases hr : Monitor.iteration s r with
    | error e => rfl
    | ok s' => exact ih s'

/-- The function returns only after a check that saw the flag false. -/
theorem none_mem_of_returned {s s' : Monitor × List RuntimeProileData} :
    ∀ {checks : List (Option Reading)}, monitorLoop s checks = .returned s' → none ∈ checks := by
  intro checks
  induction checks generalizing s with
  | nil => intro h; cases h
  | cons c checks ih =>
    intro h
    cases c with
    | none => exact List.mem_cons_self
    | some r =>
      rw [monitorLoop] at h
      cases hr : Monitor.iteration s r with
      | error e => rw [hr] at h; cases h
      | ok s₁ =>
        rw [hr] at h
        exact List.mem_cons_of_mem _ (ih h)

/-- No iteration reads a line that does not hold an integer: as long as the iterations find both
files or none, what is found is read. -/
def ReadsIntegers (checks : List (Option Reading)) : Prop :=
  ∀ (before : List Reading) (r : Reading) (after : List (Option Reading)),
    checks = before.map some ++ some r :: after →
    (∀ b ∈ before, b.current.isSome = b.voltage.isSome) → r.Available → r.Numeric

theorem ReadsIntegers.tail {r : Reading} {checks : List (Option Reading)}
    (h : ReadsIntegers (some r :: checks)) (hr : r.current.isSome = r.voltage.isSome) :
    ReadsIntegers checks := by
  intro before r' after hsplit hbefore
  refine h (r :: before) r' after ?_ (List.forall_mem_cons.mpr ⟨hr, hbefore⟩)
  rw [hsplit]
  rfl

/-- **Nothing is thrown** if the streams are not both closed, or all lines that are read hold
integers. -/
theorem monitorLoop_ne_thrown : ∀ {checks : List (Option Reading)}
    {s : Monitor × List RuntimeProileData}, (s.1.Closed → ReadsIntegers checks) →
      ∀ e, monitorLoop s checks ≠ .thrown e
  | [], s, _, e => by simp [monitorLoop]
  | none :: checks, s, _, e => by simp [monitorLoop]
  | some r :: checks, s, h, e => by
    have hnext : ∃ s', Monitor.iteration s r = .ok s' ∧ (s'.1.Closed → ReadsIntegers checks) := by
      by_cases hs : s.1.Closed
      · have hread := h hs
        by_cases ha : r.Available
        · have hn : r.Numeric := hread [] r checks rfl (by simp) ha
          obtain ⟨x, hx⟩ := Monitor.iteration_push hs ha hn
          exact ⟨_, hx, fun _ => hread.tail (ha.1.trans ha.2.symm)⟩
        · refine ⟨_, Monitor.iteration_skip fun hca => ha hca.2, fun hclosed => hread.tail ?_⟩
          -- a file that is left open is not closed
          by_contra hmixed
          exact Monitor.not_closed_of_mixed hmixed hclosed
      · obtain ⟨m, hm, hopen⟩ := Monitor.iteration_of_not_closed hs r
        exact ⟨_, hm, fun hclosed => absurd hclosed hopen⟩
    obtain ⟨s', hs', hread⟩ := hnext
    rw [monitorLoop, hs']
    exact monitorLoop_ne_thrown hread e

/-! ## Results -/

/--
The monitor ends only because it was told to: no exception leaves it, an iteration that finds a
line without an integer leaves the samples as they are, and it returns only after a check that saw
the flag false.
-/
structure EndsWhenTold (now : Int) (powerData : List RuntimeProileData)
    (checks : List (Option Reading)) : Prop where
  no_exception : ∀ e, monitorLoop (.initial now, powerData) checks ≠ .thrown e
  skipped : ∀ before r after, checks = before ++ some r :: after →
    ∀ s, monitorLoop (.initial now, powerData) before = .looping s →
      ¬ r.Numeric → ∃ m, Monitor.iteration s r = .ok (m, s.2)
  told : ∀ s, monitorLoop (.initial now, powerData) checks = .returned s → none ∈ checks

/-- If nothing is thrown, an iteration that finds a bad line skips it. -/
theorem skipped_of_no_exception {s₀ s : Monitor × List RuntimeProileData}
    {before after : List (Option Reading)} {r : Reading}
    (h : ∀ e, monitorLoop s₀ (before ++ some r :: after) ≠ .thrown e)
    (hs : monitorLoop s₀ before = .looping s) (hn : ¬ r.Numeric) :
    ∃ m, Monitor.iteration s r = .ok (m, s.2) := by
  by_cases hca : s.1.Closed ∧ r.Available
  · obtain ⟨e, he⟩ := Monitor.iteration_throws hca.1 hca.2 hn
    refine absurd ?_ (h e)
    rw [monitorLoop_append, hs]
    dsimp only
    rw [monitorLoop, he]
  · exact ⟨_, Monitor.iteration_skip hca⟩

/-- Iterations that find both files or none leave the streams closed. -/
theorem closed_of_foldlM {now : Int} {powerData : List RuntimeProileData} {before : List Reading}
    {s : Monitor × List RuntimeProileData}
    (hs : before.foldlM Monitor.iteration (.initial now, powerData) = .ok s)
    (hbefore : ∀ b ∈ before, b.current.isSome = b.voltage.isSome) : s.1.Closed := by
  refine (trace_of_foldlM hs).invariant
    (fun as s₁ => (∀ b ∈ as, b.current.isSome = b.voltage.isSome) → s₁.1.Closed) ?_ ?_ hbefore
  · exact fun _ => Monitor.closed_initial now
  · intro as s₁ r s₂ hclosed hstep has
    have hlast := has r (List.mem_append_right as (List.mem_singleton_self r))
    have hbefore := hclosed fun b hb => has b (List.mem_append_left [r] hb)
    exact Monitor.closed_of_iteration hbefore hlast
      hstep

/-- Before a first mixed iteration the streams are closed, so the next line is read. -/
theorem readsIntegers_of_no_exception {now : Int} {powerData : List RuntimeProileData}
    {checks : List (Option Reading)}
    (h : ∀ e, monitorLoop (.initial now, powerData) checks ≠ .thrown e) : ReadsIntegers checks := by
  rintro before r after rfl hbefore ha
  by_contra hn
  have hloop := monitorLoop_some (.initial now, powerData) before
  cases hs : before.foldlM Monitor.iteration (.initial now, powerData) with
  | error e =>
    -- an earlier iteration throws
    rw [hs] at hloop
    refine h e ?_
    rw [monitorLoop_append, hloop]
  | ok s =>
    rw [hs] at hloop
    obtain ⟨e, he⟩ := Monitor.iteration_throws (closed_of_foldlM hs hbefore) ha hn
    refine h e ?_
    rw [monitorLoop_append, hloop]
    dsimp only
    rw [monitorLoop, he]

/--
**When the monitor ends only because it was told to**: exactly if no iteration that finds both
files finds a first line in them that does not start with an integer in the range of `long long`,
those iterations apart that come after one that found only one of the files.
-/
theorem monitorLoop_endsWhenTold (now : Int) (powerData : List RuntimeProileData)
    (checks : List (Option Reading)) :
    EndsWhenTold now powerData checks ↔ ReadsIntegers checks := by
  constructor
  · exact fun h => readsIntegers_of_no_exception h.no_exception
  · intro h
    have hthrown := monitorLoop_ne_thrown (s := (.initial now, powerData)) fun _ => h
    refine ⟨hthrown, ?_, fun s => none_mem_of_returned⟩
    rintro before r after rfl s hs hn
    exact skipped_of_no_exception hthrown hs hn

/-- An empty voltage file: the conversion throws, and nothing catches it. -/
theorem monitorLoop_endsWhenTold_not :
    monitorLoop (.initial 0, []) [some { current := some ['5', '\n'], voltage := some [], now := 1 }]
        = .thrown .invalidArgument ∧
      ¬ EndsWhenTold 0 [] [some { current := some ['5', '\n'], voltage := some [], now := 1 }] := by
  have hthrown : monitorLoop (.initial 0, [])
      [some { current := some ['5', '\n'], voltage := some [], now := 1 }]
        = .thrown .invalidArgument := by decide +kernel
  exact ⟨hthrown, fun h => h.no_exception _ hthrown⟩

end UnifiedModelBenchmark
