import UnifiedModelBenchmark.Properties.History

/-!
# What can end the program

What a history holds comes from the steps of the monitors (`allFound_run`), and the sampler throws
what `stoll` throws for the first line of a file. So there is one way for a run to end in a fault: a
file that a monitor found does not start with a number (`run_fault`).
-/

namespace UnifiedModelBenchmark

open Infra Infra.Cxx Spec

/-- One of the files has this content. -/
def Reading.Holds (r : Reading) (content : Str) : Prop :=
  r.current = some content ∨ r.voltage = some content

/-- The exception for a sample is that of one of the two files. -/
theorem sampleOf_error {since now : Int} {current voltage : Str} {e : StdException}
    (h : sampleOf since now current voltage = .error e) :
    stoll (IfStream.firstLine current) = .error e ∨
      stoll (IfStream.firstLine voltage) = .error e := by
  unfold sampleOf at h
  cases hi : stoll (IfStream.firstLine current) with
  | error e' =>
    rw [hi] at h
    exact .inl (congrArg _ (Except.error.inj h))
  | ok i =>
    cases hu : stoll (IfStream.firstLine voltage) with
    | error e' =>
      rw [hi, hu] at h
      exact .inr (congrArg _ (Except.error.inj h))
    | ok u =>
      rw [hi, hu] at h
      cases h

/-- The exception of a sampler is that of the first line of one of the files. -/
theorem observe_error : ∀ {readings : List Reading} {since : Int} {e : StdException},
    observe since readings = .error e →
    ∃ r ∈ readings, ∃ content, r.Holds content ∧ stoll (IfStream.firstLine content) = .error e
  | [], since, e, h => by cases h
  | r :: readings, since, e, h => by
    have hlater : ∀ {since : Int}, observe since readings = .error e → ∃ r' ∈ r :: readings,
        ∃ content, r'.Holds content ∧ stoll (IfStream.firstLine content) = .error e := by
      intro since hrest
      obtain ⟨r', hr', hcontent⟩ := observe_error hrest
      exact ⟨r', List.mem_cons_of_mem r hr', hcontent⟩
    rw [observe] at h
    split at h
    · next current voltage hcurrent hvoltage =>
      cases hx : sampleOf since r.now current voltage with
      | error e' =>
        rw [hx] at h
        obtain rfl : e' = e := Except.error.inj h
        rcases sampleOf_error hx with hstoll | hstoll
        · exact ⟨r, List.mem_cons_self .., current, .inl hcurrent, hstoll⟩
        · exact ⟨r, List.mem_cons_self .., voltage, .inr hvoltage, hstoll⟩
      | ok x =>
        cases hrest : observe r.now readings with
        | error e' =>
          rw [hx, hrest] at h
          obtain rfl : e' = e := Except.error.inj h
          exact hlater hrest
        | ok data =>
          rw [hx, hrest] at h
          cases h
    · exact hlater h
    · cases h
    · cases h

namespace System

/-! ## Where a history comes from -/

/-- A monitor found this content in one of these steps. -/
def Found (actions : List Action) (content : Str) : Prop :=
  ∃ id r, Action.monitor id r ∈ actions ∧ r.Holds content

/-- Everything in the history was found in these steps. -/
structure AllFound (actions : List Action) (hist : History) : Prop where
  opened : ∀ content, hist.opened.Holds content → Found actions content
  readings : ∀ r ∈ hist.readings, ∀ content, r.Holds content → Found actions content

theorem Found.append {actions : List Action} {content : Str} (h : Found actions content)
    (a : Action) : Found (actions ++ [a]) content := by
  obtain ⟨id, r, hmem, hr⟩ := h
  exact ⟨id, r, List.mem_append_left _ hmem, hr⟩

theorem AllFound.append {actions : List Action} {hist : History} (h : AllFound actions hist)
    (a : Action) : AllFound (actions ++ [a]) hist where
  opened := fun content hc => (h.opened content hc).append a
  readings := fun r hr content hc => (h.readings r hr content hc).append a

/-- A step of a monitor adds to the history what it finds, and what was found when it opened the
files. -/
theorem allFound_note {actions : List Action} {hist : History} (h : AllFound actions hist)
    (t : Thread) (r : Reading) : AllFound (actions ++ [.monitor t.id r]) (hist.note t r) := by
  have hnow : ∀ content, r.Holds content → Found (actions ++ [.monitor t.id r]) content :=
    fun content hc => ⟨t.id, r, by simp, hc⟩
  have hbefore := h.append (.monitor t.id r)
  unfold History.note
  split
  · exact ⟨hbefore.opened, by simp⟩
  · split
    · refine ⟨hbefore.opened, fun r' hr' => ?_⟩
      rcases List.mem_append.mp hr' with hr' | hr'
      · exact hbefore.readings r' hr'
      · obtain rfl := List.mem_singleton.mp hr'
        exact hnow
    · exact ⟨hnow, hbefore.readings⟩
  · refine ⟨hbefore.opened, fun r' hr' => ?_⟩
    rcases List.mem_append.mp hr' with hr' | hr'
    · exact hbefore.readings r' hr'
    · obtain rfl := List.mem_singleton.mp hr'
      exact hbefore.opened
  · exact hbefore

theorem allFound_run {actions : List Action} {s : System} {hist : History}
    (h : record actions = some (s, hist)) : AllFound actions hist := by
  have hinv : Inv s ∧ AllFound actions hist := by
    refine (trace_of_foldlM_some h).invariant (fun as sh => Inv sh.1 ∧ AllFound as sh.2)
      ⟨inv_initial, ⟨by simp [History.initial, Reading.Holds], by simp [History.initial]⟩⟩ ?_
    intro as sh a sh' ⟨hinv, hfound⟩ hstep
    obtain ⟨s₁, hs₁, rfl⟩ := Option.map_eq_some_iff.mp hstep
    refine ⟨inv_step hinv hs₁, ?_⟩
    obtain ⟨-, ⟨now, rfl, -⟩ | ⟨rfl, -, -⟩ | ⟨t, r, rfl, ht, -⟩⟩ := step_cases hinv hs₁
    · exact hfound.append _
    · exact hfound.append _
    · rw [after_monitor ht]
      exact allFound_note hfound t r
  exact hinv.2

/-! ## Faults -/

/--
**What can end the program.** A run that ends in a fault ends in an exception that leaves a monitor,
and the monitors have found a file for whose first line `stoll` throws this exception. The errors of
`std::thread` do not occur.
-/
theorem run_fault (actions : List Action) (s : System) (fault : Fault)
    (h : run actions = some s) (hfault : s.fault = some fault) :
    ∃ e content, fault = .uncaught e ∧ Found actions content ∧
      stoll (IfStream.firstLine content) = .error e := by
  obtain ⟨hist, hrec⟩ := exists_record h
  obtain ⟨hinv, hrecorded⟩ := recorded_run hrec
  cases fault with
  | thread e => exact absurd hfault (hinv.noThreadError e)
  | uncaught e =>
    have herror : observe hist.entered hist.readings = .error e := by
      rw [observe_eq, hrecorded.thrown e hfault]
      rfl
    obtain ⟨r, hr, content, hcontent, hstoll⟩ := observe_error herror
    exact ⟨e, content, rfl, (allFound_run hrec).readings r hr content hcontent, hstoll⟩

/-- A monitor that finds no number in the first file. -/
def noNumber : List Action :=
  let files : Reading := { current := some ['?'], voltage := some ['7'], now := 0 }
  List.replicate 4 (.caller 0) ++ List.replicate 5 (.monitor 1 files)

theorem run_fault_noNumber : ∃ content, Found noNumber content ∧
    stoll (IfStream.firstLine content) = .error .invalidArgument := by
  obtain ⟨e, content, hfault, hfound, hstoll⟩ := run_fault noNumber
    ((run noNumber).getD initial) (.uncaught .invalidArgument) (by decide +kernel)
    (by decide +kernel)
  obtain rfl := Fault.uncaught.inj hfault
  exact ⟨content, hfound, hstoll⟩

end System

end UnifiedModelBenchmark
