import UnifiedModelBenchmark.Mutils.Rounds

/-!
# What a monitor has found

The steps of a monitor are spread over a run. Its history puts them together again: the time of its
entry, and what each of its iterations found. An iteration finds the files when it opens them and
the time when it reads them.

The history is kept beside the system and does not take part in it (`record_map_fst`).
-/

namespace UnifiedModelBenchmark.Spec

open Infra

/-- The history of the monitor that entered last. `opened` is what it found when it last opened the
two files. -/
structure History where
  entered : Int
  opened : Reading
  readings : List Reading
deriving DecidableEq, Repr

namespace History

def initial : History :=
  { entered := 0, opened := { current := none, voltage := none, now := 0 }, readings := [] }

/-- After a step of the monitor `t`. An iteration is in `readings` once the files are read, or
could not be opened. -/
def note (h : History) (t : Thread) (r : Reading) : History :=
  match t.point with
  | .entry => { h with entered := r.now, readings := [] }
  | .opening =>
    if (t.locals.openFiles r).openFailed then { h with readings := h.readings ++ [r] }
    else { h with opened := r }
  | .reading => { h with readings := h.readings ++ [{ h.opened with now := r.now }] }
  | _ => h

/-- After a step of the system. -/
def after (h : History) (s : System) : Action → History
  | .caller _ => h
  | .readData => h
  | .monitor id r =>
    match s.threads.find? fun t => t.id = id with
    | none => h
    | some t => h.note t r

/-- The times in it. -/
def times (h : History) : List Int := h.entered :: h.readings.map Reading.now

end History

/-- A step of the system with its history. -/
def recordStep (sh : System × History) (a : Action) : Option (System × History) :=
  (sh.1.step a).map fun s => (s, sh.2.after sh.1 a)

/-- Runs with the history. -/
def record (actions : List Action) : Option (System × History) :=
  actions.foldlM recordStep (.initial, .initial)

/-- The history does not change what the system does. -/
theorem record_map_fst (actions : List Action) : (record actions).map Prod.fst = System.run actions := by
  have hgeneral : ∀ (actions : List Action) (sh : System × History),
      (actions.foldlM recordStep sh).map Prod.fst = actions.foldlM System.step sh.1 := by
    intro actions
    induction actions with
    | nil => intro sh; rfl
    | cons a as ih =>
      intro sh
      rw [List.foldlM_cons, List.foldlM_cons]
      unfold recordStep
      cases sh.1.step a with
      | none => rfl
      | some s => exact ih _
  exact hgeneral actions _

/-- Every run has a history. -/
theorem exists_record {actions : List Action} {s : System} (h : System.run actions = some s) :
    ∃ hist, record actions = some (s, hist) := by
  rw [← record_map_fst] at h
  obtain ⟨⟨s', hist⟩, hrec, rfl⟩ := Option.map_eq_some_iff.mp h
  exact ⟨hist, hrec⟩

end UnifiedModelBenchmark.Spec
