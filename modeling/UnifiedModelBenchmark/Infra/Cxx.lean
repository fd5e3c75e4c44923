import Mathlib.Algebra.Ring.Int.Defs
import UnifiedModelBenchmark.Infra.Cut
import UnifiedModelBenchmark.Infra.Decimal

/-!
# Pieces of the C++ standard library

Number conversion (`stoi`, `stoll`), `std::getline` and `std::ifstream`, as far as a program that
reads short text needs them. Strings are lists of characters.

An exception is its class. The text of `what()` is kept for `runtime_error` only, where the
program supplies it; for the other two it is up to the library.
-/

namespace Infra.Cxx

abbrev Str := List Char

/-- The exceptions that are derived from `std::exception` and thrown by the functions below. -/
inductive StdException
  | invalidArgument
  | outOfRange
  | runtimeError (what : String)
deriving DecidableEq, Repr

/-! ## Number conversion -/

/-- `std::stoi` in base 10. -/
def stoi (s : Str) : Except StdException Int32 :=
  match strtol s with
  | none => .error .invalidArgument
  | some i => if -2 ^ 31 ≤ i ∧ i < 2 ^ 31 then .ok (Int32.ofInt i) else .error .outOfRange

/-- `std::stoll` in base 10. -/
def stoll (s : Str) : Except StdException Int64 :=
  match strtol s with
  | none => .error .invalidArgument
  | some i => if -2 ^ 63 ≤ i ∧ i < 2 ^ 63 then .ok (Int64.ofInt i) else .error .outOfRange

/-- **`stoi` reads an integer prefix in the range of `int`**, and nothing else. -/
theorem stoi_eq_ok {s : Str} {n : Int32} : stoi s = .ok n ↔ IntPrefix s n.toInt := by
  rw [← strtol_eq_some]
  unfold stoi
  cases h : strtol s with
  | none => simp
  | some i =>
    simp only [Option.some.injEq]
    split
    · next hr =>
      simp only [Except.ok.injEq]
      rw [← Int32.toInt_inj, Int32.toInt_ofInt_of_le hr.1 hr.2]
    · next hr =>
      simp only [reduceCtorEq, false_iff]
      rintro rfl
      exact hr ⟨n.le_toInt, n.toInt_lt⟩

/-- **`stoll` reads an integer prefix in the range of `long long`.** -/
theorem isOk_stoll (s : Str) :
    (stoll s).isOk = true ↔ ∃ i : Int, IntPrefix s i ∧ -2 ^ 63 ≤ i ∧ i < 2 ^ 63 := by
  unfold stoll
  cases hs : strtol s with
  | none =>
    have hnot : ∀ i, ¬ IntPrefix s i := by
      intro i hi
      rw [← strtol_eq_some, hs] at hi
      cases hi
    simp [Except.isOk, Except.toBool, hnot]
  | some i =>
    have hi : ∀ j, IntPrefix s j ↔ i = j := by
      intro j
      rw [← strtol_eq_some, hs, Option.some.injEq]
    simp only [hi]
    split
    · next hr => exact iff_of_true rfl ⟨i, rfl, hr⟩
    · next hr =>
      refine iff_of_false (by simp [Except.isOk, Except.toBool]) ?_
      rintro ⟨j, rfl, hj⟩
      exact hr hj

/-! ## Reading lines -/

/--
`std::getline` on the unread characters of a stream: the token and what is left behind the
delimiter. `none` is the failure of a stream that has nothing left.
-/
def getline (delim : Char) (s : Str) : Option (Str × Str) :=
  match s with
  | [] => none
  | c :: t => some ((cut delim (c :: t)).getD (c :: t, []))

@[simp] theorem getline_nil (delim : Char) : getline delim [] = none := rfl

/-- A token and what is left are shorter than the input. -/
theorem getline_length {delim : Char} {s token rest : Str}
    (h : getline delim s = some (token, rest)) : rest.length < s.length := by
  cases s with
  | nil => simp at h
  | cons c t =>
    simp only [getline, Option.some.injEq] at h
    cases hc : cut delim (c :: t) with
    | none =>
      rw [hc] at h
      obtain ⟨-, rfl⟩ := Prod.mk.inj h
      simp
    | some x =>
      rw [hc, Option.getD_some] at h
      subst h
      exact cut_length hc

/-! ## Input files -/

/-- A `std::ifstream`: whether a file is open, the failure bit, and the unread characters. -/
structure IfStream where
  isOpen : Bool
  failbit : Bool
  buf : Str
deriving DecidableEq, Repr

namespace IfStream

/-- A stream that was constructed without a file. -/
def initial : IfStream := { isOpen := false, failbit := false, buf := [] }

/--
`open`: on a stream that is open, or on a file that cannot be opened (`none`), it sets the failure
bit; otherwise it clears it.
-/
def openFile (st : IfStream) (file : Option Str) : IfStream :=
  if st.isOpen then { st with failbit := true }
  else
    match file with
    | none => { st with failbit := true }
    | some content => { isOpen := true, failbit := false, buf := content }

/-- `close`: a failure if no file is open. -/
def close (st : IfStream) : IfStream :=
  if st.isOpen then { st with isOpen := false } else { st with failbit := true }

/--
`std::getline` from the stream into `str`. A stream in failure leaves `str` as it is; at the end
of the file `str` is emptied and the stream fails.
-/
def getline (st : IfStream) (str : Str) : IfStream × Str :=
  if st.failbit then (st, str)
  else
    match Cxx.getline '\n' st.buf with
    | none => ({ st with failbit := true }, [])
    | some (line, rest) => ({ st with buf := rest }, line)

/-- The line that `getline` reads from a file that has just been opened. -/
def firstLine (content : Str) : Str := ((Cxx.getline '\n' content).map Prod.fst).getD []

/-- After `open` the stream is open if it was, or if there is a file. -/
@[simp] theorem openFile_isOpen (st : IfStream) (file : Option Str) :
    (st.openFile file).isOpen = (st.isOpen || file.isSome) := by
  unfold openFile
  cases st.isOpen <;> cases file <;> rfl

/-- `open` fails on an open stream, and on a file that is not there. -/
@[simp] theorem openFile_failbit (st : IfStream) (file : Option Str) :
    (st.openFile file).failbit = (st.isOpen || file.isNone) := by
  unfold openFile
  cases st.isOpen <;> cases file <;> rfl

theorem openFile_getline {st : IfStream} (h : st.isOpen = false) (content str : Str) :
    ((st.openFile (some content)).getline str).2 = firstLine content := by
  have ho : st.openFile (some content) = { isOpen := true, failbit := false, buf := content } := by
    unfold openFile
    rw [h]
    rfl
  rw [ho]
  unfold getline firstLine
  cases Cxx.getline '\n' content <;> rfl

@[simp] theorem close_isOpen (st : IfStream) : st.close.isOpen = false := by
  unfold close
  split
  · rfl
  · next h => simpa using h

end IfStream

end Infra.Cxx
