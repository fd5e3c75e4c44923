import UnifiedModelBenchmark.Mutils.Tensor

/-!
# A linear scanner for `--input_info`

What the parser of the flag amounts to, without regular expressions: the text is read line by
line, and in a line each record is found by looking for `[`, `,`, `,` and `]` one after the other.
Nothing is ever tried twice.

`Properties/Scan.lean` shows that the parser does exactly this.
-/

namespace UnifiedModelBenchmark.Spec

open Infra Infra.Cxx

/-! ## Records of a line -/

/-- The three fields of a record, as text. -/
structure RawRecord where
  name : Str
  dims : Str
  dtype : Str
deriving DecidableEq, Repr

def RawRecord.fields (r : RawRecord) : List Str := [r.name, r.dims, r.dtype]

/-- The fields behind a `[`: up to the next `,`, up to the one after it, and up to the next `]`. -/
def readFields (s : Str) : Option (RawRecord × Str) :=
  (cut ',' s).bind fun a => (cut ',' a.2).bind fun b => (cut ']' b.2).map fun c =>
    ({ name := a.1, dims := b.1, dtype := c.1 }, c.2)

/-- The next record of a line and what stands behind it. -/
def scanOne (s : Str) : Option (RawRecord × Str) := (cut '[' s).bind fun x => readFields x.2

theorem readFields_eq_some {s : Str} {x : RawRecord × Str} (h : readFields s = some x) :
    s = x.1.name ++ ',' :: (x.1.dims ++ ',' :: (x.1.dtype ++ ']' :: x.2)) ∧
      ',' ∉ x.1.name ∧ ',' ∉ x.1.dims ∧ ']' ∉ x.1.dtype := by
  obtain ⟨⟨a, s₁⟩, ha, h⟩ := Option.bind_eq_some_iff.mp h
  obtain ⟨⟨b, s₂⟩, hb, h⟩ := Option.bind_eq_some_iff.mp h
  obtain ⟨⟨c, s₃⟩, hc, rfl⟩ := Option.map_eq_some_iff.mp h
  obtain ⟨rfl, hna⟩ := cut_eq_some ha
  obtain ⟨rfl, hnb⟩ := cut_eq_some hb
  obtain ⟨rfl, hnc⟩ := cut_eq_some hc
  exact ⟨rfl, hna, hnb, hnc⟩

theorem scanOne_eq_some {s : Str} {x : RawRecord × Str} (h : scanOne s = some x) :
    ∃ pre t, s = pre ++ '[' :: t ∧ '[' ∉ pre ∧ readFields t = some x := by
  obtain ⟨⟨pre, t⟩, hcut, ht⟩ := Option.bind_eq_some_iff.mp h
  obtain ⟨hs, hpre⟩ := cut_eq_some hcut
  exact ⟨pre, t, hs, hpre, ht⟩

theorem scanOne_length {s : Str} {x : RawRecord × Str} (h : scanOne s = some x) :
    x.2.length < s.length := by
  obtain ⟨pre, t, rfl, -, ht⟩ := scanOne_eq_some h
  rw [(readFields_eq_some ht).1]
  simp only [List.length_append, List.length_cons]
  omega

/-- The records of one line. -/
def scanSegment (s : Str) : List RawRecord :=
  match _h : scanOne s with
  | none => []
  | some (r, rest) => r :: scanSegment rest
termination_by s.length
decreasing_by exact scanOne_length _h

theorem scanSegment_none {s : Str} (h : scanOne s = none) : scanSegment s = [] := by
  rw [scanSegment]
  split
  · rfl
  · next hsome => rw [h] at hsome; simp at hsome

theorem scanSegment_some {s rest : Str} {r : RawRecord} (h : scanOne s = some (r, rest)) :
    scanSegment s = r :: scanSegment rest := by
  rw [scanSegment]
  split
  · next hnone => rw [h] at hnone; simp at hnone
  · next hsome =>
    rw [h] at hsome
    obtain ⟨rfl, rfl⟩ := Prod.mk.inj (Option.some.inj hsome)
    rfl

/-! ## Lines -/

def isLineTerminator (c : Char) : Bool := c == '\n' || c == '\r'

/-- The records of a text: those of its maximal stretches without CR and LF, in order. -/
def linearScan (s : Str) : List RawRecord :=
  (s.splitOnP isLineTerminator).flatMap scanSegment

/-! ## Dimensions -/

/-- The pieces between the `x`s; a last empty piece is dropped. -/
def pieces (w : Str) : List Str :=
  let ps := w.splitOn 'x'
  if ps.getLast? = some [] then ps.dropLast else ps

/-- A piece that is read as a dimension: it starts with an integer in the range of `int`. -/
def DimPiece (p : Str) : Prop := ∃ i : Int, IntPrefix p i ∧ -2 ^ 31 ≤ i ∧ i < 2 ^ 31

/-- The dimensions that the pieces denote, if all of them denote one. -/
def dims? (w : Str) : Option (List Int32) := (pieces w).mapM fun p => (stoi p).toOption

/-- The tensor a record denotes, if its dimensions can be read. -/
def RawRecord.tensor? (r : RawRecord) : Option MTensorInfo :=
  (dims? r.dims).map fun ds =>
    { name := r.name, shape := ds.map Int32.toInt64, dtype := r.dtype }

/-- The tensors of the records that stand before the first one that cannot be read. -/
def readable : List RawRecord → List MTensorInfo
  | [] => []
  | r :: rs =>
    match r.tensor? with
    | none => []
    | some t => t :: readable rs

end UnifiedModelBenchmark.Spec
