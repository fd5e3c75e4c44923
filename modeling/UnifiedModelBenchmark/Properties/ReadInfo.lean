import UnifiedModelBenchmark.Properties.Diagnosis
import UnifiedModelBenchmark.Properties.InputInfo
import UnifiedModelBenchmark.Tools.ReadInfo

/-!
# From the script to the parser

The script prints the flag that the parser reads. An input whose dimensions are all fixed comes back
as it is. The parser stops at the first dimension that the model leaves open, or that is no `int`
(`parseTensorInfo_printed`): the inputs in front of that one are in the vector, the others are not.
-/

namespace UnifiedModelBenchmark.ReadInfo

open Infra Infra.Cxx Spec

/-! ## Dimensions -/

/-- The text starts with nothing that a number can start with. -/
def StartsNoNumber (w : Str) : Prop :=
  ∃ c t, w = c :: t ∧ isSpace c = false ∧ c ≠ '-' ∧ c ≠ '+' ∧ c.isDigit = false

/-- A dimension that is not read, with the exception for it. -/
inductive Dim.Rejected : Dim → StdException → Prop
  | notInt {n : Int} (h : ¬ (-2 ^ 31 ≤ n ∧ n < 2 ^ 31)) : Rejected (.fixed n) .outOfRange
  | named (name : Str) : Rejected (.named name) .invalidArgument
  | unnamed : Rejected .unnamed .invalidArgument

/-- The shape with these dimensions. -/
def fixedShape (ds : List Int32) : List Dim := ds.map fun d => .fixed d.toInt

theorem stoi_cons {c : Char} (hspace : isSpace c = false) (hminus : c ≠ '-') (hplus : c ≠ '+')
    (hdigit : c.isDigit = false) (t : Str) : stoi (c :: t) = .error .invalidArgument := by
  have hstrtol : strtol (c :: t) = none := by
    simp [strtol, takeSign, hspace, hminus, hplus, hdigit]
  rw [stoi, hstrtol]

/-- The loop of `parse_shape_info` ends at such a text. -/
theorem parseShapeLoop_startsNoNumber {w : Str} (h : StartsNoNumber w) (rest : Str)
    (out : List Int64) :
    parseShapeLoop (w ++ rest) out = (out, some .invalidArgument) := by
  obtain ⟨c, t, rfl, hspace, hminus, hplus, hdigit⟩ := h
  by_cases hx : c = 'x'
  · -- the first token is empty
    have hget : getline 'x' (c :: t ++ rest) = some ([], t ++ rest) := by
      simp [getline, cut, hx]
    exact parseShapeLoop_error hget rfl out
  · obtain ⟨token, after, hget⟩ : ∃ token after,
        getline 'x' (c :: t ++ rest) = some (c :: token, after) := by
      rw [List.cons_append, getline, cut, if_neg hx]
      cases cut 'x' (t ++ rest) with
      | none => exact ⟨_, _, rfl⟩
      | some x => exact ⟨_, _, rfl⟩
    exact parseShapeLoop_error hget (stoi_cons hspace hminus hplus hdigit token) out

theorem joinedShape_cons (d d' : Dim) (ds : List Dim) :
    joinedShape (d :: d' :: ds) = d.str ++ 'x' :: joinedShape (d' :: ds) := by
  rw [joinedShape, List.map_cons, List.map_cons, List.intercalate_cons_cons, List.append_assoc]
  rfl

/-- A dimension text starts with the text of its first dimension. -/
theorem exists_joinedShape (d : Dim) : ∀ shape : List Dim,
    ∃ rest, joinedShape (d :: shape) = d.str ++ rest
  | [] => ⟨[], by rw [joinedShape, List.map_singleton, List.intercalate_singleton, List.append_nil]⟩
  | d' :: shape => ⟨_, joinedShape_cons d d' shape⟩

/-- The first token of a dimension text that starts with a fixed dimension. -/
theorem getline_joinedShape (n : Int) (shape : List Dim) :
    getline 'x' (joinedShape (.fixed n :: shape)) = some (decimal n, joinedShape shape) := by
  have hx : 'x' ∉ decimal n := by
    intro h
    rcases mem_intText (intText_decimal n) h with h | h | h <;> simp at h
  obtain ⟨c, t, hct⟩ := List.exists_cons_of_ne_nil (intText_ne_nil (intText_decimal n))
  cases shape with
  | nil =>
    have htext : joinedShape [.fixed n] = decimal n := by
      rw [joinedShape, List.map_singleton, List.intercalate_singleton]
      rfl
    rw [htext, hct, getline, ← hct, cut_eq_none.mpr hx]
    rfl
  | cons d shape =>
    have hcut := cut_append_cons hx (joinedShape (d :: shape))
    rw [joinedShape_cons, Dim.str, hct, List.cons_append, getline, ← List.cons_append, ← hct, hcut]
    rfl

theorem stoi_decimal (n : Int) : stoi (decimal n)
    = if -2 ^ 31 ≤ n ∧ n < 2 ^ 31 then .ok (Int32.ofInt n) else .error .outOfRange := by
  rw [stoi, strtol_decimal]

/-- A text that the loop of `parse_shape_info` takes, dimension by dimension: all of them, or those
in front of the first one that is not read. -/
theorem parseShapeLoop_joinedShape : ∀ {shape : List Dim},
    (∀ name, .named name ∈ shape → StartsNoNumber name) → ∀ out : List Int64,
    (∃ ds, shape = fixedShape ds ∧
      parseShapeLoop (joinedShape shape) out = (out ++ ds.map Int32.toInt64, none)) ∨
    ∃ ds d after e out', shape = fixedShape ds ++ d :: after ∧ d.Rejected e ∧
      parseShapeLoop (joinedShape shape) out = (out', some e)
  | [], _, out => by
    refine .inl ⟨[], rfl, ?_⟩
    rw [List.map_nil, List.append_nil]
    exact (parseShapeLoop_eq [] out).1 [] dims?_nil |>.trans (by simp)
  | .named name :: shape, h, out => by
    obtain ⟨rest, hrest⟩ := exists_joinedShape (.named name) shape
    have hloop := parseShapeLoop_startsNoNumber (h name (List.mem_cons_self ..)) rest out
    exact .inr ⟨[], .named name, shape, _, out, rfl, .named name, by rw [hrest]; exact hloop⟩
  | .unnamed :: shape, _, out => by
    obtain ⟨rest, hrest⟩ := exists_joinedShape .unnamed shape
    have hnone : StartsNoNumber "None".toList :=
      ⟨'N', "one".toList, rfl, by decide, by decide, by decide, by decide⟩
    have hloop := parseShapeLoop_startsNoNumber hnone rest out
    exact .inr ⟨[], .unnamed, shape, _, out, rfl, .unnamed, by rw [hrest]; exact hloop⟩
  | .fixed n :: shape, h, out => by
    have hget := getline_joinedShape n shape
    have hstoi := stoi_decimal n
    by_cases hn : -2 ^ 31 ≤ n ∧ n < 2 ^ 31
    · rw [if_pos hn] at hstoi
      have htoInt : (Int32.ofInt n).toInt = n := Int32.toInt_ofInt_of_le hn.1 hn.2
      rw [parseShapeLoop_ok hget hstoi]
      rcases parseShapeLoop_joinedShape (fun name hname => h name (List.mem_cons_of_mem _ hname))
          (out ++ [(Int32.ofInt n).toInt64])
        with ⟨ds, hds, hloop⟩ | ⟨ds, d, after, e, out', hsplit, hd, hloop⟩
      · refine .inl ⟨Int32.ofInt n :: ds, ?_, ?_⟩
        · rw [fixedShape, List.map_cons, htoInt, hds]
          rfl
        · rw [hloop]
          simp
      · refine .inr ⟨Int32.ofInt n :: ds, d, after, e, out', ?_, hd, hloop⟩
        rw [fixedShape, List.map_cons, htoInt, hsplit]
        rfl
    · rw [if_neg hn] at hstoi
      exact .inr ⟨[], .fixed n, shape, _, out, rfl, .notInt hn,
        parseShapeLoop_error hget hstoi out⟩

/-! ## Records -/

/-- An input whose fields do not contain what ends them. The name of an open dimension does not
start like a number. -/
structure Describable (input : NodeArg) : Prop where
  name_ok : ∀ c ∈ input.name, c ≠ ',' ∧ isLineTerminator c = false
  dims_ok : ∀ name, .named name ∈ input.shape →
    StartsNoNumber name ∧ ∀ c ∈ name, c ≠ ',' ∧ isLineTerminator c = false

/-- The record that the scanner finds for the input. -/
def record (input : NodeArg) : RawRecord :=
  { name := input.name, dims := joinedShape input.shape, dtype := "float32".toList }

theorem mem_joinedShape : ∀ {shape : List Dim} {c : Char}, c ∈ joinedShape shape →
    c = 'x' ∨ ∃ d ∈ shape, c ∈ d.str
  | [], c, h => by cases h
  | [d], c, h => by
    rw [joinedShape, List.map_singleton, List.intercalate_singleton] at h
    exact .inr ⟨d, List.mem_singleton_self d, h⟩
  | d :: d' :: shape, c, h => by
    rw [joinedShape_cons] at h
    rcases List.mem_append.mp h with h | h
    · exact .inr ⟨d, List.mem_cons_self .., h⟩
    · rcases List.mem_cons.mp h with rfl | h
      · exact .inl rfl
      · rcases mem_joinedShape h with rfl | ⟨d'', hd'', hc⟩
        · exact .inl rfl
        · exact .inr ⟨d'', List.mem_cons_of_mem d hd'', hc⟩

/-- A digit, a sign and the like end neither a field nor a line. -/
theorem not_end_of_mem_decimal {n : Int} {c : Char} (hc : c ∈ decimal n) :
    c ≠ ',' ∧ isLineTerminator c = false := by
  rcases mem_intText (intText_decimal n) hc with h | rfl | rfl
  · constructor
    · rintro rfl
      cases h
    · cases hl : isLineTerminator c with
      | false => rfl
      | true =>
        simp only [isLineTerminator, Bool.or_eq_true, beq_iff_eq] at hl
        rcases hl with rfl | rfl <;> cases h
  · decide
  · decide

theorem Describable.mem_dims {input : NodeArg} (h : Describable input) {c : Char}
    (hc : c ∈ joinedShape input.shape) : c ≠ ',' ∧ isLineTerminator c = false := by
  rcases mem_joinedShape hc with rfl | ⟨d, hd, hc⟩
  · decide
  · cases d with
    | fixed n => exact not_end_of_mem_decimal hc
    | named name => exact (h.dims_ok name hd).2 c hc
    | unnamed =>
      have hall : ∀ c ∈ "None".toList, c ≠ ',' ∧ isLineTerminator c = false := by
        simp [isLineTerminator]
      exact hall c hc

/-- **The scanner finds what the script has printed**, whatever the dimensions are. -/
theorem linearScan_printed : ∀ {inputs : List NodeArg}, (∀ i ∈ inputs, Describable i) →
    linearScan (printed inputs) = inputs.map record
  | [], _ => by
    rw [printed, List.flatMap_nil, linearScan, List.splitOnP_nil, List.flatMap_singleton,
      scanSegment_none rfl]
    rfl
  | input :: inputs, h => by
    obtain ⟨hinput, hinputs⟩ := List.forall_mem_cons.mp h
    have htext : printed (input :: inputs)
        = recordText input.name (joinedShape input.shape) "float32".toList
          ++ '\n' :: printed inputs := by
      simp [printed, line, recordText]
    have hn : ',' ∉ input.name := fun hc => (hinput.name_ok ',' hc).1 rfl
    have hd : ',' ∉ joinedShape input.shape := fun hc => (hinput.mem_dims hc).1 rfl
    have hline : ∀ c ∈ recordText input.name (joinedShape input.shape) "float32".toList,
        isLineTerminator c = false := by
      intro c hc
      simp only [recordText, List.mem_cons, List.mem_append] at hc
      rcases hc with rfl | hc | rfl | hc | rfl | hc
      · decide
      · exact (hinput.name_ok c hc).2
      · decide
      · exact (hinput.mem_dims hc).2
      · decide
      · rcases hc with hc | rfl | hc
        · have hall : ∀ c ∈ "float32".toList, isLineTerminator c = false := by
            simp [isLineTerminator]
          exact hall c hc
        · decide
        · cases hc
    rw [htext, linearScan_record hn hd (by decide) hline, linearScan_cons (by decide),
      linearScan_printed hinputs]
    rfl

/-! ## Inputs -/

/-- The entry of the vector that stands for the input. -/
def Describes (input : NodeArg) (info : MTensorInfo) : Prop :=
  ∃ ds, input.shape = fixedShape ds ∧
    info = { name := input.name, shape := ds.map Int32.toInt64, dtype := "float32".toList }

/-- The input is read. -/
def Read (input : NodeArg) : Prop :=
  ∃ info, (record input).tensor? = some info ∧ Describes input info

/-- An input of fixed dimensions comes back. -/
theorem read_of_fixed {input : NodeArg} {ds : List Int32} (h : input.shape = fixedShape ds) :
    Read input := by
  have htext : joinedShape input.shape = encodeShape ds := by
    rw [h, joinedShape, fixedShape, List.map_map]
    rfl
  have hdims : dims? (record input).dims = some ds := by
    show dims? (joinedShape input.shape) = some ds
    rw [htext]
    exact dims?_dimsText (dimsText_encodeShape ds)
  exact ⟨_, by rw [RawRecord.tensor?, hdims]; rfl, ds, h, rfl⟩

/-- The first dimension of the input that is not read is blamed. -/
def Blamed (input : NodeArg) : Prop :=
  ∃ ds d rest e out', input.shape = fixedShape ds ++ d :: rest ∧ d.Rejected e ∧
    parseShapeInfo (record input).dims [] = { retCode := -1, out := out', logged := [e] }

theorem read_or_blamed {input : NodeArg} (h : Describable input) : Read input ∨ Blamed input := by
  rcases parseShapeLoop_joinedShape (fun name hname => (h.dims_ok name hname).1) []
    with ⟨ds, hds, -⟩ | ⟨ds, d, rest, e, out', hsplit, hd, hloop⟩
  · exact .inl (read_of_fixed hds)
  · refine .inr ⟨ds, d, rest, e, out', hsplit, hd, ?_⟩
    show parseShapeInfo (joinedShape input.shape) [] = _
    rw [parseShapeInfo, hloop]

theorem Read.isSome {inputs : List NodeArg} (h : ∀ i ∈ inputs, Read i) :
    ∀ r ∈ inputs.map record, r.tensor?.isSome := by
  intro r hr
  obtain ⟨i, hi, rfl⟩ := List.mem_map.mp hr
  obtain ⟨info, hinfo, -⟩ := h i hi
  rw [hinfo]
  rfl

/-- The tensors of inputs that are all read. -/
theorem forall₂_describes : ∀ {inputs : List NodeArg},
    (∀ i ∈ inputs, Read i) → List.Forall₂ Describes inputs (readable (inputs.map record))
  | [], _ => .nil
  | i :: inputs, h => by
    obtain ⟨⟨info, htensor, hdescribes⟩, hinputs⟩ := List.forall_mem_cons.mp h
    rw [List.map_cons, readable, htensor]
    exact .cons hdescribes (forall₂_describes hinputs)

/--
**From the script to the parser.** If all dimensions of all inputs are fixed and in the range of
`int`, the parser makes of what the script has printed exactly these inputs. Otherwise there is a
first dimension that is open or too large: the inputs in front of the one with it are in the vector,
and the exception for this dimension is logged.
-/
theorem parseTensorInfo_printed (inputs : List NodeArg) (h : ∀ i ∈ inputs, Describable i)
    (old : List MTensorInfo) :
    (∃ ts, List.Forall₂ Describes inputs ts ∧ parseTensorInfo (printed inputs) old
      = { retCode := 0, out := old ++ ts, logged := [] }) ∨
    ∃ before input after ts ds d rest e, inputs = before ++ input :: after ∧
      List.Forall₂ Describes before ts ∧ input.shape = fixedShape ds ++ d :: rest ∧ d.Rejected e ∧
      parseTensorInfo (printed inputs) old
        = { retCode := -1, out := old ++ ts
            logged := [e, .runtimeError "parse_shape_info error"] } := by
  have hscan := linearScan_printed h
  rcases exists_first fun i hi => read_or_blamed (h i hi)
    with hall | ⟨before, input, after, hsplit, hbefore, ds, d, rest, e, out', hshape, hd, hparse⟩
  · refine .inl ⟨_, forall₂_describes hall, ?_⟩
    have hread := Read.isSome hall
    rw [← hscan] at hread ⊢
    exact parseTensorInfo_ok hread old
  · refine .inr ⟨before, input, after, _, ds, d, rest, e, hsplit, forall₂_describes hbefore, hshape,
      hd, ?_⟩
    rw [hsplit, List.map_append, List.map_cons] at hscan
    exact hsplit ▸ parseTensorInfo_stops hscan (Read.isSome hbefore) hparse old

/-- A model with an input of fixed dimensions, and one whose batch size is left open. -/
def openBatch : List NodeArg :=
  [{ name := "image".toList, shape := [.fixed 1, .fixed 3] },
    { name := "mask".toList, shape := [.named "batch".toList, .fixed 3] }]

theorem describable_openBatch : ∀ i ∈ openBatch, Describable i := by
  have hbatch : StartsNoNumber "batch".toList :=
    ⟨'b', "atch".toList, rfl, by decide, by decide, by decide, by decide⟩
  intro i hi
  rcases List.mem_cons.mp hi with rfl | hi
  · exact { name_ok := by simp [isLineTerminator], dims_ok := by simp }
  · obtain rfl := List.mem_singleton.mp hi
    refine { name_ok := by simp [isLineTerminator], dims_ok := fun name hname => ?_ }
    obtain rfl : name = "batch".toList := by simpa using hname
    exact ⟨hbatch, by simp [isLineTerminator]⟩

theorem parseTensorInfo_printed_openBatch :
    ∃ before input after ts ds d rest e, openBatch = before ++ input :: after ∧
      List.Forall₂ Describes before ts ∧ input.shape = fixedShape ds ++ d :: rest ∧ d.Rejected e ∧
      parseTensorInfo (printed openBatch) []
        = { retCode := -1, out := [] ++ ts
            logged := [e, .runtimeError "parse_shape_info error"] } := by
  refine (parseTensorInfo_printed openBatch describable_openBatch []).resolve_left ?_
  rintro ⟨ts, hts, -⟩
  cases hts with
  | cons _ hmask =>
    cases hmask with
    | cons hdescribes _ =>
      obtain ⟨ds, hds, -⟩ := hdescribes
      cases ds <;> simp [fixedShape] at hds

end UnifiedModelBenchmark.ReadInfo
