import Mathlib.Data.List.Forall2
import UnifiedModelBenchmark.Spec.InputInfo
import UnifiedModelBenchmark.Properties.Parse

/-!
# The parser on the documented format

A text in the format is scanned into the records it is made of (`linearScan_inputInfo`), and the
dimensions of these are read exactly (`dims?_dimsText`), so the parser returns the tensors of the
text (`parseTensorInfo_inputInfo`). The round trip is the special case of a text that the encoder
printed.

The converse does not hold: the search skips what is not a record, and `stoi` ignores what
follows the digits of a dimension.
-/

namespace UnifiedModelBenchmark

open Infra Infra.Cxx Spec

/-! ## Scanning -/

/-- A symbol that is not `[` does not start a record. -/
theorem scanSegment_cons {c : Char} (hc : c ≠ '[') (s : Str) :
    scanSegment (c :: s) = scanSegment s := by
  have hscan : scanOne (c :: s) = scanOne s := by
    simp only [scanOne, cut, if_neg hc]
    cases cut '[' s <;> rfl
  cases hs : scanOne s with
  | none => rw [scanSegment_none hs, scanSegment_none (hscan.trans hs)]
  | some x => rw [scanSegment_some hs, scanSegment_some (hscan.trans hs)]

theorem linearScan_cons {c : Char} (hc : c ≠ '[') (s : Str) :
    linearScan (c :: s) = linearScan s := by
  obtain ⟨seg, segs, hsegs⟩ := List.exists_cons_of_ne_nil (List.splitOnP_ne_nil isLineTerminator s)
  rw [linearScan, linearScan, List.splitOnP_cons_eq_if_modifyHead, hsegs]
  split
  · -- a line terminator only adds an empty line
    rw [List.flatMap_cons, scanSegment_none rfl, List.nil_append]
  · rw [List.modifyHead_cons, List.flatMap_cons, List.flatMap_cons, scanSegment_cons hc]

theorem linearScan_separator (sep : Separator) (s : Str) :
    linearScan (sep.text ++ s) = linearScan s := by
  obtain ⟨w, hw⟩ := sep
  show linearScan (w ++ s) = linearScan s
  induction w with
  | nil => rfl
  | cons c w ih =>
    have hc : c ≠ '[' := by
      rintro rfl
      exact Bool.noConfusion (hw '[' List.mem_cons_self)
    rw [List.cons_append, linearScan_cons hc]
    exact ih fun x hx => hw x (List.mem_cons_of_mem _ hx)

theorem splitOnP_append {p : Char → Bool} : ∀ {w : Str}, (∀ c ∈ w, p c = false) → ∀ s : Str,
    (w ++ s).splitOnP p = (s.splitOnP p).modifyHead (w ++ ·)
  | [], _, s => by
    obtain ⟨seg, segs, hsegs⟩ := List.exists_cons_of_ne_nil (List.splitOnP_ne_nil p s)
    rw [List.nil_append, hsegs]; rfl
  | c :: w, hw, s => by
    obtain ⟨seg, segs, hsegs⟩ := List.exists_cons_of_ne_nil (List.splitOnP_ne_nil p s)
    rw [List.cons_append, List.splitOnP_cons_eq_if_modifyHead,
      splitOnP_append (fun x hx => hw x (List.mem_cons_of_mem _ hx)) s, hsegs,
      hw c List.mem_cons_self]
    rfl

/-- A record at the front of a line is scanned, whatever brackets its name contains. -/
theorem scanSegment_record {name dims dtype : Str} (hn : ',' ∉ name) (hd : ',' ∉ dims)
    (ht : ']' ∉ dtype) (s : Str) :
    scanSegment (recordText name dims dtype ++ s) = { name, dims, dtype } :: scanSegment s := by
  have hscan : scanOne (recordText name dims dtype ++ s) = some ({ name, dims, dtype }, s) := by
    simp only [recordText, scanOne, readFields, List.cons_append, List.append_assoc, cut, if_true,
      Option.bind_some, cut_append_cons hn, cut_append_cons hd, List.nil_append,
      cut_append_cons ht, Option.map_some]
  exact scanSegment_some hscan

theorem linearScan_record {name dims dtype : Str} (hn : ',' ∉ name) (hd : ',' ∉ dims)
    (ht : ']' ∉ dtype) (hline : ∀ c ∈ recordText name dims dtype, isLineTerminator c = false)
    (s : Str) :
    linearScan (recordText name dims dtype ++ s) = { name, dims, dtype } :: linearScan s := by
  obtain ⟨seg, segs, hsegs⟩ := List.exists_cons_of_ne_nil (List.splitOnP_ne_nil isLineTerminator s)
  rw [linearScan, linearScan, splitOnP_append hline, hsegs, List.modifyHead_cons,
    List.flatMap_cons, List.flatMap_cons, scanSegment_record hn hd ht, List.cons_append]

/-! ## Dimension texts -/

/-- A dimension text consists of digits, signs and `x`. -/
theorem mem_dimsText {w : Str} {ds : List Int32} (h : DimsText w ds) {c : Char} (hc : c ∈ w) :
    c.isDigit = true ∨ c = '+' ∨ c = '-' ∨ c = 'x' := by
  obtain ⟨ws, rfl, hws⟩ := h
  induction hws with
  | nil => simp at hc
  | @cons p d ps ds hp hps ih =>
    cases ps with
    | nil =>
      rw [List.intercalate_singleton] at hc
      rcases mem_intText hp hc with h | h | h <;> simp [h]
    | cons q qs =>
      rw [List.intercalate_cons_cons] at hc
      simp only [List.mem_append, List.mem_singleton] at hc
      rcases hc with (hc | hc) | hc
      · rcases mem_intText hp hc with h | h | h <;> simp [h]
      · simp [hc]
      · exact ih hc

theorem not_mem_dimsText {w : Str} {ds : List Int32} (h : DimsText w ds) {c : Char}
    (hc : c.isDigit = false) (hne : c ≠ '+' ∧ c ≠ '-' ∧ c ≠ 'x') : c ∉ w := by
  intro hmem
  rcases mem_dimsText h hmem with h | h | h | h
  · rw [hc] at h; exact Bool.noConfusion h
  · exact hne.1 h
  · exact hne.2.1 h
  · exact hne.2.2 h

theorem intText_ne_nil {w : Str} {i : Int} (h : IntText w i) : w ≠ [] := by
  obtain ⟨c, t, rfl, -⟩ := isSpace_intText_head h
  exact List.cons_ne_nil c t

/-- The pieces of a dimension text are the texts that were joined. -/
theorem pieces_intercalate {ws : List Str} (hx : ∀ p ∈ ws, 'x' ∉ p) (hne : ∀ p ∈ ws, p ≠ []) :
    pieces (['x'].intercalate ws) = ws := by
  cases ws with
  | nil => exact pieces_nil
  | cons p ps =>
    have hsplit := List.splitOn_intercalate 'x' hx (List.cons_ne_nil p ps)
    have hlast : (p :: ps).getLast? ≠ some [] := by
      intro h
      exact hne [] (List.mem_of_getLast? h) rfl
    simp only [pieces, hsplit, if_neg hlast]

theorem mapM_stoi {ws : List Str} {ds : List Int32}
    (h : List.Forall₂ (fun p d => IntText p d.toInt) ws ds) :
    (ws.mapM fun p => (stoi p).toOption) = some ds := by
  induction h with
  | nil => rfl
  | cons hp _ ih =>
    rw [List.mapM_cons, stoi_eq_ok.mpr hp.intPrefix, ih]
    rfl

/-- **A dimension text is read exactly.** -/
theorem dims?_dimsText {w : Str} {ds : List Int32} (h : DimsText w ds) : dims? w = some ds := by
  obtain ⟨ws, rfl, hws⟩ := h
  have hmem : ∀ p ∈ ws, ∃ i, IntText p i := by
    induction hws with
    | nil => simp
    | cons hp _ ih => exact List.forall_mem_cons.mpr ⟨⟨_, hp⟩, ih⟩
  rw [dims?, pieces_intercalate, mapM_stoi hws]
  · intro p hp hx
    obtain ⟨i, hi⟩ := hmem p hp
    rcases mem_intText hi hx with h | h | h <;> simp at h
  · intro p hp
    obtain ⟨i, hi⟩ := hmem p hp
    exact intText_ne_nil hi

/-! ## Texts in the format -/

theorem isLineTerminator_record {t : Tensor} {dims : Str} (hd : DimsText dims t.shape) :
    ∀ c ∈ recordText t.name dims t.dtype, isLineTerminator c = false := by
  intro c hc
  simp only [recordText, List.mem_cons, List.mem_append, List.not_mem_nil, or_false] at hc
  rcases hc with rfl | hc | rfl | hc | rfl | hc | rfl
  · decide
  · exact (t.name_ok c hc).2
  · decide
  · rcases mem_dimsText hd hc with h | rfl | rfl | rfl
    · cases hl : isLineTerminator c with
      | false => rfl
      | true =>
        simp only [isLineTerminator, Bool.or_eq_true, beq_iff_eq] at hl
        rcases hl with rfl | rfl <;> simp at h
    · decide
    · decide
    · decide
  · decide
  · exact (t.dtype_ok c hc).2
  · decide

/-- **The scanner finds the records a text in the format is made of.** -/
theorem linearScan_inputInfo {s : Str} {ts : List Tensor} (h : InputInfo s ts) :
    List.Forall₂ (fun r t => r.name = t.name ∧ DimsText r.dims t.shape ∧ r.dtype = t.dtype)
      (linearScan s) ts := by
  induction h with
  | nil sep =>
    have hnil := linearScan_separator sep []
    rw [List.append_nil] at hnil
    rw [hnil, linearScan, List.splitOnP_nil, List.flatMap_singleton, scanSegment_none rfl]
    exact .nil
  | @cons sep t dims s ts hdims _ ih =>
    have hn : ',' ∉ t.name := fun hc => (t.name_ok ',' hc).1 rfl
    have hd : ',' ∉ dims := not_mem_dimsText hdims (by decide) (by decide)
    have ht : ']' ∉ t.dtype := fun hc => (t.dtype_ok ']' hc).1 rfl
    rw [List.append_assoc, linearScan_separator,
      linearScan_record hn hd ht (isLineTerminator_record hdims)]
    exact .cons ⟨rfl, hdims, rfl⟩ ih

/-- The records of a text in the format can all be read, and give its tensors. -/
theorem readable_inputInfo {s : Str} {ts : List Tensor} (h : InputInfo s ts) :
    (∀ r ∈ linearScan s, r.tensor?.isSome) ∧ readable (linearScan s) = ts.map Tensor.info := by
  have htensor : List.Forall₂ (fun (r : RawRecord) t => r.tensor? = some (Tensor.info t))
      (linearScan s) ts := by
    refine (linearScan_inputInfo h).imp fun r t hrt => ?_
    obtain ⟨hn, hd, ht⟩ := hrt
    rw [RawRecord.tensor?, dims?_dimsText hd, hn, ht]
    rfl
  clear h
  generalize linearScan s = rs at htensor ⊢
  induction htensor with
  | nil => exact ⟨by simp, rfl⟩
  | cons ht _ ih =>
    refine ⟨List.forall_mem_cons.mpr ⟨by rw [ht]; rfl, ih.1⟩, ?_⟩
    rw [readable, ht, List.map_cons, ← ih.2]

/-- **The parser returns the tensors of a text in the format**, in order, behind what the vector
held before. -/
theorem parseTensorInfo_inputInfo {s : Str} {ts : List Tensor} (h : InputInfo s ts)
    (old : List MTensorInfo) :
    parseTensorInfo s old = { retCode := 0, out := old ++ ts.map Tensor.info, logged := [] } := by
  obtain ⟨hread, htensors⟩ := readable_inputInfo h
  rw [parseTensorInfo_ok hread, htensors]

/-! ## The round trip -/

/-- **Decoding undoes encoding**, for any separators and behind any earlier entries. -/
theorem parseTensorInfo_encode (sep : Separator) (items : List (Tensor × Separator))
    (old : List MTensorInfo) :
    parseTensorInfo (encode sep items) old
      = { retCode := 0, out := old ++ items.map fun x => x.1.info, logged := [] } := by
  rw [parseTensorInfo_inputInfo (inputInfo_encode sep items), List.map_map]
  rfl

/-! ## Acceptance -/

/-- A text in the format without a record is a separator. -/
theorem isSep_of_no_bracket {s : Str} {ts : List Tensor} (h : InputInfo s ts) (hb : '[' ∉ s) :
    ∀ c ∈ s, isSep c = true := by
  cases h with
  | nil sep => exact sep.ok
  | cons sep t hdims h => exact absurd (by simp [recordText]) hb

/-- The dimension texts of a text in the format have nothing but digits, signs and `x`. -/
theorem mem_dims_of_inputInfo {s : Str} {ts : List Tensor} (h : InputInfo s ts) {r : RawRecord}
    (hr : r ∈ linearScan s) {c : Char} (hc : c ∈ r.dims) :
    c.isDigit = true ∨ c = '+' ∨ c = '-' ∨ c = 'x' := by
  have hscan := linearScan_inputInfo h
  clear h
  generalize linearScan s = rs at hscan hr
  induction hscan with
  | nil => simp at hr
  | cons ht _ ih =>
    rcases List.mem_cons.mp hr with rfl | hr
    · exact mem_dimsText ht.2.1 hc
    · exact ih hr

/--
**What the parser accepts.**

Every text in the format is accepted with its tensors. In general a text is accepted if the
dimensions of the records in it start with integers in the range of `int`; what is not a record
is skipped, and what follows the integer in a piece is ignored. So the parser rejects exactly
the texts outside the format when the text has a dimension that does not start with an integer.
-/
theorem parseTensorInfo_accepts (s : Str) :
    (∀ ts, InputInfo s ts →
      parseTensorInfo s [] = { retCode := 0, out := ts.map Tensor.info, logged := [] }) ∧
    ((parseTensorInfo s []).retCode = 0 ↔
      ∀ r ∈ linearScan s, ∀ p ∈ pieces r.dims, DimPiece p) ∧
    ((parseTensorInfo s []).retCode = 0 →
      List.Forall₂ (fun r t => r.tensor? = some t) (linearScan s) (parseTensorInfo s []).out) ∧
    (((parseTensorInfo s []).retCode = 0 ↔ ∃ ts, InputInfo s ts) ↔
      ((∃ ts, InputInfo s ts) ∨ ∃ r ∈ linearScan s, ∃ p ∈ pieces r.dims, ¬ DimPiece p)) := by
  have hformat : ∀ ts, InputInfo s ts →
      parseTensorInfo s [] = { retCode := 0, out := ts.map Tensor.info, logged := [] } :=
    fun ts h => parseTensorInfo_inputInfo h []
  have hcode : (parseTensorInfo s []).retCode = 0 ↔
      ∀ r ∈ linearScan s, ∀ p ∈ pieces r.dims, DimPiece p := parseTensorInfo_retCode_pieces s []
  refine ⟨hformat, hcode, fun h => ?_, ?_⟩
  · rw [parseTensorInfo_out]
    exact forall₂_readable ((parseTensorInfo_retCode s []).mp h)
  · have hret : (∃ ts, InputInfo s ts) → (parseTensorInfo s []).retCode = 0 := by
      rintro ⟨ts, h⟩
      rw [hformat ts h]
    have hbad : (∃ r ∈ linearScan s, ∃ p ∈ pieces r.dims, ¬ DimPiece p) ↔
        ¬ (parseTensorInfo s []).retCode = 0 := by
      rw [hcode]
      push Not
      rfl
    -- what is left is propositional: a text in the format has code 0, a bad dimension another code
    rw [hbad]
    tauto

/--
Three texts outside the format that the parser accepts: no record at all, a dimension cut at its
first non-digit, and two records merged because a bracket is missing.
-/
theorem parseTensorInfo_accepts_undocumented :
    ((parseTensorInfo "input".toList []).retCode = 0 ∧ ¬ ∃ ts, InputInfo "input".toList ts) ∧
    (parseTensorInfo "[a,2.5,f]".toList []
        = { retCode := 0, out := [{ name := ['a'], shape := [2], dtype := ['f'] }], logged := [] } ∧
      ¬ ∃ ts, InputInfo "[a,2.5,f]".toList ts) ∧
    (parseTensorInfo "[a,1x3[b,2,f]".toList []
        = { retCode := 0
            out := [{ name := ['a'], shape := [1, 3], dtype := ['2', ',', 'f'] }]
            logged := [] } ∧
      ¬ ∃ ts, InputInfo "[a,1x3[b,2,f]".toList ts) := by
  refine ⟨⟨by decide +kernel, ?_⟩, ⟨by decide +kernel, ?_⟩, ⟨by decide +kernel, ?_⟩⟩
  · rintro ⟨ts, h⟩
    exact absurd (isSep_of_no_bracket h (by decide) 'i' (by decide)) (by decide)
  · rintro ⟨ts, h⟩
    have hr : { name := ['a'], dims := "2.5".toList, dtype := ['f'] }
        ∈ linearScan "[a,2.5,f]".toList := by decide +kernel
    exact absurd (mem_dims_of_inputInfo h hr (c := '.') (by decide)) (by decide)
  · rintro ⟨ts, h⟩
    have hr : { name := ['a'], dims := "1x3[b".toList, dtype := "2,f".toList }
        ∈ linearScan "[a,1x3[b,2,f]".toList := by decide +kernel
    exact absurd (mem_dims_of_inputInfo h hr (c := '[') (by decide)) (by decide)

end UnifiedModelBenchmark
