import Mathlib.Data.Set.List
import UnifiedModelBenchmark.Properties.InputInfo

/-!
# Texts that the parser does not tell apart

The parser accepts much that is not in the documented format. What it makes of a text can be printed
again, one record to a line, and this text is in the format and stands for the same tensors
(`parseTensorInfo_canonical`).

A record does not go beyond its line, so a text of several lines is parsed line by line
(`parseTensorInfo_lines`).
-/

namespace UnifiedModelBenchmark

open Infra Infra.Cxx Spec

/-! ## Printing -/

/-- The record of an entry of the vector. -/
def Spec.printInfo (info : MTensorInfo) : Str :=
  recordText info.name (['x'].intercalate (info.shape.map fun d => decimal d.toInt)) info.dtype

/-- What the parser makes of the text, one record to a line. -/
def Spec.canonical (s : Str) : Str :=
  (parseTensorInfo s []).out.flatMap fun info => printInfo info ++ ['\n']

def lineBreak : Separator := { text := ['\n'], ok := by simp [isSep, isLineTerminator] }

/-- A tensor is printed as its entry is. -/
theorem printInfo_info (t : Tensor) : printInfo t.info = encodeTensor t := by
  have hdims : t.info.shape.map (fun d => decimal d.toInt)
      = t.shape.map fun d => decimal d.toInt := by
    simp [Tensor.info]
  rw [printInfo, hdims]
  rfl

/-! ## What is scanned is in the format -/

/-- The stretches between the line terminators have none. -/
theorem not_isLineTerminator_of_mem {s seg : Str} (h : seg ∈ s.splitOnP isLineTerminator) :
    ∀ c ∈ seg, isLineTerminator c = false := by
  obtain ⟨line, tail, hs, hline, htail⟩ := exists_line s
  have hnot : ∀ c ∈ line, isLineTerminator c = false := fun c hc => by
    simpa [dot_eq] using hline c hc
  rw [hs] at h
  cases tail with
  | nil =>
    rw [List.append_nil, List.splitOnP_eq_singleton hnot, List.mem_singleton] at h
    rw [h]
    exact hnot
  | cons c t =>
    have hc : isLineTerminator c = true := by simpa [dot_eq] using htail c rfl
    rw [List.splitOnP_append_cons_of_forall_mem hnot c hc] at h
    rcases List.mem_cons.mp h with rfl | h
    · exact hnot
    · exact not_isLineTerminator_of_mem h
termination_by s.length
decreasing_by
  rw [hs]
  simp only [List.length_append, List.length_cons]
  omega

/-- The fields of a record are parts of the line, and do not contain what ends them. -/
theorem mem_scanSegment {seg : Str} {r : RawRecord} (h : r ∈ scanSegment seg) :
    (∀ c ∈ r.name, c ≠ ',' ∧ c ∈ seg) ∧ ∀ c ∈ r.dtype, c ≠ ']' ∧ c ∈ seg := by
  induction seg using scanSegment.induct with
  | case1 seg hnone =>
    rw [scanSegment_none hnone] at h
    cases h
  | case2 seg first rest hsome ih =>
    rw [scanSegment_some hsome] at h
    obtain ⟨pre, t, rfl, -, ht⟩ := scanOne_eq_some hsome
    obtain ⟨rfl, hname, -, hdtype⟩ := readFields_eq_some ht
    rcases List.mem_cons.mp h with rfl | h
    · refine ⟨fun c hc => ⟨fun hcomma => hname (hcomma ▸ hc), ?_⟩,
        fun c hc => ⟨fun hbracket => hdtype (hbracket ▸ hc), ?_⟩⟩
      · simp [hc]
      · simp [hc]
    · obtain ⟨ihname, ihdtype⟩ := ih h
      refine ⟨fun c hc => ⟨(ihname c hc).1, ?_⟩, fun c hc => ⟨(ihdtype c hc).1, ?_⟩⟩
      · simp [(ihname c hc).2]
      · simp [(ihdtype c hc).2]

/-- **What the parser makes of a record is a tensor of the format.** -/
theorem exists_tensor {s : Str} {r : RawRecord} {info : MTensorInfo} (h : r ∈ linearScan s)
    (hr : r.tensor? = some info) : ∃ t : Tensor, t.info = info := by
  obtain ⟨seg, hseg, hmem⟩ := List.mem_flatMap.mp h
  obtain ⟨hname, hdtype⟩ := mem_scanSegment hmem
  have hline := not_isLineTerminator_of_mem hseg
  obtain ⟨ds, -, rfl⟩ := Option.map_eq_some_iff.mp hr
  exact ⟨{ name := r.name, shape := ds, dtype := r.dtype
           name_ok := fun c hc => ⟨(hname c hc).1, hline c (hname c hc).2⟩
           dtype_ok := fun c hc => ⟨(hdtype c hc).1, hline c (hdtype c hc).2⟩ }, rfl⟩

/-- A tensor that the scanner has read is that of one of the records. -/
theorem exists_record_of_mem_readable {rs : List RawRecord} {info : MTensorInfo}
    (h : info ∈ readable rs) : ∃ r ∈ rs, r.tensor? = some info := by
  induction rs with
  | nil => cases h
  | cons r rs ih =>
    rw [readable] at h
    cases hr : r.tensor? with
    | none =>
      rw [hr] at h
      cases h
    | some t =>
      rw [hr] at h
      rcases List.mem_cons.mp h with rfl | h
      · exact ⟨r, List.mem_cons_self .., hr⟩
      · obtain ⟨r', hmem, hr'⟩ := ih h
        exact ⟨r', List.mem_cons_of_mem r hmem, hr'⟩

theorem exists_tensors (s : Str) :
    ∃ ts : List Tensor, ts.map Tensor.info = (parseTensorInfo s []).out := by
  have hall : (parseTensorInfo s []).out ∈ Set.range (List.map Tensor.info) := by
    rw [Set.range_list_map, parseTensorInfo_out]
    intro info hinfo
    obtain ⟨r, hmem, hr⟩ := exists_record_of_mem_readable hinfo
    exact exists_tensor hmem hr
  exact hall

/-! ## Canonical texts -/

/-- The canonical text is what the encoder prints for the tensors, with line breaks. -/
theorem canonical_eq_encode {s : Str} {ts : List Tensor}
    (h : ts.map Tensor.info = (parseTensorInfo s []).out) :
    canonical s = encode { text := [], ok := by simp } (ts.map fun t => (t, lineBreak)) := by
  rw [canonical, ← h, encode, List.nil_append, List.flatMap_map, List.flatMap_map]
  exact List.flatMap_congr fun t _ => by rw [printInfo_info]; rfl

/--
**Every text has a canonical one.** It is in the documented format, the parser accepts it, and makes
of it what it makes of the text, also where it rejects the text. Two texts have the same canonical
text exactly if the parser makes the same of them.
-/
theorem parseTensorInfo_canonical (s : Str) (old : List MTensorInfo) :
    (∃ ts, InputInfo (canonical s) ts) ∧
    parseTensorInfo (canonical s) old
      = { retCode := 0, out := (parseTensorInfo s old).out, logged := [] } ∧
    ∀ t, canonical t = canonical s ↔ (parseTensorInfo t old).out = (parseTensorInfo s old).out := by
  have hout : ∀ s : Str, (parseTensorInfo s old).out = old ++ (parseTensorInfo s []).out := by
    intro s
    rw [parseTensorInfo_out, parseTensorInfo_out, List.nil_append]
  have hparse : ∀ s : Str, (∃ ts, InputInfo (canonical s) ts) ∧ parseTensorInfo (canonical s) old
      = { retCode := 0, out := (parseTensorInfo s old).out, logged := [] } := by
    intro s
    obtain ⟨ts, hts⟩ := exists_tensors s
    have hformat := inputInfo_encode { text := [], ok := by simp } (ts.map fun t => (t, lineBreak))
    rw [← canonical_eq_encode hts] at hformat
    refine ⟨⟨_, hformat⟩, ?_⟩
    rw [parseTensorInfo_inputInfo hformat, hout, ← hts, List.map_map, List.map_map]
    rfl
  refine ⟨(hparse s).1, (hparse s).2, fun t => ⟨fun h => ?_, fun h => ?_⟩⟩
  · have ht := (hparse t).2
    rw [h, (hparse s).2] at ht
    exact (congrArg ParseResult.out ht).symm
  · rw [hout, hout] at h
    rw [canonical, canonical, List.append_cancel_left h]

/-! ## Lines -/

/-- The parser called for one line after the other, until it fails. -/
def Spec.parseLines : List Str → List MTensorInfo → ParseResult MTensorInfo
  | [], outputTensorInfo => { retCode := 0, out := outputTensorInfo, logged := [] }
  | line :: lines, outputTensorInfo =>
    let res := parseTensorInfo line outputTensorInfo
    if res.retCode = 0 then parseLines lines res.out else res

/-- The loop looks at nothing but the groups of the matches. -/
theorem parseTensorLoop_congr : ∀ {ms ms' : List (Match Char)},
    ms.map Match.groups = ms'.map Match.groups → ∀ out : List MTensorInfo,
    parseTensorLoop ms out = parseTensorLoop ms' out
  | [], [], _, _ => rfl
  | [], _ :: _, h, _ => by simp at h
  | _ :: _, [], h, _ => by simp at h
  | m :: ms, m' :: ms', h, out => by
    rw [List.map_cons, List.map_cons] at h
    obtain ⟨hm, hms⟩ := List.cons.inj h
    simp only [parseTensorLoop, hm, parseTensorLoop_congr hms]

/-- The loop over further matches goes on if it has not been ended. -/
theorem parseTensorLoop_append (ms' : List (Match Char)) : ∀ (ms : List (Match Char))
    (out : List MTensorInfo), parseTensorLoop (ms ++ ms') out
      = if (parseTensorLoop ms out).2.2 then parseTensorLoop ms out
        else parseTensorLoop ms' (parseTensorLoop ms out).1
  | [], _ => rfl
  | m :: ms, out => by
    simp only [List.cons_append, parseTensorLoop]
    split
    · rfl
    · exact parseTensorLoop_append ms' ms _

theorem linearScan_append {c : Char} (hc : isLineTerminator c = true) (s t : Str) :
    linearScan (s ++ c :: t) = linearScan s ++ linearScan t := by
  rw [linearScan, List.splitOnP_append_cons s t hc, List.flatMap_append]
  rfl

/-- The parser goes on behind a line terminator if it has not failed in front of it. -/
theorem parseTensorInfo_append {c : Char} (hc : isLineTerminator c = true) (s t : Str)
    (old : List MTensorInfo) : parseTensorInfo (s ++ c :: t) old
      = if (parseTensorInfo s old).retCode = 0 then parseTensorInfo t (parseTensorInfo s old).out
        else parseTensorInfo s old := by
  have hgroups : (pattern.allMatches (s ++ c :: t)).map Match.groups
      = (pattern.allMatches s ++ pattern.allMatches t).map Match.groups := by
    rw [allMatches_fields, linearScan_append hc, List.map_append, List.map_append,
      allMatches_fields, allMatches_fields]
  have hloop := parseTensorLoop_append (pattern.allMatches t) (pattern.allMatches s) old
  rw [← parseTensorLoop_congr hgroups] at hloop
  rcases hs : parseTensorLoop (pattern.allMatches s) old with ⟨out, logged, stopped⟩
  rw [hs] at hloop
  cases stopped with
  | false =>
    have hfirst : parseTensorInfo s old = { retCode := 0, out := out, logged := [] } := by
      rw [parseTensorInfo, hs]
    rw [hfirst, if_pos rfl, parseTensorInfo, hloop]
    rfl
  | true =>
    have hfirst : parseTensorInfo s old
        = { retCode := -1, out := out
            logged := logged ++ [.runtimeError "parse_shape_info error"] } := by
      rw [parseTensorInfo, hs]
    have hcode : (-1 : Int64) ≠ 0 := by decide
    rw [hfirst, if_neg hcode, parseTensorInfo, hloop]
    rfl

/--
**A text is parsed line by line.** The parser treats it as if it were called for each line, with the
vector that the lines before have left, until one fails. A record that is spread over two lines is
not found.
-/
theorem parseTensorInfo_lines (lines : List Str) (old : List MTensorInfo) :
    parseTensorInfo (['\n'].intercalate lines) old = parseLines lines old := by
  have hnil : ∀ old : List MTensorInfo,
      parseTensorInfo [] old = { retCode := 0, out := old, logged := [] } := fun _ => rfl
  induction lines generalizing old with
  | nil => exact hnil old
  | cons line lines ih =>
    rw [parseLines]
    cases lines with
    | nil =>
      rw [List.intercalate_singleton, parseLines]
      by_cases h : ∀ r ∈ linearScan line, r.tensor?.isSome
      · rw [parseTensorInfo_ok h]
        rfl
      · obtain ⟨e, he⟩ := parseTensorInfo_error h old
        rw [he]
        rfl
    | cons next lines =>
      have htext : ['\n'].intercalate (line :: next :: lines)
          = line ++ '\n' :: ['\n'].intercalate (next :: lines) := by
        rw [List.intercalate_cons_cons, List.append_assoc, List.singleton_append]
      rw [htext, parseTensorInfo_append (by decide), ih]

end UnifiedModelBenchmark
