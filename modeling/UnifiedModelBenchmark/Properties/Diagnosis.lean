import UnifiedModelBenchmark.Properties.Parse

/-!
# What the parser says about a text it rejects

`stoi` has two exceptions, and the text of the piece decides which of them is thrown
(`stoi_eq_error`). Both loops stop at the first piece that cannot be read. `parse_shape_info` keeps
the dimensions in front of it (`parseShapeInfo_reads`), `parse_tensor_info` drops them and keeps the
tensors of the records in front of that one (`parseTensorInfo_diagnoses`).
-/

namespace UnifiedModelBenchmark

open Infra Infra.Cxx Spec

/-- A piece that is not read as a dimension, with the exception for it. -/
inductive Spec.Unreadable (p : Str) : StdException → Prop
  | noInteger (h : ∀ i, ¬ IntPrefix p i) : Unreadable p .invalidArgument
  | outsideInt {i : Int} (h : IntPrefix p i) (hi : ¬ (-2 ^ 31 ≤ i ∧ i < 2 ^ 31)) :
      Unreadable p .outOfRange

/-- **What `stoi` throws.** -/
theorem stoi_eq_error {p : Str} {e : StdException} : stoi p = .error e ↔ Unreadable p e := by
  unfold stoi
  cases hp : strtol p with
  | none =>
    have hnone : ∀ i, ¬ IntPrefix p i := by
      intro i hi
      rw [strtol_eq_some.mpr hi] at hp
      cases hp
    constructor
    · intro h
      obtain rfl : StdException.invalidArgument = e := Except.error.inj h
      exact .noInteger hnone
    · rintro (_ | ⟨hi, -⟩)
      · rfl
      · exact absurd hi (hnone _)
  | some i =>
    have hi : IntPrefix p i := strtol_eq_some.mp hp
    dsimp only
    by_cases hrange : -2 ^ 31 ≤ i ∧ i < 2 ^ 31
    · rw [if_pos hrange]
      refine iff_of_false nofun ?_
      rintro (hnone | ⟨hj, hout⟩)
      · exact hnone i hi
      · rw [strtol_eq_some.mpr hj] at hp
        obtain rfl := Option.some.inj hp
        exact hout hrange
    · rw [if_neg hrange]
      constructor
      · intro h
        obtain rfl : StdException.outOfRange = e := Except.error.inj h
        exact .outsideInt hi hrange
      · rintro (hnone | -)
        · exact absurd hi (hnone i)
        · rfl

/-! ## `parse_shape_info` -/

/-- A token that is not read ends the loop. -/
theorem parseShapeLoop_error {w token rest : Str} {e : StdException}
    (hget : getline 'x' w = some (token, rest)) (h : stoi token = .error e) (out : List Int64) :
    parseShapeLoop w out = (out, some e) := by
  rw [parseShapeLoop]
  split
  · next hnone =>
    rw [hnone] at hget
    cases hget
  · next token' rest' hget' =>
    obtain ⟨rfl, rfl⟩ := Prod.mk.inj (Option.some.inj (hget.symm.trans hget'))
    rw [h]

theorem parseShapeLoop_ok {w token rest : Str} {number : Int32}
    (hget : getline 'x' w = some (token, rest)) (h : stoi token = .ok number) (out : List Int64) :
    parseShapeLoop w out = parseShapeLoop rest (out ++ [number.toInt64]) := by
  rw [parseShapeLoop]
  split
  · next hnone =>
    rw [hnone] at hget
    cases hget
  · next token' rest' hget' =>
    obtain ⟨rfl, rfl⟩ := Prod.mk.inj (Option.some.inj (hget.symm.trans hget'))
    rw [h]

/-- These pieces are read as these dimensions. -/
def ReadAs (ps : List Str) (ds : List Int32) : Prop :=
  List.Forall₂ (fun p d => IntPrefix p d.toInt) ps ds

/-- The pieces up to the first one that cannot be read, which is `p`. -/
structure StopsAt (ps read : List Str) (p : Str) (e : StdException) : Prop where
  split : ∃ rest, ps = read ++ p :: rest
  readable : ∀ q ∈ read, DimPiece q
  unreadable : Unreadable p e

/-- The loop over the tokens: it reads all pieces, or those in front of one that cannot be read. -/
theorem parseShapeLoop_reads (w : Str) (out : List Int64) :
    (∃ ds, ReadAs (pieces w) ds ∧
      parseShapeLoop w out = (out ++ ds.map Int32.toInt64, none)) ∨
    ∃ read p e ds, StopsAt (pieces w) read p e ∧ ReadAs read ds ∧
      parseShapeLoop w out = (out ++ ds.map Int32.toInt64, some e) := by
  induction w, out using parseShapeLoop.induct with
  | case1 w out hget =>
    obtain rfl : w = [] := getline_eq_none hget
    refine .inl ⟨[], ?_, ?_⟩
    · rw [pieces_nil]
      exact .nil
    · rw [parseShapeLoop]
      simp
  | case2 w out token rest hget e hstoi =>
    have hstops : StopsAt (pieces w) [] token e :=
      ⟨⟨pieces rest, pieces_getline hget⟩, by simp, stoi_eq_error.mp hstoi⟩
    refine .inr ⟨[], token, e, [], hstops, .nil, ?_⟩
    rw [parseShapeLoop_error hget hstoi]
    simp
  | case3 w out token rest hget number hstoi ih =>
    have hprefix : IntPrefix token number.toInt := stoi_eq_ok.mp hstoi
    rw [parseShapeLoop_ok hget hstoi, pieces_getline hget]
    rcases ih with ⟨ds, hds, hrest⟩ | ⟨read, p, e, ds, ⟨⟨after, hsplit⟩, hread, hp⟩, hds, hrest⟩
    · refine .inl ⟨number :: ds, .cons hprefix hds, ?_⟩
      rw [hrest]
      simp
    · have hstops : StopsAt (token :: pieces rest) (token :: read) p e := by
        refine ⟨⟨after, by rw [hsplit, List.cons_append]⟩, ?_, hp⟩
        exact List.forall_mem_cons.mpr ⟨⟨_, hprefix, number.le_toInt, number.toInt_lt⟩, hread⟩
      refine .inr ⟨token :: read, p, e, number :: ds, hstops, .cons hprefix hds, ?_⟩
      rw [hrest]
      simp

/--
**What `parse_shape_info` does to the vector.** It appends the dimensions of all pieces and returns
0, or it appends those in front of the first piece that cannot be read, logs the exception for that
piece, and returns -1.
-/
theorem parseShapeInfo_reads (w : Str) (out : List Int64) :
    (∃ ds, ReadAs (pieces w) ds ∧ parseShapeInfo w out
      = { retCode := 0, out := out ++ ds.map Int32.toInt64, logged := [] }) ∨
    ∃ read p e ds, StopsAt (pieces w) read p e ∧ ReadAs read ds ∧ parseShapeInfo w out
      = { retCode := -1, out := out ++ ds.map Int32.toInt64, logged := [e] } := by
  rcases parseShapeLoop_reads w out with ⟨ds, hds, h⟩ | ⟨read, p, e, ds, hstops, hds, h⟩
  · exact .inl ⟨ds, hds, by rw [parseShapeInfo, h]⟩
  · exact .inr ⟨read, p, e, ds, hstops, hds, by rw [parseShapeInfo, h]⟩

/-- The third piece is not read. -/
example : parseShapeInfo "1x3xax4".toList [7]
    = { retCode := -1, out := [7, 1, 3], logged := [.invalidArgument] } := by decide +kernel

/-! ## `parse_tensor_info` -/

/-- The exception that is logged for a record that cannot be read. -/
theorem parseShapeInfo_stops {w : Str} (h : dims? w = none) :
    ∃ read p e out', StopsAt (pieces w) read p e ∧
      parseShapeInfo w [] = { retCode := -1, out := out', logged := [e] } := by
  rcases parseShapeLoop_reads w [] with ⟨ds, hds, hloop⟩ | ⟨read, p, e, ds, hstops, -, hloop⟩
  · obtain ⟨out', e, hnone⟩ := (parseShapeLoop_eq w []).2 h
    rw [hnone] at hloop
    cases hloop
  · exact ⟨read, p, e, _, hstops, by rw [parseShapeInfo, hloop]⟩

/-- A match ends the loop if its groups are the fields of a record that cannot be read. -/
theorem parseTensorLoop_stop {m : Match Char} {r : RawRecord} {out' : List Int64}
    {e : StdException} (hm : m.groups = r.fields)
    (h : parseShapeInfo r.dims [] = { retCode := -1, out := out', logged := [e] })
    (ms : List (Match Char)) (out : List MTensorInfo) :
    parseTensorLoop (m :: ms) out = (out, [e], true) := by
  have hdims : m.groups.getD 1 [] = r.dims := by rw [hm]; rfl
  simp only [parseTensorLoop, hdims, h]
  rfl

theorem parseTensorLoop_next {m : Match Char} {r : RawRecord} {t : MTensorInfo}
    (hm : m.groups = r.fields) (h : r.tensor? = some t) (ms : List (Match Char))
    (out : List MTensorInfo) :
    parseTensorLoop (m :: ms) out = parseTensorLoop ms (out ++ [t]) := by
  have hname : m.groups.getD 0 [] = r.name := by rw [hm]; rfl
  have hdims : m.groups.getD 1 [] = r.dims := by rw [hm]; rfl
  have hdtype : m.groups.getD 2 [] = r.dtype := by rw [hm]; rfl
  obtain ⟨ds, hds, rfl⟩ := Option.map_eq_some_iff.mp h
  simp only [parseTensorLoop, hname, hdims, hdtype, parseShapeInfo_some hds]
  rfl

/-- The loop over the matches up to the first record that cannot be read. -/
theorem parseTensorLoop_stops {r : RawRecord} {after : List RawRecord} {out' : List Int64}
    {e : StdException}
    (hr : parseShapeInfo r.dims [] = { retCode := -1, out := out', logged := [e] }) :
    ∀ {before : List RawRecord} {ms : List (Match Char)},
    ms.map Match.groups = (before ++ r :: after).map RawRecord.fields →
    (∀ b ∈ before, b.tensor?.isSome) → ∀ out : List MTensorInfo,
    parseTensorLoop ms out = (out ++ readable before, [e], true)
  | [], [], h, _, _ => by simp at h
  | [], m :: ms, h, _, out => by
    rw [List.nil_append, List.map_cons, List.map_cons] at h
    rw [parseTensorLoop_stop (List.cons.inj h).1 hr, readable, List.append_nil]
  | b :: before, [], h, _, _ => by simp at h
  | b :: before, m :: ms, h, hall, out => by
    rw [List.cons_append, List.map_cons, List.map_cons] at h
    obtain ⟨hm, hms⟩ := List.cons.inj h
    obtain ⟨hb, hbefore⟩ := List.forall_mem_cons.mp hall
    obtain ⟨t, ht⟩ := Option.isSome_iff_exists.mp hb
    rw [parseTensorLoop_next hm ht, parseTensorLoop_stops hr hms hbefore, readable, ht,
      List.append_assoc, List.singleton_append]

/-- The parser on a text with this first record that cannot be read. -/
theorem parseTensorInfo_stops {s : Str} {before after : List RawRecord} {r : RawRecord}
    {out' : List Int64} {e : StdException} (hscan : linearScan s = before ++ r :: after)
    (hbefore : ∀ b ∈ before, b.tensor?.isSome)
    (hr : parseShapeInfo r.dims [] = { retCode := -1, out := out', logged := [e] })
    (old : List MTensorInfo) : parseTensorInfo s old
      = { retCode := -1, out := old ++ readable before
          logged := [e, .runtimeError "parse_shape_info error"] } := by
  have hgroups := allMatches_fields s
  rw [hscan] at hgroups
  rw [parseTensorInfo, parseTensorLoop_stops hr hgroups hbefore]
  rfl

/--
**The parser blames the first piece that it cannot read.** It logs nothing if there is none.
Otherwise it logs the exception for that piece and then its own, and keeps the tensors of the
records in front of the one with the piece.
-/
theorem parseTensorInfo_diagnoses (s : Str) (old : List MTensorInfo) :
    ((∀ r ∈ linearScan s, ∀ p ∈ pieces r.dims, DimPiece p) ∧ parseTensorInfo s old
      = { retCode := 0, out := old ++ readable (linearScan s), logged := [] }) ∨
    ∃ before r after read p e, linearScan s = before ++ r :: after ∧
      (∀ b ∈ before, ∀ q ∈ pieces b.dims, DimPiece q) ∧ StopsAt (pieces r.dims) read p e ∧
      parseTensorInfo s old
        = { retCode := -1, out := old ++ readable before
            logged := [e, .runtimeError "parse_shape_info error"] } := by
  by_cases h : ∀ r ∈ linearScan s, r.tensor?.isSome
  · exact .inl ⟨fun r hr => (isSome_tensor? r).mp (h r hr), parseTensorInfo_ok h old⟩
  · obtain ⟨before, r, after, hscan, hbefore, hr, -⟩ := exists_first_unreadable h
    obtain ⟨read, p, e, out', hstops, hshape⟩ := parseShapeInfo_stops (Option.map_eq_none_iff.mp hr)
    exact .inr ⟨before, r, after, read, p, e, hscan,
      fun b hb => (isSome_tensor? b).mp (hbefore b hb), hstops,
      parseTensorInfo_stops hscan hbefore hshape old⟩

/-- The second record has a dimension that is too large, the third one is not looked at. -/
example : parseTensorInfo "[a,1,f][b,2x4294967296,f][c,x,f]".toList []
    = { retCode := -1, out := [{ name := ['a'], shape := [1], dtype := ['f'] }]
        logged := [.outOfRange, .runtimeError "parse_shape_info error"] } := by decide +kernel

end UnifiedModelBenchmark
