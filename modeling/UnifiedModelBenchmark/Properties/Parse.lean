import Mathlib.Data.List.Forall2
import UnifiedModelBenchmark.Properties.Scan

/-!
# What `parse_tensor_info` returns

The loops of the parser in terms of the scanner. `parse_shape_info` succeeds when every piece of
the dimension text can be read (`parseShapeInfo_some`), and `parse_tensor_info` appends the tensors
of the records that stand before the first one that cannot be read (`parseTensorInfo_out`). They
stay in the vector when it fails.
-/

namespace UnifiedModelBenchmark

open Infra Infra.Cxx Spec

/-! ## The tokens of `getline` are the pieces -/

theorem pieces_nil : pieces [] = [] := by
  simp [pieces]

/-- A token of `getline` is the first piece, and the others are those of what is left. -/
theorem pieces_getline {w token rest : Str} (h : getline 'x' w = some (token, rest)) :
    pieces w = token :: pieces rest := by
  cases w with
  | nil => simp at h
  | cons c t =>
    simp only [getline, Option.some.injEq] at h
    cases hcut : cut 'x' (c :: t) with
    | none =>
      rw [hcut] at h
      obtain ⟨rfl, rfl⟩ := Prod.mk.inj h
      have hmem : 'x' ∉ c :: t := cut_eq_none.mp hcut
      rw [pieces_nil, pieces]
      simp only [List.splitOn_eq_singleton hmem]
      simp
    | some x =>
      rw [hcut, Option.getD_some] at h
      subst h
      obtain ⟨hs, hmem⟩ := cut_eq_some hcut
      have hsplit : (c :: t).splitOn 'x' = token :: rest.splitOn 'x' := by
        rw [hs, List.splitOn_append_cons_self_of_not_mem hmem]
      -- `rest` has a piece, so the last piece of the text is the last one of `rest`
      have hne : rest.splitOn 'x' ≠ [] := List.splitOn_ne_nil 'x' rest
      obtain ⟨p, ps, hps⟩ := List.exists_cons_of_ne_nil hne
      simp only [pieces, hsplit, hps, List.getLast?_cons_cons, List.dropLast_cons_cons]
      split <;> rfl

/-! ## `parse_shape_info` -/

theorem dims?_nil : dims? [] = some [] := by
  rw [dims?, pieces_nil]
  rfl

theorem dims?_getline {w token rest : Str} (h : getline 'x' w = some (token, rest)) :
    dims? w = (stoi token).toOption.bind fun n => (dims? rest).map (n :: ·) := by
  rw [dims?, pieces_getline h, List.mapM_cons, dims?]
  cases (stoi token).toOption with
  | none => rfl
  | some n => cases (pieces rest).mapM fun p => (stoi p).toOption <;> rfl

theorem getline_eq_none {w : Str} (h : getline 'x' w = none) : w = [] := by
  cases w with
  | nil => rfl
  | cons c t => simp [getline] at h

/-- The loop pushes the dimensions that can be read, and ends in an exception if one cannot. -/
theorem parseShapeLoop_eq (w : Str) (out : List Int64) :
    (∀ ds, dims? w = some ds → parseShapeLoop w out = (out ++ ds.map Int32.toInt64, none)) ∧
      (dims? w = none → ∃ out' e, parseShapeLoop w out = (out', some e)) := by
  induction w, out using parseShapeLoop.induct with
  | case1 w out hget =>
    have hw : w = [] := getline_eq_none hget
    subst hw
    refine ⟨fun ds hds => ?_, fun hnone => ?_⟩
    · rw [dims?_nil] at hds
      obtain rfl := Option.some.inj hds
      rw [parseShapeLoop]
      simp
    · rw [dims?_nil] at hnone
      simp at hnone
  | case2 w out token rest hget e hstoi =>
    have hdims : dims? w = none := by rw [dims?_getline hget, hstoi]; rfl
    have hloop : parseShapeLoop w out = (out, some e) := by
      rw [parseShapeLoop]
      split
      · next hnone => rw [hnone] at hget; simp at hget
      · next token' rest' hget' =>
        rw [hget] at hget'
        obtain ⟨rfl, rfl⟩ := Prod.mk.inj (Option.some.inj hget')
        rw [hstoi]
    exact ⟨fun ds hds => by rw [hdims] at hds; simp at hds, fun _ => ⟨out, e, hloop⟩⟩
  | case3 w out token rest hget number hstoi ih =>
    have hdims : dims? w = (dims? rest).map (number :: ·) := by
      rw [dims?_getline hget, hstoi]; rfl
    have hloop : parseShapeLoop w out = parseShapeLoop rest (out ++ [number.toInt64]) := by
      rw [parseShapeLoop]
      split
      · next hnone => rw [hnone] at hget; simp at hget
      · next token' rest' hget' =>
        rw [hget] at hget'
        obtain ⟨rfl, rfl⟩ := Prod.mk.inj (Option.some.inj hget')
        rw [hstoi]
    rw [hdims, hloop]
    refine ⟨fun ds hds => ?_, fun hnone => ih.2 (Option.map_eq_none_iff.mp hnone)⟩
    obtain ⟨ds', hds', rfl⟩ := Option.map_eq_some_iff.mp hds
    rw [ih.1 ds' hds']
    simp

/-- `parse_shape_info` on a text whose pieces can all be read. -/
theorem parseShapeInfo_some {w : Str} {ds : List Int32} (h : dims? w = some ds)
    (out : List Int64) :
    parseShapeInfo w out = { retCode := 0, out := out ++ ds.map Int32.toInt64, logged := [] } := by
  rw [parseShapeInfo, (parseShapeLoop_eq w out).1 ds h]

/-- `parse_shape_info` on any other text fails and logs the exception. -/
theorem parseShapeInfo_none {w : Str} (h : dims? w = none) (out : List Int64) :
    ∃ out' e, parseShapeInfo w out = { retCode := -1, out := out', logged := [e] } := by
  obtain ⟨out', e, hloop⟩ := (parseShapeLoop_eq w out).2 h
  exact ⟨out', e, by rw [parseShapeInfo, hloop]⟩

/-! ## Readable dimensions -/

theorem isSome_mapM {α β : Type} (f : α → Option β) : ∀ l : List α,
    (l.mapM f).isSome ↔ ∀ a ∈ l, (f a).isSome
  | [] => by simp
  | a :: l => by
    rw [List.mapM_cons, List.forall_mem_cons, ← isSome_mapM f l]
    cases f a <;> cases l.mapM f <;> simp

theorem isSome_stoi (p : Str) : (stoi p).toOption.isSome ↔ DimPiece p := by
  constructor
  · intro h
    cases hp : stoi p with
    | error e => rw [hp] at h; simp [Except.toOption] at h
    | ok n => exact ⟨n.toInt, stoi_eq_ok.mp hp, n.le_toInt, n.toInt_lt⟩
  · rintro ⟨i, hi, hlo, hhi⟩
    have hp : stoi p = .ok (Int32.ofInt i) := by
      rw [stoi_eq_ok, Int32.toInt_ofInt_of_le hlo hhi]
      exact hi
    rw [hp]
    rfl

theorem isSome_dims? (w : Str) : (dims? w).isSome ↔ ∀ p ∈ pieces w, DimPiece p := by
  rw [dims?, isSome_mapM]
  exact forall₂_congr fun p _ => isSome_stoi p

theorem isSome_tensor? (r : RawRecord) :
    r.tensor?.isSome ↔ ∀ p ∈ pieces r.dims, DimPiece p := by
  rw [RawRecord.tensor?, Option.isSome_map, isSome_dims?]

/-! ## `parse_tensor_info` -/

/-- **The loop over the matches**: the tensors before the first unreadable record are appended. -/
theorem parseTensorLoop_eq : ∀ (ms : List (Match Char)) (rs : List RawRecord),
    ms.map Match.groups = rs.map RawRecord.fields → ∀ out : List MTensorInfo,
    ((∀ r ∈ rs, r.tensor?.isSome) →
      parseTensorLoop ms out = (out ++ readable rs, [], false)) ∧
    (¬ (∀ r ∈ rs, r.tensor?.isSome) →
      ∃ e, parseTensorLoop ms out = (out ++ readable rs, [e], true))
  | [], [], _, out => by simp [parseTensorLoop, readable]
  | [], _ :: _, h, _ => by simp at h
  | _ :: _, [], h, _ => by simp at h
  | m :: ms, r :: rs, h, out => by
    simp only [List.map_cons, List.cons.injEq] at h
    obtain ⟨hm, hms⟩ := h
    have hname : m.groups.getD 0 [] = r.name := by rw [hm]; rfl
    have hdims : m.groups.getD 1 [] = r.dims := by rw [hm]; rfl
    have hdtype : m.groups.getD 2 [] = r.dtype := by rw [hm]; rfl
    simp only [parseTensorLoop, hname, hdims, hdtype, List.forall_mem_cons]
    cases hd : dims? r.dims with
    | none =>
      -- the loop ends here, without the tensor of this record
      obtain ⟨out', e, hshape⟩ := parseShapeInfo_none hd []
      have ht : r.tensor? = none := by rw [RawRecord.tensor?, hd]; rfl
      rw [hshape]
      simp [readable, ht]
    | some ds =>
      have ht : r.tensor? = some
          { name := r.name, shape := ds.map Int32.toInt64, dtype := r.dtype } := by
        rw [RawRecord.tensor?, hd]; rfl
      obtain ⟨hok, hbad⟩ := parseTensorLoop_eq ms rs hms
        (out ++ [{ name := r.name, shape := ds.map Int32.toInt64, dtype := r.dtype }])
      rw [parseShapeInfo_some hd]
      simp only [readable, ht, Option.isSome_some, true_and, ne_eq, not_true_eq_false, if_false,
        List.nil_append]
      refine ⟨fun hall => ?_, fun hnot => ?_⟩
      · rw [hok hall]; simp
      · obtain ⟨e, he⟩ := hbad hnot
        exact ⟨e, by rw [he]; simp⟩

/-- The parser on a text whose records can all be read. -/
theorem parseTensorInfo_ok {s : Str} (h : ∀ r ∈ linearScan s, r.tensor?.isSome)
    (old : List MTensorInfo) :
    parseTensorInfo s old
      = { retCode := 0, out := old ++ readable (linearScan s), logged := [] } := by
  rw [parseTensorInfo, (parseTensorLoop_eq _ _ (allMatches_fields s) old).1 h]

/-- The parser on any other text: the exception of the dimension is logged, then its own. -/
theorem parseTensorInfo_error {s : Str} (h : ¬ ∀ r ∈ linearScan s, r.tensor?.isSome)
    (old : List MTensorInfo) : ∃ e, parseTensorInfo s old
      = { retCode := -1, out := old ++ readable (linearScan s)
          logged := [e, .runtimeError "parse_shape_info error"] } := by
  obtain ⟨e, he⟩ := (parseTensorLoop_eq _ _ (allMatches_fields s) old).2 h
  exact ⟨e, by rw [parseTensorInfo, he]; rfl⟩

/-- **What the parser leaves in the vector**, whatever it returns. -/
theorem parseTensorInfo_out (s : Str) (old : List MTensorInfo) :
    (parseTensorInfo s old).out = old ++ readable (linearScan s) := by
  by_cases h : ∀ r ∈ linearScan s, r.tensor?.isSome
  · rw [parseTensorInfo_ok h]
  · obtain ⟨e, he⟩ := parseTensorInfo_error h old
    rw [he]

/-- **When the parser returns 0.** -/
theorem parseTensorInfo_retCode (s : Str) (old : List MTensorInfo) :
    (parseTensorInfo s old).retCode = 0 ↔ ∀ r ∈ linearScan s, r.tensor?.isSome := by
  constructor
  · intro h
    by_contra hnot
    obtain ⟨e, he⟩ := parseTensorInfo_error hnot old
    rw [he] at h
    simp at h
  · intro h
    rw [parseTensorInfo_ok h]

/-- The same in terms of the dimension texts. -/
theorem parseTensorInfo_retCode_pieces (s : Str) (old : List MTensorInfo) :
    (parseTensorInfo s old).retCode = 0 ↔
      ∀ r ∈ linearScan s, ∀ p ∈ pieces r.dims, DimPiece p := by
  rw [parseTensorInfo_retCode]
  exact forall₂_congr fun r _ => isSome_tensor? r

/-- If all records can be read, each of them gives one tensor. -/
theorem forall₂_readable : ∀ {rs : List RawRecord}, (∀ r ∈ rs, r.tensor?.isSome) →
    List.Forall₂ (fun r t => r.tensor? = some t) rs (readable rs)
  | [], _ => .nil
  | r :: rs, h => by
    obtain ⟨hr, hrs⟩ := List.forall_mem_cons.mp h
    obtain ⟨t, ht⟩ := Option.isSome_iff_exists.mp hr
    simp only [readable, ht]
    exact .cons ht (forall₂_readable hrs)

/--
**The parser is the linear scanner followed by the reading of the dimensions.**

The groups of the matches are the fields of the scanned records. The code is 0 exactly if every
piece of every dimension text starts with an integer in the range of `int`, and then each record
has appended one tensor.
-/
theorem parseTensorInfo_scans (s : Str) (old : List MTensorInfo) :
    (pattern.allMatches s).map Match.groups = (linearScan s).map RawRecord.fields ∧
      ((parseTensorInfo s old).retCode = 0 ↔
        ∀ r ∈ linearScan s, ∀ p ∈ pieces r.dims, DimPiece p) ∧
      ((parseTensorInfo s old).retCode = 0 → ∃ ts,
        (parseTensorInfo s old).out = old ++ ts ∧
          List.Forall₂ (fun r t => r.tensor? = some t) (linearScan s) ts) := by
  refine ⟨allMatches_fields s, parseTensorInfo_retCode_pieces s old, fun h => ?_⟩
  refine ⟨readable (linearScan s), ?_, ?_⟩
  · exact parseTensorInfo_out s old
  · exact forall₂_readable ((parseTensorInfo_retCode s old).mp h)

/-! ## Failure -/

/-- If a record cannot be read, there is a first one. -/
theorem exists_first_unreadable : ∀ {rs : List RawRecord}, ¬ (∀ r ∈ rs, r.tensor?.isSome) →
    ∃ before r after, rs = before ++ r :: after ∧ (∀ b ∈ before, b.tensor?.isSome) ∧
      r.tensor? = none ∧ readable rs = readable before
  | [], h => absurd (by simp) h
  | r :: rs, h => by
    cases hr : r.tensor? with
    | none => exact ⟨[], r, rs, rfl, by simp, hr, by simp [readable, hr]⟩
    | some t =>
      have hrs : ¬ ∀ b ∈ rs, b.tensor?.isSome := by
        intro hall
        exact h (List.forall_mem_cons.mpr ⟨by rw [hr]; rfl, hall⟩)
      obtain ⟨before, r', after, rfl, hbefore, hr', hread⟩ := exists_first_unreadable hrs
      refine ⟨r :: before, r', after, rfl, ?_, hr', ?_⟩
      · exact List.forall_mem_cons.mpr ⟨by rw [hr]; rfl, hbefore⟩
      · simp only [readable, hr, hread]

/--
**What a failure leaves behind**: the vector as it was, and the tensors of the records in front of
the first one that cannot be read. Nothing is left of that record or of those behind it, so the
vector is as it was exactly if the first record is the bad one.
-/
theorem parseTensorInfo_failed (s : Str) (old : List MTensorInfo)
    (h : (parseTensorInfo s old).retCode ≠ 0) :
    ∃ before r after ts, linearScan s = before ++ r :: after ∧
      (∃ p ∈ pieces r.dims, ¬ DimPiece p) ∧
      List.Forall₂ (fun b t => b.tensor? = some t) before ts ∧
      (parseTensorInfo s old).out = old ++ ts ∧
      ((parseTensorInfo s old).out = old ↔ before = []) := by
  rw [ne_eq, parseTensorInfo_retCode] at h
  obtain ⟨before, r, after, hscan, hbefore, hr, hread⟩ := exists_first_unreadable h
  have hpiece : ∃ p ∈ pieces r.dims, ¬ DimPiece p := by
    have hnot : ¬ ∀ p ∈ pieces r.dims, DimPiece p := by
      rw [← isSome_tensor?, hr]
      simp
    simpa only [not_forall, exists_prop] using hnot
  have htensors := forall₂_readable hbefore
  refine ⟨before, r, after, readable before, hscan, hpiece, htensors, ?_, ?_⟩
  · rw [parseTensorInfo_out, hread]
  · rw [parseTensorInfo_out, hread, List.append_right_eq_self, ← List.length_eq_zero_iff,
      ← htensors.length_eq, List.length_eq_zero_iff]

/-- A good record in front of a bad one. -/
theorem parseTensorInfo_failed_second :
    ∃ before r after ts, linearScan "[a,1,f],[b,x,f]".toList = before ++ r :: after ∧
      (∃ p ∈ pieces r.dims, ¬ DimPiece p) ∧
      List.Forall₂ (fun b t => b.tensor? = some t) before ts ∧
      (parseTensorInfo "[a,1,f],[b,x,f]".toList []).out = [] ++ ts ∧
      ((parseTensorInfo "[a,1,f],[b,x,f]".toList []).out = [] ↔ before = []) :=
  parseTensorInfo_failed "[a,1,f],[b,x,f]".toList [] (by decide +kernel)

/-- The failure leaves the first record in the vector. -/
theorem parseTensorInfo_failed_not :
    (parseTensorInfo "[a,1,f],[b,x,f]".toList []).retCode ≠ 0 ∧
      (parseTensorInfo "[a,1,f],[b,x,f]".toList []).out ≠ [] := by
  constructor <;> decide +kernel

end UnifiedModelBenchmark
