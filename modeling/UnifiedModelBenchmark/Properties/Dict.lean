import UnifiedModelBenchmark.Properties.InputInfo

/-!
# The tensor dictionary

Two facts about the dictionary that a driver builds from the flag.

* The order of the records does not matter: a first-match search over entries with distinct names
  finds the same entry in every order (`find?_info`).
* The `int` view of a shape and the `int64_t` view never disagree. Nothing at the cast checks this;
  it holds because every dimension in the vector was an `int` before it was widened, whatever the
  parser returned (`shape_of_mem_readable`).
-/

namespace UnifiedModelBenchmark

open Infra Infra.Cxx Spec

/-! ## First match -/

/-- A listed tensor is found under its name. -/
theorem find?_info {ts : List Tensor} (hnd : (ts.map Tensor.name).Nodup) {t : Tensor}
    (ht : t ∈ ts) :
    (ts.map Tensor.info).find? (fun info => info.name == t.name) = some t.info := by
  induction ts with
  | nil => simp at ht
  | cons u us ih =>
    rw [List.map_cons, List.nodup_cons] at hnd
    rw [List.map_cons, List.find?_cons]
    rcases List.mem_cons.mp ht with rfl | ht
    · simp [Tensor.info]
    · -- the names are distinct, so the search passes the entry in front
      have hne : u.name ≠ t.name := fun he => hnd.1 (he ▸ List.mem_map_of_mem ht)
      have hfalse : (u.info.name == t.name) = false := by simpa [Tensor.info] using hne
      rw [hfalse]
      exact ih hnd.2 ht

/-- No entry is found under a name that is not listed. -/
theorem find?_info_none {ts : List Tensor} {name : Str} (h : ∀ t ∈ ts, name ≠ t.name) :
    (ts.map Tensor.info).find? (fun info => info.name == name) = none := by
  rw [List.find?_eq_none]
  intro info hinfo
  obtain ⟨t, ht, rfl⟩ := List.mem_map.mp hinfo
  simpa [Tensor.info] using (h t ht).symm

/-! ## Queries -/

theorem toInt32_map_toInt64 (ds : List Int32) : convertShapePd2ncnn (ds.map Int32.toInt64) = ds := by
  simp [convertShapePd2ncnn, Function.comp_def]

/-- The dictionary of a text in the format. -/
theorem ofFlag_inputInfo {s : Str} {ts : List Tensor} (h : InputInfo s ts) :
    MTensorDict.ofFlag s = { inputsInfo := ts.map Tensor.info } := by
  rw [MTensorDict.ofFlag, parseTensorInfo_inputInfo h]
  rfl

/-- A listed tensor is given with its dimensions. -/
theorem query_listed {s : Str} {ts : List Tensor} (h : InputInfo s ts)
    (hnd : (ts.map Tensor.name).Nodup) {t : Tensor} (ht : t ∈ ts) :
    (MTensorDict.ofFlag s).queryPdShapeInfo t.name = t.shape.map Int32.toInt64 ∧
      (MTensorDict.ofFlag s).queryNcnnShapeInfo t.name = t.shape := by
  rw [ofFlag_inputInfo h, MTensorDict.queryPdShapeInfo, MTensorDict.queryNcnnShapeInfo,
    find?_info hnd ht]
  exact ⟨rfl, toInt32_map_toInt64 t.shape⟩

/-- Any other name is given with the empty vector. -/
theorem query_unlisted {s : Str} {ts : List Tensor} (h : InputInfo s ts) {name : Str}
    (hname : ∀ t ∈ ts, name ≠ t.name) :
    (MTensorDict.ofFlag s).queryPdShapeInfo name = [] ∧
      (MTensorDict.ofFlag s).queryNcnnShapeInfo name = [] := by
  rw [ofFlag_inputInfo h, MTensorDict.queryPdShapeInfo, MTensorDict.queryNcnnShapeInfo,
    find?_info_none hname]
  exact ⟨rfl, rfl⟩

/--
**The order of the records is irrelevant.**

Two lists of records that are permutations of each other, with distinct names, give dictionaries
that answer every query alike: the dimensions of a listed tensor, and the empty vector otherwise.
-/
theorem query_perm {sep sep' : Separator} {items items' : List (Tensor × Separator)}
    (hperm : (items.map Prod.fst).Perm (items'.map Prod.fst))
    (hnd : ((items.map Prod.fst).map Tensor.name).Nodup) (name : Str) :
    ((MTensorDict.ofFlag (encode sep items)).queryPdShapeInfo name
        = (MTensorDict.ofFlag (encode sep' items')).queryPdShapeInfo name ∧
      (MTensorDict.ofFlag (encode sep items)).queryNcnnShapeInfo name
        = (MTensorDict.ofFlag (encode sep' items')).queryNcnnShapeInfo name) ∧
    (∀ t ∈ items.map Prod.fst, name = t.name →
      (MTensorDict.ofFlag (encode sep items)).queryPdShapeInfo name
          = t.shape.map Int32.toInt64 ∧
        (MTensorDict.ofFlag (encode sep items)).queryNcnnShapeInfo name = t.shape) ∧
    ((∀ t ∈ items.map Prod.fst, name ≠ t.name) →
      (MTensorDict.ofFlag (encode sep items)).queryPdShapeInfo name = [] ∧
        (MTensorDict.ofFlag (encode sep items)).queryNcnnShapeInfo name = []) := by
  have h := inputInfo_encode sep items
  have h' := inputInfo_encode sep' items'
  have hnd' : ((items'.map Prod.fst).map Tensor.name).Nodup :=
    (hperm.map Tensor.name).nodup_iff.mp hnd
  refine ⟨?_, ?_, query_unlisted h⟩
  · by_cases hex : ∃ t ∈ items.map Prod.fst, name = t.name
    · obtain ⟨t, ht, rfl⟩ := hex
      obtain ⟨hpd, hncnn⟩ := query_listed h hnd ht
      obtain ⟨hpd', hncnn'⟩ := query_listed h' hnd' (hperm.mem_iff.mp ht)
      exact ⟨hpd.trans hpd'.symm, hncnn.trans hncnn'.symm⟩
    · have hnot : ∀ t ∈ items.map Prod.fst, name ≠ t.name := fun t ht he => hex ⟨t, ht, he⟩
      obtain ⟨hpd, hncnn⟩ := query_unlisted h hnot
      obtain ⟨hpd', hncnn'⟩ := query_unlisted h' fun t ht => hnot t (hperm.mem_iff.mpr ht)
      exact ⟨hpd.trans hpd'.symm, hncnn.trans hncnn'.symm⟩
  · rintro t ht rfl
    exact query_listed h hnd ht

/-- The two records of the documentation, in both orders. -/
theorem query_perm_two :
    let sep : Separator := { text := [','], ok := by simp [isSep] }
    let input1 : Tensor :=
      { name := "input1".toList, shape := [1, 3, 128, 128], dtype := "float32".toList
        name_ok := by simp [isLineTerminator], dtype_ok := by simp [isLineTerminator] }
    let input2 : Tensor :=
      { name := "input2".toList, shape := [1, 4, 56, 56], dtype := "float32".toList
        name_ok := by simp [isLineTerminator], dtype_ok := by simp [isLineTerminator] }
    (MTensorDict.ofFlag (encode sep [(input1, sep), (input2, sep)])).queryNcnnShapeInfo
        "input2".toList
      = (MTensorDict.ofFlag (encode sep [(input2, sep), (input1, sep)])).queryNcnnShapeInfo
        "input2".toList := by
  intro sep input1 input2
  exact (@query_perm sep sep [(input1, sep), (input2, sep)] [(input2, sep), (input1, sep)]
    (.swap _ _ _) (by decide) _).1.2

/-! ## The two views of a shape -/

/-- **Every dimension in the vector is in the range of `int`**, whatever the parser returned. -/
theorem shape_of_mem_readable {rs : List RawRecord} {t : MTensorInfo} (h : t ∈ readable rs) :
    ∃ ds : List Int32, t.shape = ds.map Int32.toInt64 := by
  induction rs with
  | nil => simp [readable] at h
  | cons r rs ih =>
    rw [readable] at h
    split at h
    · simp at h
    · next u hu =>
      rcases List.mem_cons.mp h with rfl | h
      · obtain ⟨ds, -, rfl⟩ := Option.map_eq_some_iff.mp hu
        exact ⟨ds, rfl⟩
      · exact ih h

theorem shapeProduction_map (ds : List Int32) :
    shapeProduction (ds.map Int32.toInt64) = shapeProductionInt ds := by
  rw [shapeProduction, shapeProductionInt, List.foldl_map]

/--
**The narrowed and the wide view of a shape never disagree**, for every flag and every name.

`Int64` multiplication wraps, so the equation of the products is the one modulo `2 ^ 64`.
-/
theorem queryNcnn_agrees_queryPd (s name : Str) :
    ((MTensorDict.ofFlag s).queryNcnnShapeInfo name).length
        = ((MTensorDict.ofFlag s).queryPdShapeInfo name).length ∧
      ((MTensorDict.ofFlag s).queryNcnnShapeInfo name).map Int32.toInt
        = ((MTensorDict.ofFlag s).queryPdShapeInfo name).map Int64.toInt ∧
      shapeProductionInt ((MTensorDict.ofFlag s).queryNcnnShapeInfo name)
        = shapeProduction ((MTensorDict.ofFlag s).queryPdShapeInfo name) := by
  rw [MTensorDict.queryNcnnShapeInfo, MTensorDict.queryPdShapeInfo]
  cases hfind : (MTensorDict.ofFlag s).inputsInfo.find? (fun info => info.name == name) with
  | none => exact ⟨rfl, rfl, rfl⟩
  | some info =>
    have hmem : info ∈ readable (linearScan s) := by
      have h := List.mem_of_find?_eq_some hfind
      rwa [MTensorDict.ofFlag, parseTensorInfo_out, List.nil_append] at h
    obtain ⟨ds, hds⟩ := shape_of_mem_readable hmem
    simp only [hds, toInt32_map_toInt64]
    refine ⟨?_, ?_, (shapeProduction_map ds).symm⟩
    · rw [List.length_map]
    · rw [List.map_map]
      exact List.map_congr_left fun d _ => (Int32.toInt_toInt64 d).symm

end UnifiedModelBenchmark
