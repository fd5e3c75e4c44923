import UnifiedModelBenchmark.Properties.PaddleLite

/-!
# How the preparation of the Paddle-Lite driver ends

The loop takes one entry of the dictionary for each name, from the first one on, and writes the
shape and the memory of the first tensor each time. So it stops at the first name for which there is
no entry in its place, or whose shape has a negative number of elements (`stopAt`). If there is no
such name, the first tensor is left as the last name wants it (`prepareInputs_eq`).
-/

namespace UnifiedModelBenchmark.PaddleLite

open Infra Infra.Cxx

variable {mutableData : Tensor → List UInt8} {inputTensorsInfo : MTensorDict}

/-! ## One iteration -/

/-- Why the loop stops at this name, if it does. The entry is read before the memory is written. -/
def stopAt (inputTensorsInfo : MTensorDict) (input : Str × Nat) : Option Stop :=
  if inputTensorsInfo.inputsInfo.length ≤ input.2 then some .undefinedRead
  else if elements (inputTensorsInfo.queryPdShapeInfo input.1) < 0 then some .undefinedWrite
  else none

theorem prepareInput_no_entry (st : State) (name : Str) {k : Nat}
    (hinfo : inputTensorsInfo.inputsInfo[k]? = none) :
    prepareInput mutableData inputTensorsInfo st (name, k) = .error .undefinedRead := by
  unfold prepareInput
  rw [hinfo]
  split
  · next h => cases h
  · rfl

section

variable {all : List Str} (hmem : Allocates mutableData inputTensorsInfo all)
  (hrange : ∀ name ∈ all, -2 ^ 61 ≤ elements (inputTensorsInfo.queryPdShapeInfo name))
include hmem hrange

/-- An iteration either stops, or prepares the first tensor. -/
theorem prepareInput_cases {name : Str} (hname : name ∈ all) (k : Nat) (first : Tensor)
    (rest : List Tensor) (log : List Line) :
    (∃ stop, stopAt inputTensorsInfo (name, k) = some stop ∧
      prepareInput mutableData inputTensorsInfo { tensors := first :: rest, log } (name, k)
        = .error stop) ∨
    ∃ hk : k < inputTensorsInfo.inputsInfo.length, stopAt inputTensorsInfo (name, k) = none ∧
      prepareInput mutableData inputTensorsInfo { tensors := first :: rest, log } (name, k)
        = .ok { tensors := preparedTensor inputTensorsInfo name :: rest
                log := log ++ preparedLines inputTensorsInfo
                  (name, inputTensorsInfo.inputsInfo[k]) } := by
  unfold stopAt
  dsimp only
  by_cases hk : inputTensorsInfo.inputsInfo.length ≤ k
  · rw [if_pos hk]
    exact .inl ⟨_, rfl, prepareInput_no_entry _ _ (List.getElem?_eq_none hk)⟩
  · have hentry := List.getElem?_eq_getElem (Nat.lt_of_not_le hk)
    rw [if_neg hk]
    by_cases hneg : elements (inputTensorsInfo.queryPdShapeInfo name) < 0
    · rw [if_pos hneg]
      exact .inl ⟨_, rfl, prepareInput_negative hmem hname hentry hneg (hrange name hname) ..⟩
    · rw [if_neg hneg]
      exact .inr ⟨Nat.lt_of_not_le hk, rfl,
        prepareInput_ok hmem hname hentry (Int.not_lt.mp hneg) ..⟩

/-! ## The loop -/

/-- The loop from any of the names on. -/
theorem prepareLoop_eq (rest : List Tensor) : ∀ (names : List Str) (k : Nat) (first : Tensor)
    (log : List Line), (∀ name ∈ names, name ∈ all) →
    (names.zipIdx k).foldlM (prepareInput mutableData inputTensorsInfo)
        { tensors := first :: rest, log }
      = match (names.zipIdx k).findSome? (stopAt inputTensorsInfo) with
        | some stop => .error stop
        | none =>
          .ok { tensors := (names.map (preparedTensor inputTensorsInfo)).getLastD first :: rest
                log := log ++ (names.zip (inputTensorsInfo.inputsInfo.drop k)).flatMap
                  (preparedLines inputTensorsInfo) }
  | [], k, first, log, _ => by
    rw [List.zip_nil_left, List.flatMap_nil, List.append_nil]
    rfl
  | name :: names, k, first, log, hall => by
    obtain ⟨hname, hnames⟩ := List.forall_mem_cons.mp hall
    rw [List.zipIdx_cons, List.foldlM_cons, List.findSome?_cons]
    rcases prepareInput_cases hmem hrange hname k first rest log with
      ⟨stop, hstop, hstep⟩ | ⟨hk, hstop, hstep⟩
    · rw [hstep, hstop]
      rfl
    · have hloop := prepareLoop_eq rest names (k + 1) (preparedTensor inputTensorsInfo name)
        (log ++ preparedLines inputTensorsInfo (name, inputTensorsInfo.inputsInfo[k])) hnames
      rw [hstep, hstop]
      refine hloop.trans ?_
      rw [List.drop_eq_getElem_cons hk, List.zip_cons_cons, List.flatMap_cons, List.append_assoc,
        List.map_cons, List.getLastD_cons]

end

/-! ## The preparation -/

/--
**How the preparation ends.** The `assert` ends it if the model has not as many inputs as the
dictionary. Where it does not, the loop stops at the first name that has no entry of the dictionary
in its place, with an undefined read, or whose shape has a negative number of elements, with an
undefined write; nothing is said of what follows. If there is no such name, the first tensor has the
shape of the last input, with all of its memory set, and the other tensors are as they were.
`mutable_data<float>` is taken to give memory for the shapes of the dictionary, and these to have no
less than `-2 ^ 61` elements, so that the bytes are not cut off.
-/
theorem prepareInputs_eq (ndebug : Bool) (predictor : Predictor)
    (hmem : Allocates mutableData inputTensorsInfo predictor.inputNames)
    (hrange : ∀ name ∈ predictor.inputNames,
      -2 ^ 61 ≤ elements (inputTensorsInfo.queryPdShapeInfo name)) :
    prepareInputs mutableData inputTensorsInfo ndebug predictor
      = if ndebug = false ∧ predictor.inputNames.length ≠ inputTensorsInfo.inputsInfo.length then
          .error .assertion
        else
          match predictor.inputNames.zipIdx.findSome? (stopAt inputTensorsInfo) with
          | some stop => .error stop
          | none =>
            .ok { tensors := (predictor.inputNames.getLast?.map
                    (preparedTensor inputTensorsInfo)).toList ++ predictor.tensors.tail
                  log := (predictor.inputNames.zip inputTensorsInfo.inputsInfo).flatMap
                    (preparedLines inputTensorsInfo) } := by
  unfold prepareInputs
  split
  · rfl
  have hlength : predictor.tensors.length = predictor.inputNames.length := by
    unfold Predictor.tensors Predictor.inputNames
    rw [List.length_map, List.length_map]
  cases htensors : predictor.tensors with
  | nil =>
    rw [htensors] at hlength
    have hnames : predictor.inputNames = [] := List.length_eq_zero_iff.mp hlength.symm
    rw [hnames]
    rfl
  | cons first rest =>
    rw [prepareLoop_eq hmem hrange rest _ 0 first [] fun _ h => h, List.drop_zero]
    cases hnames : predictor.inputNames with
    | nil =>
      rw [htensors, hnames] at hlength
      cases hlength
    | cons name names =>
      rw [List.getLast?_cons, List.map_cons, List.getLastD_cons, List.getLastD_eq_getLast?,
        List.getLast?_map, Option.getD_map]
      rfl

/-- Of two inputs, the first one gets the shape of the second one. -/
theorem prepareInputs_eq_two :
    prepareInputs zeros
        { inputsInfo := [{ name := ['a'], shape := [2], dtype := ['f'] },
            { name := ['b'], shape := [3], dtype := ['f'] }] }
        false { inputs := [(['a'], [-1]), (['b'], [-1])] }
      = .ok { tensors := [{ shape := [3], data := some (List.replicate 12 1) },
                { shape := [-1], data := none }]
              log := [.info "input tensor: a".toList, .info "input tensor: a".toList,
                .info "input tensor: 1".toList, .info "input tensor: b".toList,
                .info "input tensor: b".toList, .info "input tensor: 1".toList] } := by
  have hshapes : ∀ name ∈ [['a'], ['b']],
      -2 ^ 61 ≤ elements (MTensorDict.queryPdShapeInfo
        { inputsInfo := [{ name := ['a'], shape := [2], dtype := ['f'] },
            { name := ['b'], shape := [3], dtype := ['f'] }] } name) ∧
      elements (MTensorDict.queryPdShapeInfo
        { inputsInfo := [{ name := ['a'], shape := [2], dtype := ['f'] },
            { name := ['b'], shape := [3], dtype := ['f'] }] } name) < 2 ^ 61 := by decide
  rw [prepareInputs_eq false { inputs := [(['a'], [-1]), (['b'], [-1])] }
    (fun name hname data => memoryFor_zeros (hshapes name hname).2 data)
    fun name hname => (hshapes name hname).1]
  rfl

/-- A batch size of -1 is a write behind the end of any memory. -/
example : stopAt { inputsInfo := [{ name := ['a'], shape := [-1, 3], dtype := ['f'] }] } (['a'], 0)
    = some .undefinedWrite := by decide

end UnifiedModelBenchmark.PaddleLite
