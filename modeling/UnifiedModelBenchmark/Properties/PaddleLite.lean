import UnifiedModelBenchmark.Infra.Trace
import UnifiedModelBenchmark.Properties.Counts

/-!
# The inputs that the Paddle-Lite driver prepares

The loop runs over the names, but always gets the first tensor. However many names there are, the
other tensors stay as they were (`prepareInputs_tail`), so the preparation does what it is for only
if there is no other tensor. Whether the first one is filled as a whole is a matter of its memory,
of which nothing is assumed but what follows from the shape in the dictionary.
-/

namespace UnifiedModelBenchmark.PaddleLite

open Infra Infra.Cxx

variable {mutableData : Tensor → List UInt8} {inputTensorsInfo : MTensorDict}

/-! ## The other tensors -/

/-- What an iteration that ends normally does. -/
theorem prepareInput_eq_ok {st st' : State} {input : Str × Nat}
    (h : prepareInput mutableData inputTensorsInfo st input = .ok st') :
    ∃ inputTensor, st'.tensors = st.tensors.set 0 inputTensor := by
  unfold prepareInput at h
  split at h
  · dsimp only at h
    split at h
    · cases h
    · rw [← Except.ok.inj h]
      exact ⟨_, rfl⟩
  · cases h

/-- **The loop leaves all tensors but the first one as they were.** -/
theorem prepareInputs_tail {ndebug : Bool} {predictor : Predictor} {st : State}
    (h : prepareInputs mutableData inputTensorsInfo ndebug predictor = .ok st) :
    st.tensors.tail = predictor.tensors.tail := by
  unfold prepareInputs at h
  split at h
  · cases h
  · refine (trace_of_foldlM h).invariant
      (fun _ st => st.tensors.tail = predictor.tensors.tail) rfl ?_
    intro _ st₁ input st₂ htail hstep
    obtain ⟨inputTensor, hset⟩ := prepareInput_eq_ok hstep
    rw [hset, ← htail]
    cases st₁.tensors <;> rfl

/-! ## The first tensor -/

/-- The number of elements of a shape, in exact arithmetic. -/
def elements (shape : List Int64) : Int := (shape.map Int64.toInt).prod

/-- Memory for a shape: there is room for its elements, if it can have so many, and there is no
memory of `2 ^ 63` bytes. Of a shape with a negative number of elements nothing else is known. -/
structure MemoryFor (shape : List Int64) (memory : List UInt8) : Prop where
  length_lt : memory.length < 2 ^ 63
  length_eq : 0 ≤ elements shape → (memory.length : Int) = 4 * elements shape

/-- `mutable_data<float>` gives memory for the shapes that the dictionary has for these names. -/
def Allocates (mutableData : Tensor → List UInt8) (inputTensorsInfo : MTensorDict)
    (names : List Str) : Prop :=
  ∀ name ∈ names, ∀ data, MemoryFor (inputTensorsInfo.queryPdShapeInfo name)
    (mutableData { shape := inputTensorsInfo.queryPdShapeInfo name, data })

section

variable {shape : List Int64} {memory : List UInt8}

/-- The memory is set as a whole. -/
theorem memset_eq_some (h : MemoryFor shape memory) (hnonneg : 0 ≤ elements shape) :
    memset memory 1 (byteCount shape) = some (List.replicate (4 * elements shape).toNat 1) := by
  have hlt := h.length_lt
  have hlength := h.length_eq hnonneg
  have hbytes : ((byteCount shape).toNat : Int) = 4 * elements shape % 2 ^ 64 :=
    toNat_byteCount shape
  have hcount : (byteCount shape).toNat = memory.length := by omega
  have hall : (4 * elements shape).toNat = memory.length := by omega
  unfold memset
  rw [hcount, hall, if_pos (Nat.le_refl _), List.drop_length, List.append_nil]

/-- The bytes of a negative number of elements are more than there can be. -/
theorem memset_eq_none (h : MemoryFor shape memory) (hneg : elements shape < 0)
    (hle : -2 ^ 61 ≤ elements shape) : memset memory 1 (byteCount shape) = none := by
  have hlt := h.length_lt
  have hbytes : ((byteCount shape).toNat : Int) = 4 * elements shape % 2 ^ 64 :=
    toNat_byteCount shape
  unfold memset
  rw [if_neg (by omega)]

end

/-- The tensor after an iteration for this name. -/
def preparedTensor (inputTensorsInfo : MTensorDict) (name : Str) : Tensor where
  shape := inputTensorsInfo.queryPdShapeInfo name
  data := some (List.replicate
    (4 * elements (inputTensorsInfo.queryPdShapeInfo name)).toNat 1)

/-- The lines of an iteration. The second one is on the entry of the dictionary in this place,
which need not be the one that the shape is taken from. -/
def preparedLines (inputTensorsInfo : MTensorDict) (x : Str × MTensorInfo) : List Line :=
  [.info ("input tensor: ".toList ++ x.1), .info ("input tensor: ".toList ++ x.2.name),
    .info ("input tensor: ".toList ++ decimal (inputTensorsInfo.queryPdShapeInfo x.1).length)]

section

variable {names : List Str} {name : Str} {k : Nat} {info : MTensorInfo}

/-- An iteration that finds an entry and a shape that can be filled. -/
theorem prepareInput_ok (hmem : Allocates mutableData inputTensorsInfo names)
    (hname : name ∈ names) (hinfo : inputTensorsInfo.inputsInfo[k]? = some info)
    (hnonneg : 0 ≤ elements (inputTensorsInfo.queryPdShapeInfo name)) (first : Tensor)
    (rest : List Tensor) (log : List Line) :
    prepareInput mutableData inputTensorsInfo { tensors := first :: rest, log } (name, k)
      = .ok { tensors := preparedTensor inputTensorsInfo name :: rest
              log := log ++ preparedLines inputTensorsInfo (name, info) } := by
  unfold prepareInput
  rw [List.getElem?_cons_zero, hinfo]
  dsimp only
  rw [memset_eq_some (hmem name hname first.data) hnonneg]
  rfl

/-- An iteration that finds an entry and a shape that cannot be filled. -/
theorem prepareInput_negative (hmem : Allocates mutableData inputTensorsInfo names)
    (hname : name ∈ names) (hinfo : inputTensorsInfo.inputsInfo[k]? = some info)
    (hneg : elements (inputTensorsInfo.queryPdShapeInfo name) < 0)
    (hle : -2 ^ 61 ≤ elements (inputTensorsInfo.queryPdShapeInfo name)) (first : Tensor)
    (rest : List Tensor) (log : List Line) :
    prepareInput mutableData inputTensorsInfo { tensors := first :: rest, log } (name, k)
      = .error .undefinedWrite := by
  unfold prepareInput
  rw [List.getElem?_cons_zero, hinfo]
  dsimp only
  rw [memset_eq_none (hmem name hname first.data) hneg hle]

end

/-! ## Results -/

/-- The tensor has the dims that the dictionary has for the name, and memory for so many elements,
all of which is set. -/
def Tensor.PreparedFor (inputTensorsInfo : MTensorDict) (name : Str) (t : Tensor) : Prop :=
  t.shape = inputTensorsInfo.queryPdShapeInfo name ∧ ∃ data, t.data = some data ∧
    (data.length : Int) = 4 * elements t.shape ∧ ∀ b ∈ data, b = 1

/-- Every input is prepared for its name. -/
def Prepared (inputTensorsInfo : MTensorDict) (predictor : Predictor) (tensors : List Tensor) :
    Prop :=
  ∀ (i : Nat) (name : Str), predictor.inputNames[i]? = some name →
    ∃ t, tensors[i]? = some t ∧ t.PreparedFor inputTensorsInfo name

/-- A second input still has no memory. -/
theorem not_prepared {ndebug : Bool} {predictor : Predictor} {st : State}
    (h : prepareInputs mutableData inputTensorsInfo ndebug predictor = .ok st)
    (htwo : 1 < predictor.inputs.length) : ¬ Prepared inputTensorsInfo predictor st.tensors := by
  intro hprepared
  have hname : predictor.inputNames[1]? = some predictor.inputs[1].1 := by
    unfold Predictor.inputNames
    rw [List.getElem?_map, List.getElem?_eq_getElem htwo]
    rfl
  obtain ⟨t, ht, -, data, hdata, -, -⟩ := hprepared 1 _ hname
  have htail : st.tensors[1]? = predictor.tensors[1]? := by
    rw [← List.getElem?_tail, ← List.getElem?_tail, prepareInputs_tail h]
  rw [htail] at ht
  unfold Predictor.tensors at ht
  rw [List.getElem?_map, List.getElem?_eq_getElem htwo] at ht
  rw [← Option.some.inj ht] at hdata
  cases hdata

theorem prepared_nil {predictor : Predictor} (h : predictor.inputs = []) (tensors : List Tensor) :
    Prepared inputTensorsInfo predictor tensors := by
  intro i name hname
  unfold Predictor.inputNames at hname
  rw [h] at hname
  cases hname

/-- Only shapes that can be filled are prepared. -/
theorem Prepared.elements_nonneg {predictor : Predictor} {tensors : List Tensor}
    (h : Prepared inputTensorsInfo predictor tensors) {name : Str}
    (hname : name ∈ predictor.inputNames) :
    0 ≤ elements (inputTensorsInfo.queryPdShapeInfo name) := by
  obtain ⟨i, hi⟩ := List.getElem?_of_mem hname
  obtain ⟨t, -, hshape, data, -, hlength, -⟩ := h i name hi
  rw [hshape] at hlength
  omega

theorem preparedFor_preparedTensor {name : Str}
    (hnonneg : 0 ≤ elements (inputTensorsInfo.queryPdShapeInfo name)) :
    (preparedTensor inputTensorsInfo name).PreparedFor inputTensorsInfo name := by
  refine ⟨rfl, _, rfl, ?_, fun b hb => List.eq_of_mem_replicate hb⟩
  rw [List.length_replicate]
  show _ = 4 * elements (inputTensorsInfo.queryPdShapeInfo name)
  omega

/-- The only input is prepared. -/
theorem prepared_single {ndebug : Bool} {predictor : Predictor} {x : Str × List Int64}
    (hmem : Allocates mutableData inputTensorsInfo predictor.inputNames)
    (hdict : ∃ info, inputTensorsInfo.inputsInfo[0]? = some info)
    (hassert : ¬ (ndebug = false ∧
      predictor.inputNames.length ≠ inputTensorsInfo.inputsInfo.length))
    (h : predictor.inputs = [x])
    (hnonneg : 0 ≤ elements (inputTensorsInfo.queryPdShapeInfo x.1)) :
    ∃ st, prepareInputs mutableData inputTensorsInfo ndebug predictor = .ok st ∧
      Prepared inputTensorsInfo predictor st.tensors := by
  obtain ⟨info, hinfo⟩ := hdict
  have hnames : predictor.inputNames = [x.1] := by unfold Predictor.inputNames; rw [h]; rfl
  have htensors : predictor.tensors = [{ shape := x.2, data := none }] := by
    unfold Predictor.tensors; rw [h]; rfl
  have hstep := prepareInput_ok hmem (by rw [hnames]; exact List.mem_singleton_self _) hinfo hnonneg
    { shape := x.2, data := none } [] []
  have hrun : prepareInputs mutableData inputTensorsInfo ndebug predictor
      = .ok { tensors := [preparedTensor inputTensorsInfo x.1]
              log := preparedLines inputTensorsInfo (x.1, info) } := by
    unfold prepareInputs
    rw [if_neg hassert, hnames, htensors]
    show (prepareInput mutableData inputTensorsInfo _ (x.1, 0) >>= fun st => pure st) = _
    rw [hstep]
    rfl
  refine ⟨_, hrun, ?_⟩
  intro i name hname
  rw [hnames] at hname
  cases i with
  | zero =>
    obtain rfl := Option.some.inj hname
    exact ⟨_, rfl, preparedFor_preparedTensor hnonneg⟩
  | succ i => cases hname

/--
**When every input is prepared**: exactly if there is at most one, the `assert` in front of the loop
holds or is not compiled, and the shape in the dictionary does not have a negative number of
elements. `mutable_data<float>` is taken to give memory for the shapes of the dictionary.
-/
theorem prepareInputs_prepared (ndebug : Bool) (predictor : Predictor)
    (hmem : Allocates mutableData inputTensorsInfo predictor.inputNames)
    (hdict : ∀ name ∈ predictor.inputNames,
      ∃ info ∈ inputTensorsInfo.inputsInfo, info.name = name) :
    (∃ st, prepareInputs mutableData inputTensorsInfo ndebug predictor = .ok st ∧
        Prepared inputTensorsInfo predictor st.tensors) ↔
      predictor.inputs.length ≤ 1 ∧
        (ndebug = true ∨ predictor.inputs.length = inputTensorsInfo.inputsInfo.length) ∧
        ∀ name ∈ predictor.inputNames, 0 ≤ elements (inputTensorsInfo.queryPdShapeInfo name) := by
  have hlength : predictor.inputNames.length = predictor.inputs.length := List.length_map ..
  have hassert : (ndebug = true ∨ predictor.inputs.length = inputTensorsInfo.inputsInfo.length) ↔
      ¬ (ndebug = false ∧ predictor.inputNames.length ≠ inputTensorsInfo.inputsInfo.length) := by
    rw [hlength]
    cases ndebug <;> simp
  rw [hassert]
  constructor
  · rintro ⟨st, hst, hprepared⟩
    refine ⟨?_, fun hfails => ?_, fun name hname => hprepared.elements_nonneg hname⟩
    · by_contra htwo
      exact not_prepared hst (by omega) hprepared
    · unfold prepareInputs at hst
      rw [if_pos hfails] at hst
      cases hst
  · rintro ⟨hone, hpasses, hnonneg⟩
    match hinputs : predictor.inputs with
    | [] =>
      have hnames : predictor.inputNames = [] := by unfold Predictor.inputNames; rw [hinputs]; rfl
      refine ⟨{ tensors := predictor.tensors, log := [] }, ?_, prepared_nil hinputs _⟩
      unfold prepareInputs
      rw [if_neg hpasses, hnames]
      rfl
    | [x] =>
      have hname : x.1 ∈ predictor.inputNames := by
        unfold Predictor.inputNames
        rw [hinputs]
        exact List.mem_singleton_self _
      obtain ⟨info, hinfo, -⟩ := hdict x.1 hname
      refine prepared_single hmem ?_ hpasses hinputs (hnonneg x.1 hname)
      exact ⟨_, List.getElem?_eq_getElem (List.length_pos_of_mem hinfo)⟩
    | x :: y :: l =>
      rw [hinputs] at hone
      simp at hone

/-- Memory of the right size, with nothing in it. -/
def zeros (t : Tensor) : List UInt8 := List.replicate (4 * elements t.shape).toNat 0

theorem memoryFor_zeros {shape : List Int64} (h : elements shape < 2 ^ 61)
    (data : Option (List UInt8)) : MemoryFor shape (zeros { shape, data }) := by
  have hlength : (zeros { shape, data }).length = (4 * elements shape).toNat :=
    List.length_replicate
  constructor <;> omega

theorem prepareInputs_prepared_one :
    ∃ st, prepareInputs zeros { inputsInfo := [{ name := ['a'], shape := [1, 3], dtype := ['f'] }] }
        false { inputs := [(['a'], [-1, 3])] } = .ok st ∧
      Prepared { inputsInfo := [{ name := ['a'], shape := [1, 3], dtype := ['f'] }] }
        { inputs := [(['a'], [-1, 3])] } st.tensors :=
  (prepareInputs_prepared false _ (fun _ hname _ => memoryFor_zeros (by
    obtain rfl := List.mem_singleton.mp hname
    decide) _) (by decide)).mpr (by decide)

/-- Two inputs, both in the dictionary: the second one is left with its initial shape. -/
theorem prepareInputs_prepared_not :
    ¬ ∃ st, prepareInputs zeros
        { inputsInfo := [{ name := ['a'], shape := [2], dtype := ['f'] },
            { name := ['b'], shape := [3], dtype := ['f'] }] }
        false { inputs := [(['a'], [-1]), (['b'], [-1])] } = .ok st ∧
      Prepared { inputsInfo := [{ name := ['a'], shape := [2], dtype := ['f'] },
          { name := ['b'], shape := [3], dtype := ['f'] }] }
        { inputs := [(['a'], [-1]), (['b'], [-1])] } st.tensors := by
  rintro ⟨st, hst, hprepared⟩
  exact not_prepared hst (by decide) hprepared

end UnifiedModelBenchmark.PaddleLite
