import UnifiedModelBenchmark.Infra.World
import UnifiedModelBenchmark.Mutils.Tensor

/-!
# `benchmark/paddlelite_android.cpp`

The part of `run` that prepares the inputs. Paddle-Lite is not part of the repository: a predictor
is the list of its inputs, and what `mutable_data<float>` gives access to is a parameter.

What follows the preparation is written against functions that the repository does not have any
more, and is left out.
-/

namespace UnifiedModelBenchmark.PaddleLite

open Infra Infra.Cxx

/-- Where the preparation stops: at the `assert` in front of the loop, which ends the program, or at
an index behind the end of a vector or a `memset` behind the end of the memory. Those are undefined,
and nothing is known of what follows. -/
inductive Stop
  | assertion
  | undefinedRead
  | undefinedWrite
deriving DecidableEq, Repr

/-- An input: its shape, and its memory if there is some. -/
structure Tensor where
  shape : List Int64
  data : Option (List UInt8)
deriving DecidableEq, Repr

/-- A predictor that was just created: the names of its inputs and their initial shapes. -/
structure Predictor where
  inputs : List (Str × List Int64)
deriving DecidableEq, Repr

namespace Predictor

def inputNames (p : Predictor) : List Str := p.inputs.map Prod.fst

/-- No input has memory before `mutable_data` is called. -/
def tensors (p : Predictor) : List Tensor := p.inputs.map fun x => { shape := x.2, data := none }

end Predictor

/-- `shape_production(shape) * sizeof(float)`; the product becomes a `size_t`. -/
def byteCount (shape : List Int64) : UInt64 := (shapeProduction shape).toUInt64 * 4

/-- `memset` on memory of this content; `none` is a write behind its end. -/
def memset (data : List UInt8) (value : UInt8) (n : UInt64) : Option (List UInt8) :=
  if n.toNat ≤ data.length then some (List.replicate n.toNat value ++ data.drop n.toNat) else none

/-- The inputs of the predictor, and the log. -/
structure State where
  tensors : List Tensor
  log : List Line
deriving DecidableEq, Repr

section

variable (mutableData : Tensor → List UInt8) (inputTensorsInfo : MTensorDict)

/-- An iteration for the `i`-th name. The tensor is `GetInput(0)`, whatever `i` is. -/
def prepareInput (st : State) (input : Str × Nat) : Except Stop State :=
  match st.tensors[0]?, inputTensorsInfo.inputsInfo[input.2]? with
  | some inputTensor, some info =>
    let shape := inputTensorsInfo.queryPdShapeInfo input.1
    let inputTensor := { inputTensor with shape }
    match memset (mutableData inputTensor) 1 (byteCount inputTensor.shape) with
    | none => .error .undefinedWrite
    | some data =>
      .ok { tensors := st.tensors.set 0 { inputTensor with data := some data }
            log := st.log ++ [.info ("input tensor: ".toList ++ input.1),
              .info ("input tensor: ".toList ++ info.name),
              .info ("input tensor: ".toList ++ decimal shape.length)] }
  | _, _ => .error .undefinedRead

/-- The preparation. `ndebug` is whether `NDEBUG` is defined, which takes the `assert` away. -/
def prepareInputs (ndebug : Bool) (predictor : Predictor) : Except Stop State :=
  if ndebug = false ∧ predictor.inputNames.length ≠ inputTensorsInfo.inputsInfo.length then
    .error .assertion
  else
    predictor.inputNames.zipIdx.foldlM (prepareInput mutableData inputTensorsInfo)
      { tensors := predictor.tensors, log := [] }

end

end UnifiedModelBenchmark.PaddleLite
