import UnifiedModelBenchmark.Infra.Cxx

/-!
# `tools/opt/read_info.py`

The script prints the inputs of an ONNX model, one to a line, in the form in which the drivers take
them. What ONNX Runtime says of an input is a parameter.
-/

namespace UnifiedModelBenchmark.ReadInfo

open Infra Infra.Cxx

/-- An entry of `input.shape`: a number, or a dimension that the model leaves open, with its name or
without one. -/
inductive Dim
  | fixed (n : Int)
  | named (name : Str)
  | unnamed
deriving DecidableEq, Repr

/-- `str(i)`; an open dimension without a name is `None`. -/
def Dim.str : Dim → Str
  | .fixed n => decimal n
  | .named name => name
  | .unnamed => "None".toList

structure NodeArg where
  name : Str
  shape : List Dim
deriving DecidableEq, Repr

/-- `'x'.join([str(i) for i in input_shape])` -/
def joinedShape (shape : List Dim) : Str := ['x'].intercalate (shape.map Dim.str)

/-- What is printed for an input; `print` ends it with a line break. -/
def line (input : NodeArg) : Str :=
  '[' :: input.name ++ ',' :: joinedShape input.shape ++ ",float32]\n".toList

/-- What the script prints. -/
def printed (inputs : List NodeArg) : Str := inputs.flatMap line

example : printed [{ name := ['a'], shape := [.fixed 1, .named ['n'], .unnamed] }]
    = "[a,1xnxNone,float32]\n".toList := by decide

end UnifiedModelBenchmark.ReadInfo
