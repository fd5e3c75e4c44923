import UnifiedModelBenchmark.Infra.Regex
import UnifiedModelBenchmark.Infra.Cxx

/-!
# `mutils/tensor.hpp`

Shapes, the tensor dictionary, and the parser of the `--input_info` flag.

A function that logs an exception and returns a code is given as a `ParseResult`: the code, the
vector as it is left behind, and the exceptions that were logged.
-/

namespace UnifiedModelBenchmark

open Infra Infra.Cxx

/-! ## Shapes -/

/-- `shape_production` over `std::vector<int64_t>`. -/
def shapeProduction (shape : List Int64) : Int64 := shape.foldl (fun res i => res * i) 1

/-- `shape_production` over `std::vector<int>`. -/
def shapeProductionInt (shape : List Int32) : Int64 :=
  shape.foldl (fun res i => res * i.toInt64) 1

/-- The cast to `int` keeps the low 32 bits. -/
def convertShapePd2ncnn (shape : List Int64) : List Int32 := shape.map Int64.toInt32

/-! ## The dictionary -/

structure MTensorInfo where
  name : Str
  shape : List Int64
  dtype : Str
deriving DecidableEq, Repr

structure MTensorDict where
  inputsInfo : List MTensorInfo
deriving DecidableEq, Repr

namespace MTensorDict

/-- The first entry with the name; the empty vector if there is none. -/
def queryPdShapeInfo (dict : MTensorDict) (tensorName : Str) : List Int64 :=
  match dict.inputsInfo.find? (fun info => info.name == tensorName) with
  | some info => info.shape
  | none => []

def queryNcnnShapeInfo (dict : MTensorDict) (tensorName : Str) : List Int32 :=
  match dict.inputsInfo.find? (fun info => info.name == tensorName) with
  | some info => convertShapePd2ncnn info.shape
  | none => []

end MTensorDict

/-! ## The parser -/

structure ParseResult (α : Type) where
  retCode : Int64
  out : List α
  logged : List StdException
deriving DecidableEq, Repr

/-- The `while (getline)` loop of `parse_shape_info`: the vector, and the exception if one ended
the loop. What was pushed before the exception stays in the vector. -/
def parseShapeLoop (ss : Str) (outputShape : List Int64) : List Int64 × Option StdException :=
  match _hget : getline 'x' ss with
  | none => (outputShape, none)
  | some (token, rest) =>
    match stoi token with
    | .error e => (outputShape, some e)
    | .ok number => parseShapeLoop rest (outputShape ++ [number.toInt64])
termination_by ss.length
decreasing_by exact getline_length _hget

def parseShapeInfo (inputStr : Str) (outputShape : List Int64) : ParseResult Int64 :=
  match parseShapeLoop inputStr outputShape with
  | (out, none) => { retCode := 0, out, logged := [] }
  | (out, some e) => { retCode := -1, out, logged := [e] }

/-- What `.` matches in an ECMAScript expression: anything but a line terminator. -/
def dot (c : Char) : Bool := c != '\n' && c != '\r'

/-- The capture group `(.*?)`. -/
def field : Regex Char := .group (.lazyStar (.sym dot))

/-- `\[(.*?),(.*?),(.*?)\]` -/
def pattern : Regex Char :=
  .concat [.sym (· == '['), field, .sym (· == ','), field, .sym (· == ','), field,
    .sym (· == ']')]

/-- The loop over the matches: the vector, what `parse_shape_info` logged, and whether its code
ended the loop. -/
def parseTensorLoop : List (Match Char) → List MTensorInfo →
    List MTensorInfo × List StdException × Bool
  | [], outputTensorInfo => (outputTensorInfo, [], false)
  | m :: iter, outputTensorInfo =>
    let strName := m.groups.getD 0 []
    let strShape := m.groups.getD 1 []
    let strType := m.groups.getD 2 []
    let res := parseShapeInfo strShape []
    if res.retCode ≠ 0 then (outputTensorInfo, res.logged, true)
    else
      parseTensorLoop iter
        (outputTensorInfo ++ [{ name := strName, shape := res.out, dtype := strType }])

def parseTensorInfo (inputStr : Str) (outputTensorInfo : List MTensorInfo) :
    ParseResult MTensorInfo :=
  match parseTensorLoop (pattern.allMatches inputStr) outputTensorInfo with
  | (out, _, false) => { retCode := 0, out, logged := [] }
  | (out, logged, true) =>
    { retCode := -1, out, logged := logged ++ [.runtimeError "parse_shape_info error"] }

/-- What the drivers make of the flag: it is parsed into an empty vector, the code is not looked
at, and the vector becomes the dictionary. -/
def MTensorDict.ofFlag (strInputInfo : Str) : MTensorDict :=
  { inputsInfo := (parseTensorInfo strInputInfo []).out }

/-- The example of the documentation. -/
example : parseTensorInfo "[input1,1x3x128x128,float32],[input2,1x4x56x56,float32]".toList []
    = { retCode := 0
        out := [{ name := "input1".toList, shape := [1, 3, 128, 128], dtype := "float32".toList },
          { name := "input2".toList, shape := [1, 4, 56, 56], dtype := "float32".toList }]
        logged := [] } := by
  decide +kernel

end UnifiedModelBenchmark
