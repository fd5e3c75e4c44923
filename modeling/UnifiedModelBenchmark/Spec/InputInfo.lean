import UnifiedModelBenchmark.Spec.Scanner

/-!
# The documented `--input_info` format

The flag is a sequence of records `[name,d1xd2x...xdk,dtype]`. The documentation puts a comma
between two records; the script that prints them puts a line break there. `InputInfo s ts` says
that `s` is such a text and that its records describe the tensors `ts`.

`encode` prints a list of tensors in this format, with separators of the caller's choice.
-/

namespace UnifiedModelBenchmark.Spec

open Infra Infra.Cxx

/-! ## Tensors -/

/-- A tensor that has a description in the format: the fields do not contain what ends them. -/
structure Tensor where
  name : Str
  shape : List Int32
  dtype : Str
  name_ok : ∀ c ∈ name, c ≠ ',' ∧ isLineTerminator c = false
  dtype_ok : ∀ c ∈ dtype, c ≠ ']' ∧ isLineTerminator c = false

/-- The entry that the parser makes of the tensor. -/
def Tensor.info (t : Tensor) : MTensorInfo :=
  { name := t.name, shape := t.shape.map Int32.toInt64, dtype := t.dtype }

/-! ## The grammar -/

/-- A comma, a blank or a line break. -/
def isSep (c : Char) : Bool := c == ',' || c == ' ' || c == '\t' || isLineTerminator c

/-- What may stand before, between and after the records. -/
structure Separator where
  text : Str
  ok : ∀ c ∈ text, isSep c = true

/-- `d1xd2x...xdk`, for any `k`. -/
def DimsText (w : Str) (ds : List Int32) : Prop :=
  ∃ ws : List Str, w = ['x'].intercalate ws ∧ List.Forall₂ (fun p d => IntText p d.toInt) ws ds

/-- The text of a record with the given dimension text. -/
def recordText (name dims dtype : Str) : Str :=
  '[' :: (name ++ ',' :: (dims ++ ',' :: (dtype ++ [']'])))

/-- `s` is a text in the documented format, and `ts` are the tensors it describes. -/
inductive InputInfo : Str → List Tensor → Prop
  | nil (sep : Separator) : InputInfo sep.text []
  | cons (sep : Separator) (t : Tensor) {dims s : Str} {ts : List Tensor}
      (hdims : DimsText dims t.shape) (h : InputInfo s ts) :
      InputInfo (sep.text ++ recordText t.name dims t.dtype ++ s) (t :: ts)

/-! ## The encoder -/

/-- The dimensions as the script prints them. -/
def encodeShape (shape : List Int32) : Str :=
  ['x'].intercalate (shape.map fun d => decimal d.toInt)

def encodeTensor (t : Tensor) : Str := recordText t.name (encodeShape t.shape) t.dtype

/-- The records of the tensors, each followed by a separator, behind a first separator. -/
def encode (sep : Separator) (items : List (Tensor × Separator)) : Str :=
  sep.text ++ items.flatMap fun x => encodeTensor x.1 ++ x.2.text

theorem dimsText_encodeShape (shape : List Int32) : DimsText (encodeShape shape) shape := by
  refine ⟨_, rfl, ?_⟩
  induction shape with
  | nil => exact .nil
  | cons d ds ih => exact .cons (intText_decimal d.toInt) ih

/-- **What the encoder prints is in the format.** -/
theorem inputInfo_encode : ∀ (sep : Separator) (items : List (Tensor × Separator)),
    InputInfo (encode sep items) (items.map Prod.fst)
  | sep, [] => by
    rw [encode, List.flatMap_nil, List.append_nil]
    exact .nil sep
  | sep, x :: items => by
    have h := InputInfo.cons sep x.1 (dimsText_encodeShape x.1.shape) (inputInfo_encode x.2 items)
    simpa [encode, encodeTensor] using h

end UnifiedModelBenchmark.Spec
