import TileKernel.Text

/-! # Types of kernel values

A value of a kernel is a scalar, a pointer, or a block: a tile of scalars or pointers with a fixed shape. Pointers may point to
blocks. The printed names of types are part of every message and of the identity of the types they name.
-/

namespace TileKernel

inductive Signedness where
  | signed
  | unsigned
deriving DecidableEq

inductive Scalar where
  | void
  | int1 | int8 | int16 | int32 | int64
  | uint8 | uint16 | uint32 | uint64
  | fp8e4nv | fp8e4b8 | fp8e4b15 | fp8e4b15x4 | fp8e5 | fp8e5b16
  | fp16 | bf16 | fp32 | fp64
deriving DecidableEq, Inhabited

namespace Scalar

def all : List Scalar :=
  [void, int1, int8, int16, int32, int64, uint8, uint16, uint32, uint64,
   fp8e4nv, fp8e4b8, fp8e4b15, fp8e4b15x4, fp8e5, fp8e5b16, fp16, bf16, fp32, fp64]

def name : Scalar → String
  | void => "void"
  | int1 => "int1" | int8 => "int8" | int16 => "int16" | int32 => "int32" | int64 => "int64"
  | uint8 => "uint8" | uint16 => "uint16" | uint32 => "uint32" | uint64 => "uint64"
  | fp8e4nv => "fp8e4nv" | fp8e4b8 => "fp8e4b8" | fp8e4b15 => "fp8e4b15" | fp8e4b15x4 => "fp8e4b15x4"
  | fp8e5 => "fp8e5" | fp8e5b16 => "fp8e5b16"
  | fp16 => "fp16" | bf16 => "bf16" | fp32 => "fp32" | fp64 => "fp64"

def ofName? (s : String) : Option Scalar := all.find? (·.name == s)

def signedness? : Scalar → Option Signedness
  | int8 | int16 | int32 | int64 => some .signed
  | int1 | uint8 | uint16 | uint32 | uint64 => some .unsigned
  | _ => none

def intBits? : Scalar → Option Nat
  | int1 => some 1
  | int8 | uint8 => some 8
  | int16 | uint16 => some 16
  | int32 | uint32 => some 32
  | int64 | uint64 => some 64
  | _ => none

def mantissaBits? : Scalar → Option Nat
  | fp8e4b15 | fp8e4b15x4 | fp8e4nv | fp8e4b8 => some 3
  | fp8e5 | fp8e5b16 => some 2
  | fp16 => some 10
  | bf16 => some 7
  | fp32 => some 23
  | fp64 => some 53
  | _ => none

def exponentBias? : Scalar → Option Nat
  | fp8e4b15 | fp8e4b15x4 => some 15
  | fp8e4nv => some 7
  | fp8e4b8 => some 8
  | fp8e5 => some 15
  | fp8e5b16 => some 16
  | fp16 => some 15
  | bf16 => some 127
  | fp32 => some 127
  | fp64 => some 1023
  | _ => none

def bits : Scalar → Nat
  | void => 0
  | int1 => 1
  | int8 | uint8 | fp8e4nv | fp8e4b8 | fp8e4b15 | fp8e4b15x4 | fp8e5 | fp8e5b16 => 8
  | int16 | uint16 | fp16 | bf16 => 16
  | int32 | uint32 | fp32 => 32
  | int64 | uint64 | fp64 => 64

variable (s : Scalar)

def isSignedInt : Bool := s.signedness? == some .signed

def isUnsignedInt : Bool := s.signedness? == some .unsigned

def isInt : Bool := s.signedness?.isSome

def isFloating : Bool := s.mantissaBits?.isSome

def isStandardFloating : Scalar → Bool
  | fp16 | bf16 | fp32 | fp64 => true
  | _ => false

def isFp8 : Scalar → Bool
  | fp8e4nv | fp8e4b8 | fp8e4b15 | fp8e4b15x4 | fp8e5 | fp8e5b16 => true
  | _ => false

def irName : Scalar → String
  | void => "void"
  | int1 => "i1"
  | int8 | uint8 => "i8"
  | int16 | uint16 => "i16"
  | int32 | uint32 => "i32"
  | int64 | uint64 => "i64"
  | fp8e4nv => "f8E4M3FN"
  | fp8e4b8 => "f8E4M3FNUZ"
  | fp8e4b15 => "f8E4M3B11FNUZ"
  | fp8e4b15x4 => "f8E4M3FNUZx4"
  | fp8e5 => "f8E5M2"
  | fp8e5b16 => "f8E5M2FNUZ"
  | fp16 => "f16"
  | bf16 => "bf16"
  | fp32 => "f32"
  | fp64 => "f64"

end Scalar

/-! ## Pointers and blocks -/

inductive Ty where
  | scalar (s : Scalar)
  | pointer (element : Ty) (space : Int)
  | block (element : Ty) (shape : List Int)
deriving DecidableEq, Inhabited

namespace Ty

def ptr (element : Ty) : Ty := .pointer element 1

def void : Ty := .scalar .void
def int1 : Ty := .scalar .int1
def int8 : Ty := .scalar .int8
def int16 : Ty := .scalar .int16
def int32 : Ty := .scalar .int32
def int64 : Ty := .scalar .int64
def uint32 : Ty := .scalar .uint32
def uint64 : Ty := .scalar .uint64
def fp16 : Ty := .scalar .fp16
def bf16 : Ty := .scalar .bf16
def fp32 : Ty := .scalar .fp32
def fp64 : Ty := .scalar .fp64

def maxElements : Int := 131072

def shapeText (shape : List Int) : String := Text.bracketed (shape.map toString)

def text : Ty → String
  | .scalar s => s.name
  | .pointer e _ => "pointer<" ++ e.text ++ ">"
  | .block e shape => "<" ++ shapeText shape ++ ", " ++ e.text ++ ">"

def detailed : Ty → String
  | .scalar s => "triton.language." ++ s.name
  | t => t.text

/-- The type as printed modules write it: integers have no sign and pointers name their memory space. -/
def irText : Ty → String
  | .scalar s => s.irName
  | .pointer e _ => "ptr<" ++ e.irText ++ ",1>"
  | .block e shape => "tensor<" ++ "x".intercalate (shape.map toString ++ [e.irText]) ++ ">"

def element : Ty → Ty
  | .block e _ => e
  | t => t

def scalar? : Ty → Option Scalar
  | .scalar s => some s
  | _ => none

def isBlock : Ty → Bool
  | .block _ _ => true
  | _ => false

def isPtr : Ty → Bool
  | .pointer _ _ => true
  | _ => false

def pointee? : Ty → Option Ty
  | .pointer e _ => some e
  | _ => none

def shape? : Ty → Option (List Int)
  | .block _ shape => some shape
  | _ => none

def elements (shape : List Int) : Int := shape.foldl (· * ·) 1

variable (t : Ty)

def numel? : Option Int := t.shape?.map elements

def scalarIs (p : Scalar → Bool) : Bool := (t.scalar?.map p).getD false

def isInt : Bool := t.scalarIs (·.isInt)
def isSignedInt : Bool := t.scalarIs (·.isSignedInt)
def isUnsignedInt : Bool := t.scalarIs (·.isUnsignedInt)
def isFloating : Bool := t.scalarIs (·.isFloating)
def isStandardFloating : Bool := t.scalarIs (·.isStandardFloating)
def isBool : Bool := t == int1

def mentionsFp8 : Ty → Bool
  | .scalar s => s.isFp8
  | .pointer e _ => e.mentionsFp8
  | .block e _ => e.mentionsFp8

end Ty

structure FnTy where
  params : List Ty
  results : List Ty
deriving DecidableEq, Inhabited

end TileKernel
