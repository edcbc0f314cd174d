import TileKernel.Tensor.Shape

/-! # Library routines

Elementwise functions of a device library. A routine is a list of symbols, each for one list of argument types. Arguments are
brought to one shape; when no symbol takes their types as they are, they are promoted to a common type first.
-/

namespace TileKernel

open IR

structure Symbol where
  args : List Ty
  name : String
  result : Ty

namespace Tensor

/-- One operand that has the shape and, with promotion, the type of all: the last operand after meeting every one in turn. -/
def commonOperand (rule : OperandRule) : List Tensor → Tensor → Emit Tensor
  | [], common => pure common
  | t :: ts, common => do
    let (_, common) ← operands rule t common
    commonOperand rule ts common

/-- Every operand with the shape and, with promotion, the type of the one that has met them all; and that one. -/
def uniform (rule : OperandRule) (first : Tensor) (rest : List Tensor) : Emit (List Tensor × Tensor) := do
  let args := first :: rest
  let common ← commonOperand rule args first
  let args ← args.mapM fun t => do
    let (t, _) ← operands rule t common
    pure t
  return (args, common)

def findSymbol (symbols : List Symbol) (types : List Ty) : Option Symbol := symbols.find? (·.args = types)

/-- Call the symbol that takes the argument types, with a block of the given shape as result unless all are scalars. -/
def dispatch (library path : String) (args : List Tensor) (symbols : List Symbol) (shape : Option (List Int))
    (isPure : Bool) : Emit Tensor := do
  match symbols.head? with
  | none => throw .noSymbols
  | some first =>
    if args.length ≠ first.args.length then throw (.symbolArity args.length first.args.length)
    let types := args.map (·.dtype)
    match findSymbol symbols types with
    | none => throw (.symbolTypes (symbols.map (·.args)) (types.map (·.detailed)))
    | some s =>
      let ty ← match shape with
        | some shape => blockTy s.result shape
        | none => pure s.result
      build .externElementwise [.str library, .str path, .str s.name, .list (args.map (·.operand)), .ofTy ty,
        .bool isPure] ty

def elementwise (library path : String) (args : List Tensor) (symbols : List Symbol) (isPure : Bool) : Emit Tensor := do
  let types := args.map (·.dtype)
  if types.any (·.isPtr) then throw (.implicit .type)
  match args with
  | [] => dispatch library path args symbols none isPure
  | first :: rest =>
    let (args, common) ← uniform { promote := (findSymbol symbols types).isNone } first rest
    let shape := if args.any (·.type.isBlock) then some common.shape else none
    dispatch library path args symbols shape isPure

end Tensor

structure Routine where
  name : String
  arity : Nat
  symbols : List Symbol
deriving Inhabited

def Routine.apply (r : Routine) (args : List Tensor) : Emit Tensor := do
  Tensor.elementwise "libdevice" (← Emit.target).mathLibrary args r.symbols true

end TileKernel

/-! ## The math library -/

namespace TileKernel.MathLibrary

private def several (name : String) (symbols : List (List Scalar × String × Scalar)) : Routine :=
  { name, arity := ((symbols.head?.map fun s => s.1.length).getD 0)
    symbols := symbols.map fun (a, s, r) => ⟨a.map .scalar, "__nv_" ++ s, .scalar r⟩ }

private def real (arity : Nat) (name single double : String) : Routine :=
  several name [(List.replicate arity .fp32, single, .fp32), (List.replicate arity .fp64, double, .fp64)]

private def only (args : List Scalar) (result : Scalar) (name : String) : Routine := several name [(args, name, result)]

private def rounded (f : String → Routine) : List Routine := ["_rn", "_rz", "_rd", "_ru"].map f

/-- Routines on floating-point numbers, whose symbol in single precision ends in a letter of its own. -/
def realRoutines : List Routine :=
  (["floor", "rsqrt", "exp2", "sqrt", "rint", "nearbyint", "sin", "cos", "sinpi", "cospi", "tan", "log2", "exp", "exp10",
    "cosh", "sinh", "tanh", "atan", "asin", "acos", "log", "log10", "log1p", "acosh", "asinh", "atanh", "expm1", "cbrt",
    "rcbrt", "j0", "j1", "y0", "y1", "cyl_bessel_i0", "cyl_bessel_i1", "erf", "erfinv", "erfc", "erfcx", "erfcinv",
    "normcdfinv", "normcdf", "lgamma", "tgamma", "round", "logb"].map fun n => real 1 n (n ++ "f") n) ++
  (["copysign", "nextafter", "atan2", "hypot", "rhypot", "fmod", "remainder", "fdim"].map fun n => real 2 n (n ++ "f") n) ++
  (["norm3d", "rnorm3d", "fma"].map fun n => real 3 n (n ++ "f") n) ++
  (["norm4d", "rnorm4d"].map fun n => real 4 n (n ++ "f") n)

def roundedRoutines : List Routine :=
  rounded (fun m => real 3 ("fma" ++ m) ("fmaf" ++ m) ("fma" ++ m)) ++
  ([(2, "div"), (1, "rcp"), (1, "sqrt"), (2, "sub")].flatMap fun (arity, n) =>
    rounded fun m => real arity (n ++ m) s!"f{n}{m}" s!"d{n}{m}") ++
  (["add", "mul"].flatMap fun n => rounded fun m =>
    several (n ++ m) [([.fp64, .fp64], "d" ++ n ++ m, .fp64), ([.fp32, .fp32], "f" ++ n ++ m, .fp32)])

def conversions : List Routine :=
  ([(Scalar.fp64, Scalar.fp32, ["double2float"]), (.fp64, .int32, ["double2int", "double2uint"]),
    (.fp64, .int64, ["double2ll", "double2ull"]), (.fp32, .int32, ["float2int", "float2uint"]),
    (.fp32, .int64, ["float2ll", "float2ull"]), (.int32, .fp32, ["int2float"]), (.uint32, .fp32, ["uint2float"]),
    (.int64, .fp32, ["ll2float"]), (.uint64, .fp32, ["ull2float"]), (.int64, .fp64, ["ll2double"]),
    (.uint64, .fp64, ["ull2double"])].flatMap fun (source, target, names) =>
      names.flatMap fun n => rounded fun m => only [source] target (n ++ m)) ++
  [only [.int32] .fp64 "int2double_rn", only [.uint32] .fp64 "uint2double_rn",
   only [.int32, .int32] .fp64 "hiloint2double", only [.fp64] .int32 "double2loint", only [.fp64] .int32 "double2hiint",
   only [.int32] .fp32 "int_as_float", only [.fp32] .int32 "float_as_int", only [.uint32] .fp32 "uint_as_float",
   only [.fp32] .int32 "float_as_uint", only [.int64] .fp64 "longlong_as_double", only [.fp64] .int64 "double_as_longlong"]

def singleRoutines : List Routine :=
  (["fast_sinf", "fast_cosf", "fast_log2f", "fast_logf", "fast_expf", "fast_tanf", "fast_exp10f", "fast_log10f",
    "saturatef"].map (only [.fp32] .fp32)) ++
  [only [.int32, .int32, .int32] .int32 "byte_perm", only [.fp64] .fp64 "rcp64h",
   several "fast_dividef" [([.fp32, .fp32], "fast_fdividef", .fp32)], only [.fp32, .fp32] .fp32 "fast_powf",
   several "rsqrt_rn" [([.fp32], "frsqrt_rn", .fp32)], only [.fp32] .int32 "finitef", only [.fp64] .int32 "isfinited"]

def mixedRoutines : List Routine :=
  [several "clz" [([.int32], "clz", .int32), ([.int64], "clzll", .int32)],
   several "popc" [([.int32], "popc", .int32), ([.int64], "popcll", .int32)],
   several "mulhi" [([.int32, .int32], "mulhi", .int32), ([.uint32, .uint32], "umulhi", .uint32),
     ([.int64, .int64], "mul64hi", .int64), ([.uint64, .uint64], "umul64hi", .uint64)],
   several "mul24" [([.int32, .int32], "mul24", .int32), ([.uint32, .uint32], "umul24", .uint32)],
   several "brev" [([.int32], "brev", .int32), ([.int64], "brevll", .int64)],
   several "sad" [([.int32, .int32, .uint32], "sad", .int32), ([.uint32, .uint32, .uint32], "usad", .uint32)],
   several "abs" [([.int32], "abs", .int32), ([.int64], "llabs", .int64), ([.fp32], "fabsf", .fp32),
     ([.fp64], "fabs", .fp64)],
   several "ceil" [([.fp64], "ceil", .fp64), ([.fp32], "ceilf", .fp32)],
   several "trunc" [([.fp64], "trunc", .fp64), ([.fp32], "truncf", .fp32)],
   several "hadd" [([.int32, .int32], "hadd", .int32), ([.uint32, .uint32], "uhadd", .uint32)],
   several "rhadd" [([.int32, .int32], "rhadd", .int32), ([.uint32, .uint32], "urhadd", .uint32)],
   several "ffs" [([.int32], "ffs", .int32), ([.int64], "ffsll", .int32)],
   several "llrint" [([.fp32], "llrintf", .int64), ([.fp64], "llrint", .int64)],
   several "isnan" [([.fp32], "isnanf", .int32), ([.fp64], "isnand", .int32)],
   several "signbit" [([.fp32], "signbitf", .int32), ([.fp64], "signbitd", .int32)],
   several "isinf" [([.fp32], "isinff", .int32), ([.fp64], "isinfd", .int32)],
   several "yn" [([.int32, .fp32], "ynf", .fp32), ([.int32, .fp64], "yn", .fp64)],
   several "jn" [([.int32, .fp32], "jnf", .fp32), ([.int32, .fp64], "jn", .fp64)],
   several "ldexp" [([.fp32, .int32], "ldexpf", .fp32), ([.fp64, .int32], "ldexp", .fp64)],
   several "scalbn" [([.fp32, .int32], "scalbnf", .fp32), ([.fp64, .int32], "scalbn", .fp64)],
   several "pow" [([.fp32, .int32], "powif", .fp32), ([.fp64, .int32], "powi", .fp64), ([.fp32, .fp32], "powf", .fp32),
     ([.fp64, .fp64], "pow", .fp64)],
   several "llround" [([.fp32], "llroundf", .int64), ([.fp64], "llround", .int64)],
   several "ilogb" [([.fp32], "ilogbf", .int32), ([.fp64], "ilogb", .int32)]]

def all : List Routine := realRoutines ++ roundedRoutines ++ conversions ++ singleRoutines ++ mixedRoutines

def find? (name : String) : Option Routine := all.find? (·.name == name)

def mulhi : Routine := (find? "mulhi").getD default

def floor : Routine := (find? "floor").getD default

end TileKernel.MathLibrary

/-! ## Arithmetic through the math library -/

namespace TileKernel

open IR

namespace Tensor

def floor (t : Tensor) : Emit Tensor := do
  checkReal t
  MathLibrary.floor.apply [t]

/-- The remainder. Of floating-point numbers it is `x - floor (x / y) * y`, of integers that of truncated division. -/
def mod (l r : Tensor) : Emit Tensor := do
  let (l, r) ← operands { division := true } l r
  if l.dtype.isFloating then
    let q ← floor (← fdiv l r)
    sub l (← mul q r)
  else if l.dtype.isInt then binary (if l.dtype.isSignedInt then .mk .srem else .mk .urem) l r
  else throw .assertion

def umulhi (l r : Tensor) : Emit Tensor := do
  let (l, r) ← operands {} l r
  MathLibrary.mulhi.apply [l, r]

def extremum (float signed unsigned : Opcode.Plain) (l r : Tensor) : Emit Tensor := do
  let (l, r) ← operands {} l r
  let args := [l.operand, r.operand]
  if l.dtype.isFloating then build float.1 args l.type float.2
  else if l.dtype.isSignedInt then build signed.1 args l.type signed.2
  else if l.dtype.isUnsignedInt then build unsigned.1 args l.dtype unsigned.2
  else throw (.unexpectedDtype l.dtype)

def minimum (l r : Tensor) : Emit Tensor := extremum (.mk .minf) (.mk .minsi) (.mk .minui) l r

def maximum (l r : Tensor) : Emit Tensor := extremum (.mk .maxf) (.mk .maxsi) (.mk .maxui) l r

def commonShapeOf : List Tensor → Emit (Option (List Int))
  | [] => pure none
  | first :: rest => do
    let (_, common) ← uniform { promote := false } first rest
    return some common.shape

end Tensor

end TileKernel
