import TileKernel.Fault

/-! # Bindings of external libraries

A library of functions on single elements is read off its disassembly, one function a line. Functions that do the same for
different types are grouped under one name, and each group becomes a function of the kernel language.
-/

namespace TileKernel.Extern

structure Symbol where
  name : String
  operation : String
  result : String
  argNames : List String
  argTypes : List String
deriving Inhabited

namespace Symbol

def elementType : String → Option String
  | "i32" => some "int32"
  | "u32" => some "uint32"
  | "i64" => some "int64"
  | "u64" => some "uint64"
  | "float" => some "fp32"
  | "double" => some "fp64"
  | _ => none

def unsigned : String → String
  | "int32" => "uint32"
  | "int64" => "uint64"
  | t => t

def words (s : String) : List String :=
  ((s.toList.splitBy fun a b => Text.Pattern.isSpace a == Text.Pattern.isSpace b).filter
    fun w => !w.any Text.Pattern.isSpace).map String.ofList

def without (part s : String) : String := String.join (s.splitOn part)

private def required (parts : List String) (i : Nat) : Result String :=
  match parts[i]? with
  | some p => .ok p
  | none => refused .index

private def argumentTypes : List String → Result (Option (List String))
  | [] => .ok (some [])
  | p :: ps => do
    match elementType (← required (words p) 0) with
    | none => return none
    | some t => return (← argumentTypes ps).map (t :: ·)

/-- The symbol that a line `define <type> @<name>(<type>, ...)` defines: none for internal functions, other types and roundings
of their own. The last argument of `sad` is unsigned, and names that begin with `u` are of unsigned functions. -/
def ofLine (line : String) : Result (Option Symbol) := do
  let entries := line.splitOn "@"
  let function ← required entries 1
  let kind ← required (words (entries.headD "")) 1
  if kind == "internal" then return none
  let some result := elementType kind | return none
  let parts := function.splitOn "("
  let name := parts.headD ""
  let operation := without "__nv_" name
  if Text.occursIn "ieee" operation then return none
  let some types ← argumentTypes ((← required parts 1).splitOn ",") | return none
  let argNames := types.zipIdx.map fun (_, i) => "arg" ++ toString i
  if operation == "sad" then
    let argTypes := types.dropLast ++ (types.getLast?.map unsigned).toList
    return some { name, operation, result, argNames, argTypes }
  else if operation.startsWith "u" then
    return some { name, operation, result := unsigned result, argNames, argTypes := types.map unsigned }
  else return some { name, operation, result, argNames, argTypes := types }

end Symbol

/-- Operations that are known under another name: those that do the same for another type or another rounding. -/
def renamings : Named String :=
  [("llabs", "abs"), ("acosf", "acos"), ("acoshf", "acosh"), ("dadd_rd", "add_rd"), ("fadd_rd", "add_rd"),
   ("dadd_rn", "add_rn"), ("fadd_rn", "add_rn"), ("dadd_ru", "add_ru"), ("fadd_ru", "add_ru"), ("dadd_rz", "add_rz"),
   ("fadd_rz", "add_rz"), ("asinf", "asin"), ("asinhf", "asinh"), ("atanf", "atan"), ("atan2f", "atan2"),
   ("atanhf", "atanh"), ("brevll", "brev"), ("cbrtf", "cbrt"), ("ceilf", "ceil"), ("clzll", "clz"),
   ("copysignf", "copysign"), ("cosf", "cos"), ("coshf", "cosh"), ("cospif", "cospi"),
   ("cyl_bessel_i0f", "cyl_bessel_i0"), ("cyl_bessel_i1f", "cyl_bessel_i1"), ("fdiv_rd", "div_rd"),
   ("ddiv_rd", "div_rd"), ("fdiv_rn", "div_rn"), ("ddiv_rn", "div_rn"), ("fdiv_ru", "div_ru"), ("ddiv_ru", "div_ru"),
   ("fdiv_rz", "div_rz"), ("ddiv_rz", "div_rz"), ("erff", "erf"), ("erfcf", "erfc"), ("erfcinvf", "erfcinv"),
   ("erfcxf", "erfcx"), ("erfinvf", "erfinv"), ("expf", "exp"), ("exp10f", "exp10"), ("exp2f", "exp2"),
   ("expm1f", "expm1"), ("fabsf", "abs"), ("fabs", "abs"), ("fast_fdividef", "fast_dividef"), ("fdimf", "fdim"),
   ("ffsll", "ffs"), ("floorf", "floor"), ("fmaf", "fma"), ("fmaf_rd", "fma_rd"), ("fmaf_rn", "fma_rn"),
   ("fmaf_ru", "fma_ru"), ("fmaf_rz", "fma_rz"), ("fmodf", "fmod"), ("uhadd", "hadd"), ("hypotf", "hypot"),
   ("ilogbf", "ilogb"), ("isinff", "isinf"), ("isinfd", "isinf"), ("isnanf", "isnan"), ("isnand", "isnan"),
   ("j0f", "j0"), ("j1f", "j1"), ("jnf", "jn"), ("ldexpf", "ldexp"), ("lgammaf", "lgamma"), ("llrintf", "llrint"),
   ("llroundf", "llround"), ("logf", "log"), ("log10f", "log10"), ("log1pf", "log1p"), ("log2f", "log2"),
   ("logbf", "logb"), ("umax", "max"), ("llmax", "max"), ("ullmax", "max"), ("fmaxf", "max"), ("fmax", "max"),
   ("umin", "min"), ("llmin", "min"), ("ullmin", "min"), ("fminf", "min"), ("fmin", "min"), ("dmul_rd", "mul_rd"),
   ("fmul_rd", "mul_rd"), ("dmul_rn", "mul_rn"), ("fmul_rn", "mul_rn"), ("dmul_ru", "mul_ru"), ("fmul_ru", "mul_ru"),
   ("dmul_rz", "mul_rz"), ("fmul_rz", "mul_rz"), ("umul24", "mul24"), ("umulhi", "mulhi"), ("mul64hi", "mulhi"),
   ("umul64hi", "mulhi"), ("nearbyintf", "nearbyint"), ("nextafterf", "nextafter"), ("norm3df", "norm3d"),
   ("norm4df", "norm4d"), ("normcdff", "normcdf"), ("normcdfinvf", "normcdfinv"), ("popcll", "popc"), ("powif", "pow"),
   ("powi", "pow"), ("powf", "pow"), ("rcbrtf", "rcbrt"), ("frcp_rd", "rcp_rd"), ("drcp_rd", "rcp_rd"),
   ("frcp_rn", "rcp_rn"), ("drcp_rn", "rcp_rn"), ("frcp_ru", "rcp_ru"), ("drcp_ru", "rcp_ru"), ("frcp_rz", "rcp_rz"),
   ("drcp_rz", "rcp_rz"), ("remainderf", "remainder"), ("urhadd", "rhadd"), ("rhypotf", "rhypot"), ("rintf", "rint"),
   ("rnorm3df", "rnorm3d"), ("rnorm4df", "rnorm4d"), ("roundf", "round"), ("rsqrtf", "rsqrt"), ("frsqrt_rn", "rsqrt_rn"),
   ("usad", "sad"), ("scalbnf", "scalbn"), ("signbitf", "signbit"), ("signbitd", "signbit"), ("sinf", "sin"),
   ("sinhf", "sinh"), ("sinpif", "sinpi"), ("sqrtf", "sqrt"), ("fsqrt_rd", "sqrt_rd"), ("dsqrt_rd", "sqrt_rd"),
   ("fsqrt_rn", "sqrt_rn"), ("dsqrt_rn", "sqrt_rn"), ("fsqrt_ru", "sqrt_ru"), ("dsqrt_ru", "sqrt_ru"),
   ("fsqrt_rz", "sqrt_rz"), ("dsqrt_rz", "sqrt_rz"), ("fsub_rd", "sub_rd"), ("dsub_rd", "sub_rd"), ("fsub_rn", "sub_rn"),
   ("dsub_rn", "sub_rn"), ("fsub_ru", "sub_ru"), ("dsub_ru", "sub_ru"), ("fsub_rz", "sub_rz"), ("dsub_rz", "sub_rz"),
   ("tanf", "tan"), ("tanhf", "tanh"), ("tgammaf", "tgamma"), ("truncf", "trunc"), ("y0f", "y0"), ("y1f", "y1"),
   ("ynf", "yn")]

def groupName (operation : String) : String := (renamings.lookup operation).getD operation

def addSymbol (symbols : List Symbol) (s : Symbol) : List Symbol :=
  if symbols.any (·.name == s.name) then symbols.map fun s' => if s'.name == s.name then s else s' else symbols ++ [s]

/-- The symbols of a disassembly; lines that define nothing are passed over. Without any definition the search for
definitions fails. -/
def symbols (disassembly : String) : Result (List Symbol) := do
  let defining := (disassembly.splitOn "\n").filter (Text.occursIn "define")
  if defining.isEmpty then throw (.implicit .subprocess)
  (Text.lines ("\n".intercalate defining)).foldlM (fun ss line => do
    return ((← Symbol.ofLine line).map (addSymbol ss)).getD ss) []

abbrev Groups := List (String × List Symbol)

def groups (symbols : List Symbol) : Groups :=
  symbols.foldl (fun gs s =>
    let name := groupName s.operation
    let s := { s with operation := name }
    if gs.any (·.1 == name) then gs.map fun (n, ss) => if n == name then (n, ss ++ [s]) else (n, ss)
    else gs ++ [(name, [s])]) []

def bindingHeader : List String :=
  ["from . import core", "import os", "import functools", "@functools.lru_cache()", "def libdevice_path():",
   "    import torch",
   "    third_party_dir =  os.path.join(os.path.dirname(os.path.abspath(__file__)), \"..\", \"third_party\")",
   "    if torch.version.hip is None:",
   "        default = os.path.join(third_party_dir, \"cuda\", \"lib\", \"libdevice.10.bc\")", "    else:",
   "        default = ''", "    return os.getenv(\"TRITON_LIBDEVICE_PATH\", default)"]

def binding (library : String) (group : List Symbol) : String :=
  let first := group.headD default
  let args := String.join (first.argNames.map (· ++ ", "))
  let dtype (t : String) : String := "core.dtype(\"" ++ t ++ "\")"
  let choice (s : Symbol) : String :=
    "(" ++ String.join (s.argTypes.map fun t => dtype t ++ ",") ++ "): (\"" ++ s.name ++ "\", " ++ dtype s.result ++ "),\n"
  "@core.extern\ndef " ++ first.operation ++ "(" ++ args ++ "_builder=None):\n" ++
    "\treturn core.extern_elementwise(\"" ++ library ++ "\", libdevice_path(), [" ++ args ++ "], \n\x7b" ++
    String.join (group.map choice) ++ "\x7d, is_pure=True, _builder=_builder)\n\n"

def bindings (library : String) (gs : Groups) : String :=
  String.join (bindingHeader.map (· ++ "\n")) ++ String.join (gs.map fun (_, ss) => binding library ss)

end TileKernel.Extern
