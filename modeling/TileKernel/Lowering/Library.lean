import TileKernel.Lowering.Evaluate
import TileKernel.Source.Parser

/-! # Modules and the library of the language

A source is run once to define its names: constants, imports and functions. A function marked for lowering keeps its text,
because its tree is read from the text alone and its places count from the first line of the definition.
-/

namespace TileKernel.Lowering

open Source Lower

namespace Module

structure Mark where
  noinline : Option Bool := none
  debug : Option Bool := none
  interpret : Bool := false
  notSpecialized : List Value := []

def flag : Value → Option Bool
  | .none => none
  | v => some v.truth

variable (env : Env)

def mark (e : Expr) : Lower Mark := do
  let isMarker (v : Value) : Bool := v matches .primitive .root "jit"
  match e with
  | .call _ f [] ks =>
    if !isMarker (← evaluator.expr env f) then refuse .notImplemented
    let options ← evaluator.keywords env ks
    if options.any fun (k, _) => !(["version", "do_not_specialize", "debug", "noinline", "interpret"].contains k) then
      refuse .type
    let option (name : String) : Value := (options.lookup name).getD .none
    return { noinline := flag (option "noinline"), debug := flag (option "debug"), interpret := (option "interpret").truth
             notSpecialized := (option "do_not_specialize").items?.getD [] }
  | e => if isMarker (← evaluator.expr env e) then return {} else refuse .notImplemented

def annotationText : Value → String
  | .kind k => k.name
  | .str s => s
  | v => v.shown

def annotations (params : Params) (returns : Option Expr) : Lower (Named String) := do
  let all := params.args ++ params.vararg.toList ++ params.kwonly ++ params.kwarg.toList
  let given ← all.filterMapM fun p => do
    match p.declared with
    | some e => return some (p.name, annotationText (← evaluator.expr env e))
    | none => return none
  match returns with
  | some e => return given ++ [("return", annotationText (← evaluator.expr env e))]
  | none => return given

def launchOptions : List String :=
  ["grid", "num_warps", "num_ctas", "num_stages", "waves_per_eu", "matrix_instr_nonkdim", "enable_warp_specialization",
   "extern_libs", "stream", "warmup", "device", "device_type"]

/-- The default of a parameter in a launch. Launches write every default out in their own signature, so what counts is the value
of the expression written; the name of a scalar type stands for the type. -/
def launchDefault (v : Value) : Lower Value := do
  if v.isConst then refuse .missingAttribute
  match Scalar.ofName? v.text with
  | some s => return .ty (.scalar s)
  | none =>
    let e ← Lower.ofExcept (parseExpr v.text)
    let env : Env := { space := .builtins, locals := some [("triton", .space .root)] }
    try
      evaluator.expr env e
    catch f => if f.kind != .notImplemented then throw f else return v

def allDefaults (params : Params) (defaults : List Value) (named : List (Option Value)) : List (Option Value) :=
  List.replicate (params.args.length - defaults.length) none ++ defaults.map some ++ params.vararg.toList.map (fun _ => none) ++
    named ++ params.kwarg.toList.map (fun _ => none)

/-- A kernel's parameters have to be usable as those of its launch, where none without a default follows one with a default;
the defaults that they have there. -/
def checkLaunch (info : FuncInfo) (params : Params) : Lower (List Value) := do
  if info.paramNames.any launchOptions.contains then refuse .badSource
  let defaults := (allDefaults params info.defaults info.namedDefaults).dropWhile (·.isNone)
  if defaults.any (·.isNone) then refuse .badSource
  (defaults.filterMap id).mapM launchDefault

def firstLine (pos : SourcePos) (decorators : List Expr) : Nat :=
  match decorators with
  | d :: _ => d.pos.line.toNat
  | [] => pos.line.toNat

structure SourceFile where
  space : Space
  file : String
  source : String
  tokens : List Token

def treeOf (text : String) : Result FuncDef := do
  match ← parse text with
  | [.func _ f] => .ok f
  | _ => .error .assertion

def define (u : SourceFile) (env : Env) (pos : SourcePos) (f : FuncDef) : Lower Env := do
  let marks ← f.decorators.mapM (mark env)
  let defaults ← f.params.defaults.mapM fun e => evaluator.expr env e
  let namedDefaults ← f.params.kwDefaults.mapM fun e => e.mapM fun e => evaluator.expr env e
  let returns := match f with
    | .mk _ _ returns _ _ => returns
  let texts ← annotations env f.params returns
  let first := firstLine pos f.decorators
  let lines := definitionLines u.source u.tokens first
  let info : FuncInfo :=
    { name := f.name, space := u.space, file := u.file, beginLine := definitionBegin lines first
      text := definitionText lines, tree := .error .assertion, defaults, namedDefaults, isJit := false
      annotations := texts }
  let info ← match marks.getLast? with
    | none => pure { info with tree := .ok f }
    | some m =>
      if m.interpret then pure { info with tree := .ok f, interpret := true }
      else do
        let info := { info with
          tree := .ok f, isJit := true, noinline := m.noinline, debug := m.debug, notSpecialized := m.notSpecialized }
        let constants ← Lower.ofExcept info.constantPositions
        let _ ← Lower.ofExcept (info.notSpecializedPositions constants)
        pure { info with tree := treeOf info.text, launchDefaults := ← checkLaunch info f.params }
  modifyProgram (·.addFunc info)
  return env

def libraryModules : Named Space :=
  [("triton", .root), ("triton.language", .language), ("torch", .user "torch")]

def find? (p : Program) (name : String) : Option Space :=
  match libraryModules.lookup name with
  | some s => some s
  | none => if p.spaces.any (·.1 == .user name) then some (.user name) else none

def importModule (name : String) (as : Option String) : Lower Env := do
  match find? (← read).program name with
  | none => refuse .missingModule
  | some s =>
    match as with
    | some n => env.define n (.space s)
    | none =>
      let outer := (name.splitOn ".").headD name
      match find? (← read).program outer with
      | some o => env.define outer (.space o)
      | none => env.define outer (.space s)

def importNames (name : String) (names : List (String × Option String)) : Lower Env := do
  match find? (← read).program name with
  | none => refuse .missingModule
  | some s =>
    let scope := (← read).program.scope s
    names.foldlM (fun env (n, as) =>
      match scope.find? n with
      | some v => env.define (as.getD n) v
      | none => refuse .importing) env

def runStmt (u : SourceFile) (env : Env) : Stmt → Lower Env
  | .func pos f => define u env pos f
  | .importing _ names => names.foldlM (fun env (n, as) => importModule env n as) env
  | .importFrom _ (some name) names 0 => importNames env name names
  | .importFrom _ _ _ _ => refuse .importing
  | s => do
    match ← evaluator.stmt env s with
    | .next env => return env
    | _ => refuse .badSource

def load (name source : String) : Lower PUnit := do
  let tokens ← Lower.ofExcept (Source.tokens source)
  let stmts ← Lower.ofExcept (parse source)
  let space := Space.user name
  let u : SourceFile := { space, file := name ++ ".py", source, tokens }
  let env : Env := { space }
  let env ← env.define "triton" (.space .root)
  let env ← env.define "tl" (.space .language)
  let _ ← stmts.foldlM (runStmt u) env

end Module

end TileKernel.Lowering

/-! ## The library

Lines are numbered as in the file that locations of operations name.
-/

namespace TileKernel.Lowering.Library

def extremum (name word : String) : String :=
  s!"@jit\n@documented(\"{word}\",
            \"return_indices\",
            \"return_indices_tie_break_left\")\ndef {name}(input, axis=None, return_indices=False, return_indices_tie_break_left=True):
    input = core._promote_reduction_input(input)
    if return_indices:
        if return_indices_tie_break_left:
            return core._reduce_with_indices(input, axis, _arg{name}_combine_tie_break_left)
        else:
            return core._reduce_with_indices(input, axis, _arg{name}_combine_tie_break_fast)
    else:
        if core.constexpr(input.dtype.primitive_bitwidth) < 32:
            if core.constexpr(input.dtype.is_floating()):
                input = input.to(core.float32)
            else:
                assert input.dtype.is_integer_type()
                input = input.to(core.int32)
        return core.reduce(input, axis, {word})"

def standardLines : List (Nat × String) :=
  [(11, "@jit\ndef cdiv(x, div):"),
   (21, "    return (x + div - 1) // div"),
   (24, "@jit\n@documented(\"sigmoid\")\ndef sigmoid(x):
    return 1 / (1 + core.exp(-x))"),
   (30, "@jit\n@documented(\"softmax\")\ndef softmax(x, ieee_rounding=False):
    z = x - max(x, 0)
    num = core.exp(z)
    den = sum(num, 0)
    return core.fdiv(num, den, ieee_rounding)"),
   (39, "@jit\ndef ravel(x):"),
   (47, "    return core.view(x, [x.numel])"),
   (50, "@jit\ndef swizzle2d(i, j, size_i, size_j, size_g):"),
   (67, "    ij = i * size_j + j"),
   (70, "    size_gj = size_g * size_j"),
   (72, "    group_id = ij // size_gj"),
   (74, "    off_i = group_id * size_g"),
   (76, "    size_g = minimum(size_i - off_i, size_g)"),
   (78, "    new_i = off_i + (ij % size_g)"),
   (79, "    new_j = (ij % size_gj) // size_g"),
   (80, "    return new_i, new_j"),
   (83, "@jit\ndef zeros(shape, dtype):"),
   (93, "    return core.full(shape, 0, dtype)"),
   (96, "@jit\ndef zeros_like(input):
    return zeros(input.shape, input.dtype)"),
   (101, "@jit\ndef minimum(x, y):"),
   (111, "    return math.min(x, y)"),
   (114, "@jit\ndef maximum(x, y):"),
   (124, "    return math.max(x, y)"),
   (129, "@jit"),
   (130, "def _argmax_combine(value1, index1, value2, index2, tie_break_left):"),
   (131, "    if tie_break_left:"),
   (132, "        tie = value1 == value2 and index1 < index2"),
   (133, "    else:"),
   (134, "        tie = False"),
   (135, "    gt = value1 > value2 or tie"),
   (136, "    v_ret = core.where(gt, value1, value2)"),
   (137, "    i_ret = core.where(gt, index1, index2)"),
   (138, "    return v_ret, i_ret"),
   (141, "@jit"),
   (142, "def _argmax_combine_tie_break_left(value1, index1, value2, index2):"),
   (143, "    return _argmax_combine(value1, index1, value2, index2, True)"),
   (146, "@jit\ndef _argmax_combine_tie_break_fast(value1, index1, value2, index2):
    return _argmax_combine(value1, index1, value2, index2, False)"),
   (151, extremum "max" "maximum"),
   (172, "@jit\n@documented(\"maximum index\")\ndef argmax(input, axis, tie_break_left=True):
    (_, ret) = max(input, axis, return_indices=True, return_indices_tie_break_left=tie_break_left)
    return ret"),
   (181, "@jit"),
   (182, "def _argmin_combine(value1, index1, value2, index2, tie_break_left):"),
   (183, "    if tie_break_left:"),
   (184, "        tie = value1 == value2 and index1 < index2"),
   (185, "    else:"),
   (186, "        tie = False"),
   (187, "    lt = value1 < value2 or tie"),
   (188, "    value_ret = core.where(lt, value1, value2)"),
   (189, "    index_ret = core.where(lt, index1, index2)"),
   (190, "    return value_ret, index_ret"),
   (193, "@jit"),
   (194, "def _argmin_combine_tie_break_left(value1, index1, value2, index2):"),
   (195, "    return _argmin_combine(value1, index1, value2, index2, True)"),
   (198, "@jit\ndef _argmin_combine_tie_break_fast(value1, index1, value2, index2):
    return _argmin_combine(value1, index1, value2, index2, False)"),
   (203, extremum "min" "minimum"),
   (224, "@jit\n@documented(\"minimum index\",
            \"tie_break_left\")\ndef argmin(input, axis, tie_break_left=True):
    _, ret = min(input, axis, return_indices=True, return_indices_tie_break_left=tie_break_left)
    return ret"),
   (232, "@jit\ndef _sum_combine(a, b):
    return a + b"),
   (239, "@jit\n@documented(\"sum\")\ndef sum(input, axis=None):
    input = core._promote_reduction_input(input)
    return core.reduce(input, axis, _sum_combine)"),
   (246, "@jit\ndef _xor_combine(a, b):
    return a ^ b"),
   (267, "@jit\n@documented(\"cumsum\")\ndef cumsum(input, axis=0):"),
   (271, "    input = core._promote_reduction_input(input)
    return core.associative_scan(input, axis, _sum_combine)"),
   (277, "@jit\ndef _prod_combine(a, b):
    return a * b"),
   (282, "@jit\n@documented(\"cumprod\")\ndef cumprod(input, axis=0):"),
   (286, "    input = core._promote_reduction_input(input)
    return core.associative_scan(input, axis, _prod_combine)")]

/-! ### Random numbers -/

def randomLines : List (Nat × String) :=
  [(16, "@jit"),
   (17, "def philox_impl(c0, c1, c2, c3, k0, k1, n_rounds: tl.constexpr = N_ROUNDS_DEFAULT):"),
   (21, "    for _ in tl.static_range(n_rounds):"),
   (24, "        A = PHILOX_ROUND_A"),
   (25, "        B = PHILOX_ROUND_B"),
   (26, "        _c0, _c2 = c0, c2"),
   (27, "        c0 = tl.umulhi(B, _c2) ^ c1 ^ k0"),
   (28, "        c2 = tl.umulhi(A, _c0) ^ c3 ^ k1"),
   (29, "        c1 = B * _c2"),
   (30, "        c3 = A * _c0"),
   (32, "        k0 = k0 + PHILOX_KEY_A"),
   (33, "        k1 = k1 + PHILOX_KEY_B"),
   (34, "    return c0, c1, c2, c3"),
   (37, "@jit"),
   (38, "def philox(seed, c0, c1, c2, c3, n_rounds: tl.constexpr = N_ROUNDS_DEFAULT):"),
   (39, "    seed = seed.to(tl.uint64)"),
   (40, "    seed_hi = ((seed >> 32) & 0xffffffff).to(tl.uint32)"),
   (41, "    seed_lo = (seed & 0xffffffff).to(tl.uint32)"),
   (42, "    c0 = c0.to(tl.uint32, bitcast=True)"),
   (43, "    c1 = c1.to(tl.uint32, bitcast=True)"),
   (44, "    c2 = c2.to(tl.uint32, bitcast=True)"),
   (45, "    c3 = c3.to(tl.uint32, bitcast=True)"),
   (46, "    return philox_impl(c0, c1, c2, c3, seed_lo, seed_hi, n_rounds)"),
   (49, "@jit"),
   (50, "def randint(seed, offset, n_rounds: tl.constexpr = N_ROUNDS_DEFAULT):"),
   (61, "    ret, _, _, _ = randint4x(seed, offset, n_rounds)"),
   (62, "    return ret"),
   (65, "@jit"),
   (66, "def randint4x(seed, offset, n_rounds: tl.constexpr = N_ROUNDS_DEFAULT):"),
   (78, "    _0 = offset * 0"),
   (79, "    return philox(seed, offset, _0, _0, _0, n_rounds)"),
   (94, "@jit\ndef uint32_to_uniform_float(x):"),
   (99, "    x = x.to(tl.int32, bitcast=True)"),
   (101, "    scale = 4.6566127342e-10
    x = tl.where(x < 0, -x - 1, x)
    return x * scale"),
   (106, "@jit\ndef rand(seed, offset, n_rounds: tl.constexpr = N_ROUNDS_DEFAULT):"),
   (115, "    offset = offset.to(tl.uint32, bitcast=True)
    source = randint(seed, offset, n_rounds)
    return uint32_to_uniform_float(source)"),
   (120, "@jit\ndef rand4x(seed, offsets, n_rounds: tl.constexpr = N_ROUNDS_DEFAULT):"),
   (129, "    offsets = offsets.to(tl.uint32, bitcast=True)
    i1, i2, i3, i4 = randint4x(seed, offsets, n_rounds)
    u1 = uint32_to_uniform_float(i1)
    u2 = uint32_to_uniform_float(i2)
    u3 = uint32_to_uniform_float(i3)
    u4 = uint32_to_uniform_float(i4)
    return u1, u2, u3, u4"),
   (142, "@jit\ndef pair_uniform_to_normal(u1, u2):"),
   (145, "    u1 = standard.maximum(1.0e-7, u1)
    th = 6.283185307179586 * u2
    r = tl.sqrt(-2.0 * tl.log(u1))
    return r * tl.cos(th), r * tl.sin(th)"),
   (151, "@jit\ndef randn(seed, offset, n_rounds: tl.constexpr = N_ROUNDS_DEFAULT):"),
   (160, "    i1, i2, _, _ = randint4x(seed, offset, n_rounds)
    u1 = uint32_to_uniform_float(i1)
    u2 = uint32_to_uniform_float(i2)
    n1, _ = pair_uniform_to_normal(u1, u2)
    return n1"),
   (167, "@jit\ndef randn4x(seed, offset, n_rounds: tl.constexpr = N_ROUNDS_DEFAULT):"),
   (176, "    u1, u2, u3, u4 = rand4x(seed, offset, n_rounds)
    n1, n2 = pair_uniform_to_normal(u1, u2)
    n3, n4 = pair_uniform_to_normal(u3, u4)
    return n1, n2, n3, n4")]

end TileKernel.Lowering.Library

/-! ### Namespaces -/

namespace TileKernel.Lowering

open Source

namespace Library

def listing (lines : List (Nat × String)) : String :=
  let (text, _) := lines.foldl (fun (text, next) (n, line) =>
    (text ++ List.replicate (n - next) "" ++ [line], n + (line.splitOn "\n").length)) (([] : List String), 1)
  "\n".intercalate text ++ "\n"

def elementTypes : Named Scalar :=
  [("void", .void), ("int1", .int1), ("int8", .int8), ("int16", .int16), ("int32", .int32), ("int64", .int64),
   ("uint8", .uint8), ("uint16", .uint16), ("uint32", .uint32), ("uint64", .uint64), ("float8e5", .fp8e5),
   ("float8e5b16", .fp8e5b16), ("float8e4nv", .fp8e4nv), ("float8e4b8", .fp8e4b8), ("float8e4b15", .fp8e4b15),
   ("float8e4b15x4", .fp8e4b15x4), ("float16", .fp16), ("bfloat16", .bf16), ("float32", .fp32), ("float64", .fp64)]

def classes : Named Kind :=
  [("dtype", .scalarTy), ("pointer_type", .pointerTy), ("block_type", .blockTy), ("function_type", .functionTy),
   ("constexpr", .const), ("tensor", .tensor), ("static_range", .staticRange)]

def primitivesOf (s : Space) : Scope :=
  (Primitive.all.filter (·.space == s)).map fun p => (p.name, .primitive s p.name)

def core : Scope :=
  elementTypes.map (fun (n, s) => (n, .ty (.scalar s))) ++ [("pi32_t", .ty (.ptr .int32))] ++
    classes.map (fun (n, k) => (n, .kind k)) ++ [("TRITON_MAX_TENSOR_NUMEL", .int Ty.maxElements)] ++
    primitivesOf .core ++ [("semantic", .space .semantic)]

def exported : List String :=
  ["TRITON_MAX_TENSOR_NUMEL", "abs", "advance", "arange", "associative_scan", "atomic_add", "atomic_and", "atomic_cas",
   "atomic_max", "atomic_min", "atomic_or", "atomic_xchg", "atomic_xor", "block_type", "broadcast", "broadcast_to", "cat",
   "constexpr", "cos", "debug_barrier", "device_assert", "device_print", "dot", "dtype", "exp", "expand_dims", "full",
   "fdiv", "function_type", "inline_asm_elementwise", "load", "log", "make_block_ptr", "max_constancy", "max_contiguous",
   "multiple_of", "num_programs", "pi32_t", "pointer_type", "program_id", "reduce", "reshape", "sin", "sqrt",
   "static_assert", "static_print", "store", "static_range", "tensor", "trans", "umulhi", "view", "where"] ++
    elementTypes.map (·.1)

def exportedStandard : List String :=
  ["argmax", "argmin", "cdiv", "cumprod", "cumsum", "max", "maximum", "min", "minimum", "sigmoid", "softmax", "sum", "ravel",
   "swizzle2d", "xor_sum", "zeros", "zeros_like"]

def exportedRandom : List String :=
  ["pair_uniform_to_normal", "philox", "philox_impl", "rand", "rand4x", "randint", "randint4x", "randn", "randn4x",
   "uint32_to_uniform_float"]

def randomConstants : Scope :=
  [("PHILOX_KEY_A", .int 0x9E3779B9), ("PHILOX_KEY_B", .int 0xBB67AE85), ("PHILOX_ROUND_A", .int 0xD2511F53),
   ("PHILOX_ROUND_B", .int 0xCD9E8D57), ("N_ROUNDS_DEFAULT", .int 10)]

def defineAll (space : Space) (file : String) (lines : List (Nat × String)) : Lower Unit := do
  let source := listing lines
  let tokens ← ofExcept (Source.tokens source)
  let env : Env := { space }
  for s in ← ofExcept (parse source) do
    if let .func pos f := s then
      let defaults ← f.params.defaults.mapM fun e => evaluator.expr env e
      let first := Module.firstLine pos f.decorators
      let lines := definitionLines source tokens first
      let text := definitionText lines
      let info : FuncInfo :=
        { name := f.name, space, file, beginLine := definitionBegin lines first, text, tree := Module.treeOf text
          defaults }
      Lower.modifyProgram (·.addFunc info)

def build : Lower Unit := do
  let put (s : Space) (names : Scope) : Lower Unit :=
    Lower.modifyProgram fun p => { p with spaces := p.spaces ++ [(s, names)] }
  let marker : String × Value := ("jit", .primitive .root "jit")
  put .core core
  put .math (primitivesOf .math ++ [("core", .space .core)])
  put .semantic (primitivesOf .semantic)
  put .cuda (primitivesOf .cuda ++ [("core", .space .core)])
  put .extra [("cuda", .space .cuda)]
  put .standard ([marker, ("core", .space .core), ("math", .space .math)] ++ primitivesOf .standard)
  put .random ([marker, ("tl", .space .core), ("standard", .space .standard)] ++ randomConstants)
  defineAll .standard "REPO/triton/language/standard.py" standardLines
  defineAll .random "REPO/triton/language/random.py" randomLines
  let program := (← read).program
  let from_ (s : Space) (names : List String) : Scope :=
    names.filterMap fun n => ((program.scope s).find? n).map (n, ·)
  let modules : Scope :=
    [("math", .space .math), ("extra", .space .extra), ("core", .space .core), ("semantic", .space .semantic),
     ("standard", .space .standard), ("random", .space .random)]
  put .language (modules ++ from_ .standard exportedStandard ++ from_ .core exported ++ from_ .random exportedRandom)
  put .root ([marker, ("language", .space .language)] ++ primitivesOf .root)
  put (.user "torch") []

def program : Program :=
  match build.run default with
  | .ok _ s => s.program
  | .error _ s => s.program

end Library

end TileKernel.Lowering
