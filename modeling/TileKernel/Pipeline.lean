import TileKernel.Lowering.Value
import TileKernel.Tensor.Shape

/-! # Pipelines

A kernel that is given as text names itself and its arguments in its prototype. The passes that a kernel goes through are lists of
steps, which depend on the device and on the options of the kernel.
-/

namespace TileKernel.Pipeline

open Text Text.Pattern

variable (t : PassTarget)

namespace Prototype

private def blanks : Pattern := many (one isSpace)

private def someBlanks : Pattern := atLeastOne (one isSpace)

private def word : Pattern := atLeastOne (one isWord)

private def dark : Pattern := atLeastOne (one fun c => !isSpace c)

private def attributes : Pattern :=
  optional (all [text " \x7b", dark, text " = ", dark, text " : ", dark, text "\x7d"])

def tile : Pattern :=
  let arg := all [text "%", word, text ": ", dark, attributes, optional (text ", ")]
  all [lineStart, blanks, text "tt.func", someBlanks, optional (all [text "public", someBlanks]),
    capture 1 (all [text "@", word]), capture 2 (all [text "(", many arg, text ")"]), blanks,
    text "\x7b", blanks, lineEnd]

def tileArgument : Pattern :=
  all [text "%", word, text ": ", capture 1 (atLeastOne (one fun c => !isSpace c && isAnyBut [',', '^', ')'] c)),
    attributes, optional (text ",")]

def assembled : Pattern :=
  all [text ".", firstOf [text "visible", text "extern"], someBlanks, text ".",
    firstOf [text "entry", text "func"], someBlanks, capture 1 word, blanks, text "(",
    capture 2 (many (one (· != ')'))), text ")"]

def assembledArgument : Pattern := all [text ".param", someBlanks, text ".", capture 1 word]

def pointer : Pattern := all [text "!tt.ptr<", capture 1 (many (one isOnLine)), text ">"]

def signatureType (s : String) : String := go (s.length + 1) s
where
  go : Nat → String → String
    | 0, s => s
    | fuel + 1, s =>
      match search? pointer s with
      | some m => "*" ++ go fuel (m.group 1)
      | none => s

def patterns (form : String) : Result (Pattern × Pattern) :=
  match form with
  | "ttir" | "ttgir" => .ok (tile, tileArgument)
  | "ptx" => .ok (assembled, assembledArgument)
  | _ => refused .key

structure Facts where
  name : String
  arguments : String
  types : List String

def read? (form text : String) : Result (Option Facts) := do
  let (prototype, argument) ← patterns form
  return (search? prototype text).map fun m =>
    { name := m.group 1, arguments := m.group 2
      types := (findAll argument (m.group 2)).map fun a => signatureType (a.group 1) }

def warpCounts (text : String) : List String :=
  let digit (c : Char) : Bool := c.isDigit
  let pattern := all [Pattern.text "\"triton_gpu", one isOnLine, Pattern.text "num-warps\"", optional (one isSpace),
    Pattern.text "=", optional (one isSpace), capture 1 (atLeastOne (one digit)), optional (one isSpace),
    Pattern.text ":"]
  (findAll pattern text).map (·.group 1)

def words (line : String) : List String :=
  (((line.toList.splitBy fun a b => isSpace a == isSpace b).filter fun w => !(w.any isSpace)).map String.ofList)

def kernelName (text mark : String) : Result (Option String) :=
  if text.isEmpty then .error .assertion
  else
    let lines := (Text.parts '\n' text).map fun l => String.ofList (Reading.strip l.toList)
    match lines.find? (·.startsWith mark) with
    | none => .ok none
    | some l => match (words l).getLast? with
      | some w => .ok (some w)
      | none => refused .index

def assemblyVersion (toolkit : String) : Result Int := do
  let parts ← (toolkit.splitOn ".").mapM fun p => match Reading.int? p with
    | some n => .ok n
    | none => refused .value
  match parts with
  | [major, minor] =>
    if major = 12 then return 80 + minor
    else if major = 11 then return 70 + minor
    else if major = 10 then return 63 + minor
    else .error (.stated .runtime "Triton only support CUDA 10.0 or higher")
  | _ => refused .value

end Prototype

/-! ## Passes -/

open Lowering

structure Pass where
  name : String
  args : List Value := []

inductive Step where
  | manager
  | pass (p : Pass)
  | run

/-- The device that a pipeline is for: a number for numbered capabilities, any other description otherwise. -/
structure PassTarget where
  arch : Value
  isHip : Bool := false
  matrixCore : Result Nat := .ok 0

namespace PassTarget

def capability? : Option Int := t.arch.int?

def passArch : Value := if t.isHip then .int 0 else t.arch

def generation (p : Int → Bool) : Bool := (t.capability?).any fun n => p (n.fdiv 10)

end PassTarget

private def pass (name : String) (args : List Value := []) : Step := .pass ⟨name, args⟩

private def managed (passes : List Step) : List Step := [.manager] ++ passes ++ [.run]

def inlining : List Step := managed [pass "inliner"]

def pointerExpansion : List Step :=
  managed (match t.capability? with
    | some n => [pass "rewrite_tensor_pointer" [.int n, .bool false]]
    | none => if t.isHip then [pass "rewrite_tensor_pointer" [.int 90, .bool true]] else [])

def tilePasses : List Step :=
  inlining ++ pointerExpansion t ++
    managed [pass "inliner", pass "triton_combine", pass "canonicalizer", pass "reorder_broadcast", pass "cse", pass "licm",
      pass "symbol_dce"]

def layoutPasses (numWarps warpSize numCtas : Value) : List Step :=
  managed [pass "convert_triton_to_tritongpu" [numWarps, warpSize, numCtas, t.passArch]]

structure LayoutOptions where
  numStages : Value
  numWarps : Value
  numCtas : Value
  cluster : List Value := [.int 1, .int 1, .int 1]
  warpSpecialization : Value := .bool false
  /-- Whether results are stored from the layout that they were computed in. -/
  epilogue : Bool := false
  instruction : Value := .int 0

/-- The pipeline of kernels with layouts. `rolesSupported` tells whether a module that was checked can have warps with
different roles. -/
def optimizationPasses (o : LayoutOptions) (rolesSupported : Bool) : Result (List Step) := do
  let plan := pass "plan_cta" [.list o.cluster]
  let isZero (v : Value) : Bool := Constant.equal v (.int 0)
  let version : Nat ← if t.isHip then t.matrixCore else pure 0
  let before := [pass "tritongpu_coalesce", plan] ++
    (if t.capability?.isSome then [pass "tritongpu_rewrite_tensor_pointer" [t.arch], plan] else []) ++
    [pass "tritongpu_remove_layout_conversions"] ++
    (if t.capability?.isSome then [pass "tritongpu_accelerate_matmul" [t.arch]] else []) ++
    (if t.isHip then [pass "tritonamdgpu_accelerate_matmul" [.int version, o.instruction]] else []) ++
    [pass "tritongpu_remove_layout_conversions"] ++
    (if o.epilogue then [pass "tritongpu_optimize_epilogue"] else []) ++
    [pass "tritongpu_optimize_dot_operands"] ++
    (if isZero o.numStages && t.isHip && version != 0 then [pass "tritongpu_stream_pipeline", pass "canonicalizer"] else [])
  let checked := t.generation (· ≥ 9) && o.warpSpecialization.truth && Constant.equal o.numWarps (.int 4)
  let checking := if checked then [pass "tritongpu_ws_feasibility_checking" [t.arch], .run, .manager] else []
  let pipelining := if checked && rolesSupported then
      [pass "tritongpu_wsdecomposing" [t.arch], pass "tritongpu_wspipeline" [o.numStages, o.numWarps, t.arch],
       pass "tritongpu_wsmutex" [t.arch], pass "tritongpu_wsmaterialization" [t.arch], pass "cse"]
    else [pass "tritongpu_pipeline" [o.numStages, o.numWarps, o.numCtas, t.passArch]]
  let after := [pass "tritongpu_materialize_load_store" [o.numWarps, t.passArch]] ++
    (if t.generation (· ≤ 8) then [pass "tritongpu_prefetch"] else []) ++
    [pass "tritongpu_optimize_dot_operands", pass "tritongpu_remove_layout_conversions",
     pass "tritongpu_decompose_conversions", pass "tritongpu_ws_fixup_missing_attrs"] ++
    (if isZero o.numStages then [] else [pass "tritongpu_reorder_instructions"]) ++
    [pass "cse", pass "symbol_dce"] ++
    (if t.generation (· ≥ 9) then [pass "tritongpu_fence_insertion"] else []) ++
    [pass "tritongpu_ws_fixup_missing_attrs"]
  return managed (before ++ checking ++ pipelining ++ after)

structure Call where
  name : String
  args : List Value

def libraryCalls (module : Value) (libs : Named String) : List Call :=
  if libs.isEmpty || libs.any (fun (n, p) => n.isEmpty || p.isEmpty) then []
  else [⟨"add_external_libs", [module, .list (libs.map (.str ·.1)), .list (libs.map (.str ·.2))]⟩]

/-- The calls that bring a kernel with layouts into the next lower form; `maps` collects the descriptors of tensors. -/
def lowerFormCalls (module : Value) (libs : Named String) (maps : Value) (waves : Value) : List Call :=
  let rest := match t.capability? with
    | some n => [module, .int n, maps, .str "NVVM", waves]
    | none => [module, .int 0, maps, .str "ROCDL", waves]
  libraryCalls module libs ++ [⟨"translate_triton_gpu_to_llvmir", rest⟩]

end TileKernel.Pipeline
