import TileKernel.Lowering.Builtins
import TileKernel.Source.Evaluator

/-! # Evaluation

The top level of a source and the bodies of plain functions are evaluated instead of being lowered.

## The table of primitives

Outside a kernel, primitives that build operations refuse to work.
-/

namespace TileKernel.Lowering

namespace Primitive

def all : List Primitive :=
  Blocks.primitives ++ Memory.primitives ++ Reduction.primitives ++ Blocks.deviceQueries ++ Blocks.mathPrimitives ++
    Typing.primitives ++ Builtins.primitives ++ Builtins.sizePrimitives

def find? (space : Space) (name : String) : Option Primitive := all.find? fun p => p.name == name && p.space == space

end Primitive

def Surroundings.none : Surroundings := { callFunction := fun _ _ => Lower.refuse .missingAttribute }

abbrev Evaluation := Combining .none

def calledOutside : Fault := .stated .runtime "Cannot call @triton.jit'd outside of the scope of a kernel"

def callPrimitiveOutside (space : Space) (name : String) (args : List Value) (keywords : Named Value) : Evaluation Value := do
  if space == .builtins && name == "print" then return ← Builtins.print args keywords
  match Primitive.find? space name with
  | some p =>
    if p.guarded then throw .outsideKernel
    if p.builds then Rule.refuse .type
    p.call .none false args keywords
  | none => Rule.refuse .type

def callOutside (apply : FuncRef → List Value → Named Value → Evaluation Value) (f : Value) (args : List Value)
    (keywords : Named Value) : Evaluation Value :=
  match f.unwrap with
  | .primitive space name => callPrimitiveOutside space name args keywords
  | .kind k => Rule.ofExcept (Builtins.construct k args keywords)
  | .method (.tensor _) name =>
    match Operators.method? name with
    | some p => if p.guarded then throw .outsideKernel else Rule.refuse .missingAttribute
    | none => Rule.refuse .type
  | .method v name => if keywords.isEmpty then Rule.ofExcept (Attribute.callMethod v name args) else Rule.refuse .type
  | .func f => if f.isJit then throw calledOutside else apply f args keywords
  | _ => Rule.refuse .type

/-! ## Visiting trees

Visiting a node moves the current source location to it, and a failure is reported at the node visited last. Nodes that lowering
makes up have no place: they leave the location alone, and nothing is reported at them.
-/

open IR Source

namespace Lower

def noteVisit (place : Option SourcePos) : Lower Unit where
  run := modify fun s => { s with visited := if s.depth = 0 then place.elim .unplaced .at else s.visited }
  within := by
    rintro _ _ _ ⟨⟩
    exact .of_eq rfl rfl rfl (Composes.refl _)

def locOf (p : SourcePos) : Lower Loc := do
  let f ← frame
  return .at f.file (f.lineOffset + p.line) p.column

/-- Visit a node: the location is the node's during the visit and afterwards. -/
def visiting {α : Type} (p : SourcePos) (x : Lower α) : Lower α := do
  noteVisit (some p)
  let loc ← locOf p
  Build.setLoc loc
  let a ← x
  Build.setLoc loc
  return a

def visitingUnplaced {α : Type} (x : Lower α) : Lower α := do
  noteVisit none
  let loc ← ofBuild Build.getLoc
  let a ← x
  Build.setLoc loc
  return a

/-- Refuse a construct at a place; nothing can be reported at a node without one. -/
def unsupported {α : Type} (p : Option SourcePos) (text : String) : Lower α :=
  match p with
  | some p => throw (.compile .unsupportedConstruct none p (some text))
  | none => refuse .missingAttribute

def unsupportedNode {α : Type} (p : SourcePos) (kind : String) : Lower α :=
  unsupported (some p) ("unsupported AST node type: " ++ kind)

def dereference (name : String) : Lower Value := do
  noteRead name
  let f ← frame
  match f.scope.find? name with
  | some v => return v
  | none =>
    match ((← read).program.scope f.space).find? name with
    | some v => return v
    | none =>
      match name with
      | "range" => return .kind .range
      | "float" => return .kind .float
      | "int" => return .kind .int
      | "isinstance" | "getattr" => return .primitive .builtins name
      | "print" => return .primitive .core "device_print"
      | "min" =>
        match ((← read).program.scope .standard).find? "minimum" with
        | some v => return v
        | none => throw (.undefinedName name)
      | _ => throw (.undefinedName name)

def place : Lower (Option Cursor × Loc) := do
  let c ← ofBuild Build.cursor
  let loc ← ofBuild Build.getLoc
  return (c, loc)

def returnTo (p : Option Cursor × Loc) : Lower Unit := do
  Build.restore p.1
  Build.setLoc p.2

/-- Lower a part of a function in which assignments are recorded anew, and return to the insertion point from before; the part
is given the names known at its start. -/
def inSubRegion {α : Type} (x : Scope → Lower α) : Lower α := do
  let cursor ← ofBuild Build.cursor
  let (a, _) ← recording (x (← frame).scope)
  Build.restore cursor
  return a

end Lower

structure Visitors where
  expr : Expr → Lower Value
  block : List Stmt → Lower Unit
  call : FuncRef → List Value → Named Value → Lower Value
  common : Scope → Scope → List String

/-! ## Evaluators -/

structure Env where
  space : Space
  locals : Option Scope := none

namespace Env

def lookup (env : Env) (name : String) : Evaluation Value := do
  match (env.locals.getD []).find? name with
  | some v => return v
  | none =>
    match ((← Rule.program).scope env.space).find? name with
    | some v => return v
    | none =>
      match Builtins.find? name with
      | some v => return v
      | none => Rule.refuse .unknownName

def define (env : Env) (name : String) (v : Value) : Evaluation Env := do
  match env.locals with
  | some s => return { env with locals := some (s.set name v) }
  | none =>
    Rule.define env.space name v
    return env

end Env

abbrev Evaluator := Source.Evaluator Evaluation Env Value

namespace Evaluator

def literal : Literal → Value
  | .none => .none
  | .bool b => .bool b
  | .int n => .int n
  | .float x => .float x
  | .imaginary x => .imaginary x
  | .str s => .str s
  | .bytes s => .bytes s
  | .ellipsis => .ellipsis

def compareOne (op : CompareOp) (a b : Value) : Result Value :=
  match op with
  | .eq => Methods.compare .eq a b
  | .notEq => Methods.compare .ne a b
  | .lt => Methods.compare .lt a b
  | .ltE => Methods.compare .le a b
  | .gt => Methods.compare .gt a b
  | .gtE => Methods.compare .ge a b
  | .is => .ok (.bool (Constant.same a b))
  | .isNot => .ok (.bool (!Constant.same a b))
  | .isIn => do return .bool ((← Builtins.items b).any (Constant.equal a))
  | .notIn => do return .bool (!(← Builtins.items b).any (Constant.equal a))

def convert (v : Value) : Option Char → String
  | some 'r' | some 'a' => v.shown
  | _ => v.text

def domain : Domain Evaluation Env Value where
  refuse k := throw (.implicit k)
  lookup := Env.lookup
  define := Env.define
  declares env := env.locals.isNone
  literal := literal
  tuple := .tuple
  list := .list
  slice := .slice
  text := convert
  truth v := pure v.truth
  items v := Rule.ofExcept (Builtins.items v)
  member v name := Attribute.get v name
  item v i :=
    match v with
    | .tensor _ => throw .outsideKernel
    | v => Rule.ofExcept (Methods.item v i)
  unary op v := Rule.ofExcept (Methods.unary op v)
  operate op a b := Rule.ofExcept (Methods.operate op a b)
  compare op a b := Rule.ofExcept (compareOne op a b)

def parameters (info : FuncInfo) (params : Params) : List (Parameter Value) :=
  let names := params.names
  let required := names.length - info.defaults.length
  names.zipIdx.map fun (name, i) =>
    { name, default := if i < required then none else info.defaults[i - required]? }

/-- Match arguments with all parameters of a definition: the positional ones, those beyond them, those given by name only,
and named ones that it does not know. -/
def bindAll (info : FuncInfo) (params : Params) (args : List Value) (ks : Named Value) : Result (List Value) := do
  let (byName, ks) := ks.partition fun (n, _) => params.kwonly.any (·.name == n)
  let (ks, unknown) := ks.partition fun (n, _) => params.names.contains n
  if params.kwarg.isNone && !unknown.isEmpty then throw (.implicit .type)
  let positional ← Primitive.bind (parameters info params) params.vararg.isSome args ks
  let named ← params.kwonly.zipIdx.mapM fun (p, i) =>
    match byName.lookup p.name, (info.namedDefaults[i]?).join with
    | some v, _ | none, some v => .ok v
    | none, none => refused .type
  let rest := if params.kwarg.isSome then [Value.dict (unknown.map (.str ·.1)) (unknown.map (·.2))] else []
  return positional ++ named ++ rest

def apply (r : Evaluator) (f : FuncRef) (args : List Value) (ks : Named Value) : Evaluation Value := do
  let info := (← Rule.program).func f
  let tree ← Rule.ofExcept info.tree
  let values ← Rule.ofExcept (bindAll info tree.params args ks)
  r.body tree.body { space := f.space, locals := some (info.paramNames.zip values) }

end Evaluator

def evaluationDepth : Nat := 1000

def evaluator : Evaluator := .upTo Evaluator.domain (fun r => callOutside (Evaluator.apply r)) evaluationDepth

end TileKernel.Lowering
