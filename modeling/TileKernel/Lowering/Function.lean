import TileKernel.Lowering.Library
import TileKernel.Lowering.Branch

/-! # Lowering of statements and functions

A function is lowered into a function of the graph, once for every combination of argument types and constants: its parameters
become tensors or constants, its statements build operations, and its returns decide its result types.
-/

namespace TileKernel.Lowering

open IR Source Lower Build

namespace Statement

variable (r : Visitors)

def targetNames : Value → List Value
  | .tuple items | .list items => items
  | v => [v]

def stored (v : Value) : Rule Value := do
  match v.unwrap with
  | .none | .tensor _ | .ty _ | .fnTy _ => return v.unwrap
  | v => return .tensor (← Rule.toTensor v)

def store (name v : Value) : Lower Unit :=
  match name with
  | .str s => setValue s v
  | name => if Calls.isHashable name then setValue name.shown v else refuse .type

def assignOne (name v : Value) : Lower Unit := do store name (← stored v)

def assign (target : Value) (value : Lower Value) : Lower Unit := do
  let names := targetNames target
  let values := targetNames (← value)
  (names.zip values).forM fun (n, v) => assignOne n v

def annAssign (target declared value : Lower Value) : Lower Unit := do
  let declared ← declared
  let target ← target
  let value ← value
  match declared with
  | .kind .const =>
    let name := match target with
      | .str s => s
      | v => v.shown
    if (← frame).scope.contains name then throw (.reassignedConstant name)
    bindName name value
  | .tensor _ => throw .outsideKernel
  | _ => refuse .missingAttribute

def augAssign (target : Expr) (op : BinaryOp) (e : Expr) : Lower Unit := do
  match target with
  | .name _ id _ =>
    visitingUnplaced do
      let name ← r.expr target
      assign name (visitingUnplaced do
        Expression.binary op (visitingUnplaced (dereference id)) (r.expr e))
  | _ => refuse .missingAttribute

def giveBack (ts : List Tensor) (ty : ReturnTy) : Lower Unit := do
  emitEffect .ret [.list (ts.map (·.operand))]
  modifyFrame (fun f => { f with returned := some ty }) fun _ => .of_eq rfl rfl rfl

def ret (value : Value) : Lower Unit := do
  match value with
  | .none => emitEffect .ret [.list []]
  | .tuple items =>
    let ts ← Rule.toTensors items
    giveBack ts (.several (ts.map (·.type)))
  | v =>
    let t ← Rule.toTensor v
    giveBack [t] (.one t.type)

end Statement

namespace Function

variable (r : Visitors) (params : Params)

def visitParams : Lower Unit := visitingUnplaced do
  let visit (p : Param) : Lower Unit := visiting p.pos do
    let _ ← p.declared.toList.mapM r.expr
  params.args.forM visit
  params.kwarg.toList.forM visit

def assignDefault (e : Expr) (p : Param) : Lower Unit := visitingUnplaced do
  let target : Lower Value := visitingUnplaced (pure (.str p.name))
  match p.declared with
  | none => do
    let name ← target
    Statement.assign name (r.expr e)
  | some a => Statement.annAssign target (r.expr a) (r.expr e)

def assignDefaults : Lower Unit :=
  (params.defaults.zip params.args.reverse).forM fun q => assignDefault r q.1 q.2

def addHints (function : String) (number : Nat) (hints : Named Int) : Lower Unit :=
  if hints.isEmpty then pure ()
  else ofBuild (modifyFunc function fun fn => { fn with argHints := fn.argHints ++ [(number, hints)] })

/-- The values of the parameters from a position on: constants by position, and for the others the arguments of the entry
block from a number on. -/
def paramValues (f : Header) (entry : BlockId) : (count position number : Nat) → Lower (List Value)
  | 0, _, _ => pure []
  | count + 1, position, number =>
    match f.constants.lookup (position : Int) with
    | some c => do return c.wrap :: (← paramValues f entry count (position + 1) number)
    | none => do
      addHints f.functionName number (f.hints position)
      match f.type.params[number]? with
      | some ty => do
        let v ← ofBuild (blockArg entry number)
        return .tensor ⟨some v, ty⟩ :: (← paramValues f entry count (position + 1) (number + 1))
      | none => refuse .index

def resultTypes : ReturnTy → List Ty
  | .one t => [t]
  | .several ts => ts

def prologue : Lower Unit := do
  visitParams r params
  assignDefaults r params

def enter : Lower Unit := do
  let f ← frame
  let entry ← ofBuild (openFunc f.functionName f.type f.isKernel f.noinline)
  let values ← paramValues f.toHeader entry params.names.length 0 0
  (params.names.zip values).forM fun (n, v) => setValue n v
  toStart entry

/-- End the function of the current frame, by a return if it gives nothing back, and go on where its definition stands. -/
def leave (before : Option BlockId) : Lower Unit := do
  let f ← frame
  match f.returned with
  | none => emitEffect .ret [.list []]
  | some ty =>
    modifyFunc f.functionName fun fn => { fn with type := { fn.type with results := resultTypes ty } }
  before.forM fun b => toEnd b
  dropDeadCode f.functionName

/-- Lower a definition into the function of the current frame. A definition inside another one opens a further entry block
of the same function, and what follows it goes on at the end of the block in front. -/
def define (f : FuncDef) : Lower Unit := do
  let before := (← ofBuild cursor).map (·.block)
  prologue r f.params
  enter f.params
  r.block f.body
  leave before

end Function

namespace Statement

variable (r : Visitors)

def step (s : Stmt) : Lower Unit := do
  match s with
  | .expr _ e => let _ ← r.expr e
  | .assign pos targets e =>
    let names ← targets.mapM r.expr
    match names with
    | [name] => assign name (r.expr e)
    | _ => unsupported (some pos) "simultaneous multiple assignment is not supported."
  | .augAssign _ target op e => augAssign r target op e
  | .annAssign _ target declared e => annAssign (r.expr target) (r.expr declared) (Expression.optional r e)
  | .ret _ e => ret (← Expression.optional r e)
  | .cond pos test body orelse => Branch.conditional r s pos test body orelse
  | .loop _ test body orelse => Loop.conditional r test body orelse
  | .iterate _ target iter body orelse => Loop.iterate r target iter body orelse
  | .pass _ => pure ()
  | .check _ test message =>
    if (← frame).debug then
      let c ← r.expr test
      let m ← Expression.optional r message
      let _ ← Blocks.deviceAssert c m
  | .func _ f => Function.define r f
  | s => unsupportedNode s.pos s.kindName

def block : List Stmt → Lower Unit
  | [] => pure ()
  | s :: rest => do
    visiting s.pos (step r s)
    block rest

end Statement

namespace Function

variable (r : Visitors)

def defaultPlace : SourcePos := ⟨1, 0⟩

def lower (tree : Result FuncDef) : Lower Unit := do
  let f ← Lower.ofExcept tree
  visitingUnplaced (visiting defaultPlace (define r f))

def bindArgs (info : FuncInfo) (args : List Value) (ks : Named Value) : Result (List Value) := do
  let f ← info.tree
  Evaluator.bindAll info f.params args ks

def lowerInstance (info : FuncInfo) (name : String) (types : List Ty) (constants : List (Int × Value)) :
    Lower (Option ReturnTy) where
  run s :=
    let frame : Frame :=
      { space := info.space, file := info.file, lineOffset := info.beginLine - 1, constants, functionName := name
        type := { params := types, results := [] }, noinline := info.noinline, debug := info.debug.getD s.frame.debug }
    let (outer, depth, cursor, loc) := (s.frame, s.depth, s.builder.cursor, s.builder.loc)
    match (lower r info.tree).run { s with
        frame, depth := depth + 1, builder := { s.builder with cursor := none, loc := .at info.file info.beginLine 0 } } with
    | .ok _ t => .ok t.frame.returned { t with
        frame := outer, depth, returns := (name, t.frame.returned) :: t.returns
        builder := { t.builder with cursor, loc } }
    | .error f t => .error f t
  within := by
    intro s a s' h
    simp only at h
    split at h
    · rename_i t hx
      cases h
      obtain ⟨-, -, ⟨new, hnew, hown⟩, hgrown⟩ := (lower r info.tree).within hx
      refine ⟨.of_eq rfl rfl rfl, rfl, ⟨new, hnew, fun read hread => ?_⟩, hgrown⟩
      have hdeep : s.depth + 1 ≤ read.depth := (hown read hread).1
      exact ⟨by omega, fun hd => by omega⟩
    · cases h

def constantArgs (args : List Value) : List (Nat × Value) :=
  args.zipIdx.filterMap fun (v, i) => if v.isConst then some (i, v) else none

def argTypes (args : List Value) : List Ty := (args.filterMap Value.tensor?).map (·.type)

def instanceName (name : String) (args : List Value) : Result String :=
  Types.mangleFn name (argTypes args) ((constantArgs args).map fun (i, v) => (i, v.shown))

def call (ref : FuncRef) (args : List Value) (ks : Named Value) : Lower Value := do
  let info := (← read).program.func ref
  let args ← Lower.ofExcept (bindArgs info args ks)
  let args := args.map fun v => if v.isTensor then v else v.wrap
  let tensors := args.filterMap Value.tensor?
  let name ← Lower.ofExcept (instanceName info.name args)
  let returned ← if ((← read).builder.graph.findFunc? name).isNone then
      lowerInstance r info name (argTypes args) ((constantArgs args).map fun (i, v) => ((i : Int), v))
    else
      match (← read).returns.lookup name with
      | some ty => pure ty
      | none => refuse .key
  let results ← ofBuild (Build.call name (tensors.map (·.operand)))
  match results, returned with
  | [], _ | _, none => return .none
  | [v], some (.one t) => return .tensor ⟨some v, t⟩
  | [_], some (.several _) => refuse .missingAttribute
  | vs, some (.several ts) =>
    if ts.length < vs.length then refuse .index
    return .tuple ((vs.zip ts).map fun (v, t) => .tensor ⟨some v, t⟩)
  | _, some (.one _) => refuse .type

end Function

namespace Visitors

variable (common : Scope → Scope → List String)

def exhausted : Visitors :=
  { expr := fun _ => refuse .recursion
    block := fun _ => refuse .recursion
    call := fun _ _ _ => refuse .recursion
    common }

def upTo : Nat → Visitors
  | 0 => exhausted common
  | fuel + 1 =>
    { expr := fun e => visiting e.pos (Expression.step (upTo fuel) e)
      block := fun ss => Statement.block (upTo fuel) ss
      call := fun f args ks => Function.call (upTo fuel) f args ks
      common }

end Visitors

def loweringDepth : Nat := 1000

/-- Lowering as it is used: names that both branches assigned are looked at in the order in which the first one did. -/
def visitors : Visitors := .upTo (fun thenDefs _ => thenDefs.names) loweringDepth

end TileKernel.Lowering
