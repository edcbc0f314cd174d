import TileKernel.Lowering.Calls

/-! # Lowering of conditionals

A condition that is known chooses one branch. Otherwise both are lowered, and every name that one of them assigned and that was
known before, or that both assigned, gets a new value at the join. Inside loops, and where neither branch can return, they are
the regions of a structured conditional; else blocks of the function. Whether a branch can return is told by names, which are
looked up in the namespace of the function that holds the conditional, also inside the functions it calls.
-/

namespace TileKernel.Lowering

open Source Lower

namespace Returns

def isReturn : Part → Bool
  | .stmt (.ret _ _) => true
  | _ => false

def looked : Part → List Part
  | .expr (.attr _ (.name _ _ _) _ _) | .stmt (.ret _ _) | .stmt (.assign _ _ _) | .stmt (.augAssign _ _ _ _) => []
  | .expr (.call _ f _ _) => [.expr f]
  | .expr (.conditional _ _ a b) => Part.exprs [a, b]
  | .stmt (.cond _ _ body orelse) => Part.stmts (body ++ orelse)
  | .stmt (.func _ f) => Part.stmts f.body
  | q => q.parts

variable (p : Program) (space : Space)

def named : Part → Result (Option Value)
  | .expr (.name _ id access) => .ok (if access = .store then none else (p.scope space).find? id)
  | .expr (.attr _ (.name _ id _) name _) =>
    match (p.scope space).find? id with
    | some v => do return some (← Attribute.member p.scope v name)
    | none => .ok none
  | _ => .ok none

def inlined : Option Value → Result (List Part)
  | some (.func f) =>
    if f.isJit && !(p.func f).noinline.getD false then do return Part.stmts (← (p.func f).tree).body else .ok []
  | _ => .ok []

def next (q : Part) : Result (List Part) := do return looked q ++ (← inlined p (← named p space q))

/-- Whether a return is found in a tree; the search stops at the first one. -/
def find : Nat → Part → Result Bool
  | 0, _ => refused .recursion
  | fuel + 1, q => if isReturn q then .ok true else do (← next p space q).anyM (find fuel)

def mayReturn (space : Space) (s : Stmt) : Rule Bool := do Rule.ofExcept (find (← Rule.program) space 1000 (.stmt s))

end Returns

/-! ## Branches -/

open IR

namespace Branch

def checkedType : Value → Result Ty
  | .tensor t => .ok t.type
  | v => .error (.evaluation .missingAttribute (some s!"'{v.className}' object has no attribute 'type'"))

def assigned : Value → Result Tensor
  | .tensor t => .ok t
  | _ => refused .missingAttribute

structure Join where
  /-- The names that get a new value, with a tensor that a branch assigned: the new value has its type. -/
  names : Named Tensor := []
  thenDefs : Scope
  elseDefs : Scope

def checkRedefinition (name : String) (initial : Value) (branch : String) (defs : Scope) : Result Unit :=
  match defs.find? name with
  | none => .ok ()
  | some v => do
    let new ← checkedType v
    let old ← checkedType initial
    if new ≠ old then .error (.branchType name old new branch)

/-- Add a name that was known before the branches: if only one of them assigned it, the other leaves its initial value. -/
def joinKnown (j : Join) (name : String) (initial : Value) : Result Join := do
  checkRedefinition name initial "then" j.thenDefs
  checkRedefinition name initial "else" j.elseDefs
  match j.thenDefs.find? name, j.elseDefs.find? name with
  | none, none => .ok j
  | some v, some _ => do return { j with names := j.names ++ [(name, ← assigned v)] }
  | some v, none => do
    return { j with names := j.names ++ [(name, ← assigned v)], elseDefs := j.elseDefs.set name initial }
  | none, some v => do
    return { j with names := j.names ++ [(name, ← assigned v)], thenDefs := j.thenDefs.set name initial }

def joinNew (j : Join) (name : String) : Result Join :=
  if j.names.any (·.1 == name) then .ok j
  else
    match j.thenDefs.find? name, j.elseDefs.find? name with
    | some a, some b => do
      let t ← assigned a
      let e ← assigned b
      if t.type ≠ e.type then .error (.joinType name t.type e.type)
      return { j with names := j.names ++ [(name, t)] }
    | _, _ => .ok j

/-- The names that get a new value behind two branches: first those known before, in their order, then the new ones, in the
order of the names that both assigned. -/
def join (common : List String) (known thenDefs elseDefs : Scope) : Result Join := do
  let j ← known.foldlM (fun j (name, v) => joinKnown j name v) ({ thenDefs, elseDefs } : Join)
  common.foldlM joinNew j

def handles (defs : Scope) (names : Named Tensor) : Lower (List Operand) :=
  names.mapM fun (name, _) =>
    match defs.find? name with
    | some (.tensor t) => pure t.operand
    | _ => refuse .missingAttribute

def define (names : Named Tensor) (values : List ValueId) : Lower Unit :=
  (names.zip values).forM fun ((name, t), v) => setValue name (.tensor ⟨some v, t.type⟩)

variable (r : Visitors)

def branch (body : List Stmt) (start : BlockId) : Lower (Scope × BlockId) := do
  let (last, defs) ← recording do
    Build.toStart start
    r.block body
    return (← ofBuild Build.currentBlock).getD start
  return (defs, last)

def branches (known : Scope) (body orelse : List Stmt) (thenBlock elseBlock : BlockId) : Lower (Join × BlockId × BlockId) := do
  let (thenDefs, thenEnd) ← branch r body thenBlock
  let (elseDefs, elseEnd) ← if orelse.isEmpty then pure (([] : Scope), elseBlock) else branch r orelse elseBlock
  return (← Lower.ofExcept (join (r.common thenDefs elseDefs) known thenDefs elseDefs), thenEnd, elseEnd)

def valueTypes (j : Join) : Lower (List IrTy) :=
  j.names.mapM fun (_, t) =>
    match t.handle with
    | some v => ofBuild (Build.typeOf v)
    | none => refuse .missingAttribute

def openBlocks (condition : Operand) : Lower (BlockId × BlockId × BlockId) := do
  let start ← ofBuild Build.currentBlock
  let thenBlock ← ofBuild Build.appendBlock
  let elseBlock ← ofBuild Build.appendBlock
  let endBlock ← ofBuild Build.appendBlock
  start.forM fun b => Build.toEnd b
  Build.emitEffect .condBranch [condition, .block thenBlock, .block elseBlock]
  return (thenBlock, elseBlock, endBlock)

/-- Go on behind both branches at the end of one of them, unless it has ended already. -/
def leave (endBlock b : BlockId) (defs : Scope) (names : Named Tensor) : Lower Unit := do
  Build.toEnd b
  if !(← read).builder.graph.hasTerminator b then
    Build.emitEffect .branch [.block endBlock, .list (← handles defs names)]

def meet (endBlock thenEnd elseEnd : BlockId) (j : Join) (types : List IrTy) : Lower Unit := do
  leave endBlock thenEnd j.thenDefs j.names
  leave endBlock elseEnd j.elseDefs j.names
  types.forM fun t => do let _ ← ofBuild (Build.addArgument endBlock t)

def enter (endBlock : BlockId) (names : Named Tensor) : Lower Unit := do
  Build.toStart endBlock
  let values ← (List.range names.length).mapM fun i => ofBuild (Build.blockArg endBlock i)
  define names values

/-- A conditional whose branches are blocks of the function; if both return, there is nothing behind it. -/
def asBlocks (condition : Operand) (body orelse : List Stmt) : Lower Unit := do
  let after ← inSubRegion fun known => do
    let (thenBlock, elseBlock, endBlock) ← openBlocks condition
    let (j, thenEnd, elseEnd) ← branches r known body orelse thenBlock elseBlock
    let types ← valueTypes j
    let g := (← read).builder.graph
    if g.hasReturn thenEnd && g.hasReturn elseEnd then
      Build.eraseBlock endBlock
      return none
    else
      meet endBlock thenEnd elseEnd j types
      return some (endBlock, j.names)
  after.forM fun (endBlock, names) => enter endBlock names

/-- Fill the block of a region: with the operations of the block in which a branch ended, if there is one, and with a yield of
the values that are joined. -/
def fill (target : BlockId) (ended : Option BlockId) (defs : Scope) (names : Named Tensor) : Lower Unit := do
  ended.forM fun b => Build.mergeBefore b target
  Build.toEnd target
  if !names.isEmpty then Build.emitEffect .yield [.list (← handles defs names)]

def joinedTypes (names : Named Tensor) : List IrTy := names.map fun n => .known n.2.type

def attach (here : Option Cursor × Loc) (condition : Operand) (j : Join) (thenEnd : BlockId) (elseEnd : Option BlockId) :
    Lower (OpId × Named Tensor) := do
  let _ ← valueTypes j
  returnTo here
  let (op, thenRegion, elseRegion) ← ofBuild (Build.conditional (joinedTypes j.names) condition)
  fill thenRegion (some thenEnd) j.thenDefs j.names
  fill elseRegion elseEnd j.elseDefs j.names
  return (op, j.names)

def elseBlock (orelse : List Stmt) (thenBlock : BlockId) : Lower BlockId :=
  if orelse.isEmpty then pure thenBlock else ofBuild Build.appendBlock

def asRegions (condition : Operand) (body orelse : List Stmt) : Lower Unit := do
  let (op, names) ← inSubRegion fun known => do
    let here ← place
    let thenBlock ← ofBuild Build.appendBlock
    let elseBlock ← elseBlock orelse thenBlock
    let (j, thenEnd, elseEnd) ← branches r known body orelse thenBlock elseBlock
    attach here condition j thenEnd (if orelse.isEmpty then none else some elseEnd)
  define names (← ofBuild (Build.resultsOf op))

def conditional (s : Stmt) (pos : SourcePos) (test : Expr) (body orelse : List Stmt) : Lower Unit := do
  match ← r.expr test with
  | .tensor t =>
    let c ← Rule.emit (Tensor.cast t .int1)
    let f ← frame
    let returns ← Returns.mayReturn f.space s
    if f.loops > 0 && returns then
      unsupported (some pos)
        ("Cannot have `return` statements inside `while` or `for` statements in triton (note that this also applies to " ++
          "`return` statements that are inside functions transitively called from within `while`/`for` statements)")
    else if f.loops > 0 || !returns then asRegions r c.operand body orelse
    else asBlocks r c.operand body orelse
  | v => if ← Expression.knownCondition pos v then r.block body else r.block orelse

end Branch

/-! ## Loops

The body of a loop is lowered twice: once aside, to find which names known before it assigns, and once more inside the loop,
where those are carried from round to round. The counter stands for a placeholder until the loop is complete. A static range is
unrolled.
-/

namespace Loop

def requireTensor (v : Value) (f : Fault) : Result Tensor :=
  match v with
  | .tensor t => .ok t
  | _ => .error f

/-- A name that a loop carries: its body assigned it and it was known before. Its initial and its new value must be tensors
of one type. -/
def carriedName (known : Scope) (notTensor : String → Fault) (changed : String → Ty → Ty → Fault) (d : String × Value) :
    Result (Option (String × Tensor × Tensor)) :=
  match known.find? d.1 with
  | none => .ok none
  | some initial => do
    let new ← requireTensor d.2 (notTensor d.1)
    let old ← requireTensor initial .assertion
    if new.type = old.type then .ok (some (d.1, old, new)) else .error (changed d.1 old.type new.type)

def carried (known defs : Scope) : Result (List (String × Tensor × Tensor)) :=
  defs.filterMapM (carriedName known .loopCarriedNotTensor .loopCarriedType)

/-- The same for a loop with a condition, whose checks have no wording. -/
def carriedWhile (known defs : Scope) : Result (List (String × Tensor × Tensor)) :=
  defs.filterMapM (carriedName known (fun _ => .assertion) fun _ _ _ => .assertion)

def targetName : Expr → Lower String
  | .name _ id _ => pure id
  | _ => refuse .missingAttribute

variable (r : Visitors)

def inLoop (body : List Stmt) : Lower Unit := do
  modifyFrame (fun f => { f with loops := f.loops + 1 }) fun _ => .of_eq rfl rfl rfl
  r.block body
  modifyFrame (fun f => { f with loops := f.loops - 1 }) fun _ => .of_eq rfl rfl rfl

def rehearse (body : List Stmt) : Lower Unit := do
  let b ← ofBuild Build.appendBlock
  Build.toStart b
  inLoop r body
  Build.eraseBlock b

def visitParts : Stmt → Lower Unit
  | .expr _ e => do let _ ← r.expr e
  | .assign _ targets e => (targets ++ [e]).forM fun e => do let _ ← r.expr e
  | .annAssign _ t a e => (t :: a :: e.toList).forM fun e => do let _ ← r.expr e
  | .ret _ e => e.toList.forM fun e => do let _ ← r.expr e
  | .check _ c m => (c :: m.toList).forM fun e => do let _ ← r.expr e
  | .cond _ c body orelse => do
    let _ ← r.expr c
    (body ++ orelse).forM fun s => r.block [s]
  | .loop _ c body orelse => do
    let _ ← r.expr c
    (body ++ orelse).forM fun s => r.block [s]
  | .iterate _ t e body orelse => do
    let _ ← r.expr t
    let _ ← r.expr e
    (body ++ orelse).forM fun s => r.block [s]
  | .augAssign _ t _ _ => do
    let _ ← r.expr t
    visitingUnplaced (refuse .missingAttribute)
  | .pass _ | .break _ | .continue _ => pure ()
  | s => unsupportedNode s.pos s.kindName

def unrolled (target : Expr) (body orelse : List Stmt) : List Value → Lower Unit
  | [] => pure ()
  | v :: rest => do
    let name ← targetName target
    bindName name v
    r.block body
    orelse.forM (visitParts r)
    unrolled target body orelse rest

def staticNumbers (args : List Value) : Result (List Value) := do
  match ← Builtins.makeStaticRange args with
  | .staticRange a b s => Builtins.items (← Builtins.makeRange [a, b, s])
  | _ => refused .type

/-- The bounds and the step of a counted loop; a loop with one bound counts from zero and visits the bound once more. -/
def bounds (args : List Expr) (values : List Value) : Lower (Value × Value × Value) := do
  let number (n : Int) : Lower Value := visitingUnplaced (pure (.const (.int n)))
  let (lower, upper) ← match values with
    | a :: b :: _ => pure (a, b)
    | _ => do
      let lower ← number 0
      match args with
      | e :: _ => pure (lower, ← r.expr e)
      | [] => refuse .index
  let step ← match values with
    | _ :: _ :: s :: _ => pure s
    | _ => number 1
  return (lower, upper, step)

def negativeStep : Value → Result (Option Value)
  | .const v => do
    if (← Constant.compareValues .lt v (.int 0)) then return some (.const (← Constant.negate v)) else return none
  | _ => .ok none

def enterBlock (names : List (String × Tensor × Tensor)) (b : BlockId) (first : Nat) : Lower Unit :=
  (names.zipIdx first).forM fun ((name, _, new), i) => do
    let v ← ofBuild (Build.blockArg b i)
    setValue name (.tensor ⟨some v, new.type⟩)

def handedOn (known : Scope) (asTensor : Value → Rule Tensor) (defs : Scope) : Rule (List Tensor) :=
  (defs.filter fun d => known.contains d.1).mapM fun d => asTensor d.2

/-- What a round hands to the next one: the values of the assigned names that were known before the loop. -/
def yields (known : Scope) (asTensor : Value → Rule Tensor) : Lower (List Tensor) := do
  handedOn known asTensor (← frame).defs

def castBounds (lower upper step : Value) : Rule (ValueId × ValueId × ValueId × Ty) := do
  let lower ← Rule.toTensor lower
  let upper ← Rule.toTensor upper
  let step ← Rule.toTensor step
  if !lower.dtype.isInt || !upper.dtype.isInt || !step.dtype.isInt then
    throw (.loopBounds lower.dtype upper.dtype step.dtype)
  let ty ← Rule.ofExcept (Types.integerPromote lower.dtype upper.dtype)
  let ty ← Rule.ofExcept (Types.integerPromote ty step.dtype)
  let cast (t : Tensor) : Emit ValueId := Emit.op .intCast [t.operand, .ofTy ty, .bool ty.isSignedInt]
  let lower ← cast lower
  let upper ← cast upper
  let step ← cast step
  return (lower, upper, step, ty)

/-- The same for a loop that may run from the other end, by the opposite of its step. -/
def castDirected (reversed : Option Value) (lower upper step : Value) : Rule (ValueId × ValueId × ValueId × Ty) :=
  match reversed with
  | some s => castBounds upper lower s
  | none => castBounds lower upper step

def countedBody (known : Scope) (names : List (String × Tensor × Tensor)) (block : BlockId) (body : List Stmt) :
    Lower (List Tensor) := do
  Build.toStart block
  enterBlock names block 1
  inLoop r body
  let yields ← yields known Rule.toTensor
  if !yields.isEmpty then Build.emitEffect .yield [.list (yields.map (·.operand))]
  return yields

/-- The number that a loop counts, at the start of its body; a loop that counts down runs from the other end. -/
def loopNumber (reversed : Bool) (lower upper : ValueId) (block : BlockId) : Lower ValueId := do
  Build.toStart block
  let number ← ofBuild (Build.blockArg block 0)
  if reversed then
    let n ← Emit.op .sub [.fixed upper, .fixed number]
    Emit.op .add [.fixed n, .fixed lower]
  else return number

def bindCounter (name : String) (number : ValueId) (ty : Ty) : Lower Unit := do
  match (← frame).scope.find? name with
  | some (.tensor ⟨some v, _⟩) => Build.replace v number
  | _ => refuse .missingAttribute
  setValue name (.tensor ⟨some number, ty⟩)

def countedRegion (name : String) (lower upper step : ValueId) (ty : Ty) (reversed : Bool) (body : List Stmt)
    (known : Scope) : Lower (OpId × List (String × Tensor × Tensor) × List Tensor) := do
  let here ← place
  rehearse r body
  let names ← Lower.ofExcept (carried known (← Lower.frame).defs)
  returnTo here
  let (op, block) ← ofBuild (Build.forLoop (.fixed lower) (.fixed upper) (.fixed step) (names.map (·.2.1.operand)))
  let yields ← countedBody r known names block body
  let g := (← read).builder.graph
  if (g.region (g.block block).region).blocks.length ≠ 1 then
    throw (.stated .assertion "We use SCF, so the loop body should only have one block")
  let number ← loopNumber reversed lower upper block
  bindCounter name number ty
  return (op, names, yields)

def counted (target : Expr) (body orelse : List Stmt) (args : List Expr) (values : List Value) : Lower Unit := do
  let (lower, upper, step) ← bounds r args values
  let reversed ← Lower.ofExcept (negativeStep step)
  let (lower, upper, step, ty) ← castDirected reversed lower upper step
  let counter ← Emit.op .undef [.ofTy ty]
  let name ← targetName target
  setValue name (.tensor ⟨some counter, ty⟩)
  let (op, names, yields) ← inSubRegion (countedRegion r name lower upper step ty reversed.isSome body)
  let results ← ofBuild (Build.resultsOf op)
  Branch.define ((names.map (·.1)).zip yields) results
  if !orelse.isEmpty then throw .loopElse

def isStaticRange : Value → Lower Bool
  | .kind .staticRange => pure true
  | .const _ => refuse .missingAttribute
  | .tensor _ => throw .outsideKernel
  | _ => pure false

def iterate (target iter : Expr) (body orelse : List Stmt) : Lower Unit := do
  match iter with
  | .call _ f args _ =>
    let iterator ← r.expr f
    let values ← args.mapM r.expr
    if ← isStaticRange iterator then
      unrolled r target body orelse (← Lower.ofExcept (staticNumbers values))
    else if iterator matches .kind .range then counted r target body orelse args values
    else throw .loopIterator
  | _ => refuse .missingAttribute

def testRegion (names : List (String × Tensor × Tensor)) (region : RegionId) (test : Expr) : Lower Unit := do
  let block ← ofBuild (Build.blockIn region (names.map fun (_, _, new) => some (.known new.type)))
  Build.toStart block
  enterBlock names block 0
  let condition ← r.expr test
  Build.toEnd block
  let condition ← Rule.asTensor condition
  let args ← (List.range names.length).mapM fun i => do return Operand.value (← ofBuild (Build.blockArg block i))
  Build.emitEffect .condition [condition.operand, .list args]

def bodyRegion (known : Scope) (names : List (String × Tensor × Tensor)) (region : RegionId) (body : List Stmt) : Lower Unit := do
  let block ← ofBuild (Build.blockIn region (names.map fun (_, _, new) => some (.known new.type)))
  Build.toStart block
  enterBlock names block 0
  inLoop r body
  let yields ← yields known Rule.asTensor
  Build.emitEffect .yield [.list (yields.map (·.operand))]

def conditional (test : Expr) (body orelse : List Stmt) : Lower Unit := do
  let (op, names) ← inSubRegion fun known => do
    let here ← place
    rehearse r body
    let names ← Lower.ofExcept (carriedWhile known (← Lower.frame).defs)
    returnTo here
    let (op, before, after) ← ofBuild
      (Build.whileLoop (names.map fun (_, _, new) => .known new.type) (names.map (·.2.1.operand)))
    testRegion r names before test
    bodyRegion r known names after body
    return (op, names)
  Branch.define (names.map fun (name, _, new) => (name, new)) (← ofBuild (Build.resultsOf op))
  if !orelse.isEmpty then throw .whileElse

end Loop

end TileKernel.Lowering
