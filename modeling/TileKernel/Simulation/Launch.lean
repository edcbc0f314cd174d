import TileKernel.Simulation.Operation
import TileKernel.Tuning

/-! # Simulated launches

A simulated launch registers its tensors in memory, wraps all arguments, and runs the kernel once for every program instance
of its grid. The positions of the instances are enumerated over the reversed grid.

## Bodies

A routed name of the language is an operation on the host; other operations refuse to work outside a compiled kernel.
-/

namespace TileKernel.Simulation

open Source Run

/-! ## Names that a body assigns -/

def targetNames : Expr → List String
  | .name _ id _ => [id]
  | .tuple _ ts _ | .list _ ts _ => ts.filterMap fun
    | .name _ id _ => some id
    | _ => none
  | _ => []

mutual

def assignedIn : Stmt → List String
  | .assign _ targets _ => targets.flatMap targetNames
  | .augAssign _ t _ _ | .annAssign _ t _ _ => targetNames t
  | .cond _ _ body orelse | .loop _ _ body orelse => assignedInAll body ++ assignedInAll orelse
  | .iterate _ t _ body orelse => targetNames t ++ assignedInAll body ++ assignedInAll orelse
  | _ => []

def assignedInAll : List Stmt → List String
  | [] => []
  | s :: rest => assignedIn s ++ assignedInAll rest

end

/-! ## Evaluation -/

structure Env where
  space : Lowering.Space
  locals : Named Value := []
  assigned : List String := []

def Env.lookup (env : Env) (name : String) : Run Value := do
  match env.locals.lookup name with
  | some v => return v
  | none =>
    if env.assigned.contains name then refuse .unboundLocal
    match ((← read).program.scope env.space).find? name with
    | some v => return .ofPlain v
    | none =>
      match Lowering.Builtins.find? name with
      | some v => return .ofPlain v
      | none => refuse .unknownName

def member (v : Value) (name : String) : Run Value := do
  match v with
  | .tile _ | .hollow =>
    match ← check (Tile.property? v name) with
    | some w => return w
    | none => if Tile.hasMethod name then return .method v name else refuse .missingAttribute
  | .fixed w =>
    if name == "value" then return w
    else if Fixed.hasMethod name then return .method v name else refuse .missingAttribute
  | .elementType _ => if name == "element_ty" then return v else refuse .missingAttribute
  | .plain (.space .language) =>
    match (← read).routing.entries.lookup name with
    | some (.routed _) => return .routed name
    | _ => return .ofPlain (← lowering (Lowering.Attribute.get (.space .language) name))
  | .plain p => return .ofPlain (← lowering (Lowering.Attribute.get p name))
  | _ => refuse .missingAttribute

def plainArguments (args : List Value) (named : Named Value) : Option (List Lowering.Value × Named Lowering.Value) := do
  let ps ← Value.plains? args
  let ns ← named.mapM fun (n, v) => do return (n, ← v.plain?)
  return (ps, ns)

/-- The least or greatest of values: the first that no later one is better than. -/
def extremum (c : Strided.Comparison) : List Value → Run Value
  | [] => refuse .type
  | v :: vs => vs.foldlM (fun best w => do
      if ← check (do (← Value.compare c w best).truth) then return w else return best) v

def items : Value → Run (List Value)
  | .tuple xs | .list xs => pure xs
  | .plain p => do return (← check (Lowering.Builtins.items p)).map Value.ofPlain
  | _ => refuse .type

def callBuiltin (name : String) (args : List Value) : Run Value := do
  match name, args with
  | "min", [v] => do extremum .lt (← items v)
  | "max", [v] => do extremum .gt (← items v)
  | "min", args => extremum .lt args
  | "max", args => extremum .gt args
  | "len", [.tuple xs] | "len", [.list xs] => return .int xs.length
  | _, _ => refuse .type

def construct (k : Lowering.Kind) (args : List Value) : Run Value := do
  match k, args with
  | .range, args =>
    let ns ← args.mapM fun v => check v.index
    return .ofPlain (← check (Lowering.Builtins.makeRange (ns.map Lowering.Value.int)))
  | .int, [v] => return .int (← check v.index)
  | .float, [v] =>
    return .plain (← check (Lowering.Builtins.toFloat (.int (← check v.index))))
  | .bool, [v] => return .bool (← check v.truth)
  | .str, [v] => return .str v.text
  | .staticRange, _ => throw .assertion
  | _, _ => refuse .type

abbrev Evaluator := Source.Evaluator Run Env Value

namespace Evaluator

def compareOne (op : CompareOp) (a b : Value) : Run Value :=
  match op, Value.comparisonOf op with
  | _, some c => check (Value.compare c a b)
  | .is, _ => return .bool (Value.same a b)
  | .isNot, _ => return .bool (!Value.same a b)
  | .isIn, _ => do
    return .bool (← (← items b).anyM fun v => check (do (← Value.compare .eq a v).truth))
  | _, _ => do
    return .bool (!(← (← items b).anyM fun v => check (do (← Value.compare .eq a v).truth)))

def domain : Domain Run Env Value where
  refuse := refuse
  lookup := Env.lookup
  define env name v := pure { env with locals := Table.put env.locals name v }
  literal v := .plain (Lowering.Evaluator.literal v)
  tuple := .tuple
  list := .list
  slice := .slice
  text v _ := v.text
  truth v := check v.truth
  items := items
  member := member
  item v i := check (v.item i)
  unary op v := check (Value.unary op v)
  operate op a b := check (Value.operate op a b)
  compare := compareOne

def parameters (info : Lowering.FuncInfo) (params : Params) : List (Parameter Value) :=
  (Lowering.Evaluator.parameters info params).map fun p => { name := p.name, default := p.default.map Value.ofPlain }

def apply (r : Evaluator) (info : Lowering.FuncInfo) (args : List Value) (named : Named Value) : Run Value := do
  let tree ← check info.tree
  let values ← check (Parameter.bind (parameters info tree.params) args named)
  r.body tree.body { space := info.space, locals := tree.params.names.zip values, assigned := assignedInAll tree.body }

def callStep (r : Evaluator) (f : Value) (args : List Value) (named : Named Value) : Run Value := do
  match f with
  | .routed name =>
    match Operation.find? name with
    | some op => op.call args named
    | none => refuse .missingAttribute
  | .method (.fixed v) name => check (Fixed.method v name (args ++ named.map (·.2)))
  | .method v name => check (Tile.method v name (args ++ named.map (·.2)))
  | .plain (.func g) => if g.isJit then throw Lowering.calledOutside else r.apply ((← read).program.func g) args named
  | .plain p =>
    match plainArguments args named with
    | some (ps, ns) => return .ofPlain (← lowering (Lowering.evaluator.call p ps ns))
    | none =>
      match p with
      | .primitive .builtins name => callBuiltin name args
      | .primitive _ _ => throw .outsideKernel
      | .kind k => construct k args
      | _ => refuse .type
  | _ => refuse .type

end Evaluator

def evaluator : Evaluator := .upTo Evaluator.domain Evaluator.callStep 1000

/-! ## Launches -/

open Strided

def allPositions : List Int → List (List Int)
  | [] => [[]]
  | n :: ns => (List.range n.toNat).flatMap fun (i : Nat) => (allPositions ns).map fun p => (i : Int) :: p

def programIds (grid : List Int) : List (List Int) := allPositions grid.reverse

def routedNames : List String := (Operation.all.map (·.name)).mergeSort (· ≤ ·)

structure Launch where
  args : List Value
  named : Named Value
  grid : List Int

structure Execution where
  scene : Scene
  result : Result Value

/-- The result of a launch: the tensors among the arguments as they are in the end, the executions of the body, and the
failure that ended the launch, if one did. -/
structure Outcome where
  tensors : List View
  executions : List Execution := []
  fault : Option Fault := none
deriving Inhabited

def Outcome.returned (o : Outcome) : List Value := o.executions.filterMap (·.result.toOption)

structure Session where
  routing : Routing
  allocator : Allocator := {}
  program : Lowering.Program

namespace Session

def start (program : Lowering.Program) : Session :=
  { routing := .initial (program.scope .language).names, program }

end Session

namespace Launch

variable (l : Launch) (info : Lowering.FuncInfo)

def constants : List String :=
  (info.annotations.filter fun (_, ty) => ty == Lowering.Kind.const.name).map (·.1)

def ignored : List String := ["num_warps", "num_stages"]

def convert (constants : List String) (state : Memory × Allocator) (name : String) (v : Value) :
    Result ((Memory × Allocator) × Value) :=
  match v with
  | .tensor t =>
    let (start, allocator) := state.2.place t.storageBytes
    let (memory, address) := state.1.add t start
    .ok ((memory, allocator), .tile (.vector .int64 [.whole address]))
  | v => do
    if constants.contains name then return (state, v.fix)
    match ← v.toTensor with
    | .tensor t => return (state, .tile t)
    | .plain .none => return (state, .hollow)
    | v => return (state, v)

def convertAll (constants : List String) : Memory × Allocator → Named Value → Result ((Memory × Allocator) × Named Value)
  | state, [] => .ok (state, [])
  | state, (n, v) :: rest => do
    let (state, w) ← convert constants state n v
    let (state, ws) ← convertAll constants state rest
    return (state, (n, w) :: ws)

def tensors : List View :=
  (l.args ++ l.named.map (·.2)).filterMap fun
    | .tensor t => some t
    | _ => none

def sceneOf (grid : List Int) (turn : Nat × List Int) (scene : Scene) : Scene :=
  { scene with context := { position := turn.2, grid }, routing := scene.routing.attach routedNames turn.1 }

/-- Run program instances one after another, until one fails: the executions, and the routing and the state in the end. -/
def instances (args : List Value) (named : Named Value) (grid : List Int) :
    List (Nat × List Int) → Scene → State → List Execution × Routing × State
  | [], scene, s => ([], scene.routing, s)
  | turn :: rest, scene, s =>
    let scene := sceneOf grid turn scene
    match evaluator.apply info args named scene s with
    | .ok v s =>
      let (others, last) := instances args named grid rest { scene with routing := scene.routing.detach } s
      (⟨scene, .ok v⟩ :: others, last)
    | .error f s => ([⟨scene, .error f⟩], scene.routing, s)

/-- The tensors of a launch with the contents that memory holds in the end; the regions stand in the order of the tensors. -/
def contents (m : Memory) : List View :=
  List.zipWith (fun (t : View) (r : Region) => { t with cells := r.cells }) l.tensors m.regions

structure Prepared where
  memory : Memory
  allocator : Allocator
  args : List Value
  named : Named Value

/-- Wrap the arguments of a launch: a launch that leaves out a constant fails before any instance runs. -/
def prepare (allocator : Allocator) : Result Prepared := do
  let fixed := constants info
  let missing := fixed.filter fun n => !l.named.any (·.1 == n)
  if !missing.isEmpty then
    throw (.stated .assertion ("You must specify constexpr " ++ Text.bracketed (missing.map Text.quoted)))
  let positional := info.paramNames.zip l.args
  let extra := l.args.drop positional.length
  let (state, ps) ← convertAll fixed ({}, allocator) positional
  let (state, es) ← convertAll fixed state (extra.map fun v => ("", v))
  let (state, named) ← convertAll fixed state (l.named.filter fun (n, _) => !ignored.contains n)
  return { memory := state.1, allocator := state.2, args := (ps ++ es).map (·.2), named }

def turns : List (Nat × List Int) := (programIds l.grid).zipIdx.map fun (p, i) => (i, p)

def execute (p : Prepared) (s : Session) : List Execution × Routing × State :=
  instances info p.args p.named l.grid l.turns { routing := s.routing, program := s.program } { memory := p.memory }

def failure? (executions : List Execution) : Option Fault :=
  executions.getLast?.bind fun e => match e.result with
    | .ok _ => none
    | .error f => some f

def run (s : Session) : Outcome × Session :=
  match l.prepare info s.allocator with
  | .error f => ({ tensors := l.tensors, fault := some f }, s)
  | .ok p =>
    let (executions, routing, state) := l.execute info p s
    ({ tensors := contents l state.memory, executions, fault := failure? executions },
      { s with routing, allocator := p.allocator })

def copied : Launch :=
  let copy (v : Value) : Value := match v with
    | .tensor t => .tensor { View.ofElements? t.type t.shape t.elements? with device := t.device }
    | v => v
  { l with args := l.args.map copy, named := l.named.map fun (n, v) => (n, copy v) }

/-- Carry out a launch in every configuration: the first one last, and the others on copies of the tensors. -/
def runTuned (configs : List Tuning.Config) (info : Lowering.FuncInfo) (s : Session) : Outcome × Session :=
  let fails (f : Fault) (executions : List Execution) (s : Session) : Outcome × Session :=
    ({ tensors := l.tensors, executions, fault := some f }, s)
  let withConfig (l : Launch) (c : Tuning.Config) : Result Launch :=
    let options := c.options.map fun (n, v) => (n, Value.ofPlain v)
    if options.any fun (n, _) => l.named.any (·.1 == n) then refused .type
    else .ok { l with named := l.named ++ options }
  match configs with
  | [] => fails .assertion [] s
  | main :: others =>
    let rec go (s : Session) (before : List Execution) : List Tuning.Config → Outcome × Session
      | [] =>
        match withConfig l main with
        | .error f => fails f before s
        | .ok l =>
          let (o, s) := l.run info s
          ({ o with executions := before ++ o.executions }, s)
      | c :: rest =>
        match withConfig l.copied c with
        | .error f => fails f before s
        | .ok copy =>
          let (o, s) := copy.run info s
          match o.fault with
          | some f => fails f (before ++ o.executions) s
          | none => go s (before ++ o.executions) rest
    go s [] others

end Launch

def checkVersion (version : String) : Result Unit :=
  if version.toList.head? == some '2' then .ok ()
  else .error (.stated .assertion ("Triton Debugger only supports torch >= 2.0, using " ++ version))

/-! ### Operations by name -/

inductive Owner where
  | argument
  | language
  | memory
  | conversion

namespace Console

def accesses : List Operation :=
  [.doing "load" ["pointer", opt "mask" .none, opt "other" (.float .zero)] fun p m o => do
     return .tensor (← Operation.load p m o),
   .doing "store" ["pointer", "value", opt "mask" .none] fun p v m => do Operation.store p v m; return .none,
   .doing "add_tensor" ["t"] fun
     | .tensor t => do
       let s ← get
       let (start, allocator) := s.allocator.place t.storageBytes
       let (memory, address) := s.memory.add t start
       set { s with memory, allocator }
       return .int address
     | _ => refuse .missingAttribute]

def conversions : List Operation :=
  [.doing "_primitive_to_tensor" ["x"] fun x => check x.toTensor,
   .doing "_constexpr_to_value" ["v"] fun
     | .fixed v => pure v
     | v => pure v,
   .doing "WrappedTensor" ["tensor"] fun
     | .tensor t => pure (.tile t)
     | .plain .none => pure .hollow
     | v => pure v,
   .doing "debugger_constexpr" ["value"] fun v => pure v.fix]

def callIn (table : List Operation) (name : String) (args : List Value) (named : Named Value) : Run Value := do
  match table.find? (·.name == name) with
  | some op => op.run (← check (Parameter.bind op.params args named))
  | none => refuse .missingAttribute

def call (owner : Owner) (name : String) (args : List Value) (named : Named Value) : Run Value := do
  match owner, args with
  | .argument, [] => refuse .index
  | .argument, self :: args =>
    match ← member self name with
    | .method v n => evaluator.call (.method v n) args named
    | v => return v
  | .language, args =>
    match Operation.find? name with
    | some op => op.call args named
    | none => refuse .missingAttribute
  | .memory, args => callIn accesses name args named
  | .conversion, args => callIn conversions name args named

def place (tensors : List View) : State × List Value :=
  let (memory, allocator, addresses) := tensors.foldl (fun (memory, allocator, addresses) t =>
    let (start, allocator) := Allocator.place allocator t.storageBytes
    let (memory, address) := Memory.add memory t start
    (memory, allocator, addresses ++ [Value.tile (.vector .int64 [.whole address])]))
    (({} : Memory), ({} : Allocator), ([] : List Value))
  ({ memory, allocator }, addresses)

end Console

end TileKernel.Simulation
