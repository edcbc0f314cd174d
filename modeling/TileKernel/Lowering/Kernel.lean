import TileKernel.Lowering.Function

/-! # Kernels

A kernel is lowered as the entry of a module, for a signature of argument types, values of its constant arguments and what is
known about the others. A failure is reported with an excerpt of its text.
-/

namespace TileKernel.Lowering

open IR

inductive ArgKey where
  | position (i : Int)
  | name (s : String)
deriving DecidableEq

def ArgKey.text : ArgKey → String
  | .position i => toString i
  | .name s => Text.quoted s

abbrev Constants := List (ArgKey × Value)

def Constants.text (cs : Constants) : String := Text.braced (cs.map fun (k, v) => k.text ++ ": " ++ v.shown)

structure KernelInstance where
  signature : List (Int × String)
  constants : Constants := []
  knowledge : Types.Specialization := {}
  debug : Bool := false

namespace KernelInstance

def splitSignature (s : String) : List (Int × String) :=
  (s.splitOn ",").zipIdx.map fun (part, i) => ((i : Int), String.ofList (Reading.strip part.toList))

variable (k : KernelInstance)

def functionName (name : String) : String :=
  name ++ "_" ++ Types.kernelSuffix k.signature.length k.knowledge

def constantsAt (names : List String) : Result (List (Int × Value)) :=
  k.constants.foldlM (fun acc (key, v) =>
    match key with
    | .position i => .ok (Table.put acc i v)
    | .name s =>
      match names.findIdx? (· == s) with
      | some i => .ok (Table.put acc i v)
      | none => refused .value) []

def argTypes (constants : List (Int × Value)) : Result (List Ty) :=
  k.signature.filterMapM fun (i, s) =>
    if constants.any (·.1 == i) then .ok none else (Types.ofSignature s).map some

def hints (i : Int) : Named Int :=
  (if k.knowledge.divisibleBy16.contains i then [("tt.divisibility", 16)] else []) ++
    if k.knowledge.divisibleBy8.contains i then [("tt.max_divisibility", 8)] else []

end KernelInstance

structure Lowered where
  result : Result Graph
  printed : String

def reportFault (text : String) (visited : Visited) (f : Fault) : Fault :=
  match f with
  | .compile kind none p t => .compile kind (some text) p t
  | .compile kind (some s) p t => .compile kind (some s) p t
  | f =>
    match visited with
    | .nothing => f
    | .unplaced => .implicit .missingAttribute
    | .at p => .compile .compilation (some text) p (some f.embedded)

def kernelState (program : Program) (target : Target) (info : FuncInfo) (k : KernelInstance) : Result LowerState := do
  let constants ← k.constantsAt info.paramNames
  let types ← k.argTypes constants
  if !info.isJit then refused .missingAttribute
  let all := k.knowledge.equalTo1.foldl (fun acc i => Table.put acc i (.int 1)) constants
  return {
    program
    builder := { target, loc := .at info.file info.beginLine 0 }
    frame := {
      space := info.space, file := info.file, lineOffset := info.beginLine - 1, constants := all, hints := k.hints
      functionName := k.functionName info.name, type := { params := types, results := [] }, isKernel := true
      noinline := some false, debug := k.debug } }

def lowerKernel (program : Program) (target : Target) (info : FuncInfo) (k : KernelInstance) : Lowered :=
  match kernelState program target info k with
  | .error f => { result := .error f, printed := "" }
  | .ok s =>
    match (Function.lower visitors info.tree).run s with
    | .ok _ s => { result := .ok s.builder.graph, printed := String.join s.printed.reverse }
    | .error f s =>
      { result := .error (reportFault info.text s.visited f), printed := String.join s.printed.reverse }

def loadModules (sources : Named String) : Result Program × String :=
  let start : LowerState := { (default : LowerState) with program := Library.program }
  match (sources.forM fun (name, text) => Module.load name text : Lower Unit).run start with
  | .ok _ s => (.ok s.program, String.join s.printed.reverse)
  | .error f s => (.error f, String.join s.printed.reverse)

def findFunction (p : Program) (module name : String) : Result FuncInfo :=
  match (p.scope (.user module)).find? name with
  | some (.func f) => .ok (p.func f)
  | _ => refused .missingAttribute

/-! ## Interactive sessions

A session applies primitives one after the other to tensors of given types, without a kernel.
-/

inductive Callee where
  | function (s : Space) (name : String)
  | method (name : String)

structure Session where
  state : LowerState
  names : SessionNames := {}

namespace Session

def target (t : Target) : Target := { t with ownTypes := false }

def start (t : Target) (types : List Ty) : Session × List Value :=
  let (r, g) := ({} : Graph).newRegion none
  let (b, g) := g.newBlock r (types.map fun t => some (.known t))
  let args := ((g.block b).args.map (·.1)).zip types
  let builder : Builder := { graph := g, target := target t }
  let names := args.foldl (fun (n : SessionNames) (v, _) => (n.number v).2) {}
  ({ state := { (default : LowerState) with builder, program := Library.program }, names },
    args.map fun (v, t) => .tensor ⟨some v, t⟩)

def callValue (f : Value) (builds : Bool) (args : List Value) (keywords : Named Value) : Lower Value :=
  let onPrimitive (p : Primitive) (args : List Value) : Lower Value :=
    if p.builds && !builds then
      if p.guarded then throw .outsideKernel
      else Lower.refuse (if p.space == .semantic then .type else .missingAttribute)
    else p.call .none true args keywords
  match f with
  | .primitive s name =>
    match Primitive.find? s name with
    | some p => onPrimitive p args
    | none => Lower.refuse .type
  | .method (.tensor t) name =>
    match Operators.method? name with
    | some p => onPrimitive p (.tensor t :: args)
    | none => Lower.refuse .type
  | f => evaluator.call f args keywords

def apply (callee : Callee) (builds : Bool) (args : List Value) (keywords : Named Value) : Lower Value := do
  match callee, args with
  | .function s name, args => callValue (← Attribute.get (.space s) name) builds args keywords
  | .method name, self :: args => callValue (← Attribute.get self name) builds args keywords
  | .method _, [] => Lower.refuse .index

variable (s : Session) (t : Tensor)

def step (callee : Callee) (builds : Bool) (args : List Value) (keywords : Named Value) : Result Value × List String × Session :=
  let state := { s.state with builder := { s.state.builder with events := [] } }
  let (result, state) := match (apply callee builds args keywords).run state with
    | .ok v state => (Except.ok v, state)
    | .error f state => (.error f, state)
  let (lines, names) := state.builder.events.reverse.foldl (fun (acc : List String × SessionNames) e =>
    let (line, names) := acc.2.eventLine state.builder.graph e
    (acc.1 ++ line, names)) ([], s.names)
  (result, lines, { state, names })

def valueText : String × Session :=
  match t.handle with
  | some v =>
    let (n, names) := s.names.number v
    (s!"%{n}", { s with names })
  | none => ("none", s)

def dimensionTexts : List String :=
  match t.handle.bind s.state.builder.graph.spelledShape? with
  | some dims => t.shape.zipIdx.map fun (n, i) =>
    match dims[i]? with
    | some (.bool b) => if n = (if b then 1 else 0) then (if b then "True" else "False") else toString n
    | _ => toString n
  | none => t.shape.map toString

def typeText : String :=
  match t.type with
  | .block e _ => s!"<{Text.bracketed (s.dimensionTexts t)}, {e.text}>"
  | ty => ty.text

def tensorText : String :=
  t.dtype.text ++ "[" ++ ",".intercalate ((s.dimensionTexts t).map fun d => s!"constexpr[{d}]") ++ "]"

end Session

end TileKernel.Lowering
