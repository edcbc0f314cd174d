import TileKernel.Digest
import TileKernel.Lowering.Kernel

/-! # Identities of kernels

A kernel is told apart by a digest of its text and of the kernels that it calls, so that an edit of any of them gives a new
identity. Digests are kept once they are known and forgotten when a text is replaced. Signature, constants and options tell
apart what is compiled.
-/

namespace TileKernel.Launch

open Lowering Source

def version : String := "VERSION"

namespace Identity

structure Table where
  program : Program
  known : List (Nat × String) := []

variable (t : Table)

namespace Table

def find? (i : Nat) : Option String := t.known.lookup i

def remember (i : Nat) (digest : String) : Table :=
  { t with known := (i, digest) :: t.known.filter (·.1 != i) }

def forget (i : Nat) : Table := { t with known := t.known.filter (·.1 != i) }

def edit (i : Nat) (f : FuncInfo → FuncInfo) : Table :=
  { t with program := { t.program with funcs := t.program.funcs.modify i f } }

def setText (i : Nat) (text : String) : Table :=
  (t.edit i fun f => { f with text, tree := Module.treeOf text }).forget i

end Table

structure Walk where
  table : Table
  digest : String
  active : List Nat

abbrev Walking := EStateM Fault Walk

def isLanguage (name : String) : Bool := name.startsWith "triton." || Text.occursIn ".triton." name

def isRoot (name : String) : Bool := name == "triton" || name.endsWith ".triton"

inductive Callee where
  | nothing
  | walk (f : FuncRef)
  | refused (f : Fault)

def notAKernel (name : String) : Fault :=
  .evaluation .assertion (some ("Function \"" ++ name ++ "\" is being called from a Triton function but is not a Triton " ++
    "function itself. Decorate it with @triton.jit to fix this"))

def callee : Value → Callee
  | .none | .primitive .builtins _ => .nothing
  | .func f =>
    if isLanguage f.space.fullName then .nothing else if f.isJit then .walk f else .refused (notAKernel f.name)
  | .primitive s n => if isLanguage s.fullName then .nothing else .refused (notAKernel n)
  | .kind k => if isLanguage (k.space?.getD "builtins") then .nothing else .refused (notAKernel k.name)
  | .ty _ | .fnTy _ | .const _ | .tensor _ | .signedness _ | .staticRange _ _ _ | .method _ _ => .nothing
  | _ => .refused (.implicit .missingAttribute)

def flagText : Option Bool → String
  | none => "None"
  | some true => "True"
  | some false => "False"

inductive Visit where
  | attribute (e : Expr)
  | call (callee : Expr)
deriving Inhabited

/-- What a walk over a tree looks at, in order, down to a depth. Arguments of calls are not walked over. -/
def visits : Nat → Part → Result (List Visit)
  | 0, _ => refused .recursion
  | _ + 1, .expr (.name _ _ _) => .ok []
  | fuel + 1, .expr (.attr pos v name access) => do
    return (← visits fuel (.expr v)) ++ [.attribute (.attr pos v name access)]
  | fuel + 1, .expr (.call _ f _ _) => do return (← visits fuel (.expr f)) ++ [.call f]
  | fuel + 1, part => do return (← part.parts.mapM (visits fuel)).flatten

def ownName : Value → String
  | .space s => s.fullName
  | .func f => f.name
  | .primitive _ n => n
  | .kind k => k.name
  | _ => ""

def valueOf (p : Program) (space : Space) : Expr → Result (Option Value)
  | .name _ id _ => .ok ((p.scope space).find? id)
  | .attr _ v name _ => do
    match ← valueOf p space v with
    | none | some .none => return none
    | some v => if isRoot (ownName v) then return none else return some (← Attribute.member p.scope v name)
  | _ => .ok none

def contribution (p : Program) (space : Space) : Visit → Callee
  | .attribute e =>
    match valueOf p space e with
    | .ok _ => .nothing
    | .error f => .refused f
  | .call e =>
    match valueOf p space e with
    | .ok (some v) => callee v
    | .ok none => .nothing
    | .error f => .refused f

variable (enter : FuncRef → Walking String)

/-- Look at what a walk visits: a function that is called goes into the running digest. `enter` gives the digest of a called
function. -/
def look (space : Space) (v : Visit) : Walking Unit := do
  let program := (← get).table.program
  match contribution program space v with
  | .nothing => pure ()
  | .refused f => throw f
  | .walk f =>
    let digest ← enter f
    modify fun s => { s with digest := Digest.sha1 (s.digest ++ digest ++ flagText (program.func f).noinline) }

def walk (space : Space) (depth : Nat) (ps : List Part) : Walking Unit := do
  match ps.mapM (visits depth) with
  | .ok vs => vs.flatten.forM (look enter space)
  | .error f => throw f

def depthOf (text : String) : Nat := text.length + 2

def explore (f : FuncRef) : Walking String := do
  let s ← get
  if s.active.contains f.index then throw (.implicit .recursion)
  else
    let info := s.table.program.func f
    match parse info.text with
    | .error e => throw e
    | .ok stmts =>
      set { s with digest := Digest.sha1 info.text, active := f.index :: s.active }
      walk enter info.space (depthOf info.text) (Part.stmts stmts)
      let d := (← get).digest
      modify fun t => { t with table := t.table.remember f.index d, digest := s.digest, active := s.active }
      return d

def digestOf : Nat → FuncRef → Walking String
  | 0, _ => throw (.implicit .recursion)
  | fuel + 1, f => do
    match (← get).table.find? f.index with
    | some d => return d
    | none => explore (digestOf fuel) f

/-- The key of a kernel: its digest with the version of the compiler behind it. A digest that is already known is the key
as it is. -/
def key (f : FuncRef) : Result String × Table :=
  match t.find? f.index with
  | some d => (.ok d, t)
  | none =>
    let info := t.program.func f
    if !info.isJit then (refused .missingAttribute, t) else
      match info.tree with
      | .error e => (.error e, t)
      | .ok def_ =>
        let start : Walk := { table := t, digest := Digest.sha1 info.text, active := [] }
        let fuel := t.program.funcs.size + 1
        match walk (digestOf fuel) info.space (depthOf info.text) [.stmt (.func default def_)] start with
        | .ok _ s =>
          let k := s.digest ++ version
          (.ok k, s.table.remember f.index k)
        | .error e s => (.error e, s.table)

end Identity

structure CompileOptions where
  constants : Constants := []
  numWarps : Value := .int 4
  numCtas : Value := .int 1
  numStages : Value := .int 3
  wavesPerEu : Value := .int 0
  matrixInstrNonkdim : Value := .int 0
  enableWarpSpecialization : Value := .bool false
  enablePersistent : Value := .bool false
  debug : Value := .bool false

namespace Identity

def sortedText (is : List Int) : String := Text.bracketed ((is.mergeSort (· ≤ ·)).map toString)

def knowledgeText (k : Types.Specialization) : String :=
  Text.parenthesised [sortedText k.divisibleBy16, sortedText k.equalTo1, sortedText k.idsOfFoldedArgs,
    sortedText k.divisibleBy8]

def compileText (kernel : String) (types : List String) (configs : List Types.Specialization) (o : CompileOptions)
    (arch : String) (environment : List String) : String :=
  "-".intercalate [kernel, String.join types, Text.bracketed (configs.map knowledgeText), o.constants.text, o.numWarps.text,
    o.numStages.text, o.wavesPerEu.text, o.matrixInstrNonkdim.text, o.numCtas.text, o.numStages.text,
    o.enableWarpSpecialization.text, o.enablePersistent.text, o.debug.text, arch,
    Text.bracketed (environment.map Text.quoted)]

def compileKey (kernel : String) (types : List String) (configs : List Types.Specialization) (o : CompileOptions)
    (arch : String) (environment : List String) : String :=
  Digest.md5 (compileText kernel types configs o arch environment)

end Identity

end TileKernel.Launch
