import TileKernel.IR.Graph

/-! # Building operations

`Build` is the state monad in which operations are appended to a graph at an insertion point. A failed step keeps what was
appended before. Each function has a builder of its own, with its insertion point and source location, over one graph. That the
graph only grows, and which values were replaced, is part of the type of a step.
-/

namespace TileKernel.IR

variable (opcode : Opcode) (args : List Operand) (v : ValueId)

/-- A device architecture: a number for devices with numbered compute capabilities, or a named one. -/
inductive Arch where
  | capability (n : Int)
  | named

structure Target where
  arch : Arch := .capability 80
  isHip : Bool := false
  archInfo : String := ""
  mathLibrary : String := "LIBDEVICE"
  ownTypes : Bool := true

structure Cursor where
  block : BlockId
  before : Option OpId

inductive Event where
  | built (op : OpId)
  | hinted (v : ValueId) (name : String) (values : List Int)
  | replaced (old new : ValueId)

structure Builder where
  graph : Graph := {}
  cursor : Option Cursor := none
  loc : Loc := .none
  target : Target := {}
  events : List Event := []
deriving Inhabited

namespace Builder

/-- Append an operation with `count` results at the insertion point; without one it stands in no block. -/
def append (b : Builder) (opcode : Opcode) (args : List Operand) (count : Nat) : OpId × Builder :=
  let (i, g) := b.graph.newOp opcode args count b.loc
  let g := match b.cursor with
    | some c => g.place c.block c.before i
    | none => g
  (i, { b with graph := g, events := .built i :: b.events })

theorem append_later (b : Builder) (opcode : Opcode) (args : List Operand) (count : Nat) :
    b.graph.Later [] (b.append opcode args count).2.graph := by
  refine (Graph.Later.newOp b.graph opcode args count b.loc).trans ?_
  unfold append
  cases b.cursor with
  | some c => exact .place _ c.block c.before _
  | none => exact .refl _

theorem append_op (b : Builder) (opcode : Opcode) (args : List Operand) (count : Nat) :
    (b.append opcode args count).2.graph.ops[b.graph.ops.size]? =
      some ⟨opcode, args, (List.range count).map (b.graph.values.size + ·), [], [], b.loc⟩ := by
  unfold append
  cases b.cursor <;> simp [Graph.newOp, Graph.place]

end Builder

def replacements (events : List Event) : List (ValueId × ValueId) :=
  events.reverse.filterMap fun
    | .replaced old new => some (old, new)
    | _ => none

def Grown (b b' : Builder) : Prop := ∃ new, b'.events = new ++ b.events ∧ b.graph.Later (replacements new) b'.graph

theorem Grown.of_later {b b' : Builder} (h : b.graph.Later [] b'.graph) (events : b'.events = b.events) : Grown b b' :=
  ⟨[], events, h⟩

theorem Grown.of_eq {b b' : Builder} (graph : b'.graph = b.graph) (events : b'.events = b.events) : Grown b b' :=
  .of_later (graph ▸ .refl _) events

instance : Composes Grown where
  refl _ := .of_eq rfl rfl
  trans := by
    rintro b b' b'' ⟨new, hevents, hlater⟩ ⟨new', hevents', hlater'⟩
    refine ⟨new' ++ new, by rw [hevents', hevents, List.append_assoc], ?_⟩
    rw [replacements, List.reverse_append, List.filterMap_append]
    exact hlater.trans hlater'

abbrev Build := Within Grown

instance : MonadReaderOf Builder Build := ⟨.read id⟩

namespace Build

def move (f : Builder → Builder) (graph : ∀ b, (f b).graph = b.graph) (events : ∀ b, (f b).events = b.events) : Build Unit :=
  .change (fun b => ((), f b)) fun b => .of_eq (graph b) (events b)

def updateGraph (f : Graph → Graph) (h : ∀ g : Graph, g.Later [] (f g)) : Build Unit :=
  .change (fun b => ((), { b with graph := f b.graph })) fun b => .of_later (h b.graph) rfl

def inGraph {α : Type} (f : Graph → α × Graph) (h : ∀ g : Graph, g.Later [] (f g).2) : Build α :=
  .change (fun b => let (a, g) := f b.graph; (a, { b with graph := g })) fun b => .of_later (h b.graph) rfl

theorem inGraph_eq_ok {α : Type} {f : Graph → α × Graph} {hf : ∀ g : Graph, g.Later [] (f g).2} {b b' : Builder} {a : α}
    (h : (inGraph f hf).run b = .ok a b') : a = (f b.graph).1 ∧ b' = { b with graph := (f b.graph).2 } := by
  cases h
  exact ⟨rfl, rfl⟩

def emitOp (count : Nat) : Build OpId :=
  .change (·.append opcode args count) fun b => ⟨[.built b.graph.ops.size], rfl, b.append_later opcode args count⟩

theorem emitOp_eq_ok {opcode : Opcode} {args : List Operand} {count : Nat} {b b' : Builder} {i : OpId}
    (h : (emitOp opcode args count).run b = .ok i b') : i = b.graph.ops.size ∧ b' = (b.append opcode args count).2 := by
  cases h
  exact ⟨rfl, rfl⟩

def emit : Build ValueId := do
  let i ← emitOp opcode args 1
  return ((← read).graph.op i).results.headD 0

def emitEffect : Build Unit := do
  let _ ← emitOp opcode args 0

def resultsOf (i : OpId) : Build (List ValueId) := do return ((← read).graph.op i).results

def setLoc (loc : Loc) : Build Unit := move (fun b => { b with loc }) (fun _ => rfl) fun _ => rfl

def getLoc : Build Loc := do return (← read).loc

private def locOf (g : Graph) : Option OpId → Loc
  | some i => (g.op i).loc
  | none => .unknown

variable (b : BlockId)

def toStart : Build Unit :=
  move (fun s =>
    let first := (s.graph.block b).ops.head?
    { s with cursor := some ⟨b, first⟩, loc := locOf s.graph first }) (fun _ => rfl) fun _ => rfl

def toEnd : Build Unit :=
  move (fun s => { s with cursor := some ⟨b, none⟩, loc := locOf s.graph (s.graph.block b).ops.getLast? })
    (fun _ => rfl) fun _ => rfl

def cursor : Build (Option Cursor) := do return (← read).cursor

def restore (c : Option Cursor) : Build Unit :=
  move (fun s => { s with cursor := c, loc := locOf s.graph (c.bind (·.before)) }) (fun _ => rfl) fun _ => rfl

def currentBlock : Build (Option BlockId) := do return (← cursor).map (·.block)

def blockIn (r : RegionId) (types : List (Option IrTy)) : Build BlockId := do
  let b ← inGraph (·.newBlock r types) (.newBlock · r types)
  toEnd b
  return b

def appendBlock : Build BlockId := do
  match ← currentBlock with
  | some b => blockIn ((← read).graph.block b).region []
  | none =>
    let r ← inGraph (·.newRegion none) (.newRegion · none)
    blockIn r []

def addRegion (i : OpId) : Build RegionId := inGraph (·.addRegion i) (.addRegion · i)

def endEmpty : Build Unit :=
  .change (fun s =>
    let (y, g) := s.graph.newOp .yield [.list []] 0 s.loc
    ((), { s with graph := g.place b none y })) fun s =>
    .of_later ((Graph.Later.newOp s.graph .yield [.list []] 0 s.loc).trans (.place _ b none _)) rfl

/-- A block of a new region of an operation, ended by an empty yield when nothing is carried. The insertion point stays. -/
def addBody (i : OpId) (types : List (Option IrTy)) (emptyYield : Bool) : Build BlockId := do
  let r ← addRegion i
  let b ← inGraph (·.newBlock r types) (.newBlock · r types)
  if emptyYield then endEmpty b
  return b

def eraseBlock : Build Unit := updateGraph (·.eraseBlock b) (.eraseBlock · b)

def mergeBefore (b target : BlockId) : Build Unit := updateGraph (·.mergeBefore b target) (.mergeBefore · b target)

def addArgument (t : IrTy) : Build ValueId := inGraph (·.addArgument b t) (.addArgument · b t)

def modifyFunc (name : String) (f : Func → Func) : Build Unit := updateGraph (·.modifyFunc name f) (.modifyFunc · name f)

def dropDeadCode (name : String) : Build Unit := updateGraph (·.dropDeadCode name) (.dropDeadCode · name)

def respell (dims : List Operand) : Build Unit := updateGraph (·.respellShape v dims) (.respellShape · v dims)

def blockArg (n : Nat) : Build ValueId := do
  return (((← read).graph.block b).args.map (·.1)).getD n 0

/-- A counted loop over carried values: its body takes the counter and one argument per value. -/
def forLoop (lower upper step : Operand) (inits : List Operand) : Build (OpId × BlockId) := do
  let i ← emitOp .forOp [lower, upper, step, .list inits] inits.length
  let b ← addBody i (List.replicate (inits.length + 1) none) inits.isEmpty
  return (i, b)

def conditional (types : List IrTy) (condition : Operand) : Build (OpId × BlockId × BlockId) := do
  let i ← emitOp .ifOp [condition, .list (types.map .type)] types.length
  let t ← addBody i [] types.isEmpty
  let e ← addBody i [] types.isEmpty
  return (i, t, e)

def whileLoop (types : List IrTy) (inits : List Operand) : Build (OpId × RegionId × RegionId) := do
  let i ← emitOp .whileOp [.list inits, .list (types.map .type)] types.length
  let before ← addRegion i
  let after ← addRegion i
  return (i, before, after)

def combining (operands : List Operand) (axis : Operand) : Build (OpId × RegionId) := do
  let i ← emitOp opcode [.list operands, axis] operands.length
  let r ← addRegion i
  return (i, r)

def call (callee : String) (args : List Operand) : Build (List ValueId) := do
  let count := match (← read).graph.findFunc? callee with
    | some f => f.type.results.length
    | none => 0
  resultsOf (← emitOp .call [.func callee, .list args] count)

def hint (name : String) (values : List Int) : Build Unit :=
  .change (fun s => ((), { s with
    graph := s.graph.hintValue v name values, events := .hinted v name values :: s.events })) fun s =>
    ⟨[.hinted v name values], rfl, .hintValue s.graph v name values⟩

def replace (old new : ValueId) : Build Unit :=
  .change (fun s => ((), { s with graph := s.graph.replaceUses old new, events := .replaced old new :: s.events })) fun s =>
    ⟨[.replaced old new], rfl, .replaceUses s.graph old new⟩

def typeOf : Build IrTy := do return (← read).graph.typeOf v

/-- A new function at the end of the module, or the one that already has the name; and its new entry block. -/
def openFunc (name : String) (type : FnTy) (isPublic : Bool) (noinline : Option Bool) : Build BlockId := do
  match (← read).graph.findFunc? name with
  | some f =>
    let types := f.type.params.map fun t => some (.known t)
    inGraph (·.newBlock f.body types) (.newBlock · f.body types)
  | none =>
    let r ← inGraph (·.newRegion none) (.newRegion · none)
    updateGraph (fun g => { g with funcs := g.funcs ++ [{ name, isPublic, noinline, type, argHints := [], body := r }] })
      fun _ => .of_eq rfl rfl rfl
    let types := type.params.map fun t => some (.known t)
    inGraph (·.newBlock r types) (.newBlock · r types)

end Build

/-! ## Emitting operations

Most operations are appended at the insertion point, end no block and open no region. Steps that do nothing else have a type
that carries the proof of it.
-/

/-- One change of a construction that ends no block and opens no region. -/
inductive Act (b : Builder) : Builder → Prop
  | emitted {opcode : Opcode} {args : List Operand} {count : Nat} {i : OpId} {b' : Builder}
      (plain : opcode.isTerminator = false) (built : (Build.emitOp opcode args count).run b = .ok i b') : Act b b'
  | hinted (v : ValueId) (name : String) (values : List Int) :
      Act b { b with graph := b.graph.hintValue v name values, events := .hinted v name values :: b.events }
  | respelled (v : ValueId) (dims : List Operand) : Act b { b with graph := b.graph.respellShape v dims }

inductive Acts (b : Builder) : Builder → Prop
  | refl : Acts b b
  | tail {b₁ b₂ : Builder} (before : Acts b b₁) (last : Act b₁ b₂) : Acts b b₂

namespace Acts

variable {b b₁ b₂ : Builder}

theorem single (h : Act b b₁) : Acts b b₁ := tail refl h

theorem trans (h : Acts b b₁) (h' : Acts b₁ b₂) : Acts b b₂ := by
  induction h' with
  | refl => exact h
  | tail _ last ih => exact tail ih last

theorem later (h : Acts b b₁) : ∃ new, b₁.events = new ++ b.events ∧ replacements new = [] ∧ b.graph.Later [] b₁.graph := by
  induction h with
  | refl => exact ⟨[], rfl, rfl, .refl _⟩
  | @tail b₁ b₂ _ last ih =>
    obtain ⟨new, hevents, hnone, hlater⟩ := ih
    cases last with
    | @emitted opcode args count i b' _ built =>
      cases built
      exact ⟨.built b₁.graph.ops.size :: new, congrArg (_ :: ·) hevents, by simpa [replacements] using hnone,
        hlater.trans (b₁.append_later opcode args count)⟩
    | hinted v name values =>
      exact ⟨.hinted v name values :: new, congrArg (_ :: ·) hevents, by simpa [replacements] using hnone,
        hlater.trans (.hintValue _ v name values)⟩
    | respelled v dims => exact ⟨new, hevents, hnone, hlater.trans (.respellShape _ v dims)⟩

theorem grown (h : Acts b b₁) : Grown b b₁ := by
  obtain ⟨new, hevents, hnone, hlater⟩ := h.later
  exact ⟨new, hevents, hnone ▸ hlater⟩

end Acts

instance : Composes Acts where
  refl _ := .refl
  trans := .trans

abbrev Emit := Within Acts

namespace Emit

def toBuild {α : Type} (x : Emit α) : Build α := ⟨x.run, fun h => (x.within h).grown⟩

def target : Emit Target := .read (·.target)

def op (plain : opcode.isTerminator = false := by exact .refl false) : Emit ValueId where
  run := (Build.emit opcode args).run
  within := by
    rintro _ _ _ ⟨⟩
    exact .single (.emitted plain rfl)

def effect (plain : opcode.isTerminator = false := by exact .refl false) : Emit Unit where
  run := (Build.emitEffect opcode args).run
  within := by
    rintro _ _ _ ⟨⟩
    exact .single (.emitted plain rfl)

def hint (name : String) (values : List Int) : Emit Unit where
  run := (Build.hint v name values).run
  within := by
    rintro _ _ _ ⟨⟩
    exact .single (.hinted v name values)

def respell (dims : List Operand) : Emit Unit where
  run := (Build.respell v dims).run
  within := by
    rintro _ _ _ ⟨⟩
    exact .single (.respelled v dims)

end Emit

/-! ## Printed modules

Values and blocks are numbered from zero in each function, an operation's results before its regions; an interactive session
numbers values as they first appear.
-/

structure Names where
  values : Array (Option Nat)
  blocks : Array (Option Nat)
  nextValue : Nat
  nextBlock : Nat

namespace Names

def empty (g : Graph) : Names :=
  { values := Array.replicate g.values.size none, blocks := Array.replicate g.blocks.size none,
    nextValue := 0, nextBlock := 0 }

variable (n : Names)

def addValue (v : ValueId) : Names :=
  { n with values := n.values.setIfInBounds v (some n.nextValue), nextValue := n.nextValue + 1 }

def addBlock (b : BlockId) : Names :=
  { n with blocks := n.blocks.setIfInBounds b (some n.nextBlock), nextBlock := n.nextBlock + 1 }

def value (v : ValueId) : String :=
  match n.values.getD v none with
  | some i => s!"%{i}"
  | none => "%?"

def block (b : BlockId) : String :=
  match n.blocks.getD b none with
  | some i => s!"^{i}"
  | none => "^?"

def addRegion (g : Graph) : Nat → Names → RegionId → Names
  | 0, n, _ => n
  | fuel + 1, n, r =>
    let blocks := (g.region r).blocks
    let n := blocks.foldl addBlock n
    blocks.foldl (fun n b =>
      let blk := g.block b
      let n := blk.args.foldl (fun n a => n.addValue a.1) n
      blk.ops.foldl (fun n i =>
        let o := g.op i
        let n := o.results.foldl addValue n
        o.regions.foldl (addRegion g fuel) n) n) n

end Names

def IrTy.text (n : Names) : IrTy → String
  | .known t => t.irText
  | .typeOf v => s!"typeof({n.value v})"

mutual

def Operand.text (n : Names) : Operand → String
  | .value v | .fixed v => n.value v
  | .absent => "none"
  | .block b => n.block b
  | .type t => t.text n
  | .func f => "@" ++ f
  | .list items => "[" ++ ", ".intercalate (Operand.texts n items) ++ "]"
  | .bool b => if b then "true" else "false"
  | .int i => toString i
  | .float x => "f64:" ++ x.hexDigits
  | .str s => Text.jsonQuoted s
  | .option s => s
  | .object c => s!"<{c}>"

def Operand.texts (n : Names) : List Operand → List String
  | [] => []
  | o :: os => Operand.text n o :: Operand.texts n os

end

def Loc.text : Loc → String
  | .none => "none"
  | .unknown => "unknown"
  | .at file line column => s!"{file}:{line}:{column}"

def hintText (hints : Named String) : String :=
  let sorted := hints.mergeSort fun a b => a.1 ≤ b.1
  "\x7b" ++ ", ".intercalate (sorted.map fun (k, v) => k ++ " = " ++ v) ++ "\x7d"

def Op.line (n : Names) (o : Op) (withLoc : Bool) : String :=
  let results := if o.results.isEmpty then "" else ", ".intercalate (o.results.map n.value) ++ " = "
  let args := if o.args.isEmpty then "" else " " ++ ", ".intercalate (Operand.texts n o.args)
  let hints := if o.hints.isEmpty then ""
    else " " ++ hintText (o.hints.map fun (k, vs) => (k, Ty.shapeText vs))
  results ++ o.opcode.name ++ args ++ hints ++ (if withLoc then " @" ++ o.loc.text else "")

namespace Graph

private def indentation (depth : Nat) : String := String.ofList (List.replicate depth ' ')

def regionLines (g : Graph) (n : Names) (withLoc : Bool) : Nat → Nat → RegionId → List String
  | 0, _, _ => []
  | fuel + 1, depth, r =>
    (g.region r).blocks.flatMap fun b =>
      let blk := g.block b
      let args := blk.args.map fun (v, t) =>
        n.value v ++ (match t with
          | some t => ": " ++ t.text n
          | none => "")
      let header := indentation depth ++ n.block b ++ "(" ++ ", ".intercalate args ++ "):"
      header :: blk.ops.flatMap fun i =>
        let o := g.op i
        let pad := indentation (depth + 2)
        (pad ++ o.line n withLoc) :: o.regions.flatMap fun r =>
          (pad ++ "\x7b") :: (g.regionLines n withLoc fuel (depth + 4) r ++ [pad ++ "\x7d"])

def funcLines (g : Graph) (withLoc : Bool) (f : Func) : List String :=
  let depth := g.ops.size + 1
  let n := Names.addRegion g depth (Names.empty g) f.body
  let noinline := match f.noinline with
    | none => "none"
    | some true => "true"
    | some false => "false"
  let hints := f.argHints.mergeSort fun a b => a.1 ≤ b.1
  let hintParts := hints.map fun (i, hs) =>
    " arg" ++ toString i ++ hintText (hs.map fun (k, v) => (k, toString v))
  let header := "func " ++ (if f.isPublic then "public" else "private") ++ " @" ++ f.name ++ "(" ++
    ", ".intercalate (f.type.params.map Ty.irText) ++ ") -> (" ++ ", ".intercalate (f.type.results.map Ty.irText) ++
    ") noinline=" ++ noinline ++ String.join hintParts
  header :: g.regionLines n withLoc depth 2 f.body

def lines (g : Graph) (withLoc : Bool) : List String := g.funcs.flatMap (g.funcLines withLoc)

end Graph

structure SessionNames where
  shown : Array ValueId := #[]

namespace SessionNames

def number (n : SessionNames) (v : ValueId) : Nat × SessionNames :=
  match n.shown.findIdx? (· = v) with
  | some i => (i, n)
  | none => (n.shown.size, { n with shown := n.shown.push v })

def operandValues : List Operand → List ValueId
  | [] => []
  | .value v :: os | .fixed v :: os => v :: operandValues os
  | .type (.typeOf v) :: os => v :: operandValues os
  | .list items :: os => operandValues items ++ operandValues os
  | _ :: os => operandValues os

def names (n : SessionNames) (g : Graph) : Names :=
  n.shown.foldl Names.addValue (Names.empty g)

def eventLine (n : SessionNames) (g : Graph) : Event → List String × SessionNames
  | .built i =>
    let o := g.op i
    let n := (o.results ++ operandValues o.args).foldl (fun n v => (n.number v).2) n
    ([({ o with hints := [] } : Op).line (n.names g) false], n)
  | .hinted v name values =>
    let (k, n) := n.number v
    ([s!"attr %{k} {name} = {Ty.shapeText values}"], n)
  | .replaced _ _ => ([], n)

end SessionNames

end TileKernel.IR
