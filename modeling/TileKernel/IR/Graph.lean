import TileKernel.Fault
import TileKernel.Number

/-! # Graphs of operations

A module under construction is a graph: operations, blocks, regions and values live in arenas and refer to each other by index.
Erasing or moving an operation changes only the block that lists it, so an index stays valid; a function contains what can be
reached from its body.
-/

namespace TileKernel.IR

inductive Opcode where
  | add | addptr | advance | and | ashr | assert | atomicCas | atomicRmw | barrier | bitcast | broadcast | cat | cos
  | dot | exp | expandDims | externElementwise | fabs | fadd | fcmpOEQ | fcmpOGE | fcmpOGT | fcmpOLE | fcmpOLT
  | fcmpONE | fcmpUEQ | fcmpUGE | fcmpUGT | fcmpULE | fcmpULT | fcmpUNE | fdiv | fmul | fpExt | fpToFp | fpToSi
  | fpToUi | fpTrunc | frem | fsub | getAllOnesValue | getBf16 | getFp16 | getFp32 | getFp64 | getInt1 | getInt16
  | getInt32 | getInt64 | getInt8 | getNullValue | getNumPrograms | getOneValue | getProgramId | getUint16
  | getUint32 | getUint64 | getUint8 | iabs | icmpEQ | icmpNE | icmpSGE | icmpSGT | icmpSLE | icmpSLT | icmpUGE
  | icmpUGT | icmpULE | icmpULT | indexToSi | inlineAsm | intCast | intToPtr | load | log | lshr | makeBlockPtr
  | makeRange | maskedLoad | maskedStore | maxf | maxsi | maxui | minf | minsi | minui | mul | or | print | ptrToInt
  | sdiv | select | shl | siToFp | sin | splat | sqrt | srem | store | sub | tensorPointerLoad | tensorPointerStore
  | toIndex | trans | udiv | uiToFp | undef | urem | view | xor | ret | call | branch | condBranch | yield
  | condition | reduceRet | scanRet | forOp | ifOp | whileOp | reduce | scan
deriving DecidableEq, Inhabited

namespace Opcode

def name : Opcode → String
  | .add => "add"
  | .addptr => "addptr"
  | .advance => "advance"
  | .and => "and"
  | .ashr => "ashr"
  | .assert => "assert"
  | .atomicCas => "atomic_cas"
  | .atomicRmw => "atomic_rmw"
  | .barrier => "barrier"
  | .bitcast => "bitcast"
  | .broadcast => "broadcast"
  | .cat => "cat"
  | .cos => "cos"
  | .dot => "dot"
  | .exp => "exp"
  | .expandDims => "expand_dims"
  | .externElementwise => "extern_elementwise"
  | .fabs => "fabs"
  | .fadd => "fadd"
  | .fcmpOEQ => "fcmpOEQ"
  | .fcmpOGE => "fcmpOGE"
  | .fcmpOGT => "fcmpOGT"
  | .fcmpOLE => "fcmpOLE"
  | .fcmpOLT => "fcmpOLT"
  | .fcmpONE => "fcmpONE"
  | .fcmpUEQ => "fcmpUEQ"
  | .fcmpUGE => "fcmpUGE"
  | .fcmpUGT => "fcmpUGT"
  | .fcmpULE => "fcmpULE"
  | .fcmpULT => "fcmpULT"
  | .fcmpUNE => "fcmpUNE"
  | .fdiv => "fdiv"
  | .fmul => "fmul"
  | .fpExt => "fp_ext"
  | .fpToFp => "fp_to_fp"
  | .fpToSi => "fp_to_si"
  | .fpToUi => "fp_to_ui"
  | .fpTrunc => "fp_trunc"
  | .frem => "frem"
  | .fsub => "fsub"
  | .getAllOnesValue => "get_all_ones_value"
  | .getBf16 => "get_bf16"
  | .getFp16 => "get_fp16"
  | .getFp32 => "get_fp32"
  | .getFp64 => "get_fp64"
  | .getInt1 => "get_int1"
  | .getInt16 => "get_int16"
  | .getInt32 => "get_int32"
  | .getInt64 => "get_int64"
  | .getInt8 => "get_int8"
  | .getNullValue => "get_null_value"
  | .getNumPrograms => "get_num_programs"
  | .getOneValue => "get_one_value"
  | .getProgramId => "get_program_id"
  | .getUint16 => "get_uint16"
  | .getUint32 => "get_uint32"
  | .getUint64 => "get_uint64"
  | .getUint8 => "get_uint8"
  | .iabs => "iabs"
  | .icmpEQ => "icmpEQ"
  | .icmpNE => "icmpNE"
  | .icmpSGE => "icmpSGE"
  | .icmpSGT => "icmpSGT"
  | .icmpSLE => "icmpSLE"
  | .icmpSLT => "icmpSLT"
  | .icmpUGE => "icmpUGE"
  | .icmpUGT => "icmpUGT"
  | .icmpULE => "icmpULE"
  | .icmpULT => "icmpULT"
  | .indexToSi => "index_to_si"
  | .inlineAsm => "inline_asm"
  | .intCast => "int_cast"
  | .intToPtr => "int_to_ptr"
  | .load => "load"
  | .log => "log"
  | .lshr => "lshr"
  | .makeBlockPtr => "make_block_ptr"
  | .makeRange => "make_range"
  | .maskedLoad => "masked_load"
  | .maskedStore => "masked_store"
  | .maxf => "maxf"
  | .maxsi => "maxsi"
  | .maxui => "maxui"
  | .minf => "minf"
  | .minsi => "minsi"
  | .minui => "minui"
  | .mul => "mul"
  | .or => "or"
  | .print => "print"
  | .ptrToInt => "ptr_to_int"
  | .sdiv => "sdiv"
  | .select => "select"
  | .shl => "shl"
  | .siToFp => "si_to_fp"
  | .sin => "sin"
  | .splat => "splat"
  | .sqrt => "sqrt"
  | .srem => "srem"
  | .store => "store"
  | .sub => "sub"
  | .tensorPointerLoad => "tensor_pointer_load"
  | .tensorPointerStore => "tensor_pointer_store"
  | .toIndex => "to_index"
  | .trans => "trans"
  | .udiv => "udiv"
  | .uiToFp => "ui_to_fp"
  | .undef => "undef"
  | .urem => "urem"
  | .view => "view"
  | .xor => "xor"
  | .ret => "ret"
  | .call => "call"
  | .branch => "branch"
  | .condBranch => "cond_branch"
  | .yield => "yield"
  | .condition => "condition"
  | .reduceRet => "reduce_ret"
  | .scanRet => "scan_ret"
  | .forOp => "for"
  | .ifOp => "if"
  | .whileOp => "while"
  | .reduce => "reduce"
  | .scan => "scan"

def isTerminator : Opcode → Bool
  | .ret | .branch | .condBranch | .yield | .condition | .reduceRet | .scanRet => true
  | _ => false

structure Plain where
  op : Opcode
  plain : op.isTerminator = false := by exact .refl false

def isReturn : Opcode → Bool
  | .ret | .yield | .reduceRet | .scanRet => true
  | _ => false

def takesShape : Opcode → Bool
  | .splat | .broadcast | .view => true
  | _ => false

def constantOf? : Scalar → Option Plain
  | .int1 => some (.mk .getInt1)
  | .int8 => some (.mk .getInt8)
  | .int16 => some (.mk .getInt16)
  | .int32 => some (.mk .getInt32)
  | .int64 => some (.mk .getInt64)
  | .uint8 => some (.mk .getUint8)
  | .uint16 => some (.mk .getUint16)
  | .uint32 => some (.mk .getUint32)
  | .uint64 => some (.mk .getUint64)
  | .fp16 => some (.mk .getFp16)
  | .bf16 => some (.mk .getBf16)
  | .fp32 => some (.mk .getFp32)
  | .fp64 => some (.mk .getFp64)
  | _ => none

end Opcode

/-! ## Graphs -/

abbrev ValueId := Nat
abbrev OpId := Nat
abbrev BlockId := Nat
abbrev RegionId := Nat

inductive Loc where
  | none
  | unknown
  | at (file : String) (line column : Int)
deriving Inhabited

inductive IrTy where
  | known (t : Ty)
  | typeOf (v : ValueId)

inductive Operand where
  | value (v : ValueId)
  /-- A value that no name ever stands for: nothing is put in its place. -/
  | fixed (v : ValueId)
  | absent
  | block (b : BlockId)
  | type (t : IrTy)
  | func (name : String)
  | list (items : List Operand)
  | bool (b : Bool)
  | int (n : Int)
  | float (x : Binary64)
  | str (s : String)
  | option (name : String)
  | object (className : String)

structure Op where
  opcode : Opcode
  args : List Operand
  results : List ValueId
  regions : List RegionId
  hints : List (String × List Int)
  loc : Loc
deriving Inhabited

structure Block where
  args : List (ValueId × Option IrTy)
  ops : List OpId
  region : RegionId
deriving Inhabited

structure Region where
  blocks : List BlockId
  owner : Option OpId
deriving Inhabited

inductive ValueSource where
  | result (op : OpId)
  | argument (block : BlockId) (index : Nat)
deriving DecidableEq

structure Func where
  name : String
  isPublic : Bool
  noinline : Option Bool
  type : FnTy
  argHints : List (Nat × List (String × Int))
  body : RegionId

structure Graph where
  ops : Array Op := #[]
  blocks : Array Block := #[]
  regions : Array Region := #[]
  values : Array ValueSource := #[]
  funcs : List Func := []

namespace Graph

variable (g : Graph) (i : OpId) (b : BlockId) (v : ValueId) (name : String)

def op : Op := g.ops.getD i default

def block (i : BlockId) : Block := g.blocks.getD i default

def region (i : RegionId) : Region := g.regions.getD i default

def newRegion (owner : Option OpId) : RegionId × Graph :=
  (g.regions.size, { g with regions := g.regions.push { blocks := [], owner := owner } })

def newBlock (r : RegionId) (types : List (Option IrTy)) : BlockId × Graph :=
  let b := g.blocks.size
  let first := g.values.size
  let args := types.zipIdx.map fun (t, i) => (first + i, t)
  let sources := (List.range types.length).map fun i => ValueSource.argument b i
  (b, { g with
    blocks := g.blocks.push { args := args, ops := [], region := r }
    values := g.values ++ sources.toArray
    regions := g.regions.modify r fun r => { r with blocks := r.blocks ++ [b] } })

def addRegion : RegionId × Graph :=
  let (r, g) := g.newRegion (some i)
  (r, { g with ops := g.ops.modify i fun o => { o with regions := o.regions ++ [r] } })

def addArgument (t : IrTy) : ValueId × Graph :=
  let v := g.values.size
  let i := (g.block b).args.length
  (v, { g with
    values := g.values.push (.argument b i)
    blocks := g.blocks.modify b fun blk => { blk with args := blk.args ++ [(v, some t)] } })

def newOp (opcode : Opcode) (args : List Operand) (count : Nat) (loc : Loc) : OpId × Graph :=
  let i := g.ops.size
  let first := g.values.size
  let results := (List.range count).map (first + ·)
  (i, { g with
    ops := g.ops.push { opcode, args, results, regions := [], hints := [], loc }
    values := g.values ++ (List.replicate count (ValueSource.result i)).toArray })

def insertBefore (mark x : OpId) : List OpId → List OpId
  | [] => [x]
  | y :: ys => if y = mark then x :: y :: ys else y :: insertBefore mark x ys

def place (before : Option OpId) (i : OpId) : Graph :=
  { g with blocks := g.blocks.modify b fun blk =>
      { blk with ops := match before with
          | none => blk.ops ++ [i]
          | some mark => insertBefore mark i blk.ops } }

def eraseBlock : Graph :=
  let r := (g.block b).region
  { g with regions := g.regions.modify r fun r => { r with blocks := r.blocks.filter (· ≠ b) } }

def mergeBefore (b target : BlockId) : Graph :=
  let moved := (g.block b).ops
  let g := { g with blocks := g.blocks.modify target fun blk => { blk with ops := moved ++ blk.ops } }
  let g := { g with blocks := g.blocks.modify b fun blk => { blk with ops := [] } }
  g.eraseBlock b

def typeOf : IrTy :=
  match g.values[v]? with
  | some (.argument b i) =>
    match (g.block b).args[i]? with
    | some (_, some t) => t
    | _ => .typeOf v
  | _ => .typeOf v

def setHint (values : List Int) : Graph :=
  { g with ops := g.ops.modify i fun o => { o with hints := o.hints.filter (·.1 ≠ name) ++ [(name, values)] } }

/-- Attach a hint to a value: to the operation that makes it, or, for an argument of the entry block of an operation's region,
to that operation, with the position in its name. Arguments of function bodies take no hints. -/
def hintValue (values : List Int) : Graph :=
  match g.values[v]? with
  | some (.result i) => g.setHint i name values
  | some (.argument b n) =>
    let r := g.region (g.block b).region
    match r.owner with
    | some i => if r.blocks.head? = some b then g.setHint i s!"{name}_arg{n}" values else g
    | none => g
  | none => g

def spelledShape? : Option (List Operand) :=
  match g.values[v]? with
  | some (.result i) =>
    match (g.op i).opcode, (g.op i).args with
    | .splat, [_, .list dims] | .broadcast, [_, .list dims] | .view, [_, .list dims] => some dims
    | _, _ => none
  | _ => none

def respellShape (dims : List Operand) : Graph :=
  match g.values[v]?, g.spelledShape? v with
  | some (.result i), some _ => { g with ops := g.ops.modify i fun o => { o with args := o.args.dropLast ++ [.list dims] } }
  | _, _ => g

def lastOpIs (p : Opcode → Bool) : Bool :=
  match (g.block b).ops.getLast? with
  | some i => p (g.op i).opcode
  | none => false

def hasTerminator : Bool := g.lastOpIs b Opcode.isTerminator

def hasReturn : Bool := g.lastOpIs b Opcode.isReturn

mutual

def substOperand (old new : ValueId) : Operand → Operand
  | .value v => .value (if v = old then new else v)
  | .list items => .list (substOperands old new items)
  | o => o

def substOperands (old new : ValueId) : List Operand → List Operand
  | [] => []
  | o :: os => substOperand old new o :: substOperands old new os

end

def replaceUses (old new : ValueId) : Graph :=
  { g with ops := g.ops.map fun o => { o with args := substOperands old new o.args } }

def findFunc? : Option Func := g.funcs.find? (·.name = name)

def modifyFunc (f : Func → Func) : Graph :=
  { g with funcs := g.funcs.map fun fn => if fn.name = name then f fn else fn }

def takeThroughRet : List OpId → List OpId
  | [] => []
  | i :: rest => if (g.op i).opcode = .ret then [i] else i :: takeThroughRet rest

def dropInRegion : Nat → Graph → RegionId → Graph
  | 0, g, _ => g
  | fuel + 1, g, r =>
    (g.region r).blocks.foldl (fun g b =>
      let ops := takeThroughRet g (g.block b).ops
      let g := { g with blocks := g.blocks.modify b fun blk => { blk with ops } }
      ops.foldl (fun g i => (g.op i).regions.foldl (dropInRegion fuel) g) g) g

def dropDeadCode : Graph :=
  match g.findFunc? name with
  | none => g
  | some fn => dropInRegion (g.ops.size + 1) g fn.body

end Graph

end TileKernel.IR

/-! ## Growth

A graph only grows: values keep where they come from, operations what they do and give, and blocks their arguments. Operands
change in one way: a value is put in the place of another, wherever that one stands. Steps carry the proof of what they do to a
state in their type.
-/

namespace TileKernel

/-- A relation between states that does nothing at all and one change after the other respect. -/
class Composes {σ : Type} (R : σ → σ → Prop) : Prop where
  refl : ∀ s, R s s
  trans : ∀ {s t u}, R s t → R t u → R s u

/-- Steps that change the state as `R` says when they succeed. -/
structure Within {σ : Type} (R : σ → σ → Prop) (α : Type) where
  run : EStateM Fault σ α
  within : ∀ {s a s'}, run s = .ok a s' → R s s'

namespace Within

variable {σ α β : Type} {R : σ → σ → Prop} [Composes R]

def done (a : α) : Within R α where
  run := Pure.pure a
  within := by
    rintro s _ _ ⟨⟩
    exact Composes.refl s

def next (x : Within R α) (f : α → Within R β) : Within R β where
  run := x.run >>= fun a => (f a).run
  within := by
    intro s b s' h
    simp only [Bind.bind, EStateM.bind] at h
    split at h
    · rename_i a s₁ hx
      exact Composes.trans (x.within hx) ((f a).within h)
    · cases h

instance : Monad (Within R) where
  pure := done
  bind := next

theorem bind_run {x : Within R α} {s t : σ} {a : α} (h : x.run s = .ok a t) (f : α → Within R β) :
    (x >>= f).run s = (f a).run t := by
  have hbind : (x >>= f).run s = EStateM.bind x.run (fun a => (f a).run) s := rfl
  rw [hbind, EStateM.bind, h]

theorem bind_run_error {x : Within R α} {s t : σ} {fault : Fault} (h : x.run s = .error fault t) (f : α → Within R β) :
    (x >>= f).run s = .error fault t := by
  have hbind : (x >>= f).run s = EStateM.bind x.run (fun a => (f a).run) s := rfl
  rw [hbind, EStateM.bind, h]

theorem bind_eq_ok {x : Within R α} {f : α → Within R β} {s s' : σ} {b : β} :
    (x >>= f).run s = .ok b s' ↔ ∃ a t, x.run s = .ok a t ∧ (f a).run t = .ok b s' := by
  have hbind : (x >>= f).run s = EStateM.bind x.run (fun a => (f a).run) s := rfl
  rw [hbind, EStateM.bind]
  cases x.run s with
  | ok a t =>
    refine ⟨fun h => ⟨a, t, rfl, h⟩, ?_⟩
    rintro ⟨_, _, ⟨⟩, h⟩
    exact h
  | error f t => simp

theorem pure_eq_ok {s s' : σ} {a b : α} : (pure a : Within R α).run s = .ok b s' ↔ a = b ∧ s = s' := by
  have hpure : (pure a : Within R α).run s = .ok a s := rfl
  rw [hpure, EStateM.Result.ok.injEq]

instance : LawfulMonad (Within R) := by
  have hext {α : Type} {x y : Within R α} (h : x.run = y.run) : x = y := by
    obtain ⟨f, hf⟩ := x
    obtain ⟨g, hg⟩ := y
    cases h
    rfl
  exact LawfulMonad.mk' _ (fun x => hext (id_map x.run)) (fun a f => hext (pure_bind a fun a => (f a).run))
    fun x f g => hext (bind_assoc x.run (fun a => (f a).run) fun b => (g b).run)

/-- Failures; a step whose failure is caught has changed nothing. -/
instance : MonadExcept Fault (Within R) where
  throw f :=
    { run := MonadExcept.throw f
      within := by rintro _ _ _ ⟨⟩ }
  tryCatch x handle :=
    { run := fun s =>
        match x.run s with
        | .ok a s' => .ok a s'
        | .error f _ => (handle f).run s
      within := by
        intro s a s' h
        split at h
        · rename_i a₁ s₁ hx
          cases h
          exact x.within hx
        · exact (handle _).within h }

def read (f : σ → α) : Within R α where
  run := do return f (← get)
  within := by
    rintro s _ _ ⟨⟩
    exact Composes.refl s

def change (f : σ → α × σ) (h : ∀ s, R s (f s).2) : Within R α where
  run := modifyGet f
  within := by
    rintro s _ _ ⟨⟩
    exact h s

def ofExcept : Result α → Within R α
  | .ok a => pure a
  | .error f => throw f

end Within

namespace IR

def renamed (σ : List (ValueId × ValueId)) (v : ValueId) : ValueId := σ.foldl (fun v p => if v = p.1 then p.2 else v) v

def renamedOperands (σ : List (ValueId × ValueId)) (os : List Operand) : List Operand :=
  σ.foldl (fun os p => Graph.substOperands p.1 p.2 os) os

theorem renamedOperands_append (σ τ : List (ValueId × ValueId)) (os : List Operand) :
    renamedOperands (σ ++ τ) os = renamedOperands τ (renamedOperands σ os) := List.foldl_append

structure Op.Later (σ : List (ValueId × ValueId)) (o o' : Op) : Prop where
  opcode : o'.opcode = o.opcode
  results : o'.results = o.results
  regions : o.regions <+: o'.regions
  values : o'.args.dropLast = renamedOperands σ o.args.dropLast
  args : o.opcode.takesShape = false → o'.args = renamedOperands σ o.args

namespace Op.Later

variable {σ τ : List (ValueId × ValueId)} {o o' o'' : Op}

theorem refl (o : Op) : Op.Later [] o o := ⟨rfl, rfl, List.prefix_rfl, rfl, fun _ => rfl⟩

theorem trans (h : Op.Later σ o o') (h' : Op.Later τ o' o'') : Op.Later (σ ++ τ) o o'' where
  opcode := h'.opcode.trans h.opcode
  results := h'.results.trans h.results
  regions := h.regions.trans h'.regions
  values := by rw [h'.values, h.values, renamedOperands_append]
  args ho := by rw [h'.args (h.opcode ▸ ho), h.args ho, renamedOperands_append]

end Op.Later

structure Block.Later (b b' : Block) : Prop where
  args : b.args <+: b'.args
  region : b'.region = b.region

theorem Block.Later.refl (b : Block) : Block.Later b b := ⟨List.prefix_rfl, rfl⟩

namespace Graph

structure Later (σ : List (ValueId × ValueId)) (g g' : Graph) : Prop where
  values : ∀ {v : ValueId} {source}, g.values[v]? = some source → g'.values[v]? = some source
  ops : ∀ {i : OpId} {o}, g.ops[i]? = some o → ∃ o', g'.ops[i]? = some o' ∧ Op.Later σ o o'
  blocks : ∀ {b : BlockId} {blk}, g.blocks[b]? = some blk → ∃ blk', g'.blocks[b]? = some blk' ∧ Block.Later blk blk'

namespace Later

variable {σ τ : List (ValueId × ValueId)} {g g' g'' : Graph}

theorem trans (h : Later σ g g') (h' : Later τ g' g'') : Later (σ ++ τ) g g'' where
  values hv := h'.values (h.values hv)
  ops ho := by
    obtain ⟨o', ho', hlater⟩ := h.ops ho
    obtain ⟨o'', ho'', hlater'⟩ := h'.ops ho'
    exact ⟨o'', ho'', hlater.trans hlater'⟩
  blocks hb := by
    obtain ⟨blk', hb', hlater⟩ := h.blocks hb
    obtain ⟨blk'', hb'', hlater'⟩ := h'.blocks hb'
    exact ⟨blk'', hb'', hlater.args.trans hlater'.args, hlater'.region.trans hlater.region⟩

theorem of_eq (values : g'.values = g.values) (ops : g'.ops = g.ops) (blocks : g'.blocks = g.blocks) : Later [] g g' :=
  ⟨fun h => values ▸ h, fun h => ⟨_, ops ▸ h, .refl _⟩, fun h => ⟨_, blocks ▸ h, .refl _⟩⟩

variable (g) (b : BlockId)

theorem refl : Later [] g g := .of_eq rfl rfl rfl

theorem foldl {α : Type} {f : Graph → α → Graph} (h : ∀ g x, Later [] g (f g x)) (xs : List α) (g : Graph) :
    Later [] g (xs.foldl f g) := by
  induction xs generalizing g with
  | nil => exact refl g
  | cons x xs ih => exact (h g x).trans (ih (f g x))

theorem modifyOp (i : OpId) (f : Op → Op) (h : ∀ o, Op.Later [] o (f o)) : Later [] g { g with ops := g.ops.modify i f } where
  values hv := hv
  ops {j o} ho := by
    rw [Array.getElem?_modify, ho]
    split
    · exact ⟨_, rfl, h o⟩
    · exact ⟨o, rfl, .refl o⟩
  blocks hb := ⟨_, hb, .refl _⟩

theorem modifyBlock (f : Block → Block) (h : ∀ blk, Block.Later blk (f blk)) :
    Later [] g { g with blocks := g.blocks.modify b f } where
  values hv := hv
  ops ho := ⟨_, ho, .refl _⟩
  blocks {c blk} hc := by
    rw [Array.getElem?_modify, hc]
    split
    · exact ⟨_, rfl, h blk⟩
    · exact ⟨blk, rfl, .refl blk⟩

theorem modifyBlockOps (f : Block → List OpId) :
    Later [] g { g with blocks := g.blocks.modify b fun blk => { blk with ops := f blk } } :=
  modifyBlock g b _ fun _ => ⟨List.prefix_rfl, rfl⟩

theorem newOp (opcode : Opcode) (args : List Operand) (count : Nat) (loc : Loc) : Later [] g (g.newOp opcode args count loc).2 where
  values hv := by
    obtain ⟨hlt, -⟩ := Array.getElem?_eq_some_iff.1 hv
    rw [Graph.newOp, Array.getElem?_append_left hlt, hv]
  ops {i o} ho := by
    obtain ⟨hlt, -⟩ := Array.getElem?_eq_some_iff.1 ho
    exact ⟨o, by rw [Graph.newOp, Array.getElem?_push, if_neg (Nat.ne_of_lt hlt), ho], .refl o⟩
  blocks hb := ⟨_, hb, .refl _⟩

theorem place (before : Option OpId) (i : OpId) : Later [] g (g.place b before i) :=
  modifyBlockOps g b _

theorem newRegion (owner : Option OpId) : Later [] g (g.newRegion owner).2 := .of_eq rfl rfl rfl

theorem addRegion (i : OpId) : Later [] g (g.addRegion i).2 :=
  (newRegion g (some i)).trans (modifyOp _ i _ fun _ => ⟨rfl, rfl, List.prefix_append _ _, rfl, fun _ => rfl⟩)

theorem newBlock (r : RegionId) (types : List (Option IrTy)) : Later [] g (g.newBlock r types).2 where
  values hv := by
    obtain ⟨hlt, -⟩ := Array.getElem?_eq_some_iff.1 hv
    rw [Graph.newBlock, Array.getElem?_append_left hlt, hv]
  ops ho := ⟨_, ho, .refl _⟩
  blocks {b blk} hb := by
    obtain ⟨hlt, -⟩ := Array.getElem?_eq_some_iff.1 hb
    exact ⟨blk, by rw [Graph.newBlock, Array.getElem?_push, if_neg (Nat.ne_of_lt hlt), hb], .refl blk⟩

theorem addArgument (t : IrTy) : Later [] g (g.addArgument b t).2 where
  values {v source} hv := by
    obtain ⟨hlt, -⟩ := Array.getElem?_eq_some_iff.1 hv
    rw [Graph.addArgument, Array.getElem?_push, if_neg (Nat.ne_of_lt hlt), hv]
  ops ho := ⟨_, ho, .refl _⟩
  blocks hb := (modifyBlock g b (fun blk => { blk with args := blk.args ++ [(g.values.size, some t)] })
    fun _ => ⟨List.prefix_append _ _, rfl⟩).blocks hb

theorem eraseBlock : Later [] g (g.eraseBlock b) := .of_eq rfl rfl rfl

theorem mergeBefore (b target : BlockId) : Later [] g (g.mergeBefore b target) :=
  ((modifyBlockOps g target _).trans (modifyBlockOps _ b _)).trans (eraseBlock _ b)

theorem setHint (i : OpId) (name : String) (values : List Int) : Later [] g (g.setHint i name values) :=
  modifyOp g i _ fun _ => ⟨rfl, rfl, List.prefix_rfl, rfl, fun _ => rfl⟩

theorem hintValue (v : ValueId) (name : String) (values : List Int) : Later [] g (g.hintValue v name values) := by
  unfold Graph.hintValue
  split
  · exact setHint g _ name values
  · dsimp only
    split
    · split
      · exact setHint g _ _ values
      · exact refl g
    · exact refl g
  · exact refl g

theorem modifyFunc (name : String) (f : Func → Func) : Later [] g (g.modifyFunc name f) := .of_eq rfl rfl rfl

theorem dropLast_substOperands (old new : ValueId) (os : List Operand) :
    (substOperands old new os).dropLast = substOperands old new os.dropLast := by
  induction os with
  | nil => rfl
  | cons o os ih =>
    cases os with
    | nil => rfl
    | cons o' os => exact congrArg (substOperand old new o :: ·) ih

theorem replaceUses (old new : ValueId) : Later [(old, new)] g (g.replaceUses old new) where
  values hv := hv
  ops ho := by
    rw [Graph.replaceUses, Array.getElem?_map, ho]
    exact ⟨_, rfl, rfl, rfl, List.prefix_rfl, dropLast_substOperands old new _, fun _ => rfl⟩
  blocks hb := ⟨_, hb, .refl _⟩

theorem takesShape_of_spelledShape? {g : Graph} {v : ValueId} {i : OpId} {dims : List Operand}
    (hv : g.values[v]? = some (.result i)) (h : g.spelledShape? v = some dims) : (g.op i).opcode.takesShape = true := by
  simp only [spelledShape?, hv] at h
  split at h <;> simp_all [Opcode.takesShape]

theorem respellShape (v : ValueId) (dims : List Operand) : Later [] g (g.respellShape v dims) := by
  unfold Graph.respellShape
  split
  · rename_i i _ hv hshape
    refine ⟨fun hv => hv, fun {j o} ho => ?_, fun hb => ⟨_, hb, .refl _⟩⟩
    rw [Array.getElem?_modify, ho]
    split
    · rename_i hij
      subst hij
      have ho' : g.op i = o := by simp [Graph.op, ho]
      refine ⟨_, rfl, rfl, rfl, List.prefix_rfl, List.dropLast_concat, fun hno => ?_⟩
      rw [← ho', takesShape_of_spelledShape? hv hshape] at hno
      cases hno
    · exact ⟨o, rfl, .refl o⟩
  · exact refl g

theorem dropInRegion (fuel : Nat) (g : Graph) (r : RegionId) : Later [] g (Graph.dropInRegion fuel g r) := by
  induction fuel generalizing g r with
  | zero => exact refl g
  | succ fuel ih =>
    refine foldl (fun g b => ?_) _ g
    exact (modifyBlockOps g b _).trans (foldl (fun g i => foldl ih _ g) _ _)

theorem dropDeadCode (name : String) : Later [] g (g.dropDeadCode name) := by
  unfold Graph.dropDeadCode
  split
  · exact refl g
  · exact dropInRegion _ g _

end Later

end Graph

end IR

end TileKernel
