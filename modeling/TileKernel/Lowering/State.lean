import TileKernel.Lowering.Value

/-! # Programs and the state of a lowering

A program is a table of functions with the names that each namespace defines. Names keep the order in which they were first
defined, which decides the order of carried values.
-/

namespace TileKernel.Lowering

open Source

abbrev Scope := Named Value

namespace Scope

variable (s : Scope)

def find? (name : String) : Option Value := s.lookup name

def contains (name : String) : Bool := (s.lookup name).isSome

/-- Define a name: a new one goes to the end, an old one keeps its place. -/
def set (name : String) (v : Value) : Scope := Table.put s name v

def names : List String := s.map (·.1)

theorem mem_names_set {s : Scope} {name n : String} {v : Value} : n ∈ (s.set name v).names ↔ n = name ∨ n ∈ s.names :=
  Table.mem_keys_put

theorem names_set (name : String) (v : Value) : (s.set name v).names = if name ∈ s.names then s.names else s.names ++ [name] :=
  Table.keys_put s name v

theorem names_prefix_set (name : String) (v : Value) : s.names <+: (s.set name v).names := by
  rw [names_set]
  split <;> simp

theorem nodup_names_set {s : Scope} (h : s.names.Nodup) (name : String) (v : Value) : (s.set name v).names.Nodup := by
  rw [names_set]
  split
  · exact h
  · rename_i hnew
    exact List.nodup_append.mpr ⟨h, by simp, by simpa using fun n hn => ne_of_mem_of_not_mem hn hnew⟩

theorem find?_set (name n : String) (v : Value) : (s.set name v).find? n = if n = name then some v else s.find? n :=
  Table.lookup_put s name n v

theorem contains_iff {s : Scope} {name : String} : s.contains name = true ↔ name ∈ s.names := Table.isSome_lookup_iff

end Scope

structure FuncInfo where
  name : String
  space : Space
  file : String
  beginLine : Int
  text : String
  tree : Result FuncDef
  defaults : List Value := []
  namedDefaults : List (Option Value) := []
  /-- The values of the default arguments in a launch, where each is written out and read again. -/
  launchDefaults : List Value := []
  isJit : Bool := true
  /-- Whether calls are kept as calls, if the definition says so. -/
  noinline : Option Bool := none
  /-- Whether run-time checks are kept, if the definition says so. -/
  debug : Option Bool := none
  interpret : Bool := false
  /-- The texts of the annotations of parameters and of the result. -/
  annotations : Named String := []
  notSpecialized : List Value := []
deriving Inhabited

namespace FuncInfo

variable (info : FuncInfo)

def paramNames : List String :=
  match info.tree with
  | .ok f =>
    let ps := f.params
    (ps.args ++ ps.vararg.toList ++ ps.kwonly ++ ps.kwarg.toList).map (·.name)
  | .error _ => []

def constantPositions : Result (List Nat) :=
  (info.annotations.filter fun (_, ty) => Text.occursIn "constexpr" ty).mapM fun (n, _) =>
    match info.paramNames.findIdx? (· == n) with
    | some i => .ok i
    | none => refused .value

def regularNames (constants : List Nat) : List String :=
  (info.paramNames.zipIdx.filter fun (_, i) => !constants.contains i).map (·.1)

/-- The arguments that kernels are not specialized on: a name stands for its place among the regular parameters. -/
def notSpecializedPositions (constants : List Nat) : Result (List Int) :=
  info.notSpecialized.filterMapM fun v =>
    match v with
    | Value.str n =>
      match (info.regularNames constants).findIdx? (· == n) with
      | some i => .ok (some (i : Int))
      | none => refused .value
    | v => .ok v.int?

end FuncInfo

structure Program where
  funcs : Array FuncInfo := #[]
  spaces : List (Space × Scope) := []
deriving Inhabited

namespace Program

variable (p : Program)

def func (f : FuncRef) : FuncInfo := p.funcs.getD f.index default

def scope (s : Space) : Scope := (p.spaces.lookup s).getD []

def define (s : Space) (name : String) (v : Value) : Program :=
  { p with spaces := go p.spaces }
where
  go : List (Space × Scope) → List (Space × Scope)
    | [] => [(s, [(name, v)])]
    | (t, sc) :: rest => if t == s then (t, sc.set name v) :: rest else (t, sc) :: go rest

def addFunc (f : FuncInfo) : Program :=
  let ref : FuncRef := { index := p.funcs.size, name := f.name, space := f.space, isJit := f.isJit }
  ({ p with funcs := p.funcs.push f }).define f.space f.name (.func ref)

end Program

/-! ## The state of a lowering

Lowering a kernel builds operations and keeps, for the function that is being lowered, its names, those assigned since the
innermost control structure was entered, and the place visited last. A called function has a frame of its own over the same
graph. That steps leave the function alone, forget none of its names and read a name that it knows as its own is part of their
type.
-/

open IR

inductive ReturnTy where
  | one (t : Ty)
  | several (ts : List Ty)

inductive Visited where
  | nothing
  /-- A tree that was made up during lowering and has no place. -/
  | unplaced
  | at (pos : SourcePos)

structure Header where
  space : Space
  debug : Bool := false
  file : String
  lineOffset : Int
  constants : List (Int × Value) := []
  hints : Int → Named Int := fun _ => []
  functionName : String
  type : FnTy
  isKernel : Bool := false
  noinline : Option Bool := none
deriving Inhabited

structure Frame extends Header where
  scope : Scope := []
  defs : Scope := []
  loops : Nat := 0
  returned : Option ReturnTy := none
deriving Inhabited

def Frame.assign (f : Frame) (name : String) (v : Value) : Frame :=
  { f with scope := f.scope.set name v, defs := f.defs.set name v }

/-- A read of a name: how many calls the function that reads is below the kernel, and whether the name is one of its own. -/
structure Read where
  depth : Nat
  name : String
  own : Bool
deriving DecidableEq

structure LowerState where
  builder : Builder
  frame : Frame
  program : Program
  depth : Nat := 0
  visited : Visited := .nothing
  returns : List (String × Option ReturnTy) := []
  printed : List String := []
  reads : List Read := []
deriving Inhabited

/-- The innermost control structure was entered with some known names: a name stands for what was assigned to it last, or
for what it stood for then, unless it became a constant. -/
structure Frame.Since (known : Scope) (f : Frame) : Prop where
  unique : f.defs.names.Nodup
  stands : ∀ n, f.scope.find? n = (f.defs.find? n).or (known.find? n) ∨ ∃ c, f.scope.find? n = some (.const c)

/-- The same function, with no name forgotten; names assigned anew come behind those assigned before. -/
structure Frame.Extends (f g : Frame) : Prop where
  header : g.toHeader = f.toHeader
  names : ∀ n ∈ f.scope.names, n ∈ g.scope.names
  defs : f.defs.names <+: g.defs.names
  since : ∀ known, f.Since known → g.Since known

theorem Frame.Extends.of_eq {f g : Frame} (header : g.toHeader = f.toHeader) (scope : g.scope = f.scope)
    (defs : g.defs = f.defs) : f.Extends g :=
  ⟨header, fun _ hn => scope ▸ hn, defs ▸ List.prefix_rfl, fun _ h => ⟨defs ▸ h.unique, by rw [scope, defs]; exact h.stands⟩⟩

theorem Frame.extends_assign (f : Frame) (name : String) (v : Value) : f.Extends (f.assign name v) where
  header := rfl
  names _ hn := Scope.mem_names_set.mpr (.inr hn)
  defs := f.defs.names_prefix_set name v
  since known h := by
    refine ⟨Scope.nodup_names_set h.unique name v, fun n => ?_⟩
    simp only [assign, Scope.find?_set]
    split
    · exact .inl rfl
    · exact h.stands n

theorem Frame.extends_bind (f : Frame) (name : String) (v : Value) : f.Extends { f with scope := f.scope.set name v.wrap } where
  header := rfl
  names _ hn := Scope.mem_names_set.mpr (.inr hn)
  defs := List.prefix_rfl
  since known h := by
    refine ⟨h.unique, fun n => ?_⟩
    simp only [Scope.find?_set]
    split
    · exact .inr (by cases v <;> exact ⟨_, rfl⟩)
    · exact h.stands n

/-- The current function goes on: whenever it reads a name that it knows already, it reads its own. -/
structure Onward (s s' : LowerState) : Prop where
  frame : s.frame.Extends s'.frame
  depth : s'.depth = s.depth
  reads : ∃ new, s'.reads = new ++ s.reads ∧
    ∀ r ∈ new, s.depth ≤ r.depth ∧ (r.depth = s.depth → r.name ∈ s.frame.scope.names → r.own = true)
  grown : Grown s.builder s'.builder

theorem Onward.of_frame {s s' : LowerState} (frame : s.frame.Extends s'.frame) (depth : s'.depth = s.depth)
    (reads : s'.reads = s.reads) (grown : Grown s.builder s'.builder) : Onward s s' :=
  ⟨frame, depth, ⟨[], reads, fun _ hr => absurd hr List.not_mem_nil⟩, grown⟩

theorem Onward.of_eq {s s' : LowerState} (frame : s'.frame = s.frame) (depth : s'.depth = s.depth)
    (reads : s'.reads = s.reads) (grown : Grown s.builder s'.builder) : Onward s s' :=
  .of_frame (frame ▸ .of_eq rfl rfl rfl) depth reads grown

instance : Composes Onward where
  refl s := .of_eq rfl rfl rfl (Composes.refl s.builder)
  trans := by
    rintro s t u ⟨hframe, hdepth, ⟨new, hnew, hown⟩, hgrown⟩ ⟨hframe', hdepth', ⟨new', hnew', hown'⟩, hgrown'⟩
    have hextends : s.frame.Extends u.frame :=
      ⟨hframe'.header.trans hframe.header, fun n hn => hframe'.names n (hframe.names n hn), hframe.defs.trans hframe'.defs,
        fun known h => hframe'.since known (hframe.since known h)⟩
    refine ⟨hextends, hdepth'.trans hdepth, ⟨new' ++ new, by rw [hnew', hnew, List.append_assoc], fun r hr => ?_⟩,
      Composes.trans hgrown hgrown'⟩
    rcases List.mem_append.mp hr with hr | hr
    · rw [hdepth] at hown'
      exact ⟨(hown' r hr).1, fun hd hn => (hown' r hr).2 hd (hframe.names _ hn)⟩
    · exact hown r hr

/-- Steps of a lowering; a failed step keeps what was built before. -/
abbrev Lower := Within Onward

instance : MonadReaderOf LowerState Lower := ⟨.read id⟩

namespace Lower

variable {α β : Type}

def ofBuild (x : Build α) : Lower α where
  run := fun ⟨builder, frame, program, depth, visited, returns, printed, reads⟩ =>
    match x.run builder with
    | .ok a builder => .ok a ⟨builder, frame, program, depth, visited, returns, printed, reads⟩
    | .error f builder => .error f ⟨builder, frame, program, depth, visited, returns, printed, reads⟩
  within := by
    intro s a s' h
    simp only at h
    split at h
    · rename_i hx
      cases h
      exact .of_eq rfl rfl rfl (x.within hx)
    · cases h

theorem ofBuild_eq_ok {x : Build α} {s s' : LowerState} {a : α} (h : (ofBuild x).run s = .ok a s') :
    ∃ b, x.run s.builder = .ok a b ∧ s' = { s with builder := b } := by
  simp only [ofBuild] at h
  split at h
  · rename_i b hx
    cases h
    exact ⟨b, hx, rfl⟩
  · cases h

instance : MonadLift Build Lower := ⟨ofBuild⟩

def ofExcept (x : Result α) : Lower α := Within.ofExcept x

def refuse (kind : FaultKind) : Lower α := throw (.implicit kind)

def frame : Lower Frame := do return (← read).frame

def modifyFrame (f : Frame → Frame) (extends_ : ∀ g : Frame, g.Extends (f g)) : Lower Unit where
  run := modify fun s => { s with frame := f s.frame }
  within := by
    rintro s _ _ ⟨⟩
    exact .of_frame (extends_ s.frame) rfl rfl (Composes.refl _)

def modifyProgram (f : Program → Program) : Lower Unit where
  run := modify fun s => { s with program := f s.program }
  within := by
    rintro _ _ _ ⟨⟩
    exact .of_eq rfl rfl rfl (Composes.refl _)

def setValue (name : String) (v : Value) : Lower Unit := modifyFrame (·.assign name v) fun f => f.extends_assign name v

def bindName (name : String) (v : Value) : Lower Unit :=
  modifyFrame (fun f => { f with scope := f.scope.set name v.wrap }) fun f => f.extends_bind name v

def noteRead (name : String) : Lower Unit where
  run := modify fun s => { s with reads := ⟨s.depth, name, s.frame.scope.contains name⟩ :: s.reads }
  within := by
    rintro s _ _ ⟨⟩
    refine ⟨.of_eq rfl rfl rfl, rfl, ⟨[_], rfl, fun r hr => ?_⟩, Composes.refl _⟩
    obtain rfl := List.mem_singleton.mp hr
    exact ⟨Nat.le_refl _, fun _ hn => Scope.contains_iff.mpr hn⟩

/-- Lower a part of a function in which assignments are recorded anew, and give what it assigned. Afterwards names and record
are those from before. -/
def recording (x : Lower α) : Lower (α × Scope) where
  run s :=
    let frame := s.frame
    match x.run { s with frame := { frame with defs := [] } } with
    | .ok a t => .ok (a, t.frame.defs) { t with frame := { t.frame with scope := frame.scope, defs := frame.defs } }
    | .error f t => .error f t
  within := by
    intro s a s' h
    simp only at h
    split at h
    · rename_i a t hx
      cases h
      obtain ⟨hframe, hdepth, hreads, hgrown⟩ := x.within hx
      exact ⟨.of_eq hframe.header rfl rfl, hdepth, hreads, hgrown⟩
    · cases h

def failing (x : Lower α) (fault : Result α → Fault) : Lower β where
  run s :=
    match x.run s with
    | .ok a t => .error (fault (.ok a)) t
    | .error f t => .error (fault (.error f)) t
  within := by
    intro s a s' h
    split at h <;> cases h

end Lower

/-! ### Rules

Rules leave the function that is being lowered alone: they emit operations, look at the program, define names of namespaces and
print. They too carry the proof of it in their type.
-/

/-- Operations were emitted, names of namespaces were defined, and texts were printed; everything else is as before. -/
structure Quiet (s s' : LowerState) : Prop where
  builder : Acts s.builder s'.builder
  frame : s'.frame = s.frame
  depth : s'.depth = s.depth
  visited : s'.visited = s.visited
  returns : s'.returns = s.returns
  funcs : s'.program.funcs = s.program.funcs
  reads : s'.reads = s.reads

instance : Composes Quiet where
  refl _ := ⟨.refl, rfl, rfl, rfl, rfl, rfl, rfl⟩
  trans h h' :=
    ⟨h.builder.trans h'.builder, h'.frame.trans h.frame, h'.depth.trans h.depth, h'.visited.trans h.visited,
      h'.returns.trans h.returns, h'.funcs.trans h.funcs, h'.reads.trans h.reads⟩

theorem Quiet.onward {s s' : LowerState} (h : Quiet s s') : Onward s s' :=
  .of_eq h.frame h.depth h.reads h.builder.grown

/-- Steps that leave the function that is being lowered alone. -/
abbrev Rule := Within Quiet

namespace Rule

variable {α : Type}

def emit (x : Emit α) : Rule α where
  run := (Lower.ofBuild x.toBuild).run
  within := by
    intro s a s' h
    simp only [Lower.ofBuild, Emit.toBuild] at h
    split at h
    · rename_i b hx
      cases h
      exact ⟨x.within hx, rfl, rfl, rfl, rfl, rfl, rfl⟩
    · cases h

theorem emit_run {x : Emit α} {s : LowerState} {a : α} {b : Builder} (h : x.run s.builder = .ok a b) :
    (emit x).run s = .ok a { s with builder := b } := by
  simp only [emit, Lower.ofBuild, Emit.toBuild, h]

instance : MonadLift Emit Rule := ⟨emit⟩

instance : MonadLift Rule Lower := ⟨fun x => ⟨x.run, fun h => (x.within h).onward⟩⟩

def ofExcept (x : Result α) : Rule α := Within.ofExcept x

def refuse (kind : FaultKind) : Rule α := throw (.implicit kind)

def target : Rule Target := .read (·.builder.target)

def program : Rule Program := .read (·.program)

def valueCount : Rule Nat := .read (·.builder.graph.values.size)

def define (space : Space) (name : String) (v : Value) : Rule Unit where
  run := modify fun s => { s with program := s.program.define space name v }
  within := by
    rintro _ _ _ ⟨⟩
    exact ⟨.refl, rfl, rfl, rfl, rfl, rfl, rfl⟩

def print (text : String) : Rule Unit where
  run := modify fun s => { s with printed := text :: s.printed }
  within := by
    rintro _ _ _ ⟨⟩
    exact ⟨.refl, rfl, rfl, rfl, rfl, rfl, rfl⟩

end Rule

end TileKernel.Lowering
