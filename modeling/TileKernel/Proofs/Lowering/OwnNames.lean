import TileKernel.Lowering.Kernel
import TileKernel.Proofs.Steps

/-! # Names of a kernel

A kernel reads a name as its own from the moment at which it knows the name: parameters are known before the body starts, an
assignment makes a name known to everything that follows it in the same block, and no step of a lowering forgets a name that
was known when it began. A name that is assigned in one branch of a conditional only is not known behind it, and is read from
the module there.
-/

namespace TileKernel.Lowering

open IR Source
open Within (bind_eq_ok pure_eq_ok within)

variable {s s' : LowerState} {k : KernelInstance} {program : Program} {pos : SourcePos} {target : Target} {info : FuncInfo}

/-! ## Names that become known -/

theorem known_setValue {name : String} {v : Value} (h : (Lower.setValue name v).run s = .ok () s') :
    name ∈ s'.frame.scope.names := by
  cases h
  exact Scope.mem_names_set.2 (.inl rfl)

theorem known_forM_setValue {ps : Named Value}
    (h : (ps.forM fun (n, v) => Lower.setValue n v).run s = .ok () s') : ∀ p ∈ ps, p.1 ∈ s'.frame.scope.names := by
  induction ps generalizing s with
  | nil => exact fun p hp => absurd hp List.not_mem_nil
  | cons q ps ih =>
    obtain ⟨_, t, hq, hps⟩ := bind_eq_ok.1 h
    intro p hp
    rcases List.mem_cons.1 hp with rfl | hp
    · exact (within _ hps).frame.names _ (known_setValue hq)
    · exact ih hps p hp

namespace Function

theorem length_paramValues {f : Header} {entry : BlockId} {count position number : Nat} {vs : List Value}
    (h : (paramValues f entry count position number).run s = .ok vs s') : vs.length = count := by
  induction count generalizing position number s s' vs with
  | zero =>
    obtain ⟨rfl, -⟩ := pure_eq_ok.1 h
    rfl
  | succ count ih =>
    unfold paramValues at h
    split at h
    · obtain ⟨rest, t, hrest, h⟩ := bind_eq_ok.1 h
      obtain ⟨rfl, -⟩ := pure_eq_ok.1 h
      rw [List.length_cons, ih hrest]
    · obtain ⟨_, t, -, h⟩ := bind_eq_ok.1 h
      split at h
      · obtain ⟨v, t, -, h⟩ := bind_eq_ok.1 h
        obtain ⟨rest, t, hrest, h⟩ := bind_eq_ok.1 h
        obtain ⟨rfl, -⟩ := pure_eq_ok.1 h
        rw [List.length_cons, ih hrest]
      · cases h

theorem known_enter {params : Params} (h : (enter params).run s = .ok () s') : ∀ n ∈ params.names, n ∈ s'.frame.scope.names := by
  unfold enter at h
  obtain ⟨f, t, -, h⟩ := bind_eq_ok.1 h
  obtain ⟨entry, t, -, h⟩ := bind_eq_ok.1 h
  obtain ⟨vs, t, hvs, h⟩ := bind_eq_ok.1 h
  obtain ⟨_, t, hset, h⟩ := bind_eq_ok.1 h
  intro n hn
  have hlength : params.names.length ≤ vs.length := Nat.le_of_eq (length_paramValues hvs).symm
  obtain ⟨p, hp, rfl⟩ : ∃ p ∈ params.names.zip vs, p.1 = n := by
    rw [← List.map_fst_zip hlength] at hn
    simpa using hn
  exact (within _ h).frame.names _ (known_forM_setValue hset p hp)

end Function

section

variable {α : Type} {x : Lower α} {a : α}

theorem placed_eq_ok {loc : Loc} (h : (do let a ← x; Build.setLoc loc; return a : Lower α).run s = .ok a s') :
    ∃ t, x.run s = .ok a t ∧ Onward t s' ∧ s'.builder.graph = t.builder.graph := by
  obtain ⟨b, t, hx, h⟩ := bind_eq_ok.1 h
  obtain ⟨_, t₁, hset, h⟩ := bind_eq_ok.1 h
  obtain ⟨rfl, rfl⟩ := pure_eq_ok.1 h
  refine ⟨t, hx, within _ hset, ?_⟩
  cases hset
  rfl

theorem visiting_eq_ok (h : (Lower.visiting pos x).run s = .ok a s') :
    ∃ t t', x.run t = .ok a t' ∧ Onward s t ∧ Onward t' s' ∧ s'.builder.graph = t'.builder.graph := by
  obtain ⟨_, t₁, hnote, h⟩ := bind_eq_ok.1 h
  obtain ⟨loc, t₂, hloc, h⟩ := bind_eq_ok.1 h
  obtain ⟨_, t₃, hset, h⟩ := bind_eq_ok.1 h
  obtain ⟨t', hx, hback⟩ := placed_eq_ok h
  exact ⟨t₃, t', hx, Composes.trans (within _ hnote) (Composes.trans (within _ hloc) (within _ hset)), hback⟩

theorem visitingUnplaced_eq_ok (h : (Lower.visitingUnplaced x).run s = .ok a s') :
    ∃ t t', x.run t = .ok a t' ∧ Onward s t ∧ s'.builder.graph = t'.builder.graph := by
  obtain ⟨_, t₁, hnote, h⟩ := bind_eq_ok.1 h
  obtain ⟨loc, t₂, hloc, h⟩ := bind_eq_ok.1 h
  obtain ⟨t', hx, -, hgraph⟩ := placed_eq_ok h
  exact ⟨t₂, t', hx, Composes.trans (within _ hnote) (within _ hloc), hgraph⟩

end

namespace Statement

variable {common : Scope → Scope → List String} {fuel : Nat} {x : String}

theorem expr_store {v : Value} (h : ((Visitors.upTo common fuel).expr (.name pos x .store)).run s = .ok v s') : v = .str x := by
  cases fuel with
  | zero => cases h
  | succ fuel =>
    obtain ⟨t, t', hx, -⟩ := visiting_eq_ok h
    exact (pure_eq_ok.1 hx).1.symm

theorem known_assign {pos place : SourcePos} {e : Expr}
    (h : (step (Visitors.upTo common fuel) (.assign pos [.name place x .store] e)).run s = .ok () s')
    (hvalue : ∀ t t' v, ((Visitors.upTo common fuel).expr e).run t = .ok v t' → targetNames v ≠ []) : x ∈ s'.frame.scope.names := by
  obtain ⟨names, t, hnames, h⟩ := bind_eq_ok.1 h
  obtain ⟨name, t₁, hname, hnames⟩ := bind_eq_ok.1 hnames
  obtain rfl := expr_store hname
  obtain ⟨rfl, rfl⟩ := pure_eq_ok.1 hnames
  obtain ⟨v, t₂, hv, h⟩ := bind_eq_ok.1 h
  cases hvs : targetNames v with
  | nil => exact absurd hvs (hvalue _ _ v hv)
  | cons w ws =>
    simp only [hvs] at h
    obtain ⟨_, t₃, hone, h⟩ := bind_eq_ok.1 h
    obtain ⟨-, rfl⟩ := pure_eq_ok.1 h
    obtain ⟨w', t₄, -, hstore⟩ := bind_eq_ok.1 hone
    exact known_setValue hstore

theorem exists_of_block_append {r : Visitors} {before after : List Stmt} (h : (block r (before ++ after)).run s = .ok () s') :
    ∃ t, (block r after).run t = .ok () s' := by
  induction before generalizing s with
  | nil => exact ⟨s, h⟩
  | cons x before ih =>
    obtain ⟨_, t, -, h⟩ := bind_eq_ok.1 h
    exact ih h

/-- One of some statements in a row assigns a name a value that is never an empty list of values. -/
def Assigns (r : Visitors) (ss : List Stmt) (x : String) : Prop :=
  ∃ pos place e, .assign pos [.name place x .store] e ∈ ss ∧ ∀ t t' v, (r.expr e).run t = .ok v t' → targetNames v ≠ []

theorem known_block {ss : List Stmt} (h : (block (Visitors.upTo common fuel) ss).run s = .ok () s')
    (hx : Assigns (Visitors.upTo common fuel) ss x) : x ∈ s'.frame.scope.names := by
  obtain ⟨pos, place, e, hmem, hvalue⟩ := hx
  obtain ⟨before, after, rfl⟩ := List.append_of_mem hmem
  obtain ⟨t, h⟩ := exists_of_block_append h
  obtain ⟨_, t₁, hstep, hafter⟩ := bind_eq_ok.1 h
  obtain ⟨u, u', hassign, -, hu, -⟩ := visiting_eq_ok hstep
  exact (within _ hafter).frame.names _ (hu.frame.names _ (known_assign hassign hvalue))

end Statement

/-! ## Kernels -/

theorem kernelState_eq_ok (h : kernelState program target info k = .ok s) :
    ∃ constants types, k.constantsAt info.paramNames = .ok constants ∧ k.argTypes constants = .ok types ∧ s.depth = 0 ∧
      s.frame.constants = k.knowledge.equalTo1.foldl (fun acc i => Table.put acc i (.int 1)) constants ∧
      s.frame.hints = k.hints ∧ s.frame.functionName = k.functionName info.name ∧ s.frame.type.params = types ∧
      s.builder.graph.funcs = [] := by
  obtain ⟨constants, hconstants, h⟩ := Steps.bind_eq_ok.1 h
  obtain ⟨types, htypes, h⟩ := Steps.bind_eq_ok.1 h
  cases hjit : info.isJit with
  | false => simp [hjit] at h
  | true =>
    simp only [hjit, Bool.not_true, Bool.false_eq_true, if_false] at h
    obtain rfl := Steps.pure_eq_ok.1 h
    exact ⟨constants, types, hconstants, htypes, rfl, rfl, rfl, rfl, rfl, rfl⟩

theorem stages_of_accepted {g : Graph}
    {f : FuncDef} (htree : info.tree = .ok f) (haccepted : (lowerKernel program target info k).result = .ok g) :
    ∃ t s₁ s₂ s₃ b, t.depth = 0 ∧ (Function.enter f.params).run t = .ok () s₁ ∧ (visitors.block f.body).run s₁ = .ok () s₂ ∧
      (Function.leave b).run s₂ = .ok () s₃ ∧ s₃.builder.graph = g := by
  unfold lowerKernel at haccepted
  split at haccepted
  · cases haccepted
  · rename_i s hstart
    rw [htree] at haccepted
    split at haccepted
    · rename_i s' hlower
      obtain rfl := Except.ok.inj haccepted
      obtain ⟨-, -, -, -, hdepth, -⟩ := kernelState_eq_ok hstart
      obtain ⟨f', t₁, hf, hlower⟩ := bind_eq_ok.1 hlower
      obtain ⟨rfl, rfl⟩ := pure_eq_ok.1 hf
      obtain ⟨t₂, t₃, hlower, hunplaced, hgraph⟩ := visitingUnplaced_eq_ok hlower
      obtain ⟨t₄, s₃, hdefine, hplaced, -, hgraph'⟩ := visiting_eq_ok hlower
      obtain ⟨cursor, t₅, hcursor, hdefine⟩ := bind_eq_ok.1 hdefine
      obtain ⟨_, t, hprologue, hdefine⟩ := bind_eq_ok.1 hdefine
      obtain ⟨_, s₁, henter, hdefine⟩ := bind_eq_ok.1 hdefine
      obtain ⟨_, s₂, hblock, hleave⟩ := bind_eq_ok.1 hdefine
      have honward : Onward s t := Composes.trans (Composes.trans hunplaced hplaced)
        (Composes.trans (within _ hcursor) (within _ hprologue))
      exact ⟨t, s₁, s₂, s₃, _, honward.depth.trans hdepth, henter, hblock, hleave, (hgraph.trans hgraph').symm⟩
    · cases haccepted

/-- A kernel that assigns a name in one branch only, and reads it behind the conditional. -/
def halfAssigned : FuncDef :=
  let pos : SourcePos := ⟨1, 0⟩
  .mk "kernel" (.mk [.mk pos "c" none] [] none [] [] none) none []
    [.cond pos (.name pos "c" .load) [.assign pos [.name pos "N" .store] (.literal pos (.int 7))] [],
     .assign pos [.name pos "M" .store] (.name pos "N" .load)]

def halfInfo : FuncInfo :=
  { (default : FuncInfo) with name := "kernel", space := .user "module", tree := .ok halfAssigned }

/-- The module of the kernel has a name of its own that is the one the kernel assigns. -/
def halfProgram : Program := { spaces := [(.user "module", [("N", .int 5)])] }

theorem halfAssigned_accepted : ∃ g, (lowerKernel halfProgram {} halfInfo { signature := [(0, "i1")] }).result = .ok g := by
  have hok : (lowerKernel halfProgram {} halfInfo { signature := [(0, "i1")] }).result.isOk := by decide +kernel
  cases h : (lowerKernel halfProgram {} halfInfo { signature := [(0, "i1")] }).result with
  | ok g => exact ⟨g, rfl⟩
  | error f => simp [h, Except.isOk, Except.toBool] at hok

/-- The names that a kernel reads until it is lowered, the last one first. -/
def readsOf (program : Program) (info : FuncInfo) (k : KernelInstance) : Option (List Read) :=
  match kernelState program {} info k with
  | .error _ => none
  | .ok s =>
    match (Function.lower visitors info.tree).run s with
    | .ok _ t => some t.reads
    | .error _ _ => none

end TileKernel.Lowering
