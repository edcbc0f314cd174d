import TileKernel.Lowering.Function
import TileKernel.Proofs.Lowering.LoopBounds
import TileKernel.Proofs.Steps
import Mathlib.Logic.Function.Basic

/-! # Counted loops

An accepted loop is an operation with a block that takes the counter and the values that the loop carries. The name that the
loop counts with stands for a placeholder while the body is lowered; afterwards the number of the round takes the place of
whatever the name stands for at the end of the body. The numbers of the rounds are those of the loop's range, also when the step
is negative and the loop runs from the other end. The name itself reads as this number only where the body leaves it alone.
-/

namespace TileKernel

namespace IR

def renamedOperand (σ : List (ValueId × ValueId)) (o : Operand) : Operand :=
  σ.foldl (fun o p => Graph.substOperand p.1 p.2 o) o

theorem Graph.substOperands_eq_map (old new : ValueId) (os : List Operand) :
    substOperands old new os = os.map (substOperand old new) := by
  induction os with
  | nil => rfl
  | cons o os ih => rw [substOperands, ih, List.map_cons]

section

variable (σ : List (ValueId × ValueId))

theorem renamedOperands_eq_map (os : List Operand) : renamedOperands σ os = os.map (renamedOperand σ) := by
  induction σ generalizing os with
  | nil => exact (List.map_id os).symm
  | cons p σ ih =>
    rw [renamedOperands, List.foldl_cons, ← renamedOperands, ih, Graph.substOperands_eq_map, List.map_map]
    rfl

@[simp] theorem renamedOperand_value (v : ValueId) : renamedOperand σ (.value v) = .value (renamed σ v) := by
  induction σ generalizing v with
  | nil => rfl
  | cons p σ ih => exact ih _

@[simp] theorem renamedOperand_fixed (v : ValueId) : renamedOperand σ (.fixed v) = .fixed v := by
  induction σ with
  | nil => rfl
  | cons p σ ih => exact ih

@[simp] theorem renamedOperand_list (os : List Operand) : renamedOperand σ (.list os) = .list (renamedOperands σ os) := by
  induction σ generalizing os with
  | nil => rfl
  | cons p σ ih => exact ih _

end

theorem renamed_append (σ τ : List (ValueId × ValueId)) (v : ValueId) : renamed (σ ++ τ) v = renamed τ (renamed σ v) :=
  List.foldl_append

/-- Wherever an operation has `x` as an operand, or among the operands of a list, it has `y` in a later graph. The last operand
of an operation that is told a shape is left out: it is the shape. -/
def Graph.ReadsAs (g g' : Graph) (x y : ValueId) : Prop :=
  ∀ (i : OpId) (o : Op), g.ops[i]? = some o → ∃ o', g'.ops[i]? = some o' ∧
    ∀ j, o.opcode.takesShape = false ∨ j + 1 < o.args.length →
      (o.args[j]? = some (.value x) → o'.args[j]? = some (.value y)) ∧
      ∀ (xs : List Operand) (k : Nat), o.args[j]? = some (.list xs) → xs[k]? = some (.value x) →
        ∃ ys, o'.args[j]? = some (.list ys) ∧ ys[k]? = some (.value y)

theorem Graph.Later.readsAs {σ : List (ValueId × ValueId)} {g g' : Graph} (h : g.Later σ g') (x : ValueId) :
    g.ReadsAs g' x (renamed σ x) := by
  intro i o ho
  obtain ⟨o', ho', hop⟩ := h.ops ho
  refine ⟨o', ho', fun j hj => ?_⟩
  have hargs : o'.args[j]? = o.args[j]?.map (renamedOperand σ) := by
    rcases hj with hshape | hj
    · rw [hop.args hshape, renamedOperands_eq_map, List.getElem?_map]
    · have hlast := congrArg (·[j]?) hop.values
      have hlength := congrArg List.length hop.values
      simp only [renamedOperands_eq_map, List.getElem?_map, List.getElem?_dropLast, List.length_map, List.length_dropLast]
        at hlast hlength
      rw [if_pos (by omega), if_pos (by omega)] at hlast
      exact hlast
  refine ⟨fun hvalue => by rw [hargs, hvalue, Option.map_some, renamedOperand_value], fun xs k hlist hvalue => ?_⟩
  refine ⟨renamedOperands σ xs, by rw [hargs, hlist, Option.map_some, renamedOperand_list], ?_⟩
  rw [renamedOperands_eq_map, List.getElem?_map, hvalue, Option.map_some, renamedOperand_value]

def Graph.Yields (g : Graph) (os : List Operand) : Prop :=
  ∃ (i : OpId) (o : Op), g.ops[i]? = some o ∧ o.opcode = .yield ∧ o.args = [.list os]

theorem Graph.Yields.later {σ : List (ValueId × ValueId)} {g g' : Graph} {os : List Operand} (h : g.Yields os)
    (hlater : g.Later σ g') : g'.Yields (renamedOperands σ os) := by
  obtain ⟨i, o, ho, hopcode, hargs⟩ := h
  obtain ⟨o', ho', hop⟩ := hlater.ops ho
  refine ⟨i, o', ho', hop.opcode.trans hopcode, ?_⟩
  rw [hop.args (by rw [hopcode]; rfl), hargs]
  simp [renamedOperands_eq_map]

end IR

theorem Lowering.Scope.find?_of_mem {s : Scope} {n : String} {v : Value} (hnodup : s.names.Nodup) (h : (n, v) ∈ s) :
    s.find? n = some v := by
  obtain ⟨before, after, rfl⟩ := List.append_of_mem h
  rw [names, List.map_append, List.map_cons, List.nodup_middle, List.nodup_cons] at hnodup
  refine List.lookup_eq_some_iff.2 ⟨before, after, rfl, fun d hd => bne_iff_ne.2 fun heq => hnodup.1 ?_⟩
  exact List.mem_append_left _ (List.mem_map.2 ⟨d, hd, heq.symm⟩)

namespace Lowering.Loop

open IR Source List
open Within (bind_eq_ok pure_eq_ok within)

/-! ## Rounds -/

/-- The counter in the rounds of a loop, from a number on: it grows by the step as long as it is below the upper bound. -/
def countsFrom (upper step : Int) : Nat → Int → List Int
  | 0, _ => []
  | fuel + 1, c => if c < upper then c :: countsFrom upper step fuel (c + step) else []

def counts (lower upper step : Int) : List Int := countsFrom upper step (upper - lower).toNat lower

variable {step : Int} {b b' : Builder} {s s' : LowerState} {known : Scope} {inits : List Operand} {block : BlockId} {α : Type}
  {defs : Scope}

theorem countsFrom_eq {upper : Int} (hstep : 0 < step) (fuel : Nat) (c : Int) (hfuel : upper - c ≤ fuel) :
    countsFrom upper step fuel c =
      (List.range ((upper - c + step - 1) / step).toNat).map fun (i : Nat) => c + step * i := by
  have hnone (c : Int) (hc : upper ≤ c) : ((upper - c + step - 1) / step).toNat = 0 := by
    have hdiv : (upper - c + step - 1) / step < 1 := Int.ediv_lt_of_lt_mul hstep (by omega)
    omega
  induction fuel generalizing c with
  | zero =>
    rw [hnone c (by omega)]
    rfl
  | succ fuel ih =>
    unfold countsFrom
    split
    · rename_i hlt
      rw [ih (c + step) (by omega)]
      have hnext : (upper - c + step - 1) / step = (upper - (c + step) + step - 1) / step + 1 := by
        rw [← Int.add_mul_ediv_right _ 1 (by omega)]
        congr 1
        omega
      have hpos : 0 ≤ (upper - (c + step) + step - 1) / step := Int.ediv_nonneg (by omega) (by omega)
      rw [hnext, Int.toNat_add hpos (by decide), show (1 : Int).toNat = 1 from rfl, range_succ_eq_map, map_cons,
        map_map]
      congr 1
      · simp
      · refine map_congr_left fun i _ => ?_
        simp only [Function.comp_apply, Nat.cast_succ]
        rw [Int.mul_add]
        omega
    · rename_i hge
      rw [hnone c (by omega)]
      rfl

theorem counts_eq {lower upper : Int} (hstep : 0 < step) : counts lower upper step =
    (List.range ((upper - lower + step - 1) / step).toNat).map fun (i : Nat) => lower + step * i :=
  countsFrom_eq hstep _ lower (Int.self_le_toNat _)

theorem items_range_up {a b : Int} (hstep : 0 < step) :
    Builtins.items (.range a b step) = .ok ((counts a b step).map Value.int) := by
  simp [Builtins.items, counts_eq hstep, hstep]

/-- A loop from the end of a range to its start, read from the other end, counts its numbers. -/
theorem items_range_down {a b n : Int} (hn : n < 0) :
    Builtins.items (.range a b n) = .ok ((counts b a (-n)).map fun c => Value.int (a - c + b)) := by
  simp only [Builtins.items, counts_eq (Int.neg_pos_of_neg hn), if_neg (Int.not_lt.2 (Int.le_of_lt hn)), map_map]
  have hlength : a - b - n - 1 = a - b + -n - 1 := by omega
  rw [hlength]
  refine congrArg Except.ok (map_congr_left fun i _ => congrArg Value.int ?_)
  show a + n * i = a - (b + -n * i) + b
  rw [Int.neg_mul]
  omega

/-! ## Loops of a graph -/

/-- What a value is worth, in whole numbers or in words, where the values that are no sums and no differences are given. -/
def worth {R : Type} [Add R] [Sub R] (g : Graph) (given : ValueId → R) : Nat → ValueId → R
  | 0, v => given v
  | depth + 1, v =>
    match g.values[v]? with
    | some (.result i) =>
      match (g.op i).opcode, (g.op i).args with
      | .add, [.fixed a, .fixed b] => worth g given depth a + worth g given depth b
      | .sub, [.fixed a, .fixed b] => worth g given depth a - worth g given depth b
      | _, _ => given v
    | _ => given v

section

variable {R : Type} [Add R] [Sub R] {g : Graph} {v a b : ValueId} (given : ValueId → R) (depth : Nat)

theorem worth_add (h : g.Makes .add [.fixed a, .fixed b] v) :
    worth g given (depth + 1) v = worth g given depth a + worth g given depth b := by
  obtain ⟨i, o, hv, ho, hopcode, hargs, -⟩ := h
  simp [worth, hv, Graph.op, ho, hopcode, hargs]

theorem worth_sub (h : g.Makes .sub [.fixed a, .fixed b] v) :
    worth g given (depth + 1) v = worth g given depth a - worth g given depth b := by
  obtain ⟨i, o, hv, ho, hopcode, hargs, -⟩ := h
  simp [worth, hv, Graph.op, ho, hopcode, hargs]

theorem worth_cast {args : List Operand} (h : g.Makes .intCast args v) : worth g given depth v = given v := by
  obtain ⟨i, o, hv, ho, hopcode, -, -⟩ := h
  cases depth with
  | zero => rfl
  | succ depth => simp [worth, hv, Graph.op, ho, hopcode]

theorem worth_argument {i : Nat} (h : g.values[v]? = some (.argument block i)) : worth g given depth v = given v := by
  cases depth with
  | zero => rfl
  | succ depth => simp [worth, h]

end

/-- A counted loop: its operation, the block of its body and the number of values that it carries, its bounds and its step,
the counter, and the number that takes the place of the name that it counts with. -/
structure CountedLoop where
  op : OpId
  block : BlockId
  carried : Nat
  reversed : Bool
  lower : ValueId
  upper : ValueId
  step : ValueId
  counter : ValueId
  number : ValueId

namespace CountedLoop

variable {l : CountedLoop} {g g' : Graph} {σ : List (ValueId × ValueId)}

/-- The loop is an operation of the graph; its body is a block that takes the counter and the values that it carries. -/
def Open (l : CountedLoop) (inits : List Operand) (g : Graph) : Prop :=
  ∃ o blk, g.ops[l.op]? = some o ∧ o.opcode = .forOp ∧
    o.args = [.fixed l.lower, .fixed l.upper, .fixed l.step, .list inits] ∧ o.results.length = l.carried ∧
    g.blocks[l.block]? = some blk ∧ o.regions.head? = some blk.region ∧
    ∀ j ≤ l.carried, blk.args[j]? = some (l.counter + j, none) ∧ g.values[l.counter + j]? = some (.argument l.block j)

theorem Open.later (h : l.Open inits g) (hlater : g.Later σ g') : l.Open (renamedOperands σ inits) g' := by
  obtain ⟨o, blk, ho, hopcode, hargs, hresults, hblk, hregion, harguments⟩ := h
  obtain ⟨o', ho', hop⟩ := hlater.ops ho
  obtain ⟨blk', hblk', hblock⟩ := hlater.blocks hblk
  refine ⟨o', blk', ho', hop.opcode.trans hopcode, ?_, hop.results ▸ hresults, hblk', ?_, fun j hj => ⟨?_, ?_⟩⟩
  · simp [hop.args (by rw [hopcode]; rfl), hargs, renamedOperands_eq_map]
  · obtain ⟨more, hmore⟩ := hop.regions
    rw [← hmore, head?_append, hregion, hblock.region]
    rfl
  · obtain ⟨rest, hrest⟩ := hblock.args
    rw [← hrest, getElem?_append_left (List.getElem?_eq_some_iff.1 (harguments j hj).1).1]
    exact (harguments j hj).1
  · exact hlater.values (harguments j hj).2

/-- The loop is in the graph. If its step is negative, it runs from the other end: its number is the upper bound without the
counter, and with the lower bound. -/
structure In (l : CountedLoop) (g : Graph) : Prop where
  op : ∃ inits, l.Open inits g
  bounds : ∀ v ∈ [l.lower, l.upper, l.step], ∃ args, g.Makes .intCast args v
  number : if l.reversed then ∃ m, g.Makes .sub [.fixed l.upper, .fixed l.counter] m ∧
    g.Makes .add [.fixed m, .fixed l.lower] l.number else l.number = l.counter

theorem In.later (h : l.In g) (hlater : g.Later σ g') : l.In g' where
  op := by
    obtain ⟨inits, hopen⟩ := h.op
    exact ⟨_, hopen.later hlater⟩
  bounds v hv := by
    obtain ⟨args, hmakes⟩ := h.bounds v hv
    exact ⟨_, hmakes.later hlater rfl⟩
  number := by
    have hnumber := h.number
    split at hnumber
    · rename_i hreversed
      obtain ⟨m, hsub, hadd⟩ := hnumber
      rw [if_pos hreversed]
      refine ⟨m, ?_, ?_⟩
      · simpa [renamedOperands_eq_map] using hsub.later hlater rfl
      · simpa [renamedOperands_eq_map] using hadd.later hlater rfl
    · rename_i hreversed
      rw [if_neg hreversed]
      exact hnumber

theorem Open.argument (h : l.Open inits g) {j : Nat} (hj : j ≤ l.carried) :
    ((g.block l.block).args.map (·.1)).getD j 0 = l.counter + j := by
  obtain ⟨_, blk, -, -, -, -, hblk, -, harguments⟩ := h
  simp [Graph.block, hblk, (harguments j hj).1]

theorem In.counter (h : l.In g) : g.values[l.counter]? = some (.argument l.block 0) := by
  obtain ⟨_, _, _, -, -, -, -, -, -, harguments⟩ := h.op
  exact (harguments 0 (Nat.zero_le _)).2

theorem In.worth_number {R : Type} [Add R] [Sub R] (h : l.In g) (given : ValueId → R) :
    worth g given 2 l.number =
      if l.reversed then given l.upper - given l.counter + given l.lower else given l.counter := by
  have hnumber := h.number
  split at hnumber
  · rename_i hreversed
    obtain ⟨m, hsub, hadd⟩ := hnumber
    obtain ⟨_, hlower⟩ := h.bounds l.lower (by simp)
    rw [if_pos hreversed, worth_add given 1 hadd, worth_sub given 0 hsub, worth_cast given 1 hlower]
    rfl
  · rename_i hreversed
    rw [if_neg hreversed, hnumber, worth_argument given 2 h.counter]

def numbers (l : CountedLoop) (g : Graph) (given : ValueId → Int) : List Int :=
  (counts (given l.lower) (given l.upper) (given l.step)).map fun c => worth g (Function.update given l.counter c) 2 l.number

/-- The same, with sums and differences of words of a width. -/
def words (w : Nat) (l : CountedLoop) (g : Graph) (given : ValueId → Int) : List (BitVec w) :=
  (counts (given l.lower) (given l.upper) (given l.step)).map fun c =>
    worth g (fun v => BitVec.ofInt w (Function.update given l.counter c v)) 2 l.number

def range (l : CountedLoop) (given : ValueId → Int) : Value :=
  if l.reversed then .range (given l.upper) (given l.lower) (-given l.step)
  else .range (given l.lower) (given l.upper) (given l.step)

theorem In.update_bound (h : l.In g) {v : ValueId} (hv : v ∈ [l.lower, l.upper, l.step]) (given : ValueId → Int) (c : Int) :
    Function.update given l.counter c v = given v := by
  refine Function.update_of_ne ?_ c given
  rintro rfl
  obtain ⟨_, i, _, hresult, -⟩ := h.bounds l.counter hv
  cases hresult.symm.trans h.counter

theorem In.items_range (h : l.In g) (given : ValueId → Int) (hstep : 0 < given l.step) :
    Builtins.items (l.range given) = .ok ((l.numbers g given).map Value.int) := by
  unfold range numbers
  simp only [h.worth_number, h.update_bound (show l.lower ∈ _ by simp), h.update_bound (show l.upper ∈ _ by simp),
    Function.update_self, map_map]
  split
  · rw [items_range_down (by omega), Int.neg_neg]
    rfl
  · rw [items_range_up hstep]
    rfl

theorem In.words_eq (h : l.In g) (w : Nat) (given : ValueId → Int) :
    l.words w g given = (l.numbers g given).map (BitVec.ofInt w) := by
  unfold words numbers
  simp only [h.worth_number, map_map]
  refine map_congr_left fun c _ => ?_
  split
  · simp [BitVec.ofInt_add, Int.sub_eq_add_neg, BitVec.ofInt_neg, BitVec.sub_eq_add_neg]
  · simp

end CountedLoop

/-! ## Accepted loops -/

theorem ofExcept_eq_ok {x : Except Fault α} {a : α} (h : (Lower.ofExcept x).run s = .ok a s') : x = .ok a ∧ s' = s := by
  cases x with
  | ok b =>
    obtain ⟨rfl, rfl⟩ := pure_eq_ok.1 h
    exact ⟨rfl, rfl⟩
  | error f => cases h

theorem newBlock_block (g : Graph) (r : RegionId) (types : List (Option IrTy)) :
    (g.newBlock r types).2.blocks[g.blocks.size]? =
      some ⟨types.zipIdx.map fun (t, i) => (g.values.size + i, t), [], r⟩ := by
  simp [Graph.newBlock]

theorem newBlock_value (g : Graph) (r : RegionId) {types : List (Option IrTy)} {j : Nat} (hj : j < types.length) :
    (g.newBlock r types).2.values[g.values.size + j]? = some (.argument g.blocks.size j) := by
  simp [Graph.newBlock, hj]

theorem forLoop_eq_ok {lower upper step : ValueId} {op : OpId}
    (h : (Build.forLoop (.fixed lower) (.fixed upper) (.fixed step) inits).run b = .ok (op, block) b') :
    ∃ counter, ∀ reversed number,
      CountedLoop.Open ⟨op, block, inits.length, reversed, lower, upper, step, counter, number⟩ inits b'.graph := by
  obtain ⟨i, b₁, hemit, hrest⟩ := bind_eq_ok.1 h
  obtain ⟨rfl, rfl⟩ := Build.emitOp_eq_ok hemit
  obtain ⟨c, b₂, hbody, hpair⟩ := bind_eq_ok.1 hrest
  obtain ⟨heq, rfl⟩ := pure_eq_ok.1 hpair
  cases heq
  obtain ⟨r, b₃, hregion, hinside⟩ := bind_eq_ok.1 hbody
  obtain ⟨rfl, rfl⟩ := Build.inGraph_eq_ok hregion
  obtain ⟨d, b₄, hblock, hend⟩ := bind_eq_ok.1 hinside
  obtain ⟨rfl, rfl⟩ := Build.inGraph_eq_ok hblock
  let args : List Operand := [.fixed lower, .fixed upper, .fixed step, .list inits]
  let g := (b.append .forOp args inits.length).2.graph
  let g' := (g.addRegion b.graph.ops.size).2
  let types : List (Option IrTy) := List.replicate (inits.length + 1) none
  have hop : (g'.newBlock g.regions.size types).2.ops[b.graph.ops.size]? = some ⟨.forOp, args,
      (List.range inits.length).map (b.graph.values.size + ·), [g.regions.size], [], b.loc⟩ := by
    simp only [g', Graph.newBlock, Graph.addRegion, Graph.newRegion, Array.getElem?_modify, g, b.append_op]
    rfl
  refine ⟨g'.values.size, fun reversed number => ?_⟩
  have hopen : CountedLoop.Open ⟨b.graph.ops.size, g'.blocks.size, inits.length, reversed, lower, upper, step,
      g'.values.size, number⟩ inits (g'.newBlock g.regions.size types).2 := by
    refine ⟨_, _, hop, rfl, rfl, by simp, newBlock_block g' g.regions.size types, rfl, fun j hj => ⟨?_, ?_⟩⟩
    · simp [types, Nat.lt_succ_of_le hj]
    · exact newBlock_value g' g.regions.size (by simpa [types] using Nat.lt_succ_of_le hj)
  split at hend
  · obtain ⟨_, b₅, hyield, hpure⟩ := bind_eq_ok.1 hend
    obtain ⟨rfl, rfl⟩ := pure_eq_ok.1 hpure
    cases hyield
    exact hopen.later ((Graph.Later.newOp _ .yield [.list []] 0 _).trans (.place _ g'.blocks.size none _))
  · obtain ⟨rfl, rfl⟩ := pure_eq_ok.1 hend
    exact hopen

theorem find?_forM_assign {f : α → Lower Unit} (key : α → String) (value : Builder → α → Value)
    (hf : ∀ x s t, (f x).run s = .ok () t → t = { s with frame := s.frame.assign (key x) (value s.builder x) }) {xs : List α}
    (hnodup : (xs.map key).Nodup) {s t : LowerState} (h : (xs.forM f).run s = .ok () t) :
    t.builder = s.builder ∧ (∀ x ∈ xs, t.frame.scope.find? (key x) = some (value s.builder x)) ∧
      ∀ n ∉ xs.map key, t.frame.scope.find? n = s.frame.scope.find? n := by
  have hput : t.builder = s.builder ∧ t.frame.scope = Table.putAll s.frame.scope (xs.map fun x => (key x, value s.builder x)) := by
    clear hnodup
    induction xs generalizing s with
    | nil =>
      obtain ⟨-, rfl⟩ := pure_eq_ok.1 h
      exact ⟨rfl, rfl⟩
    | cons x xs ih =>
      obtain ⟨_, s₁, hx, hxs⟩ := bind_eq_ok.1 h
      obtain rfl := hf x s s₁ hx
      exact ih hxs
  have hkeys : (xs.map fun x => (key x, value s.builder x)).map (·.1) = xs.map key := map_map
  rw [hput.2]
  refine ⟨hput.1, fun x hx => ?_, fun n hn => Table.lookup_putAll_of_notMem (hkeys ▸ hn) _⟩
  exact Table.lookup_putAll_of_mem (hkeys ▸ hnodup) (mem_map_of_mem (f := fun x => (key x, value s.builder x)) hx) _

theorem eq_of_requireTensor {v : Value} {f : Fault} {x : Tensor} (h : requireTensor v f = .ok x) : v = .tensor x := by
  unfold requireTensor at h
  split at h
  · cases h
    rfl
  · cases h

theorem carriedName_eq_ok {notTensor : String → Fault} {changed : String → Ty → Ty → Fault}
    {d : String × Value} {c : Option (String × Tensor × Tensor)} (h : carriedName known notTensor changed d = .ok c) :
    (known.find? d.1 = none ∧ c = none) ∨
      ∃ old new, known.find? d.1 = some (.tensor old) ∧ new.type = old.type ∧ c = some (d.1, old, new) := by
  unfold carriedName at h
  split at h
  · rename_i hknown
    cases h
    exact .inl ⟨hknown, rfl⟩
  · rename_i initial hknown
    obtain ⟨new, -, hrest⟩ := Steps.bind_eq_ok.1 h
    obtain ⟨old, hold, hcheck⟩ := Steps.bind_eq_ok.1 hrest
    obtain rfl := eq_of_requireTensor hold
    split at hcheck
    · rename_i htype
      cases hcheck
      exact .inr ⟨old, new, hknown, htype, rfl⟩
    · cases hcheck

theorem carried_eq_ok {names : List (String × Tensor × Tensor)} (h : carried known defs = .ok names) :
    names.map (·.1) = defs.names.filter known.contains ∧
      ∀ x ∈ names, known.find? x.1 = some (.tensor x.2.1) ∧ x.2.2.type = x.2.1.type := by
  unfold carried at h
  induction defs generalizing names with
  | nil =>
    cases h
    exact ⟨rfl, fun _ hx => absurd hx not_mem_nil⟩
  | cons d defs ih =>
    rw [filterMapM_cons] at h
    obtain ⟨c, hd, h⟩ := Steps.bind_eq_ok.1 h
    have hnames : Scope.names (d :: defs) = d.1 :: Scope.names defs := rfl
    obtain ⟨hknown, rfl⟩ | ⟨old, new, hknown, htype, rfl⟩ := carriedName_eq_ok hd
    · obtain ⟨hrest, hall⟩ := ih h
      have hcontains : known.contains d.1 = false := congrArg Option.isSome hknown
      rw [hnames, filter_cons_of_neg (by simp [hcontains])]
      exact ⟨hrest, hall⟩
    · obtain ⟨rest, hdefs, h⟩ := Steps.bind_eq_ok.1 h
      cases h
      obtain ⟨hrest, hall⟩ := ih hdefs
      have hcontains : known.contains d.1 := congrArg Option.isSome hknown
      rw [hnames, filter_cons_of_pos hcontains, map_cons, hrest]
      refine ⟨rfl, fun x hx => ?_⟩
      rcases mem_cons.1 hx with rfl | hx
      · exact ⟨hknown, htype⟩
      · exact hall x hx

/-- The values of the assigned names that were known before are handed on, each at its place, and tensors as they are. -/
theorem handedOn_eq_ok {ys : List Tensor} (h : (handedOn known Rule.toTensor defs).run s = .ok ys s') :
    ys.length = (defs.names.filter known.contains).length ∧ ∀ (p : Nat) n x,
      (defs.filter fun d => known.contains d.1)[p]? = some (n, Value.tensor x) → ys[p]? = some x := by
  rw [Scope.names, filter_map, length_map]
  show _ = (defs.filter fun d => known.contains d.1).length ∧ _
  unfold handedOn at h
  generalize defs.filter (fun d => known.contains d.1) = ds at h ⊢
  induction ds generalizing ys s s' with
  | nil =>
    obtain ⟨rfl, -⟩ := pure_eq_ok.1 h
    exact ⟨rfl, by simp⟩
  | cons d ds ih =>
    rw [mapM_cons] at h
    obtain ⟨y, t, hy, hrest⟩ := bind_eq_ok.1 h
    obtain ⟨zs, t', hzs, hpure⟩ := bind_eq_ok.1 hrest
    obtain ⟨rfl, -⟩ := pure_eq_ok.1 hpure
    obtain ⟨hlength, hall⟩ := ih hzs
    refine ⟨congrArg (· + 1) hlength, fun p n x hp => ?_⟩
    cases p with
    | zero =>
      obtain rfl := Option.some.inj hp
      obtain ⟨rfl, -⟩ := pure_eq_ok.1 hy
      rfl
    | succ p => exact hall p n x hp

section

variable {r : Visitors} {s s' t₀ t₁ q : LowerState} {target : Expr} {body orelse : List Stmt} {args : List Expr}
  {values : List Value} {name : String} {known : Scope} {names : List (String × Tensor × Tensor)} {yields : List Tensor}
  {lower upper step u v : ValueId} {ty : Ty} {reversed : Bool} {op : OpId} {l : CountedLoop}

variable {b : BlockId} {number : ValueId}

theorem toStart_eq_ok (h : (Lower.ofBuild (Build.toStart b)).run s = .ok () s') :
    s'.builder.graph = s.builder.graph ∧ s'.frame = s.frame := by
  cases h
  exact ⟨rfl, rfl⟩

theorem blockArg_eq_ok {n : Nat} (h : (Lower.ofBuild (Build.blockArg b n)).run s = .ok v s') :
    v = ((s.builder.graph.block b).args.map (·.1)).getD n 0 ∧ s' = s := by
  cases h
  exact ⟨rfl, rfl⟩

theorem enterBlock_eq_ok {first : Nat} (hnodup : (names.map (·.1)).Nodup) (h : (enterBlock names b first).run s = .ok () s') :
    s'.builder = s.builder ∧
      (∀ p x, names[p]? = some x → s'.frame.scope.find? x.1 =
        some (.tensor ⟨some (((s.builder.graph.block b).args.map (·.1)).getD (first + p) 0), x.2.2.type⟩)) ∧
      ∀ n ∉ names.map (·.1), s'.frame.scope.find? n = s.frame.scope.find? n := by
  have hkeys : (names.zipIdx first).map (fun x => x.1.1) = names.map (·.1) := by
    rw [← congrArg (map Prod.fst) (zipIdx_map_fst first names), map_map]
    rfl
  obtain ⟨hbuilder, hassigned, hother⟩ := find?_forM_assign (fun x => x.1.1)
    (fun c x => .tensor ⟨some (((c.graph.block b).args.map (·.1)).getD x.2 0), x.1.2.2.type⟩)
    (fun _ _ _ hx => by cases hx; rfl) (hkeys ▸ hnodup) h
  refine ⟨hbuilder, fun p x hp => ?_, fun n hn => hother n (hkeys ▸ hn)⟩
  exact hassigned (x, first + p) (mk_add_mem_zipIdx_iff_getElem?.2 hp)

theorem loopNumber_eq_ok (hopen : l.Open inits s.builder.graph)
    (h : (loopNumber l.reversed l.lower l.upper l.block).run s = .ok number s') :
    s'.frame = s.frame ∧ s.builder.graph.Later [] s'.builder.graph ∧
      if l.reversed then ∃ m, s'.builder.graph.Makes .sub [.fixed l.upper, .fixed l.counter] m ∧
        s'.builder.graph.Makes .add [.fixed m, .fixed l.lower] number else number = l.counter := by
  obtain ⟨_, s₁, hstart, hrest⟩ := bind_eq_ok.1 h
  obtain ⟨hgraph, hframe⟩ := toStart_eq_ok hstart
  obtain ⟨c, s₂, harg, hlast⟩ := bind_eq_ok.1 hrest
  obtain ⟨rfl, rfl⟩ := blockArg_eq_ok harg
  rw [hgraph, hopen.argument (Nat.zero_le _)] at hlast
  split at hlast
  · rename_i hreversed
    obtain ⟨m, s₃, hsub, hadd⟩ := bind_eq_ok.1 hlast
    replace hsub : (Rule.emit (Emit.op .sub [.fixed l.upper, .fixed (l.counter + 0)])).run s₂ = .ok m s₃ := hsub
    replace hadd : (Rule.emit (Emit.op .add [.fixed m, .fixed l.lower])).run s₃ = .ok number s' := hadd
    have hfirst := within _ hsub
    have hsecond := within _ hadd
    refine ⟨hsecond.frame.trans (hfirst.frame.trans hframe), hgraph ▸ hfirst.later.trans hsecond.later, ?_⟩
    rw [if_pos hreversed]
    exact ⟨m, (Rule.op_makes hsub).later hsecond.later rfl, Rule.op_makes hadd⟩
  · rename_i hreversed
    obtain ⟨rfl, rfl⟩ := pure_eq_ok.1 hlast
    rw [if_neg hreversed]
    exact ⟨hframe, hgraph ▸ .refl _, rfl⟩

theorem bindCounter_eq_ok (h : (bindCounter name number ty).run s = .ok () s') :
    ∃ v ty', s.frame.scope.find? name = some (.tensor ⟨some v, ty'⟩) ∧
      s.builder.graph.Later [(v, number)] s'.builder.graph := by
  obtain ⟨f, s₁, hframe, hrest⟩ := bind_eq_ok.1 h
  cases hframe
  split at hrest
  · rename_i v ty' hfind
    obtain ⟨_, s₂, hreplace, hset⟩ := bind_eq_ok.1 hrest
    cases hreplace
    cases hset
    exact ⟨v, ty', hfind, .replaceUses _ v number⟩
  · obtain ⟨_, _, hfail, -⟩ := bind_eq_ok.1 hrest
    cases hfail

/-- The body of a loop inside of it, from `t₀` to `t₁`, and what follows: the names that the loop carries are its arguments at
the start, their values are handed on, and in the end the number takes the place of the value `v`. -/
structure Lowered (r : Visitors) (body : List Stmt) (name : String) (known : Scope) (names : List (String × Tensor × Tensor))
    (yields : List Tensor) (l : CountedLoop) (t₀ t₁ q : LowerState) (v : ValueId) : Prop where
  body : (inLoop r body).run t₀ = .ok () t₁
  loop : l.In q.builder.graph
  carries : l.carried = names.length
  opened : l.Open (names.map (·.2.1.operand)) t₀.builder.graph
  unique : (names.map (·.1)).Nodup
  initial : ∀ x ∈ names, known.find? x.1 = some (.tensor x.2.1) ∧ x.2.2.type = x.2.1.type
  entered : ∀ p x, names[p]? = some x →
    t₀.frame.scope.find? x.1 = some (.tensor ⟨some (l.counter + (p + 1)), x.2.2.type⟩)
  others : ∀ n x, known.find? n = some x → n ∉ names.map (·.1) →
    t₀.frame.scope.find? n = some x ∨ ∃ c, t₀.frame.scope.find? n = some (.const c)
  assigned : names.map (·.1) <+: t₁.frame.defs.names.filter known.contains
  since : t₁.frame.Since known
  stops : ∃ ty, t₁.frame.scope.find? name = some (.tensor ⟨some v, ty⟩)
  length : yields.length = (t₁.frame.defs.names.filter known.contains).length
  handed : ∀ (p : Nat) n x,
    (t₁.frame.defs.filter fun d => known.contains d.1)[p]? = some (n, Value.tensor x) → yields[p]? = some x
  yielded : yields ≠ [] → q.builder.graph.Yields (renamedOperands [(v, l.number)] (yields.map (·.operand)))
  replaced : t₁.builder.graph.Later [(v, l.number)] q.builder.graph

theorem stages_of_countedBody (h : (countedBody r known names block body).run s = .ok yields s') :
    ∃ s₁ t₀ t₁ t₂, (Lower.ofBuild (Build.toStart block)).run s = .ok () s₁ ∧ (enterBlock names block 1).run s₁ = .ok () t₀ ∧
      (inLoop r body).run t₀ = .ok () t₁ ∧ (handedOn known Rule.toTensor t₁.frame.defs).run t₁ = .ok yields t₂ ∧
      s'.frame = t₂.frame ∧ t₂.builder.graph.Later [] s'.builder.graph ∧
      (yields ≠ [] → s'.builder.graph.Yields (yields.map (·.operand))) := by
  obtain ⟨_, s₁, hstart, hrest⟩ := bind_eq_ok.1 h
  obtain ⟨_, t₀, henter, hrest⟩ := bind_eq_ok.1 hrest
  obtain ⟨_, t₁, hbody, hrest⟩ := bind_eq_ok.1 hrest
  obtain ⟨ys, t₂, hyields, hrest⟩ := bind_eq_ok.1 hrest
  obtain ⟨f, _, hframe, hhanded⟩ := bind_eq_ok.1 hyields
  cases hframe
  split at hrest
  · obtain ⟨_, t₃, hemit, hpure⟩ := bind_eq_ok.1 hrest
    obtain ⟨rfl, rfl⟩ := pure_eq_ok.1 hpure
    cases hemit
    refine ⟨s₁, t₀, t₁, t₂, hstart, henter, hbody, hhanded, rfl, t₂.builder.append_later .yield _ 0, fun _ => ?_⟩
    exact ⟨_, _, t₂.builder.append_op .yield _ 0, rfl, rfl⟩
  · rename_i hempty
    obtain ⟨rfl, rfl⟩ := pure_eq_ok.1 hrest
    refine ⟨s₁, t₀, t₁, t₂, hstart, henter, hbody, hhanded, rfl, .refl _, fun hne => ?_⟩
    simp [hne] at hempty

theorem stages_of_countedRegion
    (h : (countedRegion r name lower upper step ty reversed body known).run s = .ok (op, names, yields) s') :
    ∃ s₁ s₂ s₃ s₄ s₅ block number, (rehearse r body).run s = .ok () s₁ ∧ carried known s₁.frame.defs = .ok names ∧
      s₂.frame = s₁.frame ∧ Onward s₁ s₂ ∧
      (Lower.ofBuild (Build.forLoop (.fixed lower) (.fixed upper) (.fixed step) (names.map (·.2.1.operand)))).run s₂ =
        .ok (op, block) s₃ ∧
      (countedBody r known names block body).run s₃ = .ok yields s₄ ∧
      (loopNumber reversed lower upper block).run s₄ = .ok number s₅ ∧ (bindCounter name number ty).run s₅ = .ok () s' := by
  obtain ⟨here, s₀, hhere, hrest⟩ := bind_eq_ok.1 h
  cases hhere
  obtain ⟨_, s₁, hrehearse, hrest⟩ := bind_eq_ok.1 hrest
  obtain ⟨f, _, hframe, hrest⟩ := bind_eq_ok.1 hrest
  cases hframe
  obtain ⟨names', t, hcarried, hrest⟩ := bind_eq_ok.1 hrest
  obtain ⟨_, s₂, hreturn, hrest⟩ := bind_eq_ok.1 hrest
  obtain ⟨⟨op', block⟩, s₃, hloop, hrest⟩ := bind_eq_ok.1 hrest
  obtain ⟨yields', s₄, hbody, hrest⟩ := bind_eq_ok.1 hrest
  obtain ⟨_, _, hread, hrest⟩ := bind_eq_ok.1 hrest
  cases hread
  dsimp only at hrest
  split at hrest
  · cases hrest
  · obtain ⟨number, s₅, hnumber, hrest⟩ := bind_eq_ok.1 hrest
    obtain ⟨_, s₆, hbind, hpure⟩ := bind_eq_ok.1 hrest
    obtain ⟨heq, rfl⟩ := pure_eq_ok.1 hpure
    cases heq
    obtain ⟨hknown, rfl⟩ := ofExcept_eq_ok hcarried
    have hsame : s₂.frame = t.frame := by
      cases hreturn
      rfl
    exact ⟨t, s₂, s₃, s₄, s₅, block, number, hrehearse, hknown, hsame, within _ hreturn, hloop, hbody, hnumber, hbind⟩

theorem Lowered.congr {q' : LowerState} (h : Lowered r body name known names yields l t₀ t₁ q v)
    (hgraph : q'.builder.graph = q.builder.graph) : Lowered r body name known names yields l t₀ t₁ q' v where
  __ := h
  loop := hgraph ▸ h.loop
  yielded := hgraph ▸ h.yielded
  replaced := hgraph ▸ h.replaced

theorem countedRegion_eq_ok (hdefs : s.frame.defs = [])
    (hbounds : ∀ v ∈ [lower, upper, step], ∃ args, s.builder.graph.Makes .intCast args v)
    (h : (countedRegion r name lower upper step ty reversed body s.frame.scope).run s = .ok (op, names, yields) s') :
    ∃ block counter number t₀ t₁ v, Lowered r body name s.frame.scope names yields
      ⟨op, block, names.length, reversed, lower, upper, step, counter, number⟩ t₀ t₁ s' v := by
  obtain ⟨s₁, s₂, s₃, s₄, s₅, block, number, hrehearse, hcarried, hframe₂, honward₂, hloop, hbody, hnumber, hbind⟩ :=
    stages_of_countedRegion h
  obtain ⟨t, t₀, t₁, t₂, hstart, henter, hround, hhanded, hframe₄, hlater₄, hyield⟩ := stages_of_countedBody hbody
  obtain ⟨b, hbuilt, rfl⟩ := Lower.ofBuild_eq_ok hloop
  obtain ⟨counter, hopened⟩ := forLoop_eq_ok hbuilt
  obtain ⟨hgraph, hframe⟩ := toStart_eq_ok hstart
  -- the names known before the loop, and what was assigned since
  have hsince : s.frame.Since s.frame.scope := ⟨by rw [hdefs]; exact nodup_nil, fun n => .inl (by rw [hdefs]; rfl)⟩
  have hrehearsed := within _ hrehearse
  obtain ⟨hnames, hinitial⟩ := carried_eq_ok hcarried
  have hunique : (names.map (·.1)).Nodup := hnames ▸ (hrehearsed.frame.since _ hsince).unique.filter _
  obtain ⟨hbuilder, hentered, hothers⟩ := enterBlock_eq_ok hunique henter
  have honward : Onward s₁ t₁ := Composes.trans (Composes.trans honward₂ (within _ hloop))
    (Composes.trans (within _ hstart) (Composes.trans (within _ henter) (within _ hround)))
  -- the loop in the graphs that follow
  let l : CountedLoop := ⟨op, block, names.length, reversed, lower, upper, step, counter, number⟩
  have hopen : l.Open (names.map (·.2.1.operand)) t.builder.graph := by
    have hstarted := hopened reversed number
    rw [length_map] at hstarted
    exact hgraph ▸ hstarted
  have hopen₀ : l.Open (names.map (·.2.1.operand)) t₀.builder.graph := hbuilder ▸ hopen
  obtain ⟨new, -, hlater₁⟩ := (within _ hround).grown
  have hquiet := within _ hhanded
  obtain ⟨hframe₅, hlater₅, hnumber⟩ :=
    loopNumber_eq_ok (((hopen₀.later hlater₁).later hquiet.later).later hlater₄) hnumber
  obtain ⟨v, ty', hstop, hreplaced⟩ := bindCounter_eq_ok hbind
  have hframe₁ : s₅.frame = t₁.frame := hframe₅.trans (hframe₄.trans hquiet.frame)
  have hlater₆ := hlater₅.trans hreplaced
  have hin : l.In s₅.builder.graph := by
    refine ⟨⟨_, (((hopen₀.later hlater₁).later hquiet.later).later hlater₄).later hlater₅⟩, fun w hw => ?_, hnumber⟩
    obtain ⟨_, -, hlater⟩ := (Composes.trans hrehearsed honward).grown
    obtain ⟨_, hmakes⟩ := hbounds w hw
    exact ⟨_, hmakes.later (hlater.trans (hquiet.later.trans (hlater₄.trans hlater₅))) rfl⟩
  refine ⟨block, counter, number, t₀, t₁, v, ?_⟩
  exact {
    body := hround
    loop := hin.later hreplaced
    carries := rfl
    opened := hopen₀
    unique := hunique
    initial := hinitial
    entered := by
      intro p x hp
      obtain ⟨hlt, -⟩ := List.getElem?_eq_some_iff.1 hp
      have hle : 1 + p ≤ l.carried := Nat.add_comm p 1 ▸ hlt
      rw [hentered p x hp, hopen.argument hle, Nat.add_comm 1 p]
    others := by
      intro n x hx hn
      have hnot : n ∉ s₁.frame.defs.names := fun hmem =>
        hn (hnames ▸ mem_filter.2 ⟨hmem, congrArg Option.isSome hx⟩)
      have hnone : s₁.frame.defs.find? n = none :=
        Option.not_isSome_iff_eq_none.1 fun hsome => hnot (Scope.contains_iff.1 hsome)
      have hstands := (hrehearsed.frame.since _ hsince).stands n
      rw [hnone, hx] at hstands
      rw [hothers n hn, hframe, hframe₂]
      exact hstands
    assigned := hnames ▸ (honward.frame.defs.filter _)
    since := honward.frame.since _ (hrehearsed.frame.since _ hsince)
    stops := ⟨ty', hframe₁ ▸ hstop⟩
    length := (handedOn_eq_ok hhanded).1
    handed := (handedOn_eq_ok hhanded).2
    yielded := fun hne => (hyield hne).later hlater₆
    replaced := hquiet.later.trans (hlater₄.trans hlater₆) }

/-- What is kept of a part in which assignments are recorded anew: what it built. -/
theorem inSubRegion_eq_ok {x : Scope → Lower α} {a : α} (h : (Lower.inSubRegion x).run s = .ok a s') :
    ∃ q, (x s.frame.scope).run { s with frame := { s.frame with defs := [] } } = .ok a q ∧
      s'.frame.scope = s.frame.scope ∧ s'.builder.graph = q.builder.graph := by
  obtain ⟨c, _, hcursor, hrest⟩ := bind_eq_ok.1 h
  cases hcursor
  obtain ⟨f, _, hframe, hrest⟩ := bind_eq_ok.1 hrest
  cases hframe
  obtain ⟨⟨a', d⟩, s₁, hrecording, hrest⟩ := bind_eq_ok.1 hrest
  obtain ⟨_, s₂, hrestore, hpure⟩ := bind_eq_ok.1 hrest
  obtain ⟨rfl, rfl⟩ := pure_eq_ok.1 hpure
  simp only [Lower.recording] at hrecording
  split at hrecording
  · rename_i q hx
    cases hrecording
    cases hrestore
    exact ⟨q, hx, rfl, rfl⟩
  · cases hrecording

theorem stages_of_counted (h : (counted r target body orelse args values).run s = .ok () s') :
    ∃ lo hi st reversed lower upper step ty u s₁ s₂ s₃ s₄ q pos name ctx op names yields,
      (bounds r args values).run s = .ok (lo, hi, st) s₁ ∧ negativeStep st = .ok reversed ∧
      (castDirected reversed lo hi st).run s₁ = .ok (lower, upper, step, ty) s₂ ∧
      (Rule.emit (Emit.op .undef [.ofTy ty])).run s₂ = .ok u s₃ ∧ target = .name pos name ctx ∧
      (countedRegion r name lower upper step ty reversed.isSome body (s₃.frame.assign name (.tensor ⟨some u, ty⟩)).scope).run
        { s₃ with frame := { s₃.frame.assign name (.tensor ⟨some u, ty⟩) with defs := [] } } = .ok (op, names, yields) q ∧
      s₄.frame.scope = (s₃.frame.assign name (.tensor ⟨some u, ty⟩)).scope ∧ s₄.builder.graph = q.builder.graph ∧
      (Branch.define ((names.map (·.1)).zip yields) (q.builder.graph.op op).results).run s₄ = .ok () s' := by
  obtain ⟨⟨lo, hi, st⟩, s₁, hbounds, hrest⟩ := bind_eq_ok.1 h
  obtain ⟨reversed, t, hnegative, hrest₁⟩ := bind_eq_ok.1 hrest
  obtain ⟨hstep, rfl⟩ := ofExcept_eq_ok hnegative
  obtain ⟨⟨lower, upper, step, ty⟩, s₂, hcast, hrest₂⟩ := bind_eq_ok.1 hrest₁
  obtain ⟨u, s₃, hundef, hrest₃⟩ := bind_eq_ok.1 hrest₂
  obtain ⟨name, t', htarget, hrest₄⟩ := bind_eq_ok.1 hrest₃
  unfold targetName at htarget
  split at htarget
  · rename_i pos id ctx
    obtain ⟨rfl, rfl⟩ := pure_eq_ok.1 htarget
    obtain ⟨_, t'', hset, hrest₅⟩ := bind_eq_ok.1 hrest₄
    cases hset
    obtain ⟨⟨op, names, yields⟩, s₄, hregion, hrest₆⟩ := bind_eq_ok.1 hrest₅
    obtain ⟨q, hq, hscope, hgraph⟩ := inSubRegion_eq_ok hregion
    obtain ⟨results, t₄, hresults, hrest₇⟩ := bind_eq_ok.1 hrest₆
    cases hresults
    obtain ⟨_, s₅, hdefine, hend⟩ := bind_eq_ok.1 hrest₇
    split at hend
    · cases hend
    · obtain ⟨-, rfl⟩ := pure_eq_ok.1 hend
      exact ⟨lo, hi, st, reversed, lower, upper, step, ty, u, _, s₂, s₃, s₄, q, pos, id, ctx, op, names, yields, hbounds,
        hstep, hcast, hundef, rfl, hq, hscope, hgraph, hgraph ▸ hdefine⟩
  · cases htarget

theorem map_fst_zip_isPrefix {α β : Type} (xs : List α) (ys : List β) : (xs.zip ys).map (·.1) <+: xs := by
  induction xs generalizing ys with
  | nil => exact nil_prefix
  | cons x xs ih =>
    cases ys with
    | nil => exact nil_prefix
    | cons y ys => exact cons_prefix_cons.2 ⟨rfl, ih ys⟩

theorem define_eq_ok {keys : List String} {results : List ValueId} (hnodup : keys.Nodup)
    (h : (Branch.define (keys.zip yields) results).run s = .ok () s') :
    s'.builder = s.builder ∧
      (∀ (p : Nat) (n : String) (y : Tensor) (w : ValueId), keys[p]? = some n → yields[p]? = some y → results[p]? = some w →
        s'.frame.scope.find? n = some (.tensor ⟨some w, y.type⟩)) ∧
      ∀ n ∉ keys, s'.frame.scope.find? n = s.frame.scope.find? n := by
  have hsub : (((keys.zip yields).zip results).map (·.1.1)).Sublist keys := by
    have hfirst := ((map_fst_zip_isPrefix (keys.zip yields) results).map (·.1)).sublist
    rw [map_map] at hfirst
    exact hfirst.trans (map_fst_zip_isPrefix keys yields).sublist
  obtain ⟨hbuilder, hassigned, hother⟩ := find?_forM_assign (fun x => x.1.1) (fun _ x => .tensor ⟨some x.2, x.1.2.type⟩)
    (fun _ _ _ hx => by cases hx; rfl) (hnodup.sublist hsub) h
  refine ⟨hbuilder, fun p n y w hn hy hw => ?_, fun n hn => hother n fun hmem => hn (hsub.subset hmem)⟩
  refine hassigned ((n, y), w) (mem_of_getElem? (i := p) ?_)
  simp [getElem?_zip_eq_some, hn, hy, hw]

theorem makes_of_castBounds {lo hi st : Value} (h : (castBounds lo hi st).run s = .ok (lower, upper, step, ty) s') :
    ∀ v ∈ [lower, upper, step], ∃ args, s'.builder.graph.Makes .intCast args v := by
  obtain ⟨a, b, d, ha, hb, hd⟩ := isInteger_of_castBounds h
  obtain ⟨_, _, _, _, _, hrun, -, -, ⟨_, -, hl⟩, ⟨_, -, hu⟩, ⟨_, -, hk⟩⟩ := castBounds_run ha hb hd s
  cases h.symm.trans hrun
  simp only [mem_cons, not_mem_nil, or_false]
  rintro v (rfl | rfl | rfl)
  · exact ⟨_, hl⟩
  · exact ⟨_, hu⟩
  · exact ⟨_, hk⟩

def CountedLoop.Over (l : CountedLoop) (r : Visitors) (args : List Expr) (values : List Value) (s : LowerState) : Prop :=
  ∃ lo hi st reversed ty s₁ s₂, (bounds r args values).run s = .ok (lo, hi, st) s₁ ∧ negativeStep st = .ok reversed ∧
    l.reversed = reversed.isSome ∧ (castDirected reversed lo hi st).run s₁ = .ok (l.lower, l.upper, l.step, ty) s₂

/-- An accepted loop: the name that it counts with stood for an undefined value `u` when it was entered, and the names that it
carries stand for its results afterwards. -/
structure Accepted (r : Visitors) (body : List Stmt) (name : String) (known : Scope) (names : List (String × Tensor × Tensor))
    (yields : List Tensor) (l : CountedLoop) (t₀ t₁ s' : LowerState) (u v : ValueId) : Prop where
  entered : ∃ ty, known.find? name = some (.tensor ⟨some u, ty⟩)
  undefined : ∃ args, s'.builder.graph.Makes .undef args u
  lowered : Lowered r body name known names yields l t₀ t₁ s' v
  results : ∀ (p : Nat) (n : String) (y : Tensor) (w : ValueId), (names.map (·.1))[p]? = some n → yields[p]? = some y →
    (s'.builder.graph.op l.op).results[p]? = some w → s'.frame.scope.find? n = some (.tensor ⟨some w, y.type⟩)
  others : ∀ n ∉ names.map (·.1), s'.frame.scope.find? n = known.find? n

theorem accepted_of_counted (h : (counted r target body orelse args values).run s = .ok () s') :
    ∃ pos name ctx known names yields, ∃ l : CountedLoop, ∃ t₀ t₁ u v, target = .name pos name ctx ∧ l.Over r args values s ∧
      Accepted r body name known names yields l t₀ t₁ s' u v := by
  obtain ⟨lo, hi, st, reversed, lower, upper, step, ty, u, s₁, s₂, s₃, s₄, q, pos, name, ctx, op, names, yields, hbounds, hstep,
    hcast, hundef, htarget, hregion, hscope, hgraph, hdefine⟩ := stages_of_counted h
  have hmakes : ∀ v ∈ [lower, upper, step], ∃ args, s₃.builder.graph.Makes .intCast args v := by
    intro v hv
    have hmade : ∃ args, s₂.builder.graph.Makes .intCast args v := by
      cases reversed with
      | none => exact makes_of_castBounds hcast v hv
      | some k => exact makes_of_castBounds hcast v hv
    obtain ⟨_, hmade⟩ := hmade
    exact ⟨_, hmade.later (within _ hundef).later rfl⟩
  let q₀ : LowerState := { s₃ with frame := { s₃.frame.assign name (.tensor ⟨some u, ty⟩) with defs := [] } }
  obtain ⟨block, counter, number, t₀, t₁, v, hlowered⟩ := countedRegion_eq_ok (s := q₀) rfl hmakes hregion
  obtain ⟨hbuilder, hresults, hothers⟩ := define_eq_ok hlowered.unique hdefine
  have hgraph' : s'.builder.graph = q.builder.graph := hbuilder ▸ hgraph
  refine ⟨pos, name, ctx, q₀.frame.scope, names, yields,
    ⟨op, block, names.length, reversed.isSome, lower, upper, step, counter, number⟩, t₀, t₁, u, v, htarget,
    ⟨lo, hi, st, reversed, ty, s₁, s₂, hbounds, hstep, rfl, hcast⟩, ?_⟩
  exact {
    entered := ⟨ty, (Scope.find?_set _ _ _ _).trans (if_pos rfl)⟩
    undefined := by
      obtain ⟨_, -, hlater⟩ := (within _ hregion).grown
      exact ⟨_, hgraph' ▸ (Rule.op_makes hundef).later hlater rfl⟩
    lowered := hlowered.congr hgraph'
    results := fun p n y w hn hy hw => hresults p n y w hn hy (hgraph' ▸ hw)
    others := fun n hn => (hothers n hn).trans (congrArg (Scope.find? · n) hscope) }

/-- A function of one integer `n`. -/
def countingState : LowerState :=
  { (default : LowerState) with
    builder := { graph := ((({} : Graph).newRegion none).2.newBlock 0 [some (.known .int32)]).2, cursor := some ⟨0, none⟩ }
    frame := { (default : Frame) with scope := [("n", .tensor ⟨some 0, .int32⟩)] } }

/-- What a loop over `i` leaves behind. -/
def afterLoop (body : List Stmt) (values : List Value) : Option LowerState :=
  match (counted visitors (.name ⟨1, 0⟩ "i" .store) body [] [] values).run countingState with
  | .ok _ s => some s
  | .error _ _ => none

theorem accepted_of_isSome {body : List Stmt} {values : List Value} (h : (afterLoop body values).isSome) :
    ∃ s', (counted visitors (.name ⟨1, 0⟩ "i" .store) body [] [] values).run countingState = .ok () s' := by
  unfold afterLoop at h
  split at h
  · rename_i s' hrun
    exact ⟨s', hrun⟩
  · cases h

theorem isSome_afterLoop : (afterLoop [.pass ⟨2, 4⟩] [.const (.int 5), .const (.int 0), .const (.int (-2))]).isSome ∧
    (afterLoop [.pass ⟨2, 4⟩] [.const (.int 0), .const (.int 2)]).isSome := by
  decide +kernel

theorem negativeStep_int {n : Int} (hn : n < 0) : negativeStep (.const (.int n)) = .ok (some (.const (.int (-n)))) := by
  have hcompare : compare n 0 = .lt := compare_lt_iff_lt.2 hn
  have hless : Constant.compareValues .lt (.int n) (.int 0) = .ok true := by
    show Except.ok ((some (compare n 0)).any (Constant.holds .lt)) = .ok true
    rw [hcompare]
    rfl
  simp only [negativeStep, hless]
  rfl

/-- A loop that carries the name that it counts with: the name stands for an argument `x` of the body at the start of a round.
It is the undefined value `u` in the first round and the number of the round before in any other. Behind the loop the name
stands for a result, which is the number of the last round. -/
def CarriesName (name : String) (l : CountedLoop) (inits : List Operand) (u x : ValueId) (s' : LowerState) : Prop :=
  ∃ p < l.carried, x = l.counter + (p + 1) ∧ inits[p]? = some (.value u) ∧
    (∃ ys, s'.builder.graph.Yields ys ∧ ys[p]? = some (.value l.number)) ∧
    ∃ w ty, (s'.builder.graph.op l.op).results[p]? = some w ∧ s'.frame.scope.find? name = some (.tensor ⟨some w, ty⟩)

theorem Lowered.handed_find {p : Nat} {x : String × Tensor × Tensor} {y : Tensor}
    (h : Lowered r body name known names yields l t₀ t₁ q v) (hp : names[p]? = some x)
    (hy : t₁.frame.scope.find? x.1 = some (.tensor y)) : yields[p]? = some y := by
  have hfilter : t₁.frame.defs.names.filter known.contains = (t₁.frame.defs.filter fun d => known.contains d.1).map (·.1) :=
    filter_map
  obtain ⟨more, hmore⟩ := hfilter ▸ h.assigned
  have hname : ((t₁.frame.defs.filter fun d => known.contains d.1).map (·.1))[p]? = some x.1 := by
    rw [← hmore, getElem?_append_left (by simpa using (List.getElem?_eq_some_iff.1 hp).1), getElem?_map, hp, Option.map_some]
  obtain ⟨⟨n, w⟩, hw, rfl⟩ := Option.map_eq_some_iff.1 (getElem?_map ▸ hname)
  have hfind : t₁.frame.defs.find? _ = some w :=
    Scope.find?_of_mem h.since.unique (mem_of_mem_filter (mem_of_getElem? hw))
  rcases h.since.stands _ with hstands | ⟨c, hconst⟩
  · rw [hfind] at hstands
    cases hy.symm.trans hstands
    exact h.handed p _ _ hw
  · cases hy.symm.trans hconst

theorem Lowered.exists_result (h : Lowered r body name known names yields l t₀ t₁ q v) {p : Nat} (hp : p < l.carried) :
    ∃ w, (q.builder.graph.op l.op).results[p]? = some w := by
  obtain ⟨_, o, _, ho, -, -, hresults, -⟩ := h.loop.op
  have hop : q.builder.graph.op l.op = o := by simp [Graph.op, ho]
  exact ⟨_, getElem?_eq_getElem (by rwa [hop, hresults])⟩

def firstReads (opcode : Opcode) (s : LowerState) : List (Option ValueSource) :=
  (s.builder.graph.ops.toList.filter (·.opcode == opcode)).map fun o =>
    match o.args with
    | .value v :: _ => s.builder.graph.values[v]?
    | .list (.value v :: _) :: _ => s.builder.graph.values[v]?
    | _ => none

def madeBy (name : String) (s : LowerState) : Option Opcode :=
  match s.frame.scope.find? name with
  | some (.tensor ⟨some v, _⟩) =>
    match s.builder.graph.values[v]? with
    | some (.result i) => some (s.builder.graph.op i).opcode
    | _ => none
  | _ => none

/-- A body that reads the name of the loop in a sum, and assigns `n` to it. -/
def overwriting : List Stmt :=
  [.assign ⟨2, 4⟩ [.name ⟨2, 4⟩ "j" .store] (.binary ⟨2, 8⟩ (.name ⟨2, 8⟩ "i" .load) .add (.name ⟨2, 12⟩ "n" .load)),
   .assign ⟨3, 4⟩ [.name ⟨3, 4⟩ "i" .store] (.name ⟨3, 8⟩ "n" .load)]

/-- A loop carries the known names that the first lowering of its body assigned; those that the second one assigned, from `t₀` to
`t₁`, are handed on. So as many values are handed on as the loop carries exactly if these are no others. The value of a carried name
at the end of the body is handed on at the place of the name, and behind the loop the name stands for the result at this place. -/
def HandsOn (r : Visitors) (body : List Stmt) (s' : LowerState) : Prop :=
  ∃ (name : String) (known : Scope) (names : List (String × Tensor × Tensor)) (yields : List Tensor) (l : CountedLoop)
    (t₀ t₁ : LowerState) (u v : ValueId), Accepted r body name known names yields l t₀ t₁ s' u v ∧
    (yields.length = l.carried ↔ ∀ n ∈ t₁.frame.defs.names, known.contains n → n ∈ names.map (·.1)) ∧
    ∀ (p : Nat) x y, names[p]? = some x → t₁.frame.scope.find? x.1 = some (.tensor y) → yields[p]? = some y ∧
      ∃ w, (s'.builder.graph.op l.op).results[p]? = some w ∧ s'.frame.scope.find? x.1 = some (.tensor ⟨some w, y.type⟩)

def named (n : String) : Expr := .name default n .load

def setting (n : String) : Stmt := .assign default [.name default n .store] (.literal default (.int 1))

/-- The operations of some kinds that statements leave in a function of one integer, where a global name `t` stands for nothing: what
they are inside of, and which of their operands still exist. -/
def leaves (opcodes : List Opcode) (body : List Stmt) : Option (List (Option Opcode × Opcode × List Bool)) :=
  match (visitors.block body).run
    { countingState with program := ({} : Program).define countingState.frame.space "t" .none } with
  | .error _ _ => none
  | .ok _ s =>
    let g := s.builder.graph
    let n := Names.addRegion g (g.ops.size + 1) (.empty g) 0
    let exists? : Operand → List Bool
      | .value v | .fixed v => [(n.values.getD v none).isSome]
      | _ => []
    some <| ((List.range g.blocks.size).filter fun b => (n.blocks.getD b none).isSome).flatMap fun b =>
      (((g.block b).ops.map g.op).filter fun o => opcodes.contains o.opcode).map fun o =>
        ((g.region (g.block b).region).owner.map fun i => (g.op i).opcode, o.opcode, o.args.flatMap fun
          | .list os => os.flatMap exists?
          | o => exists? o)

end

end Lowering.Loop

end TileKernel
