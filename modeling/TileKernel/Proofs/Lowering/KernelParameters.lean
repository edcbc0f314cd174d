import Mathlib.Data.List.Sort
import TileKernel.Proofs.Lowering.OwnNames

/-! # Parameters of a kernel

The types of a kernel's function are taken from the signature, entry by entry, and the parameters are bound position by
position with a number that counts those that are passed. The two passes stay in step: a parameter without a constant is bound
to the argument whose number is the number of such parameters before it, with the type and the hints of its own position. A
parameter that is known to be 1 is bound to 1, and any other one to its constant.
-/

namespace TileKernel.Lowering

open IR Source List
open Within (bind_eq_ok)

/-! ## Positions that are passed -/

def passed (constants : List (Int × Value)) (n : Nat) : List Nat :=
  (List.range n).filter fun i => (constants.lookup (i : Int)).isNone

/-- The number of the argument for a position: how many positions before it are passed. -/
def number (constants : List (Int × Value)) (i : Nat) : Nat := (passed constants i).length

section

variable {constants : List (Int × Value)} {i n : Nat}

theorem mem_passed : i ∈ passed constants n ↔ i < n ∧ constants.lookup (i : Int) = none := by
  rw [passed, mem_filter, mem_range, Option.isNone_iff_eq_none]

theorem passed_succ_of_some {c : Value} (h : constants.lookup (n : Int) = some c) :
    passed constants (n + 1) = passed constants n := by
  simp [passed, range_succ, h]

theorem passed_succ_of_none (h : constants.lookup (n : Int) = none) : passed constants (n + 1) = passed constants n ++ [n] := by
  simp [passed, range_succ, h]

theorem getElem?_number (hi : i < n) (h : constants.lookup (i : Int) = none) :
    (passed constants n)[number constants i]? = some i := by
  have hget := Steps.getElem?_filter (fun i : Nat => (constants.lookup (i : Int)).isNone) (getElem?_range hi) (by rw [h]; rfl)
  rwa [take_range, Nat.min_eq_left hi.le, countP_eq_length_filter] at hget

theorem passed_congr {others : List (Int × Value)} (h : ∀ i, constants.lookup i = none ↔ others.lookup i = none) (n : Nat) :
    passed constants n = passed others n := by
  refine filter_congr fun i _ => ?_
  rw [Bool.eq_iff_iff, Option.isNone_iff_eq_none, Option.isNone_iff_eq_none]
  exact h i

end

/-! ## Binding parameters -/

def boundValue (f : Header) (first : ValueId) (i : Nat) : Value :=
  match f.constants.lookup (i : Int) with
  | some c => c.wrap
  | none => .tensor ⟨some (first + number f.constants i), f.type.params.getD (number f.constants i) default⟩

def argsFrom (first : ValueId) (types : List Ty) : List (ValueId × Option IrTy) :=
  types.zipIdx.map fun (ty, j) => (first + j, some (.known ty))

def numberedHints (f : Header) (i : Nat) : List (Nat × Named Int) :=
  if f.constants.lookup (i : Int) = none ∧ f.hints i ≠ [] then [(number f.constants i, f.hints i)] else []

theorem flatMap_numberedHints (f : Header) (n : Nat) : (List.range n).flatMap (numberedHints f) =
    ((passed f.constants n).map fun i => (number f.constants i, f.hints i)).filter fun h => !h.2.isEmpty := by
  induction n with
  | zero => rfl
  | succ n ih =>
    rw [range_succ, flatMap_append, ih, flatMap_singleton]
    cases hc : f.constants.lookup (n : Int) with
    | some c => simp [passed_succ_of_some hc, numberedHints, hc]
    | none =>
      rw [passed_succ_of_none hc, map_append, filter_append]
      by_cases hh : f.hints n = [] <;> simp [numberedHints, hc, hh]

variable (name : String) {vs : List Value} {entry : BlockId} {first : ValueId}

def withHints (hints : List (Nat × Named Int)) (s : LowerState) : LowerState :=
  { s with builder := { s.builder with
    graph := s.builder.graph.modifyFunc name fun fn => { fn with argHints := fn.argHints ++ hints } } }

theorem withHints_nil (s : LowerState) : withHints name [] s = s := by
  simp [withHints, Graph.modifyFunc]

theorem withHints_append (hints more : List (Nat × Named Int)) (s : LowerState) :
    withHints name more (withHints name hints s) = withHints name (hints ++ more) s := by
  simp only [withHints, Graph.modifyFunc, map_map]
  congr
  funext fn
  by_cases h : fn.name = name <;> simp [h]

theorem findFunc?_modifyFunc (g : Graph) (name : String) (f : Func → Func) (hname : ∀ fn, (f fn).name = fn.name) :
    (g.modifyFunc name f).findFunc? name = (g.findFunc? name).map f := by
  unfold Graph.findFunc? Graph.modifyFunc
  induction g.funcs with
  | nil => rfl
  | cons fn fns ih =>
    rw [map_cons, find?_cons, find?_cons, ih]
    by_cases h : fn.name = name <;> simp [h, hname]

theorem findFunc?_withHints (hints : List (Nat × Named Int)) (s : LowerState) :
    (withHints name hints s).builder.graph.findFunc? name =
      (s.builder.graph.findFunc? name).map fun fn => { fn with argHints := fn.argHints ++ hints } :=
  findFunc?_modifyFunc _ _ _ fun _ => rfl

namespace Function

theorem addHints_run (number : Nat) (hints : Named Int) (s : LowerState) :
    (addHints name number hints).run s = .ok () (withHints name (if hints ≠ [] then [(number, hints)] else []) s) := by
  cases hints with
  | nil =>
    simp only [ne_eq, not_true_eq_false, if_false, withHints_nil]
    rfl
  | cons h hs => rfl

/-- The two counters of the pass agree: where the next position is `position`, the next argument has its number. -/
theorem paramValues_run {f : Header} (count position : Nat) {s : LowerState}
    (hargs : (s.builder.graph.block entry).args = argsFrom first f.type.params)
    (hparams : ∀ i, i < position + count → f.constants.lookup (i : Int) = none → number f.constants i < f.type.params.length) :
    (paramValues f entry count position (number f.constants position)).run s =
      .ok ((List.range' position count).map (boundValue f first))
        (withHints f.functionName ((List.range' position count).flatMap (numberedHints f)) s) := by
  induction count generalizing position s with
  | zero =>
    simp only [range'_zero, map_nil, flatMap_nil, withHints_nil]
    rfl
  | succ count ih =>
    have hrest : ∀ i, i < position + 1 + count → _ := fun i hi => hparams i (by omega)
    rw [range'_succ, map_cons, flatMap_cons, paramValues]
    cases hc : f.constants.lookup (position : Int) with
    | some c =>
      have hnumber : number f.constants (position + 1) = number f.constants position := by
        rw [number, passed_succ_of_some hc, number]
      have hvalue : boundValue f first position = c.wrap := by simp [boundValue, hc]
      have hhints : numberedHints f position = [] := by simp [numberedHints, hc]
      rw [hvalue, hhints, nil_append]
      exact bind_eq_ok.2 ⟨_, _, hnumber ▸ ih (position + 1) hargs hrest, rfl⟩
    | none =>
      have hnumber : number f.constants (position + 1) = number f.constants position + 1 := by
        rw [number, passed_succ_of_none hc, length_append, length_singleton, number]
      have hlt := hparams position (by omega) hc
      have hhints : numberedHints f position =
          if f.hints position ≠ [] then [(number f.constants position, f.hints position)] else [] := by
        simp [numberedHints, hc]
      have hvalue : boundValue f first position =
          .tensor ⟨some (first + number f.constants position), f.type.params[number f.constants position]⟩ := by
        simp [boundValue, hc, hlt]
      have harg : ((s.builder.graph.block entry).args.map (·.1)).getD (number f.constants position) 0 =
          first + number f.constants position := by
        simp [hargs, argsFrom, hlt]
      rw [hvalue, ← harg, ← withHints_append, hhints]
      refine bind_eq_ok.2 ⟨(), _, addHints_run _ _ _ s, ?_⟩
      simp only [getElem?_eq_getElem hlt]
      -- hints do not change what the entry block takes
      refine bind_eq_ok.2 ⟨_, withHints f.functionName _ s, rfl, ?_⟩
      exact bind_eq_ok.2 ⟨_, _, hnumber ▸ ih (position + 1) hargs hrest, rfl⟩

theorem openFunc_run {name : String} {s : LowerState} (type : FnTy) (isPublic : Bool) (noinline : Option Bool)
    (hnew : s.builder.graph.findFunc? name = none) :
    ∃ b : Builder, (Lower.ofBuild (Build.openFunc name type isPublic noinline)).run s =
        .ok s.builder.graph.blocks.size { s with builder := b } ∧
      b.graph.findFunc? name = some ⟨name, isPublic, noinline, type, [], s.builder.graph.regions.size⟩ ∧
      (b.graph.region s.builder.graph.regions.size).blocks = [s.builder.graph.blocks.size] ∧
      (b.graph.block s.builder.graph.blocks.size).args =
        argsFrom s.builder.graph.values.size type.params := by
  let g := s.builder.graph
  let fn : Func := ⟨name, isPublic, noinline, type, [], g.regions.size⟩
  let opened : Graph := { (g.newRegion none).2 with funcs := g.funcs ++ [fn] }
  let last := (opened.newBlock g.regions.size (type.params.map fun ty => some (.known ty))).2
  have hopen : (Build.openFunc name type isPublic noinline).run s.builder =
      .ok g.blocks.size { s.builder with graph := last } := by
    refine bind_eq_ok.2 ⟨s.builder, s.builder, rfl, ?_⟩
    simp only [hnew]
    rfl
  have hfind : (g.funcs ++ [fn]).find? (·.name = name) = some fn := by
    rw [find?_append, show g.funcs.find? (·.name = name) = none from hnew]
    simp [fn]
  refine ⟨{ s.builder with graph := last }, ?_, hfind, ?_, ?_⟩
  · simp only [Lower.ofBuild, hopen]
    rfl
  · simp [last, opened, g, Graph.region, Graph.newBlock, Graph.newRegion, Array.getD, Array.getElem_modify]
  · simp [last, opened, g, Graph.block, Graph.newBlock, Graph.newRegion, Array.getD, zipIdx_map, argsFrom]

theorem forM_setValue_run (ps : Named Value) (s : LowerState) :
    (ps.forM fun (n, v) => Lower.setValue n v).run s =
      .ok () { s with frame := ps.foldl (fun f p => f.assign p.1 p.2) s.frame } := by
  induction ps generalizing s with
  | nil => rfl
  | cons p ps ih => exact bind_eq_ok.2 ⟨(), _, rfl, ih _⟩

theorem toStart_run (b : BlockId) (s : LowerState) : ∃ s', (Lower.ofBuild (Build.toStart b)).run s = .ok () s' ∧
    s'.builder.graph = s.builder.graph ∧ s'.frame = s.frame := ⟨_, rfl, rfl, rfl⟩

end Function

theorem scope_foldl_assign (ps : Named Value) (f : Frame) :
    (ps.foldl (fun f p => f.assign p.1 p.2) f).scope = Table.putAll f.scope ps := by
  induction ps generalizing f with
  | nil => rfl
  | cons p ps ih => exact ih _

theorem find?_assigned {names : List String} (hnodup : names.Nodup) (hlength : vs.length = names.length)
    (f : Frame) {i : Nat} {name : String} {v : Value} (hname : names[i]? = some name) (hv : vs[i]? = some v) :
    ((names.zip vs).foldl (fun f p => f.assign p.1 p.2) f).scope.find? name = some v := by
  have hkeys : ((names.zip vs).map (·.1)).Nodup := by
    rwa [map_fst_zip (Nat.le_of_eq hlength.symm)]
  have hmem : (name, v) ∈ names.zip vs := mem_of_getElem? (getElem?_zip_eq_some.2 ⟨hname, hv⟩)
  rw [scope_foldl_assign]
  exact Table.lookup_putAll_of_mem hkeys hmem _

namespace Function

variable {params : Params} {s : LowerState}

theorem enter_of_opened {t u : LowerState}
    (hopen : (Lower.ofBuild (Build.openFunc s.frame.functionName s.frame.type s.frame.isKernel s.frame.noinline)).run s =
      .ok entry t)
    (hvalues : (paramValues s.frame.toHeader entry params.names.length 0 0).run t = .ok vs u) :
    ∃ s', (enter params).run s = .ok () s' ∧ s'.builder.graph = u.builder.graph ∧
      s'.frame = (params.names.zip vs).foldl (fun f p => f.assign p.1 p.2) u.frame := by
  have hset := forM_setValue_run (params.names.zip vs) u
  obtain ⟨s', hstart, hgraph, hframe⟩ := toStart_run entry
    { u with frame := (params.names.zip vs).foldl (fun f p => f.assign p.1 p.2) u.frame }
  refine ⟨s', bind_eq_ok.2 ⟨s.frame, s, rfl, ?_⟩, hgraph, hframe⟩
  refine bind_eq_ok.2 ⟨_, _, hopen, bind_eq_ok.2 ⟨_, _, hvalues, ?_⟩⟩
  exact bind_eq_ok.2 ⟨(), _, hset, hstart⟩

theorem enter_run (hnodup : params.names.Nodup) (hnew : s.builder.graph.findFunc? s.frame.functionName = none)
    (hparams : ∀ i, i < params.names.length → s.frame.constants.lookup (i : Int) = none →
      number s.frame.constants i < s.frame.type.params.length) :
    ∃ s' fn entry first, (enter params).run s = .ok () s' ∧
      s'.builder.graph.findFunc? s.frame.functionName = some fn ∧ fn.type = s.frame.type ∧
      fn.argHints = (List.range params.names.length).flatMap (numberedHints s.frame.toHeader) ∧
      (s'.builder.graph.region fn.body).blocks = [entry] ∧
      (s'.builder.graph.block entry).args = argsFrom first s.frame.type.params ∧
      ∀ i name, params.names[i]? = some name → s'.frame.scope.find? name = some (boundValue s.frame.toHeader first i) := by
  obtain ⟨b, hopen, hfind, hregion, hargs⟩ := openFunc_run s.frame.type s.frame.isKernel s.frame.noinline hnew
  have hvalues := paramValues_run (f := s.frame.toHeader) (s := { s with builder := b }) params.names.length 0 hargs
    fun i hi => hparams i (by omega)
  rw [← range_eq_range'] at hvalues
  obtain ⟨s', hrun, hgraph, hframe⟩ := enter_of_opened hopen hvalues
  have hfunc : s'.builder.graph.findFunc? s.frame.functionName = _ :=
    hgraph ▸ (findFunc?_withHints _ _ _).trans (congrArg _ hfind)
  refine ⟨s', _, s.builder.graph.blocks.size, s.builder.graph.values.size, hrun, hfunc, rfl, rfl, ?_, ?_, ?_⟩
  · rw [hgraph]
    exact hregion
  · rw [hgraph]
    exact hargs
  · intro i name hname
    have hi := (List.getElem?_eq_some_iff.1 hname).1
    rw [hframe]
    refine find?_assigned hnodup (by simp) _ hname ?_
    rw [getElem?_map, getElem?_range hi]
    rfl

end Function

/-! ## Kernels -/

namespace KernelInstance

/-- The signature and the constants of a kernel together cover its parameters: the signature is in order of position, the
types of the parameters that are passed can be read, and whatever is known to be 1 has a constant. -/
structure Covers (k : KernelInstance) (constants : List (Int × Value)) (n : Nat) : Prop where
  sorted : (k.signature.map (·.1)).Pairwise (· < ·)
  positions : ∀ e ∈ k.signature, 0 ≤ e.1 ∧ e.1 < n
  covered : ∀ i : Nat, i < n → (i : Int) ∈ k.signature.map (·.1) ∨ (constants.lookup (i : Int)).isSome = true
  types : ∀ e ∈ k.signature, constants.lookup e.1 = none → ∃ ty, Types.ofSignature e.2 = .ok ty
  ones : ∀ i ∈ k.knowledge.equalTo1, (constants.lookup i).isSome = true

variable {k : KernelInstance} {constants : List (Int × Value)} {n : Nat}

theorem Covers.keys_passed (h : k.Covers constants n) :
    (k.signature.filter fun e => (constants.lookup e.1).isNone).map (·.1) = (passed constants n).map Int.ofNat := by
  have hsorted : ((k.signature.filter fun e => (constants.lookup e.1).isNone).map (·.1)).Pairwise (· < ·) :=
    h.sorted.sublist (filter_sublist.map _)
  have hpassed : ((passed constants n).map Int.ofNat).Pairwise (· < ·) := by
    refine pairwise_map.2 ((pairwise_lt_range.filter _).imp fun hlt => ?_)
    exact Int.ofNat_lt.2 hlt
  refine hsorted.eq_of_mem_iff hpassed fun i => ?_
  simp only [mem_map, mem_filter, Option.isNone_iff_eq_none, mem_passed]
  constructor
  · rintro ⟨e, ⟨he, hnone⟩, rfl⟩
    obtain ⟨j, hj⟩ := Int.eq_ofNat_of_zero_le (h.positions e he).1
    have hlt := (h.positions e he).2
    rw [hj] at hlt hnone ⊢
    exact ⟨j, ⟨Int.ofNat_lt.1 hlt, hnone⟩, rfl⟩
  · rintro ⟨j, ⟨hlt, hnone⟩, rfl⟩
    rcases h.covered j hlt with hmem | hsome
    · obtain ⟨e, he, hkey⟩ := mem_map.1 hmem
      exact ⟨e, ⟨he, hkey ▸ hnone⟩, hkey⟩
    · rw [hnone] at hsome
      cases hsome

variable {types : List Ty}

theorem argTypes_eq_ok : k.argTypes constants = .ok types ↔
    List.Forall₂ (fun e ty => Types.ofSignature e.2 = .ok ty) (k.signature.filter fun e => (constants.lookup e.1).isNone)
      types := by
  rw [← Steps.mapM_eq_ok, argTypes]
  have hpasses := Steps.filterMapM_eq_mapM (fun e : Int × String => constants.any (·.1 == e.1))
    (fun e => Types.ofSignature e.2) k.signature
  have hkept : (k.signature.filter fun e => !constants.any (·.1 == e.1)) =
      k.signature.filter fun e => (constants.lookup e.1).isNone := by
    refine filter_congr fun e _ => ?_
    rw [Table.any_eq_isSome_lookup]
    cases constants.lookup e.1 <;> rfl
  rw [← hkept, ← hpasses]

theorem Covers.exists_argTypes (h : k.Covers constants n) : ∃ types, k.argTypes constants = .ok types := by
  let type (e : Int × String) : Ty := (Types.ofSignature e.2).toOption.getD default
  refine ⟨(k.signature.filter fun e => (constants.lookup e.1).isNone).map type, argTypes_eq_ok.2 ?_⟩
  refine forall₂_map_right_iff.2 (forall₂_same.2 fun e he => ?_)
  obtain ⟨he, hnone⟩ := mem_filter.1 he
  obtain ⟨ty, hty⟩ := h.types e he (Option.isNone_iff_eq_none.1 hnone)
  rw [hty]
  simp [type, hty, Except.toOption]

def HasType (k : KernelInstance) (i : Int) (ty : Ty) : Prop :=
  ∃ text, (i, text) ∈ k.signature ∧ Types.ofSignature text = .ok ty

theorem Covers.types_passed (h : k.Covers constants n) (htypes : k.argTypes constants = .ok types) :
    List.Forall₂ (fun i ty => k.HasType (i : Nat) ty) (passed constants n) types := by
  have hentries : Forall₂ (fun e ty => e ∈ k.signature ∧ Types.ofSignature e.2 = .ok ty)
      (k.signature.filter fun e => (constants.lookup e.1).isNone) types :=
    (forall₂_and_left _ _).2 ⟨fun e he => (mem_filter.1 he).1, argTypes_eq_ok.1 htypes⟩
  have hkeys : Forall₂ k.HasType ((k.signature.filter fun e => (constants.lookup e.1).isNone).map (·.1)) types :=
    forall₂_map_left_iff.2 (hentries.imp fun e ty he => ⟨e.2, he⟩)
  rw [h.keys_passed] at hkeys
  exact forall₂_map_left_iff.1 hkeys

theorem Covers.exists_type (h : k.Covers constants n) (htypes : k.argTypes constants = .ok types) {i : Nat}
    (hi : i < n) (hnone : constants.lookup (i : Int) = none) : ∃ ty, k.HasType i ty ∧ types[number constants i]? = some ty := by
  have hpassed := h.types_passed htypes
  obtain ⟨hlt, hget⟩ := List.getElem?_eq_some_iff.1 (getElem?_number hi hnone)
  have hlt' : number constants i < types.length := hpassed.length_eq ▸ hlt
  have htype := hpassed.get hlt hlt'
  rw [get_eq_getElem, hget] at htype
  exact ⟨_, htype, getElem?_eq_getElem hlt'⟩

theorem Covers.lookup_ones (h : k.Covers constants n) (i : Int) :
    (k.knowledge.equalTo1.foldl (fun acc i => Table.put acc i (.int 1)) constants).lookup i = none ↔
      constants.lookup i = none := by
  rw [Table.lookup_foldl_put]
  split
  · rename_i hi
    obtain ⟨c, hc⟩ := Option.isSome_iff_exists.1 (h.ones i hi)
    simp [hc]
  · rfl

end KernelInstance

structure Binds (k : KernelInstance) (constants : List (Int × Value)) (names : List String) (fn : Func) (first : ValueId)
    (scope : Scope) : Prop where
  /-- The function takes the parameters that are passed and nothing else. -/
  types : List.Forall₂ (fun i ty => k.HasType (i : Nat) ty) (passed constants names.length) fn.type.params
  /-- Its arguments have the hints of their positions and no others. -/
  hints : fn.argHints =
    ((passed constants names.length).map fun i => (number constants i, k.hints i)).filter fun h => !h.2.isEmpty
  argument : ∀ (i : Nat) name, names[i]? = some name → constants.lookup (i : Int) = none →
    ∃ ty, k.HasType i ty ∧ fn.type.params[number constants i]? = some ty ∧
      scope.find? name = some (.tensor ⟨some (first + number constants i), ty⟩)
  constant : ∀ (i : Nat) name c, names[i]? = some name → constants.lookup (i : Int) = some c →
    scope.find? name = some (if (i : Int) ∈ k.knowledge.equalTo1 then Value.int 1 else c).wrap

section

variable {k : KernelInstance} {constants : List (Int × Value)} {f : Header} {names : List String}
  (hcovers : k.Covers constants names.length) (htypes : k.argTypes constants = .ok f.type.params)
  (hall : f.constants = k.knowledge.equalTo1.foldl (fun acc i => Table.put acc i (.int 1)) constants)

include hcovers hall

/-- What is known to be 1 adds no constants, so the function's own constants give the same numbers. -/
theorem number_eq : number f.constants = number constants := by
  funext i
  rw [number, hall, passed_congr hcovers.lookup_ones, number]

include htypes

theorem number_lt {i : Nat} (hi : i < names.length) (hnone : f.constants.lookup (i : Int) = none) :
    number f.constants i < f.type.params.length := by
  rw [number_eq hcovers hall]
  rw [hall, hcovers.lookup_ones] at hnone
  obtain ⟨ty, -, hty⟩ := hcovers.exists_type htypes hi hnone
  exact (List.getElem?_eq_some_iff.1 hty).1

theorem binds_of_boundValue {fn : Func} {scope : Scope} (hhints : f.hints = k.hints) (htype : fn.type = f.type)
    (hargHints : fn.argHints = (List.range names.length).flatMap (numberedHints f))
    (hbound : ∀ i name, names[i]? = some name → scope.find? name = some (boundValue f first i)) :
    Binds k constants names fn first scope where
  types := by
    rw [htype]
    exact hcovers.types_passed htypes
  hints := by
    rw [hargHints, flatMap_numberedHints, number_eq hcovers hall, hhints, hall, passed_congr hcovers.lookup_ones]
  argument := by
    intro i name hname hnone
    have hi := (List.getElem?_eq_some_iff.1 hname).1
    obtain ⟨ty, hty, hget⟩ := hcovers.exists_type htypes hi hnone
    have hlookup : f.constants.lookup (i : Int) = none := by
      rw [hall]
      exact (hcovers.lookup_ones i).2 hnone
    refine ⟨ty, hty, htype ▸ hget, ?_⟩
    rw [hbound i name hname, boundValue, hlookup, number_eq hcovers hall, getD_eq_getElem?_getD, hget]
    rfl
  constant := by
    intro i name c hname hc
    have hlookup : f.constants.lookup (i : Int) = some (if (i : Int) ∈ k.knowledge.equalTo1 then Value.int 1 else c) := by
      rw [hall, Table.lookup_foldl_put, hc]
      split <;> rfl
    rw [hbound i name hname, boundValue, hlookup]

end

/-- A kernel of two pointers, with a number and a constant between them. -/
def betweenDef : FuncDef :=
  let pos : SourcePos := ⟨1, 0⟩
  .mk "kernel" (.mk [.mk pos "x" none, .mk pos "n" none, .mk pos "block" none, .mk pos "y" none] [] none [] [] none) none [] []

def betweenInfo : FuncInfo := { (default : FuncInfo) with name := "kernel", tree := .ok betweenDef, isJit := true }

/-- The number is known to be 1, whatever constant is given for it. -/
def betweenInstance (n : Int) : KernelInstance where
  signature := [(0, "*fp32"), (1, "i32"), (3, "*i64")]
  constants := [(.position 1, .int n), (.name "block", .int 64)]
  knowledge := { divisibleBy16 := [0, 3], equalTo1 := [1], divisibleBy8 := [3] }

theorem covers_betweenInstance (n : Int) : (betweenInstance n).Covers [(1, .int n), (2, .int 64)] 4 where
  sorted := by simp [betweenInstance]
  positions := by simp [betweenInstance]
  covered := by
    intro i hi
    have hi : i = 0 ∨ i = 1 ∨ i = 2 ∨ i = 3 := by omega
    rcases hi with rfl | rfl | rfl | rfl <;> simp [betweenInstance, Table.lookup_cons]
  types := by
    intro e he _
    have he : e = (0, "*fp32") ∨ e = (1, "i32") ∨ e = (3, "*i64") := by simpa [betweenInstance] using he
    rcases he with rfl | rfl | rfl <;> exact ⟨_, rfl⟩
  ones := by
    intro i hi
    obtain rfl := mem_singleton.1 hi
    rfl

end TileKernel.Lowering
