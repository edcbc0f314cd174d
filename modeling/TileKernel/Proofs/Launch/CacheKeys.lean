import Mathlib.Data.List.Nodup
import TileKernel.Proofs.Launch.Parameters

/-! # What equal keys say about launches

A binary is looked up by a key and compiled for a signature, constants and what is known of the arguments. The key holds the
types of the regular arguments, the constant arguments compared by value, and facts on some of the regular arguments. The main
statement compares two launches with equal keys: their signatures are equal, and everything else that they are compiled for is
equal exactly if the constant arguments are equal as objects and the arguments without facts in the key agree on the facts
that binaries are specialized on.
-/

namespace TileKernel.Launch

open Lowering List

/-! ## Parameters that keys hold facts on -/

/-- What binaries are specialized on with respect to one argument that is not nothing. -/
def Argument.facts (a : Argument) : Bool × Bool × Bool := (a.divisibleBy16, a.divisibleBy8, a.isOne)

namespace Launchable

variable (k : Launchable)

def regularParams : Named Nat := k.params.zipIdx.filter fun p => !k.isConstant p.2

def hasFacts (declared : String) : Bool := declared == "" || Text.occursIn "Tensor" declared || declared == "int"

/-- The parameters that keys hold facts on. What a kernel is not specialized on is taken here for places among the regular
parameters. -/
def keyedParams : Named Nat :=
  (k.regularParams.zipIdx.filter fun p => !k.notSpecialized.contains (p.2 : Int) && hasFacts (k.declaredType p.1.1)).map (·.1)

/-- The parameters that binaries are specialized on although keys hold no facts on them. -/
def unkeyedParams : Named Nat :=
  k.regularParams.filter fun p => !k.notSpecialized.contains (p.2 : Int) && !k.keyedParams.contains p

def Ordered : Prop := k.constants = (List.range k.params.length).filter k.isConstant

end Launchable

/-- Two launches agree on what keys leave open. -/
structure AgreeBeyondKeys (k : Launchable) (b c : Bindings) : Prop where
  constants : constantArguments k b = constantArguments k c
  facts : ∀ p ∈ k.unkeyedParams, (argument b p.1).facts = (argument c p.1).facts

/-! ## What keys decide about one argument -/

variable {k : Launchable} {n : String} {a : Argument} {t : ArgumentKey} {s : Spec}

theorem key_of_argumentKey (h : argumentKey k n a = .ok t) : a.key = .ok t := by
  simp only [argumentKey] at h
  by_cases htensor : Text.occursIn "Tensor" (k.declaredType n)
  · rw [if_pos htensor] at h
    cases he : a.element? with
    | none => simp [he] at h
    | some e =>
      rw [he] at h
      unfold Argument.key
      rw [he]
      exact h
  · rw [if_neg htensor] at h
    by_cases hnumber : (k.declaredType n == "bool" || k.declaredType n == "float")
    · rw [if_pos hnumber] at h
      cases h
    · rw [if_neg hnumber] at h
      exact h

theorem isNone_iff_of_key (h : a.key = .ok t) : a.isNone ↔ t = .nothing := by
  unfold Argument.key at h
  split at h
  case h_1 e he =>
      cases h
      cases a <;> simp_all [Argument.element?, Argument.isNone]
  case h_2 he =>
      split at h <;> cases h <;> simp [Argument.isNone, Value.isNone]

def factsOf : ArgumentKey → Spec → Bool × Bool × Bool
  | .element _, .aligned b => (b, false, false)
  | .short "fp32", _ => (false, false, false)
  | .short "i1", .number by16 by8 _ => (by16, by8, false)
  | .short _, .number by16 by8 isOne => (by16, by8, isOne)
  | .nothing, _ => (true, true, false)
  | _, _ => (false, false, false)

private theorem equal_int (m n : Int) : Constant.equal (.int m) (.int n) = (m == n) := by
  simp only [Constant.equal, Constant.number?, Constant.compareNumbers]
  rw [Bool.eq_iff_iff]
  simp

theorem numberSpec_int (n : Int) : numberSpec (.int n) = .ok (.number (n.fmod 16 == 0) (n.fmod 8 == 0) (n == 1)) := by
  simp only [numberSpec, Constant.arith, Constant.number?, Constant.arithNumbers, Constant.arithInts,
    if_neg (by decide : ¬ (16 : Int) = 0), if_neg (by decide : ¬ (8 : Int) = 0), Steps.ok_bind, pure, Except.pure, equal_int]

theorem numberSpec_bool (b : Bool) :
    numberSpec (.bool b) = .ok (.number ((if b then 1 else 0 : Int).fmod 16 == 0) ((if b then 1 else 0 : Int).fmod 8 == 0) b) := by
  cases b <;> rfl

theorem spec_of_address {m : Int} (ha : a.address? = some m)
    (hv : ∀ v, a ≠ .value v) (hf : Launchable.hasFacts (k.declaredType n)) (hs : spec k n a = .ok s) :
    s = .aligned (m.fmod 16 == 0) := by
  simp only [spec, ha] at hs
  split at hs
  · exact (Except.ok.inj hs).symm
  · split at hs
    · exact (Except.ok.inj hs).symm
    · split at hs
      · cases hs
      · simp_all [Launchable.hasFacts]

theorem spec_of_number {v : Value} {m : Int} {t : Spec} (hm : v.int? = some m)
    (hn : numberSpec v = .ok t) (ht : numberSpec (.int m) = .ok t) (hf : Launchable.hasFacts (k.declaredType n))
    (hs : spec k n (.value v) = .ok s) : s = t := by
  simp only [spec, Argument.address?, Argument.int?, hm, hn, ht] at hs
  split at hs
  · exact (Except.ok.inj hs).symm
  · split at hs
    · cases hs
    · split at hs
      · exact (Except.ok.inj hs).symm
      · simp_all [Launchable.hasFacts]

private theorem factsOf_intKey (n : Int) (by16 by8 isOne : Bool) :
    factsOf (.short (Argument.intKey n)) (.number by16 by8 isOne) = (by16, by8, isOne) := by
  unfold Argument.intKey
  split
  · rfl
  · split <;> rfl

theorem facts_eq_factsOf (h : a.key = .ok t)
    (hs : spec k n a = .ok s) (hf : Launchable.hasFacts (k.declaredType n)) : a.facts = factsOf t s := by
  cases a with
  | tensor _ | reinterpreted _ _ | placeholder _ =>
    cases h
    rw [spec_of_address rfl (by simp) hf hs]
    rfl
  | elementType e => cases h
  | value v =>
    simp only [Argument.key, Argument.element?] at h
    split at h
    case h_1 b heq =>
        cases heq
        cases h
        cases b with
        | false =>
          rw [spec_of_number rfl (numberSpec_bool false) (numberSpec_int 0) hf hs]
          rfl
        | true =>
          rw [spec_of_number rfl (numberSpec_bool true) (numberSpec_int 1) hf hs]
          rfl
    case h_2 m heq =>
        cases heq
        cases h
        rw [spec_of_number rfl (numberSpec_int m) (numberSpec_int m) hf hs, factsOf_intKey]
        simp [Argument.facts, Argument.divisibleBy16, Argument.divisibleBy8, Argument.isOne, Argument.address?, Argument.int?,
          Argument.isBool, Value.int?]
    case h_3 heq | h_4 heq =>
        cases heq
        cases h
        rfl
    case h_5 => cases h

/-! ## Launches as functions of their parameters -/

variable (k) (b c : Bindings) (p : Argument → Bool)

theorem argumentKeys_eq : argumentKeys k b = k.regularParams.mapM fun p => argumentKey k p.1 (argument b p.1) := by
  rw [argumentKeys, regular, mapM_map]
  rfl

theorem specs_eq : specs k b = (k.regularParams.zipIdx.filter fun p => !k.notSpecialized.contains (p.2 : Int)).mapM fun p =>
      spec k p.1.1 (argument b p.1.1) := by
  have hreg : regular k b = k.regularParams.map fun p => (p.1, argument b p.1) := rfl
  rw [specs, hreg, zipIdx_map, filter_map, mapM_map]
  rfl

private def entry (a : Argument) (i : Nat) : Except Fault (Int × String) := do
  return ((i : Int), ← (← a.key).type)

theorem signature_eq : signature k b = k.regularParams.mapM fun p => entry (argument b p.1) p.2 := by
  rw [signature, allArguments, zipIdx_map, filter_map, mapM_map]
  rfl

namespace Launchable

def positionsOf (p : String × Nat → Bool) : List Int := (k.params.zipIdx.filter p).map fun q => (q.2 : Int)

private theorem position_injective {p q : String × Nat} (hp : p ∈ k.params.zipIdx) (hq : q ∈ k.params.zipIdx)
    (h : (p.2 : Int) = q.2) : p = q := by
  have hnodup : (k.params.zipIdx.map Prod.snd).Nodup := by
    rw [zipIdx_map_snd]
    exact nodup_range'
  exact inj_on_of_nodup_map hnodup hp hq (Int.ofNat.inj h)

theorem mem_positionsOf {k : Launchable} {p : String × Nat → Bool} {q : String × Nat} (hq : q ∈ k.params.zipIdx) :
    (q.2 : Int) ∈ k.positionsOf p ↔ p q := by
  constructor
  · intro h
    obtain ⟨r, hr, he⟩ := mem_map.1 h
    obtain ⟨hr, hp⟩ := mem_filter.1 hr
    rwa [← position_injective k hr hq he]
  · intro h
    exact mem_map.2 ⟨q, mem_filter.2 ⟨hq, h⟩, rfl⟩

theorem positionsOf_eq_iff {k : Launchable} {p p' : String × Nat → Bool} :
    k.positionsOf p = k.positionsOf p' ↔ ∀ q ∈ k.params.zipIdx, p q = p' q := by
  constructor
  · intro h q hq
    rw [Bool.eq_iff_iff, ← mem_positionsOf hq, h, mem_positionsOf hq]
  · intro h
    rw [positionsOf, positionsOf, filter_congr h]

end Launchable

/-- The positions of the arguments with a property, except for those that the kernel is not specialized on. -/
def positionsWhere : List Int :=
  k.positionsOf fun q => p (argument b q.1) && !k.notSpecialized.contains (q.2 : Int)

theorem positions_allArguments :
    (((allArguments k b).zipIdx.filter fun (a, i) => p a && !k.notSpecialized.contains (i : Int)).map fun (_, i) => (i : Int)) =
      positionsWhere k b p := by
  rw [allArguments, zipIdx_map, filter_map, map_map]
  rfl

theorem knowledge_eq :
    knowledge k (allArguments k b) =
      { divisibleBy16 := positionsWhere k b Argument.divisibleBy16, equalTo1 := positionsWhere k b Argument.isOne
        idsOfFoldedArgs := positionsWhere k b fun a => a.isOne || a.isNone
        divisibleBy8 := positionsWhere k b Argument.divisibleBy8 } := by
  simp only [← positions_allArguments]
  rfl

theorem positionsWhere_eq_iff :
    positionsWhere k b p = positionsWhere k c p ↔
      ∀ q ∈ k.params.zipIdx, k.notSpecialized.contains (q.2 : Int) = false → p (argument b q.1) = p (argument c q.1) := by
  rw [positionsWhere, positionsWhere, Launchable.positionsOf_eq_iff]
  refine forall₂_congr fun q _ => ?_
  cases k.notSpecialized.contains (q.2 : Int) <;> simp

/-! ## Constants of a launch by position -/

def givenConstants : List (Int × Argument) :=
  Table.putAll [] ((k.constants.map fun (i : Nat) => (i : Int)).zip (constantArguments k b))

def absentPositions : List Int := k.positionsOf fun q => (argument b q.1).isNone

theorem absent_allArguments :
    (((allArguments k b).zipIdx.filter fun (a, _) => a.isNone).map fun (_, i) => (i : Int)) = absentPositions k b := by
  rw [allArguments, zipIdx_map, filter_map, map_map]
  rfl

theorem constants_eq (known : Types.Specialization) :
    constants k b known = known.equalTo1.foldl (fun acc i => Table.put acc i (.value (.int 1)))
      ((absentPositions k b).foldl (fun acc i => Table.put acc i (.value .none)) (givenConstants k b)) := by
  rw [constants, absent_allArguments]
  rfl

theorem lookup_constants (known : Types.Specialization) (j : Int) :
    (constants k b known).lookup j =
      if j ∈ known.equalTo1 then some (.value (.int 1))
      else if j ∈ absentPositions k b then some (.value .none) else (givenConstants k b).lookup j := by
  rw [constants_eq, Table.lookup_foldl_put, Table.lookup_foldl_put]

def Launchable.constantParams : Named Nat := k.params.zipIdx.filter fun p => k.isConstant p.2

theorem constantArguments_eq : constantArguments k b = k.constantParams.map fun p => argument b p.1 := rfl

variable {k}

theorem lookup_givenConstants (hk : k.Ordered) (b : Bindings) {p : String × Nat} (hp : p ∈ k.constantParams) :
    (givenConstants k b).lookup (p.2 : Int) = some (argument b p.1) := by
  have hpositions : k.constants = k.constantParams.map Prod.snd := by
    have hfilter : k.constantParams.map Prod.snd = (k.params.zipIdx.map Prod.snd).filter k.isConstant := filter_map.symm
    rw [hk, hfilter, zipIdx_map_snd, range_eq_range']
  have hpairs : (k.constants.map fun (i : Nat) => (i : Int)).zip (constantArguments k b) =
      k.constantParams.map fun p => ((p.2 : Int), argument b p.1) := by
    rw [hpositions, map_map, constantArguments_eq, zip_map']
    rfl
  have hnodup : ((k.constantParams.map fun p => ((p.2 : Int), argument b p.1)).map (·.1)).Nodup := by
    have hsorted : (k.constantParams.map Prod.snd).Nodup := hpositions ▸ hk ▸ nodup_range.filter _
    have hcast := hsorted.map fun _ _ h => Int.ofNat.inj h
    rw [map_map] at hcast ⊢
    exact hcast
  rw [givenConstants, hpairs]
  exact Table.lookup_putAll_of_mem hnodup (mem_map_of_mem hp) []

/-! ## What equal keys decide -/

theorem key_eq_ok {b : Bindings} {warps stages : Argument} {key : Key} (h : Launch.key k b warps stages = .ok key) :
    argumentKeys k b = .ok key.arguments ∧ specs k b = .ok key.specs ∧ key.constants = constantArguments k b := by
  obtain ⟨types, htypes, h⟩ := Steps.bind_eq_ok.1 h
  obtain ⟨facts, hfacts, h⟩ := Steps.bind_eq_ok.1 h
  obtain ⟨libs, _, h⟩ := Steps.bind_eq_ok.1 h
  obtain rfl := Steps.pure_eq_ok.1 h
  exact ⟨htypes, hfacts, rfl⟩

theorem Key.same_parts {a b : Key} (h : a.same b) :
    a.arguments = b.arguments ∧ a.specs = b.specs ∧ Key.agree Argument.same a.constants b.constants := by
  simp only [Key.same, Bool.and_eq_true, beq_iff_eq] at h
  exact ⟨h.1.1.1.1, h.1.1.2, h.1.1.1.2⟩

private theorem agree_map {α β : Type} {p : β → β → Bool} {f g : α → β} {xs : List α}
    (h : Key.agree p (xs.map f) (xs.map g)) : ∀ x ∈ xs, p (f x) (g x) := by
  induction xs with
  | nil => simp
  | cons x xs ih =>
    simp only [map_cons, Key.agree, Bool.and_eq_true] at h
    intro y hy
    rcases mem_cons.1 hy with rfl | hy
    · exact h.1
    · exact ih h.2 y hy

private theorem equal_none (v : Value) : Constant.equal .none v = v.isNone ∧ Constant.equal v .none = v.isNone := by
  cases v <;> simp [Constant.equal, Constant.number?, Value.isNone]

theorem isNone_of_same {b : Argument} (h : a.same b) : a.isNone = b.isNone := by
  cases a with
  | value v =>
    cases b with
    | value w =>
      change Constant.equal v w = true at h
      have hnone (u : Value) : u = .none ∨ u.isNone = false := by cases u <;> simp [Value.isNone]
      rcases hnone v with rfl | hv
      · rw [(equal_none w).1] at h
        exact h.symm
      · rcases hnone w with rfl | hw
        · rw [(equal_none v).2] at h
          exact h
        · exact hv.trans hw.symm
    | _ => cases h
  | elementType n =>
    cases b with
    | elementType m => rfl
    | _ => cases h
  | _ => cases h

/-- What equal keys decide about the arguments of two launches. -/
structure KeysAgree (k : Launchable) (b c : Bindings) : Prop where
  types : ∀ p ∈ k.regularParams, ∃ t, (argument b p.1).key = .ok t ∧ (argument c p.1).key = .ok t
  facts : ∀ p ∈ k.keyedParams, (argument b p.1).facts = (argument c p.1).facts
  absent : ∀ p ∈ k.params.zipIdx, (argument b p.1).isNone = (argument c p.1).isNone

theorem keysAgree_of_same {b c : Bindings} {warps stages warps' stages' : Argument} {key key' : Key}
    (h : Launch.key k b warps stages = .ok key) (h' : Launch.key k c warps' stages' = .ok key')
    (hsame : key.same key') : KeysAgree k b c := by
  obtain ⟨htypes, hspecs, hconstants⟩ := key_eq_ok h
  obtain ⟨htypes', hspecs', hconstants'⟩ := key_eq_ok h'
  obtain ⟨harguments, hfacts, hagree⟩ := Key.same_parts hsame
  rw [argumentKeys_eq] at htypes htypes'
  rw [specs_eq] at hspecs hspecs'
  have htype : ∀ p ∈ k.regularParams, ∃ t, (argument b p.1).key = .ok t ∧ (argument c p.1).key = .ok t := by
    intro p hp
    obtain ⟨t, hb, hc⟩ := Steps.mapM_agree htypes (harguments ▸ htypes') p hp
    exact ⟨t, key_of_argumentKey hb, key_of_argumentKey hc⟩
  refine ⟨htype, ?_, ?_⟩
  · intro p hp
    obtain ⟨⟨q, j⟩, hq, rfl⟩ := mem_map.1 hp
    obtain ⟨hq, hkeyed⟩ := mem_filter.1 hq
    obtain ⟨hs, hf⟩ := Bool.and_eq_true _ _ ▸ hkeyed
    obtain ⟨t, hb, hc⟩ := htype q (fst_mem_of_mem_zipIdx hq)
    obtain ⟨s, hsb, hsc⟩ := Steps.mapM_agree hspecs (hfacts ▸ hspecs') (q, j) (mem_filter.2 ⟨hq, hs⟩)
    exact (facts_eq_factsOf hb hsb hf).trans (facts_eq_factsOf hc hsc hf).symm
  · intro p hp
    cases hconstant : k.isConstant p.2 with
    | true =>
      rw [hconstants, hconstants', constantArguments_eq, constantArguments_eq] at hagree
      exact isNone_of_same (agree_map hagree p (mem_filter.2 ⟨hp, hconstant⟩))
    | false =>
      obtain ⟨t, hb, hc⟩ := htype p (mem_filter.2 ⟨hp, by simp [hconstant]⟩)
      exact Bool.eq_iff_iff.2 ((isNone_iff_of_key hb).trans (isNone_iff_of_key hc).symm)

namespace KeysAgree

variable {k : Launchable} {b c : Bindings} {a : Argument}

theorem signature_eq (h : KeysAgree k b c) : signature k b = signature k c := by
  rw [Launch.signature_eq, Launch.signature_eq]
  apply Steps.mapM_congr
  intro p hp
  obtain ⟨t, hb, hc⟩ := h.types p hp
  rw [entry, entry, hb, hc]

theorem absentPositions_eq (h : KeysAgree k b c) : absentPositions k b = absentPositions k c :=
  Launchable.positionsOf_eq_iff.2 h.absent

theorem facts_of_agree (h : KeysAgree k b c) (ha : AgreeBeyondKeys k b c) :
    ∀ p ∈ k.params.zipIdx, k.notSpecialized.contains (p.2 : Int) = false → (argument b p.1).facts = (argument c p.1).facts := by
  intro p hp hs
  cases hconstant : k.isConstant p.2 with
  | true =>
    have hmem : p ∈ k.constantParams := mem_filter.2 ⟨hp, hconstant⟩
    have heq := ha.constants
    rw [constantArguments_eq, constantArguments_eq] at heq
    rw [map_inj_left.1 heq p hmem]
  | false =>
    have hregular : p ∈ k.regularParams := mem_filter.2 ⟨hp, by simp [hconstant]⟩
    by_cases hkeyed : p ∈ k.keyedParams
    · exact h.facts p hkeyed
    · refine ha.facts p (mem_filter.2 ⟨hregular, ?_⟩)
      rw [hs, Bool.not_false, Bool.true_and]
      simpa using hkeyed

theorem knowledge_eq_iff (h : KeysAgree k b c) :
    knowledge k (allArguments k b) = knowledge k (allArguments k c) ↔
      ∀ p ∈ k.params.zipIdx, k.notSpecialized.contains (p.2 : Int) = false →
        (argument b p.1).facts = (argument c p.1).facts := by
  rw [knowledge_eq, knowledge_eq, Types.Specialization.mk.injEq]
  simp only [positionsWhere_eq_iff]
  constructor
  · rintro ⟨h16, hone, _, h8⟩ p hp hs
    rw [Argument.facts, Argument.facts, h16 p hp hs, h8 p hp hs, hone p hp hs]
  · intro hfacts
    have hparts := fun p hp hs => Prod.mk.inj (hfacts p hp hs)
    refine ⟨fun p hp hs => (hparts p hp hs).1, fun p hp hs => (Prod.mk.inj (hparts p hp hs).2).2, ?_,
      fun p hp hs => (Prod.mk.inj (hparts p hp hs).2).1⟩
    intro p hp hs
    rw [(Prod.mk.inj (hparts p hp hs).2).2, h.absent p hp]

theorem constants_eq_of_agree (h : KeysAgree k b c) (ha : AgreeBeyondKeys k b c) (known : Types.Specialization) :
    constants k b known = constants k c known := by
  rw [constants_eq, constants_eq, givenConstants, givenConstants, ha.constants, h.absentPositions_eq]

theorem value_of_isOne (h : a.isOne) : a = .value (.int 1) := by
  cases a with
  | value v => cases v <;> simp_all [Argument.isOne, Argument.isBool, Argument.int?, Value.int?]
  | _ => simp [Argument.isOne, Argument.int?] at h

theorem value_of_isNone (h : a.isNone) : a = .value .none := by
  cases a with
  | value v => cases v <;> simp_all [Argument.isNone, Value.isNone]
  | _ => simp [Argument.isNone] at h

/-- The constants of a launch tell its constant arguments, also where they are set again: nothing at all stays nothing at all,
and one stays one. -/
theorem constantArguments_eq_of_constants (h : KeysAgree k b c) (hk : k.Ordered)
    (hknown : knowledge k (allArguments k b) = knowledge k (allArguments k c))
    (hconstants : constants k b (knowledge k (allArguments k b)) = constants k c (knowledge k (allArguments k c))) :
    constantArguments k b = constantArguments k c := by
  rw [constantArguments_eq, constantArguments_eq]
  apply map_congr_left
  intro p hp
  have hmem : p ∈ k.params.zipIdx := (mem_filter.1 hp).1
  have hlookup := congrArg (lookup (p.2 : Int)) hconstants
  rw [lookup_constants, lookup_constants, ← hknown, ← h.absentPositions_eq, lookup_givenConstants hk b hp,
    lookup_givenConstants hk c hp] at hlookup
  by_cases hone : (p.2 : Int) ∈ (knowledge k (allArguments k b)).equalTo1
  · have hb := hone
    have hc := hknown ▸ hone
    rw [knowledge_eq] at hb hc
    have hb := (Bool.and_eq_true _ _ ▸ (Launchable.mem_positionsOf hmem).1 hb).1
    have hc := (Bool.and_eq_true _ _ ▸ (Launchable.mem_positionsOf hmem).1 hc).1
    rw [value_of_isOne hb, value_of_isOne hc]
  · by_cases hnone : (p.2 : Int) ∈ absentPositions k b
    · have hb := (Launchable.mem_positionsOf hmem).1 hnone
      have hc := (Launchable.mem_positionsOf hmem).1 (h.absentPositions_eq ▸ hnone)
      rw [value_of_isNone hb, value_of_isNone hc]
    · simpa [hone, hnone] using hlookup

end KeysAgree

/-- Two launches of a kernel with equal keys ask for the same signature. They ask for the same constants and the same
knowledge if they agree beyond their keys, and, where the positions of the constant parameters are listed in order, only
then. -/
theorem same_key_same_binary_iff {k : Launchable} {b c : Bindings} {warps stages warps' stages' : Argument} {key key' : Key}
    (h : Launch.key k b warps stages = .ok key) (h' : Launch.key k c warps' stages' = .ok key')
    (hsame : key.same key' = true) :
    let known := knowledge k (allArguments k b)
    let known' := knowledge k (allArguments k c)
    signature k b = signature k c ∧
    (AgreeBeyondKeys k b c → constants k b known = constants k c known' ∧ known = known') ∧
    (k.Ordered → constants k b known = constants k c known' ∧ known = known' → AgreeBeyondKeys k b c) := by
  have hkeys := keysAgree_of_same h h' hsame
  refine ⟨hkeys.signature_eq, ?_, ?_⟩
  · intro ha
    have hknown := hkeys.knowledge_eq_iff.2 (hkeys.facts_of_agree ha)
    exact ⟨by rw [hknown, hkeys.constants_eq_of_agree ha], hknown⟩
  · rintro hk ⟨hconstants, hknown⟩
    refine ⟨hkeys.constantArguments_eq_of_constants hk hknown hconstants, ?_⟩
    intro p hp
    obtain ⟨hregular, hopen⟩ := mem_filter.1 hp
    rw [Bool.and_eq_true, Bool.not_eq_true'] at hopen
    exact hkeys.knowledge_eq_iff.1 hknown p (mem_filter.1 hregular).1 hopen.1

/-- A kernel with a constant parameter in front of two numbers. It is not specialized on the first number, which is named and so
stands for the first regular place, and the second number has a declared type without facts. -/
def numbersBehindConstant : Launchable :=
  { name := "kernel", space := "kernels", params := ["SIZE", "n", "m"], defaults := []
    annotations := [("SIZE", "constexpr"), ("m", "int32")], constants := [0], notSpecialized := [0], debug := .none }

def behindConstant (size : Value) (n m : Int) : Bindings :=
  [("SIZE", .value size), ("n", .value (.int n)), ("m", .value (.int m))]

/-- The key of such a launch, all options being left out. -/
def behindConstantKey (size : Value) (n m : Int) : Except Fault Key :=
  key numbersBehindConstant (behindConstant size n m) default default

/-- Keys hold no facts on the numbers, but these two launches agree on all of them. -/
theorem same_key_same_binary_behind_constant : ∃ a b, behindConstantKey (.int 16) 16 5 = .ok a ∧
    behindConstantKey (.int 16) 32 7 = .ok b ∧ a.same b = true ∧
    knowledge numbersBehindConstant (allArguments numbersBehindConstant (behindConstant (.int 16) 16 5)) =
      knowledge numbersBehindConstant (allArguments numbersBehindConstant (behindConstant (.int 16) 32 7)) := by
  refine ⟨_, _, rfl, rfl, rfl, ?_⟩
  exact ((@same_key_same_binary_iff numbersBehindConstant (behindConstant (.int 16) 16 5) (behindConstant (.int 16) 32 7)
    default default default default _ _ rfl rfl rfl).2.1 ⟨rfl, by decide⟩).2

/-- Launches with equal keys that different binaries are compiled for: a truth value has the key of the number one, and keys
hold no facts on the two numbers, which binaries are specialized on. -/
theorem same_key_other_binary :
    (∃ a b, behindConstantKey (.int 1) 7 5 = .ok a ∧ behindConstantKey (.bool true) 7 5 = .ok b ∧ a.same b = true ∧
      constantArguments numbersBehindConstant (behindConstant (.int 1) 7 5) ≠
        constantArguments numbersBehindConstant (behindConstant (.bool true) 7 5)) ∧
    (∃ a b, behindConstantKey (.int 64) 16 5 = .ok a ∧ behindConstantKey (.int 64) 7 5 = .ok b ∧ a.same b = true ∧
      knowledge numbersBehindConstant (allArguments numbersBehindConstant (behindConstant (.int 64) 16 5)) ≠
        knowledge numbersBehindConstant (allArguments numbersBehindConstant (behindConstant (.int 64) 7 5))) ∧
    (∃ a b, behindConstantKey (.int 64) 7 16 = .ok a ∧ behindConstantKey (.int 64) 7 5 = .ok b ∧ a.same b = true ∧
      knowledge numbersBehindConstant (allArguments numbersBehindConstant (behindConstant (.int 64) 7 16)) ≠
        knowledge numbersBehindConstant (allArguments numbersBehindConstant (behindConstant (.int 64) 7 5))) := by
  refine ⟨⟨_, _, rfl, rfl, rfl, ?_⟩, ⟨_, _, rfl, rfl, rfl, by decide⟩, ⟨_, _, rfl, rfl, rfl, by decide⟩⟩
  intro h
  cases h

end TileKernel.Launch
