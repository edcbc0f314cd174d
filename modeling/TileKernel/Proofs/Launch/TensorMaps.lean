import TileKernel.Proofs.Launch.CacheKeys

/-! # Where tensor maps find their arguments

A tensor map names arguments by their number among those that the kernel takes. It is encoded from the regular arguments of a launch,
so a number is shifted over the arguments that were folded into the kernel. These are listed by their places among all
parameters, but the list is used for places among the regular ones.
-/

namespace TileKernel.Launch

open Lowering List Steps

/-- Of the items of a list, those that pass a test begin those that pass another one exactly if the tests agree on every item that
passes the first one or has such an item behind it. -/
theorem filter_prefix_iff {α : Type} {xs : List α} (hxs : xs.Nodup) (p q : α → Bool) : xs.filter p <+: xs.filter q ↔
    ∀ x later, x :: later <:+ xs → (∃ y ∈ x :: later, p y) → p x = q x := by
  induction xs with
  | nil => simp
  | cons a xs ih =>
    obtain ⟨ha, hxs⟩ := nodup_cons.1 hxs
    have hnot {r : α → Bool} : a ∉ xs.filter r := fun h => ha (mem_of_mem_filter h)
    have hsplit : (∀ x later, x :: later <:+ a :: xs → (∃ y ∈ x :: later, p y) → p x = q x) ↔
        ((∃ y ∈ a :: xs, p y) → p a = q a) ∧ xs.filter p <+: xs.filter q := by
      rw [ih hxs]
      simp only [suffix_cons_iff, cons.injEq, or_imp, and_imp, forall_and]
      simp only [forall_eq_apply_imp_iff, forall_eq]
    rw [hsplit]
    cases hp : p a <;> cases hq : q a
    · simp [hp, hq]
    · simp only [filter_cons, hp, hq, mem_cons, Bool.false_eq_true, if_false, if_true, exists_eq_or_imp, false_or, imp_false, prefix_cons_iff]
      constructor
      · rintro (hnil | ⟨t, ht, -⟩)
        · exact ⟨by simpa using hnil, hnil ▸ nil_prefix⟩
        · exact absurd (ht ▸ mem_cons_self) hnot
      · rintro ⟨hnone, -⟩
        exact .inl (by simpa using hnone)
    · have hfirst : ¬ a :: xs.filter p <+: xs.filter q := fun h => hnot (h.subset mem_cons_self)
      simp [hp, hq, hfirst]
    · simp [hp, hq]

namespace TensorMap

theorem item_natCast {α : Type} {xs : List α} {i : Nat} {x : α} : item xs (i : Int) = .ok x ↔ xs[i]? = some x := by
  have hi : ¬ (i : Int) < 0 := by omega
  rw [item, if_neg hi, if_neg hi, Int.toNat_natCast]
  cases xs[i]? <;> simp [refused]

/-- The argument with a number: its place is found among the places that are not listed as folded. -/
theorem argumentAt_eq_ok {m : TensorMap} {positions : List Nat} {value : Nat → Int} {n : Nat} {a : Int} :
    m.argumentAt (positions.map value) n = .ok a ↔
      ∃ e, (positions.zipIdx.filter fun e => !m.folded.contains (e.2 : Int))[n]? = some e ∧ value e.1 = a := by
  have hplaces : (((List.range (positions.map value).length).map fun (i : Nat) => (i : Int)).filter fun i => !m.folded.contains i) =
      (positions.zipIdx.filter fun e => !m.folded.contains (e.2 : Int)).map fun e => (e.2 : Int) := by
    have hrange : List.range positions.length = positions.zipIdx.map Prod.snd := by rw [zipIdx_map_snd, range_eq_range']
    rw [length_map, hrange, map_map, filter_map]
    rfl
  have hvalue (e : Nat × Nat) (he : e ∈ positions.zipIdx) : (positions.map value)[e.2]? = some (value e.1) := by
    rw [getElem?_map, mem_zipIdx_iff_getElem?.1 he, Option.map_some]
  rw [argumentAt, originalPosition, bind_eq_ok]
  split
  · rename_i hempty
    simp only [List.isEmpty_iff.1 hempty, contains_nil, Bool.not_false, filter_true, getElem?_zipIdx, Except.ok.injEq,
      exists_eq_left', item_natCast, getElem?_map, Option.map_eq_some_iff]
    constructor
    · rintro ⟨i, hi, rfl⟩
      exact ⟨_, ⟨i, hi, rfl⟩, rfl⟩
    · rintro ⟨_, ⟨i, hi, rfl⟩, rfl⟩
      exact ⟨i, hi, rfl⟩
  · rw [hplaces]
    simp only [item_natCast, getElem?_map, Option.map_eq_some_iff]
    constructor
    · rintro ⟨_, ⟨e, he, rfl⟩, h⟩
      rw [item_natCast, hvalue e (mem_of_mem_filter (mem_of_getElem? he))] at h
      exact ⟨e, he, Option.some.inj h⟩
    · rintro ⟨e, he, rfl⟩
      exact ⟨_, ⟨e, he, rfl⟩, item_natCast.2 (hvalue e (mem_of_mem_filter (mem_of_getElem? he)))⟩

end TensorMap

variable (k : Launchable) (b : Bindings)

/-- The positions of the regular parameters, whose arguments tensor maps are encoded from. -/
def Launchable.regularPositions : List Nat := k.regularParams.map Prod.snd

/-- The positions of the arguments that the kernel of a launch takes. -/
def runtimePositions : List Nat :=
  k.regularPositions.filter fun i => !hasConstant (constants k b (knowledge k (allArguments k b))) i

theorem nodup_positions : (k.regularPositions.zipIdx.map Prod.fst).Nodup := by
  rw [zipIdx_map_fst]
  have hsub : k.regularPositions <+ k.params.zipIdx.map Prod.snd := filter_sublist.map _
  rw [zipIdx_map_snd] at hsub
  exact hsub.nodup nodup_range'

/-- Whether the kernel of a launch takes a regular argument, given with its place. -/
def takes (e : Nat × Nat) : Bool :=
  !hasConstant (constants k b (knowledge k (allArguments k b))) e.1

theorem runtimePositions_eq : runtimePositions k b = (k.regularPositions.zipIdx.filter (takes k b)).map Prod.fst := by
  conv_lhs => rw [runtimePositions, ← zipIdx_map_fst 0 k.regularPositions, filter_map]
  rfl

/-- The numbers name the right arguments exactly if the places that are looked up begin with those of these arguments. -/
theorem forall_argumentAt_iff (m : TensorMap) :
    (∀ (value : Nat → Int) (n i : Nat), (runtimePositions k b)[n]? = some i →
      m.argumentAt (k.regularPositions.map value) n = .ok (value i)) ↔
      k.regularPositions.zipIdx.filter (takes k b) <+:
        k.regularPositions.zipIdx.filter fun e => !m.folded.contains (e.2 : Int) := by
  simp only [TensorMap.argumentAt_eq_ok, runtimePositions_eq, getElem?_map, Option.map_eq_some_iff]
  rw [prefix_iff_getElem?]
  constructor
  · intro h n hn
    obtain ⟨e, he, hvalue⟩ := h (fun i => i) n _ ⟨_, getElem?_eq_getElem hn, rfl⟩
    -- positions are different, so the position of an argument gives its place
    have hinj := inj_on_of_nodup_map (nodup_positions k) (mem_of_mem_filter (mem_of_getElem? he))
      (mem_of_mem_filter (getElem_mem hn)) (Int.ofNat.inj hvalue)
    rw [he, hinj]
  · rintro h value n _ ⟨e, he, rfl⟩
    obtain ⟨hn, rfl⟩ := List.getElem?_eq_some_iff.1 he
    exact ⟨_, h n hn, rfl⟩

/-- A tensor map with the folded arguments of a launch finds every argument of the kernel by its number exactly if this holds at
every place of the regular arguments, up to the last one that the kernel takes: the place is listed as folded just if
the kernel does not take the argument there. -/
theorem tensor_map_finds_arguments_iff (k : Launchable) (b : Bindings) (m : TensorMap) :
    (∀ (value : Nat → Int) (n i : Nat), (runtimePositions k b)[n]? = some i →
      { m with folded := (knowledge k (allArguments k b)).idsOfFoldedArgs }.argumentAt (k.regularPositions.map value) n =
        .ok (value i)) ↔
      ∀ e later, e :: later <:+ k.regularPositions.zipIdx → (∃ d ∈ e :: later, d.1 ∈ runtimePositions k b) →
        ((e.2 : Int) ∈ (knowledge k (allArguments k b)).idsOfFoldedArgs ↔ e.1 ∉ runtimePositions k b) := by
  have hmem {d : Nat × Nat} (hd : d ∈ k.regularPositions.zipIdx) : takes k b d ↔ d.1 ∈ runtimePositions k b := by
    rw [runtimePositions, mem_filter, and_iff_right (mem_of_getElem? (mem_zipIdx_iff_getElem?.1 hd))]
    rfl
  rw [forall_argumentAt_iff, filter_prefix_iff (.of_map Prod.fst (nodup_positions k))]
  refine forall₂_congr fun e later => forall_congr' fun hsuffix => imp_congr ?_ ?_
  · exact exists_congr fun d => and_congr_right fun hd => hmem (hsuffix.subset hd)
  · rw [Bool.eq_iff_iff, hmem (hsuffix.subset mem_cons_self)]
    simp only [Bool.not_eq_true', ← Bool.not_eq_true, contains_iff_mem]
    tauto

/-- Behind a constant parameter a number is one and folded. The kernel takes the last number only, but the first one is found. -/
theorem folded_argument_found : let b := behindConstant (.int 64) 1 7
    runtimePositions numbersBehindConstant b = [2] ∧ ∀ m : TensorMap,
      { m with folded := (knowledge numbersBehindConstant (allArguments numbersBehindConstant b)).idsOfFoldedArgs }.argumentAt [1, 7] 0 =
        .ok 1 :=
  ⟨rfl, fun _ => rfl⟩

end TileKernel.Launch
