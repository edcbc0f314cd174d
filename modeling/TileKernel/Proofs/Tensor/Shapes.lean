import TileKernel.Tensor.Arith
import TileKernel.Proofs.Steps
import Mathlib.Data.List.GetD
import Mathlib.Data.Finset.Max
import Mathlib.Algebra.BigOperators.Group.Finset.Piecewise
import Mathlib.Algebra.Order.BigOperators.Ring.Finset
import Mathlib.Algebra.Order.Ring.Int

/-! # Shapes that are broadcast together

Shapes are compared axis by axis from the right, and an axis that a shape lacks has size 1. `Joins` says which shape any number
of shapes have together. There is at most one, whatever their order, and it can be found two shapes at a time; `commonShape`
does this for two. -/

namespace TileKernel

namespace Shape

open List

/-- The size of a shape along its `i`-th axis, counted from the right. An axis that the shape lacks has size 1. -/
def size (shape : List Int) (i : Nat) : Int := shape.reverse.getD i 1

/-- The shape to which shapes are broadcast together: along each axis they have its size or size 1, and neither its rank nor
any of its sizes is without need. -/
structure Joins (shapes : List (List Int)) (joint : List Int) : Prop where
  length_le : ∀ s ∈ shapes, s.length ≤ joint.length
  exists_length : ∃ s ∈ shapes, s.length = joint.length
  size_eq : ∀ s ∈ shapes, ∀ i, size s i = 1 ∨ size s i = size joint i
  exists_size : ∀ i, ∃ s ∈ shapes, size s i = size joint i

variable {s t u v : List Int} {shapes : List (List Int)} {w : List Int}

theorem size_of_length_le {i : Nat} (h : s.length ≤ i) : size s i = 1 :=
  getD_eq_default _ _ (by simpa using h)

theorem size_cons (d : Int) (s : List Int) (i : Nat) : size (d :: s) i = if i = s.length then d else size s i := by
  unfold size
  rw [reverse_cons]
  rcases Nat.lt_trichotomy i s.length with hi | rfl | hi
  · rw [getD_append _ _ _ _ (by simpa using hi), if_neg (Nat.ne_of_lt hi)]
  · rw [getD_append_right _ _ _ _ (by simp)]
    simp
  · rw [if_neg (Nat.ne_of_gt hi), getD_eq_default _ _ (by simp; omega), getD_eq_default _ _ (by simp; omega)]

theorem size_ones_append (n : Nat) (s : List Int) (i : Nat) : size (List.replicate n 1 ++ s) i = size s i := by
  induction n with
  | zero => rfl
  | succ n ih =>
    rw [replicate_succ, cons_append, size_cons, ih]
    split
    · exact (size_of_length_le (by simp_all)).symm
    · rfl

theorem eq_of_size (hlength : s.length = t.length) (h : ∀ i, size s i = size t i) : s = t := by
  induction s generalizing t with
  | nil => exact (eq_nil_of_length_eq_zero hlength.symm).symm
  | cons d s ih =>
    obtain _ | ⟨e, t⟩ := t
    · cases hlength
    · have hlength : s.length = t.length := Nat.succ.inj hlength
      have hhead : d = e := by simpa [size_cons, hlength] using h t.length
      refine congrArg₂ _ hhead (ih hlength fun i => ?_)
      by_cases hi : i = t.length
      · rw [size_of_length_le (hlength ▸ Nat.le_of_eq hi.symm), size_of_length_le (Nat.le_of_eq hi.symm)]
      · simpa [size_cons, hlength, hi] using h i

namespace Joins

theorem unique (h : Joins shapes u) (h' : Joins shapes v) : u = v := by
  have hle {u v : List Int} (h : Joins shapes u) (h' : Joins shapes v) : u.length ≤ v.length := by
    obtain ⟨s, hs, hlength⟩ := h.exists_length
    exact hlength ▸ h'.length_le s hs
  refine eq_of_size (Nat.le_antisymm (hle h h') (hle h' h)) fun i => ?_
  obtain ⟨s, hs, hsu⟩ := h.exists_size i
  obtain ⟨t, ht, htv⟩ := h'.exists_size i
  have hsv := h'.size_eq s hs i
  have htu := h.size_eq t ht i
  omega

variable {shapes' : List (List Int)}

theorem congr (hmem : ∀ s, s ∈ shapes ↔ s ∈ shapes') (h : Joins shapes u) : Joins shapes' u := by
  obtain ⟨hle, hlength, hsize, hsize'⟩ := h
  simp only [hmem] at hle hlength hsize hsize'
  exact ⟨hle, hlength, hsize, hsize'⟩

theorem perm (hperm : shapes.Perm shapes') (h : Joins shapes u) : Joins shapes' u :=
  h.congr fun _ => hperm.mem_iff

theorem perm_iff (hperm : shapes.Perm shapes') : Joins shapes u ↔ Joins shapes' u :=
  ⟨perm hperm, perm hperm.symm⟩

theorem pair_iff : Joins [s, t] u ↔ max s.length t.length = u.length ∧ ∀ i, (size s i = 1 ∨ size s i = size u i) ∧
    (size t i = 1 ∨ size t i = size u i) ∧ (size s i = size u i ∨ size t i = size u i) := by
  have hmem (p : List Int → Prop) : (∀ x ∈ [s, t], p x) ↔ p s ∧ p t := by simp
  have hmem' (p : List Int → Prop) : (∃ x ∈ [s, t], p x) ↔ p s ∨ p t := by simp
  constructor
  · rintro ⟨hle, hlength, hsize, hsize'⟩
    simp only [hmem, hmem'] at hle hlength hsize hsize'
    exact ⟨by omega, fun i => ⟨hsize.1 i, hsize.2 i, hsize' i⟩⟩
  · rintro ⟨hlength, h⟩
    refine ⟨(hmem _).2 (by omega), (hmem' _).2 (by omega), (hmem _).2 ?_, fun i => (hmem' _).2 (h i).2.2⟩
    exact ⟨fun i => (h i).1, fun i => (h i).2.1⟩

theorem cons_iff {d e f : Int} (hlength : s.length = t.length) : Joins [d :: s, e :: t] (f :: u) ↔
    ((d = 1 ∨ d = f) ∧ (e = 1 ∨ e = f) ∧ (d = f ∨ e = f)) ∧ Joins [s, t] u := by
  rw [pair_iff, pair_iff]
  simp only [length_cons, hlength, Nat.max_self, Nat.succ.injEq]
  constructor
  · rintro ⟨hu, h⟩
    refine ⟨by simpa [size_cons, hlength, hu] using h t.length, hu, fun i => ?_⟩
    by_cases hi : i = t.length
    · rw [size_of_length_le (s := s) (by omega), size_of_length_le (s := t) (by omega),
        size_of_length_le (s := u) (by omega)]
      omega
    · simpa [size_cons, hlength, ← hu, hi] using h i
  · rintro ⟨hhead, hu, h⟩
    refine ⟨hu, fun i => ?_⟩
    by_cases hi : i = t.length
    · simpa [size_cons, hlength, ← hu, hi] using hhead
    · simpa [size_cons, hlength, ← hu, hi] using h i

theorem ones_iff (m n : Nat) (hlength : max (m + s.length) (n + t.length) = max s.length t.length) :
    Joins [List.replicate m 1 ++ s, List.replicate n 1 ++ t] u ↔ Joins [s, t] u := by
  simp only [pair_iff, size_ones_append, length_append, length_replicate, hlength]

theorem nil_right_iff : Joins [s, []] u ↔ u = s := by
  have hself : Joins [s, []] s :=
    pair_iff.2 ⟨Nat.max_zero _, fun i => ⟨.inr rfl, .inl (size_of_length_le i.zero_le), .inl rfl⟩⟩
  exact ⟨fun h => h.unique hself, fun h => h ▸ hself⟩

theorem nil_left_iff : Joins [[], s] u ↔ u = s := by
  rw [← nil_right_iff, perm_iff (.swap _ _ _)]

end Joins

theorem commonShape_eq_ok_iff (k : Nat) (hlength : s.length = t.length) : Tensor.commonShape k s t = .ok u ↔ Joins [s, t] u := by
  induction s generalizing k t u with
  | nil =>
    obtain rfl := eq_nil_of_length_eq_zero hlength.symm
    rw [Joins.nil_right_iff, Tensor.commonShape, Except.ok.injEq, eq_comm]
    rintro _ _ _ _ ⟨⟩
  | cons d s ih =>
    obtain _ | ⟨e, t⟩ := t
    · cases hlength
    have hlength : s.length = t.length := Nat.succ.inj hlength
    unfold Tensor.commonShape
    obtain _ | ⟨f, u⟩ := u
    · have hnil : ¬ Joins [d :: s, e :: t] [] := fun h => Nat.not_succ_le_zero _ (h.length_le _ (.head _))
      split
      · simp [hnil, Steps.map_eq_ok]
      · split <;> simp [hnil, Steps.map_eq_ok]
    · rw [Joins.cons_iff hlength, ← ih (k + 1) hlength]
      generalize Tensor.commonShape (k + 1) s t = tail
      split
      · simp only [Steps.map_eq_ok, cons.injEq]
        grind
      · split
        · simp only [Steps.map_eq_ok, cons.injEq]
          grind
        · simp only [reduceCtorEq, false_iff]
          omega

namespace Joins

theorem cons_iff_of_joins (h : Joins shapes u) : Joins (s :: shapes) v ↔ Joins [s, u] v := by
  obtain ⟨x, hx, hxu⟩ := h.exists_length
  rw [pair_iff]
  constructor
  · intro h'
    obtain ⟨y, hy, hyv⟩ := h'.exists_length
    have hsv := h'.length_le s (.head _)
    have hxv := h'.length_le x (.tail _ hx)
    have hyu : y = s ∨ y.length ≤ u.length := (mem_cons.1 hy).imp_right (h.length_le y)
    refine ⟨by rcases hyu with rfl | hyu <;> omega, fun i => ?_⟩
    obtain ⟨x, hx, hxu⟩ := h.exists_size i
    obtain ⟨y, hy, hyv⟩ := h'.exists_size i
    have hsv := h'.size_eq s (.head _) i
    have hxv := h'.size_eq x (.tail _ hx) i
    rcases mem_cons.1 hy with rfl | hy
    · omega
    · have hyu := h.size_eq y hy i
      omega
  · rintro ⟨hlength, hsize⟩
    refine ⟨forall_mem_cons.2 ⟨by omega, fun y hy => ?_⟩, ?_,
      forall_mem_cons.2 ⟨fun i => (hsize i).1, ?_⟩, fun i => ?_⟩
    · exact Nat.le_trans (h.length_le y hy) (by omega)
    · by_cases hs : s.length = v.length
      · exact ⟨s, .head _, hs⟩
      · exact ⟨x, .tail _ hx, by omega⟩
    · intro y hy i
      have hyu := h.size_eq y hy i
      have hiv := hsize i
      omega
    · rcases (hsize i).2.2 with hs | hu
      · exact ⟨s, .head _, hs⟩
      · obtain ⟨y, hy, hyu⟩ := h.exists_size i
        exact ⟨y, .tail _ hy, hyu.trans hu⟩

theorem singleton (s : List Int) : Joins [s] s := by
  refine ⟨?_, ⟨s, .head _, rfl⟩, ?_, fun i => ⟨s, .head _, rfl⟩⟩
  · simp
  · simp

end Joins

theorem exists_joins {g : Nat → Int} (hne : shapes ≠ []) (h : ∀ s ∈ shapes, ∀ i, size s i = 1 ∨ size s i = g i) :
    ∃ u, Joins shapes u := by
  classical
  obtain ⟨t, ht, hlongest⟩ : ∃ t ∈ shapes, ∀ s ∈ shapes, s.length ≤ t.length := by
    simpa using Finset.exists_max_image shapes.toFinset length (by simpa using hne)
  let f (i : Nat) : Int := if ∃ s ∈ shapes, size s i ≠ 1 then g i else 1
  have hsize (i : Nat) : size ((range t.length).map f).reverse i = f i := by
    by_cases hi : i < t.length
    · simp [size, hi]
    · have hnone : ¬ ∃ s ∈ shapes, size s i ≠ 1 := by
        rintro ⟨s, hs, hne⟩
        exact hne (size_of_length_le (by have := hlongest s hs; omega))
      rw [show f i = 1 from if_neg hnone]
      exact size_of_length_le (by simpa using hi)
  refine ⟨((range t.length).map f).reverse, by simpa using hlongest, ⟨t, ht, by simp⟩, fun s hs i => ?_, fun i => ?_⟩
  · by_cases hone : size s i = 1
    · exact .inl hone
    · rw [hsize, show f i = g i from if_pos ⟨s, hs, hone⟩]
      exact h s hs i
  · rw [hsize]
    by_cases hsome : ∃ s ∈ shapes, size s i ≠ 1
    · obtain ⟨s, hs, hone⟩ := hsome
      exact ⟨s, hs, (h s hs i).resolve_left hone |>.trans (if_pos ⟨s, hs, hone⟩).symm⟩
    · refine ⟨t, ht, ?_⟩
      rw [show f i = 1 from if_neg hsome]
      by_contra hone
      exact hsome ⟨t, ht, hone⟩

theorem exists_joins_pair (h : ∀ i, size s i = size t i ∨ size s i = 1 ∨ size t i = 1) : ∃ u, Joins [s, t] u := by
  refine exists_joins (g := fun i => if size s i = 1 then size t i else size s i) (by simp) ?_
  simp only [forall_mem_cons, not_mem_nil, false_implies, implies_true, and_true]
  refine ⟨fun i => ?_, fun i => ?_⟩ <;> have hi := h i <;> split <;> omega

theorem Joins.exists_tail (h : Joins (s :: shapes) v) (hne : shapes ≠ []) : ∃ u, Joins shapes u ∧ Joins [s, u] v := by
  obtain ⟨u, hu⟩ := exists_joins hne fun t ht => h.size_eq t (.tail _ ht)
  exact ⟨u, hu, (cons_iff_of_joins hu).1 h⟩

theorem Joins.triple_iff (h : Joins [s, t] u) : Joins [s, t, v] w ↔ Joins [u, v] w := by
  have hperm : [s, t, v].Perm [v, s, t] := @List.perm_append_comm _ [s, t] [v]
  rw [perm_iff hperm, perm_iff (.swap v u []), cons_iff_of_joins h]

theorem Joins.absorb (h : Joins shapes v) (hs : s ∈ shapes) : Joins [s, v] u ↔ u = v := by
  have hself : Joins [s, v] v := by
    refine pair_iff.2 ⟨Nat.max_eq_right (h.length_le s hs), fun i => ⟨h.size_eq s hs i, .inr rfl, .inr rfl⟩⟩
  exact ⟨fun h => h.unique hself, fun h => h ▸ hself⟩

theorem Joins.settle (h : Joins [s, t] u) (h' : Joins [s, u] v) (h'' : Joins [v, u] w) : v = u ∧ w = u := by
  obtain rfl := (h.absorb (.head _)).1 h'
  exact ⟨rfl, ((singleton v).absorb (.head _)).1 h''⟩

theorem elements_cons (d : Int) (s : List Int) : Ty.elements (d :: s) = d * Ty.elements s := by
  have hprod (s : List Int) : Ty.elements s = s.prod := prod_eq_foldl.symm
  rw [hprod, hprod, prod_cons]

theorem elements_eq_prod {n : Nat} (h : s.length ≤ n) : Ty.elements s = ∏ i ∈ Finset.range n, size s i := by
  induction s with
  | nil => simp [size, Ty.elements]
  | cons d s ih =>
    have hsize (i : Nat) : size (d :: s) i = (if i = s.length then d else 1) * size s i := by
      rw [size_cons]
      split
      · rw [size_of_length_le (by omega), Int.mul_one]
      · rw [Int.one_mul]
    rw [elements_cons, ih (Nat.le_of_succ_le h), Finset.prod_congr rfl fun i _ => hsize i, Finset.prod_mul_distrib,
      Finset.prod_ite_eq', if_pos (Finset.mem_range.2 h)]

theorem elements_ones_append (n : Nat) (s : List Int) : Ty.elements (List.replicate n 1 ++ s) = Ty.elements s := by
  induction n with
  | zero => rfl
  | succ n ih => rw [replicate_succ, cons_append, elements_cons, Int.one_mul, ih]

/-- The shapes can be broadcast together, to a block that is not too large. -/
def Fits (shapes : List (List Int)) : Prop := ∃ joint, Joins shapes joint ∧ Ty.elements joint ≤ Ty.maxElements

theorem size_pos (h : ∀ d ∈ s, 0 < d) (i : Nat) : 0 < size s i := by
  unfold size
  rw [getD_eq_getElem?_getD]
  cases hd : s.reverse[i]? with
  | none => exact Int.one_pos
  | some d => exact h d (mem_reverse.1 (mem_of_getElem? hd))

theorem elements_le (hlength : u.length ≤ v.length) (hsize : ∀ i, size u i = 1 ∨ size u i = size v i)
    (hpos : ∀ i, 0 < size v i) : Ty.elements u ≤ Ty.elements v := by
  rw [elements_eq_prod hlength, elements_eq_prod (Nat.le_refl _)]
  have hi (i : Nat) : 0 ≤ size u i ∧ size u i ≤ size v i := by
    have hpos := hpos i
    have hsize := hsize i
    omega
  exact Finset.prod_le_prod (fun i _ => (hi i).1) fun i _ => (hi i).2

theorem Fits.congr {shapes' : List (List Int)} (hmem : ∀ s, s ∈ shapes ↔ s ∈ shapes') (h : Fits shapes) : Fits shapes' := by
  obtain ⟨joint, hjoins, hsmall⟩ := h
  exact ⟨joint, hjoins.congr hmem, hsmall⟩

theorem Fits.tail (h : Fits (s :: shapes)) (hne : shapes ≠ []) (hpos : ∀ t ∈ s :: shapes, ∀ d ∈ t, 0 < d) : Fits shapes := by
  obtain ⟨v, hv, hsmall⟩ := h
  obtain ⟨u, hu, huv⟩ := hv.exists_tail hne
  have hle : Ty.elements u ≤ Ty.elements v := by
    refine elements_le (huv.length_le u (.tail _ (.head _))) (huv.size_eq u (.tail _ (.head _))) fun i => ?_
    obtain ⟨t, ht, heq⟩ := hv.exists_size i
    exact heq ▸ size_pos (hpos t ht) i
  exact ⟨u, hu, Int.le_trans hle hsmall⟩

theorem Fits.of_append {front : List (List Int)} (h : Fits (front ++ shapes)) (hne : shapes ≠ [])
    (hpos : ∀ t ∈ front ++ shapes, ∀ d ∈ t, 0 < d) : Fits shapes := by
  induction front with
  | nil => exact h
  | cons s front ih => exact ih (h.tail (by simp [hne]) hpos) fun t ht => hpos t (.tail _ ht)

end Shape
end TileKernel
