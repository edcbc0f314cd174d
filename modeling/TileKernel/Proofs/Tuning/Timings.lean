import Mathlib.Algebra.Order.Ring.Int
import Mathlib.Data.List.Induction
import TileKernel.Tuning

/-! # The order of timings

Numbers are compared by where they stand; a number that is not comparable with itself is neither smaller nor equal. Timings are
compared in lexicographic order. The best of several is the first of those that no other one is better than.
-/

namespace TileKernel

namespace Lowering.Constant

variable {a b c : Number}

theorem compareNumbers_eq (a b : Number) : compareNumbers a b =
    a.place?.bind fun p => b.place?.map fun q => (compare p.1 q.1).then (compare p.2 q.2) := by
  have hgeneral (x y : Option (Int × Int)) : (do
      let p ← x
      let q ← y
      return (compare p.1 q.1).then (compare p.2 q.2) : Option Ordering) =
        x.bind fun p => y.map fun q => (compare p.1 q.1).then (compare p.2 q.2) := by
    cases x <;> cases y <;> rfl
  cases a with
  | float x => exact hgeneral _ _
  | int m =>
    cases b with
    | float y => exact hgeneral _ _
    | int n =>
      have hpos : 0 < Nat.pow 2 Binary64.unitPlaces := Nat.two_pow_pos _
      have hcompare : compare (m * Nat.pow 2 Binary64.unitPlaces) (n * Nat.pow 2 Binary64.unitPlaces) = compare m n := by
        generalize Nat.pow 2 Binary64.unitPlaces = k at hpos
        simp [compare, compareOfLessAndEq, hpos, hpos.ne']
      rw [compareNumbers, ← hcompare]
      rfl

theorem compareNumbers_eq_lt : compareNumbers a b = some .lt ↔
    ∃ p q, a.place? = some p ∧ b.place? = some q ∧ (p.1 < q.1 ∨ p.1 = q.1 ∧ p.2 < q.2) := by
  rw [compareNumbers_eq]
  cases a.place? <;> cases b.place? <;> simp [Ordering.then_eq_lt, compare_lt_iff_lt]

theorem compareNumbers_eq_eq : compareNumbers a b = some .eq ↔ ∃ p, a.place? = some p ∧ b.place? = some p := by
  rw [compareNumbers_eq]
  cases a.place? <;> cases b.place? <;> simp [Ordering.then_eq_eq, Prod.ext_iff, @eq_comm Int]

theorem compareNumbers_trans (hab : compareNumbers a b = some .lt) (hbc : compareNumbers b c = some .lt) :
    compareNumbers a c = some .lt := by
  rw [compareNumbers_eq_lt] at *
  obtain ⟨p, q, hp, hq, hpq⟩ := hab
  obtain ⟨q', r, hq', hr, hqr⟩ := hbc
  obtain rfl := Option.some.inj (hq.symm.trans hq')
  exact ⟨p, r, hp, hr, by omega⟩

theorem compareNumbers_congr (h : compareNumbers a b = some .eq) :
    compareNumbers a c = compareNumbers b c ∧ compareNumbers c a = compareNumbers c b := by
  obtain ⟨p, ha, hb⟩ := compareNumbers_eq_eq.1 h
  simp only [compareNumbers_eq, ha, hb, and_self]

end Lowering.Constant

namespace Tuning

open Lowering Constant

namespace Timing

/-- As good as another: equal in every place. -/
def ties : Timing → Timing → Bool
  | [], [] => true
  | a :: as, b :: bs => Constant.compareNumbers a b == some .eq && ties as bs
  | _, _ => false

variable {x y z : Timing}

theorem better_cons {a b : Number} : better (a :: x) (b :: y) ↔
    compareNumbers a b = some .lt ∨ compareNumbers a b = some .eq ∧ x.better y := by
  rw [better]
  split <;> simp_all

theorem better_trans (hxy : x.better y) (hyz : y.better z) : x.better z := by
  induction x generalizing y z with
  | nil => cases y <;> cases z <;> simp_all [better]
  | cons a x ih =>
    obtain _ | ⟨b, y⟩ := y
    · cases hxy
    obtain _ | ⟨c, z⟩ := z
    · cases hyz
    rw [better_cons] at *
    rcases hxy with hab | ⟨hab, hxy⟩
    · rcases hyz with hbc | ⟨hbc, -⟩
      · exact .inl (compareNumbers_trans hab hbc)
      · exact .inl ((compareNumbers_congr hbc).2 ▸ hab)
    · rw [(compareNumbers_congr hab).1]
      exact hyz.imp_right fun h => ⟨h.1, ih hxy h.2⟩

theorem ties_better (hxy : x.ties y) (hyz : y.better z) : x.better z := by
  induction x generalizing y z with
  | nil => cases y <;> simp_all [ties]
  | cons a x ih =>
    obtain _ | ⟨b, y⟩ := y
    · cases hxy
    obtain _ | ⟨c, z⟩ := z
    · cases hyz
    rw [ties, Bool.and_eq_true, beq_iff_eq] at hxy
    rw [better_cons, (compareNumbers_congr hxy.1).1]
    exact (better_cons.1 hyz).imp_right fun h => ⟨h.1, ih hxy.2 h.2⟩

theorem better_irrefl (x : Timing) : x.better x = false := by
  induction x with
  | nil => rfl
  | cons a x ih =>
    rw [Bool.eq_false_iff, Ne, better_cons, ih]
    rintro (h | ⟨-, h⟩)
    · obtain ⟨p, q, hp, hq, hlt⟩ := compareNumbers_eq_lt.1 h
      obtain rfl := Option.some.inj (hp.symm.trans hq)
      omega
    · cases h

end Timing

namespace Tuner

variable {es : List (Nat × Timing)}

theorem bestOf_eq_none (h : bestOf es = none) : es = [] := by
  cases es <;> simp [bestOf] at h ⊢

theorem bestOf_concat (es : List (Nat × Timing)) (e : Nat × Timing) : bestOf (es ++ [e]) = some (match bestOf es with
      | none => e
      | some b => if e.2.better b.2 then e else b) := by
  cases es <;> simp [bestOf]

theorem bestOf_spec {b : Nat × Timing} (h : bestOf es = some b) : ∃ before later,
    es = before ++ b :: later ∧ (∀ e ∈ es, e.2.better b.2 = false) ∧ ∀ e ∈ before, e.2.ties b.2 = false := by
  induction es using List.reverseRecOn generalizing b with
  | nil => cases h
  | append_singleton es e ih =>
    obtain rfl := Option.some.inj ((bestOf_concat es e).symm.trans h)
    cases hes : bestOf es with
    | none =>
      obtain rfl := bestOf_eq_none hes
      exact ⟨[], [], rfl, by simp [Timing.better_irrefl], by simp⟩
    | some c =>
      obtain ⟨before, later, heq, hbest, hfirst⟩ := ih hes
      dsimp only
      split
      case isTrue he =>
        refine ⟨es, [], rfl, ?_, fun d hd => ?_⟩
        · intro d hd
          rw [Bool.eq_false_iff]
          intro hde
          rcases List.mem_append.1 hd with hd | hd
          · exact Bool.eq_false_iff.1 (hbest d hd) (Timing.better_trans hde he)
          · rw [List.mem_singleton.1 hd, Timing.better_irrefl] at hde
            cases hde
        · rw [Bool.eq_false_iff]
          intro hde
          exact Bool.eq_false_iff.1 (hbest d hd) (Timing.ties_better hde he)
      case isFalse he =>
        refine ⟨before, later ++ [e], by simp [heq], fun d hd => ?_, hfirst⟩
        rcases List.mem_append.1 hd with hd | hd
        · exact hbest d hd
        · exact List.mem_singleton.1 hd ▸ Bool.eq_false_iff.2 he

end Tuner

end Tuning

end TileKernel
