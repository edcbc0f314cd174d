import Mathlib.Algebra.Order.Ring.Int
import Mathlib.Data.Nat.Bitwise
import Mathlib.Data.Nat.Size
import TileKernel.Lowering.Builtins
import TileKernel.Proofs.Steps

/-! # Powers of two

A number is rounded up to a power of two by filling in the bits below its highest one. Every shift doubles the run of bits that
are filled in below each set bit, so six shifts fill in 64 bits.
-/

namespace TileKernel.Lowering.Builtins

open Steps List

theorem operate_bitOr (m n : Nat) : Methods.operate .bitOr (.int m) (.int n) = .ok (.int (m ||| n : Nat)) := by
  have hlt {k w : Nat} (hw : Binary64.bitLength k ≤ w) : k < 2 ^ (w + 1) := by
    refine lt_of_lt_of_le ?_ (Nat.pow_le_pow_right (by decide) (Nat.succ_le_succ hw))
    unfold Binary64.bitLength
    split
    · simp_all
    · exact Nat.lt_log2_self.trans (Nat.pow_lt_pow_right (by decide) (Nat.lt_succ_self _))
  have hemod {k w : Nat} (h : k < 2 ^ w) : (k : Int).emod (Int.pow 2 w) = k := by
    have hpow : Int.pow 2 w = (2 ^ w : Nat) := by push_cast; rfl
    rw [hpow]
    exact Int.emod_eq_of_lt (by omega) (by omega)
  have hm := hlt (Nat.le_max_left (Binary64.bitLength m) (Binary64.bitLength n))
  have hn := hlt (Nat.le_max_right (Binary64.bitLength m) (Binary64.bitLength n))
  have hbits : Constant.arithInts.bits Nat.lor (fun m n => m || n) m n = (m ||| n : Nat) := by
    simp only [Constant.arithInts.bits, Int.natAbs_natCast, hemod hm, hemod hn, Int.toNat_natCast]
    exact hemod (Nat.or_lt_two_pow hm hn)
  exact congrArg (fun x => Except.ok (Value.int x)) hbits

/-- The bits of `x` are those of `m` and the ones up to `s` places below them. -/
def Filled (s m x : Nat) : Prop := ∀ i, x.testBit i = true ↔ ∃ d < s, m.testBit (i + d) = true

namespace Filled

variable {s m x : Nat}

theorem start (m : Nat) : Filled 1 m m := by
  intro i
  simp

theorem step (h : Filled s m x) : Filled (s + s) m (x ||| x >>> s) := by
  intro i
  rw [Nat.testBit_or, Bool.or_eq_true, Nat.testBit_shiftRight, h, h]
  constructor
  · rintro (⟨d, hd, hbit⟩ | ⟨d, hd, hbit⟩)
    · exact ⟨d, by omega, hbit⟩
    · exact ⟨s + d, by omega, by rwa [← Nat.add_assoc, Nat.add_comm i s]⟩
  · rintro ⟨d, hd, hbit⟩
    by_cases hs : d < s
    · exact .inl ⟨d, hs, hbit⟩
    · exact .inr ⟨d - s, by omega, by rwa [show s + i + (d - s) = i + d by omega]⟩

/-- Where no bit is further than `s` places from the lowest one, all bits below the highest are filled in. -/
theorem eq_of_lt (h : Filled s m x) (hm : m < 2 ^ s) : x = 2 ^ m.size - 1 := by
  refine Nat.eq_of_testBit_eq fun i => ?_
  rw [Nat.testBit_two_pow_sub_one, Bool.eq_iff_iff, decide_eq_true_eq, h, Nat.lt_size]
  constructor
  · rintro ⟨d, -, hbit⟩
    exact (Nat.pow_le_pow_right (by decide) (Nat.le_add_right i d)).trans (Nat.ge_two_pow_of_testBit hbit)
  · intro hi
    obtain ⟨j, hj, hbit⟩ := Nat.exists_ge_and_testBit_of_ge_two_pow hi
    have hlt := (Nat.pow_lt_pow_iff_right Nat.one_lt_two).1 ((Nat.ge_two_pow_of_testBit hbit).trans_lt hm)
    exact ⟨j - i, by omega, by rwa [Nat.add_sub_cancel' hj]⟩

end Filled

/-- Shifts by one power of two after the other. -/
theorem foldlM_filled (k m : Nat) : ∃ x : Nat, (((range k).map fun j => ((2 ^ j : Nat) : Int)).foldlM (fun n (k : Int) => do
    Methods.operate .bitOr n (← Methods.operate .rShift n (.int k))) (.int m) : Result Value) = .ok (.int x) ∧
      Filled (2 ^ k) m x := by
  induction k with
  | zero => exact ⟨m, rfl, .start m⟩
  | succ k ih =>
    obtain ⟨x, hx, hfilled⟩ := ih
    have hshift : Methods.operate .rShift (.int x) (.int (2 ^ k : Nat)) = .ok (.int (x >>> 2 ^ k : Nat)) := rfl
    refine ⟨x ||| x >>> 2 ^ k, ?_, by rw [Nat.pow_succ, Nat.mul_two]; exact hfilled.step⟩
    rw [range_succ, map_append, foldlM_append, hx, ok_bind, map_singleton, foldlM_cons, hshift, ok_bind, operate_bitOr]
    rfl

theorem nextPowerOf2_run {n : Nat} (hn : 0 < n) :
    ∃ x : Nat, nextPowerOf2 (.int n) = .ok (.int (x + 1 : Nat)) ∧ Filled 64 (n - 1) x := by
  obtain ⟨x, hx, hfilled⟩ := foldlM_filled 6 (n - 1)
  have hsub : Methods.operate .sub (.int n) (.int 1) = .ok (.int (n - 1 : Nat)) := by
    rw [Nat.cast_sub hn]
    rfl
  refine ⟨x, ?_, hfilled⟩
  rw [nextPowerOf2, hsub, ok_bind]
  exact (congrArg (· >>= _) hx).trans rfl

/-- A number of up to 64 bits is rounded up to the least power of two that is not below it. -/
theorem nextPowerOf2_least {n : Int} (hpos : 1 ≤ n) (hn : n ≤ 2 ^ 64) :
    ∃ k : Nat, nextPowerOf2 (.int n) = .ok (.int (2 ^ k)) ∧ n ≤ 2 ^ k ∧ ∀ j : Nat, n ≤ 2 ^ j → (2 ^ k : Int) ≤ 2 ^ j := by
  obtain ⟨n, rfl⟩ := Int.eq_ofNat_of_zero_le (by omega : 0 ≤ n)
  obtain ⟨x, hx, hfilled⟩ := nextPowerOf2_run (n := n) (by omega)
  have hsize := hfilled.eq_of_lt (by omega)
  have hself := Nat.lt_size_self (n - 1)
  refine ⟨(n - 1).size, ?_, by exact_mod_cast (by omega : n ≤ 2 ^ (n - 1).size), fun j hj => ?_⟩
  · rw [hx, hsize, Nat.sub_add_cancel Nat.one_le_two_pow, Nat.cast_pow]
    rfl
  · have hlt : n - 1 < 2 ^ j := by
      have hle : n ≤ 2 ^ j := by exact_mod_cast hj
      omega
    exact_mod_cast Nat.pow_le_pow_right (by decide) (Nat.size_le.2 hlt)

/-- The greatest number of 64 bits. -/
theorem nextPowerOf2_of_greatest : (1 : Int) ≤ 18446744073709551615 ∧ (18446744073709551615 : Int) ≤ 2 ^ 64 ∧
    ∃ k : Nat, nextPowerOf2 (.int 18446744073709551615) = .ok (.int (2 ^ k)) ∧ 64 ≤ k := by
  obtain ⟨k, hk, hle, -⟩ := nextPowerOf2_least (n := 18446744073709551615) (by decide) (by decide)
  refine ⟨by decide, by decide, k, hk, ?_⟩
  by_contra hlt
  have hpow : (2 ^ k : Int) ≤ 2 ^ 63 := pow_le_pow_right₀ (by decide) (by omega)
  omega

end TileKernel.Lowering.Builtins
