import Mathlib.Tactic
import TileKernel.Number

/-! # Texts of numbers

The digits that are written for a number are read as the number. The layouts, positional and scientific, are told by their
characters, and a positional text writes the digits it is made of.
-/

namespace TileKernel.Binary64

/-! ## The fields of a word -/

theorem fractionField_eq (x : Binary64) : x.fractionField = x.bits.toNat % 2 ^ 52 := by
  rw [fractionField, UInt64.toNat_and]
  exact Nat.and_two_pow_sub_one_eq_mod _ 52

theorem exponentField_eq (x : Binary64) : x.exponentField = x.bits.toNat / 2 ^ 52 % 2 ^ 11 := by
  rw [exponentField, UInt64.toNat_and, UInt64.toNat_shiftRight, Nat.shiftRight_eq_div_pow]
  exact Nat.and_two_pow_sub_one_eq_mod _ 11

theorem negative_eq (x : Binary64) : x.negative = decide (2 ^ 63 ≤ x.bits.toNat) := by
  have hlt : x.bits.toNat < 2 ^ 64 := x.bits.toNat_lt
  have hshift : (x.bits >>> 63).toNat = x.bits.toNat / 2 ^ 63 := by
    rw [UInt64.toNat_shiftRight, Nat.shiftRight_eq_div_pow]
    rfl
  rw [negative, Bool.eq_iff_iff, beq_iff_eq, decide_eq_true_iff, ← UInt64.toNat_inj, hshift]
  have : UInt64.toNat 1 = 1 := rfl
  omega

theorem bits_abs (x : Binary64) : x.abs.bits.toNat = x.bits.toNat % 2 ^ 63 := by
  rw [abs, UInt64.toNat_and]
  exact Nat.and_two_pow_sub_one_eq_mod _ 63

@[simp] theorem fractionField_abs (x : Binary64) : x.abs.fractionField = x.fractionField := by
  rw [fractionField_eq, fractionField_eq, bits_abs]
  omega

@[simp] theorem exponentField_abs (x : Binary64) : x.abs.exponentField = x.exponentField := by
  rw [exponentField_eq, exponentField_eq, bits_abs]
  omega

variable {x y : Binary64}

theorem eq_of_fields (hs : x.negative = y.negative) (he : x.exponentField = y.exponentField)
    (hf : x.fractionField = y.fractionField) : x = y := by
  have hx : x.bits.toNat < 2 ^ 64 := x.bits.toNat_lt
  have hy : y.bits.toNat < 2 ^ 64 := y.bits.toNat_lt
  rw [negative_eq, negative_eq, Bool.eq_iff_iff, decide_eq_true_iff, decide_eq_true_iff] at hs
  rw [exponentField_eq, exponentField_eq] at he
  rw [fractionField_eq, fractionField_eq] at hf
  have hbits : x.bits.toNat = y.bits.toNat := by omega
  cases x
  cases y
  exact congrArg Binary64.mk (UInt64.toNat_inj.1 hbits)

/-! ## Rounding of quotients -/

theorem roundDiv_mul (n d : Nat) {c : Nat} (hc : 0 < c) : roundDiv (n * c) (d * c) = roundDiv n d := by
  have hlt (a b : Nat) : a * c < b * c ↔ a < b := Nat.mul_lt_mul_right hc
  simp only [roundDiv, Nat.mul_div_mul_right n d hc, Nat.mul_mod_mul_right, ← Nat.mul_assoc, gt_iff_lt, hlt]

theorem ofPositiveRatio?_mul (n d : Nat) {c : Nat} (hc : 0 < c) : ofPositiveRatio? (n * c) (d * c) = ofPositiveRatio? n d := by
  simp only [ofPositiveRatio?, Nat.mul_right_comm n c, Nat.mul_right_comm d c, Nat.mul_div_mul_right _ d hc, roundDiv_mul _ _ hc]

/-- Zeros behind the last digit may be written out, and one more behind the point. -/
theorem ofDecimal_zeros (m : Nat) {z : Nat} (hz : z ≤ 400) : ofDecimal (m * 10 ^ (z + 1)) (-1) = ofDecimal m z := by
  by_cases hm : m = 0
  · simp [ofDecimal, hm]
  have hzero : m * 10 ^ (z + 1) ≠ 0 := Nat.mul_ne_zero hm (Nat.pow_pos (by norm_num)).ne'
  have hratio : ofRatio? ((m * 10 ^ (z + 1) : Nat) : Int) 10 = ofRatio? ((m * 10 ^ z : Nat) : Int) 1 := by
    have hwiden := ofPositiveRatio?_mul (m * 10 ^ z) 1 (show 0 < 10 by norm_num)
    rw [ofRatio?, ofRatio?, Int.natAbs_natCast, Int.natAbs_natCast, pow_succ, ← Nat.mul_assoc, hwiden]
    simp only [Int.not_ofNat_neg]
  rw [ofDecimal, ofDecimal, if_neg (by simpa using hzero), if_neg (by norm_num), if_neg (by norm_num), if_neg (by norm_num),
    if_neg (by simpa using hm), if_neg (by omega), if_neg (by omega), if_pos (by omega)]
  exact congrArg (Option.getD · infinity) hratio

/-! ## The digits that are written -/

theorem significand_lt (x : Binary64) : x.significand < 2 ^ 53 := by
  rw [significand, fractionField_eq, Nat.pow_eq]
  split <;> omega

theorem exponentField_le (x : Binary64) : x.exponentField ≤ 0x7ff := by
  rw [exponentField_eq]
  omega

attribute [local irreducible] unitPlaces in
theorem isProper_allDigits (x : Binary64) : x.allDigits.IsProper := by
  have hexponent := x.exponentField_le
  have hunits : x.units < 2 ^ (1025 + unitPlaces) :=
    calc x.units < 2 ^ 53 * 2 ^ (x.exponentField - 1) := Nat.mul_lt_mul_of_pos_right x.significand_lt (Nat.two_pow_pos _)
      _ = 2 ^ (53 + (x.exponentField - 1)) := (pow_add 2 53 _).symm
      _ ≤ 2 ^ (1025 + unitPlaces) := Nat.pow_le_pow_right (by norm_num) (by unfold unitPlaces; omega)
  have hten (k : Nat) : 2 ^ k * 5 ^ k = 10 ^ k := (mul_pow 2 5 k).symm
  refine ⟨show 0 < 1025 + unitPlaces by omega, ?_⟩
  calc x.units * 5 ^ unitPlaces < 2 ^ (1025 + unitPlaces) * 5 ^ (1025 + unitPlaces) :=
        Nat.mul_lt_mul_of_lt_of_le hunits (Nat.pow_le_pow_right (by norm_num) (by omega)) (Nat.pow_pos (by norm_num))
    _ = 10 ^ (1025 + unitPlaces) := hten _

/-- The digits that are written are proper, and read as the number if all of its digits are. -/
theorem shortestDigits_spec (x : Binary64) : x.shortestDigits.IsProper ∧ (x.allDigits.read = x → x.shortestDigits.read = x) := by
  unfold shortestDigits
  simp only
  generalize (List.range 17).flatMap _ = candidates
  cases h : candidates.find? _ with
  | none => exact ⟨x.isProper_allDigits, id⟩
  | some d =>
    obtain ⟨hproper, hread⟩ : d.IsProper ∧ d.read = x := by simpa only [decide_eq_true_eq] using List.find?_some h
    exact ⟨hproper, fun _ => hread⟩

end TileKernel.Binary64

namespace TileKernel.DecimalDigits

open List

/-! ## Layouts read back -/

-- decided along the list: `Char` is finite, and a search over all of its characters would be found first
instance decidableForallChars (cs : List Char) (p : Char → Prop) [DecidablePred p] : Decidable (∀ c ∈ cs, p c) :=
  List.decidableBAll p cs

def readDigits (cs : List Char) : Nat := Nat.ofDigitChars 10 cs 0

def AllDigits (cs : List Char) : Prop := ∀ c ∈ cs, c.isDigit = true

variable {c : Char} {cs : List Char} (n : Nat) {ds : List Char}

theorem of_isDigit {p : Char → Prop} (hp : ∀ c ∈ "0123456789".toList, p c) (h : c.isDigit) : p c := by
  simp only [Char.isDigit, Bool.and_eq_true, decide_eq_true_eq, UInt32.le_iff_toNat_le, ge_iff_le] at h
  change 48 ≤ c.toNat ∧ c.toNat ≤ 57 at h
  have hmem : ∀ n ∈ range' 48 10, Char.ofNat n ∈ "0123456789".toList := by decide
  rw [← Char.ofNat_toNat c]
  exact hp _ (hmem c.toNat (mem_range'_1.2 (by omega)))

theorem AllDigits.append (hc : AllDigits cs) (hd : AllDigits ds) : AllDigits (cs ++ ds) := by
  intro c h
  rcases mem_append.1 h with h | h
  · exact hc c h
  · exact hd c h

theorem allDigits_replicate : AllDigits (List.replicate n '0') := by
  intro c h
  rw [(mem_replicate.1 h).2]
  rfl

theorem allDigits_toString : AllDigits (toString n).toList := by
  intro c h
  rw [Nat.toString_eq_repr, Nat.toList_repr] at h
  exact Nat.isDigit_of_mem_toDigits (by decide) (by decide) h

theorem readDigits_toString : readDigits (toString n).toList = n := by
  rw [readDigits, Nat.toString_eq_repr, Nat.toList_repr, Nat.ofDigitChars_ten_toDigits]

theorem readDigits_append (cs ds : List Char) : readDigits (cs ++ ds) = 10 ^ ds.length * readDigits cs + readDigits ds := by
  rw [readDigits, Nat.ofDigitChars_append, Nat.ofDigitChars_eq_ofDigitChars_zero]
  rfl

theorem readDigits_replicate : readDigits (List.replicate n '0') = 0 := by
  rw [readDigits, Nat.ofDigitChars_replicate_zero, mul_zero]

theorem AllDigits.ne (h : AllDigits cs) {d : Char} (hd : d.isDigit = false) : ∀ c ∈ cs, (c != d) := by
  intro c hc
  simp only [bne_iff_ne, ne_eq]
  rintro rfl
  rw [h c hc] at hd
  cases hd

variable {d : DecimalDigits}

theorem IsProper.length_toString (hd : d.IsProper) : (toString d.digits).length ≤ d.count := by
  rw [Nat.toString_eq_repr, ← String.length_toList, Nat.toList_repr]
  exact (Nat.length_toDigits_le_iff (by norm_num) hd.1).2 hd.2

theorem IsProper.text_spec (hd : d.IsProper) :
    d.text.toList.length = d.count ∧ AllDigits d.text.toList ∧ readDigits d.text.toList = d.digits := by
  have hlen := hd.length_toString
  rw [← String.length_toList] at hlen
  rw [text, String.toList_append, String.toList_ofList, ← String.length_toList]
  refine ⟨?_, (allDigits_replicate _).append (allDigits_toString _), ?_⟩
  · rw [length_append, length_replicate]
    omega
  · rw [readDigits_append, readDigits_replicate, readDigits_toString, mul_zero, zero_add]

theorem AllDigits.take (h : AllDigits cs) (n : Nat) : AllDigits (cs.take n) := fun c hc =>
  h c (mem_of_mem_take hc)

theorem AllDigits.drop (h : AllDigits cs) (n : Nat) : AllDigits (cs.drop n) := fun c hc =>
  h c (mem_of_mem_drop hc)

theorem positional_spec (hd : d.IsProper) (he : d.exponent < 16) : ∃ ws fs, (d.positional true).toList = ws ++ '.' :: fs ∧
    AllDigits ws ∧ ws ≠ [] ∧ AllDigits fs ∧ Binary64.ofDecimal (readDigits (ws ++ fs)) (-(fs.length : Int)) = d.read := by
  obtain ⟨hlen, hdigits, hread⟩ := hd.text_spec
  have hpos := hd.1
  have hzero : AllDigits ['0'] := allDigits_replicate 1
  unfold positional read
  simp only
  split
  · -- the first digit stands behind the point
    refine ⟨['0'], replicate (-d.exponent - 1).toNat '0' ++ d.text.toList, by simp, hzero, by simp,
      (allDigits_replicate _).append hdigits, ?_⟩
    rw [readDigits_append, readDigits_append, readDigits_replicate, hread, show readDigits ['0'] = 0 from rfl, length_append,
      length_replicate, hlen, mul_zero, mul_zero, zero_add, zero_add,
      show -(((-d.exponent - 1).toNat + d.count : Nat) : Int) = d.exponent - d.count + 1 by omega]
  · split
    · -- zeros stand between the last digit and the point
      obtain ⟨z, hz⟩ : ∃ z : Nat, d.exponent = d.count + z - 1 := ⟨d.exponent.toNat + 1 - d.count, by omega⟩
      refine ⟨d.text.toList ++ replicate (d.exponent.toNat + 1 - d.count) '0', ['0'], by simp,
        hdigits.append (allDigits_replicate _), ?_, hzero, ?_⟩
      · simp [← length_eq_zero_iff, hlen]
        omega
      · have hvalue : readDigits (d.text.toList ++ replicate z '0' ++ ['0']) = d.digits * 10 ^ (z + 1) := by
          rw [readDigits_append, readDigits_append, readDigits_replicate, hread, show readDigits ['0'] = 0 from rfl,
            length_replicate, length_singleton]
          ring
        rw [show d.exponent.toNat + 1 - d.count = z by omega, hvalue, show d.exponent - d.count + 1 = z by omega]
        exact Binary64.ofDecimal_zeros _ (by omega)
    · -- the point stands among the digits
      refine ⟨d.text.toList.take (d.exponent.toNat + 1), d.text.toList.drop (d.exponent.toNat + 1), by simp, hdigits.take _, ?_,
        hdigits.drop _, ?_⟩
      · simp [← length_eq_zero_iff, hlen]
        omega
      · rw [take_append_drop, hread, length_drop, hlen,
          show -((d.count - (d.exponent.toNat + 1) : Nat) : Int) = d.exponent - d.count + 1 by omega]

theorem of_mem_pointed (h : c ∈ pointed cs) : c ∈ cs ∨ c = '.' := by
  obtain _ | ⟨c, _ | ⟨c', rest⟩⟩ := cs
  · exact .inl h
  · exact .inl h
  · simp only [pointed, mem_cons] at h ⊢
    tauto

/-- A text that begins with a digit, has a point or an exponent, and else digits and signs. -/
structure IsLayout (cs : List Char) : Prop where
  head : ∃ c rest, cs = c :: rest ∧ c.isDigit = true
  mark : '.' ∈ cs ∨ 'e' ∈ cs
  chars : ∀ c ∈ cs, c.isDigit = true ∨ c ∈ ['.', 'e', '+', '-']

theorem IsProper.exists_cons (hd : d.IsProper) : ∃ c rest, d.text.toList = c :: rest := by
  obtain ⟨hlen, -⟩ := hd.text_spec
  refine exists_cons_of_ne_nil fun h => ?_
  have := hd.1
  rw [h, length_nil] at hlen
  omega

theorem isLayout_point (hc : AllDigits cs) (hne : cs ≠ []) (hd : AllDigits ds) : IsLayout (cs ++ '.' :: ds) := by
  obtain ⟨c, rest, rfl⟩ := exists_cons_of_ne_nil hne
  refine ⟨⟨c, _, rfl, hc c mem_cons_self⟩, .inl (by simp), fun x hx => ?_⟩
  rcases mem_append.1 hx with hx | hx
  · exact .inl (hc x hx)
  · rcases mem_cons.1 hx with rfl | hx
    · exact .inr (by decide)
    · exact .inl (hd x hx)

theorem isLayout_positional (hd : d.IsProper) (he : d.exponent < 16) : IsLayout (d.positional true).toList := by
  obtain ⟨ws, fs, htext, hw, hne, hf, -⟩ := positional_spec hd he
  exact htext ▸ isLayout_point hw hne hf

theorem isLayout_scientific (hd : d.IsProper) : IsLayout d.scientific.toList := by
  obtain ⟨-, hdigits, -⟩ := hd.text_spec
  obtain ⟨c, rest, hc⟩ := hd.exists_cons
  have hexp : ∀ x ∈ (exponentText d.exponent).toList, x.isDigit ∨ x ∈ ['.', 'e', '+', '-'] := by
    intro x hx
    simp only [exponentText, String.toList_append, mem_append] at hx
    rcases hx with (hx | hx) | hx
    · refine .inr ?_
      split at hx <;> simp_all
    · refine .inl ?_
      split at hx <;> simp_all
    · exact .inl (allDigits_toString _ x hx)
  have htext : d.scientific.toList = pointed d.text.toList ++ 'e' :: (exponentText d.exponent).toList := by
    simp [scientific]
  refine ⟨?_, .inr (by simp [htext]), fun x hx => ?_⟩
  · rw [htext, hc]
    rw [hc] at hdigits
    cases rest with
    | nil => exact ⟨c, _, rfl, hdigits c mem_cons_self⟩
    | cons c' rest => exact ⟨c, _, rfl, hdigits c mem_cons_self⟩
  · rw [htext] at hx
    rcases mem_append.1 hx with hx | hx
    · rcases of_mem_pointed hx with hx | rfl
      · exact .inl (hdigits x hx)
      · exact .inr (by decide)
    · rcases mem_cons.1 hx with rfl | hx
      · exact .inr (by decide)
      · exact hexp x hx

/-! ## Integers -/

theorem of_mem_toString_int {n : Int} (h : c ∈ (toString n).toList) : c = '-' ∨ c.isDigit := by
  cases n with
  | ofNat n => exact .inr (allDigits_toString n c h)
  | negSucc n =>
    rw [Int.toString_eq_repr] at h
    simp only [Int.repr, String.toList_append, mem_append] at h
    rcases h with h | h
    · exact .inl (by simpa using h)
    · exact .inr (allDigits_toString (n + 1) c (by rwa [Nat.toString_eq_repr]))

end TileKernel.DecimalDigits

namespace TileKernel.Binary64

open DecimalDigits

/-! ## Texts of numbers -/

/-- The text of a finite number without its sign. -/
def unsignedText (x : Binary64) : String :=
  if x.isZero then "0.0"
  else
    let d := x.shortestDigits
    if -4 ≤ d.exponent && d.exponent < 16 then d.positional true else d.scientific

variable {x : Binary64}

theorem shortest_eq (h : x.isNaN = false) :
    x.shortest = (if x.negative then "-" else "") ++ (if x.isInf then "inf" else x.abs.unsignedText) := by
  rw [shortest, withSign, h]
  rfl

theorem isLayout_unsignedText (x : Binary64) : IsLayout x.unsignedText.toList := by
  obtain ⟨hproper, -⟩ := x.shortestDigits_spec
  unfold unsignedText
  split
  · have hzero : AllDigits ['0'] := allDigits_replicate 1
    exact isLayout_point hzero (by simp) hzero
  · simp only
    split
    · next he =>
      rw [Bool.and_eq_true, decide_eq_true_iff, decide_eq_true_iff] at he
      exact isLayout_positional hproper he.2
    · exact isLayout_scientific hproper

/-- What stands behind the sign in the text of a number. -/
def body (x : Binary64) : List Char := if x.isInf then "inf".toList else x.abs.unsignedText.toList

theorem toList_shortest (hn : x.isNaN = false) : x.shortest.toList = (if x.negative then ['-'] else []) ++ x.body := by
  rw [shortest_eq hn, String.toList_append, body]
  split <;> split <;> rfl

theorem of_mem_shortest {c : Char} (h : c ∈ x.shortest.toList) : c.isDigit ∨ c ∈ "-+.einfa".toList := by
  cases hn : x.isNaN with
  | true =>
    rw [shortest, withSign, hn, if_pos rfl] at h
    exact .inr ((show "nan".toList ⊆ "-+.einfa".toList by decide) h)
  | false =>
    rw [toList_shortest hn, List.mem_append, body] at h
    rcases h with h | h
    · split at h
      · exact .inr (List.mem_of_mem_head? (by rw [List.mem_singleton.1 h]; rfl))
      · cases h
    · split at h
      · exact .inr ((show "inf".toList ⊆ "-+.einfa".toList by decide) h)
      · exact (x.abs.isLayout_unsignedText.chars c h).imp_right ((show ['.', 'e', '+', '-'] ⊆ "-+.einfa".toList by decide) ·)

end TileKernel.Binary64
