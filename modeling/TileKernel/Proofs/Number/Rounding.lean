import TileKernel.Proofs.Number.Texts

/-! # Texts of numbers are read back

A quotient that is a number is rounded to that number. So all digits of a number are read as the number, and the shortest text of
a number, not-a-number apart, is read back as the number itself. Integers are read back from their texts too.
-/

namespace TileKernel.Binary64

/-! ## Signs -/

variable {x : Binary64}

theorem xor_two_pow {a k : Nat} (h : a < 2 ^ k) : a ^^^ 2 ^ k = 2 ^ k + a := by
  have hor := Nat.two_pow_add_eq_or_of_lt h 1
  rw [mul_one] at hor
  rw [hor]
  refine Nat.eq_of_testBit_eq fun i => ?_
  rw [Nat.testBit_xor, Nat.testBit_or, Nat.testBit_two_pow]
  by_cases hi : k = i
  · subst hi
    simp [Nat.testBit_lt_two_pow h]
  · simp [hi]

theorem eq_of_bits {y : Binary64} (h : x.bits.toNat = y.bits.toNat) : x = y := by
  cases x
  cases y
  exact congrArg Binary64.mk (UInt64.toNat_inj.1 h)

theorem abs_eq_self (h : x.negative = false) : x.abs = x := by
  rw [negative_eq, decide_eq_false_iff_not] at h
  refine eq_of_bits ?_
  rw [bits_abs]
  exact Nat.mod_eq_of_lt (by omega)

theorem negative_abs (x : Binary64) : x.abs.negative = false := by
  rw [negative_eq, decide_eq_false_iff_not, bits_abs]
  omega

theorem neg_abs (h : x.negative) : x.abs.neg = x := by
  have hlt : x.bits.toNat < 2 ^ 64 := x.bits.toNat_lt
  rw [negative_eq, decide_eq_true_iff] at h
  have hxor : x.abs.neg.bits.toNat = x.abs.bits.toNat ^^^ 2 ^ 63 := UInt64.toNat_xor _ _
  rw [bits_abs, xor_two_pow (by omega)] at hxor
  exact eq_of_bits (by omega)

/-! ## Exact quotients -/

theorem bitLength_units (x : Binary64) : bitLength x.units - 53 = x.exponentField - 1 := by
  have hlt := x.significand_lt
  by_cases h : x.units = 0
  · have hsignificand : x.significand = 0 := (Nat.mul_eq_zero.1 h).resolve_right (Nat.two_pow_pos _).ne'
    rw [significand, Nat.pow_eq] at hsignificand
    simp only [h, bitLength, beq_self_eq_true, if_true]
    split at hsignificand
    · next he => simp_all
    · omega
  · rw [bitLength, if_neg (by simpa using h)]
    rcases x.exponentField.eq_zero_or_pos with he | he
    · have hlog : x.units.log2 < 53 := (Nat.log2_lt h).2 (by rwa [units, he, Nat.pow_eq, Nat.zero_sub, pow_zero, mul_one])
      omega
    · have hge : 2 ^ 52 ≤ x.significand := by
        rw [significand, if_neg (by simpa using he.ne')]
        exact Nat.le_add_left _ _
      have hlog : x.units.log2 = 52 + (x.exponentField - 1) := by
        rw [Nat.log2_eq_iff h, units, Nat.pow_eq, pow_succ, pow_add, Nat.mul_right_comm]
        exact ⟨Nat.mul_le_mul_right _ hge, Nat.mul_lt_mul_of_pos_right hlt (Nat.two_pow_pos _)⟩
      omega

theorem word_eq (hneg : x.negative = false) : (x.exponentField - 1) * 2 ^ 52 + x.significand = x.bits.toNat := by
  rw [negative_eq, decide_eq_false_iff_not] at hneg
  rw [significand, Nat.pow_eq]
  have := x.exponentField_eq
  have := x.fractionField_eq
  split
  · next he =>
    rw [beq_iff_eq] at he
    omega
  · next he =>
    rw [beq_iff_eq] at he
    omega

theorem ofPositiveRatio?_exact {n d : Nat} (hneg : x.negative = false) (hfin : x.exponentField < 0x7ff) (hd : 0 < d)
    (h : n * 2 ^ unitPlaces = x.units * d) : ofPositiveRatio? n d = some x.bits := by
  have hround : roundDiv (x.units * d) (d * 2 ^ (x.exponentField - 1)) = x.significand := by
    have hone : roundDiv x.significand 1 = x.significand := by simp [roundDiv, Nat.mod_one]
    have hmul := roundDiv_mul x.significand 1 (Nat.mul_pos hd (Nat.two_pow_pos (x.exponentField - 1)))
    rw [Nat.one_mul, hone] at hmul
    rw [units, Nat.pow_eq, Nat.mul_assoc, Nat.mul_comm _ d, hmul]
  have hlt : x.bits.toNat < infinity.bits.toNat := by
    rw [exponentField_eq] at hfin
    rw [negative_eq, decide_eq_false_iff_not] at hneg
    change x.bits.toNat < 0x7ff * 2 ^ 52
    omega
  rw [ofPositiveRatio?]
  simp only [Nat.pow_eq, h, Nat.mul_div_cancel _ hd, bitLength_units, hround, word_eq hneg, hlt, if_true]
  exact congrArg some UInt64.ofNat_toNat

theorem ofDecimal_fraction {m k : Nat} {w : UInt64} (hm : m ≠ 0) (hpos : 0 < k) (hle : k ≤ 20000)
    (h : ofPositiveRatio? m (10 ^ k) = some w) : ofDecimal m (-k) = ⟨w⟩ := by
  have hratio : ofRatio? m (10 ^ k) = some ⟨w⟩ := by
    rw [ofRatio?, Int.natAbs_natCast, h, Option.map_some, if_neg (by omega)]
  rw [ofDecimal, if_neg (by simpa using hm), if_neg (by omega), if_neg (by omega), if_neg (by omega), neg_neg, Int.toNat_natCast,
    Nat.pow_eq, hratio]
  rfl

attribute [local irreducible] unitPlaces in
theorem read_allDigits (hneg : x.negative = false) (hfin : x.exponentField < 0x7ff) (hz : x.isZero = false) :
    x.allDigits.read = x := by
  have hunits : x.units ≠ 0 := by
    rw [isZero, Bool.and_eq_false_iff, beq_eq_false_iff_ne, beq_eq_false_iff_ne] at hz
    refine Nat.mul_ne_zero ?_ (Nat.two_pow_pos _).ne'
    rw [significand, Nat.pow_eq]
    split <;> simp_all
  have hten (k : Nat) : 5 ^ k * 2 ^ k = 10 ^ k := (mul_pow 5 2 k).symm
  have hexact := ofPositiveRatio?_exact (n := x.units * 5 ^ unitPlaces) hneg hfin (Nat.pow_pos (show 0 < 10 by norm_num))
    (by rw [Nat.mul_assoc, hten])
  have hle : 0 < unitPlaces ∧ unitPlaces ≤ 20000 := by simp [unitPlaces]
  have hplace : x.allDigits.exponent - x.allDigits.count + 1 = -(unitPlaces : Int) := by
    simp only [allDigits]
    omega
  rw [DecimalDigits.read, hplace]
  exact ofDecimal_fraction (Nat.mul_ne_zero hunits (Nat.pow_pos (by norm_num)).ne') hle.1 hle.2 hexact

end TileKernel.Binary64

namespace TileKernel.Reading

open DecimalDigits Binary64 List

/-! ## Digits -/

variable {cs ws : List Char} {c : Char} {fs : List Char}

theorem digits?_eq (h : AllDigits cs) (hne : cs ≠ []) : digits? cs = some (cs.map fun c => c.toNat - 48) := by
  induction cs with
  | nil => exact absurd rfl hne
  | cons c cs ih =>
    have hc := h c mem_cons_self
    cases cs with
    | nil => simp [digits?, hc]
    | cons d cs =>
      have hd := h d (by simp)
      have hunder : d ≠ '_' := by
        rintro rfl
        cases hd
      rw [digits?.eq_4 c (d :: cs) (by simp) fun ds he => hunder (cons.inj he).1, if_pos hc,
        ih (fun x hx => h x (mem_cons_of_mem _ hx)) (by simp)]
      rfl

theorem value_digits (cs : List Char) : value (cs.map fun c => c.toNat - 48) = readDigits cs := by
  have hfold : ∀ n, (cs.map fun c => c.toNat - 48).foldl (fun n d => n * 10 + d) n = Nat.ofDigitChars 10 cs n := by
    intro n
    induction cs generalizing n with
    | nil => rfl
    | cons c cs ih =>
      rw [map_cons, foldl_cons, ih, Nat.ofDigitChars_cons, mul_comm]
      rfl
  exact hfold 0

theorem not_isBlank_of_isDigit (h : c.isDigit) : isBlank c = false :=
  of_isDigit (p := (isBlank · = false)) (by decide) h

theorem strip_eq_self (h : ∀ c ∈ cs, isBlank c = false) : strip cs = cs := by
  have hdrop : ∀ ds : List Char, (∀ c ∈ ds, isBlank c = false) → ds.dropWhile isBlank = ds := by
    intro ds hds
    cases ds with
    | nil => rfl
    | cons d ds => rw [dropWhile_cons, hds d mem_cons_self, if_neg Bool.false_ne_true]
  rw [strip, hdrop cs h, hdrop _ fun c hc => h c (mem_reverse.1 hc), reverse_reverse]

theorem sign_of_isDigit (h : c.isDigit) : sign (c :: cs) = (false, c :: cs) := by
  rw [sign.eq_3]
  · rintro _ he
    obtain ⟨rfl, -⟩ := cons.inj he
    cases h
  · rintro _ he
    obtain ⟨rfl, -⟩ := cons.inj he
    cases h

theorem sign_digits (h : AllDigits cs) : sign cs = (false, cs) := by
  cases cs with
  | nil => rfl
  | cons c cs => exact sign_of_isDigit (h c mem_cons_self)

theorem int?_toString (n : Int) : int? (toString n) = some n := by
  have hne : ∀ k : Nat, (toString k).toList ≠ [] := by simp
  cases n with
  | ofNat k =>
    have hdigits := allDigits_toString k
    change int? (toString k) = _
    rw [int?, strip_eq_self fun c hc => not_isBlank_of_isDigit (hdigits c hc), sign_digits hdigits]
    simp only [digits?_eq hdigits (hne k), Option.bind_eq_bind, Option.bind_some, value_digits, readDigits_toString]
    rfl
  | negSucc k =>
    have hdigits := allDigits_toString (k + 1)
    have htext : (toString (Int.negSucc k)).toList = '-' :: (toString (k + 1)).toList := by
      rw [Int.toString_eq_repr, Int.repr, String.toList_append, Nat.toString_eq_repr]
      rfl
    rw [int?, htext, strip_eq_self]
    · simp only [sign, digits?_eq hdigits (hne (k + 1)), Option.bind_eq_bind, Option.bind_some, value_digits,
        readDigits_toString]
      rfl
    · intro c hc
      rcases mem_cons.1 hc with rfl | hc
      · decide
      · exact not_isBlank_of_isDigit (hdigits c hc)

theorem toString_int_injective {m n : Int} (h : toString m = toString n) : m = n :=
  Option.some.inj (by rw [← int?_toString, h, int?_toString])

/-! ## Decimals -/

theorem span_eq {α : Type} {p : α → Bool} {xs : List α} (ys : List α) (hx : ∀ x ∈ xs, p x) (hy : ∀ y ∈ ys.head?, p y = false) :
    (xs ++ ys).span p = (xs, ys) := by
  rw [span_eq_takeWhile_dropWhile, takeWhile_append_of_pos hx, dropWhile_append_of_pos hx]
  cases ys with
  | nil => simp
  | cons y ys => simp [hy y rfl]

theorem optionalDigits?_eq (h : AllDigits cs) : optionalDigits? cs = some (cs.map fun c => c.toNat - 48) := by
  cases cs with
  | nil => rfl
  | cons c cs => exact digits?_eq h (by simp)

theorem mantissa?_point (hw : AllDigits ws) (hne : ws ≠ []) (hf : AllDigits fs) :
    mantissa? (ws ++ '.' :: fs) = some (ws.map fun c => c.toNat - 48, fs.map fun c => c.toNat - 48) := by
  have hspan : (ws ++ '.' :: fs).span (· != '.') = (ws, '.' :: fs) := span_eq _ (hw.ne rfl) (by simp)
  have hfirst : ws.isEmpty = false := by simpa using hne
  rw [mantissa?, hspan]
  simp [hfirst, optionalDigits?_eq hw, optionalDigits?_eq hf]

theorem mantissa?_digits (hw : AllDigits ws) (hne : ws ≠ []) : mantissa? ws = some (ws.map fun c => c.toNat - 48, []) := by
  have hspan : (ws ++ []).span (· != '.') = (ws, []) := span_eq _ (hw.ne rfl) (by simp)
  have hfirst : ws.isEmpty = false := by simpa using hne
  rw [append_nil] at hspan
  rw [mantissa?, hspan]
  simp [hfirst, optionalDigits?_eq hw, show optionalDigits? [] = some [] from rfl]

theorem mantissa?_pointed (h : AllDigits (c :: cs)) :
    mantissa? (pointed (c :: cs)) = some ([c.toNat - 48], cs.map fun c => c.toNat - 48) := by
  have hfirst : AllDigits [c] := h.take 1
  cases cs with
  | nil => exact (mantissa?_digits hfirst (by simp) : mantissa? [c] = _)
  | cons d ds => exact mantissa?_point hfirst (by simp) (h.drop 1)

theorem exponent?_text (e : Int) : exponent? ('e' :: (exponentText e).toList) = some e := by
  have hdigits : AllDigits ((if e.natAbs < 10 then "0" else "") ++ toString e.natAbs : String).toList := by
    rw [String.toList_append]
    refine AllDigits.append ?_ (allDigits_toString _)
    split
    · exact allDigits_replicate 1
    · simp [AllDigits]
  have hread : readDigits ((if e.natAbs < 10 then "0" else "") ++ toString e.natAbs : String).toList = e.natAbs := by
    rw [String.toList_append, readDigits_append, readDigits_toString]
    split <;> simp [readDigits, Nat.ofDigitChars]
  have hne : ((if e.natAbs < 10 then "0" else "") ++ toString e.natAbs : String).toList ≠ [] := by simp
  rw [exponentText, String.append_assoc, String.toList_append]
  generalize ((if e.natAbs < 10 then "0" else "") ++ toString e.natAbs : String).toList = ds at hdigits hread hne
  have hds := digits?_eq hdigits hne
  split
  · change (digits? ds).bind (fun n => some (-(value n : Int))) = some e
    rw [hds, Option.bind_some, value_digits, hread]
    exact congrArg some (by omega)
  · change (digits? ds).bind (fun n => some (value n : Int)) = some e
    rw [hds, Option.bind_some, value_digits, hread]
    exact congrArg some (by omega)

theorem magnitude?_eq {r : List Char} (hc : c.isDigit) (hcs : ∀ d ∈ c :: cs, d.isDigit ∨ d = '.')
    (hr : ∀ d ∈ r.head?, d = 'e') : magnitude? (c :: cs ++ r) = (do
      let (whole, fraction) ← mantissa? (c :: cs)
      let e ← exponent? r
      return Binary64.ofDecimal (value (whole ++ fraction)) (e - fraction.length)) := by
  have hword : ∀ d ds, d.isDigit = false → String.ofList ((c :: cs ++ r).map Char.toLower) ≠ String.ofList (d :: ds) := by
    intro d ds hd he
    rw [String.ofList_inj, cons_append, map_cons] at he
    obtain ⟨rfl, -⟩ := cons.inj he
    rw [of_isDigit (p := fun c => c.toLower = c) (by decide) hc, hc] at hd
    cases hd
  have hspan : (c :: cs ++ r).span (fun c => c != 'e' && c != 'E') = (c :: cs, r) := by
    refine span_eq r (fun d hd => ?_) fun d hd => by rw [hr d hd]; rfl
    rcases hcs d hd with h | rfl
    · have hdigit : AllDigits [d] := by simpa [AllDigits] using h
      rw [Bool.and_eq_true]
      exact ⟨hdigit.ne rfl d (by simp), hdigit.ne rfl d (by simp)⟩
    · decide
  rw [magnitude?]
  split
  · next h => exact absurd h (hword 'i' ['n', 'f'] rfl)
  · next h => exact absurd h (hword 'i' ['n', 'f', 'i', 'n', 'i', 't', 'y'] rfl)
  · next h => exact absurd h (hword 'n' ['a', 'n'] rfl)
  · rw [hspan]

theorem magnitude?_point (hw : AllDigits ws) (hne : ws ≠ []) (hf : AllDigits fs) :
    magnitude? (ws ++ '.' :: fs) = some (Binary64.ofDecimal (readDigits (ws ++ fs)) (-(fs.length : Int))) := by
  have hmantissa := mantissa?_point hw hne hf
  obtain ⟨c, cs, rfl⟩ := exists_cons_of_ne_nil hne
  have hplain : ∀ d ∈ c :: (cs ++ '.' :: fs), d.isDigit ∨ d = '.' := by
    intro d hd
    rcases mem_append.1 (cons_append ▸ hd) with hd | hd
    · exact .inl (hw d hd)
    · exact (mem_cons.1 hd).symm.imp_left (hf d)
  have h := magnitude?_eq (r := []) (hw c mem_cons_self) hplain (by simp)
  rw [append_nil] at h
  rw [cons_append, h, ← cons_append]
  simp only [hmantissa, exponent?, Option.bind_eq_bind, Option.bind_some, ← map_append, value_digits, length_map]
  rw [zero_sub]
  rfl

theorem magnitude?_scientific (h : AllDigits (c :: cs)) (e : Int) :
    magnitude? (pointed (c :: cs) ++ 'e' :: (exponentText e).toList) =
      some (Binary64.ofDecimal (readDigits (c :: cs)) (e - cs.length)) := by
  obtain ⟨cs', hcs'⟩ : ∃ cs', pointed (c :: cs) = c :: cs' := by cases cs <;> exact ⟨_, rfl⟩
  have hplain : ∀ d ∈ pointed (c :: cs), d.isDigit ∨ d = '.' := fun d hd => (of_mem_pointed hd).imp_left (h d)
  have hmantissa := mantissa?_pointed h
  have hvalue := value_digits (c :: cs)
  rw [hcs'] at hplain hmantissa ⊢
  rw [magnitude?_eq (h c mem_cons_self) hplain (by simp)]
  rw [map_cons] at hvalue
  simp only [hmantissa, exponent?_text, Option.bind_eq_bind, Option.bind_some, singleton_append, hvalue, length_map]
  rfl

end TileKernel.Reading

namespace TileKernel.Binary64

open DecimalDigits Reading

/-! ## The shortest text -/

variable {x : Binary64}

theorem isFinite_of (hn : x.isNaN = false) (hi : x.isInf = false) : x.abs.exponentField < 0x7ff := by
  have := x.exponentField_le
  rw [exponentField_abs]
  simp only [isNaN, isInf, Bool.and_eq_false_iff, beq_eq_false_iff_ne, bne_eq_false_iff_eq] at hn hi
  omega

theorem magnitude?_unsignedText (hneg : x.negative = false) (hfin : x.exponentField < 0x7ff) :
    magnitude? x.unsignedText.toList = some x := by
  unfold unsignedText
  cases hz : x.isZero with
  | true =>
    have hx : x = Binary64.zero := by
      rw [isZero, Bool.and_eq_true, beq_iff_eq, beq_iff_eq] at hz
      exact eq_of_fields hneg hz.1 hz.2
    have hzero : AllDigits ['0'] := allDigits_replicate 1
    rw [if_pos rfl, show ("0.0" : String).toList = ['0'] ++ '.' :: ['0'] from rfl, magnitude?_point hzero (by simp) hzero, hx]
    rfl
  | false =>
    obtain ⟨hproper, hread⟩ := x.shortestDigits_spec
    replace hread := hread (read_allDigits hneg hfin hz)
    simp only [Bool.false_eq_true, if_false]
    split
    · next he =>
      rw [Bool.and_eq_true, decide_eq_true_iff, decide_eq_true_iff] at he
      obtain ⟨ws, fs, htext, hw, hne, hf, hvalue⟩ := positional_spec hproper he.2
      rw [htext, magnitude?_point hw hne hf, hvalue, hread]
    · obtain ⟨hlen, hdigits, hvalue⟩ := hproper.text_spec
      obtain ⟨c, cs, hcs⟩ := hproper.exists_cons
      rw [hcs] at hlen hdigits hvalue
      rw [List.length_cons] at hlen
      have htext : x.shortestDigits.scientific.toList =
          pointed (c :: cs) ++ 'e' :: (exponentText x.shortestDigits.exponent).toList := by
        simp [DecimalDigits.scientific, hcs]
      rw [htext, magnitude?_scientific hdigits, hvalue,
        show x.shortestDigits.exponent - cs.length = x.shortestDigits.exponent - x.shortestDigits.count + 1 by omega]
      exact congrArg some hread

theorem body_spec (hn : x.isNaN = false) :
    (∀ c ∈ x.body, isBlank c = false) ∧ sign x.body = (false, x.body) ∧ magnitude? x.body = some x.abs := by
  rw [body]
  split
  · next hi =>
    refine ⟨by decide, rfl, ?_⟩
    rw [isInf, Bool.and_eq_true, beq_iff_eq, beq_iff_eq] at hi
    have habs : x.abs = infinity :=
      eq_of_fields (negative_abs x) ((exponentField_abs x).trans hi.1) ((fractionField_abs x).trans hi.2)
    rw [habs]
    decide
  · next hi =>
    have hfin := isFinite_of hn (Bool.eq_false_iff.2 hi)
    have hlayout := x.abs.isLayout_unsignedText
    refine ⟨fun c hc => ?_, ?_, magnitude?_unsignedText (negative_abs x) hfin⟩
    · rcases hlayout.chars c hc with hc | hc
      · exact not_isBlank_of_isDigit hc
      · exact (show ∀ c ∈ ['.', 'e', '+', '-'], isBlank c = false by decide) c hc
    · obtain ⟨c, rest, htext, hc⟩ := hlayout.head
      rw [htext]
      exact sign_of_isDigit hc

theorem float?_shortest (hn : x.isNaN = false) : float? x.shortest = some x := by
  obtain ⟨hblank, hsign, hmagnitude⟩ := body_spec hn
  rw [float?, toList_shortest hn]
  cases hneg : x.negative with
  | true =>
    rw [if_pos rfl, strip_eq_self (by simpa [isBlank] using hblank), List.singleton_append, sign]
    simp only [hmagnitude, Option.bind_eq_bind, Option.bind_some, if_true]
    exact congrArg some (neg_abs hneg)
  | false =>
    rw [if_neg Bool.false_ne_true, List.nil_append, strip_eq_self hblank, hsign]
    simp only [hmagnitude, Option.bind_eq_bind, Option.bind_some, Bool.false_eq_true, if_false]
    exact congrArg some (abs_eq_self hneg)

theorem shortest_injective {y : Binary64} (hx : x.isNaN = false) (hy : y.isNaN = false) (h : x.shortest = y.shortest) : x = y := by
  have hread := float?_shortest hx
  rw [h, float?_shortest hy] at hread
  exact (Option.some.inj hread).symm

end TileKernel.Binary64
