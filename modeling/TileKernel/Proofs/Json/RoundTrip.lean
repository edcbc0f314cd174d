import TileKernel.Json
import TileKernel.Proofs.Number.Rounding
import TileKernel.Proofs.Steps

/-! # JSON texts are read back

The text of a value is read back as the value, except that there is only one text for all that are not a number. Every form is
read in front of an arbitrary rest of the text; a number needs a rest that does not go on with it. The fuel of the reader is
enough as soon as it is the length of the text.
-/

namespace TileKernel.Text

open List

/-! ## Hexadecimal digits -/

theorem toList_hex_succ (w n : Nat) : (hex (w + 2) n).toList = (hex (w + 1) (n / 16)).toList ++ [Nat.digitChar (n % 16)] := by
  simp only [hex, String.toList_ofList]
  by_cases h : n < 16
  · rw [Nat.toDigits_of_lt_base h, show n / 16 = 0 by omega, Nat.mod_eq_of_lt h, Nat.toDigits_of_lt_base (by norm_num)]
    simp [replicate_succ']
  · rw [Nat.toDigits_of_base_le (by norm_num) (by omega), length_append, length_singleton, ← append_assoc,
      show w + 2 - ((Nat.toDigits 16 (n / 16)).length + 1) = w + 1 - (Nat.toDigits 16 (n / 16)).length by omega]

theorem toList_hex_four {n : Nat} (h : n < 0x10000) : (hex 4 n).toList =
    [Nat.digitChar (n / 4096), Nat.digitChar (n / 256 % 16), Nat.digitChar (n / 16 % 16), Nat.digitChar (n % 16)] := by
  have hone : (hex 1 (n / 16 / 16 / 16)).toList = [Nat.digitChar (n / 16 / 16 / 16)] := by
    rw [hex, String.toList_ofList, Nat.toDigits_of_lt_base (by omega)]
    rfl
  rw [toList_hex_succ, toList_hex_succ, toList_hex_succ, hone]
  simp only [Nat.div_div_eq_div_mul, cons_append, nil_append]

end TileKernel.Text

variable (x : Binary64) (s : String) (j : Json)

namespace TileKernel.Json.Reader

open Text List

variable {n : Nat} {cs rest : List Char} {c : Char}

theorem unit?_hex (h : n < 0x10000) (rest : List Char) : unit? ((hex 4 n).toList ++ rest) = some (n, rest) := by
  have hdigit : ∀ d < 16, (if (Nat.digitChar d).isDigit then some ((Nat.digitChar d).toNat - 48)
      else if 'a' ≤ Nat.digitChar d && Nat.digitChar d ≤ 'f' then some ((Nat.digitChar d).toNat - 87)
      else if 'A' ≤ Nat.digitChar d && Nat.digitChar d ≤ 'F' then some ((Nat.digitChar d).toNat - 55) else none) = some d := by
    decide
  rw [toList_hex_four h]
  simp only [cons_append, nil_append, unit?, hdigit (n / 4096) (by omega), hdigit (n / 256 % 16) (by omega),
    hdigit (n / 16 % 16) (by omega), hdigit (n % 16) (by omega)]
  change some (n / 4096 * 4096 + n / 256 % 16 * 256 + n / 16 % 16 * 16 + n % 16, rest) = some (n, rest)
  rw [show n / 4096 * 4096 + n / 256 % 16 * 256 + n / 16 % 16 * 16 + n % 16 = n by omega]

/-! ## Texts between quotes -/

def escaped (c : Char) : List Char :=
  (jsonChar c).toList.flatMap fun d => if d.toNat < 0x7f then [d] else (escapeUnits d).toList

theorem toList_quote : (quote true s).toList = '"' :: (s.toList.flatMap escaped ++ ['"']) := by
  have hescape (acc : String) (c : Char) : (if c.toNat < 0x7f then acc.push c else acc ++ escapeUnits c).toList =
      acc.toList ++ if c.toNat < 0x7f then [c] else (escapeUnits c).toList := by
    split <;> simp
  rw [quote, if_pos rfl, Steps.toList_foldl hescape, jsonQuoted, String.toList_append, String.toList_append,
    Steps.toList_foldl fun acc c => String.toList_append (s := acc) (t := jsonChar c)]
  simp only [flatMap_append, flatMap_assoc]
  rfl

theorem text_unit (h : n < 0x10000) (hlow : ¬ (0xd800 ≤ n ∧ n < 0xdc00)) (acc : List Char) (fuel : Nat) (rest : List Char) :
    text acc (fuel + 1) ("\\u".toList ++ (hex 4 n).toList ++ rest) = text (Char.ofNat n :: acc) fuel rest := by
  change text acc (fuel + 1) ('\\' :: 'u' :: ((hex 4 n).toList ++ rest)) = _
  rw [text]
  simp only [unit?_hex h, Option.bind_eq_bind, Option.bind_some, Bool.and_eq_true, decide_eq_true_eq, if_neg hlow]

theorem text_units {m : Nat} (hn : 0xd800 ≤ n ∧ n < 0xdc00) (hm : 0xdc00 ≤ m ∧ m < 0xe000) (acc : List Char) (fuel : Nat)
    (rest : List Char) :
    text acc (fuel + 1) ("\\u".toList ++ (hex 4 n).toList ++ ("\\u".toList ++ (hex 4 m).toList) ++ rest) =
      text (Char.ofNat (0x10000 + (n - 0xd800) * 0x400 + (m - 0xdc00)) :: acc) fuel rest := by
  have hjoin : "\\u".toList ++ (hex 4 n).toList ++ ("\\u".toList ++ (hex 4 m).toList) ++ rest =
      '\\' :: 'u' :: ((hex 4 n).toList ++ ('\\' :: 'u' :: ((hex 4 m).toList ++ rest))) := by simp
  rw [hjoin, text]
  simp only [unit?_hex (show n < 0x10000 by omega), unit?_hex (show m < 0x10000 by omega), Option.bind_eq_bind,
    Option.bind_some, Bool.and_eq_true, decide_eq_true_eq, if_pos hn, if_pos hm]

theorem flatMap_ascii (h : ∀ c ∈ cs, c.toNat < 0x7f) :
    (cs.flatMap fun d => if d.toNat < 0x7f then [d] else (escapeUnits d).toList) = cs := by
  induction cs with
  | nil => rfl
  | cons c cs ih =>
    rw [flatMap_cons, if_pos (h c mem_cons_self), ih fun d hd => h d (mem_cons_of_mem _ hd)]
    rfl

theorem hex_ascii (h : n < 0x10000) : ∀ c ∈ (hex 4 n).toList, c.toNat < 0x7f := by
  have hdigit : ∀ d < 16, (Nat.digitChar d).toNat < 0x7f := by decide
  rw [toList_hex_four h]
  simp only [forall_mem_cons, not_mem_nil, false_implies, implies_true, and_true]
  exact ⟨hdigit _ (by omega), hdigit _ (by omega), hdigit _ (by omega), hdigit _ (by omega)⟩

theorem text_plain (acc : List Char) (fuel : Nat) (hquote : c ≠ '"') (hslash : c ≠ '\\') (rest : List Char) :
    text acc (fuel + 1) (c :: rest) = text (c :: acc) fuel rest := by
  rw [text]
  · exact hquote
  · exact fun _ h => absurd h hslash
  · exact fun _ _ h => absurd h hslash

theorem text_escaped (acc : List Char) (fuel : Nat) (c : Char) (rest : List Char) :
    text acc (fuel + 1) (escaped c ++ rest) = text (c :: acc) fuel rest := by
  have hself : Char.ofNat c.toNat = c := Char.ofNat_toNat c
  by_cases hquote : c = '"'
  · subst hquote
    rfl
  by_cases hslash : c = '\\'
  · subst hslash
    rfl
  by_cases hn : c = '\n'
  · subst hn
    rfl
  by_cases hr : c = '\r'
  · subst hr
    rfl
  by_cases ht : c = '\t'
  · subst ht
    rfl
  by_cases hb : c.toNat = 8
  · rw [← hself, hb]
    rfl
  by_cases hf : c.toNat = 12
  · rw [← hself, hf]
    rfl
  have hjson : jsonChar c = if c.toNat < 0x20 then "\\u" ++ hex 4 c.toNat else c.toString := by
    simp [jsonChar, hquote, hslash, hn, hr, ht, hb, hf]
  by_cases hcontrol : c.toNat < 0x20
  · have hescaped : escaped c = "\\u".toList ++ (hex 4 c.toNat).toList := by
      rw [escaped, hjson, if_pos hcontrol, String.toList_append, flatMap_append,
        flatMap_ascii (hex_ascii (by omega))]
      rfl
    rw [hescaped, text_unit (by omega) (by omega), hself]
  have hchar : escaped c = if c.toNat < 0x7f then [c] else (escapeUnits c).toList := by
    rw [escaped, hjson, if_neg hcontrol]
    simp
  by_cases hascii : c.toNat < 0x7f
  · rw [hchar, if_pos hascii]
    exact text_plain acc fuel hquote hslash rest
  rw [hchar, if_neg hascii, escapeUnits]
  have hvalid : c.toNat < 0xd800 ∨ (0xdfff < c.toNat ∧ c.toNat < 0x110000) := c.valid
  by_cases hplane : c.toNat < 0x10000
  · simp only [hplane, if_true, String.toList_append]
    rw [text_unit hplane (by omega), hself]
  · simp only [hplane, if_false, String.toList_append]
    rw [append_assoc ("\\u".toList ++ _)]
    rw [text_units (by omega) (by omega)]
    have hchar : 0x10000 + (0xd800 + (c.toNat - 0x10000) / 0x400 - 0xd800) * 0x400 +
        (0xdc00 + (c.toNat - 0x10000) % 0x400 - 0xdc00) = c.toNat := by omega
    rw [hchar, hself]

theorem text_flatMap_escaped (cs rest : List Char) {fuel : Nat} (h : cs.length ≤ fuel) (acc : List Char) :
    text acc (fuel + 1) (cs.flatMap escaped ++ '"' :: rest) = some (cs.reverse ++ acc, rest) := by
  induction cs generalizing acc fuel with
  | nil => rfl
  | cons c cs ih =>
    obtain ⟨fuel, rfl⟩ := Nat.exists_eq_add_of_lt h
    rw [flatMap_cons, append_assoc, text_escaped, ih (by omega)]
    simp

theorem string_quote (rest : List Char) {fuel : Nat} (h : s.toList.length ≤ fuel) :
    string fuel (s.toList.flatMap escaped ++ '"' :: rest) = some (s, rest) := by
  rw [string, text_flatMap_escaped s.toList rest h]
  simp

theorem length_le_flatMap_escaped (cs : List Char) : cs.length ≤ (cs.flatMap escaped).length := by
  have hne : ∀ c, 1 ≤ (escaped c).length := by
    intro c
    by_contra hlt
    -- what is written as nothing would be read out of nothing
    have hread := text_escaped [] 1 c ['"']
    rw [length_eq_zero_iff.1 (show (escaped c).length = 0 by omega)] at hread
    cases hread
  induction cs with
  | nil => exact le_rfl
  | cons c cs ih =>
    rw [flatMap_cons, length_append, length_cons]
    have := hne c
    omega

/-! ## Numbers -/

def EndsNumber (rest : List Char) : Prop := ∀ c ∈ rest.head?, isNumberChar c = false

theorem endsNumber_cons (h : isNumberChar c = false) : EndsNumber (c :: rest) := by
  rintro d ⟨⟩
  exact h

theorem blanks_cons (cs : List Char) (h : (c == ' ' || c == '\n' || c == '\t' || c == '\r') = false) :
    blanks (c :: cs) = c :: cs := by
  rw [blanks, h, if_neg Bool.false_ne_true]

def separators : List Char := [' ', '\n', '\t', '\r', ',', ']', '\x7d', ':']

theorem blanks_of_not_separator (cs : List Char) (h : c ∉ separators) : blanks (c :: cs) = c :: cs := by
  refine blanks_cons cs ?_
  rw [Bool.eq_false_iff]
  intro hb
  simp only [Bool.or_eq_true, beq_iff_eq] at hb
  rcases hb with ((rfl | rfl) | rfl) | rfl <;> exact h (by decide)

/-- A text that a number is read from: it begins with a digit, or with a sign and a digit, and has no other characters than those
of numbers. -/
structure IsNumeral (cs : List Char) : Prop where
  head : ∃ c rest, (cs = c :: rest ∨ cs = '-' :: c :: rest) ∧ c.isDigit = true
  chars : ∀ c ∈ cs, isNumberChar c = true

theorem IsNumeral.exists_head (h : IsNumeral cs) : ∃ c tail, cs = c :: tail ∧ c ∉ separators := by
  obtain ⟨d, tail, rfl⟩ : ∃ d tail, cs = d :: tail := by
    obtain ⟨c, rest, h | h, -⟩ := h.head
    · exact ⟨_, _, h⟩
    · exact ⟨_, _, h⟩
  refine ⟨d, tail, rfl, fun hmem => ?_⟩
  have hother := (show ∀ c ∈ separators, isNumberChar c = false by decide) d hmem
  rw [h.chars d mem_cons_self] at hother
  cases hother

theorem value_numeral (h : IsNumeral cs) (hrest : EndsNumber rest) (fuel : Nat) : value (fuel + 1) (cs ++ rest) = (do
      if cs.any fun c => c == '.' || c == 'e' || c == 'E' then return (.float (← Reading.float? (String.ofList cs)), rest)
      else return (.int (← Reading.int? (String.ofList cs)), rest)) := by
  have hblanks : blanks (cs ++ rest) = cs ++ rest := by
    obtain ⟨c, tail, rfl, hc⟩ := h.exists_head
    exact blanks_of_not_separator _ hc
  have hnumber : value (fuel + 1) (cs ++ rest) = number (cs ++ rest) := by
    rw [value, hblanks]
    -- no other form of a value begins with a digit, or with a sign and a digit
    have hform : ∀ d ∈ ['\x7b', '[', '"', 'n', 't', 'f', 'N', 'I'], ∀ tail, cs ++ rest ≠ d :: tail := by
      intro d hd tail he
      obtain ⟨hdigit, hsign⟩ := (show ∀ d ∈ ['\x7b', '[', '"', 'n', 't', 'f', 'N', 'I'], d.isDigit = false ∧ d ≠ '-' by decide) d hd
      obtain ⟨c, tail', rfl | rfl, hc⟩ := h.head
      · rw [(cons.inj he).1, hdigit] at hc
        cases hc
      · exact hsign (cons.inj he).1.symm
    have hinfinity : ∀ tail, cs ++ rest ≠ '-' :: 'I' :: tail := by
      intro tail he
      obtain ⟨c, tail', rfl | rfl, hc⟩ := h.head
      · obtain ⟨rfl, -⟩ := cons.inj he
        cases hc
      · obtain ⟨-, he⟩ := cons.inj he
        obtain ⟨rfl, -⟩ := cons.inj he
        cases hc
    split
    case h_10 => rfl
    case h_9 he => exact absurd he (hinfinity _)
    all_goals next he => exact absurd he (hform _ (by decide) _)
  have htake : (cs ++ rest).takeWhile isNumberChar = cs := by
    rw [takeWhile_append_of_pos h.chars]
    cases rest with
    | nil => simp
    | cons d ds => simp [hrest d rfl]
  rw [hnumber, number, htake, drop_left]

theorem isNumberChar_of_isDigit (h : c.isDigit) : isNumberChar c := by
  simp [isNumberChar, h]

theorem isNumeral_toString (n : Int) : IsNumeral (toString n).toList := by
  refine ⟨?_, fun c hc => ?_⟩
  · cases n with
    | ofNat k =>
      obtain ⟨c, rest, htext⟩ := exists_cons_of_ne_nil (show (toString k).toList ≠ [] by simp)
      exact ⟨c, rest, .inl htext, DecimalDigits.allDigits_toString k c (htext ▸ mem_cons_self)⟩
    | negSucc k =>
      obtain ⟨c, rest, htext⟩ := exists_cons_of_ne_nil (show (toString (k + 1)).toList ≠ [] by simp)
      refine ⟨c, rest, .inr ?_, DecimalDigits.allDigits_toString (k + 1) c (htext ▸ mem_cons_self)⟩
      rw [Int.toString_eq_repr, Int.repr, String.toList_append, ← Nat.toString_eq_repr, htext]
      rfl
  · rcases DecimalDigits.of_mem_toString_int hc with rfl | hc
    · rfl
    · exact isNumberChar_of_isDigit hc

theorem value_int (n : Int) (hrest : EndsNumber rest) (fuel : Nat) :
    value (fuel + 1) ((toString n).toList ++ rest) = some (.int n, rest) := by
  have hmark : ((toString n).toList.any fun c => c == '.' || c == 'e' || c == 'E') = false := by
    rw [any_eq_false]
    intro c hc
    rcases DecimalDigits.of_mem_toString_int hc with rfl | hc
    · decide
    · simp only [Bool.or_eq_true, beq_iff_eq]
      rintro ((rfl | rfl) | rfl) <;> cases hc
  rw [value_numeral (isNumeral_toString n) hrest, hmark, if_neg Bool.false_ne_true, String.ofList_toList, Reading.int?_toString]
  rfl

/-- What is left of a number when it is written: that it is not a number has one text only. -/
def plainFloat : Binary64 := if x.isNaN then .nan else x

theorem isNumeral_shortest {x : Binary64} (hn : x.isNaN = false) (hi : x.isInf = false) :
    IsNumeral x.shortest.toList ∧ (x.shortest.toList.any fun c => c == '.' || c == 'e' || c == 'E') = true := by
  obtain ⟨⟨c, rest, htext, hc⟩, hmark, hchars⟩ := Binary64.isLayout_unsignedText x.abs
  have hbody : x.shortest.toList = (if x.negative then ['-'] else []) ++ x.abs.unsignedText.toList := by
    rw [Binary64.toList_shortest hn, Binary64.body, hi, if_neg Bool.false_ne_true]
  rw [hbody]
  refine ⟨⟨⟨c, rest, ?_, hc⟩, fun d hd => ?_⟩, ?_⟩
  · rw [htext]
    cases x.negative
    · exact .inl rfl
    · exact .inr rfl
  · rcases mem_append.1 hd with hd | hd
    · split at hd
      · rw [mem_singleton.1 hd]
        rfl
      · cases hd
    · rcases hchars d hd with hd | hd
      · exact isNumberChar_of_isDigit hd
      · exact (show ∀ c ∈ ['.', 'e', '+', '-'], isNumberChar c by decide) d hd
  · rw [any_append, Bool.or_eq_true, any_eq_true (l := x.abs.unsignedText.toList)]
    rcases hmark with hmark | hmark <;> exact .inr ⟨_, hmark, rfl⟩

theorem value_float (hrest : EndsNumber rest) (fuel : Nat) :
    value (fuel + 1) ((floatText x).toList ++ rest) = some (.float (plainFloat x), rest) := by
  rw [floatText, plainFloat]
  split
  · rfl
  · next hn =>
    rw [Bool.not_eq_true] at hn
    split
    · next hi =>
      rw [Binary64.isInf, Bool.and_eq_true, beq_iff_eq, beq_iff_eq] at hi
      split
      · next hneg =>
        have hx : x = Binary64.infinity.neg := Binary64.eq_of_fields (hneg.trans (by decide)) (hi.1.trans (by decide)) (hi.2.trans (by decide))
        rw [hx]
        rfl
      · next hneg =>
        rw [Bool.not_eq_true] at hneg
        have hx : x = Binary64.infinity := Binary64.eq_of_fields (hneg.trans (by decide)) (hi.1.trans (by decide)) (hi.2.trans (by decide))
        rw [hx]
        rfl
    · next hi =>
      obtain ⟨hnumeral, hmark⟩ := isNumeral_shortest hn (by simpa using hi)
      rw [value_numeral hnumeral hrest, hmark, if_pos rfl, String.ofList_toList, Binary64.float?_shortest hn]
      rfl

/-! ## Values -/

/-- A text that begins like a value, and that is read in front of every rest that does not go on with a number. -/
structure Reads {α : Type} (part : Nat → List Char → Option (α × List Char)) (t : List Char) (v : α) : Prop where
  head : ∃ c tail, t = c :: tail ∧ c ∉ separators
  read : ∀ fuel, t.length ≤ fuel → ∀ rest, EndsNumber rest → part (fuel + 1) (t ++ rest) = some (v, rest)

theorem blanks_space (cs : List Char) : blanks (' ' :: cs) = blanks cs := rfl

theorem value_space (fuel : Nat) (cs : List Char) : value (fuel + 1) (' ' :: cs) = value (fuel + 1) cs := by
  rw [value, value, blanks_space]

theorem value_quote (fuel : Nat) (cs : List Char) : value (fuel + 1) ('"' :: cs) = (string fuel cs).bind fun p => some (.str p.1, p.2) :=
  rfl

/-! ### Lists of parts -/

section

variable {α : Type} {part : Nat → List Char → Option (α × List Char)} {t : List Char} {v : α} {close : Char} {fuel : Nat}

def joined (ts : List (List Char)) : List Char := [',', ' '].intercalate ts

theorem joined_singleton (t : List Char) : joined [t] = t := intercalate_singleton

theorem joined_cons_cons (t u : List Char) (us : List (List Char)) :
    joined (t :: u :: us) = t ++ ',' :: ' ' :: joined (u :: us) := by
  simp [joined, intercalate_cons_cons]

theorem elements_part (h : Reads part t v) (hfuel : t.length ≤ fuel) (hclose : close ∈ separators) (n : Nat) (acc : List α)
    (hc : c ∈ [',', ']', '\x7d']) : elements close (part (fuel + 1)) (n + 1) acc (blanks (t ++ c :: rest)) =
      elements close (part (fuel + 1)) n (v :: acc) (c :: rest) := by
  obtain ⟨hends, hblank⟩ := (show ∀ c ∈ [',', ']', '\x7d'], isNumberChar c = false ∧
    (c == ' ' || c == '\n' || c == '\t' || c == '\r') = false by decide) c hc
  have hread := h.read fuel hfuel (c :: rest) (endsNumber_cons hends)
  obtain ⟨d, tail, rfl, hd⟩ := h.head
  have hcomma : d ≠ ',' := ne_of_mem_of_not_mem (by decide) hd |>.symm
  rw [List.cons_append] at hread ⊢
  rw [blanks_of_not_separator _ hd, elements, if_neg (ne_of_mem_of_not_mem hclose hd).symm, if_neg hcomma, hread]
  change elements close (part (fuel + 1)) n (v :: acc) (blanks (c :: rest)) = _
  rw [blanks_cons _ hblank]

theorem elements_joined (hclose : close = ']' ∨ close = '\x7d') {ts : List (List Char)} {vs : List α}
    (h : List.Forall₂ (Reads part) ts vs) (hfuel : (joined ts).length ≤ fuel) {n : Nat} (hn : (joined ts).length < n)
    (acc : List α) : elements close (part (fuel + 1)) n acc (blanks (joined ts ++ close :: rest)) = some (acc.reverse ++ vs, rest) := by
  have hlast (n : Nat) (acc : List α) :
      elements close (part (fuel + 1)) (n + 1) acc (close :: rest) = some (acc.reverse, rest) := by
    rw [elements, if_pos rfl]
  have hmem : close ∈ separators := by rcases hclose with rfl | rfl <;> decide
  induction h generalizing acc n with
  | nil =>
    obtain ⟨n, rfl⟩ := Nat.exists_eq_add_of_lt hn
    have hblanks : blanks (close :: rest) = close :: rest := by rcases hclose with rfl | rfl <;> rfl
    change elements close (part (fuel + 1)) _ acc (blanks (close :: rest)) = _
    rw [hblanks, hlast, List.append_nil]
  | @cons t v ts vs ht hts ih =>
    obtain ⟨c, tail, htext, -⟩ := ht.head
    have hpos : t.length = tail.length + 1 := by rw [htext, List.length_cons]
    cases hts with
    | nil =>
      rw [joined_singleton] at hfuel hn ⊢
      obtain ⟨n, rfl⟩ : ∃ m, n = m + 2 := ⟨n - 2, by omega⟩
      rw [elements_part ht hfuel hmem _ _ (by rcases hclose with rfl | rfl <;> decide), hlast]
      simp
    | cons =>
      have hcomma : ',' ≠ close := by rcases hclose with rfl | rfl <;> decide
      simp only [joined_cons_cons, List.length_append, List.length_cons] at hfuel hn
      obtain ⟨n, rfl⟩ : ∃ m, n = m + 2 := ⟨n - 2, by omega⟩
      rw [joined_cons_cons, List.append_assoc, List.cons_append, elements_part ht (by omega) hmem _ _ (by decide), elements,
        if_neg hcomma, if_pos rfl, List.cons_append, blanks_space, ih (by omega) (by omega)]
      simp

theorem reads_enclosed {enclosed : List α → Json} {ts : List (List Char)} {vs : List α} (hc : c ∉ separators)
    (hclose : close = ']' ∨ close = '\x7d') (hvalue : ∀ fuel cs, value (fuel + 1) (c :: cs) =
      (elements close (part fuel) fuel [] (blanks cs)).bind fun p => some (enclosed p.1, p.2))
    (h : List.Forall₂ (Reads part) ts vs) : Reads value (c :: (joined ts ++ [close])) (enclosed vs) := by
  refine ⟨⟨c, _, rfl, hc⟩, fun fuel hfuel rest _ => ?_⟩
  rw [List.length_cons, List.length_append] at hfuel
  obtain ⟨fuel, rfl⟩ : ∃ n, fuel = n + 1 := ⟨fuel - 1, by omega⟩
  rw [List.cons_append, List.append_assoc, List.singleton_append, hvalue, elements_joined hclose h (by omega) (by omega)]
  rfl

end

end TileKernel.Json.Reader

namespace TileKernel.Json

open List

mutual

/-- What is left of a value when it is written. -/
def plain : Json → Json
  | .float x => .float (Reader.plainFloat x)
  | .arr xs => .arr (plainItems xs)
  | .obj ms => .obj (plainMembers ms)
  | v => v

def plainItems : List Json → List Json
  | [] => []
  | x :: xs => plain x :: plainItems xs

def plainMembers : List (String × Json) → List (String × Json)
  | [] => []
  | (k, v) :: ms => (k, plain v) :: plainMembers ms

end

theorem plainItems_map {α : Type} {f : α → Json} (h : ∀ x, (f x).plain = f x) (xs : List α) : plainItems (xs.map f) = xs.map f := by
  induction xs with
  | nil => rfl
  | cons x xs ih => simp only [map_cons, plainItems, h, ih]

namespace Reader

def chars : List Char := (render {} j).toList

def ReadsBack : Prop := Reads value (chars j) j.plain

def ItemsReadBack (xs : List Json) : Prop := List.Forall₂ (Reads value) ((renderItems {} xs).map String.toList) (plainItems xs)

def MembersReadBack (ms : List (String × Json)) : Prop :=
  List.Forall₂ (Reads fun fuel => member (value fuel) fuel) ((renderMembers {} ms).map String.toList) (plainMembers ms)

/-! ### All values -/

theorem ReadsBack.arr {xs : List Json} (hxs : ItemsReadBack xs) : ReadsBack (.arr xs) := by
  have htext : chars (.arr xs) = '[' :: (joined ((renderItems {} xs).map String.toList) ++ [']']) := by
    simp [chars, render, joined, String.toList_intercalate]
  rw [ReadsBack, htext, plain]
  exact reads_enclosed (by decide) (.inl rfl) (fun _ _ => rfl) hxs

theorem ReadsBack.obj {ms : List (String × Json)} (hms : MembersReadBack ms) : ReadsBack (.obj ms) := by
  have htext : chars (.obj ms) = '\x7b' :: (joined ((renderMembers {} ms).map String.toList) ++ ['\x7d']) := by
    simp [chars, render, joined, String.toList_intercalate]
  rw [ReadsBack, htext, plain]
  exact reads_enclosed (by decide) (.inr rfl) (fun _ _ => rfl) hms

theorem ReadsBack.member {x : Json} (hx : ReadsBack x) (k : String) :
    Reads (fun fuel => Reader.member (value fuel) fuel) (quote true k ++ ": " ++ render {} x).toList (k, x.plain) := by
  have htext : (quote true k ++ ": " ++ render {} x).toList =
      '"' :: (k.toList.flatMap escaped ++ '"' :: ':' :: ' ' :: chars x) := by
    simp [toList_quote, chars]
  have hk := length_le_flatMap_escaped k.toList
  rw [htext]
  refine ⟨⟨'"', _, rfl, by decide⟩, fun fuel h rest hrest => ?_⟩
  simp only [length_cons, length_append] at h
  rw [cons_append, append_assoc, cons_append, cons_append, cons_append, Reader.member,
    string_quote k _ (by omega)]
  simp only [Option.bind_eq_bind, Option.bind_some]
  rw [blanks_cons _ rfl]
  simp only [value_space, hx.read fuel (by omega) rest hrest]
  rfl

theorem ReadsBack.str : ReadsBack (.str s) := by
  have hlength := length_le_flatMap_escaped s.toList
  have htext : chars (.str s) = '"' :: (s.toList.flatMap escaped ++ ['"']) := by
    rw [chars, render, ← toList_quote]
  rw [ReadsBack, htext]
  refine ⟨⟨'"', _, rfl, by decide⟩, fun fuel h rest _ => ?_⟩
  simp only [length_cons, length_append] at h
  rw [cons_append, append_assoc, singleton_append, value_quote, string_quote s rest (by omega)]
  rfl

theorem ReadsBack.null : ReadsBack .null := ⟨⟨'n', _, rfl, by decide⟩, fun _ _ _ _ => rfl⟩

theorem ReadsBack.bool (b : Bool) : ReadsBack (.bool b) := by
  cases b <;> exact ⟨⟨_, _, rfl, by decide⟩, fun _ _ _ _ => rfl⟩

theorem ReadsBack.int (n : Int) : ReadsBack (.int n) := by
  rw [ReadsBack, chars, render]
  exact ⟨(isNumeral_toString n).exists_head, fun fuel _ rest hrest => value_int n hrest fuel⟩

theorem ReadsBack.float : ReadsBack (.float x) := by
  rw [ReadsBack, chars, render, plain]
  refine ⟨?_, fun fuel _ rest hrest => value_float x hrest fuel⟩
  rw [floatText]
  split
  · exact ⟨'N', ['a', 'N'], rfl, by decide⟩
  · next hn =>
    split
    · split
      · exact ⟨'-', _, rfl, by decide⟩
      · exact ⟨'I', _, rfl, by decide⟩
    · next hi => exact (isNumeral_shortest (by simpa using hn) (by simpa using hi)).1.exists_head

mutual

theorem readsBack : (j : Json) → ReadsBack j
  | .null => .null
  | .bool b => .bool b
  | .int n => .int n
  | .float x => .float x
  | .str s => .str s
  | .arr xs => .arr (itemsReadBack xs)
  | .obj ms => .obj (membersReadBack ms)

theorem itemsReadBack : (xs : List Json) → ItemsReadBack xs
  | [] => .nil
  | x :: xs => .cons (readsBack x) (itemsReadBack xs)

theorem membersReadBack : (ms : List (String × Json)) → MembersReadBack ms
  | [] => .nil
  | (k, x) :: ms => .cons ((readsBack x).member k) (membersReadBack ms)

end

end Reader

theorem read?_dump : read? (dump {} j) = some j.plain := by
  change read? (render {} j) = _
  have h := (Reader.readsBack j).read (2 * (Reader.chars j).length + 1) (by omega) [] (by rintro _ ⟨⟩)
  rw [append_nil, Reader.chars] at h
  rw [read?, h]
  rfl

end TileKernel.Json
