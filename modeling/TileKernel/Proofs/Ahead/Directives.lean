import TileKernel.Ahead
import TileKernel.Proofs.Number.Texts
import TileKernel.Proofs.Steps
import TileKernel.Proofs.Text.Patterns

/-! # Directives are read back

The line of a header that tells of a compiled kernel is read back exactly: the name of the kernel, the hash, the suffix, the
types and names of the arguments and the constants. The suffix lists the positions of the arguments without separators, each with
its letters, and is decoded by looking for one position after the other; since letters are no digits, the first occurrence
of a position in what is left is the position itself.
-/

namespace TileKernel.Ahead.Header

open List hiding all
open Text Text.Pattern

/-! ## Words and lines -/

/-- A text of letters, digits and underscores that is not empty. -/
def IsWord (s : String) : Prop := s.toList ≠ [] ∧ ∀ c ∈ s.toList, isWord c = true

instance (s : String) : Decidable (IsWord s) := inferInstanceAs (Decidable (_ ∧ _))

def IsLine (s : String) : Prop := s.toList ≠ [] ∧ ∀ c ∈ s.toList, isBreak c = false

instance (s : String) : Decidable (IsLine s) := inferInstanceAs (Decidable (_ ∧ _))

variable {c : Char} {s : String} {cs b : List Char} {args : Named String} (a : String × String) {p : Char → Bool}

theorem isSpace_of_isBreak (h : isBreak c) : isSpace c := by
  simp only [isBreak, isSpace, wideSpaces, Bool.or_eq_true, Bool.and_eq_true, decide_eq_true_eq, beq_iff_eq,
    contains_eq_mem, mem_cons, not_mem_nil] at h ⊢
  omega

theorem isSpace_of_isWord (h : isWord c) : isSpace c = false := by
  rw [Bool.eq_false_iff]
  intro hs
  simp only [isWord, hs, Bool.not_true, Bool.and_false, Bool.or_false, Bool.or_eq_true, beq_iff_eq] at h
  rcases h with h | rfl
  · unfold Char.isAlphanum Char.isAlpha Char.isUpper Char.isLower Char.isDigit at h
    simp only [Bool.or_eq_true, Bool.and_eq_true, decide_eq_true_eq, UInt32.le_iff_toNat_le, ge_iff_le] at h
    simp only [isSpace, wideSpaces, Bool.or_eq_true, Bool.and_eq_true, decide_eq_true_eq, beq_iff_eq, contains_eq_mem,
      mem_cons, not_mem_nil] at hs
    change ((65 ≤ c.toNat ∧ c.toNat ≤ 90) ∨ (97 ≤ c.toNat ∧ c.toNat ≤ 122)) ∨ (48 ≤ c.toNat ∧ c.toNat ≤ 57) at h
    have hblank : c ≠ ' ' := by
      rintro rfl
      revert h
      decide
    simp only [hblank, false_or, or_false] at hs
    omega
  · revert hs
    decide

theorem isBreak_of_isWord (h : isWord c) : isBreak c = false := by
  rw [Bool.eq_false_iff]
  intro hb
  exact absurd (isSpace_of_isBreak hb) (by rw [isSpace_of_isWord h]; decide)

theorem IsWord.isLine (h : IsWord s) : IsLine s := ⟨h.1, fun c hc => isBreak_of_isWord (h.2 c hc)⟩

theorem isOnLine_of_not_isBreak (h : isBreak c = false) : isOnLine c := by
  rw [isOnLine, bne_iff_ne]
  rintro rfl
  revert h
  decide

theorem linesFrom_append (h : ∀ c ∈ cs, isBreak c = false) (start rest : List Char) :
    linesFrom isBreak start (cs ++ rest) = linesFrom isBreak (cs.reverse ++ start) rest := by
  induction cs generalizing start with
  | nil => rfl
  | cons c cs ih =>
    have hc : c ≠ '\r' := by
      rintro rfl
      exact absurd (h _ mem_cons_self) (by decide)
    rw [cons_append, linesFrom.eq_3 _ _ _ _ (fun rest he => absurd he hc), h c mem_cons_self,
      if_neg Bool.false_ne_true, ih fun d hd => h d (mem_cons_of_mem _ hd)]
    simp

theorem lines_of_isLine (h : IsLine s) : lines s = [s] := by
  rw [lines, ← append_nil s.toList, linesFrom_append h.2]
  simp [linesFrom, h.1]

/-! ## The parts of a line -/

theorem stops_cons (h : p c = false) : Stops p (c :: cs) := by
  rintro d ⟨⟩
  exact h

theorem stops_nil : Stops p [] := by
  rintro d ⟨⟩

theorem stops_isSpace {ds : List Char} (hne : cs ≠ []) (h : ∀ c ∈ cs, isWord c) : Stops isSpace (cs ++ ds) := by
  obtain ⟨c, cs, rfl⟩ := exists_cons_of_ne_nil hne
  exact stops_cons (isSpace_of_isWord (h c mem_cons_self))

theorem toList_line (f g i : String) : (line f g i).toList = "//".toList ++ ([' '] ++ ("tt-linker:".toList ++ ([' '] ++
    (f.toList ++ (":".toList ++ (g.toList ++ (":".toList ++ i.toList))))))) := by
  have hmark : "// tt-linker: ".toList = "//".toList ++ ([' '] ++ ("tt-linker:".toList ++ [' '])) := by decide
  change ("// tt-linker: " ++ f ++ ":" ++ g ++ ":" ++ i).toList = _
  simp only [String.toList_append, hmark, append_assoc]

theorem matchStart_line {f g i : String} (hf : IsWord f) (hg : IsLine g) (hi : IsLine i) (hcolon : ':' ∉ i.toList) :
    Reaches (directive.matchStart? (line f g i)) fun m =>
      m.captures = [(3, i.toList), (2, g.toList), (1, f.toList)] := by
  have hblank : ∀ c ∈ [' '], isSpace c := by decide
  rw [matchStart?, directive]
  simp only [all, foldr_cons, foldr_nil]
  rw [andThen, text_of_append (toList_line f g i), andThen]
  refine many_reaches_of_stops (u := [' ']) rfl hblank (stops_cons (by decide)) ?_
  rw [andThen, text_of_append rfl, andThen]
  refine many_reaches_of_stops (u := [' ']) rfl hblank (stops_isSpace hf.1 hf.2) ?_
  refine capture_reaches_of_stops hf.1 rfl hf.2 (stops_cons (by decide)) ?_
  rw [andThen, text_of_append rfl]
  refine capture_reaches hg.1 rfl (fun c hc => isOnLine_of_not_isBreak (hg.2 c hc)) ?_ ?_
  · rw [andThen, text_of_append rfl]
    refine capture_reaches_of_stops hi.1 (append_nil _).symm (fun c hc => isOnLine_of_not_isBreak (hi.2 c hc)) stops_nil ?_
    exact reaches_some rfl
  · -- a longer signature would reach into the constants, where there is no colon
    intro w x hw hx hpw
    rw [andThen, text_eq_none (t := ":") (c := ':') rfl]
    rintro d hd rfl
    obtain ⟨c, w, rfl⟩ := exists_cons_of_ne_nil hw
    have hsplit : i.toList = w ++ x := (cons.inj hx).2
    exact hcolon (hsplit ▸ mem_append_right _ (mem_of_mem_head? hd))

theorem matchStart_functionName {n h x : String} (hn : IsWord n) (hh : IsWord h) (hx : IsWord x) (hhash : '_' ∉ h.toList)
    (hsuffix : '_' ∉ x.toList) :
    Reaches (compiledName.matchStart? (functionName n h x)) fun m =>
      m.captures = [(3, x.toList), (2, h.toList), (1, n.toList)] := by
  have hrest : (functionName n h x).toList = n.toList ++ ("_".toList ++ (h.toList ++ ("_".toList ++ x.toList))) := by
    simp only [functionName, String.toList_append, append_assoc]
  -- behind a run that leaves no underscore there is no further part
  have hnone : ∀ (s : MatchState) (k : MatchState → Option MatchState), '_' ∉ s.rest → text "_" s k = none := by
    intro s k hs
    refine text_eq_none (t := "_") (c := '_') rfl ?_
    rintro d hd rfl
    exact hs (mem_of_mem_head? hd)
  rw [matchStart?, compiledName]
  simp only [all, foldr_cons, foldr_nil]
  rw [andThen]
  refine capture_reaches hn.1 hrest hn.2 ?_ ?_
  · rw [andThen, text_of_append rfl, andThen]
    refine capture_reaches hh.1 rfl hh.2 ?_ ?_
    · rw [andThen, text_of_append rfl, andThen]
      refine capture_reaches_of_stops hx.1 (append_nil _).symm hx.2 stops_nil ?_
      exact reaches_some rfl
    · intro w y hw hy hpw
      obtain ⟨c, w, rfl⟩ := exists_cons_of_ne_nil hw
      rw [andThen, hnone]
      have hsplit : x.toList = w ++ y := (cons.inj hy).2
      exact fun hmem => hsuffix (hsplit ▸ mem_append_right _ hmem)
  · -- a longer name leaves at most one underscore, and two parts are to follow
    intro w y hw hy hpw
    obtain ⟨c, w, rfl⟩ := exists_cons_of_ne_nil hw
    have hsplit : h.toList ++ ("_".toList ++ x.toList) = w ++ y := (cons.inj hy).2
    have hcount : (w ++ y).count '_' = 1 := by
      rw [← hsplit]
      simp [count_append, count_eq_zero.2 hhash, count_eq_zero.2 hsuffix]
    by_cases hmem : y.head? = some '_'
    · obtain ⟨z, rfl⟩ : ∃ z, y = '_' :: z := head?_eq_some_iff.1 hmem
      have hz : '_' ∉ z := by
        rw [count_append, count_cons_self] at hcount
        exact count_eq_zero.1 (by omega)
      rw [andThen, text_of_append (t := "_") (v := z) rfl, andThen]
      refine capture_eq_none fun u v _ huv => ?_
      rw [andThen, hnone]
      have hzuv : z = u ++ v := huv
      exact fun hv => hz (hzuv ▸ mem_append_right _ hv)
    · rw [andThen, text_eq_none (t := "_") (c := '_') rfl]
      rintro d hd rfl
      exact hmem hd

/-! ## Signatures -/

def IsArgument : Prop := IsWord a.1 ∧ IsWord a.2

instance : Decidable (IsArgument a) := inferInstanceAs (Decidable (_ ∧ _))

def argumentText : String := a.1 ++ " " ++ a.2

def signatureText (args : Named String) : String := commaSeparated (args.map argumentText)

def signatureChars (args : Named String) : List Char :=
  [',', ' '].intercalate (args.map fun a => a.1.toList ++ ' ' :: a.2.toList)

theorem toList_signatureText (args : Named String) : (signatureText args).toList = signatureChars args := by
  have hcomma : ", ".toList = [',', ' '] := rfl
  have hblank : " ".toList = [' '] := rfl
  simp only [signatureText, commaSeparated, String.toList_intercalate, map_map, hcomma, signatureChars]
  congr 2
  funext a
  simp [argumentText, hblank]

theorem signatureChars_cons (as : Named String) :
    ∃ w, signatureChars (a :: as) = a.1.toList ++ ' ' :: (a.2.toList ++ w) ∧ Stops isWord w ∧
      (as = [] ∧ w = [] ∨ as ≠ [] ∧ w = ',' :: ' ' :: signatureChars as) := by
  cases as with
  | nil => exact ⟨[], by simp [signatureChars], stops_nil, .inl ⟨rfl, rfl⟩⟩
  | cons b bs =>
    refine ⟨',' :: ' ' :: signatureChars (b :: bs), ?_, stops_cons (by decide), .inr ⟨by simp, rfl⟩⟩
    simp [signatureChars, intercalate_cons_cons]

theorem argument_reaches {s : MatchState} {w : List Char} {a : String × String} (ha : IsArgument a)
    (hs : s.rest = b ++ (a.1.toList ++ ' ' :: (a.2.toList ++ w))) (hb : ∀ c ∈ b, isSpace c) (hw : Stops isWord w)
    (hend : w = [] ∨ ∃ v, w = ',' :: v) : Reaches (argument s some) fun e =>
      e.captures = (2, a.2.toList) :: (1, a.1.toList) :: s.captures ∧ e.rest = w.drop 1 ∧ e.position > s.position := by
  rw [argument]
  simp only [all, foldr_cons, foldr_nil]
  rw [andThen]
  refine many_reaches_of_stops hs hb (stops_isSpace ha.1.1 ha.1.2) ?_
  rw [andThen]
  refine capture_reaches_of_stops ha.1.1 rfl ha.1.2 (stops_cons (by decide)) ?_
  rw [andThen, one_of_cons rfl (by decide), andThen]
  refine capture_reaches_of_stops ha.2.1 rfl ha.2.2 hw ?_
  rw [andThen, Pattern.optional, upTo_succ]
  rcases hend with rfl | ⟨v, rfl⟩
  · rw [text_eq_none (t := ",") (c := ',') rfl (by simp)]
    exact reaches_some ⟨rfl, rfl, by simp; omega⟩
  · rw [text_of_append (t := ",") (v := v) rfl, if_pos (by simp)]
    exact reaches_some ⟨rfl, rfl, by simp; omega⟩

theorem argument_nil {s : MatchState} (hs : s.rest = []) : argument s some = none := by
  rw [argument]
  simp only [all, foldr_cons, foldr_nil]
  rw [andThen]
  refine upTo_eq_none _ fun u v huv _ => ?_
  obtain ⟨-, rfl⟩ := append_eq_nil_iff.1 (huv.symm.trans hs)
  rw [andThen]
  refine capture_eq_none fun u v hu huv => ?_
  exact absurd (append_eq_nil_iff.1 huv.symm).1 hu

def captured (m : MatchState) : String × String := (m.group 1, m.group 2)

theorem go_eq (hargs : ∀ a ∈ args, IsArgument a) {s : MatchState}
    (hb : ∀ c ∈ b, isSpace c) (hs : s.rest = if args = [] then [] else b ++ signatureChars args)
    (hcaptures : s.captures = []) {fuel : Nat} (hfuel : args.length < fuel) : (findAll.go argument fuel s).map captured = args := by
  induction args generalizing s b fuel with
  | nil =>
    obtain ⟨n, rfl⟩ := Nat.exists_eq_add_of_lt hfuel
    rw [if_pos rfl] at hs
    rw [findAll.go, searchFrom, argument_nil hs, hs]
    rfl
  | cons a as ih =>
    obtain ⟨n, rfl⟩ := Nat.exists_eq_add_of_lt hfuel
    obtain ⟨w, htext, hstop, hw⟩ := signatureChars_cons a as
    rw [if_neg (by simp), htext] at hs
    obtain ⟨e, he, hcap, hrest, hpos⟩ := argument_reaches (hargs a mem_cons_self) hs hb hstop (by
      rcases hw with ⟨-, rfl⟩ | ⟨-, rfl⟩
      · exact .inl rfl
      · exact .inr ⟨_, rfl⟩)
    rw [findAll.go, searchFrom, he]
    simp only [hpos, if_true, map_cons]
    congr 1
    · rw [hcaptures] at hcap
      simp [captured, MatchState.group, MatchState.group?, hcap, lookup_cons]
    · refine ih (fun x hx => hargs x (mem_cons_of_mem _ hx)) (b := [' ']) (by decide) ?_ rfl (by simp; omega)
      change e.rest = _
      rcases hw with ⟨rfl, rfl⟩ | ⟨hne, rfl⟩
      · rw [hrest]
        rfl
      · rw [hrest, if_neg hne]
        rfl

theorem length_le_signatureChars (args : Named String) : args.length ≤ (signatureChars args).length := by
  induction args with
  | nil => simp
  | cons a as ih =>
    obtain ⟨w, htext, -, hw⟩ := signatureChars_cons a as
    rw [htext]
    rcases hw with ⟨rfl, rfl⟩ | ⟨-, rfl⟩ <;> simp only [length_append, length_cons, length_nil] at * <;> omega

theorem findAll_signatureText (hargs : ∀ a ∈ args, IsArgument a) (hne : args ≠ []) :
    (findAll argument (signatureText args)).map captured = args := by
  refine go_eq (b := []) hargs (by simp) ?_ rfl ?_
  · rw [if_neg hne, nil_append, ← toList_signatureText]
  · have hle := length_le_signatureChars args
    rw [← toList_signatureText, String.length_toList] at hle
    omega

theorem length_splitOn_signatureChars (hargs : ∀ a ∈ args, IsArgument a) (hne : args ≠ [])
    (hb : ',' ∉ b) : ((b ++ signatureChars args).splitOn ',').length = args.length := by
  have hword : ∀ {s : String}, IsWord s → ',' ∉ s.toList := by
    intro s hs hmem
    have := hs.2 _ hmem
    revert this
    decide
  induction args generalizing b with
  | nil => exact absurd rfl hne
  | cons a as ih =>
    obtain ⟨w, htext, -, hw⟩ := signatureChars_cons a as
    have ha := hargs a mem_cons_self
    have hfront : ',' ∉ b ++ (a.1.toList ++ ' ' :: a.2.toList) := by
      simp [hb, hword ha.1, hword ha.2]
    have hall : b ++ signatureChars (a :: as) = b ++ (a.1.toList ++ ' ' :: a.2.toList) ++ w := by
      rw [htext]
      simp
    rw [hall]
    rcases hw with ⟨rfl, rfl⟩ | ⟨has, rfl⟩
    · rw [append_nil, splitOn_eq_singleton hfront]
      rfl
    · rw [splitOn_append_cons_self_of_not_mem hfront, length_cons, length_cons]
      have hrest := ih (fun x hx => hargs x (mem_cons_of_mem _ hx)) has (b := [' ']) (by decide)
      rw [singleton_append] at hrest
      rw [hrest]

theorem length_parts_signatureText (hargs : ∀ a ∈ args, IsArgument a) (hne : args ≠ []) :
    (parts ',' (signatureText args)).length = args.length := by
  rw [parts, length_map, toList_signatureText]
  exact length_splitOn_signatureChars (b := []) hargs hne (by simp)

theorem mem_signatureChars (h : c ∈ signatureChars args) : c = ',' ∨ c = ' ' ∨ ∃ a ∈ args, c ∈ a.1.toList ∨ c ∈ a.2.toList := by
  induction args with
  | nil => cases h
  | cons a as ih =>
    obtain ⟨w, htext, -, hw⟩ := signatureChars_cons a as
    have hrest : c ∈ w → c = ',' ∨ c = ' ' ∨ c ∈ signatureChars as := by
      rcases hw with ⟨-, rfl⟩ | ⟨-, rfl⟩ <;> simp
    rw [htext, mem_append, mem_cons, mem_append] at h
    grind

theorem isLine_signatureText (hargs : ∀ a ∈ args, IsArgument a) (hne : args ≠ []) : IsLine (signatureText args) := by
  rw [IsLine, toList_signatureText]
  constructor
  · obtain ⟨a, as, rfl⟩ := exists_cons_of_ne_nil hne
    obtain ⟨w, htext, -⟩ := signatureChars_cons a as
    simp [htext]
  · intro c hc
    rcases mem_signatureChars hc with rfl | rfl | ⟨a, ha, hca | hca⟩
    · decide
    · decide
    · exact (hargs a ha).1.isLine.2 c hca
    · exact (hargs a ha).2.isLine.2 c hca

/-! ## Suffixes -/

def letters (spec : Types.Specialization) (i : Nat) : List Char :=
  (if spec.equalTo1.contains (i : Int) then ['c'] else []) ++ (if spec.divisibleBy16.contains (i : Int) then ['d'] else []) ++
    (if spec.divisibleBy8.contains (i : Int) then ['e'] else [])

/-- What a suffix says of a position: that the argument is one, or else that it is divisible by sixteen. -/
def hintAt (spec : Types.Specialization) (i : Nat) : Option Hint :=
  if spec.equalTo1.contains (i : Int) then some .isOne
  else if spec.divisibleBy16.contains (i : Int) then some .divisibleBy16 else none

def suffixFrom (spec : Types.Specialization) (i n : Nat) : List Char :=
  (List.range' i n).flatMap fun i => (toString i).toList ++ letters spec i

theorem toList_kernelSuffix (n : Nat) (spec : Types.Specialization) : (Types.kernelSuffix n spec).toList = suffixFrom spec 0 n := by
  have hletter (b : Bool) (s : String) : (if b then s else "").toList = if b then s.toList else [] := by
    cases b <;> rfl
  rw [Types.kernelSuffix, suffixFrom, ← range_eq_range']
  refine Steps.toList_foldl (fun acc n => ?_) (range n) ""
  simp only [String.toList_append, hletter, letters, append_assoc]
  rfl

theorem behind_eq {part junk rest : List Char} (hpart : ∀ c ∈ part.head?, c ∉ junk) (hne : part ≠ []) :
    behind? part (junk ++ (part ++ rest)) = some rest := by
  induction junk with
  | nil =>
    obtain ⟨c, part, rfl⟩ := exists_cons_of_ne_nil hne
    rw [nil_append, cons_append, behind?, if_pos (by simp)]
    simp
  | cons d junk ih =>
    obtain ⟨c, part, rfl⟩ := exists_cons_of_ne_nil hne
    have hc := hpart c rfl
    rw [cons_append, behind?, if_neg, ih fun x hx => fun hmem => hpart x hx (mem_cons_of_mem _ hmem)]
    simp only [isPrefixOf, Bool.and_eq_true, beq_iff_eq]
    rintro ⟨rfl, -⟩
    exact hc mem_cons_self

/-- The letters of a position state the assumption on it, and the other ones are no digits. -/
theorem letters_spec (spec : Types.Specialization) (i : Nat) {rest : List Char} (hrest : ∀ c ∈ rest.head?, c.isDigit) :
    (letters spec i ++ rest).head?.bind hintOf = hintAt spec i ∧
      ∃ junk, (∀ c ∈ junk, c.isDigit = false) ∧
        (if (hintAt spec i).isSome then (letters spec i ++ rest).drop 1 else letters spec i ++ rest) = junk ++ rest := by
  have hdigit : ∀ c ∈ rest.head?, hintOf c = none := by
    intro c hc
    have := hrest c hc
    fun_cases hintOf c
    · simp at this
    · simp at this
    · rfl
  rw [letters, hintAt]
  cases spec.equalTo1.contains (i : Int) <;> cases spec.divisibleBy16.contains (i : Int) <;>
    cases spec.divisibleBy8.contains (i : Int)
  · refine ⟨?_, [], by simp, rfl⟩
    cases rest with
    | nil => rfl
    | cons c rest => exact hdigit c rfl
  · exact ⟨rfl, ['e'], by simp, rfl⟩
  · exact ⟨rfl, [], by simp, rfl⟩
  · exact ⟨rfl, ['e'], by simp, rfl⟩
  · exact ⟨rfl, [], by simp, rfl⟩
  · exact ⟨rfl, ['e'], by simp, rfl⟩
  · exact ⟨rfl, ['d'], by simp, rfl⟩
  · exact ⟨rfl, ['d', 'e'], by simp, rfl⟩

theorem suffixFrom_succ (spec : Types.Specialization) (i n : Nat) :
    suffixFrom spec i (n + 1) = (toString i).toList ++ (letters spec i ++ suffixFrom spec (i + 1) n) := by
  rw [suffixFrom, range'_succ, flatMap_cons, append_assoc]
  rfl

theorem isDigit_head_suffixFrom (spec : Types.Specialization) (i n : Nat) :
    ∀ c ∈ (suffixFrom spec i n).head?, c.isDigit := by
  intro c hc
  cases n with
  | zero => cases hc
  | succ n =>
    rw [suffixFrom_succ, head?_append_of_ne_nil _ (by simp)] at hc
    exact DecimalDigits.allDigits_toString i c (mem_of_mem_head? hc)

/-- The positions of a suffix are found one by one; letters that are left from the position before are passed over. -/
theorem hints_suffixFrom (spec : Types.Specialization) (n : Nat) :
    ∀ (i : Nat) (junk : List Char), (∀ c ∈ junk, c.isDigit = false) →
      hints (junk ++ suffixFrom spec i n) i n = .ok ((List.range' i n).map (hintAt spec)) := by
  induction n with
  | zero =>
    intro i junk _
    rfl
  | succ n ih =>
    intro i junk hjunk
    obtain ⟨hhead, junk', hjunk', hdrop⟩ := letters_spec spec i (isDigit_head_suffixFrom spec (i + 1) n)
    rw [hints, suffixFrom_succ, behind_eq _ (by simp)]
    · simp only [hhead, hdrop, ih (i + 1) junk' hjunk']
      rfl
    · intro c hc hmem
      have hdigit := DecimalDigits.allDigits_toString i c (mem_of_mem_head? hc)
      rw [hjunk c hmem] at hdigit
      cases hdigit

theorem hints_kernelSuffix (n : Nat) (spec : Types.Specialization) :
    hints (Types.kernelSuffix n spec).toList 0 n = .ok ((List.range n).map (hintAt spec)) := by
  rw [toList_kernelSuffix, range_eq_range']
  exact hints_suffixFrom spec n 0 [] (by simp)

theorem isWord_of_isDigit (h : c.isDigit) : isWord c := by
  simp [isWord, Char.isAlphanum, h]

theorem mem_kernelSuffix {n : Nat} {spec : Types.Specialization} (h : c ∈ (Types.kernelSuffix n spec).toList) :
    c.isDigit ∨ c ∈ ['c', 'd', 'e'] := by
  rw [toList_kernelSuffix, suffixFrom, mem_flatMap] at h
  obtain ⟨i, -, h⟩ := h
  rcases mem_append.1 h with h | h
  · exact .inl (DecimalDigits.allDigits_toString i c h)
  · refine .inr ?_
    simp only [letters, mem_append] at h
    rcases h with (h | h) | h <;> split at h <;> simp_all

theorem isWord_kernelSuffix {n : Nat} (hn : 0 < n) (spec : Types.Specialization) :
    IsWord (Types.kernelSuffix n spec) ∧ '_' ∉ (Types.kernelSuffix n spec).toList := by
  refine ⟨⟨?_, fun c hc => ?_⟩, fun hc => ?_⟩
  · obtain ⟨n, rfl⟩ := Nat.exists_eq_add_of_lt hn
    rw [toList_kernelSuffix, Nat.zero_add, suffixFrom_succ]
    simp
  · rcases mem_kernelSuffix hc with h | h
    · exact isWord_of_isDigit h
    · fin_cases h <;> decide
  · rcases mem_kernelSuffix hc with h | h
    · exact absurd h (by decide)
    · exact absurd h (by decide)

/-! ## Directives -/

theorem IsWord.append {t : String} (hs : IsWord s) (ht : IsWord t) : IsWord (s ++ t) := by
  rw [IsWord, String.toList_append]
  refine ⟨by simp [hs.1], fun c hc => ?_⟩
  rcases mem_append.1 hc with hc | hc
  · exact hs.2 c hc
  · exact ht.2 c hc

theorem isWord_functionName {n h x : String} (hn : IsWord n) (hh : IsWord h) (hx : IsWord x) : IsWord (functionName n h x) := by
  have hunder : IsWord "_" := by decide
  exact (((hn.append hunder).append hh).append hunder).append hx

def variantOf (name hash : String) (args : Named String) (spec : Types.Specialization) : Variant :=
  { kernel := name, argNames := args.map (·.2), argTypes := args.map (·.1)
    hints := (List.range args.length).map (hintAt spec), signatureHash := hash
    suffix := Types.kernelSuffix args.length spec
    hintCount := (((List.range args.length).map (hintAt spec)).filter Option.isSome).length }

/-- The directive of a kernel that was compiled for arguments with given types and names. -/
def directiveOf (name hash : String) (args : Named String) (spec : Types.Specialization) (constants : String) : String :=
  line (functionName name hash (Types.kernelSuffix args.length spec)) (signatureText args) constants

section

variable {name hash constants : String} {args : Named String} (spec : Types.Specialization)
  (hname : IsWord name) (hhash : IsWord hash) (hunder : '_' ∉ hash.toList) (hargs : ∀ a ∈ args, IsArgument a)
  (hne : args ≠ []) (hconstants : IsLine constants) (hcolon : ':' ∉ constants.toList)
include hname hhash hunder hargs hne

theorem variant_eq :
    variant (functionName name hash (Types.kernelSuffix args.length spec)) (signatureText args) constants =
      .ok (name ++ "_" ++ constants, variantOf name hash args spec) := by
  obtain ⟨hsuffix, hsuffix'⟩ := isWord_kernelSuffix (length_pos_of_ne_nil hne) spec
  obtain ⟨m, hm, hcaptures⟩ := matchStart_functionName hname hhash hsuffix hunder hsuffix'
  have hgroup : m.group 1 = name ∧ m.group 2 = hash ∧ m.group 3 = Types.kernelSuffix args.length spec := by
    simp [MatchState.group, MatchState.group?, hcaptures, lookup_cons]
  have hfound := findAll_signatureText hargs hne
  have hsome : (findAll argument (signatureText args)).isEmpty = false := by
    rw [Bool.eq_false_iff, Ne, List.isEmpty_iff]
    intro hnil
    rw [hnil] at hfound
    exact hne hfound.symm
  have htypes : (findAll argument (signatureText args)).map (·.group 1) = args.map (·.1) := by
    have h := congrArg (map Prod.fst) hfound
    rwa [map_map] at h
  have hnames : (findAll argument (signatureText args)).map (·.group 2) = args.map (·.2) := by
    have h := congrArg (map Prod.snd) hfound
    rwa [map_map] at h
  rw [variant, hm]
  simp only [hgroup, hsome, length_parts_signatureText hargs hne, hints_kernelSuffix, htypes, hnames]
  rfl

include hconstants hcolon

theorem readLine_directiveOf (vs : Variants) : readLine (directiveOf name hash args spec constants) vs =
    match add vs (name ++ "_" ++ constants) (variantOf name hash args spec) with
    | .ok vs => .ok () vs
    | .error f => .error f vs := by
  obtain ⟨hsuffix, -⟩ := isWord_kernelSuffix (length_pos_of_ne_nil hne) spec
  obtain ⟨m, hm, hcaptures⟩ := matchStart_line (isWord_functionName hname hhash hsuffix) (isLine_signatureText hargs hne)
    hconstants hcolon
  have hstart : (directiveOf name hash args spec constants).startsWith "//" := by
    rw [String.startsWith_string_iff, directiveOf, toList_line]
    exact prefix_append _ _
  have hgroup : m.group 1 = functionName name hash (Types.kernelSuffix args.length spec) ∧
      m.group 2 = signatureText args ∧ m.group 3 = constants := by
    simp [MatchState.group, MatchState.group?, hcaptures, lookup_cons]
  rw [readLine, if_pos hstart, directiveOf, hm]
  simp only [hgroup, variant_eq spec hname hhash hunder hargs hne]
  change (EStateM.bind _ _) vs = _
  simp only [EStateM.bind, show (get : Reading Variants) vs = .ok vs vs from rfl]
  cases add vs (name ++ "_" ++ constants) (variantOf name hash args spec) <;> rfl

omit hunder hcolon in
theorem isLine_directiveOf : IsLine (directiveOf name hash args spec constants) := by
  obtain ⟨hsuffix, -⟩ := isWord_kernelSuffix (length_pos_of_ne_nil hne) spec
  have hfunction := (isWord_functionName hname hhash hsuffix).isLine
  have hsignature := isLine_signatureText hargs hne
  have hfixed : ∀ c ∈ "//".toList ++ [' '] ++ "tt-linker:".toList, isBreak c = false := by decide
  rw [IsLine, directiveOf, toList_line]
  refine ⟨by simp, fun c hc => ?_⟩
  simp only [mem_append] at hc hfixed
  grind [IsLine]

theorem read_directiveOf :
    read (directiveOf name hash args spec constants) [] = .ok () [(name ++ "_" ++ constants, [variantOf name hash args spec])] := by
  have hline := readLine_directiveOf spec hname hhash hunder hargs hne hconstants hcolon []
  have hadd : add [] (name ++ "_" ++ constants) (variantOf name hash args spec) =
      .ok [(name ++ "_" ++ constants, [variantOf name hash args spec])] := rfl
  rw [read, lines_of_isLine (isLine_directiveOf spec hname hhash hargs hne hconstants)]
  change EStateM.bind _ _ [] = _
  rw [EStateM.bind, hline, hadd]
  rfl

end

/-- A directive is read back: the name, the hash and the suffix of the kernel, the types and names of the arguments in order, what
the kernel assumes of each argument, and how many assumptions there are. -/
theorem directive_read_back (name hash constants : String) (args : List (String × String)) (spec : Types.Specialization)
    (hname : IsWord name) (hhash : IsWord hash) (hunder : '_' ∉ hash.toList) (hne : args ≠ [])
    (hargs : ∀ a ∈ args, IsWord a.1 ∧ IsWord a.2) (hconstants : IsLine constants) (hcolon : ':' ∉ constants.toList) :
    ∃ v : Variant, read (directiveOf name hash args spec constants) [] = .ok () [(name ++ "_" ++ constants, [v])] ∧
      v.kernel = name ∧ v.signatureHash = hash ∧ v.suffix = Types.kernelSuffix args.length spec ∧
      v.argTypes = args.map (·.1) ∧ v.argNames = args.map (·.2) ∧
      v.hints.map (·.map Hint.size) = (List.range args.length).map (fun (i : Nat) =>
        if (i : Int) ∈ spec.equalTo1 then some 1 else if (i : Int) ∈ spec.divisibleBy16 then some 16 else none) ∧
      v.hintCount = (v.hints.filter Option.isSome).length := by
  refine ⟨variantOf name hash args spec, read_directiveOf spec hname hhash hunder hargs hne hconstants hcolon,
    rfl, rfl, rfl, rfl, rfl, ?_, rfl⟩
  rw [variantOf, map_map]
  refine map_congr_left fun i _ => ?_
  simp only [Function.comp_apply, hintAt, contains_iff_mem]
  split
  · rfl
  · split <;> rfl

/-- Twelve arguments: the position 1 is not taken for a part of 10 or 11, and letters of all kinds stand between positions. -/
theorem directive_of_twelve_read_back :
    (∀ a ∈ (List.range 12).map fun i => ("int32_t", "x" ++ toString i), IsWord a.1 ∧ IsWord a.2) ∧
      ∃ v : Variant, read (directiveOf "my_kernel_1" "0a1b2c3d" ((List.range 12).map fun i => ("int32_t", "x" ++ toString i))
          { equalTo1 := [1, 10], divisibleBy16 := [0, 1, 11], divisibleBy8 := [0, 10, 4] } "16x_warps4xstages3") [] =
          .ok () [("my_kernel_1_16x_warps4xstages3", [v])] ∧
        v.kernel = "my_kernel_1" ∧ v.hints.map (·.map Hint.size) =
          [some 16, some 1, none, none, none, none, none, none, none, none, some 1, some 16] := by
  have hargs : ∀ a ∈ (range 12).map fun i => ("int32_t", "x" ++ toString i), IsWord a.1 ∧ IsWord a.2 := by decide +kernel
  obtain ⟨v, hread, hkernel, -, -, -, -, hhints, -⟩ := directive_read_back "my_kernel_1" "0a1b2c3d"
    "16x_warps4xstages3" _ { equalTo1 := [1, 10], divisibleBy16 := [0, 1, 11], divisibleBy8 := [0, 10, 4] }
    (by decide +kernel) (by decide +kernel) (by decide +kernel) (by simp) hargs (by decide +kernel) (by decide +kernel)
  exact ⟨hargs, v, hread, hkernel, hhints⟩

end TileKernel.Ahead.Header
