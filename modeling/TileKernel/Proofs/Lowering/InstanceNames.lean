import TileKernel.Lowering.Function
import TileKernel.Proofs.Number.Rounding
import TileKernel.Proofs.Steps

/-! # Names of instances

An instance of a function is named by the name of the function, the types of the run-time arguments, and for every constant
argument its position and its text, with the characters spelled out that cannot stand in a symbol. Main statement: calls with
the same types ask for one instance exactly if the names of their functions and the positions and spelled texts of their
constants agree. Read field by field, between underscores, a name shows each constant behind a mark. Nothing else about a
function enters its name, and a text tells a constant only among values of some kinds.
-/

variable {s : String} {x : Binary64}

namespace TileKernel.Types

open Steps DecimalDigits List

/-! ## Fields of a name -/

/-- The parts of a name between underscores. -/
def fields (cs : List Char) : List (List Char) := cs.splitOn '_'

theorem fields_append (xs ys : List Char) : fields (xs ++ '_' :: ys) = fields xs ++ fields ys :=
  splitOn_append_cons_self xs ys

theorem fields_cons (ys : List Char) : fields ('_' :: ys) = [] :: fields ys := fields_append [] ys

variable {cs : List Char} {c : Char} {cs' : List (Nat × String)} (name types : List Char) (i : Nat) {ls : List (List Char)}
  {xs ys : List Char}

theorem fields_eq_singleton (h : '_' ∉ cs) : fields cs = [cs] := splitOn_eq_singleton h

theorem fields_injective (h : fields xs = fields ys) : xs = ys := by
  have hx : ['_'].intercalate (fields xs) = xs := intercalate_splitOn '_'
  have hy : ['_'].intercalate (fields ys) = ys := intercalate_splitOn '_'
  rw [← hx, ← hy, h]

theorem fields_intercalate (h : ls ≠ []) : fields (['_'].intercalate ls) = ls.flatMap fields := by
  induction ls with
  | nil => exact absurd rfl h
  | cons l ls ih =>
    cases ls with
    | nil => simp
    | cons l' ls =>
      rw [intercalate_cons_cons, append_assoc, singleton_append, fields_append, ih (by simp)]
      rfl

/-! ## Spelled texts -/

/-- A text with the characters spelled out that cannot stand in a name. -/
def spell (cs : List Char) : List Char := cs.flatMap fun c => (mangleChar c).toList

theorem spell_append (xs ys : List Char) : spell (xs ++ ys) = spell xs ++ spell ys := flatMap_append

theorem spell_intercalate (ls : List (List Char)) :
    spell ([c].intercalate ls) = (mangleChar c).toList.intercalate (ls.map spell) := by
  induction ls with
  | nil => rfl
  | cons l ls ih =>
    cases ls with
    | nil => simp
    | cons l' ls =>
      rw [intercalate_cons_cons, spell_append, spell_append, ih]
      simp [intercalate_cons_cons, spell]

theorem toList_foldl_mangleChar (cs : List Char) (s : String) :
    (cs.foldl (fun acc c => acc ++ mangleChar c) s).toList = s.toList ++ spell cs :=
  toList_foldl (g := fun c => (mangleChar c).toList) (fun _ _ => String.toList_append) cs s

/-- Characters other than the dot that are spelled out, and the underscore that they are spelled with. -/
def special : List Char := ['_', '\'', '[', ']']

theorem mangleChar_of_notMem (h : c ∉ special) (hd : c ≠ '.') : (mangleChar c).toList = [c] := by
  have h' : c ≠ '_' ∧ c ≠ '\'' ∧ c ≠ '[' ∧ c ≠ ']' := by simpa [special] using h
  unfold mangleChar
  split <;> simp_all

theorem spell_eq_self (h : ∀ c ∈ cs, c ∉ special ∧ c ≠ '.') : spell cs = cs := by
  induction cs with
  | nil => rfl
  | cons c cs ih =>
    have hc := h c mem_cons_self
    simp only [spell, flatMap_cons, mangleChar_of_notMem hc.1 hc.2]
    exact congrArg (c :: ·) (ih fun c' hc' => h c' (mem_cons_of_mem _ hc'))

theorem spell_injective (hx : ∀ c ∈ xs, c ∉ special) (hy : ∀ c ∈ ys, c ∉ special) (h : spell xs = spell ys) : xs = ys := by
  -- the first character of a spelling tells the character that was spelled
  have first : ∀ c, c ∉ special → ∃ d ds, (mangleChar c).toList = d :: ds ∧ ((d = '_') ↔ c = '.') ∧ (c ≠ '.' → d = c ∧ ds = []) := by
    intro c hc
    by_cases hd : c = '.'
    · subst hd
      exact ⟨'_', ['d', '_'], rfl, by simp, by simp⟩
    · refine ⟨c, [], mangleChar_of_notMem hc hd, ?_, fun _ => ⟨rfl, rfl⟩⟩
      have : c ≠ '_' := fun he => hc (he ▸ mem_cons_self)
      simp [this, hd]
  induction xs generalizing ys with
  | nil =>
    cases ys with
    | nil => rfl
    | cons y ys =>
      obtain ⟨d, ds, hd, -⟩ := first y (hy y mem_cons_self)
      simp [spell, hd] at h
  | cons x xs ih =>
    obtain ⟨d, ds, hd, hdot, hself⟩ := first x (hx x mem_cons_self)
    cases ys with
    | nil => simp [spell, hd] at h
    | cons y ys =>
      obtain ⟨e, es, he, hdot', hself'⟩ := first y (hy y mem_cons_self)
      have hheads : d = e := by
        simp only [spell, flatMap_cons, hd, he, cons_append, cons.injEq] at h
        exact h.1
      have hxy : x = y := by
        by_cases hx' : x = '.'
        · rw [hx', hdot'.1 (hheads ▸ hdot.2 hx')]
        · have hy' : y ≠ '.' := fun hy' => hx' (hdot.1 (hheads ▸ hdot'.2 hy'))
          rw [← (hself hx').1, ← (hself' hy').1, hheads]
      subst hxy
      congr 1
      refine ih (fun c hc => hx c (mem_cons_of_mem _ hc)) (fun c hc => hy c (mem_cons_of_mem _ hc)) ?_
      simpa only [spell, flatMap_cons, append_cancel_left_eq] using h

theorem mem_intercalate {d : Char} (h : c ∈ [d].intercalate ls) : c = d ∨ ∃ l ∈ ls, c ∈ l := by
  obtain ⟨l, hl, hc⟩ := mem_flatten.1 h
  obtain ⟨i, hi, rfl⟩ := getElem_of_mem hl
  rw [getElem_intersperse] at hc
  split at hc
  · exact .inr ⟨_, getElem_mem _, hc⟩
  · exact .inl (mem_singleton.1 hc)

/-! ## Types in names -/

theorem notMem_mangleTy {t : Ty} (h : mangleTy t = .ok s) : 'c' ∉ s.toList := by
  induction t generalizing s with
  | scalar t =>
    cases t <;> cases h <;> decide
  | pointer e space ih =>
    obtain ⟨u, hu, hs⟩ := bind_eq_ok.1 h
    obtain rfl := pure_eq_ok.1 hs
    simpa using ih hu
  | block e shape ih =>
    obtain ⟨u, hu, hs⟩ := bind_eq_ok.1 h
    obtain rfl := pure_eq_ok.1 hs
    have hdims : 'c' ∉ ("_".intercalate (shape.map toString)).toList := by
      rw [String.toList_intercalate]
      intro hm
      rcases mem_intercalate hm with hc | ⟨l, hl, hc⟩
      · exact absurd hc (by decide)
      · simp only [map_map, mem_map, Function.comp_apply] at hl
        obtain ⟨d, -, rfl⟩ := hl
        rcases of_mem_toString_int hc with hc | hc <;> exact absurd hc (by decide)
    simp only [String.toList_append, mem_append]
    rintro (((hc | hc) | hc) | hc)
    · exact ih hu hc
    · exact absurd hc (by decide)
    · exact hdims hc
    · exact absurd hc (by decide)

theorem notMem_mangleTys {ts : List Ty} {ss : List String} (h : ts.mapM mangleTy = .ok ss) : 'c' ∉ ("_".intercalate ss).toList := by
  rw [String.toList_intercalate]
  intro hm
  rcases mem_intercalate hm with hc | ⟨l, hl, hc⟩
  · exact absurd hc (by decide)
  · obtain ⟨s, hs, rfl⟩ := mem_map.1 hl
    obtain ⟨t, -, ht⟩ := exists_of_mem_mapM h hs
    exact notMem_mangleTy ht hc

/-! ## Constants in names -/

/-- How a constant argument is written: its position, and its text in a wrapper. -/
def written (c : Nat × String) : List Char := (toString c.1 ++ "c" ++ ("constexpr[" ++ c.2 ++ "]")).toList

/-- The word in front of the text of a constant argument. -/
def mark : List Char := (toString i ++ "cconstexpr").toList

def group (c : Nat × String) : List (List Char) := mark c.1 :: fields (spell c.2.toList)

theorem underscore_notMem_mark : '_' ∉ mark i := by
  simp only [mark, String.toList_append, mem_append]
  rintro (h | h)
  · exact absurd (allDigits_toString _ _ h) (by decide)
  · exact absurd h (by decide)

theorem mark_injective {i j : Nat} (h : mark i = mark j) : i = j := by
  simp only [mark, String.toList_append, append_cancel_right_eq] at h
  rw [← readDigits_toString i, h, readDigits_toString]

theorem spell_mark : spell (mark i) = mark i := by
  refine spell_eq_self fun c hc => ?_
  simp only [mark, String.toList_append, mem_append] at hc
  have hc : c.isDigit ∨ c ∈ "cconstexpr".toList := hc.imp_left (allDigits_toString _ _)
  constructor
  · intro hs
    simp only [special, mem_cons, not_mem_nil, or_false] at hs
    rcases hs with rfl | rfl | rfl | rfl <;> revert hc <;> decide
  · rintro rfl
    revert hc
    decide

theorem spell_written (c : Nat × String) : spell (written c) = mark c.1 ++ '_' :: (spell c.2.toList ++ '_' :: []) := by
  have hw : written c = mark c.1 ++ ('[' :: (c.2.toList ++ [']'])) := by
    simp [written, mark]
  rw [hw, spell_append, spell_mark]
  simp [spell, mangleChar]

theorem fields_written (c : Nat × String) : fields (spell (written c)) = group c ++ [[]] := by
  rw [spell_written, fields_append, fields_append, fields_eq_singleton (underscore_notMem_mark c.1)]
  rfl

def instanceChars (cs : List (Nat × String)) : List Char :=
  name ++ '_' :: '_' :: (types ++ '_' :: '_' :: spell (['_'].intercalate (cs.map written)))

def front : List (List Char) := fields name ++ [] :: (fields types ++ [[]])

theorem fields_instanceChars (cs : List (Nat × String)) :
    fields (instanceChars name types cs) =
      front name types ++ if cs = [] then [[]] else cs.flatMap fun c => group c ++ [[]] := by
  have hcs : fields (spell (['_'].intercalate (cs.map written))) =
      if cs = [] then [[]] else cs.flatMap fun c => group c ++ [[]] := by
    by_cases h : cs = []
    · simp [h, spell, fields]
    · rw [if_neg h, spell_intercalate]
      have hu : (mangleChar '_').toList = ['_'] := rfl
      rw [hu, fields_intercalate (by simpa using h), map_map, flatMap_map]
      exact flatMap_congr fun c _ => fields_written c
  rw [instanceChars, fields_append, fields_cons, fields_append, fields_cons, hcs, front]
  simp only [append_assoc, cons_append, nil_append]

theorem instanceChars_congr {cs : List (Nat × String)}
    (h : (cs.map fun c => (c.1, spell c.2.toList)) = cs'.map fun c => (c.1, spell c.2.toList)) :
    instanceChars name types cs = instanceChars name types cs' := by
  have hspelled : ∀ cs : List (Nat × String), (cs.map written).map spell =
      (cs.map fun c => (c.1, spell c.2.toList)).map fun p => mark p.1 ++ '_' :: (p.2 ++ '_' :: []) := by
    intro cs
    rw [map_map, map_map]
    exact map_congr_left fun c _ => spell_written c
  rw [instanceChars, instanceChars, spell_intercalate, spell_intercalate, hspelled, hspelled, h]

theorem mem_of_mem_fields {l : List Char} (hl : l ∈ fields cs) (hc : c ∈ l) : c ∈ cs := by
  obtain ⟨i, hi, rfl⟩ := getElem_of_mem hl
  have h : c ∈ ['_'].intercalate (fields cs) := by
    rw [getElem_eq_getElem_intersperse_two_mul] at hc
    exact mem_flatten.2 ⟨_, getElem_mem _, hc⟩
  rwa [fields, intercalate_splitOn] at h

/-! ## Names read from their fields -/

/-- A text that does not look as if a constant began within it. -/
def Unmarked (cs : List Char) : Prop := ∀ i, mark i ∉ fields cs

theorem unmarked_of_notMem (hc : c ∈ "cconstexpr".toList) (h : c ∉ cs) : Unmarked cs := by
  intro i hi
  refine h (mem_of_mem_fields hi ?_)
  rw [mark, String.toList_append]
  exact mem_append_right _ hc

theorem mark_ne_nil : mark i ≠ [] := by simp [mark]

theorem append_mark_inj {xs xs' ys ys' : List (List Char)} {i i' : Nat} (hx : ∀ j, mark j ∉ xs) (hx' : ∀ j, mark j ∉ xs')
    (h : xs ++ mark i :: ys = xs' ++ mark i' :: ys') : xs = xs' ∧ mark i = mark i' ∧ ys = ys' := by
  rcases append_eq_append_iff.1 h with ⟨zs, rfl, hz⟩ | ⟨zs, rfl, hz⟩
  · cases zs with
    | nil => simpa using hz
    | cons z zs =>
      rw [cons_append, cons.injEq] at hz
      exact absurd (mem_append_right _ (hz.1 ▸ mem_cons_self)) (hx' i)
  · cases zs with
    | nil => simpa [eq_comm] using hz
    | cons z zs =>
      rw [cons_append, cons.injEq] at hz
      exact absurd (mem_append_right _ (hz.1 ▸ mem_cons_self)) (hx i')

theorem mark_notMem_append {xs : List (List Char)} (h : ∀ j, mark j ∉ xs) (j : Nat) : mark j ∉ xs ++ [[]] := by
  intro hm
  rcases mem_append.1 hm with hm | hm
  · exact h j hm
  · exact mark_ne_nil j (mem_singleton.1 hm)

theorem append_groups_inj {xs xs' : List (List Char)} {cs : List (Nat × String)} (hx : ∀ j, mark j ∉ xs)
    (hx' : ∀ j, mark j ∉ xs') (hc : ∀ c ∈ cs, Unmarked (spell c.2.toList)) (hc' : ∀ c ∈ cs', Unmarked (spell c.2.toList))
    (h : (xs ++ cs.flatMap fun c => group c ++ [[]]) = xs' ++ cs'.flatMap fun c => group c ++ [[]]) :
    xs = xs' ∧ (cs.map fun c => (c.1, spell c.2.toList)) = cs'.map fun c => (c.1, spell c.2.toList) := by
  induction cs generalizing xs xs' cs' with
  | nil =>
    cases cs' with
    | nil => simpa using h
    | cons c' cs' =>
      rw [flatMap_nil, append_nil] at h
      exact absurd (h ▸ by simp [group]) (hx c'.1)
  | cons c cs ih =>
    cases cs' with
    | nil =>
      rw [flatMap_nil, append_nil] at h
      exact absurd (h ▸ by simp [group]) (hx' c.1)
    | cons c' cs' =>
      simp only [flatMap_cons, group, cons_append] at h
      obtain ⟨hfront, hmark, htail⟩ := append_mark_inj hx hx' h
      obtain ⟨hself, hrest⟩ := ih (mark_notMem_append (hc c mem_cons_self)) (mark_notMem_append (hc' c' mem_cons_self))
        (fun d hd => hc d (mem_cons_of_mem _ hd)) (fun d hd => hc' d (mem_cons_of_mem _ hd)) htail
      have hspelled : spell c.2.toList = spell c'.2.toList := fields_injective (append_cancel_right hself)
      refine ⟨hfront, ?_⟩
      simp only [map_cons, hrest, mark_injective hmark, hspelled]

theorem instanceChars_injective {types : List Char} (ht : 'c' ∉ types) {name name' : List Char} {cs : List (Nat × String)}
    (hn : Unmarked name) (hn' : Unmarked name') (hc : ∀ c ∈ cs, Unmarked (spell c.2.toList))
    (hc' : ∀ c ∈ cs', Unmarked (spell c.2.toList)) (h : instanceChars name types cs = instanceChars name' types cs') :
    name = name' ∧ (cs.map fun c => (c.1, spell c.2.toList)) = cs'.map fun c => (c.1, spell c.2.toList) := by
  have hfront : ∀ {name : List Char}, Unmarked name → ∀ j, mark j ∉ front name types := by
    intro name hn j hm
    simp only [front, mem_append, mem_cons, mem_nil_iff, or_false] at hm
    rcases hm with hm | hm | hm | hm
    · exact hn j hm
    · exact mark_ne_nil j hm
    · exact unmarked_of_notMem (by decide) ht j hm
    · exact mark_ne_nil j hm
  have hfields := congrArg fields h
  rw [fields_instanceChars, fields_instanceChars] at hfields
  refine And.imp_left (fun hends => fields_injective (append_cancel_right hends)) (?_ : front name types = front name' types ∧ _)
  -- a name without constants has one more empty field, and no mark
  by_cases he : cs = [] <;> by_cases he' : cs' = []
  · rw [if_pos he, if_pos he'] at hfields
    exact ⟨append_cancel_right hfields, by rw [he, he']⟩
  · rw [if_pos he, if_neg he', ← append_nil (front name types ++ [[]])] at hfields
    have hnone := append_groups_inj (mark_notMem_append (hfront hn)) (hfront hn') (forall_mem_nil _) hc' hfields
    exact absurd hnone.2.symm (by simpa using he')
  · rw [if_neg he, if_pos he', ← append_nil (front name' types ++ [[]])] at hfields
    have hnone := append_groups_inj (hfront hn) (mark_notMem_append (hfront hn')) hc (forall_mem_nil _) hfields
    exact absurd hnone.2 (by simpa using he)
  · rw [if_neg he, if_neg he'] at hfields
    exact append_groups_inj (hfront hn) (hfront hn') hc hc' hfields

end TileKernel.Types

namespace TileKernel.Lowering

open Steps TileKernel.Types DecimalDigits List

namespace Value

/-! ## Constants told by their texts -/

/-- Constants that are told by their texts: nothing, truth values, integers, numbers other than not-a-number, scalar types. -/
def IsTold : Value → Prop
  | .none | .bool _ | .int _ | .ty (.scalar _) => True
  | .float x => x.isNaN = false
  | _ => False

/-- Letters that stand in the texts of the told values that are no numbers. -/
def wordLetters : List Char := ['N', 'T', 'F', 'v', 't', 'p', 'b']

theorem mem_toString_int {n : Int} {c : Char} (h : c ∈ (toString n).toList) : c ∉ wordLetters ∧ c ∉ special ∧ c ∉ ['.', 'e', 'i', 'c'] := by
  rcases of_mem_toString_int h with rfl | h
  · decide
  · exact of_isDigit (p := fun c => c ∉ wordLetters ∧ c ∉ special ∧ c ∉ ['.', 'e', 'i', 'c']) (by decide) h

theorem mem_shortest {c : Char} (h : c ∈ x.shortest.toList) : c ∉ wordLetters ∧ c ∉ special ∧ c ≠ 'c' := by
  rcases Binary64.of_mem_shortest h with h | h
  · exact of_isDigit (p := fun c => c ∉ wordLetters ∧ c ∉ special ∧ c ≠ 'c') (by decide) h
  · fin_cases h <;> decide

theorem exists_mem_shortest (hx : x.isNaN = false) : ∃ c ∈ x.shortest.toList, c ∈ ['.', 'e', 'i', 'c'] := by
  rw [Binary64.toList_shortest hx, Binary64.body]
  cases hi : x.isInf with
  | true => exact ⟨'i', mem_append_right _ (by rw [if_pos rfl]; decide), by decide⟩
  | false =>
    rcases (Binary64.isLayout_unsignedText x.abs).mark with h | h
    · exact ⟨_, mem_append_right _ (by simpa using h), by decide⟩
    · exact ⟨_, mem_append_right _ (by simpa using h), by decide⟩

def word? : Value → Option String
  | .none => some "None"
  | .bool true => some "True"
  | .bool false => some "False"
  | .ty (.scalar t) => some t.name
  | _ => Option.none

variable {v : Value}

theorem word_chars (h : v.word? = some s) : (∃ c ∈ s.toList, c ∈ wordLetters) ∧ ∀ c ∈ s.toList, c ∉ special ∧ c ≠ 'c' := by
  have hcheck : (s.toList.any wordLetters.contains && s.toList.all fun c => !special.contains c && c != 'c') = true := by
    unfold word? at h
    split at h <;> try cases h
    · rfl
    · rfl
    · rfl
    · next t => cases t <;> rfl
  simpa using hcheck

def ofWord (s : String) : Value :=
  if s = "None" then .none else if s = "True" then .bool true else if s = "False" then .bool false
  else .ty (.scalar ((Scalar.ofName? s).getD .void))

theorem ofWord_word (h : v.word? = some s) : ofWord s = v := by
  unfold word? at h
  split at h <;> try cases h
  · rfl
  · rfl
  · rfl
  · next t => cases t <;> rfl

theorem IsTold.cases (hv : v.IsTold) : (∃ n, v = .int n ∧ v.text = toString n) ∨
    (∃ x, v = .float x ∧ x.isNaN = false ∧ v.text = x.shortest) ∨ v.word? = some v.text := by
  cases v with
  | none => exact .inr (.inr (by simp [word?, text, shown]))
  | bool b => cases b <;> exact .inr (.inr (by simp [word?, text, shown]))
  | int n => exact .inl ⟨n, rfl, by simp [text, shown]⟩
  | float x => exact .inr (.inl ⟨x, rfl, hv, by simp [text, shown]⟩)
  | ty t =>
    cases t with
    | scalar t => exact .inr (.inr (by simp [word?, text, Ty.text]))
    | _ => cases hv
  | _ => cases hv

theorem IsTold.chars (hv : v.IsTold) : ∀ c ∈ v.text.toList, c ∉ special ∧ c ≠ 'c' := by
  intro c hc
  rcases hv.cases with ⟨n, -, ht⟩ | ⟨x, -, hx, ht⟩ | hw
  · obtain ⟨-, hs, hother⟩ := mem_toString_int (ht ▸ hc)
    exact ⟨hs, by rintro rfl; exact hother (by decide)⟩
  · exact (mem_shortest (ht ▸ hc)).2
  · exact (word_chars hw).2 c hc

theorem IsTold.text_injective {w : Value} (hv : v.IsTold) (hw : w.IsTold) (h : v.text = w.text) : v = w := by
  rcases hv.cases with ⟨n, rfl, ht⟩ | ⟨x, rfl, hx, ht⟩ | hword <;>
    rcases hw.cases with ⟨n', rfl, ht'⟩ | ⟨x', rfl, hx', ht'⟩ | hword'
  · rw [ht, ht'] at h
    rw [Reading.toString_int_injective h]
  · obtain ⟨c, hc, hm⟩ := exists_mem_shortest hx'
    exact absurd hm (mem_toString_int (n := n) (by rwa [← ht, h, ht'])).2.2
  · obtain ⟨⟨c, hc, hm⟩, -⟩ := word_chars hword'
    exact absurd hm (mem_toString_int (n := n) (by rwa [← ht, h])).1
  · obtain ⟨c, hc, hm⟩ := exists_mem_shortest hx
    exact absurd hm (mem_toString_int (n := n') (by rwa [← ht', ← h, ht])).2.2
  · rw [ht, ht'] at h
    rw [Binary64.shortest_injective hx hx' h]
  · obtain ⟨⟨c, hc, hm⟩, -⟩ := word_chars hword'
    exact absurd hm (mem_shortest (by rwa [← ht, h])).1
  · obtain ⟨⟨c, hc, hm⟩, -⟩ := word_chars hword
    exact absurd hm (mem_toString_int (n := n') (by rwa [← ht', ← h])).1
  · obtain ⟨⟨c, hc, hm⟩, -⟩ := word_chars hword
    exact absurd hm (mem_shortest (by rwa [← ht', ← h])).1
  · rw [← ofWord_word hword, ← ofWord_word hword', h]

end Value

namespace Function

/-- The constant arguments of a call as their spelled texts, by position. -/
def constantSpellings (args : List Value) : List (Nat × List Char) :=
  (constantArgs args).map fun c => (c.1, spell c.2.unwrap.text.toList)

theorem mem_constantArgs {args : List Value} {c : Nat × Value} (h : c ∈ constantArgs args) : ∃ v, c.2 = .const v := by
  obtain ⟨⟨v, i⟩, -, hv⟩ := mem_filterMap.1 h
  cases v <;> simp [Value.isConst] at hv
  exact ⟨_, (congrArg Prod.snd hv).symm⟩

theorem pairwise_constantArgs (args : List Value) : (constantArgs args).Pairwise fun a b => a.1 ≤ b.1 := by
  have hidx : args.zipIdx.Pairwise fun a b => a.2 ≤ b.2 := by
    rw [← pairwise_map (f := Prod.snd) (R := (· ≤ ·)), zipIdx_map_snd]
    exact pairwise_le_range'
  refine Pairwise.filterMap _ ?_ hidx
  rintro ⟨v, i⟩ ⟨w, j⟩ hij c hc d hd
  simp only [Option.ite_none_right_eq_some, Option.some.injEq] at hc hd
  rw [← hc.2, ← hd.2]
  exact hij

def constantTexts (args : List Value) : List (Nat × String) := (constantArgs args).map fun c => (c.1, c.2.unwrap.text)

theorem map_spell_constantTexts (args : List Value) :
    ((constantTexts args).map fun c => (c.1, spell c.2.toList)) = constantSpellings args := by
  rw [constantTexts, map_map]
  rfl

theorem instanceName_eq_ok {name n : String} {args : List Value} (h : instanceName name args = .ok n) :
    ∃ types, (argTypes args).mapM mangleTy = .ok types ∧
      n.toList = instanceChars name.toList ("_".intercalate types).toList (constantTexts args) := by
  obtain ⟨types, ht, hn⟩ := bind_eq_ok.1 h
  refine ⟨types, ht, ?_⟩
  obtain rfl := pure_eq_ok.1 hn
  have hsorted : ((constantArgs args).map fun c => (c.1, c.2.shown)).mergeSort (fun a b => decide (a.1 ≤ b.1)) =
      (constantArgs args).map fun c => (c.1, c.2.shown) := by
    refine mergeSort_of_pairwise (pairwise_map.2 ?_)
    simpa using pairwise_constantArgs args
  have hwritten : ((constantArgs args).map fun c => (toString c.1 ++ "c" ++ c.2.shown).toList) =
      (constantTexts args).map written := by
    rw [constantTexts, map_map]
    refine map_congr_left fun c hc => ?_
    obtain ⟨v, hv⟩ := mem_constantArgs hc
    simp [written, hv, Value.shown, Value.unwrap]
  simp only [String.toList_append, toList_foldl_mangleChar, String.toList_intercalate, hsorted]
  rw [map_map, map_map, instanceChars, ← hwritten]
  simp [Function.comp_def]

variable {f f' : FuncInfo} {args args' : List Value} {n n' : String}

/-- Instances with the same types whose functions and constants do not look like marks have one name exactly if they are of
functions of one name and their constants have the same positions and spelled texts. -/
theorem instanceName_eq_iff_spellings (hn : instanceName f.name args = .ok n) (hn' : instanceName f'.name args' = .ok n')
    (ht : argTypes args = argTypes args') (hf : Unmarked f.name.toList) (hf' : Unmarked f'.name.toList)
    (hc : ∀ c ∈ constantSpellings args, Unmarked c.2) (hc' : ∀ c ∈ constantSpellings args', Unmarked c.2) :
    n = n' ↔ f.name = f'.name ∧ constantSpellings args = constantSpellings args' := by
  obtain ⟨types, htypes, hchars⟩ := instanceName_eq_ok hn
  obtain ⟨types', htypes', hchars'⟩ := instanceName_eq_ok hn'
  obtain rfl : types = types' := by
    rw [ht, htypes'] at htypes
    exact (Except.ok.inj htypes).symm
  have hunmarked : ∀ {args : List Value}, (∀ c ∈ constantSpellings args, Unmarked c.2) →
      ∀ c ∈ constantTexts args, Unmarked (spell c.2.toList) := fun h c hm =>
    h (c.1, spell c.2.toList) (map_spell_constantTexts _ ▸ mem_map_of_mem hm)
  rw [← String.toList_inj, hchars, hchars', ← map_spell_constantTexts, ← map_spell_constantTexts]
  constructor
  · intro h
    obtain ⟨hname, htexts⟩ :=
      instanceChars_injective (notMem_mangleTys htypes) hf hf' (hunmarked hc) (hunmarked hc') h
    exact ⟨String.toList_inj.1 hname, htexts⟩
  · rintro ⟨hname, htexts⟩
    rw [hname]
    exact instanceChars_congr _ _ htexts

theorem unmarked_of_isTold (h : ∀ c ∈ constantArgs args, c.2.unwrap.IsTold) : ∀ c ∈ constantSpellings args, Unmarked c.2 := by
  intro c hc
  obtain ⟨d, hd, rfl⟩ := mem_map.1 hc
  have hchars := (h d hd).chars
  refine unmarked_of_notMem (c := 'c') (by decide) fun hm => ?_
  obtain ⟨x, hx, hm⟩ := mem_flatMap.1 hm
  by_cases hdot : x = '.'
  · subst hdot
    exact absurd hm (by decide)
  · rw [mangleChar_of_notMem (hchars x hx).1 hdot, mem_singleton] at hm
    exact (hchars x hx).2 hm.symm

theorem constantArgs_eq_of_spellings (h : ∀ c ∈ constantArgs args, c.2.unwrap.IsTold)
    (h' : ∀ c ∈ constantArgs args', c.2.unwrap.IsTold) (he : constantSpellings args = constantSpellings args') :
    constantArgs args = constantArgs args' := by
  have hone : ∀ c ∈ constantArgs args, ∀ c' ∈ constantArgs args',
      (c.1, spell c.2.unwrap.text.toList) = (c'.1, spell c'.2.unwrap.text.toList) → c = c' := by
    intro c hc c' hc' heq
    obtain ⟨hpos, hspell⟩ := Prod.mk.inj heq
    have htext := spell_injective (fun x hx => ((h c hc).chars x hx).1) (fun x hx => ((h' c' hc').chars x hx).1) hspell
    have hval := (h c hc).text_injective (h' c' hc') (String.toList_inj.1 htext)
    obtain ⟨v, hv⟩ := mem_constantArgs hc
    obtain ⟨v', hv'⟩ := mem_constantArgs hc'
    rw [hv, hv'] at hval
    refine Prod.ext hpos ?_
    rw [hv, hv']
    exact congrArg Value.const hval
  unfold constantSpellings at he
  generalize constantArgs args = cs at hone he
  generalize constantArgs args' = cs' at hone he
  induction cs generalizing cs' with
  | nil => exact (map_eq_nil_iff.1 he.symm).symm
  | cons c cs ih =>
    cases cs' with
    | nil => simp at he
    | cons c' cs' =>
      simp only [map_cons, cons.injEq] at he
      rw [hone c mem_cons_self c' mem_cons_self he.1,
        ih cs' (fun d hd d' hd' => hone d (mem_cons_of_mem _ hd) d' (mem_cons_of_mem _ hd')) he.2]

/-- Two calls with the same argument types ask for one instance exactly if the names of their functions and the spelled texts
of their constants agree, by position. If the constants are told by their texts then the constants themselves agree. -/
theorem same_instance_iff (hn : instanceName f.name args = .ok n) (hn' : instanceName f'.name args' = .ok n')
    (ht : argTypes args = argTypes args') (hf : Unmarked f.name.toList) (hf' : Unmarked f'.name.toList) :
    ((∀ c ∈ constantSpellings args ++ constantSpellings args', Unmarked c.2) →
      (n = n' ↔ f.name = f'.name ∧ constantSpellings args = constantSpellings args')) ∧
    ((∀ c ∈ constantArgs args ++ constantArgs args', c.2.unwrap.IsTold) →
      (n = n' ↔ f.name = f'.name ∧ constantArgs args = constantArgs args')) := by
  constructor
  · intro hc
    exact instanceName_eq_iff_spellings hn hn' ht hf hf' (fun c hm => hc c (mem_append_left _ hm))
      fun c hm => hc c (mem_append_right _ hm)
  · intro hc
    have hl : ∀ c ∈ constantArgs args, c.2.unwrap.IsTold := fun c hm => hc c (mem_append_left _ hm)
    have hr : ∀ c ∈ constantArgs args', c.2.unwrap.IsTold := fun c hm => hc c (mem_append_right _ hm)
    rw [instanceName_eq_iff_spellings hn hn' ht hf hf' (unmarked_of_isTold hl) (unmarked_of_isTold hr)]
    refine and_congr_right fun _ => ⟨constantArgs_eq_of_spellings hl hr, fun h => ?_⟩
    rw [constantSpellings, constantSpellings, h]

/-- A number and an integer of the same value ask for two instances. -/
theorem same_instance_number_or_integer :
    let f : FuncInfo := { (default : FuncInfo) with name := "norm" }
    let x : Value := .tensor ⟨none, .scalar .int32⟩
    let one : Value := .const (.float ⟨0x3ff0000000000000⟩)
    instanceName f.name [x, one] = .ok "norm__i32__1cconstexpr_1_d_0_" ∧
    instanceName f.name [x, .const (.int 1)] = .ok "norm__i32__1cconstexpr_1_" ∧
    ("norm__i32__1cconstexpr_1_d_0_" = "norm__i32__1cconstexpr_1_" ↔
      f.name = f.name ∧ constantArgs [x, one] = constantArgs [x, .const (.int 1)]) := by
  intro f x one
  have htext : Binary64.shortest ⟨0x3ff0000000000000⟩ = "1.0" := by decide +kernel
  have hn : instanceName f.name [x, one] = .ok "norm__i32__1cconstexpr_1_d_0_" := by
    simp [instanceName, mangleFn, constantArgs, argTypes, x, one, Value.isConst, Value.tensor?, Value.shown, Value.text, htext]
    rfl
  have hn' : instanceName f.name [x, .const (.int 1)] = .ok "norm__i32__1cconstexpr_1_" := by cbv
  have hname : Unmarked f.name.toList := unmarked_of_notMem (c := 'c') (by decide) (by decide)
  refine ⟨hn, hn', (same_instance_iff hn hn' rfl hname hname).2 ?_⟩
  intro c hc
  have hlist : constantArgs [x, one] ++ constantArgs [x, .const (.int 1)] = [(1, one), (1, .const (.int 1))] := rfl
  rw [hlist] at hc
  fin_cases hc
  · exact (by decide : Binary64.isNaN ⟨0x3ff0000000000000⟩ = false)
  · exact trivial

/-- An integer and its text ask for one instance, and so do functions of one name from two places. -/
theorem integer_and_text_share_instance :
    let f : FuncInfo := { (default : FuncInfo) with name := "f", space := .user "a" }
    let g : FuncInfo := { (default : FuncInfo) with name := "f", space := .user "b" }
    f.space ≠ g.space ∧ constantArgs [.const (.int 1)] ≠ constantArgs [.const (.str "1")] ∧
      instanceName f.name [.const (.int 1)] = .ok "f____0cconstexpr_1_" ∧
      instanceName g.name [.const (.str "1")] = .ok "f____0cconstexpr_1_" := by
  intro f g
  refine ⟨by decide, ?_, by cbv, by cbv⟩
  intro h
  cases h

end Function

end TileKernel.Lowering
