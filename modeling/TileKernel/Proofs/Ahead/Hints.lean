import TileKernel.Proofs.Ahead.Directives
import TileKernel.Proofs.Launch.Digests
import TileKernel.Proofs.Lowering.InstanceNames

/-! # Which arguments the assumptions of a compiled kernel reach

A signature has entries for arguments and for constants. An assumption is kept by the place of its entry in the whole
signature, but the suffix of the compiled kernel counts arguments only. So the header of a kernel gives the types and the names of
its arguments, and for the argument at a place among the arguments the assumption of the entry at that place among all entries. These
are the assumptions of the arguments themselves exactly if no constant in front of an argument shifts one.
-/

namespace TileKernel.Ahead.Header

open List hiding all
open Text Text.Pattern

/-! ## Lines of a header -/

def IsUnbroken (s : String) : Prop := ∀ c ∈ s.toList, isBreak c = false

instance (s : String) : Decidable (IsUnbroken s) := inferInstanceAs (Decidable (∀ c ∈ _, _))

theorem isUnbroken_append {s t : String} : IsUnbroken (s ++ t) ↔ IsUnbroken s ∧ IsUnbroken t := by
  simp only [IsUnbroken, String.toList_append, mem_append, or_imp, forall_and]

theorem linesFrom_break (cs rest : List Char) : linesFrom isBreak cs ('\n' :: rest) = cs.reverse :: linesFrom isBreak [] rest := by
  simp [linesFrom, show isBreak '\n' by decide]

theorem lines_intercalate {ls : List String} (h : ∀ l ∈ ls, IsUnbroken l) : lines ("\n".intercalate (ls ++ [""])) = ls := by
  rw [lines, String.toList_intercalate]
  induction ls with
  | nil => rfl
  | cons l ls ih =>
    have hjoin : "\n".toList.intercalate ((l :: ls ++ [""]).map String.toList) =
        l.toList ++ '\n' :: "\n".toList.intercalate ((ls ++ [""]).map String.toList) := by
      cases ls <;> simp [intercalate_cons_cons]
    rw [hjoin, linesFrom_append (h l mem_cons_self), linesFrom_break, map_cons, ih fun m hm => h m (mem_cons_of_mem _ hm)]
    simp

theorem readLine_eq_pure {l : String} (h : l.toList.head? ≠ some '/') : readLine l = pure () := by
  have hstart : l.startsWith "//" = false := by
    rw [Bool.eq_false_iff, Ne, String.startsWith_string_iff]
    rintro ⟨t, ht⟩
    exact h (by rw [← ht]; rfl)
  rw [readLine, hstart]
  rfl

theorem forM_readLine_eq_pure {ls : List String} (h : ∀ l ∈ ls, l.toList.head? ≠ some '/') : forM ls readLine = pure () := by
  induction ls with
  | nil => rfl
  | cons l ls ih =>
    rw [forM_cons, readLine_eq_pure (h l mem_cons_self), pure_bind, ih fun m hm => h m (mem_cons_of_mem _ hm)]

theorem forM_readLine_append (us vs : List String) {l : String} (hu : ∀ l ∈ us, l.toList.head? ≠ some '/')
    (hv : ∀ l ∈ vs, l.toList.head? ≠ some '/') : forM (us ++ l :: vs) readLine = readLine l := by
  rw [forM_append, forM_cons, forM_readLine_eq_pure hu, forM_readLine_eq_pure hv, pure_bind]
  exact bind_pure (readLine l)

/-- Between two neighbouring colons there is nothing. -/
theorem nil_of_neighbours {a b u w z : List Char} {c : Char} (ha : c ∉ a) (hb : c ∉ b)
    (h : a ++ c :: c :: b = u ++ c :: (w ++ c :: z)) : w = [] := by
  have hcount : u.count c = 0 ∧ w.count c = 0 := by
    have hcount := congrArg (count c) h
    simp only [count_append, count_cons_self, count_eq_zero.2 ha, count_eq_zero.2 hb] at hcount
    omega
  have hrest := (Steps.cancel_word ha (count_eq_zero.1 hcount.1) h).2
  cases w with
  | nil => rfl
  | cons d w =>
    obtain ⟨rfl, -⟩ := cons.inj hrest
    simp at hcount

theorem matchStart_line_nil {f i : String} (hf : IsWord f) (hcolon : ':' ∉ i.toList) : directive.matchStart? (line f "" i) = none := by
  have hword : ':' ∉ [' '] ++ f.toList := by
    intro hmem
    have := hf.2 ':' (by simpa using hmem)
    revert this
    decide
  -- the colons behind the mark are neighbours, and a signature is not empty
  have hrest : ∀ u v, [' '] ++ (f.toList ++ (":".toList ++ ("".toList ++ (":".toList ++ i.toList)))) = u ++ v →
      ∀ u' v', v = u' ++ ':' :: v' → ∀ w x, w ≠ [] → v' = w ++ x → ∀ d ∈ x.head?, d ≠ ':' := by
    rintro u v huv u' v' rfl w x hw rfl _ hd rfl
    obtain ⟨z, rfl⟩ : ∃ z, x = ':' :: z := head?_eq_some_iff.1 hd
    refine hw (nil_of_neighbours hword hcolon (u := u ++ u') (z := z) ?_)
    simpa using huv
  rw [matchStart?, directive]
  simp only [all, foldr_cons, foldr_nil]
  rw [andThen, text_of_append (toList_line f "" i), andThen]
  refine upTo_eq_none _ fun u v huv hu => ?_
  rw [MatchState.rest_skip] at huv
  rw [andThen]
  cases u with
  | nil =>
    refine text_eq_none (t := "tt-linker:") (c := 't') rfl fun d hd => ?_
    rw [MatchState.rest_skip, ← nil_append v, ← huv] at hd
    cases hd
    decide
  | cons b u =>
    obtain ⟨-, huv⟩ := cons.inj huv
    have hstops : Stops isSpace ("tt-linker:".toList ++
        ([' '] ++ (f.toList ++ (":".toList ++ ("".toList ++ (":".toList ++ i.toList)))))) := stops_cons (by decide)
    obtain rfl := hstops.eq_nil huv fun c hc => hu c (mem_cons_of_mem _ hc)
    rw [text_of_append huv.symm, andThen]
    refine upTo_eq_none _ fun u v huv _ => ?_
    refine capture_eq_none fun u' v' _ huv' => ?_
    rw [andThen]
    by_cases hv : v'.head? = some ':'
    · obtain ⟨z, rfl⟩ : ∃ z, v' = ':' :: z := head?_eq_some_iff.1 hv
      rw [text_of_append (t := ":") (v := z) rfl, andThen]
      refine capture_eq_none fun w x hw hwx => ?_
      rw [andThen]
      exact text_eq_none (t := ":") (c := ':') rfl (hrest u v huv u' z huv' w x hw hwx)
    · refine text_eq_none (t := ":") (c := ':') rfl ?_
      rintro _ hd rfl
      exact hv hd
end TileKernel.Ahead.Header

namespace TileKernel.Ahead

open List hiding all
open Header Steps Lowering Launch

/-! ## What a signature states -/

def statedHint (entry : String) : Option Hint :=
  (entryNumber? entry).bind fun v =>
    if isNumber 1 v then some .isOne else if isNumber 16 v then some .divisibleBy16 else none

namespace Job

variable {j : Job} {r : Request} {e : String × Nat}

def arguments (j : Job) : Named Nat := j.entries.zipIdx.filter fun e => (constant? e.1).isNone

theorem types_eq (j : Job) : j.types = j.arguments.map fun e => ((e.2 : Int), entryType e.1) := by
  rw [types, arguments, ← filterMap_eq_map, filterMap_filter]
  congr 1
  funext e
  obtain ⟨s, i⟩ := e
  simp only [Function.comp_apply]
  cases constant? s <;> rfl

theorem mem_hints {i : Nat} {v : Value} : ((i : Int), v) ∈ j.hints ↔ ∃ s, j.entries[i]? = some s ∧ entryNumber? s = some v := by
  simp only [hints, mem_filterMap, mem_zipIdx_iff_getElem?, Option.map_eq_some_iff, Prod.exists, Prod.mk.injEq,
    Nat.cast_inj]
  constructor
  · rintro ⟨s, n, hs, v, hv, rfl, rfl⟩
    exact ⟨s, hs, hv⟩
  · rintro ⟨s, hs, hv⟩
    exact ⟨s, i, hs, v, hv, rfl, rfl⟩

theorem request_eq_ok (h : j.request = .ok r) : r.types = j.types ∧
    r.knowledge = { divisibleBy16 := (j.hints.filter fun h => isNumber 16 h.2).map (·.1)
                    equalTo1 := (j.hints.filter fun h => isNumber 1 h.2).map (·.1) } := by
  obtain ⟨-, -, h⟩ := bind_eq_ok.1 h
  cases h
  exact ⟨rfl, rfl⟩

def States (j : Job) (n : Int) (i : Nat) : Prop :=
  ∃ s v, j.entries[i]? = some s ∧ entryNumber? s = some v ∧ isNumber n v = true

theorem mem_positions {n : Int} {i : Nat} : (i : Int) ∈ (j.hints.filter fun h => isNumber n h.2).map (·.1) ↔ j.States n i := by
  simp only [mem_map, mem_filter, Prod.exists]
  constructor
  · rintro ⟨k, v, ⟨hmem, hv⟩, rfl⟩
    obtain ⟨s, hs, hsv⟩ := mem_hints.1 hmem
    exact ⟨s, v, hs, hsv, hv⟩
  · rintro ⟨s, v, hs, hsv, hv⟩
    exact ⟨i, v, ⟨mem_hints.2 ⟨s, hs, hsv⟩, hv⟩, rfl⟩

theorem hintAt_knowledge (h : j.request = .ok r) (i : Nat) : hintAt r.knowledge i = (j.entries[i]?).bind statedHint := by
  obtain ⟨-, hknown⟩ := request_eq_ok h
  have hone : (i : Int) ∈ r.knowledge.equalTo1 ↔ j.States 1 i := by
    rw [hknown]
    exact mem_positions
  have hsixteen : (i : Int) ∈ r.knowledge.divisibleBy16 ↔ j.States 16 i := by
    rw [hknown]
    exact mem_positions
  rw [hintAt]
  cases hs : j.entries[i]? with
  | none => simp [hone, hsixteen, States, hs]
  | some s => cases hv : entryNumber? s <;> simp [hone, hsixteen, States, hs, statedHint, hv]

theorem getElem?_of_mem_arguments (he : e ∈ j.arguments) : j.entries[e.2]? = some e.1 :=
  mem_zipIdx_iff_getElem?.1 (mem_of_mem_filter he)

theorem mem_equalTo1 (h : j.request = .ok r) (he : e ∈ j.arguments) :
    (e.2 : Int) ∈ r.knowledge.equalTo1 ↔ statedHint e.1 = some .isOne := by
  have hhint := hintAt_knowledge h e.2
  rw [getElem?_of_mem_arguments he, Option.bind_some, hintAt] at hhint
  rw [← hhint]
  simp only [contains_iff_mem]
  split
  · next hone => exact iff_of_true hone rfl
  · next hone =>
      refine iff_of_false hone ?_
      split <;> simp

end Job

/-! ## What goes into a header -/

def Parts.header (p : Parts) : String := "\n".intercalate p.headerLines

theorem Parts.read_header {p : Parts} (h : ∀ l ∈ p.headerLines, IsUnbroken l) :
    Header.read p.header = readLine (line p.function p.fullSignature p.constants) := by
  have hlines : p.headerLines = p.headerLines.dropLast ++ [""] := rfl
  rw [Header.read, header, hlines, lines_intercalate fun l hl => h l (mem_of_mem_dropLast hl)]
  refine forM_readLine_append (p.headerLines.take 12)
    ["CUresult " ++ p.function ++ "(CUstream stream, " ++ p.signature ++ ");"] ?_ (by simp)
  simp [headerLines]

theorem isWord_cType {pointer ty c : String} (hpointer : IsWord pointer) (h : Stub.cType pointer ty = .ok c) : IsWord c := by
  have hscalar : ∀ t ∈ Stub.scalarTypes, IsWord t.2 := by decide
  rw [Stub.cType] at h
  obtain ⟨b, -, h⟩ := bind_eq_ok.1 h
  cases b with
  | true =>
    cases h
    exact hpointer
  | false =>
    simp only [Bool.false_eq_true, if_false] at h
    split at h
    · next c' hc =>
        cases h
        obtain ⟨us, vs, hsplit, -⟩ := lookup_eq_some_iff.1 hc
        exact hscalar (ty, _) (hsplit ▸ by simp)
    · cases h

theorem isWord_paramName {params : List String} {i : Int} {n : String} (hparams : ∀ n ∈ params, IsWord n)
    (h : paramName params i = .ok n) : IsWord n := by
  rw [paramName] at h
  split at h
  · next m hm =>
      cases h
      exact hparams _ (mem_of_getElem? hm)
  · cases h

theorem isWord_hash (j : Job) : IsWord j.hash ∧ '_' ∉ j.hash.toList := by
  generalize htext : " ".intercalate (j.entries ++ [j.metaText]) = text
  have hhash : j.hash.toList = (Digest.sha256 text).toList.take 8 := by simp [Job.hash, htext]
  have hchars : ∀ c ∈ j.hash.toList, c ∈ Digest.hexDigits := by
    intro c hc
    rw [hhash] at hc
    exact Digest.mem_hexText (mem_of_mem_take hc)
  have hlength : (Digest.sha256 text).toList.length = 64 := Digest.length_hexText _ _
  have hword : ∀ c ∈ Digest.hexDigits, Text.Pattern.isWord c ∧ c ≠ '_' := by decide
  refine ⟨⟨?_, fun c hc => (hword c (hchars c hc)).1⟩, fun hmem => (hword _ (hchars _ hmem)).2 rfl⟩
  intro hnil
  have := congrArg length (hhash.symm.trans hnil)
  rw [length_take, hlength] at this
  cases this

def numberChars : List Char := "-+.einfa0123456789".toList

variable {c : Char}

theorem mem_toString_int {n : Int} (h : c ∈ (toString n).toList) : c ∈ numberChars := by
  rcases DecimalDigits.of_mem_toString_int h with rfl | h
  · decide
  · exact DecimalDigits.of_isDigit (by decide) h

theorem mem_shortest {x : Binary64} (h : c ∈ x.shortest.toList) : c ∈ numberChars := by
  rcases Binary64.of_mem_shortest h with h | h
  · exact DecimalDigits.of_isDigit (by decide) h
  · exact (show "-+.einfa".toList ⊆ numberChars by decide) h

theorem mem_constant_text {e : String} {v : Value} (he : constant? e = some v) (h : c ∈ v.text.toList) : c ∈ numberChars := by
  rw [constant?] at he
  split at he
  · cases he
    exact mem_toString_int (by simpa [Value.text, Value.shown] using h)
  · obtain ⟨x, -, rfl⟩ := Option.map_eq_some_iff.1 he
    exact mem_shortest (by simpa [Value.text, Value.shown] using h)

def Job.constantsText (j : Job) : String := "x".intercalate (j.constants.map (·.2.text)) ++ "_" ++ j.metaText

theorem Job.mem_constantsText {j : Job} (h : c ∈ j.constantsText.toList) : c ∈ numberChars ++ "x_warpstge".toList := by
  rw [mem_append]
  simp only [constantsText, metaText, String.toList_append, String.toList_intercalate, mem_append] at h
  rcases h with (h | h) | ((h | h) | h) | h
  · rcases Types.mem_intercalate h with rfl | ⟨t, ht, hc⟩
    · exact .inr (by decide)
    · obtain ⟨_, htext, rfl⟩ := mem_map.1 ht
      obtain ⟨_, hvalue, rfl⟩ := mem_map.1 htext
      obtain ⟨e, -, he⟩ := mem_filterMap.1 hvalue
      obtain ⟨v, hv, rfl⟩ := Option.map_eq_some_iff.1 he
      exact .inl (mem_constant_text hv hc)
  · exact .inr ((show "_".toList ⊆ "x_warpstge".toList by decide) h)
  · exact .inr ((show "warps".toList ⊆ "x_warpstge".toList by decide) h)
  · exact .inl (mem_toString_int h)
  · exact .inr ((show "xstages".toList ⊆ "x_warpstge".toList by decide) h)
  · exact .inl (mem_toString_int h)

theorem Job.isLine_constantsText (j : Job) : IsLine j.constantsText ∧ ':' ∉ j.constantsText.toList := by
  have hplain : ∀ c ∈ numberChars ++ "x_warpstge".toList, Text.isBreak c = false ∧ c ≠ ':' := by decide
  refine ⟨⟨by simp [constantsText], fun c hc => (hplain c (mem_constantsText hc)).1⟩, ?_⟩
  intro hmem
  exact (hplain _ (mem_constantsText hmem)).2 rfl

/-! ## The header of a job -/

section

variable {ε α β γ : Type} {xs : List α} {ys : List β}

theorem forall₂_exists {R : α → γ → Prop} {f : γ → β}
    (h : List.Forall₂ (fun x y => ∃ a, R x a ∧ f a = y) xs ys) : ∃ as, List.Forall₂ R xs as ∧ as.map f = ys := by
  induction h with
  | nil => exact ⟨[], .nil, rfl⟩
  | cons hxy _ ih =>
    obtain ⟨a, ha, rfl⟩ := hxy
    obtain ⟨as, has, rfl⟩ := ih
    exact ⟨a :: as, .cons ha has, rfl⟩

theorem mapM_filter {f : α → Except ε β} (h : List.Forall₂ (fun x y => f x = .ok y) xs ys)
    (p : α → Bool) : (xs.filter p).mapM f = .ok (((xs.zip ys).filter (p ·.1)).map (·.2)) := by
  induction h with
  | nil => rfl
  | cons hxy _ ih =>
    rw [filter_cons, zip_cons_cons, filter_cons]
    split
    · rw [mapM_cons, hxy, ih]
      rfl
    · exact ih

end

/-- What an argument of a signature is declared as: a C type and a name. -/
def Declares (pointer : String) (params : List String) (e : String × Nat) (a : String × String) : Prop :=
  Stub.cType pointer (entryType e.1) = .ok a.1 ∧ paramName params e.2 = .ok a.2

namespace Job

variable {j : Job} {r : Request} {p : Parts} {params : List String} {pointer binary : String} {shared : Int}

/-- The arguments that a kernel takes: those that are not known to be one. -/
def taken (j : Job) (r : Request) : Named Nat := j.arguments.filter fun e => !r.knowledge.equalTo1.contains (e.2 : Int)

theorem parts_eq_ok (hr : j.request = .ok r) (hp : j.parts params r pointer binary shared = .ok p) :
    ∃ args : Named String, List.Forall₂ (Declares pointer params) j.arguments args ∧
      p.function = functionName (j.name.getD j.kernel) j.hash (Types.kernelSuffix args.length r.knowledge) ∧
      p.fullSignature = signatureText args ∧ p.constants = j.constantsText ∧
      (j.taken r).mapM (fun e => paramName params e.2) = .ok p.argNames ∧
      (j.taken r).mapM (fun e => Stub.cType pointer (entryType e.1)) = .ok p.argTypes := by
  obtain ⟨htypes, -⟩ := request_eq_ok hr
  rw [parts] at hp
  obtain ⟨argNames, hnames, hp⟩ := bind_eq_ok.1 hp
  obtain ⟨argTypes, hctypes, hp⟩ := bind_eq_ok.1 hp
  obtain ⟨full, hfull, hp⟩ := bind_eq_ok.1 hp
  obtain ⟨grid, -, hp⟩ := bind_eq_ok.1 hp
  obtain ⟨notes, -, hp⟩ := bind_eq_ok.1 hp
  rw [htypes, types_eq] at hnames hctypes hfull
  rw [filter_map, mapM_map] at hnames hctypes
  rw [mapM_map] at hfull
  have hdeclared : Forall₂ (fun e y => ∃ a, Declares pointer params e a ∧ argumentText a = y) j.arguments full := by
    rw [mapM_eq_ok] at hfull
    refine hfull.imp fun e y he => ?_
    obtain ⟨c, hc, he⟩ := bind_eq_ok.1 he
    obtain ⟨n, hn, he⟩ := bind_eq_ok.1 he
    exact ⟨(c, n), ⟨hc, hn⟩, pure_eq_ok.1 he⟩
  obtain ⟨args, hargs, rfl⟩ := forall₂_exists hdeclared
  refine ⟨args, hargs, ?_⟩
  have hlength : r.types.length = args.length := by
    rw [htypes, types_eq, length_map, hargs.length_eq]
  cases hp
  exact ⟨by rw [hlength], rfl, rfl, hnames, hctypes⟩

variable {args : Named String}

theorem isArgument_of_declares (hparams : ∀ n ∈ params, IsWord n) (hpointer : IsWord pointer) {es : Named Nat}
    (h : List.Forall₂ (Declares pointer params) es args) : ∀ a ∈ args, IsArgument a := by
  intro a ha
  obtain ⟨e, -, he⟩ := exists_mem_of_forall₂ h.flip ha
  exact ⟨isWord_cType hpointer he.1, isWord_paramName hparams he.2⟩

theorem isUnbroken_signatureText (h : ∀ a ∈ args, IsArgument a) : IsUnbroken (signatureText args) := by
  cases args with
  | nil => decide
  | cons a args => exact (isLine_signatureText h (by simp)).2

theorem isWord_function (n : Nat) (spec : Types.Specialization) (hname : IsWord (j.name.getD j.kernel)) :
    IsWord (functionName (j.name.getD j.kernel) j.hash (Types.kernelSuffix n spec)) := by
  cases n with
  | zero =>
    have hunder : IsWord "_" := by decide
    have hword := ((hname.append hunder).append (isWord_hash j).1).append hunder
    rwa [functionName, show Types.kernelSuffix 0 spec = "" from rfl, String.append_empty]
  | succ n => exact isWord_functionName hname (isWord_hash j).1 (isWord_kernelSuffix n.succ_pos spec).1

section

variable (hr : j.request = .ok r) (hp : j.parts params r pointer binary shared = .ok p) (hname : IsWord (j.name.getD j.kernel))
  (hparams : ∀ n ∈ params, IsWord n) (hpointer : IsWord pointer)
include hr hp hname hparams hpointer

theorem isUnbroken_headerLines : ∀ l ∈ p.headerLines, IsUnbroken l := by
  obtain ⟨args, hargs, hfunction, hsignature, hconstants, hnames, htypes⟩ := parts_eq_ok hr hp
  have hfull : IsUnbroken p.fullSignature := by
    rw [hsignature]
    exact isUnbroken_signatureText (isArgument_of_declares hparams hpointer hargs)
  have hword : IsUnbroken p.function := by
    rw [hfunction]
    exact (isWord_function _ _ hname).isLine.2
  have hown : IsUnbroken p.signature := by
    have htext : p.signature = signatureText (p.argTypes.zip p.argNames) := by
      simp only [Parts.signature, signatureText, zip, map_zipWith, argumentText]
    rw [htext]
    refine isUnbroken_signatureText fun a ha => ?_
    obtain ⟨e, -, he⟩ := exists_of_mem_mapM htypes (of_mem_zip ha).1
    obtain ⟨e', -, he'⟩ := exists_of_mem_mapM hnames (of_mem_zip ha).2
    exact ⟨isWord_cType hpointer he, isWord_paramName hparams he'⟩
  have hrest : IsUnbroken p.constants := by
    rw [hconstants]
    exact (isLine_constantsText j).1.2
  have hdirective : IsUnbroken (line p.function p.fullSignature p.constants) := by
    change IsUnbroken ("// tt-linker: " ++ p.function ++ ":" ++ p.fullSignature ++ ":" ++ p.constants)
    simp only [isUnbroken_append, hword, hfull, hrest, and_true]
    decide
  simp only [Parts.headerLines, forall_mem_cons, isUnbroken_append, hword, hown, hdirective, and_true, true_and]
  decide

theorem read_header_of_nil (hnil : j.arguments = []) : Header.read p.header [] = .ok () [] := by
  obtain ⟨args, hargs, hfunction, hsignature, hconstants, -⟩ := parts_eq_ok hr hp
  obtain rfl : args = [] := forall₂_nil_left_iff.1 (hnil ▸ hargs)
  have hnone := matchStart_line_nil (isWord_function 0 r.knowledge hname) j.isLine_constantsText.2
  rw [Parts.read_header (isUnbroken_headerLines hr hp hname hparams hpointer), hfunction, hsignature, hconstants]
  change readLine (line _ "" _) [] = _
  rw [readLine, length_nil, hnone, ite_self]
  rfl

theorem read_header_of_ne_nil (hne : j.arguments ≠ []) :
    ∃ args : Named String, List.Forall₂ (Declares pointer params) j.arguments args ∧
      Header.read p.header [] =
        .ok () [(j.name.getD j.kernel ++ "_" ++ p.constants, [variantOf (j.name.getD j.kernel) j.hash args r.knowledge])] ∧
      (j.taken r).mapM (fun e => paramName params e.2) = .ok p.argNames ∧
      (j.taken r).mapM (fun e => Stub.cType pointer (entryType e.1)) = .ok p.argTypes := by
  obtain ⟨args, hargs, hfunction, hsignature, hconstants, hkept⟩ := parts_eq_ok hr hp
  have hargsne : args ≠ [] := by
    rintro rfl
    exact hne (forall₂_nil_right_iff.1 hargs)
  refine ⟨args, hargs, ?_, hkept⟩
  rw [Parts.read_header (isUnbroken_headerLines hr hp hname hparams hpointer), hfunction, hsignature, hconstants]
  exact readLine_directiveOf r.knowledge hname (isWord_hash j).1 (isWord_hash j).2
    (isArgument_of_declares hparams hpointer hargs) hargsne j.isLine_constantsText.1 j.isLine_constantsText.2 []

end

theorem length_arguments_le (j : Job) : j.arguments.length ≤ j.entries.length := by
  have hfilter := j.entries.zipIdx.length_filter_le fun e => (constant? e.1).isNone
  rwa [length_zipIdx] at hfilter

theorem hints_variantOf (name hash : String) (hr : j.request = .ok r) (hargs : args.length = j.arguments.length) :
    (variantOf name hash args r.knowledge).hints = (j.entries.take j.arguments.length).map statedHint := by
  have hle := length_arguments_le j
  refine ext_getElem (by simp [variantOf, hargs, hle]) fun k hk _ => ?_
  have hlt : k < j.arguments.length := by simpa [variantOf, hargs] using hk
  simp [variantOf, hintAt_knowledge hr, getElem?_eq_getElem (Nat.lt_of_lt_of_le hlt hle)]

theorem take_map_eq_iff (j : Job) : (j.entries.take j.arguments.length).map statedHint = j.arguments.map (statedHint ·.1) ↔
    ∀ (k : Nat) (e : String × Nat), j.arguments[k]? = some e → k ≠ e.2 → (j.entries[k]?).bind statedHint = statedHint e.1 := by
  have hle := length_arguments_le j
  constructor
  · intro h k e he _
    have hk := congrArg (·[k]?) h
    obtain ⟨hlt, -⟩ := List.getElem?_eq_some_iff.1 he
    simp only [getElem?_map, getElem?_take_of_lt hlt, he, Option.map_some] at hk
    obtain ⟨s, hs, hse⟩ := Option.map_eq_some_iff.1 hk
    rw [hs, Option.bind_some, hse]
  · intro h
    refine ext_getElem (by simp [hle]) fun k hk hk' => ?_
    rw [length_map] at hk'
    have he := getElem?_eq_getElem hk'
    have hs := getElem?_eq_getElem (Nat.lt_of_lt_of_le hk' hle)
    simp only [getElem_map, getElem_take]
    by_cases hplace : k = (j.arguments[k]).2
    · have hown := getElem?_of_mem_arguments (mem_of_getElem? he)
      rw [← hplace, hs] at hown
      rw [Option.some.inj hown]
    · simpa [hs] using h k _ he hplace

theorem map_kept {α : Type} (es : List α) (items : List String) {p : α → Bool} {s : α → Option Hint}
    (h : ∀ e ∈ es, p e = (s e != some .isOne)) :
    ((es.zip items).filter (p ·.1)).map (·.2) = ((items.zip (es.map s)).filter (·.2 != some .isOne)).map (·.1) := by
  induction es generalizing items with
  | nil => simp
  | cons e es ih =>
    cases items with
    | nil => simp
    | cons x items =>
      have hrest := ih items fun d hd => h d (mem_cons_of_mem _ hd)
      simp only [zip_cons_cons, map_cons, filter_cons, h e mem_cons_self]
      split
      · rw [map_cons, map_cons, hrest]
      · exact hrest

/-- With the assumptions of the arguments, what is left of them is what the kernel takes. -/
theorem keptOf_eq (hr : j.request = .ok r) {v : Variant} (hv : v.hints = j.arguments.map (statedHint ·.1))
    {f : String × Nat → Except Fault String} {items kept : List String}
    (hitems : List.Forall₂ (fun e y => f e = .ok y) j.arguments items)
    (hkept : (j.taken r).mapM f = .ok kept) : v.keptOf items = kept := by
  rw [taken, mapM_filter hitems] at hkept
  cases hkept
  rw [Variant.keptOf, hv]
  refine (map_kept (p := fun e => !r.knowledge.equalTo1.contains (e.2 : Int)) (s := fun e => statedHint e.1) j.arguments items
    fun e he => ?_).symm
  rw [Bool.eq_iff_iff, Bool.not_eq_true', Bool.eq_false_iff, Ne, contains_iff_mem, mem_equalTo1 hr he, bne_iff_ne]

/-- The kernel of a job assumes of every argument what its entry states. The header gives every argument its own type and name, and
the assumption of the entry at its place among the arguments. These are the assumptions of the arguments exactly if every
argument behind a constant states what the entry at its place states; then the dispatcher hands on the arguments that
the kernel takes. -/
theorem header_gives_own_hints_iff (j : Job) (params : List String) (pointer binary : String) (shared : Int) (r : Request) (p : Parts)
    (hr : j.request = .ok r) (hp : j.parts params r pointer binary shared = .ok p) (hname : IsWord (j.name.getD j.kernel))
    (hparams : ∀ n ∈ params, IsWord n) (hpointer : IsWord pointer) :
    (∀ e ∈ j.arguments, hintAt r.knowledge e.2 = statedHint e.1) ∧
    (j.arguments = [] → Header.read p.header [] = .ok () []) ∧
    (j.arguments ≠ [] → ∃ v : Variant, Header.read p.header [] = .ok () [(j.name.getD j.kernel ++ "_" ++ p.constants, [v])] ∧
      List.Forall₂ (fun e c => Stub.cType pointer (entryType e.1) = .ok c) j.arguments v.argTypes ∧
      List.Forall₂ (fun e n => paramName params e.2 = .ok n) j.arguments v.argNames ∧
      v.hints = (j.entries.take j.arguments.length).map statedHint ∧
      (v.hints = j.arguments.map (statedHint ·.1) ↔
        ∀ (k : Nat) (e : String × Nat), j.arguments[k]? = some e → k ≠ e.2 → (j.entries[k]?).bind statedHint = statedHint e.1) ∧
      (v.hints = j.arguments.map (statedHint ·.1) → v.keptOf v.argTypes = p.argTypes ∧ v.keptOf v.argNames = p.argNames)) := by
  refine ⟨fun e he => ?_, read_header_of_nil hr hp hname hparams hpointer, fun hne => ?_⟩
  · rw [hintAt_knowledge hr, getElem?_of_mem_arguments he, Option.bind_some]
  · obtain ⟨args, hargs, hread, hnames, htypes⟩ := read_header_of_ne_nil hr hp hname hparams hpointer hne
    have hhints := hints_variantOf (j.name.getD j.kernel) j.hash hr hargs.length_eq.symm
    have htypes' : Forall₂ (fun e c => Stub.cType pointer (entryType e.1) = .ok c) j.arguments (args.map (·.1)) :=
      forall₂_map_right_iff.2 (hargs.imp fun _ _ h => h.1)
    have hnames' : Forall₂ (fun e n => paramName params e.2 = .ok n) j.arguments (args.map (·.2)) :=
      forall₂_map_right_iff.2 (hargs.imp fun _ _ h => h.2)
    refine ⟨_, hread, htypes', hnames', hhints, ?_, fun hown => ?_⟩
    · rw [hhints]
      exact take_map_eq_iff j
    · exact ⟨keptOf_eq hr hown htypes' htypes, keptOf_eq hr hown hnames' hnames⟩

theorem exists_parts (j : Job) (params : List String) (pointer binary : String) (shared : Int)
    (h : (j.request >>= fun r => j.parts params r pointer binary shared).toBool = true) :
    ∃ r p, j.request = .ok r ∧ j.parts params r pointer binary shared = .ok p := by
  cases hr : j.request with
  | error f =>
    rw [hr] at h
    cases h
  | ok r =>
    rw [hr, ok_bind] at h
    cases hp : j.parts params r pointer binary shared with
    | error f =>
      rw [hp] at h
      cases h
    | ok p => exact ⟨r, p, rfl, hp⟩

def constantBetween : Job :=
  { kernel := "kernel", numWarps := 4, numStages := 3, signature := "*fp32:16, 1024, i32", grid := "1,1,1" }

/-- The argument behind the constant states nothing, and nor does the constant at its place. -/
theorem header_gives_own_hints_constantBetween : ∃ r p v, constantBetween.request = .ok r ∧
    constantBetween.parts ["X", "N", "n"] r "CUdeviceptr" "" 0 = .ok p ∧
    Header.read p.header [] = .ok () [("kernel_" ++ p.constants, [v])] ∧
    v.hints = constantBetween.arguments.map (statedHint ·.1) ∧ v.hints = [some .divisibleBy16, none] ∧
    v.keptOf v.argNames = p.argNames := by
  have hne : constantBetween.arguments ≠ [] := by decide +kernel
  have hplaces : (constantBetween.entries.take constantBetween.arguments.length).map statedHint = [some .divisibleBy16, none] := by
    decide +kernel
  have hown : constantBetween.arguments.map (statedHint ·.1) = [some .divisibleBy16, none] := by decide +kernel
  obtain ⟨r, p, hr, hp⟩ := exists_parts constantBetween ["X", "N", "n"] "CUdeviceptr" "" 0 (by decide +kernel)
  obtain ⟨-, -, h⟩ := header_gives_own_hints_iff constantBetween ["X", "N", "n"] "CUdeviceptr" "" 0 r p hr hp (by decide) (by decide)
    (by decide)
  obtain ⟨v, hread, -, -, hhints, -, hkept⟩ := h hne
  rw [hplaces] at hhints
  have hright := hhints.trans hown.symm
  exact ⟨r, p, v, hr, hp, hread, hright, hhints, (hkept hright).2⟩

def constantFirst : Job :=
  { kernel := "kernel", numWarps := 1, numStages := 3, signature := "1024, *fp32:16, i32", grid := "1,1,1" }

/-- The assumption of the first argument comes to the second one. -/
theorem header_shifts_hints_constantFirst : ∃ r p v, constantFirst.request = .ok r ∧
    constantFirst.parts ["N", "X", "n"] r "CUdeviceptr" "" 0 = .ok p ∧
    Header.read p.header [] = .ok () [("kernel_" ++ p.constants, [v])] ∧
    constantFirst.arguments.map (statedHint ·.1) = [some .divisibleBy16, none] ∧ v.hints = [none, some .divisibleBy16] := by
  have hne : constantFirst.arguments ≠ [] := by decide +kernel
  have hplaces : (constantFirst.entries.take constantFirst.arguments.length).map statedHint = [none, some .divisibleBy16] := by
    decide +kernel
  obtain ⟨r, p, hr, hp⟩ := exists_parts constantFirst ["N", "X", "n"] "CUdeviceptr" "" 0 (by decide +kernel)
  obtain ⟨args, hargs, hread, -⟩ := read_header_of_ne_nil hr hp (by decide) (by decide) (by decide) hne
  exact ⟨r, p, _, hr, hp, hread, by decide +kernel, (hints_variantOf _ _ hr hargs.length_eq.symm).trans hplaces⟩

end Job

end TileKernel.Ahead
