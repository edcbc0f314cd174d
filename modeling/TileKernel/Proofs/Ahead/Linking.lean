import TileKernel.Proofs.Ahead.Directives

/-! # Variants behind one function

The variants that headers give under one name are put behind one function. A new variant is compared with the last one only, and
only as far as both have arguments. So neighbours agree on the arguments they share, and all variants have the same types exactly if
they have the same number of arguments. The function tries the variants with the most assumptions first. Its text is a chain of
branches, and a variant without assumptions leaves a branch without a condition.
-/

namespace TileKernel.Ahead

open List hiding all
open Steps

/-! ## Collecting -/

namespace Header

/-- Two variants have the same types of arguments as far as both have arguments. -/
def Agree (v w : Variant) : Prop := ∀ p ∈ v.argTypes.zip w.argTypes, p.1 = p.2

/-- What holds of the variants under their names while headers are read. -/
structure Collected (vs : Variants) : Prop where
  nodup : (vs.map Prod.fst).Nodup
  agree : ∀ e ∈ vs, e.2 ≠ [] ∧ e.2.IsChain Agree

variable {vs vs' : Variants} {name : String} {v : Variant} {ws : List Variant}

theorem Collected.new (h : Collected vs) (hname : name ∉ vs.map Prod.fst) : Collected (vs ++ [(name, [v])]) where
  nodup := by
    rw [map_append]
    exact h.nodup.append (nodup_singleton name) (by simpa [disjoint_singleton] using hname)
  agree e he := by
    rcases mem_append.1 he with he | he
    · exact h.agree e he
    · simp [mem_singleton.1 he]

theorem Collected.further (h : Collected vs) {last : Variant} (hws : (name, ws) ∈ vs)
    (hlast : last ∈ ws.getLast?) (hagree : Agree last v) :
    Collected (vs.map fun e => if e.1 == name then (e.1, e.2 ++ [v]) else (e.1, e.2)) where
  nodup := by
    rw [map_map]
    convert h.nodup using 2
    funext e
    simp only [Function.comp_apply]
    split <;> rfl
  agree e he := by
    obtain ⟨d, hd, rfl⟩ := mem_map.1 he
    split
    · rename_i hname
      -- names are different, so the entry that grows is the one whose last variant was compared
      obtain rfl : d = (name, ws) := inj_on_of_nodup_map h.nodup hd hws (eq_of_beq hname)
      refine ⟨by simp, isChain_append.2 ⟨(h.agree _ hd).2, isChain_singleton v, ?_⟩⟩
      rintro u hu _ ⟨⟩
      exact Option.mem_unique hu hlast ▸ hagree
    · exact h.agree d hd

theorem Collected.add (h : Collected vs) (hadd : add vs name v = .ok vs') : Collected vs' := by
  unfold Header.add at hadd
  cases hws : vs.lookup name with
  | none =>
    obtain rfl : vs ++ [(name, [v])] = vs' := by simpa [hws] using hadd
    exact h.new fun hmem => by simpa [hws] using Table.isSome_lookup_iff.2 hmem
  | some ws =>
    have hmem := Table.mem_of_lookup hws
    cases hlast : ws.getLast? with
    | none => exact absurd (getLast?_eq_none_iff.1 hlast) (h.agree _ hmem).1
    | some last =>
      simp only [hws, Option.bind_some, hlast] at hadd
      split at hadd
      · cases hadd
      · rename_i hsame
        obtain rfl := Except.ok.inj hadd
        exact h.further hmem hlast (by simpa [Agree] using hsame)

theorem ensures_readLine (text : String) (h : Collected vs) : Ensures (readLine text) vs fun _ vs' => Collected vs' := by
  unfold readLine
  split
  · exact Ensures.of_pure.2 h
  · split
    · exact Ensures.of_throw
    · refine Ensures.of_bind.2 (Ensures.of_get.2 ?_)
      split
      · exact Ensures.of_throw
      · rename_i hadd
        rintro _ _ ⟨⟩
        exact h.add hadd

theorem ensures_read (header : String) (h : Collected vs) : Ensures (read header) vs fun _ vs' => Collected vs' := by
  unfold read
  induction Text.lines header generalizing vs with
  | nil => exact Ensures.of_pure.2 h
  | cons l ls ih => exact Ensures.of_bind.2 ((ensures_readLine l h).mono fun _ _ => ih)

/-- The variants after one more header. -/
def readOnto (vs : Variants) (header : String) : Result Variants :=
  match read header vs with
  | .ok _ vs => .ok vs
  | .error f _ => .error f

theorem collected_of_foldlM {headers : List String} (h : Collected vs) (hread : headers.foldlM readOnto vs = .ok vs') :
    Collected vs' := by
  induction headers generalizing vs with
  | nil => exact Except.ok.inj hread ▸ h
  | cons header headers ih =>
    obtain ⟨us, hus, hread⟩ := bind_eq_ok.1 hread
    unfold readOnto at hus
    split at hus
    · rename_i hok
      exact ih (Except.ok.inj hus ▸ ensures_read header h _ _ hok) hread
    · cases hus

theorem Agree.types_eq {w : Variant} (h : Agree v w) (hlength : v.argTypes.length = w.argTypes.length) : v.argTypes = w.argTypes :=
  forall₂_eq_eq_eq (α := String) ▸ forall₂_iff_zip.2 ⟨hlength, fun {a b} hab => h (a, b) hab⟩

/-- Along a chain of variants with one number of arguments the types of the first one are kept. -/
theorem types_eq_of_isChain (h : ws.IsChain Agree) (hlength : ∀ v ∈ ws, ∀ w ∈ ws, v.argTypes.length = w.argTypes.length) :
    ∀ v ∈ ws, ∀ w ∈ ws, v.argTypes = w.argTypes := by
  have hchain : ws.IsChain fun v w => v.argTypes = w.argTypes :=
    h.imp_of_mem_imp fun v w hv hw hagree => hagree.types_eq (hlength v hv w hw)
  have hpairs := isChain_iff_pairwise.1 (isChain_map_of_isChain Variant.argTypes (fun _ _ => id) hchain)
  intro v hv w hw
  exact hpairs.forall_of_forall (fun _ _ => rfl) (mem_map_of_mem hv) (mem_map_of_mem hw)

end Header

/-- Headers that are read without a failure: under every name there is a variant, neighbours have the same types of arguments as far as
both have arguments, and all have the same types exactly if they have the same number of arguments. -/
theorem linked_types_equal_iff (headers : List String) (vs : Variants) (name : String) (ws : List Variant)
    (hread : headers.foldlM Header.readOnto [] = .ok vs) (hws : (name, ws) ∈ vs) :
    Linking.linkHeaders headers = Linking.link vs ∧ ws ≠ [] ∧ ws.IsChain Header.Agree ∧
      ((∀ v ∈ ws, ∀ w ∈ ws, v.argTypes = w.argTypes) ↔ ∀ v ∈ ws, ∀ w ∈ ws, v.argTypes.length = w.argTypes.length) := by
  have hnil : Header.Collected [] := ⟨nodup_nil, by simp⟩
  obtain ⟨hne, hchain⟩ := (Header.collected_of_foldlM hnil hread).agree _ hws
  refine ⟨?_, hne, hchain, fun h v hv w hw => congrArg length (h v hv w hw), Header.types_eq_of_isChain hchain⟩
  change headers.foldlM Header.readOnto [] >>= Linking.link = _
  rw [hread, ok_bind]

/-- Headers of one kernel for lists of arguments. -/
def copyHeaders (lists : List (Named String)) : List String := lists.map (Header.directiveOf "copy" "0a" · {} "4")

theorem foldlM_copyHeaders (lists : List (Named String)) (h : ∀ args ∈ lists, args ≠ [] ∧ ∀ a ∈ args, Header.IsArgument a)
    (vs : Variants) : (copyHeaders lists).foldlM Header.readOnto vs =
      lists.foldlM (fun vs args => Header.add vs "copy_4" (Header.variantOf "copy" "0a" args {})) vs := by
  induction lists generalizing vs with
  | nil => rfl
  | cons args lists ih =>
    obtain ⟨hne, hargs⟩ := h args mem_cons_self
    have hread : Header.readOnto vs (Header.directiveOf "copy" "0a" args {} "4") =
        Header.add vs "copy_4" (Header.variantOf "copy" "0a" args {}) := by
      have hname : Header.IsWord "copy" ∧ Header.IsWord "0a" ∧ Header.IsLine "4" := by decide +kernel
      rw [Header.readOnto, Header.read,
        Header.lines_of_isLine (Header.isLine_directiveOf {} hname.1 hname.2.1 hargs hne hname.2.2),
        show [Header.directiveOf "copy" "0a" args {} "4"].forM Header.readLine = Header.readLine _ from bind_pure _,
        Header.readLine_directiveOf {} hname.1 hname.2.1 (by decide +kernel) hargs hne hname.2.2 (by decide +kernel),
        show "copy" ++ "_" ++ "4" = "copy_4" from rfl]
      cases Header.add vs "copy_4" (Header.variantOf "copy" "0a" args {}) <;> rfl
    rw [copyHeaders, map_cons, foldlM_cons, hread, foldlM_cons]
    congr 1
    funext us
    exact ih (fun as has => h as (mem_cons_of_mem _ has)) us

/-- A variant with one argument less stands between two that differ in their second argument. -/
def shorterBetween : List (Named String) :=
  [[("int32_t", "a"), ("int32_t", "b")], [("int32_t", "a")], [("int32_t", "a"), ("float", "b")]]

theorem linked_types_equal_iff_shorterBetween : ∃ ws,
    (copyHeaders shorterBetween).foldlM Header.readOnto [] = .ok [("copy_4", ws)] ∧ ws.IsChain Header.Agree :=
  have hread := (foldlM_copyHeaders shorterBetween (by decide +kernel) []).trans rfl
  ⟨_, hread, (linked_types_equal_iff _ _ _ _ hread mem_cons_self).2.2.1⟩

theorem linked_types_differ : ∃ ws, (copyHeaders shorterBetween).foldlM Header.readOnto [] = .ok [("copy_4", ws)] ∧
    ws.map Variant.argTypes = [["int32_t", "int32_t"], ["int32_t"], ["int32_t", "float"]] :=
  ⟨_, (foldlM_copyHeaders _ (by decide +kernel) []).trans rfl, rfl⟩

/-! ## Dispatching -/

def Hint.holds (n : Int) : Hint → Bool
  | isOne => n == 1
  | divisibleBy16 => n.tmod 16 == 0

/-- A branch of a chain: the call that is made if the assumptions hold of the arguments with these names. -/
structure Branch where
  tests : Named Hint
  function : String
  args : List String

namespace Branch

def testText : String × Hint → String
  | (n, .isOne) => s!"({n} == 1)"
  | (n, .divisibleBy16) => s!"({n} % 16 == 0)"

def lines (b : Branch) : List String :=
  ["  if (" ++ " && ".intercalate (b.tests.map testText) ++ ")",
    s!"    return {b.function}(stream, {Text.commaSeparated b.args});"]

/-- The call that a chain of branches makes, with the values of its arguments; without a call the chain gives an error. -/
def run (env : String → Int) (chain : List Branch) : Option (String × List Int) :=
  (chain.find? fun b => b.tests.all fun t => t.2.holds (env t.1)).map fun b => (b.function, b.args.map env)

end Branch

namespace Variant

variable {v : Variant} {env : String → Int}

/-- Every argument has its place among the assumptions, and these are counted. -/
def IsConsistent (v : Variant) : Prop :=
  v.hints.length = v.argNames.length ∧ v.hintCount = (v.hints.filter Option.isSome).length

instance (v : Variant) : Decidable v.IsConsistent := inferInstanceAs (Decidable (_ ∧ _))

def Matches (v : Variant) (env : String → Int) : Prop :=
  ∀ n h, (n, some h) ∈ v.argNames.zip v.hints → h.holds (env n) = true

def branch (v : Variant) : Branch where
  tests := (v.argNames.zip v.hints).filterMap fun a => a.2.map (a.1, ·)
  function := v.function
  args := v.keptOf v.argNames

theorem condition_eq (v : Variant) : v.condition = " && ".intercalate (v.branch.tests.map Branch.testText) := by
  rw [condition, branch, map_filterMap]
  congr 2
  funext a
  obtain ⟨n, _ | _ | _⟩ := a <;> rfl

theorem lines_branch (v : Variant) : v.branch.lines = [s!"  if ({v.condition})",
    s!"    return {v.function}(stream, {Text.commaSeparated (v.keptOf v.argNames)});"] := by
  rw [Branch.lines, ← condition_eq]
  rfl

theorem all_tests_iff : (v.branch.tests.all fun t => t.2.holds (env t.1)) = true ↔ v.Matches env := by
  simp only [all_eq_true, branch, mem_filterMap, Option.map_eq_some_iff, Matches]
  constructor
  · intro h n hint hmem
    exact h (n, hint) ⟨_, hmem, hint, rfl, rfl⟩
  · rintro h _ ⟨⟨n, _⟩, hmem, hint, rfl, rfl⟩
    exact h n hint hmem

theorem tests_eq_nil_iff (h : v.IsConsistent) : v.branch.tests = [] ↔ v.hintCount = 0 := by
  conv_rhs => rw [h.2, length_eq_zero_iff, filter_eq_nil_iff, ← map_snd_zip h.1.le]
  simp only [branch, filterMap_eq_nil_iff, forall_mem_map, Option.map_eq_none_iff, Option.not_isSome_iff_eq_none]

theorem map_args (v : Variant) (env : String → Int) :
    v.branch.args.map env = ((v.argNames.zip v.hints).filter (·.2 != some .isOne)).map (env ·.1) := by
  rw [branch, keptOf, map_map]
  rfl

end Variant

namespace Linking

variable (vs : List Variant)

/-- The branches of the function for some variants. -/
def chain : List Branch := (byHints vs).map Variant.branch

theorem dispatcher_eq (name : String) (vs : List Variant) : ∃ before after, dispatcher name vs =
    before ++ block s!"CUresult {name}(CUstream stream, {lastSignature vs})"
      ((chain vs).flatMap Branch.lines ++ ["", "  return CUDA_ERROR_INVALID_VALUE;"]) ++ after := by
  rw [chain, flatMap_map, show (fun v : Variant => v.branch.lines) = _ from funext Variant.lines_branch]
  unfold dispatcher
  exact ⟨_, _, String.append_assoc⟩

theorem pairwise_byHints : (byHints vs).Pairwise fun v w => w.hintCount ≤ v.hintCount := by
  have h : (byHints vs).Pairwise fun v w => decide (v.hintCount ≥ w.hintCount) = true :=
    pairwise_mergeSort (fun a b c => by simpa using fun hab hbc => hbc.trans hab) (fun a b => by simpa using le_total _ _) vs
  simpa using h

theorem run_chain (env : String → Int) : Branch.run env (chain vs) =
    ((byHints vs).find? fun v => v.branch.tests.all fun t => t.2.holds (env t.1)).map fun v =>
      (v.function, v.branch.args.map env) := by
  rw [Branch.run, chain, find?_map, Option.map_map]
  rfl

end Linking

/-- The function behind variants makes the first possible call of its chain of branches. Every branch has a condition exactly if every
variant has an assumption. Without a call no variant has all its assumptions met. A call goes to a variant with all its
assumptions met, and with the most among those, and passes the arguments that are not assumed to be one. -/
theorem dispatched_to_most_hints (name : String) (vs : List Variant) (env : String → Int) (hvs : ∀ v ∈ vs, v.IsConsistent) :
    (∃ before after, Linking.dispatcher name vs =
      before ++ Linking.block s!"CUresult {name}(CUstream stream, {Linking.lastSignature vs})"
        ((Linking.chain vs).flatMap Branch.lines ++ ["", "  return CUDA_ERROR_INVALID_VALUE;"]) ++ after) ∧
      ((∀ b ∈ Linking.chain vs, b.tests ≠ []) ↔ ∀ v ∈ vs, v.hintCount ≠ 0) ∧
      (Branch.run env (Linking.chain vs) = none ↔ ∀ v ∈ vs, ¬v.Matches env) ∧
      ∀ call, Branch.run env (Linking.chain vs) = some call → ∃ v ∈ vs, v.Matches env ∧
        (∀ w ∈ vs, w.Matches env → w.hintCount ≤ v.hintCount) ∧
        call = (v.function, ((v.argNames.zip v.hints).filter (·.2 != some .isOne)).map (env ·.1)) := by
  have hmem (v : Variant) : v ∈ Linking.byHints vs ↔ v ∈ vs := by simp [Linking.byHints]
  refine ⟨Linking.dispatcher_eq name vs, ?_, ?_, fun call hcall => ?_⟩
  · rw [Linking.chain, forall_mem_map]
    simp only [hmem]
    exact forall₂_congr fun v hv => not_congr (Variant.tests_eq_nil_iff (hvs v hv))
  · rw [Linking.run_chain, Option.map_eq_none_iff, find?_eq_none]
    simp only [hmem, Variant.all_tests_iff]
  · rw [Linking.run_chain] at hcall
    obtain ⟨v, hfind, rfl⟩ := Option.map_eq_some_iff.1 hcall
    obtain ⟨hv, before, after, hsplit, hbefore⟩ := find?_eq_some_iff_append.1 hfind
    have hsorted := Linking.pairwise_byHints vs
    rw [hsplit, pairwise_append, pairwise_cons] at hsorted
    refine ⟨v, (hmem v).1 (by simp [hsplit]), Variant.all_tests_iff.1 hv, fun w hw hmatch => ?_, by rw [Variant.map_args]⟩
    -- a match in front of the first one is impossible, and behind it there are no more assumptions
    rcases mem_append.1 (hsplit ▸ (hmem w).2 hw) with hw | hw
    · simpa [Variant.all_tests_iff.2 hmatch] using hbefore w hw
    · rcases mem_cons.1 hw with rfl | hw
      · exact le_rfl
      · exact hsorted.2.1.1 w hw

/-- A variant that assumes nothing of its argument. -/
def plainCopy : Variant := Header.variantOf "copy" "0a" [("int32_t", "n")] {}

def divisibleCopy : Variant := Header.variantOf "copy" "0a" [("int32_t", "n")] { divisibleBy16 := [0] }

theorem dispatched_to_most_hints_divisible : (∀ v ∈ [plainCopy, divisibleCopy], v.IsConsistent) ∧
    divisibleCopy.Matches (fun _ => 32) ∧ Branch.run (fun _ => 32) (Linking.chain [plainCopy, divisibleCopy]) ≠ none := by
  have hconsistent : ∀ v ∈ [plainCopy, divisibleCopy], v.IsConsistent := by decide +kernel
  have hmatch : divisibleCopy.Matches fun _ => 32 := Variant.all_tests_iff.1 (by decide +kernel)
  obtain ⟨-, -, hnone, -⟩ := dispatched_to_most_hints "copy_4" [plainCopy, divisibleCopy] (fun _ => 32) hconsistent
  exact ⟨hconsistent, hmatch, fun h => hnone.1 h divisibleCopy (by simp) hmatch⟩

theorem dispatcher_without_condition : plainCopy.IsConsistent ∧ plainCopy.Matches (fun _ => 5) ∧
    (Linking.chain [plainCopy]).flatMap Branch.lines = ["  if ()", "    return copy_0a_0(stream, n);"] :=
  ⟨by decide +kernel, Variant.all_tests_iff.1 (by decide +kernel), by rw [Linking.chain, Linking.byHints, mergeSort_singleton]; decide +kernel⟩

end TileKernel.Ahead
