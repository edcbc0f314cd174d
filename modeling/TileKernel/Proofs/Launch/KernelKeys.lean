import Mathlib.Data.Set.Function
import TileKernel.Proofs.Launch.Digests

/-! # What keys tell apart

The key of a kernel stands for the texts of the functions that are reached by calls that are followed, and for nothing else:
calls inside of the arguments of other calls are not followed. Digests that are kept enter a key as they are, so a key is the
one that the texts have now exactly if all digests that it takes from the table are.
-/

namespace TileKernel.Launch.Identity

open Lowering Source Steps Digest List

/-! ## Running digests are told apart -/

theorem absorb_nil (p : Program) (d : String) : absorb p d [] = d := rfl

theorem absorb_concat (p : Program) (d : String) (cs : List (FuncRef × String)) (c : FuncRef × String) :
    absorb p d (cs ++ [c]) = sha1 (joined p (absorb p d cs) c) := foldl_concat ..

theorem absorbed_concat (p : Program) (d : String) (cs : List (FuncRef × String)) (c : FuncRef × String) :
    absorbed p d (cs ++ [c]) = absorbed p d cs ++ [joined p (absorb p d cs) c] := by
  induction cs generalizing d with
  | nil => rfl
  | cons b cs ih => rw [cons_append, absorbed, ih, absorb_cons, absorbed, cons_append]

variable {p p' : Program} {d text : String} {i j : Nat} {r : Recall} {R : FuncRef → Recall → Prop} {gs : List FuncRef}
  {rs : List Recall} {α : Type} {f : FuncRef} {asked : List Nat} (negated : Bool) {rs' : List Recall}

theorem absorb_induction (P : String → Prop) (hsha1 : ∀ s, P (sha1 s)) (h : P d) (cs : List (FuncRef × String)) :
    P (absorb p d cs) := by
  induction cs generalizing d with
  | nil => exact h
  | cons c cs ih =>
    rw [absorb_cons]
    exact ih (hsha1 _)

theorem length_absorb (h : d.toList.length = 40) (cs : List (FuncRef × String)) : (absorb p d cs).toList.length = 40 :=
  absorb_induction (·.toList.length = 40) length_sha1 h cs

def IsHex (d : String) : Prop := ∀ c ∈ d.toList, c ∈ hexDigits

theorem isHex_sha1 (s : String) : IsHex (sha1 s) := fun _ => mem_sha1

theorem isHex_absorb (h : IsHex d) (cs : List (FuncRef × String)) : IsHex (absorb p d cs) :=
  absorb_induction IsHex isHex_sha1 h cs

/-- A text that has parentheses, as definitions do and digests do not. -/
def IsDefinition (text : String) : Prop := '(' ∈ text.toList

theorem not_isDefinition_joined {c : FuncRef × String} (hd : IsHex d) (hc : IsHex c.2) : ¬ IsDefinition (joined p d c) := by
  have hparen : '(' ∉ hexDigits := by decide
  have hflag : ∀ b, '(' ∉ (flagText b).toList := by
    rintro (_ | _ | _) <;> decide
  simp only [IsDefinition, joined, String.toList_append, mem_append, not_or]
  exact ⟨⟨fun h => hparen (hd _ h), fun h => hparen (hc _ h)⟩, hflag _⟩

theorem append_inj_of_length {a b c : String} (h : a ++ b = c ++ d) (hl : a.toList.length = c.toList.length) : a = c ∧ b = d := by
  have hlist := congrArg String.toList h
  rw [String.toList_append, String.toList_append] at hlist
  obtain ⟨hac, hbd⟩ := append_inj hlist hl
  exact ⟨String.toList_inj.1 hac, String.toList_inj.1 hbd⟩

section Injective

variable {S : Set String} (hS : S.InjOn sha1) {cs cs' : List (FuncRef × String)} {p p' : Program}
include hS

theorem start_of_absorb {text text' : String} (htext : IsDefinition text) (htext' : IsDefinition text')
    (hmem : text ∈ S) (hmem' : text' ∈ S) (hcs : ∀ c ∈ cs, IsHex c.2)
    (hcs' : ∀ c ∈ cs', IsHex c.2) (hsub : ∀ s ∈ absorbed p (sha1 text) cs, s ∈ S)
    (hsub' : ∀ s ∈ absorbed p' (sha1 text') cs', s ∈ S) (h : absorb p (sha1 text) cs = absorb p' (sha1 text') cs') :
    text = text' := by
  -- from the end: the last texts that were hashed are equal, and start with the digests before
  induction cs using reverseRecOn generalizing cs' with
  | nil =>
    rcases eq_nil_or_concat' cs' with rfl | ⟨cs', c', rfl⟩
    · rw [absorb_nil, absorb_nil] at h
      exact hS hmem hmem' h
    · rw [absorb_nil, absorb_concat] at h
      rw [absorbed_concat] at hsub'
      have heq := hS hmem (hsub' _ (by simp)) h
      exact absurd (heq ▸ htext) (not_isDefinition_joined (isHex_absorb (isHex_sha1 _) _) (hcs' c' (by simp)))
  | append_singleton cs c ih =>
    rw [absorb_concat] at h
    rw [absorbed_concat] at hsub
    rcases eq_nil_or_concat' cs' with rfl | ⟨cs', c', rfl⟩
    · rw [absorb_nil] at h
      have heq := hS (hsub _ (by simp)) hmem' h
      exact absurd (heq ▸ htext') (not_isDefinition_joined (isHex_absorb (isHex_sha1 _) _) (hcs c (by simp)))
    · rw [absorb_concat] at h
      rw [absorbed_concat] at hsub'
      have heq := hS (hsub _ (by simp)) (hsub' _ (by simp)) h
      rw [joined, joined, String.append_assoc, String.append_assoc] at heq
      have hrest := (append_inj_of_length heq (by rw [length_absorb (length_sha1 _), length_absorb (length_sha1 _)])).1
      exact ih (fun c hc => hcs c (by simp [hc])) (fun c hc => hcs' c (by simp [hc])) (fun s hs => hsub s (by simp [hs]))
        (fun s hs => hsub' s (by simp [hs])) hrest

theorem entries_of_absorb (hflag : ∀ g, (p.func g).noinline = (p'.func g).noinline) {d : String}
    (hd : d.toList.length = 40) (hfst : cs.map Prod.fst = cs'.map Prod.fst)
    (hsub : ∀ s ∈ absorbed p d cs, s ∈ S) (hsub' : ∀ s ∈ absorbed p' d cs', s ∈ S) (h : absorb p d cs = absorb p' d cs') :
    cs = cs' := by
  induction cs using reverseRecOn generalizing cs' with
  | nil =>
    rw [map_nil, eq_comm, map_eq_nil_iff] at hfst
    exact hfst.symm
  | append_singleton cs c ih =>
    rcases eq_nil_or_concat' cs' with rfl | ⟨cs', c', rfl⟩
    · simp at hfst
    · rw [absorb_concat, absorb_concat] at h
      rw [absorbed_concat] at hsub hsub'
      rw [map_append, map_append] at hfst
      obtain ⟨hfst, hlast⟩ := append_inj' hfst rfl
      have heq := hS (hsub _ (by simp)) (hsub' _ (by simp)) h
      rw [joined, joined, String.append_assoc, String.append_assoc] at heq
      obtain ⟨hrest, hc⟩ := append_inj_of_length heq (by rw [length_absorb hd, length_absorb hd])
      have hc1 : c.1 = c'.1 := by simpa using hlast
      rw [hflag, hc1] at hc
      have hc2 : c.2 = c'.2 := (String.append_left_inj _).1 hc
      rw [ih hfst (fun s hs => hsub s (by simp [hs])) (fun s hs => hsub' s (by simp [hs])) hrest, Prod.ext hc1 hc2]

end Injective

/-! ## Programs that differ in texts -/

structure SameButTexts (p p' : Program) : Prop where
  spaces : p'.spaces = p.spaces
  space : ∀ i, (p'.funcs.getD i default).space = (p.funcs.getD i default).space
  noinline : ∀ i, (p'.funcs.getD i default).noinline = (p.funcs.getD i default).noinline

theorem SameButTexts.scope (h : SameButTexts p p') : p'.scope = p.scope := by
  funext s
  rw [Program.scope, Program.scope, h.spaces]

theorem SameButTexts.valueOf (h : SameButTexts p p') (space : Space) (e : Expr) : valueOf p' space e = valueOf p space e := by
  fun_induction Identity.valueOf p space e with
  | case1 => rw [Identity.valueOf, h.scope]
  | case2 _ v name _ ih =>
    rw [Identity.valueOf, ih, h.scope]
  | case3 e hname hattr => exact Identity.valueOf.eq_3 _ _ e hname hattr

theorem SameButTexts.followed (h : SameButTexts p p') (space : Space) (vs : List Visit) :
    followed p' space vs = followed p space vs := by
  have hone : ∀ v, contribution p' space v = contribution p space v := by
    intro v
    cases v <;> simp only [contribution, h.valueOf]
  induction vs with
  | nil => rfl
  | cons v vs ih => simp only [Identity.followed, hone, ih]

theorem SameButTexts.callees (h : SameButTexts p p') (htext : sourceOf p' i = sourceOf p i) : callees p' i = callees p i := by
  have htext : (p'.funcs.getD i default).text = (p.funcs.getD i default).text := htext
  simp only [Identity.callees, htext, h.space, h.followed]

theorem SameButTexts.joined (h : SameButTexts p p') : joined p' = joined p := by
  funext d c
  rw [Identity.joined, Identity.joined, Program.func, Program.func, h.noinline]

theorem SameButTexts.absorb (h : SameButTexts p p') : absorb p' = absorb p := by
  funext d cs
  rw [Identity.absorb, Identity.absorb, h.joined]

theorem SameButTexts.absorbed (h : SameButTexts p p') : absorbed p' = absorbed p := by
  funext d cs
  induction cs generalizing d with
  | nil => rfl
  | cons c cs ih => rw [Identity.absorbed, Identity.absorbed, h.joined, ih]

theorem getD_setText (t : Table) (i j : Nat) (text : String) : (t.setText i text).program.funcs.getD j default =
    if i = j ∧ j < t.program.funcs.size then { t.program.funcs.getD j default with text, tree := Module.treeOf text }
    else t.program.funcs.getD j default := by
  show (t.program.funcs.modify i _).getD j default = _
  rw [Array.getD_eq_getD_getElem?, Array.getD_eq_getD_getElem?, Array.getElem?_modify]
  by_cases hj : j < t.program.funcs.size
  · by_cases hij : i = j <;> simp [hij, hj]
  · simp [hj]

theorem sameButTexts_setText (t : Table) (i : Nat) (text : String) : SameButTexts t.program (t.setText i text).program where
  spaces := rfl
  space j := by
    rw [getD_setText]
    split <;> rfl
  noinline j := by
    rw [getD_setText]
    split <;> rfl

theorem sourceOf_setText (t : Table) (text : String) (h : i ≠ j) :
    sourceOf (t.setText i text).program j = sourceOf t.program j := by
  rw [sourceOf, sourceOf, getD_setText, if_neg fun hij => h hij.1]

/-! ## Keys of fresh functions -/

def fresh (p : Program) : Table := { program := p }

theorem program_fresh (p : Program) : (fresh p).program = p := rfl

theorem find?_fresh (p : Program) (i : Nat) : (fresh p).find? i = none := rfl

theorem recalls_fresh : Recalls (fresh p) i r ↔
    ∃ gs rs, callees p i = .ok gs ∧ Forall₂ (fun g r => Recalls (fresh p) g.index r) gs rs ∧ r = recompute p i gs rs :=
  recalls_unknown (find?_fresh p i)

def hashedFor (t : Table) (i : Nat) : Set String := {s | ∃ r, Recalls t i r ∧ s ∈ r.hashed}

/-- The recalled digests of the functions that two tables agree on, place by place. -/
theorem exists_of_zip_eq {R' : FuncRef → Recall → Prop} (h : List.Forall₂ R gs rs) (h' : List.Forall₂ R' gs rs')
    (hzip : gs.zip (rs.map (·.digest)) = gs.zip (rs'.map (·.digest))) {g : FuncRef} (hg : g ∈ gs) :
    ∃ r ∈ rs, ∃ r' ∈ rs', R g r ∧ R' g r' ∧ r.digest = r'.digest := by
  induction h generalizing rs' with
  | nil => cases hg
  | @cons _ r _ rs hr _ ih =>
    cases h' with
    | @cons _ r' _ rs' hr' hrs' =>
      simp only [map_cons, zip_cons_cons, cons.injEq, Prod.mk.injEq, true_and] at hzip
      rcases mem_cons.1 hg with rfl | hg
      · exact ⟨r, mem_cons_self, r', mem_cons_self, hr, hr', hzip.1⟩
      · obtain ⟨s, hs, s', hs', hrest⟩ := ih hrs' hzip.2 hg
        exact ⟨s, mem_cons_of_mem _ hs, s', mem_cons_of_mem _ hs', hrest⟩

theorem map_fst_zip_digests (h : List.Forall₂ R gs rs) : (gs.zip (rs.map (·.digest))).map Prod.fst = gs :=
  map_fst_zip (by rw [length_map, h.length_eq])

theorem isHex_of_recalls (h : Recalls (fresh p) i r) : IsHex r.digest := by
  obtain ⟨gs, rs, -, -, rfl⟩ := recalls_fresh.1 h
  exact isHex_absorb (isHex_sha1 _) _

theorem isHex_of_mem_zip (h : List.Forall₂ (fun g r => Recalls (fresh p) g.index r) gs rs) :
    ∀ c ∈ gs.zip (rs.map (·.digest)), IsHex c.2 := by
  induction h with
  | nil => simp
  | cons hr _ ih =>
    rintro c hc
    rcases mem_cons.1 hc with rfl | hc
    · exact isHex_of_recalls hr
    · exact ih c hc

theorem exists_forall₂ {β : Type} {R : α → β → Prop} {xs : List α} (h : ∀ x ∈ xs, ∃ y, R x y) : ∃ ys, List.Forall₂ R xs ys := by
  induction xs with
  | nil => exact ⟨[], .nil⟩
  | cons x xs ih =>
    obtain ⟨y, hy⟩ := h x mem_cons_self
    obtain ⟨ys, hys⟩ := ih fun x hx => h x (mem_cons_of_mem _ hx)
    exact ⟨y :: ys, .cons hy hys⟩

section Sources

variable {p p' : Program} (hsame : SameButTexts p p')
include hsame

/-- Where all texts that are reached agree, the same digest is computed. -/
theorem recalls_of_sources {i : Nat} (hsources : ∀ j, Reaches p i j → sourceOf p' j = sourceOf p j) {r : Recall}
    (hr : Recalls (fresh p) i r) : Recalls (fresh p') i r := by
  obtain ⟨n, hn⟩ := hr
  induction n generalizing i r with
  | zero => cases hn
  | succ n ih =>
    obtain ⟨gs, rs, hgs, hrs, rfl⟩ := (recall_unknown (find?_fresh p i)).1 hn
    have htext := hsources i .refl
    have hsub : Forall₂ (fun g r => Recalls (fresh p') g.index r) gs rs := by
      refine ((forall₂_and_left _ _).2 ⟨fun g hg => ?_, hrs⟩).imp fun g r h => ih h.1 h.2
      exact fun j hj => hsources j (.head ((follows_iff hgs _).2 ⟨g, hg, rfl⟩) hj)
    refine recalls_fresh.2 ⟨gs, rs, (hsame.callees htext).trans hgs, hsub, ?_⟩
    rw [recompute, recompute, htext, hsame.absorb, hsame.absorbed, program_fresh]

theorem digests_eq_iff {i : Nat} (hsound : Sound p i) (hdef : ∀ j, Reaches p i j → IsDefinition (sourceOf p j))
    (hdef' : ∀ j, Reaches p' i j → IsDefinition (sourceOf p' j)) {r r' : Recall} (hr : Recalls (fresh p) i r)
    (hr' : Recalls (fresh p') i r') {S : Set String} (hS : S.InjOn sha1) (hsub : ∀ s ∈ r.hashed, s ∈ S)
    (hsub' : ∀ s ∈ r'.hashed, s ∈ S) : r.digest = r'.digest ↔ ∀ j, Reaches p i j → sourceOf p' j = sourceOf p j := by
  constructor
  · intro heq
    induction hsound generalizing r r' with
    | @intro i gs hgs hsound ih =>
      obtain ⟨gs₁, rs, hgs₁, hrs, rfl⟩ := recalls_fresh.1 hr
      obtain rfl := Except.ok.inj (hgs.symm.trans hgs₁)
      obtain ⟨gs', rs', hgs', hrs', rfl⟩ := recalls_fresh.1 hr'
      simp only [recompute, cons_append, forall_mem_cons, forall_mem_append] at hsub hsub' heq
      -- the texts of the function itself agree, so the same functions are called
      have htext : sourceOf p' i = sourceOf p i := (start_of_absorb hS (hdef i .refl) (hdef' i .refl) hsub.1 hsub'.1
        (isHex_of_mem_zip hrs) (isHex_of_mem_zip hrs') hsub.2.1 hsub'.2.1 heq).symm
      have hcallees := hsame.callees htext
      obtain rfl := Except.ok.inj ((hgs.symm.trans hcallees.symm).trans hgs')
      rw [htext] at heq hsub'
      have hzip := entries_of_absorb hS (fun g => (hsame.noinline g.index).symm) (length_sha1 _)
        ((map_fst_zip_digests hrs).trans (map_fst_zip_digests hrs').symm) hsub.2.1 hsub'.2.1 heq
      intro j hj
      rcases hj.cases_head with rfl | ⟨k, hik, hkj⟩
      · exact htext
      · obtain ⟨g, hg, rfl⟩ := (follows_iff hgs k).1 hik
        have hik' : Follows p' i g.index := (follows_iff hgs' _).2 ⟨g, hg, rfl⟩
        obtain ⟨s, hs, s', hs', hrs, hrs', hds⟩ := exists_of_zip_eq hrs hrs' hzip hg
        exact ih g hg (fun j hj => hdef j (.head hik hj)) (fun j hj => hdef' j (.head hik' hj)) hrs hrs'
          (fun x hx => hsub.2.2 x (mem_flatMap.2 ⟨s, hs, hx⟩))
          (fun x hx => hsub'.2.2 x (mem_flatMap.2 ⟨s', hs', hx⟩)) hds j hkj
  · intro hsources
    rw [hr'.unique (recalls_of_sources hsame hsources hr)]

end Sources

theorem key_fresh (hf : IsKernel p f) (hsound : Sound p f.index) :
    ∃ r, Recalls (fresh p) f.index r ∧ (key (fresh p) f).1 = .ok (r.digest ++ version) := by
  obtain ⟨r, t', hr, -, hkey⟩ := key_spec (t := fresh p) hf hsound (find?_fresh p f.index)
  exact ⟨r, hr, by rw [hkey]⟩

/-- The keys of a kernel in two programs of the same functions, none of which has been asked for a key before, differ exactly
if the text of some function differs that is reached by calls that are followed. -/
theorem key_ne_iff_source_ne {p p' : Program} {f : FuncRef} (hsame : SameButTexts p p') (hkernel : IsKernel p f)
    (hkernel' : IsKernel p' f) (hsound : Sound p f.index) (hsound' : Sound p' f.index)
    (hdef : ∀ j, Reaches p f.index j → IsDefinition (sourceOf p j))
    (hdef' : ∀ j, Reaches p' f.index j → IsDefinition (sourceOf p' j))
    (hinj : (hashedFor (fresh p) f.index ∪ hashedFor (fresh p') f.index).InjOn sha1) :
    ∃ k k', (key (fresh p) f).1 = .ok k ∧ (key (fresh p') f).1 = .ok k' ∧
      (k ≠ k' ↔ ∃ j, Reaches p f.index j ∧ sourceOf p' j ≠ sourceOf p j) := by
  obtain ⟨r, hr, hkey⟩ := key_fresh hkernel hsound
  obtain ⟨r', hr', hkey'⟩ := key_fresh hkernel' hsound'
  refine ⟨_, _, hkey, hkey', ?_⟩
  have hiff := digests_eq_iff hsame hsound hdef hdef' hr hr' hinj (fun s hs => .inl ⟨r, hr, hs⟩) fun s hs => .inr ⟨r', hr', hs⟩
  rw [ne_eq, String.append_left_inj, hiff]
  push Not
  rfl

/-! ## Samples -/

theorem reaches_iff (h : callees p i = .ok gs) (j : Nat) : Reaches p i j ↔ i = j ∨ ∃ g ∈ gs, Reaches p g.index j := by
  rw [Reaches, Relation.ReflTransGen.cases_head_iff]
  simp only [follows_iff h]
  constructor
  · rintro (rfl | ⟨_, ⟨g, hg, rfl⟩, hj⟩)
    · exact .inl rfl
    · exact .inr ⟨g, hg, hj⟩
  · rintro (rfl | ⟨g, hg, hj⟩)
    · exact .inl rfl
    · exact .inr ⟨_, ⟨g, hg, rfl⟩, hj⟩

theorem Sound.of_recalls (h : Recalls (fresh p) i r) : Sound p i := by
  obtain ⟨n, hn⟩ := h
  induction n generalizing i r with
  | zero => cases hn
  | succ n ih =>
    obtain ⟨gs, rs, hgs, hrs, -⟩ := (recall_unknown (find?_fresh p i)).1 hn
    refine .intro hgs fun g hg => ?_
    obtain ⟨r, -, hr⟩ := exists_mem_of_forall₂ hrs hg
    exact ih hr

theorem recalls_leaf (h : callees p i = .ok []) : Recalls (fresh p) i ⟨sha1 (sourceOf p i), [sourceOf p i]⟩ :=
  recalls_fresh.2 ⟨[], [], h, .nil, by simp [recompute, absorb, absorbed]⟩

theorem recalls_single {g : FuncRef} (h : callees p i = .ok [g])
    (hr : Recalls (fresh p) g.index r) : Recalls (fresh p) i ⟨sha1 (joined p (sha1 (sourceOf p i)) (g, r.digest)),
      sourceOf p i :: joined p (sha1 (sourceOf p i)) (g, r.digest) :: r.hashed⟩ :=
  recalls_fresh.2 ⟨[g], [r], h, .cons hr .nil, by simp [recompute, absorb, absorbed]⟩

theorem hashedFor_subset {t : Table} (h : Recalls t i r) : hashedFor t i ⊆ {s | s ∈ r.hashed} := by
  rintro s ⟨q, hq, hs⟩
  rwa [hq.unique h] at hs

/-- A program of compiled functions, given by their names and texts. -/
def family (texts : Named String) : Program :=
  texts.foldl (fun p (name, text) => p.addFunc
    { name, space := .user "kernels", file := "kernels.py", beginLine := 1, text, tree := Module.treeOf text }) {}

def member (i : Nat) (name : String) : FuncRef := { index := i, name, space := .user "kernels", isJit := true }

def identity : String := if negated then "def g(x):\n    return -x\n" else "def g(x):\n    return x\n"

/-- Two functions: the one above, and one that may call it. -/
def callerFamily (text : String) (negated : Bool) : Program := family [("g", identity negated), ("f", text)]

theorem exists_tree (h : (Module.treeOf text).toOption.isSome) : ∃ d, Module.treeOf text = .ok d :=
  (Option.isSome_iff_exists.1 h).imp fun _ => eq_ok_of_toOption

theorem isKernel_callerFamily (h : (Module.treeOf text).toOption.isSome) (negated : Bool) :
    IsKernel (callerFamily text negated) (member 1 "f") := by
  obtain ⟨d, hd⟩ := exists_tree h
  exact ⟨rfl, d, hd, hd⟩

def caller : String := "def f(x):\n    return g(x)\n"

theorem isKernel_caller : IsKernel (callerFamily caller negated) (member 1 "f") :=
  isKernel_callerFamily (by decide +kernel) negated

theorem callees_caller :
    callees (callerFamily caller negated) 0 = .ok [] ∧ callees (callerFamily caller negated) 1 = .ok [member 0 "g"] := by
  constructor <;> apply eq_ok_of_toOption <;> cases negated <;> decide +kernel

theorem reaches_caller (j : Nat) : Reaches (callerFamily caller negated) 1 j ↔ j < 2 := by
  obtain ⟨hcallee, hcaller⟩ := callees_caller negated
  rw [reaches_iff hcaller]
  simp only [mem_singleton, exists_eq_left, show (member 0 "g").index = 0 from rfl, reaches_iff hcallee,
    not_mem_nil, false_and, exists_false, or_false]
  omega

def callerText : String := sha1 caller ++ sha1 (identity negated) ++ "None"

theorem recalls_caller : Recalls (fresh (callerFamily caller negated)) 1
    ⟨sha1 (callerText negated), [caller, callerText negated, identity negated]⟩ := by
  obtain ⟨hcallee, hcaller⟩ := callees_caller negated
  have hsource : sourceOf (callerFamily caller negated) 1 = caller := rfl
  have hjoined : ∀ d e, joined (callerFamily caller negated) d (member 0 "g", e) = d ++ e ++ "None" := fun _ _ => rfl
  have hleaf : Recalls (fresh (callerFamily caller negated)) (member 0 "g").index
      ⟨sha1 (identity negated), [identity negated]⟩ := recalls_leaf hcallee
  have h := recalls_single hcaller hleaf
  rwa [hjoined, hsource] at h

theorem sha1_injOn_caller :
    ({s | s ∈ [caller, identity false, identity true, callerText false, callerText true]} : Set String).InjOn sha1 :=
  inj_on_of_nodup_map (by decide +kernel)

/-- An edit of a function that is called gives a new key. -/
theorem key_ne_after_edit_of_callee : ∃ k k', (key (fresh (callerFamily caller false)) (member 1 "f")).1 = .ok k ∧
    (key (fresh (callerFamily caller true)) (member 1 "f")).1 = .ok k' ∧ k ≠ k' := by
  have hsame : SameButTexts (callerFamily caller false) (callerFamily caller true) := by
    refine ⟨rfl, fun i => ?_, fun i => ?_⟩ <;> obtain _ | _ | i := i <;> rfl
  have hdef : ∀ negated, ∀ j, Reaches (callerFamily caller negated) 1 j →
      IsDefinition (sourceOf (callerFamily caller negated) j) := by
    have hall : ∀ negated, ∀ j < 2, '(' ∈ (sourceOf (callerFamily caller negated) j).toList := by decide +kernel
    exact fun negated j hj => hall negated j ((reaches_caller negated j).1 hj)
  have hinj : (hashedFor (fresh (callerFamily caller false)) 1 ∪ hashedFor (fresh (callerFamily caller true)) 1).InjOn sha1 :=
    sha1_injOn_caller.mono (Set.union_subset ((hashedFor_subset (recalls_caller false)).trans (by simp))
      ((hashedFor_subset (recalls_caller true)).trans (by simp)))
  obtain ⟨k, k', hk, hk', hiff⟩ := key_ne_iff_source_ne (f := member 1 "f") hsame (isKernel_caller false) (isKernel_caller true)
    (.of_recalls (recalls_caller false)) (.of_recalls (recalls_caller true)) (hdef false) (hdef true) hinj
  exact ⟨k, k', hk, hk', hiff.2 ⟨0, (reaches_caller false 0).2 (by decide), by decide +kernel⟩⟩

def outerCaller : String := "def f(x):\n    return tl.abs(g(x))\n"

/-- A function that hands it on to be called. -/
def reducer : String := "def f(x):\n    return tl.reduce(x, 0, g)\n"

theorem key_of_no_callees (htree : (Module.treeOf text).toOption.isSome) {negated : Bool}
    (h : (callees (callerFamily text negated) 1).toOption = some []) :
    (key (fresh (callerFamily text negated)) (member 1 "f")).1 = .ok (sha1 text ++ version) := by
  have hleaf : Recalls (fresh (callerFamily text negated)) 1 ⟨sha1 text, [text]⟩ := recalls_leaf (eq_ok_of_toOption h)
  obtain ⟨r, hr, hkey⟩ := key_fresh (isKernel_callerFamily htree negated) (.of_recalls hleaf)
  rw [hkey, hr.unique hleaf]

/-- Calls in arguments are not followed, and neither are functions that are arguments: edits of them keep the key. -/
theorem key_eq_after_edit_behind_argument :
    (∃ k, (key (fresh (callerFamily outerCaller false)) (member 1 "f")).1 = .ok k ∧
      (key (fresh (callerFamily outerCaller true)) (member 1 "f")).1 = .ok k) ∧
    (∃ k, (key (fresh (callerFamily reducer false)) (member 1 "f")).1 = .ok k ∧
      (key (fresh (callerFamily reducer true)) (member 1 "f")).1 = .ok k) := by
  have htrees : ∀ text ∈ [outerCaller, reducer], (Module.treeOf text).toOption.isSome := by decide +kernel
  have hcallees : ∀ text ∈ [outerCaller, reducer], ∀ negated,
      (callees (callerFamily text negated) 1).toOption = some [] := by decide +kernel
  have hkey (text : String) (htext : text ∈ [outerCaller, reducer]) : ∃ k,
      (key (fresh (callerFamily text false)) (member 1 "f")).1 = .ok k ∧
        (key (fresh (callerFamily text true)) (member 1 "f")).1 = .ok k :=
    ⟨_, key_of_no_callees (htrees text htext) (hcallees text htext false),
      key_of_no_callees (htrees text htext) (hcallees text htext true)⟩
  exact ⟨hkey outerCaller (by simp), hkey reducer (by simp)⟩

/-! ## Tables that are asked again -/

/-- What is done with a table: the text of a function is replaced, or the key of a kernel is asked for. -/
inductive Operation where
  | assign (i : Nat) (text : String)
  | query (f : FuncRef)

def Operation.run (t : Table) : Operation → Table
  | .assign i text => t.setText i text
  | .query f => (key t f).2

def after (t : Table) (ops : List Operation) : Table := ops.foldl Operation.run t

theorem after_nil (t : Table) : after t [] = t := rfl

theorem after_assign (t : Table) (i : Nat) (text : String) (ops : List Operation) :
    after t (.assign i text :: ops) = after (t.setText i text) ops := rfl

theorem after_query (t : Table) (f : FuncRef) (ops : List Operation) : after t (.query f :: ops) = after (key t f).2 ops := rfl

/-- A digest that is kept, and that a walk from a function takes as it is. -/
inductive Consults (t : Table) : Nat → Nat → Prop
  | kept {i : Nat} {d : String} : t.find? i = some d → Consults t i i
  | through {i j k : Nat} : t.find? i = none → Follows t.program i j → Consults t j k → Consults t i k

def Current (t : Table) (j : Nat) : Prop := ∀ d, t.find? j = some d → ∃ r, Recalls (fresh t.program) j r ∧ r.digest = d

/-- Asking for a key gives the one that the texts have now: the key itself is kept, or all digests that it takes from the
table are current. -/
def UpToDate (t : Table) (i : Nat) : Prop :=
  match t.find? i with
  | some d => ∃ r, Recalls (fresh t.program) i r ∧ r.digest ++ version = d
  | none => ∀ j, Consults t i j → Current t j

variable {t : Table} {ops : List Operation}

theorem Consults.reaches (h : Consults t i j) : Reaches t.program i j := by
  induction h with
  | kept => exact .refl
  | through _ hij _ ih => exact .head hij ih

theorem Forall₂.digests {R' : FuncRef → Recall → Prop} (h : List.Forall₂ R gs rs) (h' : List.Forall₂ R' gs rs')
    (heq : ∀ g ∈ gs, ∀ r r', R g r → R' g r' → r.digest = r'.digest ∧ ∀ s ∈ r.hashed, s ∈ r'.hashed) :
    rs.map (·.digest) = rs'.map (·.digest) ∧ ∀ s ∈ rs.flatMap (·.hashed), s ∈ rs'.flatMap (·.hashed) := by
  induction h generalizing rs' with
  | nil =>
    cases h'
    exact ⟨rfl, fun _ h => h⟩
  | cons hr _ ih =>
    cases h' with
    | cons hr' hrs' =>
      obtain ⟨hd, hh⟩ := heq _ mem_cons_self _ _ hr hr'
      obtain ⟨hds, hhs⟩ := ih hrs' fun g hg => heq g (mem_cons_of_mem _ hg)
      refine ⟨by rw [map_cons, map_cons, hd, hds], ?_⟩
      simp only [flatMap_cons, forall_mem_append]
      exact ⟨fun s hs => mem_append_left _ (hh s hs), fun s hs => mem_append_right _ (hhs s hs)⟩

/-- Where all digests taken from the table are current, the digest is that of the texts, and no other texts are hashed. -/
theorem digest_eq_of_current (hsound : Sound t.program i) (hcurrent : ∀ j, Consults t i j → Current t j)
    {r' : Recall} (hr : Recalls t i r) (hr' : Recalls (fresh t.program) i r') :
    r.digest = r'.digest ∧ ∀ s ∈ r.hashed, s ∈ r'.hashed := by
  induction hsound generalizing r r' with
  | @intro i gs hgs hsound ih =>
    cases hd : t.find? i with
    | some d =>
      obtain ⟨q, hq, hqd⟩ := hcurrent i (.kept hd) d hd
      rw [hr.unique (.known hd), hr'.unique hq, hqd]
      exact ⟨rfl, fun s hs => by cases hs⟩
    | none =>
      obtain ⟨gs₁, rs, hgs₁, hrs, rfl⟩ := (recalls_unknown hd).1 hr
      obtain rfl := Except.ok.inj (hgs.symm.trans hgs₁)
      obtain ⟨gs', rs', hgs', hrs', rfl⟩ := recalls_fresh.1 hr'
      obtain rfl := Except.ok.inj (hgs.symm.trans hgs')
      obtain ⟨hds, hhs⟩ := Forall₂.digests hrs hrs' fun g hg r r' hr hr' =>
        ih g hg (fun j hj => hcurrent j (.through hd ((follows_iff hgs _).2 ⟨g, hg, rfl⟩) hj)) hr hr'
      simp only [recompute, hds, forall_mem_append, true_and]
      exact ⟨fun s hs => mem_append_left _ hs, fun s hs => mem_append_right _ (hhs s hs)⟩

theorem current_of_digest_eq (hsound : Sound t.program i) {r' : Recall} (hr : Recalls t i r)
    (hr' : Recalls (fresh t.program) i r') {S : Set String} (hS : S.InjOn sha1) (hsub : ∀ s ∈ r.hashed, s ∈ S)
    (hsub' : ∀ s ∈ r'.hashed, s ∈ S) (heq : r.digest = r'.digest) (hj : Consults t i j) : Current t j := by
  induction hj generalizing r r' with
  | kept hd =>
    intro d' hd'
    rw [hd, Option.some.injEq] at hd'
    subst hd'
    rw [hr.unique (.known hd)] at heq
    exact ⟨r', hr', heq.symm⟩
  | @through i j k hd hij _ ih =>
    cases hsound with
    | @intro _ gs hgs hsound =>
      obtain ⟨gs₁, rs, hgs₁, hrs, rfl⟩ := (recalls_unknown hd).1 hr
      obtain rfl := Except.ok.inj (hgs.symm.trans hgs₁)
      obtain ⟨gs', rs', hgs', hrs', rfl⟩ := recalls_fresh.1 hr'
      obtain rfl := Except.ok.inj (hgs.symm.trans hgs')
      simp only [recompute, cons_append, forall_mem_cons, forall_mem_append] at hsub hsub' heq
      have hzip := entries_of_absorb hS (fun _ => rfl) (length_sha1 _)
        ((map_fst_zip_digests hrs).trans (map_fst_zip_digests hrs').symm) hsub.2.1 hsub'.2.1 heq
      obtain ⟨g, hg, rfl⟩ := (follows_iff hgs _).1 hij
      obtain ⟨s, hs, s', hs', hgs, hgs', hds⟩ := exists_of_zip_eq hrs hrs' hzip hg
      exact ih (hsound g hg) hgs hgs' (fun x hx => hsub.2.2 x (mem_flatMap.2 ⟨s, hs, hx⟩))
        (fun x hx => hsub'.2.2 x (mem_flatMap.2 ⟨s', hs', hx⟩)) hds

theorem Sound.recalls (h : Sound p i) : ∃ r, Recalls (fresh p) i r := by
  induction h with
  | @intro i gs hgs _ ih =>
    obtain ⟨rs, hrs⟩ := exists_forall₂ ih
    exact ⟨_, recalls_fresh.2 ⟨gs, rs, hgs, hrs, rfl⟩⟩

theorem hashedFor_subset_of_upToDate (hsound : Sound t.program i) (h : UpToDate t i) :
    hashedFor t i ⊆ hashedFor (fresh t.program) i := by
  rintro s ⟨r, hr, hs⟩
  unfold UpToDate at h
  split at h
  · next d hd =>
    rw [hr.unique (.known hd)] at hs
    cases hs
  · obtain ⟨r', hr'⟩ := hsound.recalls
    exact ⟨r', hr', (digest_eq_of_current hsound h hr hr').2 s hs⟩

theorem key_known (h : t.find? f.index = some d) : key t f = (.ok d, t) := by rw [key, h]

theorem key_eq_iff_upToDate (hkernel : IsKernel t.program f) (hsound : Sound t.program f.index)
    (hinj : (hashedFor t f.index ∪ hashedFor (fresh t.program) f.index).InjOn sha1) :
    ∃ k k', (key t f).1 = .ok k ∧ (key (fresh t.program) f).1 = .ok k' ∧ (k = k' ↔ UpToDate t f.index) := by
  obtain ⟨r', hr', hkey'⟩ := key_fresh hkernel hsound
  cases hd : t.find? f.index with
  | some d =>
    refine ⟨d, _, by rw [key_known hd], hkey', ?_⟩
    simp only [UpToDate, hd]
    constructor
    · rintro rfl
      exact ⟨r', hr', rfl⟩
    · rintro ⟨r, hr, rfl⟩
      rw [hr.unique hr']
  | none =>
    obtain ⟨r, _, hr, -, hkey⟩ := key_spec hkernel hsound hd
    refine ⟨_, _, by rw [hkey], hkey', ?_⟩
    simp only [UpToDate, hd, String.append_left_inj]
    constructor
    · intro heq j hj
      exact current_of_digest_eq hsound hr hr' hinj (fun s hs => .inl ⟨r, hr, hs⟩) (fun s hs => .inr ⟨r', hr', hs⟩) heq hj
    · intro hcurrent
      exact (digest_eq_of_current hsound hcurrent hr hr').1

/-! ## Orders of operations -/

theorem find?_setText (t : Table) (i j : Nat) (text : String) : (t.setText i text).find? j = if j = i then none else t.find? j :=
  Table.lookup_without t.known i j

/-- What a table keeps after orderly operations: keys of the functions that were asked for, and digests of others, as the
texts have them now. -/
def Keeps (t : Table) (asked : List Nat) : Prop :=
  ∀ j d, t.find? j = some d → ∃ r, Recalls (fresh t.program) j r ∧ d = if j ∈ asked then r.digest ++ version else r.digest

/-- Operations in an order that keeps a table up to date. A text is replaced only if no digest is kept of a function that
reaches it. A key is asked for only if the function was not walked before as one that is called, and if none of the functions
that it reaches was asked for. -/
def Orderly : Table → List Nat → List Operation → Prop
  | _, _, [] => True
  | t, asked, .assign i text :: ops =>
    (∀ j, t.find? j ≠ none → Reaches t.program j i → j = i) ∧ Orderly (t.setText i text) (asked.filter (· ≠ i)) ops
  | t, asked, .query f :: ops =>
    IsKernel t.program f ∧ Sound t.program f.index ∧ (t.find? f.index ≠ none → f.index ∈ asked) ∧
      (∀ j ∈ asked, Reaches t.program f.index j → j = f.index) ∧ Orderly (key t f).2 (f.index :: asked) ops

theorem keeps_fresh (p : Program) : Keeps (fresh p) [] := by
  intro j d hd
  rw [find?_fresh] at hd
  cases hd

theorem Keeps.assign (h : Keeps t asked)
    (hi : ∀ j, t.find? j ≠ none → Reaches t.program j i → j = i) : Keeps (t.setText i text) (asked.filter (· ≠ i)) := by
  intro j d hd
  rw [find?_setText] at hd
  split at hd
  · cases hd
  · next hji =>
    obtain ⟨r, hr, hrd⟩ := h j d hd
    have hsources : ∀ k, Reaches t.program j k → sourceOf (t.setText i text).program k = sourceOf t.program k := by
      intro k hk
      refine sourceOf_setText t text ?_
      rintro rfl
      exact hji (hi j (by simp [hd]) hk)
    refine ⟨r, recalls_of_sources (sameButTexts_setText t i text) hsources hr, ?_⟩
    simpa [hji] using hrd

theorem Keeps.current (h : Keeps t asked) (hi : t.find? i = none)
    (hasked : ∀ j ∈ asked, Reaches t.program i j → j = i) {k : Nat} (hij : Reaches t.program i j) (hjk : Consults t j k) :
    Current t k := by
  intro d hd
  obtain ⟨r, hr, hrd⟩ := h k d hd
  have hk : k ∉ asked := by
    intro hk
    obtain rfl := hasked k hk (hij.trans hjk.reaches)
    rw [hi] at hd
    cases hd
  rw [if_neg hk] at hrd
  exact ⟨r, hr, hrd.symm⟩

theorem Keeps.upToDate (h : Keeps t asked) (hknown : t.find? i ≠ none → i ∈ asked)
    (hasked : ∀ j ∈ asked, Reaches t.program i j → j = i) : UpToDate t i := by
  unfold UpToDate
  split
  · next d hd =>
    obtain ⟨r, hr, hrd⟩ := h i d hd
    rw [if_pos (hknown (by simp [hd]))] at hrd
    exact ⟨r, hr, hrd.symm⟩
  · next hd => exact fun j hj => h.current hd hasked .refl hj

theorem Keeps.query (h : Keeps t asked) (hkernel : IsKernel t.program f)
    (hsound : Sound t.program f.index) (hknown : t.find? f.index ≠ none → f.index ∈ asked)
    (hasked : ∀ j ∈ asked, Reaches t.program f.index j → j = f.index) : Keeps (key t f).2 (f.index :: asked) := by
  cases hf : t.find? f.index with
  | some d =>
    have hmem := hknown (by simp [hf])
    rw [key_known hf]
    intro j e hj
    obtain ⟨r, hr, hrd⟩ := h j e hj
    refine ⟨r, hr, hrd.trans ?_⟩
    by_cases hjf : j = f.index
    · simp [hjf, hmem]
    · simp [hjf]
  | none =>
    obtain ⟨r, t', hr, htable, hkey⟩ := key_spec hkernel hsound hf
    have hdigest : ∀ j r, Reaches t.program f.index j → Recalls t j r →
        ∃ r', Recalls (fresh t.program) j r' ∧ r.digest = r'.digest := by
      intro j r hj hr
      obtain ⟨r', hr'⟩ := (hsound.reaches hj).recalls
      exact ⟨r', hr', (digest_eq_of_current (hsound.reaches hj) (fun k hk => h.current hf hasked hj hk) hr hr').1⟩
    rw [hkey]
    intro j e hj
    rw [find?_remember] at hj
    rw [show (t'.remember f.index (r.digest ++ version)).program = t.program from htable.program]
    split at hj
    · next hjf =>
      subst hjf
      obtain ⟨r', hr', hrr'⟩ := hdigest f.index r .refl hr
      exact ⟨r', hr', by simp [← Option.some.inj hj, hrr']⟩
    · next hjf =>
      cases hold : t.find? j with
      | some e' =>
        rw [htable.keeps j e' hold, Option.some.injEq] at hj
        subst hj
        obtain ⟨r', hr', hrd⟩ := h j e' hold
        exact ⟨r', hr', by simpa [hjf] using hrd⟩
      | none =>
        have hreached := htable.reaches j e hold hj
        obtain ⟨q, hq, rfl⟩ := htable.recalls j e hj
        obtain ⟨r', hr', hrr'⟩ := hdigest j q hreached hq
        have hnot : j ∉ asked := fun hmem => hjf (hasked j hmem hreached)
        exact ⟨r', hr', by simp [hjf, hnot, hrr']⟩

theorem Orderly.upToDate (hkeeps : Keeps t asked) (h : Orderly t asked (ops ++ [.query f])) : UpToDate (after t ops) f.index := by
  induction ops generalizing t asked with
  | nil =>
    obtain ⟨-, -, hknown, hasked, -⟩ := h
    exact hkeeps.upToDate hknown hasked
  | cons op ops ih =>
    cases op with
    | assign i text =>
      obtain ⟨hi, h⟩ := h
      exact ih (hkeeps.assign hi) h
    | query g =>
      obtain ⟨hkernel, hsound, hknown, hasked, h⟩ := h
      exact ih (hkeeps.query hkernel hsound hknown hasked) h

/-- After any operations, the key that is asked for is the one of fresh functions with the texts that there are now exactly if
the table is up to date, as it is if all operations were made in order. -/
theorem key_eq_fresh_iff_upToDate {p : Program} {ops : List Operation} {f : FuncRef}
    (hkernel : IsKernel (after (fresh p) ops).program f) (hsound : Sound (after (fresh p) ops).program f.index)
    (hinj : (hashedFor (after (fresh p) ops) f.index ∪
      hashedFor (fresh (after (fresh p) ops).program) f.index).InjOn sha1) :
    ∃ k k', (key (after (fresh p) ops) f).1 = .ok k ∧ (key (fresh (after (fresh p) ops).program) f).1 = .ok k' ∧
      (k = k' ↔ UpToDate (after (fresh p) ops) f.index) ∧ (Orderly (fresh p) [] (ops ++ [.query f]) → k = k') := by
  obtain ⟨k, k', hk, hk', hiff⟩ := key_eq_iff_upToDate hkernel hsound hinj
  exact ⟨k, k', hk, hk', hiff, fun horderly => hiff.2 (horderly.upToDate (keeps_fresh p))⟩

theorem program_setText (t : Table) (i : Nat) (text : String) : (t.setText i text).program =
    { t.program with funcs := t.program.funcs.modify i fun f => { f with text, tree := Module.treeOf text } } := rfl

theorem program_key (hkernel : IsKernel t.program f) (hsound : Sound t.program f.index) : (key t f).2.program = t.program := by
  cases hd : t.find? f.index with
  | some d => rw [key, hd]
  | none =>
    obtain ⟨r, t', -, htable, hkey⟩ := key_spec hkernel hsound hd
    rw [hkey]
    exact htable.program

theorem eq_of_reaches_caller (h : Reaches (callerFamily caller false) j 1) : j = 1 := by
  obtain _ | _ | j := j
  · rw [reaches_iff (callees_caller false).1] at h
    simp at h
  · rfl
  · rw [reaches_iff (callees_outside (Nat.le_add_left 2 j))] at h
    simp at h

theorem orderly_own_text (text : String) (hkernel : IsKernel p f) (hsound : Sound p f.index)
    (hcallers : ∀ j, Reaches p j f.index → j = f.index) (hkernel' : IsKernel ((fresh p).setText f.index text).program f)
    (hsound' : Sound ((fresh p).setText f.index text).program f.index) :
    (after (fresh p) [.query f, .assign f.index text]).program = ((fresh p).setText f.index text).program ∧
      Orderly (fresh p) [] ([.query f, .assign f.index text] ++ [.query f]) := by
  have hprogram : (key (fresh p) f).2.program = p := program_key hkernel hsound
  have hset : ((key (fresh p) f).2.setText f.index text).program = ((fresh p).setText f.index text).program := by
    rw [program_setText, program_setText, hprogram, program_fresh]
  refine ⟨hset, hkernel, hsound, fun h => absurd (find?_fresh p _) h, by simp, ?_, hset ▸ hkernel', hset ▸ hsound', ?_, by simp,
    trivial⟩
  · intro j _ hj
    exact hcallers j (hprogram ▸ hj)
  · rw [find?_setText, if_pos rfl]
    exact fun h => absurd rfl h

theorem Orderly.injOn (h : Orderly (fresh p) [] (ops ++ [.query f])) (hsound : Sound (after (fresh p) ops).program f.index)
    (hinj : (hashedFor (fresh (after (fresh p) ops).program) f.index).InjOn sha1) :
    (hashedFor (after (fresh p) ops) f.index ∪ hashedFor (fresh (after (fresh p) ops).program) f.index).InjOn sha1 := by
  rwa [Set.union_eq_self_of_subset_left (hashedFor_subset_of_upToDate hsound (h.upToDate (keeps_fresh p)))]

/-- A key that is asked for again after the text of the kernel was set takes the digest of the function that it calls from the
table, and is the key of fresh functions. -/
theorem key_eq_fresh_after_own_text_is_set :
    ∃ k, (key (after (fresh (callerFamily caller false)) [.query (member 1 "f"), .assign 1 caller]) (member 1 "f")).1 = .ok k ∧
      (key (fresh (callerFamily caller false)) (member 1 "f")).1 = .ok k := by
  have hkernel := isKernel_caller false
  have hsound : Sound (callerFamily caller false) (member 1 "f").index := .of_recalls (recalls_caller false)
  have hset : ((fresh (callerFamily caller false)).setText (member 1 "f").index caller).program = callerFamily caller false :=
    rfl
  obtain ⟨hprogram, horderly⟩ := orderly_own_text caller hkernel hsound (fun j => eq_of_reaches_caller)
    (by rwa [hset]) (by rwa [hset])
  rw [hset] at hprogram
  have hinj : (hashedFor (fresh (callerFamily caller false)) (member 1 "f").index).InjOn sha1 :=
    sha1_injOn_caller.mono ((hashedFor_subset (recalls_caller false)).trans (by simp))
  obtain ⟨k, k', hk, hk', -, heq⟩ := key_eq_fresh_iff_upToDate (f := member 1 "f") (by rwa [hprogram]) (by rwa [hprogram])
    (horderly.injOn (by rwa [hprogram]) (by rwa [hprogram]))
  rw [hprogram] at hk'
  exact ⟨k, hk, heq horderly ▸ hk'⟩

theorem key_after_assign {t : Table} (hkernel : IsKernel t.program f) (hsound : Sound t.program f.index)
    (hi : i ≠ f.index) (text : String) : (key ((key t f).2.setText i text) f).1 = (key t f).1 := by
  have hkept : ∃ k, (key t f).1 = .ok k ∧ (key t f).2.find? f.index = some k := by
    cases hd : t.find? f.index with
    | some d =>
      rw [key_known hd]
      exact ⟨d, rfl, hd⟩
    | none =>
      obtain ⟨r, t', -, -, hkey⟩ := key_spec hkernel hsound hd
      rw [hkey]
      exact ⟨_, rfl, by rw [find?_remember, if_pos rfl]⟩
  obtain ⟨k, hk, hfind⟩ := hkept
  rw [hk, key, find?_setText, if_neg hi.symm, hfind]

theorem sha1_callerText_ne : sha1 (callerText false) ≠ sha1 (callerText true) := by
  intro heq
  have htexts : callerText false = callerText true := sha1_injOn_caller (by simp) (by simp) heq
  rw [callerText, callerText, String.append_left_inj, String.append_right_inj] at htexts
  exact absurd (sha1_injOn_caller (by simp) (by simp) htexts) (by decide)

theorem isKernel_callee : IsKernel (callerFamily caller false) (member 0 "g") := by
  obtain ⟨d, hd⟩ : ∃ d, Module.treeOf (identity false) = .ok d := exists_tree (by decide +kernel)
  exact ⟨rfl, d, hd, hd⟩

/-- Operations out of order. A key that was asked for stays when a function that is called is edited, and a function that was
walked as one that is called has a key without the version. -/
theorem key_ne_fresh_out_of_order :
    (∃ t k k', t = after (fresh (callerFamily caller false)) [.query (member 1 "f"), .assign 0 (identity true)] ∧
      (key t (member 1 "f")).1 = .ok k ∧ (key (fresh t.program) (member 1 "f")).1 = .ok k' ∧ k ≠ k') ∧
    (∃ t k k', t = after (fresh (callerFamily caller false)) [.query (member 1 "f")] ∧
      (key t (member 0 "g")).1 = .ok k ∧ (key (fresh t.program) (member 0 "g")).1 = .ok k' ∧ k ≠ k') := by
  have hsound (negated : Bool) : Sound (callerFamily caller negated) (member 1 "f").index :=
    .of_recalls (recalls_caller negated)
  have hprogram : (key (fresh (callerFamily caller false)) (member 1 "f")).2.program = callerFamily caller false :=
    program_key (isKernel_caller false) (hsound false)
  constructor
  · refine ⟨_, sha1 (callerText false) ++ version, sha1 (callerText true) ++ version, rfl, ?_, ?_, ?_⟩
    · obtain ⟨r, hr, hk⟩ := key_fresh (isKernel_caller false) (hsound false)
      rw [after_query, after_assign, after_nil, key_after_assign (isKernel_caller false) (hsound false) (by decide), hk,
        hr.unique (recalls_caller false)]
    · obtain ⟨r, hr, hk⟩ := key_fresh (isKernel_caller true) (hsound true)
      rw [hr.unique (recalls_caller true)] at hk
      rw [after_query, after_assign, after_nil, program_setText, hprogram]
      exact hk
    · rw [ne_eq, String.append_left_inj]
      exact sha1_callerText_ne
  · have hleaf : Recalls (fresh (callerFamily caller false)) (member 0 "g").index
        ⟨sha1 (identity false), [identity false]⟩ := recalls_leaf (callees_caller false).1
    obtain ⟨r, hr, hk'⟩ := key_fresh isKernel_callee (.of_recalls hleaf)
    rw [hr.unique hleaf] at hk'
    have hlength : ((key (key (fresh (callerFamily caller false)) (member 1 "f")).2 (member 0 "g")).1.toOption.map
        fun k => k.toList.length) = some 40 := by decide +kernel
    obtain ⟨k, hk, hk40⟩ := Option.map_eq_some_iff.1 hlength
    refine ⟨_, k, sha1 (identity false) ++ version, rfl, eq_ok_of_toOption hk, ?_, ?_⟩
    · rw [after_query, after_nil, hprogram]
      exact hk'
    · rintro rfl
      rw [String.toList_append, length_append, length_sha1] at hk40
      revert hk40
      decide

end TileKernel.Launch.Identity
