import Mathlib.Data.List.Forall2

/-! # Steps that can fail

What a successful sequence of steps says about its parts, for steps that only fail or give a result, and for steps that also
change a state. A pass over a list that succeeds relates the items of the list to the results one by one. The last lemmas are
about texts that are made part by part.
-/

namespace TileKernel.Steps

open List

variable {ε α β : Type}

@[simp] theorem ok_bind (a : α) (f : α → Except ε β) : ((.ok a : Except ε α) >>= f) = f a := rfl

variable {f : α → Except ε β} {xs : List α} {ys : List β} {a : α} {g : α → Except ε β}

theorem bind_eq_ok {x : Except ε α} {b : β} : (x >>= f) = .ok b ↔ ∃ a, x = .ok a ∧ f a = .ok b := by
  cases x <;> simp [bind, Except.bind]

theorem map_eq_ok {x : Except ε α} {f : α → β} {b : β} : (x.map f) = .ok b ↔ ∃ a, x = .ok a ∧ f a = b := by
  cases x <;> simp [Except.map]

theorem pure_eq_ok {a b : α} : (pure a : Except ε α) = .ok b ↔ a = b := Except.ok.injEq a b ▸ Iff.rfl

/-- A pass over a list succeeds when every item does, and gives the results in order. -/
theorem mapM_eq_ok : xs.mapM f = .ok ys ↔ List.Forall₂ (fun x y => f x = .ok y) xs ys := by
  induction xs generalizing ys with
  | nil =>
    rw [mapM_nil, pure_eq_ok, forall₂_nil_left_iff]
    exact eq_comm
  | cons x xs ih =>
    rw [mapM_cons, bind_eq_ok, forall₂_cons_left_iff]
    simp only [bind_eq_ok, pure_eq_ok, ih]
    constructor
    · rintro ⟨y, hy, zs, hzs, rfl⟩
      exact ⟨y, zs, hy, hzs, rfl⟩
    · rintro ⟨y, zs, hy, hzs, rfl⟩
      exact ⟨y, hy, zs, hzs, rfl⟩

theorem filterMapM_eq_mapM (p : α → Bool) (f : α → Except ε β) (xs : List α) :
    (xs.filterMapM fun x => if p x = true then .ok none else (f x).map some) = (xs.filter fun x => !p x).mapM f := by
  induction xs with
  | nil => rfl
  | cons x xs ih =>
    rw [filterMapM_cons, ih]
    by_cases hp : p x
    · simp only [hp, if_true, Bool.not_true, Bool.false_eq_true, not_false_eq_true, filter_cons_of_neg]
      rfl
    · rw [if_neg hp, filter_cons_of_pos (by simp [hp]), mapM_cons]
      cases f x <;> rfl

theorem exists_mem_of_forall₂ {R : α → β → Prop} (h : List.Forall₂ R xs ys) {x : α} (hx : x ∈ xs) : ∃ y ∈ ys, R x y := by
  induction h with
  | nil => cases hx
  | cons hxy _ ih =>
    rcases mem_cons.1 hx with rfl | hx
    · exact ⟨_, mem_cons_self, hxy⟩
    · obtain ⟨y, hy, hR⟩ := ih hx
      exact ⟨y, mem_cons_of_mem _ hy, hR⟩

theorem exists_of_mem_mapM (h : xs.mapM f = .ok ys) {y : β} (hy : y ∈ ys) : ∃ x ∈ xs, f x = .ok y :=
  exists_mem_of_forall₂ (mapM_eq_ok.1 h).flip hy

theorem mapM_agree (hf : xs.mapM f = .ok ys) (hg : xs.mapM g = .ok ys) : ∀ x ∈ xs, ∃ y, f x = .ok y ∧ g x = .ok y := by
  rw [mapM_eq_ok] at hf hg
  intro x hx
  induction hf with
  | nil => cases hx
  | cons hxy _ ih =>
    cases hg with
    | cons hgy hg =>
      rcases mem_cons.1 hx with rfl | hx
      · exact ⟨_, hxy, hgy⟩
      · exact ih hg hx

theorem mapM_congr (h : ∀ x ∈ xs, f x = g x) : xs.mapM f = xs.mapM g := by
  induction xs with
  | nil => rfl
  | cons x xs ih =>
    rw [mapM_cons, mapM_cons, h x mem_cons_self, ih fun y hy => h y (mem_cons_of_mem _ hy)]

/-! ## Steps with a state -/

section

variable {σ : Type} {s : σ} {x : EStateM ε σ α} {f : α → EStateM ε σ β}

theorem bind_of_ok {t : σ} (h : x s = .ok a t) : (x >>= f) s = f a t := by
  simp [Bind.bind, EStateM.bind, h]

/-- Whatever a step gives from a state satisfies `Q`; a step that fails gives nothing. -/
def Ensures (x : EStateM ε σ α) (s : σ) (Q : α → σ → Prop) : Prop := ∀ a s', x s = .ok a s' → Q a s'

namespace Ensures

variable {Q R : α → σ → Prop}

theorem mono (h : Ensures x s Q) (hQ : ∀ a s', Q a s' → R a s') : Ensures x s R :=
  fun a s' hx => hQ a s' (h a s' hx)

theorem of_bind {Q : β → σ → Prop} : Ensures (x >>= f) s Q ↔ Ensures x s fun a s' => Ensures (f a) s' Q := by
  simp only [Ensures, bind, EStateM.bind]
  cases x s with
  | ok a s' =>
    constructor
    · rintro h _ _ ⟨⟩
      exact h
    · intro h
      exact h a s' rfl
  | error e s' =>
    constructor
    · rintro _ _ _ ⟨⟩
    · rintro _ _ _ ⟨⟩

theorem of_pure : Ensures (pure a : EStateM ε σ α) s Q ↔ Q a s := by
  constructor
  · intro h
    exact h a s rfl
  · rintro h _ _ ⟨⟩
    exact h

theorem of_throw {e : ε} : Ensures (throw e : EStateM ε σ α) s Q := by
  rintro _ _ ⟨⟩

theorem of_get {Q : σ → σ → Prop} : Ensures (get : EStateM ε σ σ) s Q ↔ Q s s := by
  constructor
  · intro h
    exact h s s rfl
  · rintro h _ _ ⟨⟩
    exact h

theorem of_modify {f : σ → σ} {Q : PUnit → σ → Prop} : Ensures (modify f : EStateM ε σ PUnit) s Q ↔ Q ⟨⟩ (f s) := by
  constructor
  · intro h
    exact h ⟨⟩ (f s) rfl
  · rintro h _ _ ⟨⟩
    exact h

end Ensures

end

/-! ## Tests on the items of a list -/

/-- The items that pass a test are found by the number of those before. -/
theorem getElem?_filter {xs : List α} (q : α → Bool) {i : Nat} (hi : xs[i]? = some a) (ha : q a) :
    (xs.filter q)[(xs.take i).countP q]? = some a := by
  induction xs generalizing i with
  | nil => simp at hi
  | cons x xs ih =>
    cases i with
    | zero =>
      obtain rfl : x = a := by simpa using hi
      simp [ha]
    | succ i =>
      have hnext := ih (by simpa using hi)
      by_cases hx : q x <;> simpa [hx] using hnext

/-- An item keeps its place among those that pass a test exactly if it passes and all before it do. -/
theorem getElem?_filter_eq_iff {xs : List α} (hxs : xs.Nodup) (q : α → Bool) {i : Nat} (hi : xs[i]? = some a) :
    (xs.filter q)[i]? = some a ↔ ∀ b ∈ xs.take (i + 1), q b := by
  have hlength : (xs.take i).length = i := length_take_of_le (Nat.le_of_lt (List.getElem?_eq_some_iff.1 hi).1)
  rw [take_add_one, hi, Option.toList_some, forall_mem_append, forall_mem_singleton]
  constructor
  · intro h
    have ha : q a := (mem_filter.1 (mem_of_getElem? h)).2
    have hcount : i = (xs.take i).countP q :=
      (getElem?_inj (List.getElem?_eq_some_iff.1 h).1 (hxs.filter q)).1 (h.trans (getElem?_filter q hi ha).symm)
    exact ⟨countP_eq_length.1 (hcount.symm.trans hlength.symm), ha⟩
  · rintro ⟨hbefore, ha⟩
    rw [← getElem?_filter q hi ha, countP_eq_length.2 hbefore, hlength]

/-! ## Texts -/

theorem toList_foldl {f : String → α → String} {g : α → List Char} (h : ∀ acc a, (f acc a).toList = acc.toList ++ g a)
    (as : List α) (acc : String) : (as.foldl f acc).toList = acc.toList ++ as.flatMap g := by
  induction as generalizing acc with
  | nil => simp
  | cons a as ih => rw [foldl_cons, ih, h, flatMap_cons, append_assoc]

theorem cancel_word {c : α} {a b x y : List α} (ha : c ∉ a) (hb : c ∉ b) (h : a ++ c :: x = b ++ c :: y) : a = b ∧ x = y := by
  induction a generalizing b with
  | nil =>
    cases b with
    | nil => exact ⟨rfl, (cons.inj h).2⟩
    | cons d b => exact absurd (cons.inj h).1 fun hd => hb (hd ▸ mem_cons_self)
  | cons d a ih =>
    cases b with
    | nil => exact absurd (cons.inj h).1 fun hd => ha (hd ▸ mem_cons_self)
    | cons e b =>
      obtain ⟨rfl, htail⟩ := cons.inj h
      obtain ⟨rfl, hxy⟩ := ih (fun hc => ha (mem_cons_of_mem _ hc)) (fun hc => hb (mem_cons_of_mem _ hc)) htail
      exact ⟨rfl, hxy⟩

end TileKernel.Steps
