import TileKernel.Proofs.Steps
import TileKernel.Proofs.Tuning.Timings

/-! # Pruning by estimates

A pruner with a model of the running time keeps the configurations with the smallest estimates, as many as the model leaves. A
fraction of all configurations is rounded down, also to none.
-/

namespace TileKernel.Tuning.Tuner

open Lowering Launch Steps Constant List

variable {t : Tuner} {args : List Argument} {named : Bindings} {model : Model} {est : Nat → Number} {ks : List Nat}

/-! ## Ranking -/

/-- Configurations with their estimates, smaller ones first. -/
def ranked (est : Nat → Number) (ks : List Nat) : List (Nat × Number) :=
  (ks.foldl (fun es i => Table.put es i (est i)) []).mergeSort fun a b => compareNumbers b.2 a.2 != some .lt

theorem mem_ranked {e : Nat × Number} : e ∈ ranked est ks ↔ e.1 ∈ ks ∧ e.2 = est e.1 := by
  rw [ranked, mem_mergeSort]
  induction ks using reverseRecOn with
  | nil => simp
  | append_singleton ks k ih =>
    rw [foldl_append, foldl_cons, foldl_nil, Table.mem_put, ih, Prod.ext_iff, mem_append, mem_singleton]
    grind

theorem pairwise_ranked (h : ∀ i ∈ ks, (est i).place?.isSome) :
    (ranked est ks).Pairwise fun a b => compareNumbers b.2 a.2 ≠ some .lt := by
  -- the order is only transitive on comparable numbers, so the places are sorted in place of the numbers
  let place (e : Nat × Number) : Int × Int := e.2.place?.getD (0, 0)
  let le (p q : Int × Int) : Bool := p.1 < q.1 || p.1 = q.1 && p.2 ≤ q.2
  have hplace {e} (he : e ∈ ranked est ks) : e.2.place? = some (place e) := by
    obtain ⟨hi, heq⟩ := mem_ranked.1 he
    obtain ⟨p, hp⟩ := Option.isSome_iff_exists.1 (heq ▸ h e.1 hi)
    simp [place, hp]
  have hle {a b} (ha : a ∈ ranked est ks) (hb : b ∈ ranked est ks) :
      (compareNumbers b.2 a.2 != some .lt) = le (place a) (place b) := by
    rw [Bool.eq_iff_iff, bne_iff_ne, Ne, compareNumbers_eq_lt, hplace ha, hplace hb]
    simp only [Option.some.injEq, exists_and_left, exists_eq_left', le, Bool.or_eq_true, decide_eq_true_eq, Bool.and_eq_true]
    omega
  have hsorted (ps : List (Int × Int)) : (ps.mergeSort le).Pairwise fun p q => le p q := by
    refine pairwise_mergeSort (fun p q r => ?_) (fun p q => ?_) ps <;>
      simp only [le, Bool.or_eq_true, decide_eq_true_eq, Bool.and_eq_true] <;> omega
  have hplaces := hsorted ((ks.foldl (fun es i => Table.put es i (est i)) []).map place)
  rw [← map_mergeSort (f := place) fun a ha b hb => hle (mem_mergeSort.2 ha) (mem_mergeSort.2 hb),
    pairwise_map] at hplaces
  exact hplaces.imp_of_mem fun ha hb hab => bne_iff_ne.1 ((hle ha hb).trans hab)

theorem firstItems_eq_take {α : Type} (k : Int) (xs : List α) :
    firstItems k xs = xs.take (if 0 ≤ k then k.toNat else xs.length - k.natAbs) := by
  unfold firstItems
  split <;> rfl

theorem firstItems_ranked (h : ∀ i ∈ ks, (est i).place?.isSome) (k : Int) {i j : Nat}
    (hi : i ∈ (firstItems k (ranked est ks)).map (·.1)) (hj : j ∈ ks) (hnot : j ∉ (firstItems k (ranked est ks)).map (·.1)) :
    compareNumbers (est j) (est i) ≠ some .lt := by
  rw [firstItems_eq_take] at hi hnot
  generalize (if 0 ≤ k then k.toNat else (ranked est ks).length - k.natAbs) = n at hi hnot
  have hsplit := (ranked est ks).take_append_drop n
  obtain ⟨e, he, rfl⟩ := mem_map.1 hi
  have hmem : (j, est j) ∈ (ranked est ks).drop n := by
    have hall : (j, est j) ∈ ranked est ks := mem_ranked.2 ⟨hj, rfl⟩
    rw [← hsplit, mem_append] at hall
    exact hall.resolve_left fun hk => hnot (mem_map_of_mem hk)
  have hpairs := pairwise_ranked h
  rw [← hsplit, pairwise_append] at hpairs
  have hest := (mem_ranked.1 (mem_of_mem_take he)).2
  exact hest ▸ hpairs.2.2 e he _ hmem

/-! ## Pruning -/

theorem estimates_run {config : Nat → Config} (hasked : ∀ i ∈ ks, ∃ b, asked t args named (config i) = .ok b)
    (hest : ∀ i ∈ ks, model (config i) = .ok (est i)) (es : List (Nat × Number)) (s : Scratch) :
    ∃ s', (ks.foldlM (fun es i => do
      note (.model (← check (asked t args named (config i))))
      return Table.put es i (← check (model (config i)))) es : Trial (List (Nat × Number))) s =
        .ok (ks.foldl (fun es i => Table.put es i (est i)) es) s' := by
  induction ks generalizing es s with
  | nil => exact ⟨s, rfl⟩
  | cons i ks ih =>
    obtain ⟨b, hb⟩ := hasked i mem_cons_self
    rw [foldlM_cons, hb, hest i mem_cons_self]
    exact ih (fun j hj => hasked j (mem_cons_of_mem i hj)) (fun j hj => hest j (mem_cons_of_mem i hj)) _ _

theorem compareValues_gt (a b : Int) : compareValues .gt (.int a) (.int b) = .ok (decide (b < a)) := by
  have heval : compareValues .gt (.int a) (.int b) = .ok (holds .gt (compare a b)) := rfl
  rw [heval]
  rcases lt_trichotomy a b with h | h | h
  · simp [compare_lt_iff_lt.2 h, holds, h.le]
  · simp [h, holds]
  · simp [compare_gt_iff_gt.2 h, holds, h]

theorem pruneByModel_run {s : Scratch} {k : Int} (hk : allowed t s.configs.length = .ok (.int k))
    (hasked : ∀ i ∈ ks, ∃ b, asked t args named (s.config i) = .ok b) (hest : ∀ i ∈ ks, model (s.config i) = .ok (est i)) :
    ∃ s', pruneByModel t args named model ks s =
      .ok (if k < ks.length then (firstItems k (ranked est ks)).map (·.1) else ks) s' := by
  obtain ⟨s', hestimates⟩ := estimates_run hasked hest [] s
  unfold pruneByModel
  rw [bind_of_ok (show (get : Trial Scratch) s = .ok s s from rfl), hk, check_ok, pure_bind, compareValues_gt, check_ok, pure_bind]
  by_cases h : k < ks.length
  · rw [if_pos (decide_eq_true h), if_pos h, bind_of_ok hestimates]
    exact ⟨s', rfl⟩
  · rw [if_neg (by simpa using h), if_neg h]
    exact ⟨s, rfl⟩

/-- Entries make a pruner if there is one for the early check. Of the candidates that the early check leaves, it keeps at most
as many as the model leaves, and none at all only where there are none or the model leaves none. No candidate that it discards has
a smaller estimate than one that it keeps. -/
theorem model_keeps_best (model : Model) (topK : Value) (early : Option (Option EarlyCheck)) :
    ((Pruner.ofEntries (some (some model)) (some topK) early).isOk ↔ early.isSome) ∧
    ∀ (t : Tuner) (args : List Argument) (named : Bindings) (s s₁ : Scratch) (candidates : List Nat) (k : Int)
      (est : Nat → Number), Pruner.ofEntries (some (some model)) (some topK) early = .ok t.pruner →
      pruneEarly t args s = .ok candidates s₁ → allowed t s₁.configs.length = .ok (.int k) →
      (∀ i ∈ candidates, ∃ b, asked t args named (s₁.config i) = .ok b) →
      (∀ i ∈ candidates, model (s₁.config i) = .ok (est i) ∧ (est i).place?.isSome) →
      ∃ kept s₂, prune t args named s = .ok kept s₂ ∧ kept ⊆ candidates ∧
        (0 ≤ k → kept.length ≤ k ∧ (kept = [] ↔ candidates = [] ∨ k = 0)) ∧
        ∀ i ∈ kept, ∀ j ∈ candidates, j ∉ kept → compareNumbers (est j) (est i) ≠ some .lt := by
  refine ⟨by cases early <;> simp [Pruner.ofEntries, refused, Except.isOk, Except.toBool], ?_⟩
  intro t args named s s₁ candidates k est hpruner hearly hk hasked hest
  have hmodel : t.pruner.model = some model := by
    cases early with
    | none => cases hpruner
    | some early => rw [← Except.ok.inj hpruner]
  obtain ⟨s₂, hprune⟩ := pruneByModel_run hk hasked fun i hi => (hest i hi).1
  have hrun : prune t args named s = pruneByModel t args named model candidates s₁ := by
    unfold prune
    rw [bind_of_ok hearly, hmodel]
  refine ⟨_, s₂, hrun.trans hprune, ?_⟩
  split
  · refine ⟨fun i hi => ?_, fun hk0 => ?_, fun i hi j hj hnot => firstItems_ranked (fun i hi => (hest i hi).2) k hi hj hnot⟩
    · rw [firstItems_eq_take] at hi
      obtain ⟨e, he, rfl⟩ := mem_map.1 hi
      exact (mem_ranked.1 (mem_of_mem_take he)).1
    · have hcandidates : candidates ≠ [] := ne_nil_of_length_pos (by omega)
      obtain ⟨i, hi⟩ := exists_mem_of_ne_nil candidates hcandidates
      have hne : ranked est candidates ≠ [] := ne_nil_of_mem (mem_ranked.2 (show (i, est i).1 ∈ _ ∧ _ from ⟨hi, rfl⟩))
      rw [firstItems_eq_take, if_pos hk0]
      simp [hne, hcandidates]
      omega
  · refine ⟨List.Subset.refl _, fun hk0 => ⟨by omega, ?_⟩, fun i _ j hj hnot => absurd hj hnot⟩
    rw [← length_eq_zero_iff]
    omega

/-- A kernel with three configurations, whose estimates are 3, 2 and 1. -/
def estimated (topK : Value) : Tuner where
  params := []
  keyPositions := []
  pruner := { model := some fun c => .ok (.int c.numWarps), topK }
  measure := fun _ _ => .ok []

def threeConfigs : Scratch := { configs := [{ numWarps := 3 }, { numWarps := 2 }, { numWarps := 1 }] }

theorem two_of_three_kept : ∃ kept s, prune (estimated (.int 2)) [] [] threeConfigs = .ok kept s ∧ kept ⊆ [0, 1, 2] ∧
    (kept.length : Int) ≤ 2 ∧ kept ≠ [] := by
  have hthree {p : Nat → Prop} (h₀ : p 0) (h₁ : p 1) (h₂ : p 2) : ∀ i ∈ [0, 1, 2], p i := by simp [h₀, h₁, h₂]
  obtain ⟨kept, s, hprune, hsubset, hlength, -⟩ :=
    (model_keeps_best (fun c => .ok (.int c.numWarps)) (.int 2) (some none)).2 (estimated (.int 2)) [] [] threeConfigs
      threeConfigs [0, 1, 2] 2 (fun i => .int (3 - i)) rfl rfl rfl (hthree ⟨_, rfl⟩ ⟨_, rfl⟩ ⟨_, rfl⟩)
      (hthree ⟨rfl, rfl⟩ ⟨rfl, rfl⟩ ⟨rfl, rfl⟩)
  obtain ⟨hlength, hempty⟩ := hlength (by decide)
  exact ⟨kept, s, hprune, hsubset, hlength, fun h => by simpa using hempty.1 h⟩

/-- Without an entry for the early check there is no pruner, and a fifth of three configurations is none. -/
theorem none_of_three_kept :
    Pruner.ofEntries (some (estimated (.int 2)).pruner.model) (some (.int 2)) none = refused .unboundLocal ∧
      (prune (estimated (.float (Binary64.ofDecimal 2 (-1)))) [] [] threeConfigs matches .ok [] _) = true :=
  ⟨rfl, by decide +kernel⟩

end TileKernel.Tuning.Tuner
