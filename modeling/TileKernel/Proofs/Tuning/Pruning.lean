import TileKernel.Host.Programs.SplitProducts
import TileKernel.Proofs.Steps
import Mathlib.Data.Int.Order.Basic

/-! # What pruning changes

Configurations are shared by all prunings of a kernel. On newer devices a pruning only chooses among them. On older devices it
also gives two stages to the configurations that it keeps, which are the first ones of their groups, and later prunings see
them with two stages.
-/

namespace TileKernel.Tuning.Pruning

open Lowering Launch Steps List

variable {d : Device} {e : Element} {bytes : Int} {configs : List Config} {kept us : List Candidate} {k : GroupKey}
  {keep : GroupKey → List Candidate → Result (List Candidate)}

/-- The configurations after a pruning for an element type and its size. A pruning that fails changes nothing. -/
def after (d : Device) (configs : List Config) (call : Element × Int) : List Config :=
  match prune d call.1 call.2 configs with
  | .ok kept => updated configs kept
  | .error _ => configs

def usable (d : Device) (e : Element) (bytes : Int) (c : Config) : Bool :=
  (sharedMemory bytes c).toOption.any (· ≤ d.properties.maxSharedMem) &&
    ((e == .host "float16" || e == .host "float32") || (c.size "SPLIT_K").toOption.any (· == 1))

/-- The place of a usable configuration whose group has no usable configuration before it. -/
def First (d : Device) (call : Element × Int) (configs : List Config) (i : Nat) : Prop :=
  ∃ c k, configs[i]? = some c ∧ usable d call.1 call.2 c ∧ groupKey c = .ok k ∧
    ∀ j < i, ∀ c', configs[j]? = some c' → usable d call.1 call.2 c' → groupKey c' ≠ .ok k

/-! ## Candidates -/

theorem candidates_getElem? (i : Nat) : (candidates configs)[i]? = configs[i]?.map fun c => ⟨i, c⟩ := by
  simp [candidates, Function.comp_def]

variable {c : Candidate} {α : Type} {xs : List α} {ys : List α}

theorem mem_candidates : c ∈ candidates configs ↔ configs[c.index]? = some c.config := by
  simp only [mem_iff_getElem?, candidates_getElem?, Option.map_eq_some_iff]
  constructor
  · rintro ⟨i, a, ha, rfl⟩
    exact ha
  · intro h
    exact ⟨c.index, c.config, h, rfl⟩

theorem filterM_test {β : Type} {f : α → Except Fault β} {p : β → Bool}
    (h : xs.filterM (fun x => do return p (← f x)) = .ok ys) : ys = xs.filter fun x => (f x).toOption.any p := by
  have haux {xs : List α} (acc zs : List α) (h : xs.filterAuxM (fun x => do return p (← f x)) acc = .ok zs) :
      zs = (xs.filter fun x => (f x).toOption.any p).reverse ++ acc := by
    induction xs generalizing acc with
    | nil => exact (pure_eq_ok.1 h).symm
    | cons x xs ih =>
      obtain ⟨b, hb, h⟩ := bind_eq_ok.1 h
      obtain ⟨a, ha, hb⟩ := bind_eq_ok.1 hb
      obtain rfl := pure_eq_ok.1 hb
      rw [ih _ h]
      cases hp : p a <;> simp [ha, hp, Except.toOption]
  obtain ⟨zs, hzs, h⟩ := bind_eq_ok.1 h
  rw [← pure_eq_ok.1 h, haux [] zs hzs, append_nil, reverse_reverse]

theorem pruneWith_eq_ok {cs : List Candidate} (h : pruneWith keep d e bytes cs = .ok kept) :
    keepEach keep (cs.filter fun c => usable d e bytes c.config) = .ok kept := by
  obtain ⟨vs, hvs, h⟩ := bind_eq_ok.1 h
  obtain rfl := filterM_test hvs
  cases hatomic : (e == .host "float16" || e == .host "float32") with
  | true => simpa [usable, hatomic] using h
  | false =>
    rw [hatomic, if_neg Bool.false_ne_true] at h
    obtain ⟨ws, hws, h⟩ := bind_eq_ok.1 h
    obtain rfl := filterM_test hws
    simpa only [filter_filter, usable, hatomic, Bool.false_or, Bool.and_comm] using h

/-! ## Groups -/

def keysOf (cs : List Candidate) : List GroupKey := (cs.filterMap fun c => (groupKey c.config).toOption).eraseDups

theorem keepEach_eq_ok (h : keepEach keep us = .ok kept) : ∃ ks,
    List.Forall₂ (fun k cs => keep k (us.filter (hasKey k)) = .ok cs) (keysOf us) ks ∧ kept = ks.flatten := by
  have hkeys {us keys} (h : List.Forall₂ (fun c k => groupKey (Candidate.config c) = .ok k) us keys) :
      us.filterMap (fun c => (groupKey c.config).toOption) = keys := by
    induction h with
    | nil => rfl
    | cons hk _ ih => rw [filterMap_cons, ih, hk]; rfl
  obtain ⟨keys, hmap, h⟩ := bind_eq_ok.1 h
  obtain ⟨ks, hks, h⟩ := bind_eq_ok.1 h
  rw [keysOf, hkeys (mapM_eq_ok.1 hmap)]
  exact ⟨ks, mapM_eq_ok.1 hks, (pure_eq_ok.1 h).symm⟩

theorem hasKey_iff : hasKey k c ↔ groupKey c.config = .ok k := by
  cases h : groupKey c.config <;> simp [hasKey, h, Except.toOption]

theorem mem_keysOf (hc : c ∈ us) (hk : groupKey c.config = .ok k) : k ∈ keysOf us := by
  simp only [keysOf, mem_eraseDups, mem_filterMap]
  exact ⟨c, hc, by rw [hk]; rfl⟩

/-! ## What is kept -/

def twoStages (c : Config) : Config := { c with numStages := 2 }

theorem mem_of_smallest {K : Type} {le : K → K → Bool} {n : Nat} {key : α → Except Fault K}
    (h : smallest le n key xs = .ok ys) {y : α} (hy : y ∈ ys) : y ∈ xs := by
  obtain ⟨keyed, hkeyed, h⟩ := bind_eq_ok.1 h
  rw [← pure_eq_ok.1 h] at hy
  obtain ⟨a, ha, rfl⟩ := mem_map.1 hy
  obtain ⟨x, hx, hxa⟩ := exists_of_mem_mapM hkeyed (mem_mergeSort.1 (mem_of_mem_take ha))
  obtain ⟨t, -, ht⟩ := bind_eq_ok.1 hxa
  rwa [← pure_eq_ok.1 ht]

theorem mem_kept (hd : 8 ≤ d.capability.1) (h : prune d e bytes configs = .ok kept) (hc : c ∈ kept) :
    configs[c.index]? = some c.config := by
  obtain ⟨ks, hks, rfl⟩ := keepEach_eq_ok (pruneWith_eq_ok h)
  obtain ⟨cs, hcs, hc⟩ := mem_flatten.1 hc
  obtain ⟨k, -, hkeep⟩ := exists_of_mem_mapM (mapM_eq_ok.2 hks) hcs
  rw [keepOfGroup, if_pos hd] at hkeep
  obtain ⟨distance, -, hkeep⟩ := bind_eq_ok.1 hkeep
  exact mem_candidates.1 (mem_of_mem_filter (mem_of_mem_filter (mem_of_smallest hkeep hc)))

theorem find?_eq_some_iff {p : α → Bool} {x : α} : xs.find? p = some x ↔
    p x ∧ ∃ i : Nat, xs[i]? = some x ∧ ∀ j < i, ∀ y, xs[j]? = some y → ¬ p y := by
  rw [find?_eq_some_iff_getElem]
  refine and_congr_right fun _ => exists_congr fun i => ?_
  constructor
  · rintro ⟨hi, rfl, hbefore⟩
    refine ⟨getElem?_eq_getElem hi, fun j hj y hy => ?_⟩
    obtain ⟨hj', rfl⟩ := List.getElem?_eq_some_iff.1 hy
    simpa using hbefore j hj
  · rintro ⟨hi, hbefore⟩
    obtain ⟨hi', rfl⟩ := List.getElem?_eq_some_iff.1 hi
    exact ⟨hi', rfl, fun j hj => by simpa using hbefore j hj _ (getElem?_eq_getElem (Nat.lt_trans hj hi'))⟩

theorem head_eq_some_iff : (((candidates configs).filter fun c => usable d e bytes c.config).filter (hasKey k)).head? = some c ↔
      configs[c.index]? = some c.config ∧ usable d e bytes c.config ∧ groupKey c.config = .ok k ∧
        ∀ j < c.index, ∀ c', configs[j]? = some c' → usable d e bytes c' → groupKey c' ≠ .ok k := by
  simp only [filter_filter, head?_filter, find?_eq_some_iff, candidates_getElem?, Option.map_eq_some_iff,
    Bool.and_eq_true, hasKey_iff]
  constructor
  · rintro ⟨⟨hc, huse⟩, i, ⟨c₀, hget, rfl⟩, hbefore⟩
    exact ⟨hget, huse, hc, fun j hj c' hc' huse' hkey' => hbefore j hj _ ⟨c', hc', rfl⟩ ⟨hkey', huse'⟩⟩
  · rintro ⟨hget, huse, hc, hbefore⟩
    refine ⟨⟨hc, huse⟩, c.index, ⟨c.config, hget, rfl⟩, fun j hj y hy h => ?_⟩
    obtain ⟨c', hc', rfl⟩ := hy
    exact hbefore j hj c' hc' h.2 h.1

theorem mem_kept_old (hd : d.capability.1 < 8) (h : prune d e bytes configs = .ok kept) (c : Candidate) :
    c ∈ kept ↔ First d (e, bytes) configs c.index ∧ configs[c.index]?.map twoStages = some c.config := by
  obtain ⟨ks, hks, rfl⟩ := keepEach_eq_ok (pruneWith_eq_ok h)
  have hkeep (k : GroupKey) (cs : List Candidate) : keepOfGroup d.capability k cs =
      .ok (cs.head?.toList.map fun c => { c with config := twoStages c.config }) := by
    rw [keepOfGroup, if_neg (by omega)]
    cases cs <;> rfl
  simp only [hkeep, Except.ok.injEq] at hks
  rw [← forall₂_map_left_iff (f := fun k => (head? _).toList.map _), forall₂_eq_eq_eq] at hks
  simp only [← hks, mem_flatten, mem_map]
  constructor
  · rintro ⟨_, ⟨k, -, rfl⟩, hc⟩
    obtain ⟨c₀, hc₀, rfl⟩ := mem_map.1 hc
    rw [Option.mem_toList, head_eq_some_iff] at hc₀
    obtain ⟨hget, huse, hkey, hfirst⟩ := hc₀
    exact ⟨⟨_, _, hget, huse, hkey, hfirst⟩, by simp [hget]⟩
  · rintro ⟨⟨c₀, k, hget, huse, hkey, hfirst⟩, hc⟩
    have hmem : k ∈ keysOf ((candidates configs).filter fun c => usable d e bytes c.config) :=
      mem_keysOf (c := ⟨c.index, c₀⟩) (mem_filter.2 ⟨mem_candidates.2 hget, huse⟩) hkey
    refine ⟨_, ⟨k, hmem, rfl⟩, mem_map.2 ⟨⟨c.index, c₀⟩, ?_, ?_⟩⟩
    · rw [Option.mem_toList, head_eq_some_iff]
      exact ⟨hget, huse, hkey, hfirst⟩
    · rw [hget] at hc
      exact congrArg (Candidate.mk c.index) (Option.some.inj hc)

/-! ## Prunings one after another -/

theorem updated_getElem? (g : Nat → Config) (h : ∀ c ∈ kept, c.config = g c.index) (configs : List Config) (i : Nat) :
    (updated configs kept)[i]? = configs[i]?.map fun c => if i ∈ kept.map Candidate.index then g i else c := by
  induction kept generalizing configs with
  | nil => simp [updated]
  | cons c cs ih =>
    have hc := h c mem_cons_self
    have hcons : updated configs (c :: cs) = updated (configs.set c.index c.config) cs := rfl
    rw [hcons, ih fun c' hc' => h c' (mem_cons_of_mem _ hc'), getElem?_set, hc]
    by_cases hi : c.index = i
    · subst hi
      by_cases hlt : c.index < configs.length <;> simp [hlt]
    · simp [hi, Ne.symm hi]

theorem after_of_new (hd : 8 ≤ d.capability.1) (configs : List Config) (call : Element × Int) : after d configs call = configs := by
  rw [after]
  split
  case h_1 kept h =>
    have hkept (c : Candidate) (hc : c ∈ kept) : c.config = configs[c.index]?.getD default := by rw [mem_kept hd h hc]; rfl
    refine ext_getElem? fun i => (updated_getElem? (fun i => configs[i]?.getD default) hkept configs i).trans ?_
    cases configs[i]? <;> simp
  case h_2 => rfl

theorem after_of_old (hd : d.capability.1 < 8) {call : Element × Int} (h : prune d call.1 call.2 configs = .ok kept) (i : Nat) :
    (First d call configs i → (after d configs call)[i]? = configs[i]?.map twoStages) ∧
      (¬ First d call configs i → (after d configs call)[i]? = configs[i]?) := by
  have hkept (c : Candidate) (hc : c ∈ kept) : c.config = twoStages (configs[c.index]?.getD default) := by
    obtain ⟨c₀, hc₀, hc⟩ := Option.map_eq_some_iff.1 ((mem_kept_old hd h c).1 hc).2
    rw [hc₀, ← hc]
    rfl
  have hget := updated_getElem? (fun i => twoStages (configs[i]?.getD default)) hkept configs i
  rw [after, h]
  refine ⟨fun hfirst => ?_, fun hfirst => ?_⟩
  · obtain ⟨c, -, hc, -⟩ := id hfirst
    have hmem : (⟨i, twoStages c⟩ : Candidate) ∈ kept := (mem_kept_old hd h _).2 ⟨hfirst, by rw [hc]; rfl⟩
    have hi : i ∈ kept.map Candidate.index := mem_map.2 ⟨_, hmem, rfl⟩
    simp only [hget, hi, if_true, hc, Option.map_some, Option.getD_some]
  · have hmem : i ∉ kept.map Candidate.index := fun hi => by
      obtain ⟨c, hc, rfl⟩ := mem_map.1 hi
      exact hfirst ((mem_kept_old hd h c).1 hc).1
    simp only [hget, hmem, if_false, Option.map_id']

/-- Some configurations have got two stages. -/
def Fewer (configs configs' : List Config) : Prop :=
  ∀ i : Nat, configs'[i]? = configs[i]? ∨ configs'[i]? = configs[i]?.map twoStages

theorem map_twoStages (c : Option Config) : (c.map twoStages).map twoStages = c.map twoStages := by cases c <;> rfl

theorem Fewer.trans {as bs cs : List Config} (hab : Fewer as bs) (hbc : Fewer bs cs) : Fewer as cs := fun i => by
  rcases hbc i with h | h <;> rcases hab i with h' | h' <;> rw [h, h']
  · exact .inl rfl
  · exact .inr rfl
  · exact .inr rfl
  · exact .inr (map_twoStages _)

theorem Fewer.antisymm {as bs : List Config} (hab : Fewer as bs) (hba : Fewer bs as) : bs = as := by
  refine ext_getElem? fun i => ?_
  rcases hab i with h | h
  · exact h
  · rcases hba i with h' | h'
    · exact h'.symm
    · rw [h', h, map_twoStages]

theorem after_fewer (d : Device) (configs : List Config) (call : Element × Int) : Fewer configs (after d configs call) := by
  intro i
  rcases lt_or_ge d.capability.1 8 with hd | hd
  · cases h : prune d call.1 call.2 configs with
    | error => exact .inl (by rw [after, h])
    | ok kept =>
      by_cases hfirst : First d call configs i
      · exact .inr ((after_of_old hd h i).1 hfirst)
      · exact .inl ((after_of_old hd h i).2 hfirst)
  · exact .inl (by rw [after_of_new hd])

theorem foldl_after_fewer (d : Device) (calls : List (Element × Int)) (configs : List Config) :
    Fewer configs (calls.foldl (after d) configs) := by
  induction calls generalizing configs with
  | nil => exact fun i => .inl rfl
  | cons call calls ih => exact (after_fewer d configs call).trans (ih _)

/-- A pruning on an older device changes nothing just where the configurations that it keeps have two stages already. -/
theorem after_eq_iff (hd : d.capability.1 < 8) (call : Element × Int) : after d configs call = configs ↔
    ∀ kept, prune d call.1 call.2 configs = .ok kept → ∀ i c, configs[i]? = some c → First d call configs i → c.numStages = 2 := by
  cases h : prune d call.1 call.2 configs with
  | error => simp [after, h]
  | ok kept =>
    constructor
    · intro heq _ _ i c hc hfirst
      have hget := (after_of_old hd h i).1 hfirst
      rw [heq, hc] at hget
      exact congrArg Config.numStages (Option.some.inj hget)
    · intro hstages
      refine ext_getElem? fun i => ?_
      by_cases hfirst : First d call configs i
      · rw [(after_of_old hd h i).1 hfirst]
        obtain ⟨c, -, hc, -⟩ := id hfirst
        rw [hc, Option.map_some, twoStages, ← hstages kept rfl i c hc hfirst]
      · exact (after_of_old hd h i).2 hfirst

/-- Prunings change nothing but numbers of stages, and these only on older devices, where the first configuration of a group
gets two stages. -/
theorem prunes_keep_configs_iff (d : Device) (configs : List Config) (calls : List (Element × Int)) :
    (∀ i : Nat, (calls.foldl (after d) configs)[i]? = configs[i]? ∨
      (calls.foldl (after d) configs)[i]? = configs[i]?.map fun c => { c with numStages := 2 }) ∧
    (calls.foldl (after d) configs = configs ↔ 8 ≤ d.capability.1 ∨ ∀ call ∈ calls, ∀ kept,
      prune d call.1 call.2 configs = .ok kept → ∀ i c, configs[i]? = some c → First d call configs i → c.numStages = 2) ∧
    ∀ (site : Host.Site) (a : Host.Tensor) (m n k : Nat), (Host.TunedProducts.kernel site a m n k).pruner.early =
      some fun cs _ => do
        let kept ← prune site.device (.host a.type.name) a.type.bytes cs
        return (updated cs kept, kept.map Candidate.index) := by
  refine ⟨foldl_after_fewer d calls configs, ?_, fun _ _ _ _ _ => rfl⟩
  rcases lt_or_ge d.capability.1 8 with hd | hd
  · rw [or_iff_right (by omega)]
    induction calls with
    | nil => simp
    | cons call calls ih =>
      rw [forall_mem_cons, ← ih, ← after_eq_iff hd, foldl_cons]
      constructor
      · intro heq
        -- nothing that a pruning has changed is ever changed back
        have hrest := foldl_after_fewer d calls (after d configs call)
        rw [heq] at hrest
        have hafter := (after_fewer d configs call).antisymm hrest
        exact ⟨hafter, by rwa [hafter] at heq⟩
      · rintro ⟨hafter, heq⟩
        rw [hafter, heq]
  · refine iff_of_true ?_ (.inl hd)
    induction calls with
    | nil => rfl
    | cons call calls ih => rw [foldl_cons, after_of_new hd, ih]

def olderDevice : Device := { properties := { maxSharedMem := 65536 }, capability := (7, 0) }

def smallBlocks (stages : Int) : Config where
  options := [("BLOCK_M", .int 16), ("BLOCK_N", .int 16), ("BLOCK_K", .int 16), ("SPLIT_K", .int 1)]
  numWarps := 1
  numStages := stages

/-- A pruning for short numbers changes the first configuration, and a later pruning for long numbers then keeps it, although
it would not fit with the stages that it had. -/
theorem earlier_prune_changes_later :
    ([(.host "float16", 2)].foldl (after olderDevice) [smallBlocks 64, smallBlocks 3]).map Config.numStages = [2, 3] ∧
    (prune olderDevice (.host "float32") 4 [smallBlocks 64, smallBlocks 3]).toOption.map (List.map Candidate.index) =
      some [1] ∧
    (prune olderDevice (.host "float32") 4 (after olderDevice [smallBlocks 64, smallBlocks 3] (.host "float16", 2))).toOption.map
      (List.map Candidate.index) = some [0] := by
  decide +kernel

end TileKernel.Tuning.Pruning
