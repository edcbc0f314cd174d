/-! # Tables

Entries by key, in the order in which the keys were first given.
-/

namespace TileKernel.Table

variable {κ α : Type} [DecidableEq κ]

/-- Set the entry of a key: a known key keeps its place, a new one goes to the end. -/
def put (t : List (κ × α)) (k : κ) (a : α) : List (κ × α) :=
  if t.any (·.1 == k) then t.map fun (j, b) => (j, if j == k then a else b) else t ++ [(k, a)]

def putAll (t more : List (κ × α)) : List (κ × α) := more.foldl (fun t x => put t x.1 x.2) t

variable {t more : List (κ × α)} {j k : κ} {a : α} {x : κ × α}

theorem any_iff_mem_keys : t.any (·.1 == k) = true ↔ k ∈ t.map (·.1) := by
  simp

theorem keys_put (t : List (κ × α)) (k : κ) (a : α) :
    (put t k a).map (·.1) = if k ∈ t.map (·.1) then t.map (·.1) else t.map (·.1) ++ [k] := by
  unfold put
  simp only [any_iff_mem_keys]
  split
  · rw [List.map_map]
    rfl
  · rw [List.map_append]
    rfl

theorem mem_keys_put : j ∈ (put t k a).map (·.1) ↔ j = k ∨ j ∈ t.map (·.1) := by
  rw [keys_put]
  split
  · rename_i hk
    exact ⟨.inr, fun h => h.elim (fun hj => hj ▸ hk) id⟩
  · simp [or_comm]

theorem mem_put : x ∈ put t k a ↔ x = (k, a) ∨ x ∈ t ∧ x.1 ≠ k := by
  unfold put
  split
  · rename_i hk
    rw [List.mem_map]
    constructor
    · rintro ⟨⟨i, b⟩, hp, rfl⟩
      by_cases hi : i = k
      · simp [hi]
      · simp [hi, hp]
    · rintro (rfl | ⟨hx, hne⟩)
      · obtain ⟨p, hp, hpk⟩ := List.any_eq_true.mp hk
        exact ⟨p, hp, by simp [eq_of_beq hpk]⟩
      · exact ⟨x, hx, by simp [hne]⟩
  · rename_i hk
    rw [List.mem_append, List.mem_singleton, or_comm]
    refine or_congr_right ⟨fun hx => ⟨hx, ?_⟩, And.left⟩
    rintro rfl
    exact hk (any_iff_mem_keys.mpr (List.mem_map_of_mem hx))

theorem mem_foldl_put {ks : List κ} : x ∈ ks.foldl (fun t k => put t k a) t ↔ x.1 ∈ ks ∧ x.2 = a ∨ x ∈ t ∧ x.1 ∉ ks := by
  induction ks generalizing t with
  | nil => simp
  | cons k ks ih =>
    rw [List.foldl_cons, ih, mem_put, Prod.ext_iff, List.mem_cons]
    grind

theorem keys_foldl_put {ks : List κ} (h : ks.Nodup) (t : List (κ × α)) (a : α) :
    (ks.foldl (fun t k => put t k a) t).map (·.1) = t.map (·.1) ++ ks.filter (· ∉ t.map (·.1)) := by
  induction ks generalizing t with
  | nil => simp
  | cons k ks ih =>
    obtain ⟨hk, hks⟩ := List.nodup_cons.mp h
    rw [List.foldl_cons, ih hks, keys_put, List.filter_cons]
    split
    · rename_i hmem
      rw [if_neg (by simpa using hmem)]
    · rename_i hmem
      have hothers : (ks.filter (· ∉ t.map (·.1) ++ [k])) = ks.filter (· ∉ t.map (·.1)) :=
        List.filter_congr fun j hj => by grind
      rw [if_pos (by simpa using hmem), hothers, List.append_assoc, List.singleton_append]

/-! ## Looking up -/

theorem lookup_cons (j k : κ) (a : α) (t : List (κ × α)) : ((k, a) :: t).lookup j = if j = k then some a else t.lookup j := by
  rw [List.lookup_cons]
  by_cases h : j = k
  · rw [if_pos h, beq_iff_eq.mpr h]
  · rw [if_neg h, beq_false_of_ne h]

theorem isSome_lookup_iff : (t.lookup k).isSome = true ↔ k ∈ t.map (·.1) := by
  rw [Option.isSome_iff_ne_none, ne_eq, List.lookup_eq_none_iff]
  simp

theorem any_eq_isSome_lookup : t.any (·.1 == k) = (t.lookup k).isSome :=
  Bool.eq_iff_iff.mpr (any_iff_mem_keys.trans isSome_lookup_iff.symm)

theorem mem_of_lookup (h : t.lookup k = some a) : (k, a) ∈ t := by
  obtain ⟨before, after, rfl, -⟩ := List.lookup_eq_some_iff.mp h
  simp

theorem lookup_map {β : Type} (f : κ → α → β) (t : List (κ × α)) (k : κ) :
    (t.map fun x => (x.1, f x.1 x.2)).lookup k = (t.lookup k).map (f k) := by
  induction t with
  | nil => rfl
  | cons x t ih =>
    rw [List.map_cons, lookup_cons, lookup_cons, ih]
    by_cases hk : k = x.1 <;> simp [hk]

theorem lookup_filter (p : κ → Bool) (t : List (κ × α)) (k : κ) :
    (t.filter fun x => p x.1).lookup k = if p k then t.lookup k else none := by
  induction t with
  | nil => simp
  | cons x t ih =>
    obtain ⟨i, a⟩ := x
    rw [List.filter_cons, apply_ite (List.lookup k), lookup_cons, lookup_cons, ih]
    by_cases hk : k = i
    · cases hp : p i <;> simp [hk, hp]
    · simp [hk]

theorem lookup_put (t : List (κ × α)) (k j : κ) (a : α) : (put t k a).lookup j = if j = k then some a else t.lookup j := by
  unfold put
  split
  · rename_i hk
    rw [lookup_map fun i b => if i == k then a else b]
    by_cases hj : j = k
    · obtain ⟨b, hb⟩ := Option.isSome_iff_exists.mp (isSome_lookup_iff.mpr (any_iff_mem_keys.mp hk))
      simp [hj, hb]
    · simp [hj]
  · rename_i hk
    rw [List.lookup_append, lookup_cons]
    by_cases hj : j = k
    · simp [hj, Option.not_isSome_iff_eq_none.mp (mt isSome_lookup_iff.mp (mt any_iff_mem_keys.mpr hk))]
    · simp [hj]

theorem lookup_foldl_put (ks : List κ) (t : List (κ × α)) (j : κ) (a : α) :
    (ks.foldl (fun t k => put t k a) t).lookup j = if j ∈ ks then some a else t.lookup j := by
  induction ks generalizing t with
  | nil => simp
  | cons k ks ih =>
    rw [List.foldl_cons, ih, lookup_put]
    by_cases hj : j ∈ ks
    · simp [hj]
    · by_cases hk : j = k <;> simp [hk, hj]

theorem lookup_without (t : List (κ × α)) (k j : κ) : (t.filter (·.1 != k)).lookup j = if j = k then none else t.lookup j := by
  rw [lookup_filter (· != k)]
  by_cases hj : j = k <;> simp [hj]

theorem lookup_putAll_of_notMem (h : j ∉ more.map (·.1)) (t : List (κ × α)) : (putAll t more).lookup j = t.lookup j := by
  induction more generalizing t with
  | nil => rfl
  | cons x more ih =>
    obtain ⟨hne, h⟩ : j ≠ x.1 ∧ j ∉ more.map (·.1) := by simpa using h
    rw [putAll, List.foldl_cons]
    exact (ih h _).trans ((lookup_put _ _ _ _).trans (if_neg hne))

theorem lookup_putAll_of_mem (hnodup : (more.map (·.1)).Nodup) (hx : x ∈ more) (t : List (κ × α)) :
    (putAll t more).lookup x.1 = some x.2 := by
  induction more generalizing t with
  | nil => cases hx
  | cons y more ih =>
    obtain ⟨hy, hnodup⟩ := List.nodup_cons.mp hnodup
    rw [putAll, List.foldl_cons]
    rcases List.mem_cons.mp hx with rfl | hx
    · exact (lookup_putAll_of_notMem hy _).trans ((lookup_put _ _ _ _).trans (if_pos rfl))
    · exact ih hnodup hx _

end TileKernel.Table
