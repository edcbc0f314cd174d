import Mathlib.Data.List.Basic
import TileKernel.Text

/-! # What patterns of character classes match

A repetition of a class of characters takes the longest run with which the rest succeeds. The lemmas say what such a
repetition does in front of a given continuation, so that a proof follows a pattern from left to right and gives, at every
repetition, the run that it takes and the reason why no longer run will do.
-/

namespace TileKernel.Text

namespace MatchState

/-- The place behind the text `u`, with `v` left. -/
def skip (s : MatchState) (u v : List Char) : MatchState :=
  { s with previous := u.getLast?.or s.previous, rest := v, position := s.position + u.length }

def keep (s : MatchState) (n : Nat) (u : List Char) : MatchState := { s with captures := (n, u) :: s.captures }

variable {s : MatchState} {u v : List Char}

@[simp] theorem rest_skip : (s.skip u v).rest = v := rfl

@[simp] theorem position_skip : (s.skip u v).position = s.position + u.length := rfl

@[simp] theorem captures_skip : (s.skip u v).captures = s.captures := rfl

variable {n : Nat}

@[simp] theorem rest_keep : (s.keep n u).rest = s.rest := rfl

@[simp] theorem position_keep : (s.keep n u).position = s.position := rfl

@[simp] theorem captures_keep : (s.keep n u).captures = (n, u) :: s.captures := rfl

theorem skip_nil (h : s.rest = v) : s.skip [] v = s := by
  subst h
  rfl

theorem skip_step (c : Char) (w : List Char) : (s.step c w).skip u v = s.skip (c :: u) v := by
  simp only [skip, step, List.length_cons, List.getLast?_cons, Option.some_or, mk.injEq, and_true, true_and]
  refine ⟨?_, by omega⟩
  cases u.getLast? <;> rfl

theorem skip_skip (u' v' w : List Char) : (s.skip u w).skip u' v' = s.skip (u ++ u') v' := by
  simp only [skip, List.length_append, List.getLast?_append, mk.injEq, and_true, true_and]
  exact ⟨(Option.or_assoc).symm, by omega⟩

end MatchState

namespace Pattern

variable {p : Char → Bool} {s e : MatchState} {k : MatchState → Option MatchState} {u v : List Char}

/-! ## Single characters and fixed texts -/

theorem one_of_cons {c : Char} (hs : s.rest = c :: v) (hc : p c) : one p s k = k (s.skip [c] v) := by
  simp only [one, hs, hc, if_true]
  rw [← MatchState.skip_step c v, MatchState.skip_nil (v := v) rfl]

theorem one_eq_none (h : ∀ c ∈ s.rest.head?, p c = false) : one p s k = none := by
  rw [one]
  split
  · next c rest hs => simp [h c (by simp [hs])]
  · rfl

theorem one_fails (h : ∀ c v, s.rest = c :: v → p c → k (s.skip [c] v) = none) : one p s k = none := by
  cases hs : s.rest with
  | nil => exact one_eq_none (by simp [hs])
  | cons c v =>
    cases hc : p c with
    | false => exact one_eq_none (by simp [hs, hc])
    | true =>
      rw [one_of_cons hs hc]
      exact h c v hs hc

theorem text_of_append {t : String} (hs : s.rest = t.toList ++ v) : text t s k = k (s.skip t.toList v) := by
  rw [text]
  generalize t.toList = cs at hs
  induction cs generalizing s with
  | nil =>
    rw [List.nil_append] at hs
    rw [MatchState.skip_nil hs, List.map_nil, all, List.foldr_nil, nothing]
  | cons c cs ih =>
    have hrest : (all (cs.map fun c => one (· == c))) (s.skip [c] (cs ++ v)) k = k ((s.skip [c] (cs ++ v)).skip cs v) :=
      ih rfl
    rw [MatchState.skip_skip] at hrest
    rw [List.map_cons, all, List.foldr_cons, andThen, one_of_cons hs (by simp)]
    exact hrest

theorem text_eq_none {t : String} {c : Char} {cs : List Char} (ht : t.toList = c :: cs) (h : ∀ d ∈ s.rest.head?, d ≠ c) :
    text t s k = none := by
  rw [text, ht, List.map_cons, all, List.foldr_cons, andThen]
  exact one_eq_none fun d hd => by simpa using h d hd

/-! ## Repetitions of a class -/

/-- The class does not go on with `v`. -/
def Stops (p : Char → Bool) (v : List Char) : Prop := ∀ c ∈ v.head?, p c = false

theorem Stops.eq_nil (h : Stops p v) {w x : List Char} (hv : v = w ++ x) (hw : ∀ c ∈ w, p c) : w = [] := by
  cases w with
  | nil => rfl
  | cons c w =>
    have hfalse := h c (by simp [hv])
    rw [hw c List.mem_cons_self] at hfalse
    cases hfalse

theorem upTo_succ (a : Pattern) (n : Nat) :
    upTo a (n + 1) s k = (a s fun s' => if s'.position > s.position then upTo a n s' k else none).orElse fun _ => k s := rfl

theorem upTo_eq_none (n : Nat)
    (h : ∀ u v, s.rest = u ++ v → (∀ c ∈ u, p c) → k (s.skip u v) = none) : upTo (one p) n s k = none := by
  induction n generalizing s with
  | zero =>
    rw [upTo, nothing, ← MatchState.skip_nil (s := s) rfl]
    exact h [] s.rest rfl (by simp)
  | succ n ih =>
    have hk : k s = none := by
      rw [← MatchState.skip_nil (s := s) rfl]
      exact h [] s.rest rfl (by simp)
    rw [upTo_succ, hk, one_fails]
    · rfl
    · intro c rest hs hc
      rw [if_pos (by simp)]
      refine ih fun u v huv hu => ?_
      rw [MatchState.skip_skip]
      exact h (c :: u) v (by rw [hs, List.cons_append, ← huv]; rfl) (by simpa [hc] using hu)

variable {n : Nat}

theorem upTo_eq_some (hs : s.rest = u ++ v) (hn : u.length ≤ n) (hu : ∀ c ∈ u, p c) (hk : k (s.skip u v) = some e)
    (hlong : ∀ w x, w ≠ [] → v = w ++ x → (∀ c ∈ w, p c) → k (s.skip (u ++ w) x) = none) : upTo (one p) n s k = some e := by
  induction u generalizing s n with
  | nil =>
    rw [List.nil_append] at hs
    rw [MatchState.skip_nil hs] at hk
    cases n with
    | zero => exact hk
    | succ n =>
      rw [upTo_succ, hk, one_fails]
      · rfl
      · intro c rest hrest hc
        rw [if_pos (by simp)]
        refine upTo_eq_none n fun w x hwx hw => ?_
        rw [MatchState.skip_skip]
        exact hlong (c :: w) x (by simp) (by rw [← hs, hrest, List.cons_append, ← hwx]; rfl) (by simpa [hc] using hw)
  | cons c u ih =>
    obtain ⟨m, rfl⟩ := Nat.exists_eq_add_of_le' (Nat.le_trans (Nat.succ_le_succ (Nat.zero_le u.length)) hn)
    rw [upTo_succ, one_of_cons hs (hu c List.mem_cons_self), if_pos (by simp)]
    have hrun : upTo (one p) m (s.skip [c] (u ++ v)) k = some e := by
      refine ih rfl (by simpa using hn) (fun d hd => hu d (List.mem_cons_of_mem _ hd)) ?_ ?_
      · rw [MatchState.skip_skip]
        exact hk
      · intro w x hw hv hpw
        rw [MatchState.skip_skip]
        exact hlong w x hw hv hpw
    rw [List.append_eq, hrun]
    rfl

/-- An attempt succeeds, at a place of which `Q` holds. -/
def Reaches (x : Option MatchState) (Q : MatchState → Prop) : Prop := ∃ e, x = some e ∧ Q e

variable {Q : MatchState → Prop}

theorem reaches_some (h : Q s) : Reaches (some s) Q := ⟨s, rfl, h⟩

theorem many_reaches (hs : s.rest = u ++ v) (hu : ∀ c ∈ u, p c) (hk : Reaches (k (s.skip u v)) Q)
    (hlong : ∀ w x, w ≠ [] → v = w ++ x → (∀ c ∈ w, p c) → k (s.skip (u ++ w) x) = none) : Reaches (many (one p) s k) Q := by
  obtain ⟨e, he, hQ⟩ := hk
  exact ⟨e, upTo_eq_some hs (by simp only [hs, List.length_append]; omega) hu he hlong, hQ⟩

theorem many_reaches_of_stops (hs : s.rest = u ++ v) (hu : ∀ c ∈ u, p c) (hv : Stops p v)
    (hk : Reaches (k (s.skip u v)) Q) : Reaches (many (one p) s k) Q :=
  many_reaches hs hu hk fun _ _ hw hvw hpw => absurd (hv.eq_nil hvw hpw) hw

theorem capture_reaches (hne : u ≠ []) (hs : s.rest = u ++ v) (hu : ∀ c ∈ u, p c)
    (hk : Reaches (k ((s.skip u v).keep n u)) Q)
    (hlong : ∀ w x, w ≠ [] → v = w ++ x → (∀ c ∈ w, p c) → k ((s.skip (u ++ w) x).keep n (u ++ w)) = none) :
    Reaches (capture n (atLeastOne (one p)) s k) Q := by
  obtain ⟨c, u, rfl⟩ := List.exists_cons_of_ne_nil hne
  -- a run that begins at `s` and takes `w` is captured as `w`
  have htake : ∀ w x, s.rest = w ++ x → s.rest.take ((s.skip w x).position - s.position) = w := by
    intro w x hwx
    simp [hwx]
  rw [capture, atLeastOne, andThen, one_of_cons hs (hu c List.mem_cons_self)]
  refine many_reaches (u := u) (v := v) rfl (fun d hd => hu d (List.mem_cons_of_mem _ hd)) ?_ ?_
  · rw [MatchState.skip_skip, List.singleton_append, htake _ _ hs]
    exact hk
  · intro w x hw hv hpw
    rw [MatchState.skip_skip, List.singleton_append, htake _ x (by rw [hs, hv]; simp)]
    exact hlong w x hw hv hpw

theorem capture_reaches_of_stops (hne : u ≠ []) (hs : s.rest = u ++ v) (hu : ∀ c ∈ u, p c) (hv : Stops p v)
    (hk : Reaches (k ((s.skip u v).keep n u)) Q) : Reaches (capture n (atLeastOne (one p)) s k) Q :=
  capture_reaches hne hs hu hk fun _ _ hw hvw hpw => absurd (hv.eq_nil hvw hpw) hw

theorem capture_eq_none (h : ∀ u v, u ≠ [] → s.rest = u ++ v → k ((s.skip u v).keep n u) = none) :
    capture n (atLeastOne (one p)) s k = none := by
  rw [capture, atLeastOne, andThen]
  refine one_fails fun c rest hs _ => upTo_eq_none _ fun u v huv _ => ?_
  have hall : s.rest = (c :: u) ++ v := by rw [hs, List.cons_append, ← huv]; rfl
  rw [MatchState.skip_skip, List.singleton_append]
  have htake : s.rest.take ((s.skip (c :: u) v).position - s.position) = c :: u := by
    rw [hall]
    simp
  rw [htake]
  exact h (c :: u) v (by simp) hall

end Pattern

end TileKernel.Text
