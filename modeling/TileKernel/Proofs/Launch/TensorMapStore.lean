import Mathlib.Data.List.Nodup
import TileKernel.Launch.Dispatch

/-! # Tensor maps in the memory of the device

A lookup finds an equal key, or encodes the key and copies it to a new address. Maps are equal if they differ at most in the
position of their descriptor, which is neither hashed nor encoded.
-/

namespace TileKernel.Launch.TensorMap

open List

/-- What a map is hashed by. -/
def hashed (m : TensorMap) :=
  (m.folded, m.addressPosition, m.dimPositions, m.stridePositions, m.dataType, m.rank, m.boxDims, m.elementStrides, m.interleave,
    m.swizzle, m.l2Promotion, m.oobFill)

abbrev Key := TensorMap × List Int

def Same (k l : Key) : Prop := k.1.same l.1 ∧ k.2 = l.2

/-- The key that stands for all that are the same. -/
def plain (k : Key) : Key := ({ k.1 with descriptorPosition := 0 }, k.2)

variable {k l : Key}

theorem same_iff : Same k l ↔ plain k = plain l := by rw [Same, same, beq_iff_eq, plain, plain, Prod.mk.injEq]

theorem encode_eq_of_same (h : Same k l) : k.1.encode k.2 = l.1.encode l.2 := by
  have hplain (k : Key) : k.1.encode k.2 = (plain k).1.encode (plain k).2 := rfl
  rw [hplain, same_iff.1 h, ← hplain]

namespace Store

variable {fresh : Nat → Int} {s : Store} {p : Int}

/-- The store after a lookup; one that fails leaves it as it is. -/
def next (fresh : Nat → Int) (s : Store) (k : Key) : Store :=
  match s.lookup fresh k.1 k.2 with
  | .ok (_, t) => t
  | .error _ => s

def after (fresh : Nat → Int) (keys : List Key) (s : Store) : Store := keys.foldl (next fresh) s

/-- The addresses that are released when the store is deleted. -/
def released (s : Store) : List Int := s.entries.map (·.2)

theorem find?_eq (s : Store) (k : Key) : s.find? k.1 k.2 = (s.entries.find? (plain ·.1 == plain k)).map (·.2) := rfl

/-- A lookup finds the key, fails as its encoding does, or appends it. -/
theorem lookup_cases (fresh : Nat → Int) (s : Store) (k : Key) :
    (∃ p, s.find? k.1 k.2 = some p ∧ s.lookup fresh k.1 k.2 = .ok (p, s)) ∨
      s.find? k.1 k.2 = none ∧ ((∃ f, k.1.encode k.2 = .error f ∧ s.lookup fresh k.1 k.2 = .error f) ∨
        ∃ e, k.1.encode k.2 = .ok e ∧ s.lookup fresh k.1 k.2 = .ok (fresh s.copies.length,
          ⟨s.entries ++ [(k, fresh s.copies.length)], s.copies ++ [⟨fresh s.copies.length, e⟩]⟩)) := by
  rw [lookup]
  cases s.find? k.1 k.2 with
  | some p => exact .inl ⟨p, rfl, rfl⟩
  | none =>
    refine .inr ⟨rfl, ?_⟩
    cases k.1.encode k.2 with
    | error f => exact .inl ⟨f, rfl, rfl⟩
    | ok e => exact .inr ⟨e, rfl, rfl⟩

theorem find?_after (h : s.find? k.1 k.2 = some p) (later : List Key) : (after fresh later s).find? k.1 k.2 = some p := by
  induction later generalizing s with
  | nil => exact h
  | cons l later ih =>
    refine ih ?_
    obtain ⟨q, -, heq⟩ | ⟨-, ⟨f, -, heq⟩ | ⟨e, -, heq⟩⟩ := lookup_cases fresh s l <;> rw [next, heq]
    · exact h
    · exact h
    · obtain ⟨d, hd, rfl⟩ := Option.map_eq_some_iff.1 (find?_eq s k ▸ h)
      rw [find?_eq, find?_append, hd, Option.some_or, Option.map_some]

/-- A key that can be encoded is given an address, and found from then on. -/
theorem find?_next {e : Encoding} (he : k.1.encode k.2 = .ok e) (s : Store) :
    ∃ p, (∃ t, s.lookup fresh k.1 k.2 = .ok (p, t)) ∧ (next fresh s k).find? k.1 k.2 = some p := by
  obtain ⟨p, hp, heq⟩ | ⟨hnone, ⟨f, hf, -⟩ | ⟨e, -, heq⟩⟩ := lookup_cases fresh s k
  · exact ⟨p, ⟨s, heq⟩, by rw [next, heq, hp]⟩
  · cases hf.symm.trans he
  · rw [find?_eq, Option.map_eq_none_iff] at hnone
    exact ⟨_, ⟨_, heq⟩, by simp [next, heq, find?_eq, hnone]⟩

/-- Each entry has a copy of what its key is encoded as, and copies were made to new addresses. -/
structure Coherent (fresh : Nat → Int) (s : Store) : Prop where
  copied : ∀ d ∈ s.entries, ∃ e, d.1.1.encode d.1.2 = .ok e ∧ ⟨d.2, e⟩ ∈ s.copies
  released : s.released = s.copies.map (·.target)
  placed : s.copies.map (·.target) = (range s.copies.length).map fresh

theorem Coherent.next (h : Coherent fresh s) (k : Key) : Coherent fresh (next fresh s k) := by
  obtain ⟨p, -, heq⟩ | ⟨-, ⟨f, -, heq⟩ | ⟨e, he, heq⟩⟩ := lookup_cases fresh s k <;> rw [Store.next, heq]
  · exact h
  · exact h
  · refine ⟨fun d hd => ?_, by simpa [Store.released] using h.released, by simp [h.placed, range_succ]⟩
    obtain hd | hd := mem_append.1 hd
    · obtain ⟨b, hb, hmem⟩ := h.copied d hd
      exact ⟨b, hb, mem_append_left _ hmem⟩
    · obtain rfl := mem_singleton.1 hd
      exact ⟨e, he, mem_append_right _ mem_cons_self⟩

theorem Coherent.after (h : Coherent fresh s) (keys : List Key) : Coherent fresh (after fresh keys s) := by
  induction keys generalizing s with
  | nil => exact h
  | cons k keys ih => exact ih (h.next k)

end Store

end TileKernel.Launch.TensorMap
