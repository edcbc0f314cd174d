import TileKernel.Proofs.Meaning.Run

/-! # The counter-based generator

The random numbers of the language come from Philox-4x32: rounds of multiplications and exclusive ors over a counter of four
words, under a key that moves on from round to round. The procedures of the library, read from their lines, run just these
rounds. A round can be undone, because its multipliers are odd, so no two counters give the same words.
-/

namespace TileKernel.Random

open Meaning Meaning.Code Meaning.Procedure

/-! ## Rounds -/

abbrev Word := BitVec 32

@[ext] structure Counter where
  c0 : Word
  c1 : Word
  c2 : Word
  c3 : Word

/-- One round of Philox-4x32 under a key. -/
def round (k0 k1 : Word) (c : Counter) : Counter :=
  ⟨highWord 0xCD9E8D57 c.c2 ^^^ c.c1 ^^^ k0, 0xCD9E8D57 * c.c2, highWord 0xD2511F53 c.c0 ^^^ c.c3 ^^^ k1, 0xD2511F53 * c.c0⟩

/-- Rounds under the keys of the schedule: round `i` has `k0 + i * 0x9E3779B9` and `k1 + i * 0xBB67AE85`. -/
def rounds (k0 k1 : Word) : Nat → Counter → Counter
  | 0, c => c
  | i + 1, c => round (k0 + BitVec.ofNat 32 i * 0x9E3779B9) (k1 + BitVec.ofNat 32 i * 0xBB67AE85) (rounds k0 k1 i c)

/-- The counter before a round. The multipliers are undone by their inverses modulo `2 ^ 32`. -/
def unround (k0 k1 : Word) (c : Counter) : Counter :=
  let c0 := 0x991A7CDB * c.c3
  let c2 := 0x6D7CAE67 * c.c1
  ⟨c0, highWord 0xCD9E8D57 c2 ^^^ c.c0 ^^^ k0, c2, highWord 0xD2511F53 c0 ^^^ c.c2 ^^^ k1⟩

theorem xor_cancel (a b c : Word) : a ^^^ (a ^^^ b ^^^ c) ^^^ c = b := by
  rw [BitVec.xor_assoc a b c, ← BitVec.xor_assoc a a, BitVec.xor_self, BitVec.zero_xor, BitVec.xor_assoc, BitVec.xor_self,
    BitVec.xor_zero]

theorem mul_cancel {a b : Word} (h : a * b = 1) (x : Word) : a * (b * x) = x := by
  rw [← BitVec.mul_assoc, h]
  exact BitVec.one_mul x

theorem unround_round (k0 k1 : Word) (c : Counter) : unround k0 k1 (round k0 k1 c) = c := by
  have h0 : (0x991A7CDB : Word) * (0xD2511F53 * c.c0) = c.c0 := mul_cancel (by decide) _
  have h2 : (0x6D7CAE67 : Word) * (0xCD9E8D57 * c.c2) = c.c2 := mul_cancel (by decide) _
  ext1 <;> simp only [unround, round, h0, h2, xor_cancel]

theorem round_unround (k0 k1 : Word) (c : Counter) : round k0 k1 (unround k0 k1 c) = c := by
  have h3 : (0xD2511F53 : Word) * (0x991A7CDB * c.c3) = c.c3 := mul_cancel (by decide) _
  have h1 : (0xCD9E8D57 : Word) * (0x6D7CAE67 * c.c1) = c.c1 := mul_cancel (by decide) _
  ext1 <;> simp only [unround, round, h1, h3, xor_cancel]

theorem round_bijective (k0 k1 : Word) : Function.Bijective (round k0 k1) :=
  Function.bijective_iff_has_inverse.2 ⟨unround k0 k1, unround_round k0 k1, round_unround k0 k1⟩

theorem rounds_bijective (k0 k1 : Word) (n : Nat) : Function.Bijective (rounds k0 k1 n) := by
  induction n with
  | zero => exact Function.bijective_id
  | succ n ih => exact (round_bijective _ _).comp ih

/-! ## The procedures of the library -/

def constants : Env := fun x =>
  match Lowering.Library.randomConstants.lookup x with
  | some (.int n) => some (.int n)
  | _ => none

def library : Call :=
  ((Setting.call {}).defineLines constants "philox_impl" (between 17 34 Lowering.Library.randomLines)
    |>.defineLines constants "philox" (between 38 46 Lowering.Library.randomLines)
    |>.defineLines constants "randint4x" (between 66 79 Lowering.Library.randomLines))

def generatorRound : Step := .block [
  .assign "A" "PHILOX_ROUND_A", .assign "B" "PHILOX_ROUND_B", .unpack ["_c0", "_c2"] (several ["c0", "c2"]),
  .assign "c0" (apply "umulhi" ["B", "_c2"] ^^^ "c1" ^^^ "k0"), .assign "c2" (apply "umulhi" ["A", "_c0"] ^^^ "c3" ^^^ "k1"),
  .assign "c1" ("B" * "_c2"), .assign "c3" ("A" * "_c0"),
  .assign "k0" ("k0" + "PHILOX_KEY_A"), .assign "k1" ("k1" + "PHILOX_KEY_B")]

def generator : Procedure where
  params := ["c0", "c1", "c2", "c3", "k0", "k1", "n_rounds"]
  body := .block [.loop "_" (apply "static_range" ["n_rounds"]) generatorRound]
  result := several ["c0", "c1", "c2", "c3"]

def seeded : Procedure where
  params := ["seed", "c0", "c1", "c2", "c3", "n_rounds"]
  body := .block [
    .assign "seed" (apply "to" ["seed", .symbol "uint64"]),
    .assign "seed_hi" (apply "to" [.binary .rShift "seed" (num 32) &&& num 0xffffffff, .symbol "uint32"]),
    .assign "seed_lo" (apply "to" ["seed" &&& num 0xffffffff, .symbol "uint32"]),
    .assign "c0" (apply "to" ["c0", .symbol "uint32"] [("bitcast", .literal (.bool true))]),
    .assign "c1" (apply "to" ["c1", .symbol "uint32"] [("bitcast", .literal (.bool true))]),
    .assign "c2" (apply "to" ["c2", .symbol "uint32"] [("bitcast", .literal (.bool true))]),
    .assign "c3" (apply "to" ["c3", .symbol "uint32"] [("bitcast", .literal (.bool true))])]
  result := apply "philox_impl" ["c0", "c1", "c2", "c3", "seed_lo", "seed_hi", "n_rounds"]

def fourWords : Procedure where
  params := ["seed", "offset", "n_rounds"]
  body := .block [.assign "_0" ("offset" * num 0)]
  result := apply "philox" ["seed", "offset", "_0", "_0", "_0", "n_rounds"]

section

set_option maxRecDepth 4000

theorem ofLines_generator : Procedure.ofLines (between 17 34 Lowering.Library.randomLines) = some generator := by
  rw [Procedure.ofLines_eq (by repeat' constructor)]
  decide +kernel

theorem ofLines_seeded : Procedure.ofLines (between 38 46 Lowering.Library.randomLines) = some seeded := by
  rw [Procedure.ofLines_eq (by repeat' constructor)]
  decide +kernel

theorem ofLines_fourWords : Procedure.ofLines (between 66 79 Lowering.Library.randomLines) = some fourWords := by
  rw [Procedure.ofLines_eq (by repeat' constructor)]
  decide +kernel

end

theorem library_eq : library = (((Setting.call {}).define constants "philox_impl" generator).define constants "philox"
    seeded).define constants "randint4x" fourWords := by
  rw [library, Call.defineLines_eq ofLines_generator, Call.defineLines_eq ofLines_seeded,
    Call.defineLines_eq ofLines_fourWords]

/-! ## Runs -/

def word (x : Word) : Value := .cell (.word 32 x)

def Counter.value (c : Counter) : Value := .tuple [word c.c0, word c.c1, word c.c2, word c.c3]

section

variable (c : Counter) (k0 k1 : Word) (n : Int)

/-- What the names of the generator stand for before a round. -/
@[simp] def held (i : Nat) : Named Value :=
  let x := rounds k0 k1 i c
  [("c0", word x.c0), ("c1", word x.c1), ("c2", word x.c2), ("c3", word x.c3), ("k0", word (k0 + BitVec.ofNat 32 i * 0x9E3779B9)),
   ("k1", word (k1 + BitVec.ofNat 32 i * 0xBB67AE85)), ("n_rounds", .int n), ("PHILOX_ROUND_A", .int 0xD2511F53),
   ("PHILOX_ROUND_B", .int 0xCD9E8D57), ("PHILOX_KEY_A", .int 0x9E3779B9), ("PHILOX_KEY_B", .int 0xBB67AE85)]

theorem schedule_succ (k a : Word) (i : Nat) : k + BitVec.ofNat 32 (i + 1) * a = k + BitVec.ofNat 32 i * a + a := by
  rw [BitVec.ofNat_add, BitVec.add_mul, BitVec.one_mul, BitVec.add_assoc]

theorem round_run (v : Value) (i : Nat) : Runs (Setting.call {}) generatorRound (·.Knows (("_", v) :: held c k0 k1 n i))
    (·.Knows (held c k0 k1 n (i + 1))) := by
  refine .quiet fun s henv => ?_
  simp at henv
  exact ⟨_, by simp [generatorRound, word, henv]; rfl, by simp [henv, word, rounds, round, schedule_succ]⟩

theorem loop_run : Runs (Setting.call {}) (.loop "_" (apply "static_range" ["n_rounds"]) generatorRound) (·.Knows (held c k0 k1 n 0))
    (·.Knows (held c k0 k1 n n.toNat)) := by
  refine .loop (g := fun i => .int i) (held c k0 k1 n) (by simp) (fun env henv => ?_) fun i _ => round_run c k0 k1 n _ i
  simp at henv
  simp [henv]

theorem generator_run : generator.run (Setting.call {}) constants
    [word c.c0, word c.c1, word c.c2, word c.c3, word k0, word k1, .int n] = some (rounds k0 k1 n.toNat c).value := by
  let env : Env := ((((((constants.set "c0" (word c.c0)).set "c1" (word c.c1)).set "c2" (word c.c2)).set "c3" (word c.c3)).set
    "k0" (word k0)).set "k1" (word k1)).set "n_rounds" (.int n)
  have hknown : Meaning.State.Knows { env } (held c k0 k1 n 0) := ⟨by simp [env, rounds]; exact ⟨rfl, rfl, rfl, rfl⟩, rfl⟩
  obtain ⟨s, hs, henv, -⟩ := (loop_run c k0 k1 n).singleton _ hknown
  simp at henv
  have hresult : eval (Setting.call {}) s.env (several ["c0", "c1", "c2", "c3"]) = some (rounds k0 k1 n.toNat c).value := by
    simp [henv, Counter.value]
  exact (congrArg (Option.bind · _) hs).trans hresult

end

/-! ## Seeds -/

variable (seed : BitVec 64)

def low : Word := seed.setWidth 32

def high : Word := (seed >>> 32).setWidth 32

theorem library_impl (c : Counter) (k0 k1 : Word) (n : Int) :
    library "philox_impl" [word c.c0, word c.c1, word c.c2, word c.c3, word k0, word k1, .int n] [] =
      some (rounds k0 k1 n.toNat c).value := by
  simp [library_eq, generator_run]

theorem library_seeded (c : Counter) (n : Int) :
    library "philox" [.cell (.word 64 seed), word c.c0, word c.c1, word c.c2, word c.c3, .int n] [] =
      some (rounds (low seed) (high seed) n.toNat c).value := by
  have hmask (x : Word) : x &&& 0xffffffff#32 = x := BitVec.and_allOnes
  rw [library_eq, ← generator_run]
  simp [seeded, word, hmask, low, high]

theorem library_fourWords (offset : Word) (n : Int) :
    library "randint4x" [.cell (.word 64 seed), word offset, .int n] [] =
      some (rounds (low seed) (high seed) n.toNat ⟨offset, 0, 0, 0⟩).value := by
  have h := library_seeded seed ⟨offset, 0, 0, 0⟩ n
  rw [library_eq] at h ⊢
  simpa [fourWords, word] using h

/-- The numbers of the language are those of Philox-4x32, and no two of them collide. -/
theorem generator_words_distinct (seed : BitVec 64) (n : Int) :
    (∀ c : Counter, library "philox_impl" [word c.c0, word c.c1, word c.c2, word c.c3, word (low seed), word (high seed), .int n] [] =
        some (rounds (low seed) (high seed) n.toNat c).value) ∧
      (∀ c : Counter, library "philox" [.cell (.word 64 seed), word c.c0, word c.c1, word c.c2, word c.c3, .int n] [] =
        some (rounds (low seed) (high seed) n.toNat c).value) ∧
      Function.Bijective (rounds (low seed) (high seed) n.toNat) ∧
      ∀ a b : Word, ∃ x y : Counter, library "randint4x" [.cell (.word 64 seed), word a, .int n] [] = some x.value ∧
        library "randint4x" [.cell (.word 64 seed), word b, .int n] [] = some y.value ∧ (x = y ↔ a = b) := by
  refine ⟨fun c => library_impl c _ _ n, fun c => library_seeded seed c n, rounds_bijective _ _ _, fun a b => ?_⟩
  refine ⟨_, _, library_fourWords seed a n, library_fourWords seed b n, ?_⟩
  rw [(rounds_bijective _ _ _).injective.eq_iff, Counter.mk.injEq]
  simp

end TileKernel.Random
