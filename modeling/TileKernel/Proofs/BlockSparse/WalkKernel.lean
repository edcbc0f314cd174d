import TileKernel.Host.Programs.BlockSparse
import TileKernel.Proofs.BlockSparse.WalkTables
import TileKernel.Proofs.Meaning.Run

/-! # Kernels that walk by a table

The kernel that multiplies stored blocks with a dense matrix reads in the header of its row where its increments are, how far to
walk, and which row it is. It starts at the first pair of increments and goes on by one pair in every round. So its rounds are
the steps of the stored blocks of the row, as far as the numbers of the table fit into 32 bits.
-/

namespace TileKernel.BlockSparse.Walking

open Meaning Meaning.Code WalkTable

/-! ## The kernel -/

def heading : List Step := [
  .assign "pid_m" (apply "program_id" [num 0]),
  .assign "pid_n" (apply "program_id" [num 1]),
  .assign "num_pid_m" (apply "num_programs" [num 0]),
  .assign "num_pid_n" (apply "num_programs" [num 1]),
  .unpack ["pid_n", "pid_m"] (apply "swizzle2d" ["pid_n", "pid_m", "num_pid_n", "num_pid_m", "GROUP_SIZE_M"]),
  .assign "pidz" (apply "program_id" [num 2]),
  .assign "header" ("lut" + "pid_n" * num 4),
  .assign "offset" (apply "load" ["header" + num 0]),
  .assign "K" (apply "load" ["header" + num 1]),
  .assign "column" (apply "load" ["header" + num 2]),
  .assign "off_h" (apply "load" ["header" + num 3]),
  .assign "pinc" ("lut" + "offset")]

/-- Where the walk begins in both operands. -/
def starting : List Step := [
  .assign "block_id" (apply "load" ["pinc" + num 1]),
  .assign "block_id" (apply "multiple_of" ["block_id", num 8]),
  .assign "offs_am" (apply "arange" [num 0, "TILE_M"]),
  .assign "offs_ak" (apply "arange" [num 0, "TILE_K"]),
  .assign "pa" ("A" + "pidz" * "stride_az" + "block_id" * "stride_ha" + upright "offs_am" * "stride_am" +
    level "offs_ak" * "stride_ak"),
  .assign "offs_bn" ("pid_m" * "TILE_N" + apply "arange" [num 0, "TILE_N"]),
  .assign "offs_bn" (apply "max_contiguous" [apply "multiple_of" ["offs_bn" % "DS0", "TILE_N"], "TILE_N"]),
  .assign "start_bk" (apply "load" ["pinc"]),
  .assign "start_bk" (apply "multiple_of" ["start_bk", num 8]),
  .assign "offs_bk" ("start_bk" + apply "arange" [num 0, "TILE_K"]),
  .assign "pb" ("B" + "pidz" * "stride_zb" + "off_h" * "stride_hb" + level "offs_bn" * "stride_bn" +
    upright "offs_bk" * "stride_bk"),
  .assign "acc" (apply "zeros" [several ["TILE_M", "TILE_N"]] [("dtype", .symbol "float32")])]

/-- The next pair of increments. -/
def advancing : List Step := [
  .update "pinc" .add (num 2),
  .assign "inc_a" (apply "load" ["pinc" + num 1]),
  .assign "inc_a" (apply "multiple_of" ["inc_a", num 8]),
  .assign "inc_b" (apply "load" ["pinc"]),
  .assign "inc_b" (apply "multiple_of" ["inc_b", num 8])]

def adding : List Step := [
  .assign "a" (apply "load" ["pa"]),
  .assign "b" (apply "load" ["pb"]),
  .update "acc" .add (apply "dot" ["a", "b"] [("out_dtype", .symbol "float32")]),
  .update "pa" .add "inc_a",
  .update "pb" .add ("inc_b" * "stride_bk")]

def walkLoop : Step := .loop "k" (apply "range" ["K", num 0, .negative "TILE_K"]) (.block (adding ++ advancing))

def finishing : List Step := [
  .assign "c" (apply "to" ["acc", .symbol "element_ty"]),
  .assign "offs_cm" ("column" * "TILE_M" + apply "arange" [num 0, "TILE_M"]),
  .assign "offs_cn" ("pid_m" * "TILE_N" + apply "arange" [num 0, "TILE_N"]),
  .assign "pc" ("C" + "off_h" * "stride_hc" + "pidz" * "stride_zc" + upright "offs_cm" * "stride_cm" +
    level "offs_cn" * "stride_cn"),
  .effect (apply "store" ["pc", "c"] [("mask", .compare .lt (level "offs_cn") "DS0")])]

def walkKernel : Procedure where
  params := ["A", "B", "C", "stride_az", "stride_ha", "stride_am", "stride_ak", "stride_zb", "stride_hb", "stride_bk",
    "stride_bn", "stride_zc", "stride_hc", "stride_cm", "stride_cn", "DS0", "DS1", "lut", "TILE_M", "TILE_N", "TILE_K",
    "GROUP_SIZE_M", "BLOCK"]
  body := .block (heading ++ starting ++ advancing ++ [walkLoop] ++ finishing)

set_option maxRecDepth 8000 in
theorem ofLines_walk : Procedure.ofLines (Kernels.blockSparseProduct.drop 51) = some walkKernel := by
  rw [Kernels.blockSparseProduct, Procedure.code_eq rfl, ← List.map_drop, Procedure.ofLines_map]
  decide +kernel

/-! ## Runs -/

/-- The arguments of a product beside its operands: distances between neighbours, the columns of the dense operand, the
sizes of tiles, and what does not matter here. -/
structure Product where
  (az ha am ak : Int)
  (zb hb bk bn : Int)
  (zc hc cm cn : Int)
  columns : Int
  (tileM tileN : Nat)
  others : Value × Value × Value

/-- An instance: the row and the tile along the row that its numbers are swizzled to, its batch, and these numbers. -/
structure Instance where
  row : Nat
  tile : Int
  batch : Int
  position : Int × Int
  programs : Int × Int

variable {cells : List Int} {p : Product} {g : Instance} {o step rounds : Nat} {m h : Int}

section

variable (cells p g o step rounds m h) (u : Nat)

def setting : Setting where
  position := [g.position.1, g.position.2, g.batch]
  programs := [g.programs.1, g.programs.2]
  tables := fun tensor => if tensor = "lut" then some cells else none

@[simp] theorem setting_position : (setting cells g).position = [g.position.1, g.position.2, g.batch] := rfl

@[simp] theorem setting_programs : (setting cells g).programs = [g.programs.1, g.programs.2] := rfl

theorem read_cell {n : Nat} (hn : n < cells.length) : (setting cells g).read ⟨"lut", n⟩ = .int (cells.getD n 0) := by
  simp [Setting.read, setting, hn]

theorem read_number {tensor : String} (htensor : tensor ≠ "lut") (n : Int) :
    (setting cells g).read ⟨tensor, n⟩ = .number ⟨tensor, n⟩ := by
  simp [Setting.read, setting, htensor]

/-- The operations of an instance. Where its numbers are swizzled to does not matter for its walk. -/
def calls : Call := (setting cells g).call.give "swizzle2d" (.tuple [.int g.row, .int g.tile])

@[simp] def arguments : Named Value := [
  ("A", .cell (.pointer ⟨"A", 0⟩)), ("B", .cell (.pointer ⟨"B", 0⟩)), ("C", .cell (.pointer ⟨"C", 0⟩)),
  ("stride_az", .int p.az), ("stride_ha", .int p.ha), ("stride_am", .int p.am), ("stride_ak", .int p.ak),
  ("stride_zb", .int p.zb), ("stride_hb", .int p.hb), ("stride_bk", .int p.bk), ("stride_bn", .int p.bn),
  ("stride_zc", .int p.zc), ("stride_hc", .int p.hc), ("stride_cm", .int p.cm), ("stride_cn", .int p.cn),
  ("DS0", .int p.columns), ("DS1", p.others.1), ("lut", .cell (.pointer ⟨"lut", 0⟩)),
  ("TILE_M", .int p.tileM), ("TILE_N", .int p.tileN), ("TILE_K", .int step), ("GROUP_SIZE_M", p.others.2.1),
  ("BLOCK", p.others.2.2)]

def storedAddress (a : Int) (i x : Nat) : Address := ⟨"A", g.batch * p.az + a + i * p.am + x * p.ak⟩

def denseAddress (b : Int) (x j : Nat) : Address :=
  ⟨"B", g.batch * p.zb + h * p.hb + (g.tile * p.tileN + j).tmod p.columns * p.bn + (b + x) * p.bk⟩

def products (i j : Nat) (r : Int × Int) : List (Cell × Cell) :=
  (List.range step).map fun x => (.number (storedAddress p g r.2 i x), .number (denseAddress p g h r.1 x j))

@[simp] def base : Named Value := arguments p step ++ [
  ("pid_m", .int g.tile), ("pidz", .int g.batch), ("K", .int (rounds * step)), ("column", .int m), ("off_h", .int h)]

@[simp] def reading (o u : Nat) : String × Value := ("pinc", .cell (.pointer ⟨"lut", (o + 2 * u : Nat)⟩))

/-- What an instance knows after some rounds. -/
@[simp] def walked : Named Value := [
  ("pa", .block [p.tileM, step] fun i x => .pointer (storedAddress p g (storedAt cells o p.ha u) i x)),
  ("pb", .block [step, p.tileN] fun x j => .pointer (denseAddress p g h (denseAt cells o u) x j)),
  ("acc", .block [p.tileM, p.tileN] fun i j => .sum ((walk cells o p.ha u).map (products p g step h i j)))]

/-- The pair of increments before a round. -/
@[simp] def pending : Named Value := [
  ("inc_a", .int (cells.getD (o + 2 * u + 1) 0)), ("inc_b", .int (cells.getD (o + 2 * u) 0))]

/-- What an instance knows between its rounds, when it has read the pair of increments for the next one. -/
@[simp] def between : Named Value :=
  base p g step rounds m h ++ walked cells p g o step h u ++ reading o (u + 1) :: pending cells o (u + 1)

end

theorem heading_run (hh : Header cells g.row o rounds step m h) : Runs (calls cells g) (.block heading) (·.Knows (arguments p step))
    (·.Knows (base p g step rounds m h ++ [reading o 0])) := by
  refine .quiet fun st henv => ?_
  simp at henv
  have hbound := hh.header_bound
  have h₀ := read_cell cells g (n := 4 * g.row) (by omega)
  have h₁ := read_cell cells g (n := 4 * g.row + 1) (by omega)
  have h₂ := read_cell cells g (n := 4 * g.row + 2) (by omega)
  have h₃ := read_cell cells g (n := 4 * g.row + 3) (by omega)
  simp only [hh.offset, hh.length, hh.column, hh.head, Nat.cast_add, Nat.cast_mul, Nat.cast_one, Nat.cast_ofNat,
    Int.mul_comm 4] at h₀ h₁ h₂ h₃
  exact ⟨_, by simp [heading, henv, calls, h₀, h₁, h₂, h₃]; rfl, by simp [henv]⟩

theorem starting_run (hh : Header cells g.row o rounds step m h) :
    Runs (calls cells g) (.block starting) (·.Knows (base p g step rounds m h ++ [reading o 0]))
      (·.Knows (base p g step rounds m h ++ walked cells p g o step h 0 ++ [reading o 0])) := by
  refine .quiet fun st henv => ?_
  simp at henv
  have hbound := hh.bound
  have h₀ := read_cell cells g (n := o) (by omega)
  have h₁ := read_cell cells g (n := o + 1) (by omega)
  simp only [Nat.cast_add, Nat.cast_one] at h₁
  refine ⟨_, by simp [starting, henv, calls, h₀, h₁]; rfl, ?_⟩
  simp [walk, storedAddress, denseAddress, storedAt, denseAt, henv, Cell.zero]

theorem advancing_run {u : Nat} (hu : o + 2 * (u + 1) + 1 < cells.length) :
    Runs (calls cells g) (.block advancing) (·.Knows (base p g step rounds m h ++ walked cells p g o step h u ++ [reading o u]))
      (·.Knows (between cells p g o step rounds m h u)) := by
  refine .quiet fun st henv => ?_
  simp at henv
  have hnext : ((o + 2 * (u + 1) : Nat) : Int) = o + 2 * u + 2 := by omega
  have h₀ := read_cell cells g (n := o + 2 * (u + 1)) (by omega)
  have h₁ := read_cell cells g (n := o + 2 * (u + 1) + 1) hu
  rw [hnext] at h₀
  rw [Nat.cast_succ, hnext] at h₁
  exact ⟨_, by simp [advancing, henv, calls, h₀, h₁]; rfl, by simp [henv, mul_add, add_assoc]⟩

theorem adding_run {u : Nat} {v : Value} :
    Runs (calls cells g) (.block adding) (·.Knows (("k", v) :: between cells p g o step rounds m h u))
      (·.Knows (base p g step rounds m h ++ walked cells p g o step h (u + 1) ++ [reading o (u + 1)])) := by
  refine .quiet fun st henv => ?_
  simp at henv
  have hA (n : Int) := read_number cells g (by decide : "A" ≠ "lut") n
  have hB (n : Int) := read_number cells g (by decide : "B" ≠ "lut") n
  refine ⟨_, by simp [adding, henv, calls, storedAddress, denseAddress, hA, hB]; rfl, ?_⟩
  simp [walk, products, storedAddress, denseAddress, storedAt, denseAt, henv, List.range_succ, add_mul, add_assoc, add_comm,
    add_left_comm]

theorem loop_run (hh : Header cells g.row o rounds step m h) (hstep : 0 < step) : Runs (calls cells g) walkLoop
    (·.Knows (between cells p g o step rounds m h 0)) (·.Knows (between cells p g o step rounds m h rounds)) := by
  have hbound := hh.bound
  refine .loop (g := fun (u : Nat) => .int (rounds * step + -step * u)) (between cells p g o step rounds m h) (by simp)
    (fun env henv => ?_) fun u hu => adding_run.append (advancing_run (by omega))
  simp at henv
  simp [henv, calls, Setting.call_range_down _ rounds hstep]

def write (p : Product) (g : Instance) (step : Nat) (m h : Int) (rounds : List (Int × Int)) : Value := .tuple [
  .symbol "store",
  .block [p.tileM, p.tileN] fun i j => .pointer
    ⟨"C", h * p.hc + g.batch * p.zc + (m * p.tileM + i) * p.cm + (g.tile * p.tileN + j) * p.cn⟩,
  .block [p.tileM, p.tileN] fun i j => .sum (rounds.map (products p g step h i j)),
  .block [1, p.tileN] fun _ j => .bool (g.tile * p.tileN + j < p.columns)]

theorem finishing_run : Runs (calls cells g) (.block finishing) (·.Knows (between cells p g o step rounds m h rounds))
    (·.effects = [write p g step m h (walk cells o p.ha rounds)]) := by
  intro st hst
  have henv := hst.env
  simp at henv
  exact ⟨_, by simp [finishing, henv, calls]; rfl, by simp [hst.effects, write]⟩

def writes (cells : List Int) (p : Product) (step : Nat) (g : Instance) : Option (List Value) := do
  (← Procedure.ofLines (Kernels.blockSparseProduct.drop 51)).effects (calls cells g) ((arguments p step).map Prod.snd)

/-- An instance makes one write, of a sum whose rounds are where the table says. -/
theorem writes_eq (hh : Header cells g.row o rounds step m h) (hstep : 0 < step) :
    writes cells p step g = some [write p g step m h (walk cells o p.ha rounds)] := by
  have hbound := hh.bound
  have hrun := (((heading_run (p := p) hh).append (starting_run hh)).append (advancing_run (by omega))).append (loop_run hh hstep).singleton
  rw [writes, ofLines_walk]
  exact Procedure.effects_eq (r := walkKernel) rfl (by decide) (hrun.append finishing_run)

/-! ## Rounds -/

/-- By a table, the rounds of every row are where they should be: `c` are the columns of its stored blocks and `b` are their
numbers in the storage. -/
def Walks (q : Plan) (cells : List Int) : Prop :=
  ∀ r h m, q.oriented.lines[r]? = some (h, m) → ∃ rounds : List (Int × Int),
    rounds.length = q.parts * (q.oriented.line h m).length ∧
    (∀ k c, (q.oriented.line h m)[k]? = some c → ∃ b : Nat, q.layout.blocks[b]? = some (q.place ⟨h, m, c⟩) ∧ ∀ s < q.parts,
      rounds[k * q.parts + s]? = some ((c * q.block + s * q.step : Int), b * (q.block * q.block) + s * q.stride)) ∧
    ∀ (p : Product) (g : Instance), p.ha = q.block * q.block → g.row = r →
      writes cells p q.step g = some [write p g q.step m h rounds]

def onDevice (cells : List Int) : List Int := (Host.BlockSparse.narrow cells).map Strided.Element.toWhole

theorem onDevice_eq {cells : List Int} (h : ∀ n ∈ cells, -2 ^ 31 ≤ n ∧ n < 2 ^ 31) : onDevice cells = cells := by
  rw [onDevice, Host.BlockSparse.narrow, List.map_map]
  refine (List.map_congr_left fun n hn => ?_).trans (List.map_id _)
  obtain ⟨hlow, hhigh⟩ := h n hn
  change n.bmod 4294967296 = n
  exact Int.bmod_eq_of_le (by omega) (by omega)

/-- Tables can be made, and walks by them take the stored blocks of a row in their order and in all their steps; on the device
they do when no number of the table wraps around. -/
theorem rounds_follow_stored_blocks (q : Plan) :
    ∃ t, make q.layout q.block q.step q.byRows = .ok t ∧ t.width = q.oriented.lines.length ∧ Walks q t.cells ∧
      ((∀ n ∈ t.cells, -2 ^ 31 ≤ n ∧ n < 2 ^ 31) → Walks q (onDevice t.cells)) := by
  obtain ⟨t, hmake, hwidth, hrows⟩ := q.exists_rounds
  have hwalks : Walks q t.cells := by
    intro r h m hr
    obtain ⟨o, hheader, hrounds⟩ := hrows r h m hr
    refine ⟨walk t.cells o (q.block * q.block) (q.parts * (q.oriented.line h m).length), by simp [walk], fun k c hc => ?_, ?_⟩
    · obtain ⟨b, hb, hspots⟩ := hrounds k c hc
      refine ⟨b, hb, fun s hs => ?_⟩
      obtain ⟨hlt, hdense, hsparse⟩ := hspots s hs
      simp [walk, hlt, hdense, hsparse]
    · rintro p g hp rfl
      rw [writes_eq hheader q.step_pos, hp]
  exact ⟨t, hmake, hwidth, hwalks, fun h => (onDevice_eq h).symm ▸ hwalks⟩

/-- A row of two large blocks. -/
def wide : Plan where
  layout := ⟨1, 1, 2, fun _ _ _ => 1⟩
  binary := fun _ _ _ => .inr rfl
  nonempty := by decide
  parts := 1
  step := 65536
  byRows := true
  parts_pos := by decide
  step_pos := by decide

/-- Among large blocks the way from one to the next does not fit. -/
theorem wide_blocks_wrap : ∃ t, make wide.layout wide.block wide.step wide.byRows = .ok t ∧ ¬ Walks wide (onDevice t.cells) := by
  refine ⟨⟨[4, 131072, 0, 0, 0, 0, 65536, 4294967296] ++ padding, 1⟩, rfl, fun hwalks => ?_⟩
  obtain ⟨rounds, -, hrounds, hwrites⟩ := hwalks 0 0 0 rfl
  obtain ⟨b, hb, hspot⟩ := hrounds 1 1 rfl
  have hb : ([⟨0, 0, 0⟩, ⟨0, 0, 1⟩] : List Block)[b]? = some ⟨0, 0, 1⟩ := hb
  obtain rfl : b = 1 := by rcases b with _ | _ | b <;> simp at hb ⊢
  have hheader : Header (onDevice ([4, 131072, 0, 0, 0, 0, 65536, 4294967296] ++ padding)) 0 4 2 65536 0 0 := by
    constructor <;> decide +kernel
  let p : Product := ⟨0, 65536 * 65536, 0, 0, 0, 0, 0, 0, 0, 0, 0, 0, 1, 1, 1, .nothing, .nothing, .nothing⟩
  let g : Instance := ⟨0, 0, 0, (0, 0), (1, 1)⟩
  have hsame := (hwrites p g rfl rfl).symm.trans (writes_eq hheader (by decide))
  simp only [write, Option.some.injEq, List.cons.injEq, Value.tuple.injEq, Value.block.injEq] at hsame
  have hsums := Cell.sum.inj (congrFun (congrFun hsame.1.2.2.1.2 0) 0)
  have hround := congrArg (fun rs => rs[1]?) hsums
  have hfirst : rounds[1]? = some (65536, 4294967296) := hspot 0 (by decide)
  have hsecond : (walk (onDevice ([4, 131072, 0, 0, 0, 0, 65536, 4294967296] ++ padding)) 4 p.ha 2)[1]? = some (65536, 0) := by
    decide +kernel
  simp only [List.getElem?_map, hfirst, hsecond, Option.map_some, Option.some.injEq] at hround
  have hcell := congrArg (fun cs => cs[0]?) hround
  simp [products, storedAddress, List.getElem?_range wide.step_pos] at hcell

end TileKernel.BlockSparse.Walking
