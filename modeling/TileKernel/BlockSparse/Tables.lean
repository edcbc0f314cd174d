import TileKernel.Fault

/-! # Layouts and tables of block-sparse matrices

The layout says for every head, row and column whether a block is stored. A kernel that multiplies such a matrix with a dense
one walks over the stored blocks of a row in steps. Its table has a header of four numbers for every row, a pair of increments
for every step, in the dense operand and in the stored blocks, and zeros to read ahead. The first increment of a row is the
place itself. The softmax reads for every row the number of its blocks and of those before it, then the columns of all blocks.
-/

namespace TileKernel.BlockSparse

variable (l : Layout)

structure Layout where
  heads : Nat
  rows : Nat
  columns : Nat
  entry : Nat → Nat → Nat → Int

structure Block where
  head : Nat
  row : Nat
  column : Nat

def sumsBefore (start : Int) : List Int → List Int
  | [] => []
  | n :: ns => start :: sumsBefore (start + n) ns

namespace Layout

def transpose : Layout := ⟨l.heads, l.columns, l.rows, fun h m n => l.entry h n m⟩

def lines : List (Nat × Nat) := (List.range l.heads).flatMap fun h => (List.range l.rows).map fun m => (h, m)

def line (h m : Nat) : List Nat := (List.range l.columns).filter fun n => l.entry h m n != 0

def blocks : List Block := l.lines.flatMap fun (h, m) => (l.line h m).map fun n => ⟨h, m, n⟩

def lineSum (h m : Nat) : Int := ((List.range l.columns).map (l.entry h m)).foldr (· + ·) 0

def sizes : List Int := l.lines.map fun (h, m) => l.lineSum h m

def entries : List Int := l.lines.flatMap fun (h, m) => (List.range l.columns).map (l.entry h m)

def storedBefore : Array Int := (sumsBefore 0 (l.entries.map fun e => if e != 0 then 1 else 0)).toArray

def storageIndex (stored : Array Int) (b : Block) : Int :=
  (stored[(b.head * l.rows + b.row) * l.columns + b.column]?).getD 0

def counts : Bool :=
  (List.range l.heads).all fun h =>
    let es := (List.range l.rows).flatMap fun m => (List.range l.columns).map (l.entry h m)
    (es.countP (0 < ·) : Int) == max (es.foldr (· + ·) 0) 0

end Layout

/-! ## Tables -/

def waysFrom (last : Int) : List Int → List Int
  | [] => []
  | n :: ns => (n - last) :: waysFrom n ns

structure WalkTable where
  cells : List Int
  width : Nat

namespace WalkTable

structure Stride where
  parts : Nat
  dense : Int
  stored : Int

/-- The increments of a block whose way from the block before is `way`: the first one has to make up for the steps that were
already done. -/
def steps (parts : Nat) (step way : Int) : List Int :=
  (way - ((parts : Int) - 1) * step) :: List.replicate (parts - 1) step

def positionIn (count : Nat) (p : Int) : Int := if p < 0 then p + count else p

def increments (parts : Nat) (step scale : Int) (begins : List Int) (places : List Int) : List Int :=
  let ways := (places.zip (waysFrom 0 places)).zipIdx
  ways.flatMap fun ((place, way), i) =>
    match steps parts step (way * scale) with
    | first :: rest => (if begins.contains (i : Int) then place else first) :: rest
    | [] => []

def pairs : List Int → List Int → List Int
  | a :: as, b :: bs => a :: b :: pairs as bs
  | _, _ => []

def padding : List Int := List.replicate 20 0

/-- For every row of an oriented layout the first of its blocks; rows behind the last block get the last one. -/
def firsts : List Int := (sumsBefore 0 l.sizes).map fun n => min n ((l.blocks.length : Int) - 1)

/-- The headers: where the increments of a row begin, how far the kernel walks, and the row itself. -/
def headers (parts : Nat) (step : Int) : List Int :=
  let width := l.lines.length
  ((firsts l).zip (l.sizes.zip l.lines)).flatMap fun (first, size, h, m) =>
    [first * 2 * parts + 4 * width, size * step * parts, m, h]

def begins (step : Int) : List Int :=
  ((firsts l).zip l.sizes).filterMap fun (first, size) =>
    if 0 < size * step then some (positionIn l.blocks.length first) else none

def ofPlaces (block step : Int) (s : Stride) (stored : List Int) : WalkTable :=
  let bs := begins l step
  let dense := increments s.parts s.dense 1 bs (l.blocks.map fun b => (b.column : Int) * block)
  let sparse := increments s.parts s.stored (block * block) bs stored
  { cells := headers l s.parts step ++ pairs dense sparse ++ padding, width := l.lines.length }

/-- The table for walks along rows, or along columns. Blocks lie by rows, so along a column a step in a block is one of whole
rows. The step has to divide a block into at least one part. -/
def make (block step : Int) (byRows : Bool) : Result WalkTable := do
  if step = 0 then throw (.implicit .zeroDivision)
  let parts := block.fdiv step
  if parts < 0 then throw (.implicit .value)
  if parts = 0 then throw (.implicit .index)
  let oriented := if byRows then l else l.transpose
  if (begins oriented step).any fun p => p < 0 || oriented.blocks.length ≤ p.toNat then throw (.implicit .index)
  if byRows then
    return ofPlaces l block step ⟨parts.toNat, step, step⟩ ((List.range l.blocks.length).map fun (i : Nat) => (i : Int))
  else if !l.counts then throw (.implicit .value)
  else
    let before := l.storedBefore
    return ofPlaces oriented block step ⟨parts.toNat, step, step * block⟩
      (oriented.blocks.map fun b => l.storageIndex before ⟨b.head, b.column, b.row⟩)

end WalkTable

structure RowTable where
  cells : List Int
  longest : Int

namespace RowTable

def greatest? : List Int → Option Int
  | [] => none
  | n :: ns => some (ns.foldl max n)

def make (block : Int) : Result RowTable :=
  match greatest? (l.sizes.map (· * block)) with
  | none => refused .value
  | some longest =>
    let header := (l.sizes.zip (sumsBefore 0 l.sizes)).flatMap fun (size, before) => [size, before]
    .ok { cells := header ++ l.blocks.map fun b => (b.column : Int), longest }

end RowTable

end TileKernel.BlockSparse
