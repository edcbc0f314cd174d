import TileKernel.BlockSparse.Tables
import TileKernel.Host.Program
import TileKernel.Kernels.BlockSparse

/-! # Products and softmax of block-sparse matrices

A product with a block-sparse matrix has a mode of three letters, for the result and for each operand: `s` for sparse and `d`
for dense. The tables that the kernels walk by are made once for a layout. The derivatives of a product are products of the
other modes.
-/

namespace TileKernel.Host.BlockSparse

open Strided TileKernel.BlockSparse

def places : List Nat → List (List Nat)
  | [] => [[]]
  | n :: ns => (List.range n).flatMap fun i => (places ns).map (i :: ·)

variable (t : Tensor) (k : Kept)

def known : Host (List Element) := need .runtime t.view.elements?

def layoutOf : Host Layout := do
  match t.shape with
  | [h, m, n] =>
    let es := (← known t).toArray
    return ⟨h, m, n, fun i j k => ((es[(i * m + j) * n + k]?).map Element.toWhole).getD 0⟩
  | _ => refuse .index

def narrow (ns : List Int) : List Element := ns.map fun n => Element.convert .int32 (.whole n)

def table (device : String) (shape : List Nat) (ns : List Int) : Host Value := do
  return ← own { View.ofElements .int32 shape (narrow ns) with device }

def placesTable (layout : Tensor) : Host (Value × Value) := do
  let stored := ((places layout.shape).zip (← known layout)).filter fun (_, e) => e.isTrue
  let cells := stored.flatMap fun (p, _) => p.map fun (i : Nat) => (i : Int)
  return (← table layout.view.device [stored.length, layout.shape.length] cells, .none)

def walkTable (layout : Tensor) (block step : Int) (byRows : Bool) : Host (Value × Value) := do
  let t ← check (WalkTable.make (← layoutOf layout) block step byRows)
  return (← table layout.view.device [t.cells.length] t.cells, t.width)

/-! ## Products -/

inductive Mode where
  | result
  | left
  | right

namespace Mode

def ofName? : String → Option Mode
  | "sdd" => some result
  | "dsd" => some left
  | "dds" => some right
  | _ => none

def ofLeft : Mode → Mode
  | result => left
  | left => result
  | right => right

def ofRight : Mode → Mode
  | result => right
  | left => left
  | right => result

end Mode

structure Transposed where
  left : Bool := false
  right : Bool := false
  result : Bool := false

def strideAt (i : Nat) : Host Int := need .index t.view.strides[i]?

def aligned : Host Tensor := do
  if (← strideAt t 2) != 1 && (← strideAt t 3) != 1 then compact t else pure t

def orientedStrides (exchanged : Bool) : Host (List Value) := do
  let order := if exchanged then [0, 1, 3, 2] else [0, 1, 2, 3]
  order.mapM fun i => do return .int (← strideAt t i)

def resultOf (out : Value) (type : ElementType) (shape : List Nat) : Host Tensor := do
  if out.isNone then blank type shape
  else
    let c ← tensor out
    demand (c.shape == shape) ""
    return c

def toSparse (a b : Tensor) (t : Transposed) (block : Nat) (lut out : Value) : Host Tensor := do
  let a ← aligned a
  let b ← aligned b
  let (a, b, ta, tb) := if t.result then (b, a, !t.right, !t.left) else (a, b, t.left, t.right)
  let ka ← dimensionFromEnd a (if ta then 1 else 0)
  let kb ← dimensionFromEnd b (if tb then 0 else 1)
  if ka != kb then complain .value s!"Inner dimension mismatch (A: {ka} vs B: {kb})"
  let rows ← dimension (← tensor lut) 0
  let c ← resultOf out a.type [a.size 0, rows, block, block]
  launch "_sdd_kernel" (.ofSizes [rows, 1, a.size 0])
    (.flatten [[a, b, c], ← orientedStrides a ta, ← orientedStrides b tb, ← orientedStrides c false, [ka, 0, lut]])
    [("TILE_M", block), ("TILE_N", block), ("TILE_K", 32), ("BLOCK", block), ("num_stages", 4), ("num_warps", 4),
     ("EVEN_K", ka % 32 == 0)]
  return c

def fromSparse (a b : Tensor) (t : Transposed) (dims : List Nat) (block : Nat) (lut width out : Value) : Host Tensor := do
  let a ← aligned a
  let b ← aligned b
  let lines := block * (← need .index dims[if t.left then 2 else 1]?)
  let columns ← dimension b (if t.right then 2 else 3)
  let c ← resultOf out a.type ([b.size 0, b.size 1] ++ if t.result then [columns, lines] else [lines, columns])
  let grid : Grid := .computed fun bs => do
    match width.int? with
    | some w => return [← Grid.ceilDiv columns (← Grid.argument bs "TILE_N"), w, b.size 0]
    | none => refused .type
  launch "_dsd_kernel" grid
    (.flatten [[a, b, c], ← orientedStrides a t.left, ← orientedStrides b t.right, ← orientedStrides c t.result,
      [columns, lines, lut]])
    [("TILE_M", block), ("TILE_N", 128), ("TILE_K", .nat (min block 32)), ("BLOCK", block), ("num_stages", 4), ("num_warps", 4),
     ("GROUP_SIZE_M", 4)]
  return c

def multiply (mode : Mode) (a b : Tensor) (t : Transposed) (dims : List Nat) (block : Nat) (lut width out : Value) : Host Tensor :=
  match mode with
  | .result => toSparse a b t block lut out
  | .left => fromSparse a b t dims block lut width out
  | .right => fromSparse b a ⟨!t.right, !t.left, !t.result⟩ dims block lut width out

def tables (mode : Mode) (layout : Tensor) (block : Int) (t : Transposed) : Host (Named Value) := do
  let walk (byRows : Bool) := walkTable layout block (min block 32) byRows
  let stored := placesTable layout
  let (c, da, db) := match mode with
    | .result => (stored, walk true, walk false)
    | .left => (walk (!t.left), stored, walk t.left)
    | .right => (walk t.right, walk (!t.right), stored)
  let (c, cWidth) ← c
  let (da, daWidth) ← da
  let (db, dbWidth) ← db
  return [("c_lut", c), ("c_width", cWidth), ("da_lut", da), ("da_width", daWidth), ("db_lut", db), ("db_width", dbWidth)]

def makeProduct : Function :=
  .plain ["layout", "block", "mode", "device", opt "trans_a" false, opt "trans_b" false, opt "trans_c" false]
    fun layout block mode _ transA transB transC => do
      match (mode.str?).bind Mode.ofName? with
      | none => complain .notImplemented "Supported modes are: sdd, dsd, dds"
      | some m =>
        let t ← tensor layout
        let ts ← tables m t (← integer block) ⟨transA.truth, transB.truth, transC.truth⟩
        return .object "triton.ops.blocksparse.matmul.matmul"
          ([("block", block), ("mode", mode), ("trans_a", transA), ("trans_b", transB), ("trans_c", transC),
            ("layout", layout), ("spdims", .tuple (t.shape.map .nat))] ++ ts)

structure Kept where
  get : String → Value

namespace Kept

def transposed : Transposed := ⟨(k.get "trans_a").truth, (k.get "trans_b").truth, (k.get "trans_c").truth⟩

def mode : Mode := (((k.get "mode").str?).bind Mode.ofName?).getD .result

def dims : Host (List Nat) := do (← items (k.get "spdims")).mapM size

end Kept

def callProduct : Function := .plain ["self", "a", "b", opt "out" .none] fun self a b out => do
  let fields ← fieldsOf self
  let k : Kept := ⟨.of fields⟩
  let a ← tensor a
  let b ← tensor b
  let c ← multiply k.mode a b k.transposed (← k.dims) (← size (k.get "block")) (k.get "c_lut") (k.get "c_width") out
  return .differentiable c (.object "_matmul" (fields ++ [("a", Value.tensor a), ("b", b)]))

def deriveProduct (get : String → Value) (dc : Tensor) : Host Unit := do
  let k : Kept := ⟨get⟩
  let t := k.transposed
  let a ← tensor (get "a")
  let b ← tensor (get "b")
  let block ← size (get "block")
  let dims ← k.dims
  if a.requiresGrad then
    let _ ← multiply k.mode.ofLeft dc b ⟨t.result, !t.right, t.left⟩ dims block (get "da_lut") (get "da_width") .none
  if b.requiresGrad then
    let _ ← multiply k.mode.ofRight a dc ⟨!t.left, t.result, t.right⟩ dims block (get "db_lut") (get "db_width") .none

def productFunction (mode : Mode) : Function :=
  .plain ["a", "b", "trans_a", "trans_b", "trans_c", "spdims", "block", "lut", "width", opt "out" .none]
    fun a b transA transB transC dims block lut width out => do
      let dims ← (← items dims).mapM size
      return ← multiply mode (← tensor a) (← tensor b) ⟨transA.truth, transB.truth, transC.truth⟩ dims (← size block) lut
        width out

def products : Program := {
  load := loadKernels Kernels.blockSparseProduct
  functions := [
    ("matmul", makeProduct),
    ("sdd_matmul", productFunction .result), ("dsd_matmul", productFunction .left), ("dds_matmul", productFunction .right),
    ("sdd_lut", .plain ["layout", "block", "device"] fun layout _ _ => do
      let (t, w) ← placesTable (← tensor layout)
      return .tuple [t, w]),
    ("dsd_lut", .plain ["layout", "block", "step", "trans", "device"] fun layout block step trans _ => do
      let (t, w) ← walkTable (← tensor layout) (← integer block) (← integer step) trans.truth
      return .tuple [t, w])]
  methods := [("__call__", callProduct), ("backward", backwardMethod fun _ => deriveProduct)] }

/-! ## Softmax -/

def warps (n : Int) : Int := if n ≤ 128 then 1 else if n ≤ 256 then 2 else if n ≤ 512 then 4 else if n ≤ 4096 then 8 else 16

def rowTable (layout : Tensor) (block : Int) : Host (Value × Value) := do
  let t ← check (RowTable.make (← layoutOf layout) block)
  return (← table layout.view.device [t.cells.length] t.cells, t.longest)

def makeSoftmax : Function :=
  .plain ["layout", "block", "device", opt "is_dense" false] fun layout block _ dense => do
    let t ← tensor layout
    let (lut, longest) ← rowTable t (← integer block)
    return .object "triton.ops.blocksparse.softmax.softmax" [("spdims", .tuple (t.shape.map .nat)), ("layout", layout),
      ("block", block), ("lut", lut), ("maxlut", longest), ("is_dense", dense)]

def powerOf (n : Value) : Host Value :=
  match n with
  | .plain v => do return .plain (← check (Lowering.Builtins.nextPowerOf2 v))
  | _ => refuse .type

def settings : Host (Named Value) := do
  let longest := k.get "maxlut"
  return [("BLOCK_SIZE", k.get "block"), ("ROW_SIZE", ← powerOf longest), ("IS_DENSE", k.get "is_dense"),
    ("num_warps", warps (← integer longest))]

def softmaxGrid (matrices : Nat) : Host Grid := do
  match ← k.dims with
  | h :: m :: _ => return .ofSizes [h, m * (← integer (k.get "block")), matrices]
  | _ => refuse .index

def callSoftmax : Function := { Function.plain
  ["self", "a", opt "scale" (.float (decimal 1 0)), opt "rel_logits" .none, opt "is_causal" false]
  (fun self a scale logits causal => do
    let fields ← fieldsOf self
    let k : Kept := ⟨.of fields⟩
    let a ← tensor a
    let relative ← if logits.isNone then pure none else some <$> tensor logits
    if let some r := relative then
      if r.type != a.type then complain .value ("relative position embedding must be " ++ a.type.text)
    let scale ← match scale.tensor? with
      | some s => do
        demand (s.view.device == "cpu") ""
        match ← check s.view.item with
        | .whole n => pure (Value.int n)
        | .real x => pure (Value.float x)
      | none => pure scale
    let grid ← softmaxGrid k (← dimension a 0)
    let relativeShape := (relative.map fun r => r.shape.map Value.nat).getD (List.replicate 4 1)
    let strides := (relative.map fun r => r.view.strides.map Value.int).getD (List.replicate 4 1)
    let out ← blankLike a
    launch "_blocksparse_softmax_fwd" grid
      [out, a, a.stride 0, k.get "lut", logits, relativeShape.getLastD .none, strides.getD 0 .none, strides.getD 1 .none,
       scale, causal] (← settings k)
    return .differentiable out (.object "_softmax" (fields ++ [("out", Value.tensor out), ("scale", scale),
      ("rel_shape", .tuple relativeShape), ("rel_strides", .tuple strides), ("is_causal", causal)]))) with
  leading := some 2 }

def deriveSoftmax (get : String → Value) (dout : Tensor) : Host Unit := do
  let k : Kept := ⟨get⟩
  let out ← tensor (get "out")
  let grid ← softmaxGrid k (out.size 0)
  let da ← blankLike dout
  let shape ← items (get "rel_shape")
  let strides ← items (get "rel_strides")
  launch "_blocksparse_softmax_bwd" grid
    [da, da.stride 0, dout, dout.stride 0, out, out.stride 0, get "scale", get "lut", .none, shape.getLastD .none,
     strides.getD 0 .none, strides.getD 1 .none, strides.getD 2 .none, get "is_causal"] (← settings k)

def softmax : Program := {
  load := loadKernels Kernels.blockSparseSoftmax
  functions := [
    ("num_warps", .plain ["n"] fun n => do return warps (← integer n)),
    ("_softmax.make_lut", .plain ["layout", "block", "device"] fun layout block _ => do
      let (t, longest) ← rowTable (← tensor layout) (← integer block)
      return .tuple [t, longest]),
    ("softmax", makeSoftmax)]
  methods := [("__call__", callSoftmax), ("backward", backwardMethod fun _ => deriveSoftmax)] }

end TileKernel.Host.BlockSparse
