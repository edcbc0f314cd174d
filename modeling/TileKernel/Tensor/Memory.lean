import TileKernel.Tensor.Shape

/-! # Memory

Loads, stores and atomic updates. A pointer operand is a scalar pointer, a block of pointers, or a pointer to a block, which
carries the shape, strides and offsets of the array it walks over. Truth values are stored as bytes.
-/

namespace TileKernel

open IR

inductive CacheModifier where
  | none | ca | cg | wb | cs | wt

def CacheModifier.name : CacheModifier → String
  | .none => "NONE"
  | .ca => "CA"
  | .cg => "CG"
  | .wb => "WB"
  | .cs => "CS"
  | .wt => "WT"

inductive EvictionPolicy where
  | normal | evictFirst | evictLast

def EvictionPolicy.name : EvictionPolicy → String
  | .normal => "NORMAL"
  | .evictFirst => "EVICT_FIRST"
  | .evictLast => "EVICT_LAST"

inductive Padding where
  | zero | nan
deriving DecidableEq

def Padding.name : Padding → String
  | .zero => "PAD_ZERO"
  | .nan => "PAD_NAN"

inductive MemoryOrder where
  | acquireRelease | acquire | release | relaxed

def MemoryOrder.name : MemoryOrder → String
  | .acquireRelease => "ACQUIRE_RELEASE"
  | .acquire => "ACQUIRE"
  | .release => "RELEASE"
  | .relaxed => "RELAXED"

inductive AtomicOp where
  | add | max | min | and | or | xor | xchg
deriving DecidableEq

def AtomicOp.name : AtomicOp → String
  | .add => "add"
  | .max => "max"
  | .min => "min"
  | .and => "and"
  | .or => "or"
  | .xor => "xor"
  | .xchg => "xchg"

def AtomicOp.all : List AtomicOp := [.add, .max, .min, .and, .or, .xor, .xchg]

namespace Tensor

variable (ptr : Tensor)

def bytePointer : Emit Tensor :=
  match ptr.dtype with
  | .pointer e space => if e = .int1 then cast ptr (.pointer .int8 space) else pure ptr
  | _ => pure ptr

def pointee : Ty := ptr.dtype.pointee?.getD .void

def loadBlockPointer (block : Ty) (masked : Bool) (boundary : List Int → Result (List Int))
    (padding : Option Padding) (cache : CacheModifier) (eviction : EvictionPolicy) (isVolatile : Operand) : Emit Tensor := do
  if masked then throw .blockPointerMask
  let e := block.element
  if e = .int1 then throw .blockPointerTruth
  if e.isInt && padding == some .nan then throw .blockPointerNan
  let checks ← liftExcept (boundary (block.shape?.getD []))
  build .tensorPointerLoad [ptr.operand, .ofShape checks, (match padding with
    | some p => .option p.name
    | none => .absent), .option cache.name, .option eviction.name, isVolatile] block

def loadPointers (mask other : Option Tensor) (bounded : Bool) (cache : CacheModifier)
    (eviction : EvictionPolicy) (isVolatile : Operand) : Emit Tensor := do
  if !ptr.dtype.isPtr then throw (.notAPointer ptr.type "load")
  if mask.isNone && other.isSome then throw .otherWithoutMask
  if bounded then throw .loadBoundary
  let (mask, other) ← match ptr.type.shape? with
    | none => do
      if mask.any (·.type.isBlock) then throw (.operandIsBlock "Mask")
      if other.any (·.type.isBlock) then throw (.operandIsBlock "Other")
      pure (mask, other)
    | some shape => do
      let mask ← mask.mapM (broadcastTo · shape)
      let other ← other.mapM (broadcastTo · shape)
      pure (mask, other)
  let ptr ← bytePointer ptr
  let e := ptr.pointee
  let other ← other.mapM (cast · e)
  let ty ← match ptr.type.shape? with
    | some shape => blockTy e shape
    | none => pure e
  match mask with
  | none => build .load [ptr.operand, .option cache.name, .option eviction.name, isVolatile] ty
  | some mask =>
    let other := match other with
      | some t => t.operand
      | none => .absent
    build .maskedLoad [ptr.operand, mask.operand, other, .option cache.name, .option eviction.name, isVolatile] ty

def storeBlockPointer (ptr value : Tensor) (block : Ty) (masked : Bool)
    (boundary : List Int → Result (List Int)) (cache : CacheModifier) (eviction : EvictionPolicy) : Emit Tensor := do
  if masked then throw .blockPointerMask
  let shape := block.shape?.getD []
  let value ← if value.type.isBlock then pure value else broadcastTo value shape
  if value.shape ≠ shape then throw (.storeBlockShape shape value.shape)
  if block.element ≠ value.dtype then throw (.storeBlockElement block.element value.dtype)
  if block.element = .int1 then throw .blockPointerTruth
  let checks ← liftExcept (boundary shape)
  effect .tensorPointerStore [ptr.operand, value.operand, .ofShape checks, .option cache.name, .option eviction.name]

def storePointers (ptr value : Tensor) (mask : Option Tensor) (bounded : Bool) (cache : CacheModifier)
    (eviction : EvictionPolicy) : Emit Tensor := do
  if !ptr.dtype.isPtr then throw (.notAPointer ptr.type "store")
  if bounded then throw .storeBoundary
  let (value, mask) ← match ptr.type.shape? with
    | none => do
      if value.type.isBlock then throw (.operandIsBlock "Value")
      if mask.any (·.type.isBlock) then throw (.operandIsBlock "Mask")
      pure (value, mask)
    | some shape => do
      let value ← broadcastTo value shape
      let mask ← mask.mapM (broadcastTo · shape)
      pure (value, mask)
  let ptr ← bytePointer ptr
  let value ← cast value ptr.pointee
  match mask with
  | none => effect .store [ptr.operand, value.operand, .option cache.name, .option eviction.name]
  | some mask =>
    if !mask.dtype.isBool then throw .maskNotBool
    effect .maskedStore [ptr.operand, value.operand, mask.operand, .option cache.name, .option eviction.name]

def atomicCas (ptr expected value : Tensor) (order : MemoryOrder) : Emit Tensor := do
  match ptr.dtype.pointee? with
  | some (.scalar s) =>
    if !([16, 32, 64].contains s.bits) then throw .casWidth
    build .atomicCas [ptr.operand, expected.operand, value.operand, .option order.name] value.type
  | _ => throw (.implicit .missingAttribute)

def atomicElement (target : Target) (op : AtomicOp) (ptr : Tensor) : Result Ty :=
  match ptr.dtype.pointee? with
  | none => .error (.atomicNotAPointer ptr.type)
  | some e =>
    if e = .fp16 ∧ target.ownTypes = true ∧ op ≠ .add then .error (.atomicHalf op.name)
    else if e = .int1 ∨ e = .int8 ∨ e = .int16 ∨ e = .bf16 then .error (.atomicElement op.name e)
    else .ok e

def atomicOperands (op : AtomicOp) (ptr value : Tensor) (mask : Option Tensor) : Emit (Tensor × Option Tensor) := do
  let e ← liftExcept (atomicElement (← Emit.target) op ptr)
  let (mask, value) ← match ptr.type.shape? with
    | some shape => do
      let mask ← mask.mapM (broadcastTo · shape)
      let value ← broadcastTo value shape
      pure (mask, value)
    | none => pure (mask, value)
  let value ← cast value e
  return (value, mask)

def fullMask : Emit Tensor := do
  let v ← build .getInt1 [.bool true] .int1
  match ptr.type.shape? with
  | some shape => splat v shape
  | none => pure v

def atomicRmw (name : String) (ptr value mask : Tensor) (order : MemoryOrder) : Emit Tensor :=
  build .atomicRmw [.option name, ptr.operand, value.operand, mask.operand, .option order.name] value.type

/-- What an update of a floating-point number works with: the value and the pointer as integers, and where the value is not
negative and where it is. -/
structure FloatUpdate where
  value : Tensor
  ptr : Tensor
  positive : Tensor
  negative : Tensor

def floatUpdate (ptr value : Tensor) : Emit FloatUpdate := do
  let iValue ← bitcast value .int32
  let iPtr ← bitcast ptr (.pointer .int32 1)
  let zero ← build .getFp32 [.int 0] value.dtype
  let positive ← compare .ge value zero
  let zero' ← build .getFp32 [.int 0] value.dtype
  let negative ← compare .lt value zero'
  return { value := iValue, ptr := iPtr, positive, negative }

/-- The larger or smaller of two floating-point numbers, found on their bit patterns: patterns of numbers that are not
negative are ordered as signed integers, those of negative ones the other way round as unsigned integers. -/
def atomicFloatExtremum (signedName unsignedName : String) (ptr value mask : Tensor) (order : MemoryOrder) : Emit Tensor := do
  let u ← floatUpdate ptr value
  let positiveMask ← and mask u.positive
  let fromPositive ← atomicRmw signedName u.ptr u.value positiveMask order
  let negativeMask ← and mask u.negative
  let fromNegative ← atomicRmw unsignedName u.ptr u.value negativeMask order
  select u.positive fromPositive fromNegative

def atomic (op : AtomicOp) (ptr value mask : Tensor) (order : MemoryOrder) : Emit Tensor :=
  let e := value.dtype
  match op with
  | .add => atomicRmw (if e.isFloating then "FADD" else "ADD") ptr value mask order
  | .and => atomicRmw "AND" ptr value mask order
  | .or => atomicRmw "OR" ptr value mask order
  | .xor => atomicRmw "XOR" ptr value mask order
  | .xchg => atomicRmw "XCHG" ptr value mask order
  | .max =>
    if e.isInt then atomicRmw (if e.isSignedInt then "MAX" else "UMAX") ptr value mask order
    else atomicFloatExtremum "MAX" "UMIN" ptr value mask order
  | .min =>
    if e.isInt then atomicRmw (if e.isSignedInt then "MIN" else "UMIN") ptr value mask order
    else atomicFloatExtremum "MIN" "UMAX" ptr value mask order

def makeBlockPtr (base : Tensor) (shape strides offsets : List Operand) (blockShape order : List Int) : Emit Tensor := do
  let element := base.type.pointee?.getD .void
  let v ← Emit.op .makeBlockPtr
    [base.operand, .list shape, .list strides, .list offsets, .ofShape blockShape, .ofShape order]
  return ⟨some v, .ptr (← blockTy element blockShape)⟩

def advance (base : Tensor) (offsets : List Operand) : Emit Tensor :=
  build .advance [base.operand, .list offsets] base.type

end Tensor

end TileKernel
