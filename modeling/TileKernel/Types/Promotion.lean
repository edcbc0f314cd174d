import TileKernel.Fault

/-! # Promotion of operand types

The type in which a binary operation is computed, from the types of its operands. Of two integer types of one signedness the
wider wins, and an unsigned type wins over a signed one that is no wider. Floating-point types win over integers; a quotient
of half-precision numbers is computed in single precision.
-/

namespace TileKernel.Types

def intInfo? (t : Ty) : Option (Nat × Signedness) := do
  let s ← t.scalar?
  return (← s.intBits?, ← s.signedness?)

def integerPromote (a b : Ty) : Result Ty :=
  match intInfo? a, intInfo? b with
  | some (wa, sa), some (wb, sb) =>
    if sa = sb then .ok (if wa > wb then a else b)
    else match sa with
      | .unsigned => .ok (if wa ≥ wb then a else b)
      | .signed => .ok (if wb ≥ wa then b else a)
  | _, _ => refused .missingAttribute

/-- The type in which an arithmetic operation on two operand types is computed; `division` marks quotients and remainders,
which need operands of one signedness and do not exist in half precision. -/
def computationType (a b : Ty) (division : Bool) : Result Ty :=
  if a = .fp64 ∨ b = .fp64 then .ok .fp64
  else if a = .fp32 ∨ b = .fp32 then .ok .fp32
  else if a = .fp16 ∨ b = .fp16 then .ok (if division then .fp32 else .fp16)
  else if a = .bf16 ∨ b = .bf16 then
    .ok (if division then .fp32 else if a = .bf16 ∧ b = .bf16 then .bf16 else .fp32)
  else match intInfo? a, intInfo? b with
    | some (_, sa), some (_, sb) =>
      if division ∧ sa ≠ sb then .error (.mixedSignDivision a b) else integerPromote a b
    | _, _ => .error .assertion

/-- A pointer operand is accepted only where pointers are allowed, and then not beside another kind of pointer or a
floating-point number. -/
def checkPointerOperand (a b : Ty) (allowed : Bool) : Result Unit :=
  if a.isPtr then
    if ¬ allowed then .error (.incompatibleOperands a b)
    else if b.isPtr ∧ a ≠ b then .error (.incompatibleOperands a b)
    else if b.isFloating then .error (.incompatibleOperands a b)
    else .ok ()
  else .ok ()

/-! ## Mangled names

An instance of a device function is named by the function, the types of its run-time arguments and the values of its constant
ones, a kernel by a suffix that lists the arguments and what is known about each.
-/

def mangleTy : Ty → Result String
  | .pointer e _ => do return "P" ++ (← mangleTy e)
  | .block e shape => do return (← mangleTy e) ++ "S" ++ "_".intercalate (shape.map toString) ++ "S"
  | .scalar s =>
    match s.intBits?, s.signedness? with
    | some w, some .signed => .ok ("i" ++ toString w)
    | some w, some .unsigned => .ok ("u" ++ toString w)
    | _, _ => if s.isFloating then .ok s.name else .error .voidUnsupported

def mangleChar : Char → String
  | '.' => "_d_"
  | '\'' => "_sq_"
  | '[' => "_"
  | ']' => "_"
  | c => c.toString

/-- The name of an instance of `name`: argument types, then each constant argument by position and text. -/
def mangleFn (name : String) (args : List Ty) (constants : List (Nat × String)) : Result String := do
  let types ← args.mapM mangleTy
  let sorted := constants.mergeSort fun a b => a.1 ≤ b.1
  let text := "_".intercalate (sorted.map fun (i, c) => toString i ++ "c" ++ c)
  return name ++ "__" ++ "_".intercalate types ++ "__" ++ text.toList.foldl (fun acc c => acc ++ mangleChar c) ""

structure Specialization where
  divisibleBy16 : List Int := []
  equalTo1 : List Int := []
  idsOfFoldedArgs : List Int := []
  divisibleBy8 : List Int := []
deriving DecidableEq

/-- The suffix of a kernel's name: every position, with `c` if the argument is 1, `d` if divisible by 16, `e` by 8. -/
def kernelSuffix (arity : Nat) (spec : Specialization) : String :=
  (List.range arity).foldl (fun acc (n : Nat) =>
    let i : Int := n
    acc ++ toString n ++ (if spec.equalTo1.contains i then "c" else "") ++
      (if spec.divisibleBy16.contains i then "d" else "") ++ (if spec.divisibleBy8.contains i then "e" else "")) ""

def signatureScalars : Named Scalar :=
  [("fp8e4nv", .fp8e4nv), ("fp8e4b8", .fp8e4b8), ("fp8e5", .fp8e5), ("fp8e5b16", .fp8e5b16), ("fp8e4b15", .fp8e4b15),
   ("fp8e4b15x4", .fp8e4b15x4), ("fp16", .fp16), ("bf16", .bf16), ("fp32", .fp32), ("fp64", .fp64), ("i1", .int1),
   ("i8", .int8), ("i16", .int16), ("i32", .int32), ("i64", .int64), ("u8", .uint8), ("u16", .uint16), ("u32", .uint32),
   ("u64", .uint64), ("B", .int1)]

/-- The type that a signature entry names: stars for pointers, then a short name. -/
def ofSignature (s : String) : Result Ty := go s.toList
where
  go : List Char → Result Ty
    | [] => refused .index
    | '*' :: rest => do return .ptr (← go rest)
    | cs =>
      match signatureScalars.lookup (String.ofList cs) with
      | some t => .ok (.scalar t)
      | none => refused .key

end TileKernel.Types
