import TileKernel.Table
import TileKernel.Types.Scalar

/-! # Failures

How the typing rules, the kernel compiler and the constant evaluator refuse their input. `Fault.kind` is the class by which a
caller tells failures apart and `Fault.message?` the wording, which failures of evaluation itself, such as a missing attribute,
do not have.
-/

namespace TileKernel

inductive FaultKind where
  | value | type | assertion | missingAttribute | unknownName | key | index | zeroDivision | overflow | runtime
  | notImplemented | recursion | unboundLocal | badSource | incompatibleTypes | compilation | unsupportedConstruct
  | staticAssertion | outOfResources | exit | system | importing | missingModule | subprocess | exception | missingFile
  | linker | badJson | exhausted | other (name : String)
deriving DecidableEq, Inhabited

namespace FaultKind

def name : FaultKind → String
  | value => "ValueError"
  | type => "TypeError"
  | assertion => "AssertionError"
  | missingAttribute => "AttributeError"
  | unknownName => "NameError"
  | key => "KeyError"
  | index => "IndexError"
  | zeroDivision => "ZeroDivisionError"
  | overflow => "OverflowError"
  | runtime => "RuntimeError"
  | notImplemented => "NotImplementedError"
  | recursion => "RecursionError"
  | unboundLocal => "UnboundLocalError"
  | badSource => "SyntaxError"
  | incompatibleTypes => "IncompatibleTypeErrorImpl"
  | compilation => "CompilationError"
  | unsupportedConstruct => "UnsupportedLanguageConstruct"
  | staticAssertion => "CompileTimeAssertionFailure"
  | outOfResources => "OutOfResources"
  | exit => "SystemExit"
  | system => "OSError"
  | importing => "ImportError"
  | missingModule => "ModuleNotFoundError"
  | subprocess => "CalledProcessError"
  | exception => "Exception"
  | missingFile => "FileNotFoundError"
  | linker => "LinkerError"
  | badJson => "JSONDecodeError"
  | exhausted => "StopIteration"
  | other n => n

def known : List FaultKind :=
  [value, type, assertion, missingAttribute, unknownName, key, index, zeroDivision, overflow, runtime, notImplemented,
   recursion, unboundLocal, badSource, exit, system, importing, missingModule, exception, missingFile, exhausted]

def ofName (n : String) : FaultKind := (known.find? (·.name == n)).getD (other n)

end FaultKind

/-- A place in a source text: a line counted from 1 and a column counted in bytes from 0. -/
structure SourcePos where
  line : Int
  column : Int
deriving DecidableEq, Inhabited

inductive Fault where
  | evaluation (kind : FaultKind) (text : Option String)
  | assertion
  /-- A check with a wording, or a failure stated with its wording, outside the typing rules. -/
  | stated (kind : FaultKind) (text : String)
  | unknownInstruction (instruction : String)
  | outsideKernel
  | incompatibleOperands (a b : Ty)
  | mixedSignDivision (a b : Ty)
  | fdivNeedsFloats
  | unaryMinus (t : Ty)
  | unaryInvert (t : Ty)
  | rangeNotConstant
  | rangeTooWide
  | rangeEmpty
  | fillNotScalar
  | viewSize
  | reshapeUnsupported
  | catMayReorder
  | transposeRank
  | broadcastRank (source target : List Int)
  | broadcastSize (wanted have_ : Int) (axis : Nat) (source target : List Int)
  | incompatibleDims (axis : Nat) (left right : Int)
  | bitcastSize (source target : Nat)
  | fp8OnOldDevice
  | cannotCast (value target : String)
  | unsupportedOption (what value : String)
  | duplicateBoundary
  | blockPointerMask
  | blockPointerTruth
  | blockPointerNan
  | notAPointer (t : Ty) (operation : String)
  | otherWithoutMask
  | loadBoundary
  | storeBoundary
  | operandIsBlock (operand : String)
  | storeBlockOperand
  | storeBlockShape (block value : List Int)
  | storeBlockElement (block value : Ty)
  | maskNotBool
  | atomicNotAPointer (t : Ty)
  | atomicHalf (op : String)
  | atomicElement (op : String) (t : Ty)
  | casWidth
  | dotDtypes (a b : Ty)
  | dotFp8e4nv
  | dotFp8e4b15
  | dotFp8e4b15x4
  | dotSameType (a b : Ty)
  | dotIntegers (a : Ty)
  | dotFirstFp8 (a : Ty)
  | dotSecondFp8 (b : Ty)
  | dotUnsupported (a : Ty)
  | dotRank (which : String) (shape : List Int)
  | dotInner (a b : List Int) (k l : Int)
  | dotSmall (a b : List Int)
  | dotOnlyInt8
  | dotSmallBlocks
  | scanSingle
  | mathDtype (name : String)
  | unexpectedDtype (t : Ty)
  | hintRank (hint : String)
  | blockPtrScalar
  | blockPtrInteger
  | blockPtrElement (typeName : String)
  | blockPtrBase
  | blockPtrShape
  | blockPtrOrder
  | blockPtrLengths
  | integerTooLarge (n : Int)
  | notATensor (value typeName : String)
  | unknownDtype (name : String)
  | pointerElement
  | emptyShape
  | tooManyElements (n : Int)
  | tensorIndex (shown : String)
  | transposeProperty
  | elementNotConstant (what : String) (i : Nat)
  | elementNotInt (what : String) (i : Nat) (typeName : String)
  | invalidAxis (axis rank : Int)
  | duplicateAxes (axes : List Int)
  | printNotString (shown : String)
  | printNotAscii (text : String)
  | noSymbols
  | symbolArity (args expected : Nat)
  | symbolTypes (known : List (List Ty)) (types : List String)
  | xorSumIntegers
  | voidUnsupported
  | undefinedName (name : String)
  | reassignedConstant (name : String)
  | branchType (name : String) (initial redefined : Ty) (branch : String)
  | joinType (name : String) (thenTy elseTy : Ty)
  | loopCarriedNotTensor (name : String)
  | loopCarriedType (name : String) (initial redefined : Ty)
  | loopElse
  | whileElse
  | loopBounds (lower upper step : Ty)
  | loopIterator
  | staticAssertArgs
  | staticAssertUnknown
  | compile (kind : FaultKind) (source : Option String) (place : SourcePos) (text : Option String)
deriving DecidableEq, Inhabited

namespace Fault

def implicit (kind : FaultKind) : Fault := .evaluation kind none

/-- The lines of `source` up to the failing one, at most twelve, and a mark under its column. -/
def excerpt (source : Option String) (place : SourcePos) : String :=
  match source with
  | none => " <source unavailable>"
  | some s =>
    let lines := s.splitOn "\n"
    let kept := if place.line ≥ 0 then lines.take place.line.toNat else lines.take (lines.length - place.line.natAbs)
    let kept := kept.drop (kept.length - 12)
    if kept.isEmpty then " <source empty>"
    else "\n".intercalate (kept ++ [String.ofList (List.replicate place.column.toNat ' ') ++ "^"])

def compileReport (source : Option String) (place : SourcePos) (text : Option String) : String :=
  let report := s!"at {place.line}:{place.column}:{excerpt source place}"
  match text with
  | some t => if t.isEmpty then report else report ++ "\n" ++ t
  | none => report

def kind : Fault → FaultKind
  | .evaluation k _ => k
  | .stated k _ => k
  | .compile k _ _ _ => k
  | .unknownInstruction _ => .missingAttribute
  | .incompatibleOperands _ _ => .incompatibleTypes
  | .assertion | .fillNotScalar | .catMayReorder | .fp8OnOldDevice | .cannotCast _ _ | .duplicateBoundary
  | .blockPointerTruth | .storeBlockOperand | .storeBlockShape _ _ | .storeBlockElement _ _ | .dotDtypes _ _
  | .dotFp8e4nv | .dotFp8e4b15 | .dotFp8e4b15x4 | .dotSameType _ _ | .dotIntegers _ | .dotFirstFp8 _ | .dotSecondFp8 _
  | .dotUnsupported _ | .dotRank _ _ | .dotInner _ _ _ _ | .dotSmall _ _ | .dotOnlyInt8 | .dotSmallBlocks
  | .unexpectedDtype _ | .blockPtrScalar | .blockPtrInteger | .blockPtrElement _ | .blockPtrShape | .blockPtrOrder
  | .blockPtrLengths | .notATensor _ _ | .unknownDtype _ | .tensorIndex _ | .transposeProperty | .printNotString _
  | .printNotAscii _ | .branchType _ _ _ _ | .joinType _ _ _ | .loopCarriedNotTensor _ | .loopCarriedType _ _ _
  | .loopElse | .whileElse => .assertion
  | .pointerElement | .emptyShape | .elementNotConstant _ _ | .elementNotInt _ _ _ | .loopBounds _ _ _
  | .staticAssertArgs => .type
  | .integerTooLarge _ | .loopIterator | .voidUnsupported => .runtime
  | .undefinedName _ => .unknownName
  | .staticAssertUnknown => .notImplemented
  | _ => .value

def message : Fault → String
  | .evaluation _ t => t.getD ""
  | .assertion => ""
  | .stated _ t => t
  | .unknownInstruction i => s!"'builder' object has no attribute '{i}'"
  | .outsideKernel =>
    "Did you forget to add @triton.jit ? (`_builder` argument must be provided outside of JIT functions.)"
  | .incompatibleOperands a b => s!"invalid operands of type {a.detailed} and {b.detailed}"
  | .mixedSignDivision a b =>
    s!"Cannot use /, #, or % with {a.detailed} and {b.detailed} because they have different signedness;this is unlikely " ++
      "to result in a useful answer. Cast them to the same signedness."
  | .fdivNeedsFloats => "both operands of fdiv must have floating scalar type"
  | .unaryMinus t => s!"wrong type argument to unary minus ({t.detailed})"
  | .unaryInvert t => s!"wrong type argument to unary invert ({t.detailed})"
  | .rangeNotConstant => "arange's arguments must be of type tl.constexpr"
  | .rangeTooWide => "arange must fit in int32"
  | .rangeEmpty => "arange's end argument must be greater than the start argument"
  | .fillNotScalar => "only accepts size-1 tensor"
  | .viewSize => "cannot view block of different shape"
  | .reshapeUnsupported =>
    "`reshape` is not supported yet. Please use `view` instead if applicable. Note that view may reorder elements in an " ++
      "implementation- and context- dependent way."
  | .catMayReorder => "current implementation of `cat` always may reorder elements"
  | .transposeRank => "Only 2D tensors can be transposed"
  | .broadcastRank s t => s!"Cannot broadcast, rank mismatch: {Ty.shapeText s}, {Ty.shapeText t}"
  | .broadcastSize wanted have_ axis s t =>
    s!"Cannot broadcast, the expanded size of the tensor ({wanted}) must match the existing size ({have_}) at " ++
      s!"non-singleton dimension {axis}: {Ty.shapeText s}, {Ty.shapeText t}"
  | .incompatibleDims axis l r => s!"Cannot make_shape_compatible: incompatible dimensions at index {axis}: {l} and {r}"
  | .bitcastSize s t => s!"Cannot bitcast data-type of size {s} to data-type of size {t}"
  | .fp8OnOldDevice => "fp8e4nv data type is not supported on CUDA arch < 89"
  | .cannotCast v t => s!"cannot cast {v} to {t}"
  | .unsupportedOption what v => s!"{what} {v} not supported"
  | .duplicateBoundary => "Duplicate dimension in `boundary_check`"
  | .blockPointerMask => "`mask` and `other` arguments cannot be specified for loading block pointers"
  | .blockPointerTruth => "`tl.int1` should be rewrited in `tl.make_block_ptr`"
  | .blockPointerNan => "Padding option `nan` is not supported for integer block pointers"
  | .notAPointer t op => s!"Unsupported ptr type {t.detailed} in `tl.{op}`"
  | .otherWithoutMask => "`other` cannot be provided without `mask`"
  | .loadBoundary =>
    "`padding_option` or `boundary_check` argument is not supported for loading a tensor ofpointers or loading a scalar. " ++
      "Because the compiler does not know the boundary; please use block pointers (defined by `make_block_ptr`) instead"
  | .storeBoundary =>
    "`boundary_check` argument is not supported for storing a tensor of pointers or storing a scalar. Because the " ++
      "compiler does not know the boundary; please use block pointers (defined by `make_block_ptr`) instead"
  | .operandIsBlock op => s!"{op} argument cannot be block type if pointer argument is not a block"
  | .storeBlockOperand => "Value argument must be block type or a scalar"
  | .storeBlockShape b v => s!"Block shape({Ty.shapeText b}) and value shape({Ty.shapeText v}) mismatch"
  | .storeBlockElement b v => s!"Block element type({b.text}) and value element type({v.text}) mismatch"
  | .maskNotBool => "Mask must have boolean scalar type"
  | .atomicNotAPointer t => s!"Pointer argument of store instruction is {t.detailed}"
  | .atomicHalf op => s!"atomic_{op} does not support fp16"
  | .atomicElement op t => s!"atomic_{op} does not support {t.text}"
  | .casWidth => "atomic_cas only supports elements with width \x7b16, 32, 64\x7d"
  | .dotDtypes a b => s!"First input ({a.text}) and second input ({b.text}) must have the same dtype!"
  | .dotFp8e4nv => "Dot op does not support fp8e4nv on CUDA arch < 90"
  | .dotFp8e4b15 => "Dot op does not support fp8e4b15 on CUDA arch >= 90"
  | .dotFp8e4b15x4 => "Dot op does not support fp8e4b15x4 on CUDA arch >= 90"
  | .dotSameType a b => s!"Both operands must be same type. First operand ({a.text}) and second operand ({b.text})"
  | .dotIntegers a => s!"Both operands must be either int8 or uint8. Operand type ({a.text})"
  | .dotFirstFp8 a => s!"Only supports fp8e4nv or fp8e5. First operand ({a.text})"
  | .dotSecondFp8 b => s!"Only supports fp8e4nv or fp8e5. Second operand ({b.text})"
  | .dotUnsupported a => s!"Unsupported dtype {a.text}"
  | .dotRank which s => s!"{which} input shape ({constants s}) is not two dimensional!"
  | .dotInner a b k l =>
    s!"First input shape ({constants a}) and second input shape {constants b} are not compatible for matmul (second " ++
      s!"index of first shape ({k}) must be equal to first index of second shape ({l})"
  | .dotSmall a b =>
    s!"All values in both first input shape ({constants a}) and second input shape ({constants b}) must be >= 16!"
  | .dotOnlyInt8 => "only int8 supported!"
  | .dotSmallBlocks => "small blocks not supported!"
  | .scanSingle => "Current implementation only support single tensor input"
  | .mathDtype n => s!"Expected dtype ['fp32', 'fp64'] but got {n}"
  | .unexpectedDtype t => s!"Unexpected dtype {t.text}"
  | .hintRank h => s!"Shape of input to {h} does not match the length of values"
  | .blockPtrScalar => "Expected a scalar in shape/strides/offsets"
  | .blockPtrInteger => "Expected an integer scalar type in shape/strides/offsets"
  | .blockPtrElement n => s!"Unsupported element type in shape/strides/offsets: {n}"
  | .blockPtrBase => "Expected `base` to be a pointer type (but not a block pointer type or others)"
  | .blockPtrShape => "Expected a list of constant integers (`int32_t` range) in `block_shape`"
  | .blockPtrOrder => "Expected a permutation of (0, 1, ..., len(order)-1) in order"
  | .blockPtrLengths => "Expected shape/strides/offsets/block_shape to have the same length"
  | .integerTooLarge n => s!"Nonrepresentable integer {n}."
  | .notATensor v t => s!"cannot convert {v} of type {t} to tensor"
  | .unknownDtype n => n
  | .pointerElement => "element_ty is a \x7btype(element_ty).__name__\x7d."
  | .emptyShape => "0d block_type is forbidden"
  | .tooManyElements n => s!"numel ({n}) exceeds triton maximum tensor numel ({Ty.maxElements})"
  | .tensorIndex s => s!"unsupported tensor index: {s}"
  | .transposeProperty => "Transposition must be created by the AST Visitor"
  | .elementNotConstant what i => s!"{what} element {i} must have type `constexpr`"
  | .elementNotInt what i t => s!"{what} element {i} must have type `constexpr[int]`, got `constexpr[{t}]"
  | .invalidAxis a n => s!"invalid axis {a}. Expected {-n} <= axis < {n}"
  | .duplicateAxes axes => s!"expand_dims recieved duplicate axes, normalized axes = {Ty.shapeText axes}"
  | .printNotString s => s!"{s} is not string"
  | .printNotAscii s => s!"{s} is not an ascii string"
  | .noSymbols => "arg_type_symbol_dict is empty"
  | .symbolArity a n => s!"length of input args does not match.Expect {a}, got {n}"
  | .symbolTypes known types =>
    "input arg type does not match.Expect one of dict_keys(" ++
      Text.bracketed (known.map fun k => Text.parenthesised (k.map Ty.detailed)) ++ "), got " ++
      Text.parenthesised types
  | .xorSumIntegers => "xor_sum only supported for integers"
  | .voidUnsupported => "Not implemented"
  | .undefinedName n => s!"{n} is not defined"
  | .reassignedConstant n => s!"{n} is already defined. constexpr cannot be reassigned."
  | .branchType n i r b => s!"initial value for `{n}` is of type {i.text}, but the {b} block redefines it as {r.text}"
  | .joinType n t e => s!"mismatched type for {n} between then block ({t.text}) and else block ({e.text})"
  | .loopCarriedNotTensor n => s!"{n} is not tensor"
  | .loopCarriedType n i r =>
    s!"Loop-carried variable {n} has initial type {i.text} but is re-assigned to {r.text} in loop! Please make sure " ++
      "that the type stays consistent."
  | .loopElse => "Don't know what to do with else after for"
  | .whileElse => "Not implemented"
  | .loopBounds l u s => s!"For loop bounds and step must all be ints, are ({l.text}, {u.text}, {s.text})"
  | .loopIterator => "Only `range` and `static_range` iterators are currently supported"
  | .staticAssertArgs => "`static_assert` requires one or two positional arguments only"
  | .staticAssertUnknown =>
    "Assertion condition could not be determined at compile-time. Make sure that it depends only on `constexpr` values"
  | .compile _ source place text => compileReport source place text
where
  /-- A shape whose entries are written as constants. -/
  constants (s : List Int) : String := Text.bracketed (s.map fun d => s!"constexpr[{d}]")

/-- The wording of a failure; `none` where only its class is fixed. -/
def message? : Fault → Option String
  | .evaluation _ t => t
  | f => some f.message

def outOfResources (required limit name : String) : Fault :=
  .stated .outOfResources (s!"out of resource: {name}, Required: {required}, Hardware limit: {limit}. " ++
    "Reducing block sizes or `num_stages` may help.")

def embedded (f : Fault) : String :=
  f.kind.name ++
    match f.message? with
    | none => "(...)"
    | some "" => "()"
    | some m => s!"({Text.quoted m})"

end Fault

/-- Values by name, in the order in which they are given. -/
abbrev Named (ν : Type) : Type := List (String × ν)

abbrev Result : Type → Type := Except Fault

abbrev refused {α : Type} (kind : FaultKind) : Result α := .error (.implicit kind)

end TileKernel
