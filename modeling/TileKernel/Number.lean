/-! # Binary64 numbers

Kernel constants are 64-bit binary floating-point numbers. They are kept as their bit pattern, so that two numbers are the
same value exactly when they are the same word; exact questions are answered in `Nat` and `Int` arithmetic on the significand
and exponent.
-/

namespace TileKernel

/-- A 64-bit binary floating-point number, held as its bit pattern. -/
structure Binary64 where
  bits : UInt64
deriving DecidableEq

namespace Binary64

variable (x y : Binary64)

def toFloat : Float := Float.ofBits x.bits

def ofFloat (x : Float) : Binary64 := ⟨x.toBits⟩

def negative : Bool := x.bits >>> 63 == 1

def exponentField : Nat := ((x.bits >>> 52) &&& 0x7ff).toNat

def fractionField : Nat := (x.bits &&& 0xfffffffffffff).toNat

def isNaN : Bool := x.exponentField == 0x7ff && x.fractionField != 0

def isInf : Bool := x.exponentField == 0x7ff && x.fractionField == 0

def isFinite : Bool := x.exponentField != 0x7ff

def isZero : Bool := x.exponentField == 0 && x.fractionField == 0

def significand : Nat :=
  if x.exponentField == 0 then x.fractionField else x.fractionField + Nat.pow 2 52

/-- Binary exponent of a finite number: its magnitude is `significand * 2 ^ scale`. -/
def scale : Int :=
  if x.exponentField == 0 then -1074 else (x.exponentField : Int) - 1075

def zero : Binary64 := ⟨0⟩

def infinity : Binary64 := ⟨0x7ff0000000000000⟩

def nan : Binary64 := ⟨0x7ff8000000000000⟩

def neg : Binary64 := ⟨x.bits ^^^ 0x8000000000000000⟩

def abs : Binary64 := ⟨x.bits &&& 0x7fffffffffffffff⟩

/-- A finite number as an exact fraction: numerator and positive denominator. -/
def toFraction : Int × Nat :=
  let m : Int := if x.negative then -(x.significand : Int) else x.significand
  if x.scale ≥ 0 then (m * Nat.pow 2 x.scale.toNat, 1) else (m, Nat.pow 2 (-x.scale).toNat)

def roundDiv (n d : Nat) : Nat :=
  let q := n / d
  let r := n % d
  if 2 * r < d then q else if 2 * r > d then q + 1 else if q % 2 == 0 then q else q + 1

def bitLength (n : Nat) : Nat := if n == 0 then 0 else n.log2 + 1

def unitPlaces : Nat := 1074

/-- The magnitude nearest to `n / d`, ties to even; `none` when it is too large to be finite. -/
def ofPositiveRatio? (n d : Nat) : Option UInt64 :=
  let n := n * Nat.pow 2 unitPlaces
  -- counted in `2 ^ s` of the smallest unit the quotient has 53 digits, or fewer in the smallest unit itself
  let s := bitLength (n / d) - 53
  let w := s * Nat.pow 2 52 + roundDiv n (d * Nat.pow 2 s)
  if w < infinity.bits.toNat then some w.toUInt64 else none

def ofRatio? (n : Int) (d : Nat) : Option Binary64 :=
  (ofPositiveRatio? n.natAbs d).map fun w => if n < 0 then ⟨w ^^^ 0x8000000000000000⟩ else ⟨w⟩

def ofInt? (n : Int) : Option Binary64 := ofRatio? n 1

def truncate : Int :=
  let (a, b) := x.toFraction
  a.tdiv b

def floor : Int :=
  let (a, b) := x.toFraction
  a.fdiv b

def ceil : Int :=
  let (a, b) := x.toFraction
  Int.neg ((-a).fdiv b)

def add : Binary64 := ofFloat (x.toFloat + y.toFloat)

def sub : Binary64 := ofFloat (x.toFloat - y.toFloat)

def mul : Binary64 := ofFloat (x.toFloat * y.toFloat)

def div : Binary64 := ofFloat (x.toFloat / y.toFloat)

def lt : Bool := x.toFloat < y.toFloat

def le : Bool := x.toFloat ≤ y.toFloat

def eq : Bool := x.toFloat == y.toFloat

/-- Remainder of truncated division of finite numbers, exact; it has the sign of `x`. -/
def truncRem : Binary64 :=
  if x.isNaN || y.isNaN || x.isInf || y.isZero then nan
  else if y.isInf then x
  else
    let (a, b) := x.toFraction
    let (c, d) := y.toFraction
    let n := (a * d).tmod (c * b)
    if n == 0 then (if x.negative then zero.neg else zero)
    else (ofRatio? n (b * d)).getD nan

/-- Remainder that takes the sign of the divisor; `y` is not zero. -/
def floorMod : Binary64 :=
  let r := truncRem x y
  if r.isNaN then r
  else if r.isZero then (if y.negative then zero.neg else zero)
  else if r.negative != y.negative then add r y
  else r

/-- Quotient rounded toward minus infinity, computed from the remainder; `y` is not zero. -/
def floorDiv : Binary64 :=
  let r := truncRem x y
  let d := div (sub x r) y
  let d := if !r.isZero && !r.isNaN && r.negative != y.negative then sub d (ofFloat 1.0) else d
  if d.isNaN || d.isInf then d
  else if d.isZero then (if (div x y).negative then zero.neg else zero)
  else
    let f := ofFloat d.toFloat.floor
    if lt (ofFloat 0.5) (sub d f) then add f (ofFloat 1.0) else f

def pow : Binary64 := ofFloat (Float.pow x.toFloat y.toFloat)

end Binary64

/-! ## Narrow formats -/

structure Narrow where
  digits : Nat
  /-- The exponent of the smallest positive number, which is a power of two. -/
  least : Int
  /-- Every finite number of the format is below two to this power. -/
  limit : Int

namespace Narrow

def half : Narrow := ⟨11, -24, 16⟩

def single : Narrow := ⟨24, -149, 128⟩

def brain : Narrow := ⟨8, -133, 128⟩

def unit (f : Narrow) (x : Binary64) : Int :=
  max f.least (x.scale + Binary64.bitLength x.significand - f.digits)

/-- The number of a format nearest to a number, ties to the even one; too large a number becomes infinite. -/
def round (f : Narrow) (x : Binary64) : Binary64 :=
  if !x.isFinite || x.isZero then x
  else
    let u := f.unit x
    let shift := u - x.scale
    if shift ≤ 0 then x
    else
      let q := Binary64.roundDiv x.significand (Nat.pow 2 shift.toNat)
      let magnitude :=
        if (Binary64.bitLength q : Int) + u > f.limit then Binary64.infinity
        else if u ≥ 0 then (Binary64.ofInt? (q * Nat.pow 2 u.toNat)).getD .infinity
        else (Binary64.ofRatio? q (Nat.pow 2 (-u).toNat)).getD .infinity
      if x.negative then magnitude.neg else magnitude

end Narrow

/-! ## Decimal text

Digits are computed exactly; the layouts are separate from them.
-/

namespace Binary64

/-- The number written by the decimal `mantissa * 10 ^ exponent`, rounded to nearest even; too large gives infinity. -/
def ofDecimal (mantissa : Nat) (exponent : Int) : Binary64 :=
  if mantissa == 0 then zero
  else if exponent > 400 then infinity
  else if exponent < -20000 then zero
  else
    let r := if exponent ≥ 0 then ofRatio? (mantissa * Nat.pow 10 exponent.toNat) 1 else ofRatio? mantissa (Nat.pow 10 (-exponent).toNat)
    r.getD infinity

end Binary64

/-- Decimal digits of a positive number: the value is `0.d₁d₂d₃… * 10 ^ (exponent + 1)`, so `exponent` belongs to `d₁`. -/
structure DecimalDigits where
  digits : Nat
  count : Nat
  exponent : Int

variable (d : DecimalDigits)

namespace DecimalDigits

abbrev IsProper : Prop := 0 < d.count ∧ d.digits < Nat.pow 10 d.count

def read : Binary64 := .ofDecimal d.digits (d.exponent - d.count + 1)

def trim : DecimalDigits := go d.count d
where
  go : Nat → DecimalDigits → DecimalDigits
    | 0, d => d
    | fuel + 1, d =>
      if d.count > 1 && d.digits % 10 == 0 then go fuel { d with digits := d.digits / 10, count := d.count - 1 } else d

end DecimalDigits

namespace Binary64

variable (x : Binary64)

def tenPowLe (e : Int) (n d : Nat) : Bool :=
  if e ≥ 0 then Nat.pow 10 e.toNat * d ≤ n else d ≤ n * Nat.pow 10 (-e).toNat

/-- The last number that passes a test, found by halving the distance of `2 ^ k` to one that does not. -/
def lastPassing (p : Nat → Bool) : (k passing : Nat) → Nat
  | 0, w => w
  | k + 1, w => lastPassing p k (if p (w + 2 ^ k) then w + 2 ^ k else w)

def decimalExponent (n d : Nat) : Int := lastPassing (fun i => tenPowLe (i - 400) n d) 10 0 - 400

def scaleTen (k : Int) (n d : Nat) : Nat × Nat :=
  if k ≥ 0 then (n, d * Nat.pow 10 k.toNat) else (n * Nat.pow 10 (-k).toNat, d)

def units : Nat := x.significand * Nat.pow 2 (x.exponentField - 1)

def magnitude : Nat × Nat := (x.units, Nat.pow 2 unitPlaces)

def digitsOf (count : Nat) (e : Int) (v : Nat) : DecimalDigits :=
  if v ≥ Nat.pow 10 count then { digits := v / 10, count := count, exponent := e + 1 }
  else { digits := v, count := count, exponent := e }

/-- The two decimals of `count` digits next to the magnitude of `x`, whose decimal exponent is `e`, the nearer one first. -/
def neighbours (e : Int) (count : Nat) : List DecimalDigits :=
  let (n, d) := x.magnitude
  let (a, b) := scaleTen (e - (count : Int) + 1) n d
  let near := roundDiv a b
  [near, if near == a / b then near + 1 else near - 1].map fun v => (digitsOf count e v).trim

def allDigits : DecimalDigits := { digits := x.units * Nat.pow 5 unitPlaces, count := 1025 + unitPlaces, exponent := 1024 }

def shortestDigits : DecimalDigits :=
  let e := decimalExponent x.magnitude.1 x.magnitude.2
  let candidates := (List.range 17).flatMap fun i => x.neighbours e (i + 1)
  (candidates.find? fun d => d.IsProper ∧ d.read = x).getD x.allDigits

def significantDigits (count : Nat) : DecimalDigits :=
  let (n, d) := x.magnitude
  let e := decimalExponent n d
  let (a, b) := scaleTen (e - (count : Int) + 1) n d
  digitsOf count e (roundDiv a b)

end Binary64

namespace DecimalDigits

def text : String :=
  let s := toString d.digits
  String.ofList (List.replicate (d.count - s.length) '0') ++ s

/-- Positional layout, without an exponent; `pointZero` writes a whole number with a final `.0`. -/
def positional (pointZero : Bool) : String :=
  let s := d.text
  if d.exponent < 0 then "0." ++ String.ofList (List.replicate (-d.exponent - 1).toNat '0') ++ s
  else
    let whole := d.exponent.toNat + 1
    if d.count ≤ whole then
      s ++ String.ofList (List.replicate (whole - d.count) '0') ++ (if pointZero then ".0" else "")
    else
      String.ofList (s.toList.take whole) ++ "." ++ String.ofList (s.toList.drop whole)

def pointed : List Char → List Char
  | c :: c' :: rest => c :: '.' :: c' :: rest
  | cs => cs

def exponentText (e : Int) : String :=
  (if e < 0 then "-" else "+") ++ (if e.natAbs < 10 then "0" else "") ++ toString e.natAbs

def scientific : String := String.ofList (pointed d.text.toList) ++ "e" ++ exponentText d.exponent

end DecimalDigits

namespace Binary64

variable (x : Binary64)

def withSign (body : Binary64 → String) : String :=
  if x.isNaN then "nan"
  else (if x.negative then "-" else "") ++ (if x.isInf then "inf" else body x.abs)

/-- Shortest text that reads back: positional from `1e-4` up to but excluding `1e16`, with a point in every whole number. -/
def shortest : String :=
  x.withSign fun x =>
    if x.isZero then "0.0"
    else
      let d := x.shortestDigits
      if -4 ≤ d.exponent && d.exponent < 16 then d.positional true else d.scientific

/-- At most `count` significant digits without trailing zeros; scientific below `1e-4` and from `10 ^ count` on. -/
def general (count : Nat) (x : Binary64) : String :=
  x.withSign fun x =>
    if x.isZero then "0"
    else
      let d := x.significantDigits count
      if -4 ≤ d.exponent && d.exponent < count then d.trim.positional false else d.trim.scientific

def exponential (places : Nat) (x : Binary64) : String :=
  x.withSign fun x =>
    if x.isZero then ({ digits := 0, count := places + 1, exponent := 0 } : DecimalDigits).scientific
    else (x.significantDigits (places + 1)).scientific

/-- Exactly `places` digits after the point, a tie going to the even digit. -/
def fixed (places : Nat) (x : Binary64) : String :=
  x.withSign fun x =>
    let (n, d) := x.magnitude
    let q := roundDiv (n * Nat.pow 10 places) d
    let s := toString q
    let s := String.ofList (List.replicate (places + 1 - s.length) '0') ++ s
    if places == 0 then s
    else
      let whole := s.length - places
      String.ofList (s.toList.take whole) ++ "." ++ String.ofList (s.toList.drop whole)

def hexDigits : String :=
  let ds := Nat.toDigits 16 x.bits.toNat
  String.ofList (List.replicate (16 - ds.length) '0' ++ ds)

end Binary64

/-! ### Numbers read from text

Blanks stand around, an optional sign in front, and single underscores between digits.
-/

namespace Reading

def isBlank (c : Char) : Bool := c == ' ' || (9 ≤ c.toNat && c.toNat ≤ 13) || (0x1c ≤ c.toNat && c.toNat ≤ 0x1f)

def strip (cs : List Char) : List Char := ((cs.dropWhile isBlank).reverse.dropWhile isBlank).reverse

def sign : List Char → Bool × List Char
  | '-' :: cs => (true, cs)
  | '+' :: cs => (false, cs)
  | cs => (false, cs)

def digits? : List Char → Option (List Nat)
  | [] => none
  | [c] => if c.isDigit then some [c.toNat - 48] else none
  | c :: '_' :: cs => if c.isDigit then (digits? cs).map ((c.toNat - 48) :: ·) else none
  | c :: cs => if c.isDigit then (digits? cs).map ((c.toNat - 48) :: ·) else none

def value (ds : List Nat) : Nat := ds.foldl (fun n d => n * 10 + d) 0

def int? (s : String) : Option Int := do
  let (negative, cs) := sign (strip s.toList)
  let n : Int := value (← digits? cs)
  return if negative then -n else n

def optionalDigits? (cs : List Char) : Option (List Nat) := if cs.isEmpty then some [] else digits? cs

def mantissa? (cs : List Char) : Option (List Nat × List Nat) := do
  let (whole, rest) := cs.span (· != '.')
  let fraction := rest.drop 1
  if whole.isEmpty && fraction.isEmpty then none
  return (← optionalDigits? whole, ← optionalDigits? fraction)

def exponent? : List Char → Option Int
  | [] => some 0
  | _ :: cs => do
    let (negative, cs) := sign cs
    let n : Int := value (← digits? cs)
    return if negative then -n else n

def magnitude? (cs : List Char) : Option Binary64 :=
  match String.ofList (cs.map Char.toLower) with
  | "inf" | "infinity" => some .infinity
  | "nan" => some .nan
  | _ => do
    let (front, rest) := cs.span fun c => c != 'e' && c != 'E'
    let (whole, fraction) ← mantissa? front
    let e ← exponent? rest
    return Binary64.ofDecimal (value (whole ++ fraction)) (e - fraction.length)

def float? (s : String) : Option Binary64 := do
  let (negative, cs) := sign (strip s.toList)
  let x ← magnitude? cs
  return if negative then x.neg else x

end Reading

end TileKernel
