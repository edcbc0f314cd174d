import TileKernel.Text

/-! # Digests

MD5 names the entries of the compilation cache, SHA-1 tells the sources of kernels apart, and SHA-256 long results. All read a
message in blocks of sixteen 32-bit words, closed by one set bit, zeros up to eight bytes before a block boundary, and its
length in bits; the order of bytes inside words and inside the length differs.
-/

namespace TileKernel.Digest

inductive ByteOrder where
  | bigEndian
  | littleEndian

variable (o : ByteOrder)

def ByteOrder.bytes (n value : Nat) : List UInt8 :=
  let low := (List.range n).map fun (i : Nat) => (value / Nat.pow 256 i % 256).toUInt8
  match o with
  | .bigEndian => low.reverse
  | .littleEndian => low

def ByteOrder.value (bytes : List UInt8) : Nat :=
  let digits := match o with
    | .bigEndian => bytes
    | .littleEndian => bytes.reverse
  digits.foldl (fun n b => n * 256 + b.toNat) 0

def zeros (length : Nat) : Nat := (119 - length % 64) % 64

def pad (message : List UInt8) : List UInt8 :=
  message ++ [0x80] ++ List.replicate (zeros message.length) 0 ++ o.bytes 8 (8 * message.length)

def pieces {α : Type} (n : Nat) : Nat → List α → List (List α)
  | 0, _ => []
  | _ + 1, [] => []
  | fuel + 1, xs => xs.take n :: pieces n fuel (xs.drop n)

def blocks (message : List UInt8) : List (Array UInt32) :=
  let padded := pad o message
  (pieces 64 padded.length padded).map fun block =>
    ((pieces 4 16 block).map fun word => (o.value word).toUInt32).toArray

def turnLeft (x : UInt32) (n : UInt32) : UInt32 := (x <<< n) ||| (x >>> (32 - n))

def turnRight (x : UInt32) (n : UInt32) : UInt32 := (x >>> n) ||| (x <<< (32 - n))

def hexText (words : List UInt32) : String :=
  String.join (words.map fun w => String.join ((o.bytes 4 w.toNat).map fun b => Text.hex 2 b.toNat))

def textBytes (s : String) : List UInt8 := s.toUTF8.toList

end TileKernel.Digest

/-! ## MD5 -/

variable (s : State) (block : Array UInt32)

namespace TileKernel.Digest.Md5

structure State where
  a : UInt32
  b : UInt32
  c : UInt32
  d : UInt32

def start : State := ⟨0x67452301, 0xefcdab89, 0x98badcfe, 0x10325476⟩

def constants : Array UInt32 := #[
  0xd76aa478, 0xe8c7b756, 0x242070db, 0xc1bdceee, 0xf57c0faf, 0x4787c62a, 0xa8304613, 0xfd469501,
  0x698098d8, 0x8b44f7af, 0xffff5bb1, 0x895cd7be, 0x6b901122, 0xfd987193, 0xa679438e, 0x49b40821,
  0xf61e2562, 0xc040b340, 0x265e5a51, 0xe9b6c7aa, 0xd62f105d, 0x02441453, 0xd8a1e681, 0xe7d3fbc8,
  0x21e1cde6, 0xc33707d6, 0xf4d50d87, 0x455a14ed, 0xa9e3e905, 0xfcefa3f8, 0x676f02d9, 0x8d2a4c8a,
  0xfffa3942, 0x8771f681, 0x6d9d6122, 0xfde5380c, 0xa4beea44, 0x4bdecfa9, 0xf6bb4b60, 0xbebfbc70,
  0x289b7ec6, 0xeaa127fa, 0xd4ef3085, 0x04881d05, 0xd9d4d039, 0xe6db99e5, 0x1fa27cf8, 0xc4ac5665,
  0xf4292244, 0x432aff97, 0xab9423a7, 0xfc93a039, 0x655b59c3, 0x8f0ccc92, 0xffeff47d, 0x85845dd1,
  0x6fa87e4f, 0xfe2ce6e0, 0xa3014314, 0x4e0811a1, 0xf7537e82, 0xbd3af235, 0x2ad7d2bb, 0xeb86d391]

def turns (t : Nat) : UInt32 :=
  let row : List UInt32 := match t / 16 with
    | 0 => [7, 12, 17, 22]
    | 1 => [5, 9, 14, 20]
    | 2 => [4, 11, 16, 23]
    | _ => [6, 10, 15, 21]
  row.getD (t % 4) 0

def mix (t : Nat) (b c d : UInt32) : UInt32 × Nat :=
  match t / 16 with
  | 0 => ((b &&& c) ||| (~~~b &&& d), t)
  | 1 => ((d &&& b) ||| (~~~d &&& c), (5 * t + 1) % 16)
  | 2 => (b ^^^ c ^^^ d, (3 * t + 5) % 16)
  | _ => (c ^^^ (b ||| ~~~d), 7 * t % 16)

def round (w : Array UInt32) (s : State) (t : Nat) : State :=
  let (f, g) := mix t s.b s.c s.d
  let f := f + s.a + constants.getD t 0 + w.getD g 0
  ⟨s.d, s.b + turnLeft f (turns t), s.b, s.c⟩

def compress : State :=
  let r := (List.range 64).foldl (round block) s
  ⟨s.a + r.a, s.b + r.b, s.c + r.c, s.d + r.d⟩

end Md5

def md5Bytes (message : List UInt8) : String :=
  let s := (blocks .littleEndian message).foldl Md5.compress Md5.start
  hexText .littleEndian [s.a, s.b, s.c, s.d]

def md5 (text : String) : String := md5Bytes (textBytes text)

end TileKernel.Digest

/-! ## SHA-1 -/

namespace TileKernel.Digest.Sha1

structure State where
  a : UInt32
  b : UInt32
  c : UInt32
  d : UInt32
  e : UInt32
deriving DecidableEq

def start : State := ⟨0x67452301, 0xefcdab89, 0x98badcfe, 0x10325476, 0xc3d2e1f0⟩

def schedule : List UInt32 :=
  let next (ws : List UInt32) : UInt32 := turnLeft (ws.getD 2 0 ^^^ ws.getD 7 0 ^^^ ws.getD 13 0 ^^^ ws.getD 15 0) 1
  ((List.range 64).foldl (fun ws _ => next ws :: ws) block.toList.reverse).reverse

def mix (t : Nat) (b c d : UInt32) : UInt32 × UInt32 :=
  if t < 20 then ((b &&& c) ||| (~~~b &&& d), 0x5a827999)
  else if t < 40 then (b ^^^ c ^^^ d, 0x6ed9eba1)
  else if t < 60 then ((b &&& c) ||| (b &&& d) ||| (c &&& d), 0x8f1bbcdc)
  else (b ^^^ c ^^^ d, 0xca62c1d6)

def round (w : UInt32) (t : Nat) : State :=
  let (f, k) := mix t s.b s.c s.d
  ⟨turnLeft s.a 5 + f + s.e + k + w, s.a, turnLeft s.b 30, s.c, s.d⟩

def compress : State :=
  let r := (schedule block).zipIdx.foldl (fun s (w, t) => round s w t) s
  ⟨s.a + r.a, s.b + r.b, s.c + r.c, s.d + r.d, s.e + r.e⟩

end Sha1

def sha1Bytes (message : List UInt8) : String :=
  let s := (blocks .bigEndian message).foldl Sha1.compress Sha1.start
  hexText .bigEndian [s.a, s.b, s.c, s.d, s.e]

def sha1 (text : String) : String := sha1Bytes (textBytes text)

end TileKernel.Digest

/-! ## SHA-256 -/

namespace TileKernel.Digest.Sha256

structure State where
  a : UInt32
  b : UInt32
  c : UInt32
  d : UInt32
  e : UInt32
  f : UInt32
  g : UInt32
  h : UInt32
deriving DecidableEq

def start : State :=
  ⟨0x6a09e667, 0xbb67ae85, 0x3c6ef372, 0xa54ff53a, 0x510e527f, 0x9b05688c, 0x1f83d9ab, 0x5be0cd19⟩

def constants : Array UInt32 := #[
  0x428a2f98, 0x71374491, 0xb5c0fbcf, 0xe9b5dba5, 0x3956c25b, 0x59f111f1, 0x923f82a4, 0xab1c5ed5,
  0xd807aa98, 0x12835b01, 0x243185be, 0x550c7dc3, 0x72be5d74, 0x80deb1fe, 0x9bdc06a7, 0xc19bf174,
  0xe49b69c1, 0xefbe4786, 0x0fc19dc6, 0x240ca1cc, 0x2de92c6f, 0x4a7484aa, 0x5cb0a9dc, 0x76f988da,
  0x983e5152, 0xa831c66d, 0xb00327c8, 0xbf597fc7, 0xc6e00bf3, 0xd5a79147, 0x06ca6351, 0x14292967,
  0x27b70a85, 0x2e1b2138, 0x4d2c6dfc, 0x53380d13, 0x650a7354, 0x766a0abb, 0x81c2c92e, 0x92722c85,
  0xa2bfe8a1, 0xa81a664b, 0xc24b8b70, 0xc76c51a3, 0xd192e819, 0xd6990624, 0xf40e3585, 0x106aa070,
  0x19a4c116, 0x1e376c08, 0x2748774c, 0x34b0bcb5, 0x391c0cb3, 0x4ed8aa4a, 0x5b9cca4f, 0x682e6ff3,
  0x748f82ee, 0x78a5636f, 0x84c87814, 0x8cc70208, 0x90befffa, 0xa4506ceb, 0xbef9a3f7, 0xc67178f2]

def schedule : Array UInt32 :=
  (List.range 48).foldl (fun w (i : Nat) =>
    let t := i + 16
    let x := w.getD (t - 15) 0
    let y := w.getD (t - 2) 0
    let s0 := turnRight x 7 ^^^ turnRight x 18 ^^^ (x >>> 3)
    let s1 := turnRight y 17 ^^^ turnRight y 19 ^^^ (y >>> 10)
    w.push (w.getD (t - 16) 0 + s0 + w.getD (t - 7) 0 + s1)) block

def round (w : Array UInt32) (s : State) (t : Nat) : State :=
  let s1 := turnRight s.e 6 ^^^ turnRight s.e 11 ^^^ turnRight s.e 25
  let choice := (s.e &&& s.f) ^^^ (~~~s.e &&& s.g)
  let t1 := s.h + s1 + choice + constants.getD t 0 + w.getD t 0
  let s0 := turnRight s.a 2 ^^^ turnRight s.a 13 ^^^ turnRight s.a 22
  let majority := (s.a &&& s.b) ^^^ (s.a &&& s.c) ^^^ (s.b &&& s.c)
  ⟨t1 + s0 + majority, s.a, s.b, s.c, s.d + t1, s.e, s.f, s.g⟩

def compress : State :=
  let r := (List.range 64).foldl (round (schedule block)) s
  ⟨s.a + r.a, s.b + r.b, s.c + r.c, s.d + r.d, s.e + r.e, s.f + r.f, s.g + r.g, s.h + r.h⟩

end Sha256

def sha256Bytes (message : List UInt8) : String :=
  let s := (blocks .bigEndian message).foldl Sha256.compress Sha256.start
  hexText .bigEndian [s.a, s.b, s.c, s.d, s.e, s.f, s.g, s.h]

def sha256 (text : String) : String := sha256Bytes (textBytes text)

end TileKernel.Digest
