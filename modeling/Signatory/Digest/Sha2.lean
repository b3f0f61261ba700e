import Signatory.Bytes

/-!
The SHA-2 family of hash functions, on words of any width. The constants are the leading bits of
the fractional parts of roots of primes, so they are computed and not tabulated.
-/
namespace Signatory

def integerRoot (degree bits n : Nat) : Nat :=
  (List.range bits).foldr (fun bit root =>
    let larger := root + (1 <<< bit)
    if Nat.pow larger degree ≤ n then larger else root) 0

def isPrime (n : Nat) : Bool := 2 ≤ n && (List.range n).all fun d => d < 2 || n % d != 0

def firstPrimes : List Nat := (List.range 410).filter isPrime

def fractionOfRoot (degree width n : Nat) : BitVec width :=
  BitVec.ofNat width (integerRoot degree (width + 4) (n <<< (degree * width)))

/-- A member of the family: the width of its words, the constants of its rounds, and how far words
are rotated in them. The last amount of the small sums is a shift. -/
structure Sha2 (width : Nat) where
  roundConstants : List (BitVec width)
  initial : List (BitVec width)
  bigSum0 : Nat × Nat × Nat
  bigSum1 : Nat × Nat × Nat
  smallSum0 : Nat × Nat × Nat
  smallSum1 : Nat × Nat × Nat

namespace Sha2

variable {width : Nat}

def rotations (by3 : Nat × Nat × Nat) (x : BitVec width) : BitVec width :=
  x.rotateRight by3.1 ^^^ x.rotateRight by3.2.1 ^^^ x.rotateRight by3.2.2

def rotationsAndShift (by3 : Nat × Nat × Nat) (x : BitVec width) : BitVec width :=
  x.rotateRight by3.1 ^^^ x.rotateRight by3.2.1 ^^^ (x >>> by3.2.2)

structure State (width : Nat) where
  a : BitVec width
  b : BitVec width
  c : BitVec width
  d : BitVec width
  e : BitVec width
  f : BitVec width
  g : BitVec width
  h : BitVec width

namespace State

def ofList (words : List (BitVec width)) : State width :=
  let word (i : Nat) := words.getD i 0
  ⟨word 0, word 1, word 2, word 3, word 4, word 5, word 6, word 7⟩

def toList (s : State width) : List (BitVec width) := [s.a, s.b, s.c, s.d, s.e, s.f, s.g, s.h]

end State

def schedule (family : Sha2 width) (block : List (BitVec width)) : Array (BitVec width) :=
  (family.roundConstants.drop block.length).foldl (fun words _ =>
    let back (distance : Nat) := words.getD (words.size - distance) 0
    words.push (rotationsAndShift family.smallSum1 (back 2) + back 7 +
      rotationsAndShift family.smallSum0 (back 15) + back 16)) block.toArray

def round (family : Sha2 width) (s : State width) (input : BitVec width × BitVec width) :
    State width :=
  let choice := (s.e &&& s.f) ^^^ (~~~s.e &&& s.g)
  let majority := (s.a &&& s.b) ^^^ (s.a &&& s.c) ^^^ (s.b &&& s.c)
  let first := s.h + rotations family.bigSum1 s.e + choice + input.1 + input.2
  let second := rotations family.bigSum0 s.a + majority
  ⟨first + second, s.a, s.b, s.c, s.d + first, s.e, s.f, s.g⟩

def compress (family : Sha2 width) (s : State width) (block : List (BitVec width)) : State width :=
  let last := (family.roundConstants.zip (family.schedule block).toList).foldl family.round s
  State.ofList (List.zipWith (· + ·) s.toList last.toList)

def split (size : Nat) : (count : Nat) → Bytes → List Bytes
  | 0, _ => []
  | count + 1, bytes => bytes.take size :: split size count (bytes.drop size)

def blockLength (_ : Sha2 width) : Nat := 2 * width

/-- A bit is appended, then as few zeros as let the length in bits end a block. -/
def pad (family : Sha2 width) (message : Bytes) : Bytes :=
  let unpadded := message.length + 1 + width / 4
  let zeros := (family.blockLength - unpadded % family.blockLength) % family.blockLength
  message ++ 0x80 :: List.replicate zeros 0 ++ toBigEndian (width / 4) (8 * message.length)

def digest (family : Sha2 width) (message : Bytes) : Bytes :=
  let padded := family.pad message
  let blocks := split family.blockLength (padded.length / family.blockLength) padded
  let words (block : Bytes) :=
    (split (width / 8) 16 block).map fun bytes => BitVec.ofNat width (bigEndian bytes)
  let last := blocks.foldl (fun s block => family.compress s (words block))
    (State.ofList family.initial)
  last.toList.flatMap fun word => toBigEndian (width / 8) word.toNat

end Sha2

def sha256 : Sha2 32 where
  roundConstants := (firstPrimes.take 64).map (fractionOfRoot 3 32)
  initial := (firstPrimes.take 8).map (fractionOfRoot 2 32)
  bigSum0 := (2, 13, 22)
  bigSum1 := (6, 11, 25)
  smallSum0 := (7, 18, 3)
  smallSum1 := (17, 19, 10)

def sha512 : Sha2 64 where
  roundConstants := firstPrimes.map (fractionOfRoot 3 64)
  initial := (firstPrimes.take 8).map (fractionOfRoot 2 64)
  bigSum0 := (28, 34, 39)
  bigSum1 := (14, 18, 41)
  smallSum0 := (1, 8, 7)
  smallSum1 := (19, 61, 6)

end Signatory
