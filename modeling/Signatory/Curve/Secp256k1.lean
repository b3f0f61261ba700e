import Signatory.Bytes
import Signatory.Curve.Power

/-!
The curve `y² = x³ + 7` over the field of `2 ^ 256 - 2 ^ 32 - 977` elements, in projective
coordinates. Its order is a prime, so the addition law below has no exceptions.
-/
namespace Signatory.Secp256k1
open PrimeField

def prime : Nat := (1 <<< 256) - (1 <<< 32) - 977

def order : Nat := 0xFFFFFFFFFFFFFFFFFFFFFFFFFFFFFFFEBAAEDCE6AF48A03BBFD25E8CD0364141

theorem prime_pos : 0 < prime := by decide

theorem order_pos : 0 < order := by decide

abbrev Field := Fin prime

abbrev Scalar := Fin order

instance (n : Nat) : OfNat Field n := ⟨residue prime_pos n⟩

instance (n : Nat) : OfNat Scalar n := ⟨residue order_pos n⟩

def Scalar.ofNat (n : Nat) : Scalar := residue order_pos n

/-- The point with affine coordinates `x / z` and `y / z`, or the point at infinity when `z` is
zero. -/
structure Point where
  x : Field
  y : Field
  z : Field

namespace Point

def zero : Point := ⟨0, 1, 0⟩

def base : Point :=
  ⟨0x79BE667EF9DCBBAC55A06295CE870B07029BFCDB2DCE28D959F2815B16F81798,
    0x483ADA7726A3C4655DA4FBFC0E1108A8FD17B448A68554199C47D08FFB10D4B8, 1⟩

def add (p q : Point) : Point :=
  let xy := p.x * q.y + q.x * p.y
  let yz := p.y * q.z + q.y * p.z
  let xz := p.x * q.z + q.x * p.z
  let square := 3 * (p.x * q.x)
  let low := p.y * q.y - 21 * (p.z * q.z)
  let high := p.y * q.y + 21 * (p.z * q.z)
  ⟨xy * low - 21 * xz * yz, low * high + 21 * xz * square, high * yz + square * xy⟩

def multiple (n : Nat) (p : Point) : Point := combine add zero p n

def affine? (p : Point) : Option (Field × Field) :=
  if p.z = 0 then none
  else
    let scale := inverse p.z
    some (p.x * scale, p.y * scale)

def ofAbscissa? (x : Field) (odd : Bool) : Option Point :=
  let square := x * x * x + 7
  let root := power square ((prime + 1) / 4)
  if root * root = square then
    some ⟨x, if decide (root.val % 2 = 1) = odd then root else -root, 1⟩
  else none

def compress (p : Point) : Bytes :=
  match p.affine? with
  | none => [0]
  | some (x, y) => UInt8.ofNat (2 + y.val % 2) :: toBigEndian 32 x.val

/-- The point that a tag and 32 bytes stand for, if any. The tag 5 leaves the parity out and means
the even ordinate. -/
def decompress? : Bytes → Option Point
  | [] => none
  | tag :: rest =>
    let x := bigEndian rest
    if prime ≤ x then none
    else if tag = 2 ∨ tag = 5 then ofAbscissa? (residue prime_pos x) false
    else if tag = 3 then ofAbscissa? (residue prime_pos x) true
    else none

end Point

end Signatory.Secp256k1
