import Signatory.Bytes
import Signatory.Curve.Power

/-!
The twisted Edwards curve `-x² + y² = 1 + d x² y²` over the field of `2 ^ 255 - 19` elements, in
extended coordinates. A point is written as its `y`, with the parity of `x` in the highest bit.
-/
namespace Signatory.Edwards25519
open PrimeField

def prime : Nat := (1 <<< 255) - 19

def order : Nat := (1 <<< 252) + 27742317777372353535851937790883648493

theorem prime_pos : 0 < prime := by decide

abbrev Field := Fin prime

instance (n : Nat) : OfNat Field n := ⟨residue prime_pos n⟩

def d : Field := -121665 * inverse 121666

def rootOfMinusOne : Field := power 2 ((prime - 1) / 4)

/-- The point with affine coordinates `x / z` and `y / z`, where `t = x y / z`. -/
structure Point where
  x : Field
  y : Field
  z : Field
  t : Field

namespace Point

def zero : Point := ⟨0, 1, 1, 0⟩

def add (p q : Point) : Point :=
  let a := (p.y - p.x) * (q.y - q.x)
  let b := (p.y + p.x) * (q.y + q.x)
  let c := p.t * 2 * d * q.t
  let e := p.z * 2 * q.z
  ⟨(b - a) * (e - c), (e + c) * (b + a), (e - c) * (e + c), (b - a) * (b + a)⟩

def neg (p : Point) : Point := ⟨-p.x, p.y, p.z, -p.t⟩

def multiple (n : Nat) (p : Point) : Point := combine add zero p n

/-- The point with ordinate `y` whose abscissa has the parity `odd`. An abscissa of zero is even
and is taken for odd as well. -/
def ofOrdinate? (y : Field) (odd : Bool) : Option Point :=
  let u := y * y - 1
  let v := d * y * y + 1
  let root := u * power v 3 * power (u * power v 7) ((prime - 5) / 8)
  let check := v * root * root
  let abscissa := if check = u then some root
    else if check = -u then some (root * rootOfMinusOne)
    else none
  abscissa.map fun x =>
    let x := if decide (x.val % 2 = 1) = odd then x else -x
    ⟨x, y, 1, x * y⟩

def base : Point := (ofOrdinate? (4 * inverse 5) false).getD zero

def compress (p : Point) : Bytes :=
  let scale := inverse p.z
  let x := p.x * scale
  let y := p.y * scale
  toLittleEndian 32 (y.val + (x.val % 2) <<< 255)

/-- The point that 32 bytes stand for, if any. An ordinate beyond the field is reduced. -/
def decompress? (bytes : Bytes) : Option Point :=
  let n := littleEndian bytes
  ofOrdinate? (residue prime_pos (n % (1 <<< 255))) (n.testBit 255)

end Point

end Signatory.Edwards25519
