/-!
Byte strings, and the numbers they spell in either byte order. Reading a number back from the
bytes it was written to gives that number, as long as it fits their width.
-/
namespace Signatory

abbrev Bytes := List UInt8

def littleEndian : Bytes → Nat
  | [] => 0
  | b :: rest => b.toNat + 256 * littleEndian rest

def capacity : (width : Nat) → Nat
  | 0 => 1
  | width + 1 => 256 * capacity width

def toLittleEndian : (width : Nat) → (n : Nat) → Bytes
  | 0, _ => []
  | width + 1, n => UInt8.ofNat n :: toLittleEndian width (n / 256)

def bigEndian (bytes : Bytes) : Nat := littleEndian bytes.reverse

def toBigEndian (width n : Nat) : Bytes := (toLittleEndian width n).reverse

@[simp] theorem length_toLittleEndian (width n : Nat) :
    (toLittleEndian width n).length = width := by
  induction width generalizing n with
  | zero => rfl
  | succ width ih => simp [toLittleEndian, ih]

theorem littleEndian_toLittleEndian (width n : Nat) (fits : n < capacity width) :
    littleEndian (toLittleEndian width n) = n := by
  induction width generalizing n with
  | zero => simp only [capacity] at fits; simp only [toLittleEndian, littleEndian]; omega
  | succ width ih =>
    simp only [capacity] at fits
    have rest := ih (n / 256) (by omega)
    simp only [toLittleEndian, littleEndian, rest, UInt8.toNat_ofNat']
    omega

theorem littleEndian_lt (bytes : Bytes) : littleEndian bytes < capacity bytes.length := by
  induction bytes with
  | nil => exact Nat.zero_lt_one
  | cons b rest ih =>
    have digit : b.toNat < 256 := b.toNat_lt
    simp only [littleEndian, List.length_cons, capacity]
    omega

theorem toLittleEndian_littleEndian (bytes : Bytes) :
    toLittleEndian bytes.length (littleEndian bytes) = bytes := by
  induction bytes with
  | nil => rfl
  | cons b rest ih =>
    have digit : b.toNat < 256 := b.toNat_lt
    have quotient : (b.toNat + 256 * littleEndian rest) / 256 = littleEndian rest := by omega
    have head : UInt8.ofNat (b.toNat + 256 * littleEndian rest) = b := by
      apply UInt8.toNat.inj
      rw [UInt8.toNat_ofNat']
      omega
    simp only [List.length_cons, littleEndian, toLittleEndian, quotient, head, ih]

end Signatory
