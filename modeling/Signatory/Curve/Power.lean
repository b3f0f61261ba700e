/-!
Powers and multiples by repeated squaring or doubling, over the binary digits of the exponent.
-/
namespace Signatory

def binaryDigits (n : Nat) : List Bool :=
  (List.range (n.log2 + 1)).foldl (fun digits bit => n.testBit bit :: digits) []

@[specialize] def combine {α : Type} (operation : α → α → α) (unit base : α) (n : Nat) : α :=
  (binaryDigits n).foldl (fun power digit =>
    let square := operation power power
    if digit then operation square base else square) unit

namespace PrimeField

variable {p : Nat}

def residue (positive : 0 < p) (n : Nat) : Fin p := ⟨n % p, Nat.mod_lt n positive⟩

def power (x : Fin p) (n : Nat) : Fin p := combine (· * ·) (residue x.pos 1) x n

def inverse (x : Fin p) : Fin p := power x (p - 2)

end PrimeField

end Signatory
