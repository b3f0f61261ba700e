import Signatory.Bytes

/-!
Signature schemes and the public keys that belong to them. The length of a public key tells the
schemes apart; nothing here requires a key to have the length of its scheme.
-/
namespace Signatory

inductive Scheme where
  | ed25519
  | secp256k1
deriving DecidableEq, Repr

namespace Scheme

def keyLength : Scheme → Nat
  | .ed25519 => 32
  | .secp256k1 => 33

def ofLength? (publicKey : Bytes) : Option Scheme :=
  if publicKey.length = Scheme.ed25519.keyLength then some .ed25519
  else if publicKey.length = Scheme.secp256k1.keyLength then some .secp256k1
  else none

theorem ofLength?_eq_some_iff (publicKey : Bytes) (scheme : Scheme) :
    ofLength? publicKey = some scheme ↔ publicKey.length = scheme.keyLength := by
  by_cases short : publicKey.length = 32 <;> by_cases long : publicKey.length = 33 <;>
    cases scheme <;> simp [ofLength?, keyLength, short, long]

end Scheme

structure PublicKey where
  scheme : Scheme
  bytes : Bytes
deriving DecidableEq, Repr

namespace PublicKey

/-- A public key of no bytes stands for a key that was left out. -/
def isAbsent (key : PublicKey) : Bool := key.bytes.isEmpty

def hasSchemeLength (key : PublicKey) : Bool := key.bytes.length == key.scheme.keyLength

end PublicKey

end Signatory
