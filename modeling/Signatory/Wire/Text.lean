import Signatory.Bytes

/-!
Text as UTF-8. Bytes that are no text are refused with the place of the first fault: a sequence
that breaks off at the end of the bytes, or one that no character has. Main statement: the bytes
of a text are read back as that text.
-/
namespace Signatory.Wire

/-- Where bytes stop being UTF-8: the index of the sequence at fault, and how many of its bytes
are wrong, or none when the bytes end inside it. -/
structure TextFault where
  index : Nat
  wrong : Option Nat
deriving DecidableEq, Repr

def TextFault.message (fault : TextFault) : String :=
  match fault.wrong with
  | some wrong =>
    "invalid utf-8 sequence of " ++ toString wrong ++ " bytes from index " ++ toString fault.index
  | none => "incomplete utf-8 byte sequence from index " ++ toString fault.index

/-- What may follow the first byte of a character: how many bytes, and the range of the first of
them. The ranges leave out long forms, surrogates and numbers beyond the last character. -/
structure Continuation where
  count : Nat
  low : UInt8
  high : UInt8
deriving DecidableEq, Repr

def Continuation.ofLead? (lead : UInt8) : Option Continuation :=
  if lead ≤ 0x7F then some ⟨0, 0x80, 0xBF⟩
  else if lead < 0xC2 then none
  else if lead ≤ 0xDF then some ⟨1, 0x80, 0xBF⟩
  else if lead = 0xE0 then some ⟨2, 0xA0, 0xBF⟩
  else if lead = 0xED then some ⟨2, 0x80, 0x9F⟩
  else if lead ≤ 0xEF then some ⟨2, 0x80, 0xBF⟩
  else if lead = 0xF0 then some ⟨3, 0x90, 0xBF⟩
  else if lead ≤ 0xF3 then some ⟨3, 0x80, 0xBF⟩
  else if lead = 0xF4 then some ⟨3, 0x80, 0x8F⟩
  else none

def finishCharacter (low high : UInt8) : (missing seen : Nat) → Bytes → Except (Option Nat) Bytes
  | 0, _, rest => .ok rest
  | _ + 1, _, [] => .error none
  | missing + 1, seen, b :: rest =>
    if low ≤ b ∧ b ≤ high then finishCharacter 0x80 0xBF missing (seen + 1) rest
    else .error (some seen)

theorem length_finishCharacter {low high : UInt8} {missing seen : Nat} {bytes rest : Bytes}
    (finished : finishCharacter low high missing seen bytes = .ok rest) :
    rest.length ≤ bytes.length := by
  induction missing generalizing low high seen bytes with
  | zero => cases finished; exact Nat.le_refl _
  | succ missing ih =>
    cases bytes with
    | nil => simp [finishCharacter] at finished
    | cons b bytes =>
      simp only [finishCharacter] at finished
      split at finished
      · exact Nat.le_succ_of_le (ih finished)
      · simp at finished

/-- The first fault of `bytes`, which start at `index`. Text without one breaks off at its end. -/
def firstFault (index : Nat) (bytes : Bytes) : TextFault :=
  match bytes with
  | [] => ⟨index, none⟩
  | lead :: rest =>
    match Continuation.ofLead? lead with
    | none => ⟨index, some 1⟩
    | some ⟨count, low, high⟩ =>
      match finished : finishCharacter low high count 1 rest with
      | .error wrong => ⟨index, wrong⟩
      | .ok tail =>
        have := length_finishCharacter finished
        firstFault (index + count + 1) tail
termination_by bytes.length
decreasing_by simp only [List.length_cons]; omega

def textBytes (text : String) : Bytes := text.toByteArray.data.toList

def textOfBytes (bytes : Bytes) : Except TextFault String :=
  match String.fromUTF8? ⟨bytes.toArray⟩ with
  | some text => .ok text
  | none => .error (firstFault 0 bytes)

theorem textOfBytes_textBytes (text : String) : textOfBytes (textBytes text) = .ok text := by
  have valid : (⟨(textBytes text).toArray⟩ : ByteArray).IsValidUTF8 := text.isValidUTF8
  have read : String.fromUTF8? ⟨(textBytes text).toArray⟩ = some text := by
    rw [String.fromUTF8?, dif_pos valid]
    rfl
  rw [textOfBytes, read]

theorem textBytes_of_textOfBytes {bytes : Bytes} {text : String}
    (read : textOfBytes bytes = .ok text) : textBytes text = bytes := by
  unfold textOfBytes String.fromUTF8? at read
  by_cases valid : (⟨bytes.toArray⟩ : ByteArray).IsValidUTF8
  · rw [dif_pos valid] at read
    cases read
    rfl
  · rw [dif_neg valid] at read
    cases read

end Signatory.Wire
