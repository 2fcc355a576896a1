import UxLint.Text.Ranges

/-!
# Octets

A text is stored as the octets of its code points. Reading octets back replaces what is not
well-formed: each longest run of octets that starts a code point without completing it, and each
octet that starts none, becomes one replacement character.
-/

set_option autoImplicit false

namespace UxLint.Text

/-- The octets of a text. -/
def encode (t : Text) : List UInt8 := t.flatMap String.utf8EncodeChar

/-- The replacement character. -/
def replacement : Char := '\uFFFD'

/-- What the first octet of a code point promises. -/
structure Promise where
  /-- How many octets follow. -/
  owed : Nat
  /-- The least value that the next octet may have. -/
  least : Nat
  /-- The greatest value that the next octet may have. -/
  greatest : Nat
  /-- The bits of the code point read so far. -/
  bits : Nat

/-- What an octet above the first 128 promises; `none` if no code point starts with it. -/
def promise? (b : Nat) : Option Promise :=
  if 0xC2 ≤ b && b ≤ 0xDF then some ⟨1, 0x80, 0xBF, b - 0xC0⟩
  else if b == 0xE0 then some ⟨2, 0xA0, 0xBF, 0⟩
  else if b == 0xED then some ⟨2, 0x80, 0x9F, 0xD⟩
  else if 0xE1 ≤ b && b ≤ 0xEF then some ⟨2, 0x80, 0xBF, b - 0xE0⟩
  else if b == 0xF0 then some ⟨3, 0x90, 0xBF, 0⟩
  else if 0xF1 ≤ b && b ≤ 0xF3 then some ⟨3, 0x80, 0xBF, b - 0xF0⟩
  else if b == 0xF4 then some ⟨3, 0x80, 0x8F, 4⟩
  else none

/-- Reads the octets that are owed, as far as they fit: the code point they complete, if they do,
and the octets left. -/
def readOwed (owed least greatest bits : Nat) (octets : List UInt8) : Option Nat × List UInt8 :=
  match owed with
  | 0 => (some bits, octets)
  | n + 1 =>
    match octets with
    | [] => (none, [])
    | b :: rest =>
      if least ≤ b.toNat && b.toNat ≤ greatest then
        readOwed n 0x80 0xBF (bits * 64 + (b.toNat - 0x80)) rest
      else (none, b :: rest)

/-- To read the octets that a first one announces leaves no more than there were. -/
theorem length_readOwed_le (owed least greatest bits : Nat) (octets : List UInt8) :
    (readOwed owed least greatest bits octets).2.length ≤ octets.length := by
  fun_induction readOwed owed least greatest bits octets with
  | case1 => exact Nat.le_refl _
  | case2 => exact Nat.le_refl _
  | case3 _ _ _ _ _ _ _ ih => simp only [List.length_cons]; omega
  | case4 => exact Nat.le_refl _

/-- The text that octets write. -/
def decode : List UInt8 → Text
  | [] => []
  | b :: rest =>
    if b.toNat < 0x80 then Char.ofNat b.toNat :: decode rest
    else
      match promise? b.toNat with
      | none => replacement :: decode rest
      | some p =>
        let read := readOwed p.owed p.least p.greatest p.bits rest
        (match read.1 with
          | some n => Char.ofNat n
          | none => replacement) :: decode read.2
termination_by octets => octets.length
decreasing_by
  · exact Nat.lt_succ_self _
  · exact Nat.lt_succ_self _
  · exact Nat.lt_succ_of_le (length_readOwed_le ..)

/-- What is wrong with a run of octets. -/
inductive OctetDefect where
  /-- No code point starts with the first octet. -/
  | badStart
  /-- The octet behind the run does not go on with what the run starts. -/
  | badContinuation
  /-- The octets end inside a code point. -/
  | cutShort
  deriving DecidableEq, Repr

/-- The first run of octets that writes no code point. -/
structure OctetFault where
  /-- The number of octets before the run. -/
  position : Nat
  first : UInt8
  /-- The number of further octets of the run. -/
  more : Nat
  defect : OctetDefect
  deriving DecidableEq, Repr

/-- The first run of some octets that writes no code point; `position` octets stand before them. -/
def faultFrom? (position : Nat) : List UInt8 → Option OctetFault
  | [] => none
  | b :: rest =>
    if b.toNat < 0x80 then faultFrom? (position + 1) rest
    else
      match promise? b.toNat with
      | none => some ⟨position, b, 0, .badStart⟩
      | some p =>
        let read := readOwed p.owed p.least p.greatest p.bits rest
        let more := rest.length - read.2.length
        if read.1.isSome then faultFrom? (position + 1 + more) read.2
        else some ⟨position, b, more, if read.2.isEmpty then .cutShort else .badContinuation⟩
termination_by octets => octets.length
decreasing_by
  · exact Nat.lt_succ_self _
  · exact Nat.lt_succ_of_le (length_readOwed_le ..)

/-- The first run of octets that writes no code point. -/
def fault? (octets : List UInt8) : Option OctetFault := faultFrom? 0 octets

end UxLint.Text
