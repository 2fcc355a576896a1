import UxLint.Text.Lines
import UxLint.Text.Utf8

/-!
# Octets read in portions

A reader that works through a long file takes its octets in portions and decodes each portion on its
own, together with the octets of a code point that the portion before left incomplete. A run that
writes no text is therefore counted from the start of these octets and not from the start of the file.

How many octets a portion has depends on how many characters are still wanted and on how many octets
the characters of the portion before took.
-/

set_option autoImplicit false

namespace UxLint.Text

/-- How many characters a reader wants at a time. -/
def wantedCharacters : Nat := 4096

/-- The least number of octets of a portion. -/
def leastPortion : Nat := 8192

/-- What a reader knows between two portions. -/
structure StreamState where
  /-- The octets of a code point that is not complete yet. -/
  held : List UInt8
  /-- Whether a carriage return waits for what follows it. -/
  heldReturn : Bool
  /-- The number of characters read so far. -/
  characters : Nat
  /-- The number of octets of the last portion. -/
  lastOctets : Nat
  /-- The number of characters of the last portion. -/
  lastCharacters : Nat

namespace StreamState

/-- Nothing was read yet. -/
def start : StreamState := ⟨[], false, 0, 0, 0⟩

/-- How many octets the next portion has at most. -/
def portion (s : StreamState) : Nat :=
  max leastPortion
    (s.lastOctets * (wantedCharacters - s.characters % wantedCharacters) / s.lastCharacters)

/-- A portion is never empty, so that a reader gets on. -/
theorem portion_pos (s : StreamState) : 0 < s.portion :=
  Nat.lt_of_lt_of_le (by decide : 0 < leastPortion) (Nat.le_max_left ..)

/-- What is known after a portion of `octets` octets that, together with what was held, writes `text` and
leaves `held`. A carriage return at the end of the text waits, as it may belong to a line feed. -/
def next (s : StreamState) (octets : Nat) (text : Text) (held : List UInt8) : StreamState :=
  let whole := if s.heldReturn && !text.isEmpty then '\r' :: text else text
  let waits := if text.isEmpty then s.heldReturn else ['\r'].isSuffixOf text
  let shown := (unifyLineFeeds (if waits then whole.dropLast else whole)).length
  ⟨held, waits, s.characters + shown, octets, shown⟩

end StreamState

/-- Whether a run at the end of a portion may still turn out otherwise once more octets follow: it stops
short, or it is the first two octets of a surrogate, which is not judged before its third one. -/
def isOpen (data : List UInt8) (f : OctetFault) : Bool :=
  match f.defect, data.drop f.position with
  | .cutShort, _ => true
  | .badContinuation, [first, second] => first == 0xED && 0xA0 ≤ second && second ≤ 0xBF
  | _, _ => false

/-- The first run of octets that writes no text, as a reader finds it that goes on from `s`. What stops
short is noticed only when nothing follows. -/
def streamFaultFrom? (s : StreamState) (octets : List UInt8) : Option OctetFault :=
  if octets.isEmpty then fault? s.held
  else
    let taken := octets.take s.portion
    let data := s.held ++ taken
    match fault? data with
    | none => streamFaultFrom? (s.next taken.length (decode data) []) (octets.drop s.portion)
    | some f =>
      if isOpen data f then
        streamFaultFrom?
          (s.next taken.length (decode (data.take f.position)) (data.drop f.position))
          (octets.drop s.portion)
      else some f
termination_by octets.length
decreasing_by
  all_goals
    have h : octets ≠ [] := by simp_all
    have := List.length_pos_iff.mpr h
    have := s.portion_pos
    simp only [List.length_drop]
    omega

/-- The first run of octets of a file that writes no text, as a reader finds it. -/
def streamFault? (octets : List UInt8) : Option OctetFault := streamFaultFrom? .start octets

end UxLint.Text
