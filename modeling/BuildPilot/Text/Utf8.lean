/-!
# Reading UTF-8

Octets are read one at a time by a small machine, so that the result does not depend on how they
arrive. Where the octets rule UTF-8 out, the octets read so far that start no longer sequence give
one replacement character, and reading goes on with the octet that did not fit.
-/

namespace BuildPilot.Text

/-- A character of which some octets are still owed: the bits read so far, the number of octets
that must follow, and the range of the next one. -/
structure Unfinished where
  bits : Nat
  owed : Nat
  low : Nat
  high : Nat
deriving DecidableEq, Repr

/-- The replacement character. -/
def replacement : Char := '\ufffd'

/-- What the first octet of a character announces: a whole character, an unfinished one, or
nothing that UTF-8 allows. -/
def leadOctet (b : Nat) : Option (Char ⊕ Unfinished) :=
  if b < 0x80 then some (.inl (Char.ofNat b))
  else if 0xC2 ≤ b ∧ b ≤ 0xDF then some (.inr ⟨b - 0xC0, 1, 0x80, 0xBF⟩)
  else if b = 0xE0 then some (.inr ⟨0, 2, 0xA0, 0xBF⟩)
  else if b = 0xED then some (.inr ⟨0xD, 2, 0x80, 0x9F⟩)
  else if 0xE1 ≤ b ∧ b ≤ 0xEF then some (.inr ⟨b - 0xE0, 2, 0x80, 0xBF⟩)
  else if b = 0xF0 then some (.inr ⟨0, 3, 0x90, 0xBF⟩)
  else if 0xF1 ≤ b ∧ b ≤ 0xF3 then some (.inr ⟨b - 0xF0, 3, 0x80, 0xBF⟩)
  else if b = 0xF4 then some (.inr ⟨4, 3, 0x80, 0x8F⟩)
  else none

/-- Reads an octet between two characters. -/
def startCharacter (b : Nat) : Option Unfinished × List Char :=
  match leadOctet b with
  | some (.inl c) => (none, [c])
  | some (.inr u) => (some u, [])
  | none => (none, [replacement])

/-- Reads an octet: the unfinished character after it and the characters that it completes. -/
def readOctet : Option Unfinished → UInt8 → Option Unfinished × List Char
  | none, b => startCharacter b.toNat
  | some u, b =>
    if u.low ≤ b.toNat ∧ b.toNat ≤ u.high then
      let bits := u.bits * 64 + (b.toNat - 0x80)
      if u.owed ≤ 1 then (none, [Char.ofNat bits])
      else (some ⟨bits, u.owed - 1, 0x80, 0xBF⟩, [])
    else
      let (next, cs) := startCharacter b.toNat
      (next, replacement :: cs)

/-- What an unfinished character becomes when the octets end. -/
def endOfOctets : Option Unfinished → List Char
  | none => []
  | some _ => [replacement]

/-- The characters of a sequence of octets, read from a given state on. -/
def decodeFrom : Option Unfinished → List UInt8 → List Char
  | u, [] => endOfOctets u
  | u, b :: bs => let (next, cs) := readOctet u b; cs ++ decodeFrom next bs

/-- The text of a sequence of octets, with replacement characters where it is not UTF-8. -/
def decode (bs : List UInt8) : String := String.ofList (decodeFrom none bs)

/-- The text of a sequence of octets, if it is UTF-8. -/
def decode? (bs : List UInt8) : Option String := String.fromUTF8? ⟨bs.toArray⟩

/-- The octets of a text. -/
def encode (s : String) : List UInt8 := s.toUTF8.toList

end BuildPilot.Text
