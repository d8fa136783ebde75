/-!
# Octets in letters

Four letters, digits or signs stand for three octets. Other characters between them are skipped, and
equals signs at the end fill the last group up.
-/

namespace BuildPilot.Document.Yaml

/-- The six bits of a character. -/
def sextet? (c : Char) : Option Nat :=
  if c.isUpper then some (c.toNat - 0x41)
  else if c.isLower then some (c.toNat - 0x61 + 26)
  else if c.isDigit then some (c.toNat - 0x30 + 52)
  else if c == '+' then some 62
  else if c == '/' then some 63
  else none

/-- Reads octets: `place` counts the sextets of the current group, `left` holds the bits of the last
one that no octet has taken, and `pads` the equals signs in a row. A group must be complete, be it
by equals signs. -/
def octetsFrom? (place left pads : Nat) : List Char → Option (List UInt8)
  | [] => if place = 0 then some [] else none
  | '=' :: s =>
    if 2 ≤ place then
      if 4 ≤ place + pads + 1 then some [] else octetsFrom? place left (pads + 1) s
    else octetsFrom? place left pads s
  | c :: s =>
    match sextet? c with
    | none => octetsFrom? place left pads s
    | some b =>
      if place = 0 then octetsFrom? 1 b 0 s
      else if place = 1 then (octetsFrom? 2 (b % 16) 0 s).map ((left * 4 + b / 16).toUInt8 :: ·)
      else if place = 2 then (octetsFrom? 3 (b % 4) 0 s).map ((left * 16 + b / 4).toUInt8 :: ·)
      else (octetsFrom? 0 0 0 s).map ((left * 64 + b).toUInt8 :: ·)

/-- The octets that a text stands for. -/
def octetsOf? (s : List Char) : Option (List UInt8) := octetsFrom? 0 0 0 s

end BuildPilot.Document.Yaml
