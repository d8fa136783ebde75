import BuildPilot.Document.Yaml.Cursor
import BuildPilot.Text.Newline
import BuildPilot.Text.Utf8

/-!
# Documents that come in pieces

A document is fetched in pieces of a fixed number of characters: two at the start, and one more
whenever the end of those before it is reached. Octets are decoded in larger portions. A piece that
holds what may not stand in a document is never there; as long as nobody reaches it, it does no
harm.
-/

namespace BuildPilot.Document.Yaml

open Text

/-- The characters that may stand in a document: control characters are out, except the tabulator
and ends of lines, and so are the last two of the first plane. -/
def isAllowed (c : Char) : Bool :=
  let n := c.toNat
  n == 0x09 || n == 0x0A || n == 0x0D || (0x20 ≤ n && n ≤ 0x7E) || n == 0x85
    || (0xA0 ≤ n && n ≤ 0xD7FF) || (0xE000 ≤ n && n ≤ 0xFFFD) || 0x10000 ≤ n

/-- The number of characters in a piece. -/
def pieceSize : Nat := 4096

/-- The number of octets that are decoded at once. -/
def portionSize : Nat := 8192

/-- A document as far as it can be fetched, and the fault in the piece behind that. -/
structure Supply where
  text : List Char
  fault : Option ReadError

/-- The place of the first octet that UTF-8 rules out behind the unfinished character `u`, counted
from `place`. -/
def misfit? (u : Option Unfinished) (place : Nat) : List UInt8 → Option Nat
  | [] => none
  | b :: bs =>
    if fits u b.toNat then misfit? (readOctet u b).1 (place + 1) bs else some place
where
  /-- Whether an octet may come next. -/
  fits : Option Unfinished → Nat → Bool
    | none, b => (leadOctet b).isSome
    | some u, b => u.low ≤ b && b ≤ u.high

/-- The characters of octets without a misfit. The last one is left out if it is not finished, or a
carriage return, which waits for what comes behind it. -/
def settled (bs : List UInt8) : List Char :=
  let cs := decodeFrom none bs
  let cs := if (decode? bs).isSome then cs else cs.dropLast
  unifyNewlines (if cs.getLast? == some '\r' then cs.dropLast else cs)

/-- The characters that come before the fault in octets that are not UTF-8: those of the portions
before the first misfit, or of all octets, if only the last character is not finished. -/
def decodable (bs : List UInt8) : List Char :=
  match misfit? none 0 bs with
  | some place => settled (bs.take (place / portionSize * portionSize))
  | none => settled bs

/-- The step at which a piece is fetched: the first two come together. -/
def stepOf (piece : Nat) : Nat := piece - 1

/-- The document that has a fault in a piece, if the pieces before it are good. -/
def cutBefore (text : List Char) (piece : Nat) (fault : ReadError) : Except ReadError Supply :=
  if stepOf piece = 0 then .error fault
  else .ok ⟨text.take (piece * pieceSize), some fault⟩

/-- The document in octets. -/
def Supply.ofOctets (bs : List UInt8) : Except ReadError Supply :=
  let (text, undecoded) := match decode? bs with
    | some s => (unifyNewlines s.toList, none)
    | none =>
      let text := decodable bs
      (text, some (text.length / pieceSize))
  let forbidden := (text.findIdx? fun c => !isAllowed c).map (· / pieceSize)
  match undecoded, forbidden with
  | none, none => .ok ⟨text, none⟩
  | some p, none => cutBefore text p .notUtf8
  | none, some q => cutBefore text q malformed
  | some p, some q =>
    if stepOf p ≤ stepOf q then cutBefore text p .notUtf8 else cutBefore text q malformed

end BuildPilot.Document.Yaml
