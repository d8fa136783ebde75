import BuildPilot.Shell.Arithmetic
import BuildPilot.Text.Utf8

/-!
# Formatted output

Backslash escapes and formats, as the commands that print texts know them. An escape may stand for
an octet that is no character, so the results are octets.
-/

namespace BuildPilot.Shell

open Numeric Text

/-- The octet that a number in octal digits stands for. -/
def octalOctet (ds : List Char) : UInt8 := UInt8.ofNat (ofDigits 8 0 (ds.filterMap (basedDigit? 8)))

/-- The octal digits at the front of a text, at most `n`. -/
def octalDigits (n : Nat) (s : List Char) : List Char :=
  (s.take n).takeWhile fun c => '0' ≤ c && c ≤ '7'

/-- The octet of an escape of one letter. -/
def letterEscape? : Char → Option UInt8
  | 'a' => some 7
  | 'b' => some 8
  | 't' => some 9
  | 'n' => some 10
  | 'v' => some 11
  | 'f' => some 12
  | 'r' => some 13
  | '\\' => some 92
  | _ => none

/-- Reads an escape behind its backslash: its octets, and what follows it. -/
def readEscape : List Char → List UInt8 × List Char
  | [] => ([92], [])
  | c :: s =>
    match letterEscape? c with
    | some b => ([b], s)
    | none =>
      let ds := octalDigits 3 (c :: s)
      if ds.isEmpty then ([92], c :: s) else ([octalOctet ds], (c :: s).drop ds.length)

/-- The octets of a text with escapes, and whether one of them ends all output. -/
def escapedOctets : (bound : Nat) → List Char → List UInt8 × Bool
  | 0, _ => ([], false)
  | _, [] => ([], false)
  | _, '\\' :: 'c' :: _ => ([], true)
  | bound + 1, '\\' :: '0' :: s =>
    let ds := octalDigits 3 s
    let (rest, stop) := escapedOctets bound (s.drop ds.length)
    (octalOctet ds :: rest, stop)
  | bound + 1, '\\' :: s =>
    let (octets, s) := readEscape s
    let (rest, stop) := escapedOctets bound s
    (octets ++ rest, stop)
  | bound + 1, c :: s =>
    let (rest, stop) := escapedOctets bound s
    (encode c.toString ++ rest, stop)

/-- The octets of a text in which escapes count, and whether one of them ends all output. -/
def unescaped (s : String) : List UInt8 × Bool := escapedOctets (s.length + 1) s.toList

/-- What a format has printed so far, and what it has left to work with. -/
structure Formatting where
  octets : List UInt8
  arguments : List String
  complaints : List String
  /-- Whether all output has ended. -/
  stopped : Bool

/-- A directive of a format. -/
structure Directive where
  left : Bool
  zeros : Bool
  plus : Bool
  space : Bool
  mark : Bool
  width : Nat
  precision : Option Nat

/-- Octets padded to the width of a directive. -/
def Directive.pad (d : Directive) (octets : List UInt8) : List UInt8 :=
  let gap := List.replicate (d.width - octets.length) (32 : UInt8)
  if d.left then octets ++ gap else gap ++ octets

/-- The digits of a number in a base, at least as many as the precision says. -/
def Directive.digits (d : Directive) (base : Nat) (n : Nat) : List Char :=
  let ds := if n = 0 ∧ d.precision = some 0 then [] else Nat.toDigits base n
  List.replicate (d.precision.getD 0 - ds.length) '0' ++ ds

/-- A number as a directive prints it. -/
def Directive.number (d : Directive) (sign mark : List Char) (ds : List Char) : List UInt8 :=
  let front := sign ++ mark
  let zeros := if d.zeros && !d.left && d.precision.isNone then
      List.replicate (d.width - front.length - ds.length) '0'
    else []
  d.pad (encode (String.ofList (front ++ zeros ++ ds)))

/-- The number that an argument denotes, with a complaint if it is none. -/
def numberArgument (s : String) : Int × List String :=
  match s.toList with
  | [] => (0, [])
  | '\'' :: c :: _ => (c.toNat, [])
  | '"' :: c :: _ => (c.toNat, [])
  | cs =>
    let (minus, body) := splitSign (cs.dropWhile fun c => c == ' ' || c == '\t' || c == '\n')
    let (n, rest) := numeral body
    let n := withSign minus n
    if !(body.head?.map Char.isDigit).getD false then (0, [s ++ ": expected numeric value"])
    else if rest.isEmpty then (n, []) else (n, [s ++ ": not completely converted"])

/-- The flags at the front of a directive, and what follows them. -/
def readFlags (d : Directive) : List Char → Directive × List Char
  | '-' :: s => readFlags { d with left := true } s
  | '0' :: s => readFlags { d with zeros := true } s
  | '+' :: s => readFlags { d with plus := true } s
  | ' ' :: s => readFlags { d with space := true } s
  | '#' :: s => readFlags { d with mark := true } s
  | s => (d, s)

/-- A number in a directive, which may be taken from the arguments. -/
def readSize (f : Formatting) : List Char → Int × Formatting × List Char
  | '*' :: s =>
    let (n, complaints) := numberArgument (f.arguments.headD "")
    let rest := f.arguments.drop 1
    (n, { f with arguments := rest, complaints := f.complaints ++ complaints }, s)
  | s =>
    let ds := s.takeWhile Char.isDigit
    (ofDigits 10 0 (ds.filterMap asciiDigit?), f, s.drop ds.length)

/-- Prints an argument by the letter of a directive. -/
def convert (d : Directive) (letter : Char) (f : Formatting) : Formatting :=
  let text := f.arguments.headD ""
  let f := { f with arguments := f.arguments.drop 1 }
  let cut (octets : List UInt8) := match d.precision with
    | some n => octets.take n
    | none => octets
  let print (octets : List UInt8) := { f with octets := f.octets ++ octets }
  let number (digits : Int → List Char × List Char × List Char) :=
    let (n, complaints) := numberArgument text
    let (sign, mark, ds) := digits n
    let f := print (d.number sign mark ds)
    { f with complaints := f.complaints ++ complaints }
  let unsigned (n : Int) : Nat := (n % Nat.pow 2 64).toNat
  match letter with
  | 's' => print (d.pad (cut (encode text)))
  | 'c' => print (d.pad (if text.isEmpty then [0] else (encode text).take 1))
  | 'b' =>
    let (octets, stop) := unescaped text
    { print (d.pad (cut octets)) with stopped := stop }
  | 'o' => number fun n => ([], if d.mark then ['0'] else [], d.digits 8 (unsigned n))
  | 'u' => number fun n => ([], [], d.digits 10 (unsigned n))
  | 'x' => number fun n =>
    ([], if d.mark && n != 0 then ['0', 'x'] else [], d.digits 16 (unsigned n))
  | 'X' => number fun n =>
    ([], if d.mark && n != 0 then ['0', 'X'] else [], (d.digits 16 (unsigned n)).map Char.toUpper)
  | _ => number fun n =>
    let sign := if n < 0 then ['-'] else if d.plus then ['+'] else if d.space then [' '] else []
    (sign, [], d.digits 10 n.natAbs)

/-- Prints a format once. -/
def formatOnce : (bound : Nat) → Formatting → List Char → Formatting
  | 0, f, _ => f
  | _, f, [] => f
  | bound + 1, f, '\\' :: s =>
    let (octets, s) := readEscape s
    formatOnce bound { f with octets := f.octets ++ octets } s
  | bound + 1, f, '%' :: '%' :: s => formatOnce bound { f with octets := f.octets ++ [37] } s
  | bound + 1, f, '%' :: s =>
    let (d, s) := readFlags ⟨false, false, false, false, false, 0, none⟩ s
    let (width, f, s) := readSize f s
    let d := { d with width := width.natAbs, left := d.left || width < 0 }
    let (d, f, s) := match s with
      | '.' :: s =>
        let (n, f, s) := readSize f s
        ({ d with precision := if n < 0 then none else some n.toNat }, f, s)
      | s => (d, f, s)
    match s with
    | [] => { f with complaints := f.complaints ++ ["missing format character"], stopped := true }
    | c :: s =>
      if "sbcdiouxX".toList.contains c then
        let f := convert d c f
        if f.stopped then f else formatOnce bound f s
      else
        let complaint := "%" ++ c.toString ++ ": invalid directive"
        { f with complaints := f.complaints ++ [complaint], stopped := true }
  | bound + 1, f, c :: s => formatOnce bound { f with octets := f.octets ++ encode c.toString } s

/-- Prints a format as often as it takes to use all arguments up. -/
def formatAll (format : String) : (bound : Nat) → Formatting → Formatting
  | 0, f => f
  | bound + 1, f =>
    let before := f.arguments.length
    let f := formatOnce (format.length + 1) f format.toList
    if f.stopped || f.arguments.isEmpty || f.arguments.length == before then f
    else formatAll format bound f

/-- What a format prints with the given arguments. -/
def formatted (format : String) (arguments : List String) : Formatting :=
  formatAll format (arguments.length + 1) ⟨[], arguments, [], false⟩

end BuildPilot.Shell
