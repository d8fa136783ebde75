import BuildPilot.Shell.Utility.Basic

/-!
# Programs that work on contents

They print parts of files, count, order and change what is in them, and print rows of numbers.
-/

namespace BuildPilot.Shell

open FileSystem Text

namespace Utility

/-- The number of lines or octets that an option asks for. -/
def amount (os : List (Char × String)) (letter : Char) : Option Nat :=
  (os.lookup letter).bind String.toNat?

/-- Arguments in which a bare number stands for a number of lines. -/
def withBareNumber : List String → List String
  | [] => []
  | arg :: rest =>
    match arg.toList with
    | '-' :: c :: cs =>
      if (c :: cs).all Char.isDigit then "-n" :: String.ofList (c :: cs) :: rest else arg :: rest
    | _ => arg :: rest

/-- Prints the first part of files. -/
def head (args : List String) : Run Unit := do
  let (os, paths) := split "nc" (withBareNumber args)
  forContents "head" paths fun _ content => do
    match amount os 'c' with
    | some n => Run.write 1 (content.take n)
    | none =>
      let lines := linesOf content
      let n := (amount os 'n').getD 10
      Run.write 1 (if lines.length ≤ n then content else contentOfLines (lines.take n))

/-- Prints the last part of files. -/
def tail (args : List String) : Run Unit := do
  let (os, paths) := split "nc" (withBareNumber args)
  forContents "tail" paths fun _ content => do
    match amount os 'c' with
    | some n => Run.write 1 (content.drop (content.length - n))
    | none =>
      let lines := linesOf content
      let dropped := match os.lookup 'n' with
        | some text =>
          if text.startsWith "+" then ((text.drop 1).toString.toNat?.getD 1) - 1
          else lines.length - (text.toNat?.getD 10)
        | none => lines.length - 10
      Run.write 1 (content.drop (contentOfLines (lines.take dropped)).length)

/-- Counts lines, words and octets. -/
def wc (args : List String) : Run Unit := do
  let (os, paths) := split "" args
  forContents "wc" paths fun path content => do
    let isGap (b : UInt8) := b = 32 || (9 ≤ b && b ≤ 13)
    let rec words (inWord : Bool) : List UInt8 → Nat
      | [] => 0
      | b :: bs => (if !isGap b && !inWord then 1 else 0) + words (!isGap b) bs
    let all := !given os "lwc"
    let numbers := (if all || given os "l" then [content.count 10] else [])
      ++ (if all || given os "w" then [words false content] else [])
      ++ if all || given os "c" then [content.length] else []
    let width := if path == "-" then 7 else (toString content.length).length
    let padded (n : Nat) := let t := toString n
      if numbers.length = 1 then t else "".pushn ' ' (width - t.length) ++ t
    let named := if path == "-" then "" else " " ++ path
    Run.say (" ".intercalate (numbers.map padded) ++ named ++ "\n")

/-- Prints lines in order. -/
def sort (args : List String) : Run Unit := do
  let (os, paths) := split "kt" args
  let s ← get
  let mut all : List (List UInt8) := []
  for path in (if paths.isEmpty then ["-"] else paths) do
    match ← contentOf "sort" path with
    | some content => all := all ++ linesOf content
    | none => return
  modify fun t => { t with status := s.status }
  let number (l : List UInt8) : Int :=
    let (minus, body) := Numeric.splitSign ((decode l).toList.dropWhile (· == ' '))
    Numeric.withSign minus
      (Numeric.ofDigits 10 0 ((body.takeWhile Char.isDigit).filterMap asciiDigit?))
  let before (a b : List UInt8) : Bool :=
    if given os "n" && number a != number b then number a < number b else a ≤ b
  let sorted := all.mergeSort before
  let sorted := if given os "r" then sorted.reverse else sorted
  Run.write 1 (contentOfLines (if given os "u" then sorted.eraseDups else sorted))
  Run.setStatus 0

/-- Prints one of each run of equal lines. -/
def uniq (args : List String) : Run Unit := do
  let (os, paths) := split "" args
  forContents "uniq" (paths.take 1) fun _ content => do
    let runs := (linesOf content).splitBy (· == ·)
    for run in runs do
      let count := toString run.length
      if given os "c" then Run.say ("".pushn ' ' (7 - count.length) ++ count ++ " ")
      Run.write 1 (run.headD [] ++ [10])

/-- The octets of a set of characters, ranges spelt out. -/
def setOctets : (bound : Nat) → List UInt8 → List UInt8
  | 0, s => s
  | bound + 1, a :: 45 :: b :: s =>
    let range := (List.range (b.toNat + 1 - a.toNat)).map fun n => UInt8.ofNat (a.toNat + n)
    range ++ setOctets bound s
  | bound + 1, a :: s => a :: setOctets bound s
  | _, [] => []

/-- Replaces or deletes octets. -/
def tr (args : List String) : Run Unit := do
  let (os, sets) := split "" args
  let octets (text : String) := let bs := (unescaped text).1; setOctets (bs.length + 1) bs
  let first := octets (sets.headD "")
  let second := octets ((sets.drop 1).headD "")
  let content ← Run.takeAll 0
  let chosen (b : UInt8) := first.contains b != given os "cC"
  let changed := if given os "d" then content.filter (!chosen ·)
    else if second.isEmpty then content
    else content.map fun b =>
      if !chosen b then b
      else match if given os "cC" then none else first.idxOf? b with
        | some n => (second[n]?).getD (second.getLast?.getD b)
        | none => second.getLast?.getD b
  let squeezable := if second.isEmpty then first else second
  let rec squeeze (last : Option UInt8) : List UInt8 → List UInt8
    | [] => []
    | b :: bs =>
      if last = some b && squeezable.contains b then squeeze last bs else b :: squeeze (some b) bs
  Run.write 1 (if given os "s" then squeeze none changed else changed)
  Run.setStatus 0

/-- Whether a list of numbers and ranges holds a number. -/
def selected (selection : String) (n : Nat) : Bool :=
  (pieces ',' selection).any fun range =>
    match pieces '-' range with
    | [a] => a.toNat? == some n
    | [a, b] => (a.toNat?.getD 1) ≤ n && n ≤ (b.toNat?.getD n)
    | _ => false

/-- Prints some fields or octets of each line. -/
def cut (args : List String) : Run Unit := do
  let (os, paths) := split "dfc" args
  let separator := ((os.lookup 'd').bind fun d => d.toList.head?).getD '\t'
  forContents "cut" paths fun _ content => do
    for line in linesOf content do
      let chosen {α : Type} (selection : String) (xs : List α) : List α :=
        (xs.zipIdx 1).filterMap fun (x, n) => if selected selection n then some x else none
      let result := match os.lookup 'f', os.lookup 'c' with
        | some selection, _ =>
          let fields := pieces separator (decode line)
          if fields.length = 1 then line
          else encode (separator.toString.intercalate (chosen selection fields))
        | none, some selection => chosen selection line
        | none, none => line
      Run.write 1 (result ++ [10])

/-- Prints numbers in steps. -/
def seq (args : List String) : Run Unit := do
  let numbers := args.map fun a => (a.toInt?).getD 0
  let (first, step, last) : Int × Int × Int := match numbers with
    | [last] => (1, 1, last)
    | [first, last] => (first, 1, last)
    | [first, step, last] => (first, step, last)
    | _ => (1, 1, 0)
  let count := if step = 0 then 0 else ((last - first).tdiv step + 1).toNat
  let reached := if 0 < step then first ≤ last else last ≤ first
  if reached then
    let lines := (List.range count).map fun (n : Nat) => toString (first + step * n) ++ "\n"
    Run.say (String.join lines)
  Run.setStatus 0

/-- Writes its input to the output and to files. -/
def tee (args : List String) : Run Unit := do
  let (os, paths) := split "" args
  let content ← Run.takeAll 0
  Run.write 1 content
  Run.setStatus 0
  paths.forM fun path => do
    let s ← get
    match s.world.openWrite (given os "a") (← Run.sight true path) with
    | .ok (id, w) => modify fun s => { s with world := w.write id content }
    | .error cause => fail "tee" s!"{path}: {cause.text}"

end Utility

end BuildPilot.Shell
