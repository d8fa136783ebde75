/-!
# Name patterns

Patterns for single names: a star stands for any text, a question mark for any character, and
brackets for one character of a set. A set may be negated by an exclamation mark and may hold
ranges; a range with its ends out of order is empty.
-/

namespace BuildPilot.FileSystem

/-- A set of characters: closed ranges, or all characters outside them. -/
structure CharSet where
  negated : Bool
  ranges : List (Char × Char)
deriving DecidableEq, Repr

/-- Whether a character belongs to the set. -/
def CharSet.contains (s : CharSet) (c : Char) : Bool :=
  (s.ranges.any fun r => r.1 ≤ c && c ≤ r.2) != s.negated

/-- A part of a pattern. -/
inductive Glob where
  | star
  | one
  | oneOf (s : CharSet)
  | char (c : Char)
deriving DecidableEq, Repr

/-- Whether `p` holds of some end piece of a list. -/
def anySuffix (p : List Char → Bool) : List Char → Bool
  | [] => p []
  | c :: s => p (c :: s) || anySuffix p s

/-- Whether a name matches a pattern. -/
def globMatches : List Glob → List Char → Bool
  | [], s => s.isEmpty
  | .star :: gs, s => anySuffix (globMatches gs) s
  | .one :: gs, s => match s with
    | [] => false
    | _ :: s => globMatches gs s
  | .oneOf set :: gs, s => match s with
    | [] => false
    | c :: s => set.contains c && globMatches gs s
  | .char d :: gs, s => match s with
    | [] => false
    | c :: s => c == d && globMatches gs s

/-! ## Reading sets -/

/-- The body of a set at the start of a pattern, and what follows its closing bracket. A closing
bracket at the very start, or behind the negation, belongs to the body. -/
def setBody? (s : List Char) : Option (List Char × List Char) :=
  let (bang, s) := match s with
    | '!' :: s => (['!'], s)
    | s => ([], s)
  let (first, s) := match s with
    | ']' :: s => ([']'], s)
    | s => ([], s)
  match s.dropWhile (· != ']') with
  | _ :: rest => some (bang ++ first ++ s.takeWhile (· != ']'), rest)
  | [] => none

/-- The pieces of a set body between the hyphens that make ranges: a hyphen counts from the
position `skip` on, and the next one three characters behind it. `acc` is the current piece, last
character first. -/
def rangePieces (skip : Nat) (acc : List Char) : List Char → List (List Char)
  | [] => [acc.reverse]
  | c :: s =>
    if skip = 0 ∧ c = '-' then acc.reverse :: rangePieces 2 [] s
    else rangePieces (skip - 1) (c :: acc) s

/-- Gives a hyphen at the end of a body back to the last piece. -/
def closePieces : List (List Char) → List (List Char)
  | [] => []
  | [p, []] => [p ++ ['-']]
  | p :: ps => p :: closePieces ps

/-- Joins neighbouring pieces whose range would have its ends out of order. -/
def dropEmptyRanges : List (List Char) → List (List Char)
  | [] => []
  | p :: ps =>
    match dropEmptyRanges ps with
    | [] => [p]
    | q :: qs =>
      match p.getLast?, q.head? with
      | some a, some b => if b < a then (p.dropLast ++ q.tail) :: qs else p :: q :: qs
      | _, _ => p :: q :: qs

/-- The ranges that a list of pieces stands for: the characters of each piece, and a range from
the end of each piece to the start of the next one. -/
def rangesOf : List (List Char) → List (Char × Char)
  | [] => []
  | [p] => p.map fun c => (c, c)
  | p :: q :: ps =>
    let range := match p.getLast?, q.head? with
      | some a, some b => [(a, b)]
      | _, _ => [('-', '-')]
    (p.map fun c => (c, c)) ++ range ++ rangesOf (q :: ps)

/-- The set that a body stands for. -/
def setOf (body : List Char) : CharSet :=
  let skip := if body.head? = some '!' then 2 else 1
  let pieces := dropEmptyRanges (closePieces (rangePieces skip [] body))
  match pieces with
  | ('!' :: p) :: ps => ⟨true, rangesOf (p :: ps)⟩
  | ps => ⟨false, rangesOf ps⟩

/-- Reads a pattern; `bound` limits the number of its parts. -/
def readGlob : (bound : Nat) → List Char → List Glob
  | 0, _ => []
  | _, [] => []
  | bound + 1, '*' :: s => .star :: readGlob bound s
  | bound + 1, '?' :: s => .one :: readGlob bound s
  | bound + 1, '[' :: s =>
    match setBody? s with
    | some (body, rest) => .oneOf (setOf body) :: readGlob bound rest
    | none => .char '[' :: readGlob bound s
  | bound + 1, c :: s => .char c :: readGlob bound s

/-- Whether a name matches the text of a pattern. -/
def nameMatches (pattern name : String) : Bool :=
  globMatches (readGlob pattern.length pattern.toList) name.toList

/-- Whether a pattern stands for more than itself. -/
def isWild (pattern : String) : Bool := pattern.toList.any fun c => c == '*' || c == '?' || c == '['

end BuildPilot.FileSystem
