import BuildPilot.Document.Calendar
import BuildPilot.Numeric.FloatText
import BuildPilot.Text.Quoted

/-!
# Values of documents

What a configuration document may hold: nothing, truth values, numbers, texts, octets, dates and
times, lists, sets and mappings. A mapping keeps its entries in order of first arrival, and a key
that comes again replaces the value in place; a truth value, a whole number and a floating-point
number that are equal are one key.

A collection may hold itself. It then has a number, and stands in a table beside the value of the
document; in values only its number occurs.
-/

namespace BuildPilot.Document

open Numeric Text

/-- A value of a document. -/
inductive Value where
  | null
  | bool (b : Bool)
  | int (n : Int)
  | float (x : Float)
  | text (s : String)
  | octets (bs : List UInt8)
  | date (d : Date)
  | time (t : Time)
  | dateTime (t : DateTime)
  | list (vs : List Value)
  | tuple (vs : List Value)
  | set (vs : List Value)
  | map (entries : List (Value × Value))
  /-- A collection that holds itself, by its number. -/
  | loop (n : Nat)
deriving Inhabited

namespace Value

/-! ## The text of a value -/

mutual

/-- A value in the notation of messages: texts in quotes, brackets around lists, braces around
mappings. A collection that holds itself has the text that `inner` gives. -/
def literalWith (inner : Nat → String) : Value → String
  | null => "None"
  | bool b => if b then "True" else "False"
  | int n => decimal n
  | float x => floatText x
  | text s => quoted s
  | octets bs => quotedOctets bs
  | date d => d.literal
  | time t => t.literal
  | dateTime t => t.literal
  | list vs => "[" ++ ", ".intercalate (literals inner vs) ++ "]"
  | tuple [v] => "(" ++ literalWith inner v ++ ",)"
  | tuple vs => "(" ++ ", ".intercalate (literals inner vs) ++ ")"
  | set [] => "set()"
  | set vs => "\x7b" ++ ", ".intercalate (literals inner vs) ++ "\x7d"
  | map es => "\x7b" ++ ", ".intercalate (entryLiterals inner es) ++ "\x7d"
  | loop n => inner n

/-- The values of a list in the notation of messages. -/
def literals (inner : Nat → String) : List Value → List String
  | [] => []
  | v :: vs => literalWith inner v :: literals inner vs

/-- The entries of a mapping in the notation of messages. -/
def entryLiterals (inner : Nat → String) : List (Value × Value) → List String
  | [] => []
  | (k, v) :: es =>
    (literalWith inner k ++ ": " ++ literalWith inner v) :: entryLiterals inner es

end

/-- What is shown of a collection inside itself. -/
def ellipsis : Value → String
  | map _ => "\x7b...\x7d"
  | _ => "[...]"

/-- A value in the notation of messages, where no collection holds itself. -/
def literal (v : Value) : String := v.literalWith fun _ => "[...]"

/-- A value as plain text: texts and dates stand for themselves, all else is in the notation of
messages. -/
def display : Value → String
  | text s => s
  | date d => d.text
  | time t => t.text
  | dateTime t => t.text " "
  | v => v.literal

/-! ## Numbers that cannot be written -/

mutual

/-- Whether all numbers in a value can be written; `inner` says so of the collections that hold
themselves. -/
def isWritableWith (inner : Nat → Bool) : Value → Bool
  | int n => isWritable n
  | list vs => areWritable inner vs
  | tuple vs => areWritable inner vs
  | set vs => areWritable inner vs
  | map es => entriesAreWritable inner es
  | loop n => inner n
  | _ => true

/-- Whether all numbers in the values of a list can be written. -/
def areWritable (inner : Nat → Bool) : List Value → Bool
  | [] => true
  | v :: vs => isWritableWith inner v && areWritable inner vs

/-- Whether all numbers in the entries of a mapping can be written. -/
def entriesAreWritable (inner : Nat → Bool) : List (Value × Value) → Bool
  | [] => true
  | (k, v) :: es =>
    isWritableWith inner k && isWritableWith inner v && entriesAreWritable inner es

end

/-- Whether all numbers in a value can be written, where no collection holds itself. -/
def isWritable (v : Value) : Bool := v.isWritableWith fun _ => true

/-! ## Keys -/

/-- The number that a truth value or a number stands for as a key. -/
inductive NumberKey where
  | whole (n : Int)
  | bits (b : UInt64)
deriving DecidableEq

/-- The whole number that a finite floating-point number equals, if it is one. -/
def wholeOfFloat? (x : Float) : Option Int :=
  if x.isNaN || x.isInf then none
  else
    let b := Binary.ofBits x.toBits
    let minus := x.toBits >>> 63 == 1
    if 0 ≤ b.q then some (withSign minus (b.m * Nat.pow 2 b.q.toNat))
    else
      let unit := Nat.pow 2 (-b.q).toNat
      if b.m % unit == 0 then some (withSign minus (b.m / unit)) else none

/-- A truth value or number as a key: equal numbers of different types are the same key. What is
not a number at all equals nothing, itself included. -/
def numberKey? : Value → Option NumberKey
  | bool b => some (.whole (if b then 1 else 0))
  | int n => some (.whole n)
  | float x =>
    if x.isNaN then none
    else some (match wholeOfFloat? x with
      | some n => .whole n
      | none => .bits x.toBits)
  | _ => none

/-- Whether two moments are the same: those with an offset are compared in universal time. -/
def sameMoment (a b : DateTime) : Bool :=
  a.time.offset.isSome == b.time.offset.isSome && a.microseconds == b.microseconds

/-- Whether two times of day are the same: those with an offset are compared in universal time. -/
def sameTime (a b : Time) : Bool :=
  a.offset.isSome == b.offset.isSome && a.microseconds == b.microseconds

mutual

/-- Whether two values are the same key. -/
def sameKey : Value → Value → Bool
  | null, null => true
  | text s, text t => s == t
  | octets a, octets b => a == b
  | date a, date b => a == b
  | time a, time b => sameTime a b
  | dateTime a, dateTime b => sameMoment a b
  | tuple vs, tuple ws => sameKeys vs ws
  | v, w => match numberKey? v, numberKey? w with
    | some a, some b => a == b
    | _, _ => false

/-- Whether two tuples are the same key. -/
def sameKeys : List Value → List Value → Bool
  | [], [] => true
  | v :: vs, w :: ws => sameKey v w && sameKeys vs ws
  | _, _ => false

end

mutual

/-- Whether a value may be a key: lists, sets and mappings may not. -/
def isKey : Value → Bool
  | list _ => false
  | set _ => false
  | map _ => false
  | loop _ => false
  | tuple vs => areKeys vs
  | _ => true

/-- Whether all values of a tuple may be keys. -/
def areKeys : List Value → Bool
  | [] => true
  | v :: vs => isKey v && areKeys vs

end

/-! ## Mappings -/

/-- The entries of a mapping after `k` is bound to `v`: a key that is there keeps its place. -/
def insertEntry (k v : Value) : List (Value × Value) → List (Value × Value)
  | [] => [(k, v)]
  | (k', v') :: es => if sameKey k' k then (k', v) :: es else (k', v') :: insertEntry k v es

/-- The mapping that binds each key to the last value given for it, in order of first arrival. -/
def mapOf (entries : List (Value × Value)) : Value :=
  map (entries.foldl (fun es (k, v) => insertEntry k v es) [])

/-- The value bound to a text in a list of entries. -/
def lookup? (key : String) : List (Value × Value) → Option Value
  | [] => none
  | (text k, v) :: es => if k = key then some v else lookup? key es
  | _ :: es => lookup? key es

end Value

end BuildPilot.Document

namespace BuildPilot

open Document

/-- A document: its value, and the collections that hold themselves by their numbers. -/
structure Document where
  root : Value
  loops : List (Nat × Value) := []

namespace Document

/-- The value that a value stands for: a number stands for its collection. -/
def resolved (doc : Document) : Value → Value
  | .loop n => (doc.loops.lookup n).getD .null
  | v => v

/-- The entries of a value, if it is a mapping. -/
def entries? (doc : Document) (v : Value) : Option (List (Value × Value)) :=
  match doc.resolved v with
  | .map es => some es
  | _ => none

/-- The entries of the document; only a mapping has any. -/
def entries (doc : Document) : List (Value × Value) := (doc.entries? doc.root).getD []

/-- The text of the collection `n`, where the collections in `around` are being written already;
each collection is written out once on the way to any place. -/
def loopText (doc : Document) : (bound : Nat) → (around : List Nat) → Nat → String
  | 0, _, _ => ""
  | bound + 1, around, n =>
    let v := doc.resolved (.loop n)
    if n ∈ around then v.ellipsis else v.literalWith (doc.loopText bound (n :: around))

/-- A value of the document in the notation of messages. -/
def literal (doc : Document) (v : Value) : String :=
  v.literalWith (doc.loopText (doc.loops.length + 1) [])

/-- Whether the collection `n` holds only numbers that can be written, those in `around` apart. -/
def isLoopWritable (doc : Document) : (bound : Nat) → (around : List Nat) → Nat → Bool
  | 0, _, _ => true
  | bound + 1, around, n =>
    n ∈ around
      || (doc.resolved (.loop n)).isWritableWith (doc.isLoopWritable bound (n :: around))

/-- Whether a value of the document holds only numbers that can be written. -/
def isWritable (doc : Document) (v : Value) : Bool :=
  v.isWritableWith (doc.isLoopWritable (doc.loops.length + 1) [])

end Document

end BuildPilot
