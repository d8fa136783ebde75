import BuildPilot.Shell.Utility.Files
import BuildPilot.Shell.Utility.Lines

/-!
# Common programs

The small programs that scripts start, by name. Each one takes its arguments and works in the
directory and on the descriptors of the program that it is.
-/

namespace BuildPilot.Shell

open FileSystem Text

namespace Utility

/-- Prints its arguments; escapes count only on demand. -/
def echo (args : List String) : Run Unit := do
  let isOption (a : String) := match a.toList with
    | '-' :: c :: cs => (c :: cs).all fun c => c == 'n' || c == 'e' || c == 'E'
    | _ => false
  let os := args.takeWhile isOption
  let text := " ".intercalate (args.drop os.length)
  let letters := os.flatMap String.toList
  let escapes := (letters.filter fun c => c == 'e' || c == 'E').getLast? == some 'e'
  let (octets, stop) := if escapes then unescaped text else (encode text, false)
  Run.write 1 (octets ++ if letters.contains 'n' || stop then [] else [10])
  Run.setStatus 0

/-- The value of an expression of words: comparisons, sums and products from left to right. -/
def exprValue : List String → Option String
  | [a] => some a
  | [a, o, b] =>
    match a.toInt?, b.toInt? with
    | some m, some n =>
      let truth (b : Bool) := some (if b then "1" else "0")
      match o with
      | "+" => some (toString (m + n))
      | "-" => some (toString (m - n))
      | "*" => some (toString (m * n))
      | "/" => if n = 0 then none else some (toString (m.tdiv n))
      | "%" => if n = 0 then none else some (toString (m.tmod n))
      | "=" => truth (m == n)
      | "!=" => truth (m != n)
      | "<" => truth (m < n)
      | ">" => truth (n < m)
      | "<=" => truth (m ≤ n)
      | ">=" => truth (n ≤ m)
      | _ => none
    | _, _ =>
      match o with
      | "=" => some (if a == b then "1" else "0")
      | "!=" => some (if a == b then "0" else "1")
      | _ => none
  | _ => none

/-- Prints the value of an expression. -/
def expr (args : List String) : Run Unit := do
  match exprValue args with
  | none =>
    Run.mutter "expr: syntax error\n"
    Run.setStatus 2
  | some v =>
    Run.say (v ++ "\n")
    Run.setStatus (if v.isEmpty || v == "0" then 1 else 0)

/-- Prints variables of the environment. -/
def printenv (args : List String) : Run Unit := do
  let env := (← get).environment
  if args.isEmpty then
    env.bindings.forM fun (name, value) => Run.say (name ++ "=" ++ value ++ "\n")
    Run.setStatus 0
  else
    args.forM fun name => match env.get? name with
      | some value => Run.say (value ++ "\n")
      | none => return ()
    Run.setStatus (if args.all fun n => (env.get? n).isSome then 0 else 1)

/-- The programs by their names; each takes its arguments. -/
def table : List (String × (List String → Run Unit)) :=
  let each (valued : String) (f : List (Char × String) → String → Run Unit) (args : List String) :
      Run Unit := do
    let (os, paths) := split valued args
    Run.setStatus 0
    paths.forM (f os)
  let under (program : String) : String → Run Unit := fun text =>
    Run.mutter (program ++ ": " ++ text ++ "\n")
  [("true", fun _ => Run.setStatus 0),
    ("false", fun _ => Run.setStatus 1),
    ("echo", echo),
    ("printf", Builtin.printf (under "printf")),
    ("test", Builtin.condition (under "test")),
    ("[", Builtin.bracket (under "[")),
    ("pwd", fun _ => Builtin.pwd ["-P"]),
    ("cat", fun args => forContents "cat" (split "" args).2 fun _ content => Run.write 1 content),
    ("printenv", printenv),
    ("mkdir", each "m" fun os path => makeDirectory (given os "p") path),
    ("rm", each "" fun os path => remove (given os "rR") (given os "f") path),
    ("rmdir", each "" fun _ path => removeDirectory path),
    ("touch", each "" fun _ path => touch path),
    ("cp", fun args =>
      let (os, paths) := split "" args
      transferAll "cp" false (given os "rRa") paths),
    ("mv", fun args => transferAll "mv" true true (split "" args).2),
    ("ln", fun args => do
      let (os, paths) := split "" args
      let target := paths.headD ""
      Run.setStatus 0
      link (given os "f") (given os "s") target ((paths.drop 1).headD (basename [target]))),
    ("chmod", fun args => do
      let paths := args.filter (· != "--")
      Run.setStatus 0
      (paths.drop 1).forM (chmod (paths.headD ""))),
    ("ls", ls),
    ("head", head),
    ("tail", tail),
    ("wc", wc),
    ("sort", sort),
    ("uniq", uniq),
    ("tr", tr),
    ("cut", cut),
    ("seq", seq),
    ("sleep", fun _ => Run.setStatus 0),
    ("basename", fun args => do Run.say (basename args ++ "\n"); Run.setStatus 0),
    ("dirname", fun args => do Run.say (dirname (args.headD "") ++ "\n"); Run.setStatus 0),
    ("tee", tee),
    ("expr", expr),
    ("readlink", each "" fun _ path => readlink path)]

end Utility

end BuildPilot.Shell
