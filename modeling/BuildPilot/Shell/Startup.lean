import BuildPilot.Shell.Builtin

/-!
# Starting a shell

A shell starts with the environment of the program in whose place it runs, and with the settings
that its options name.
-/

namespace BuildPilot.Shell

open FileSystem

namespace Run

/-- The directories that a shell searches when no variable names them. -/
def widePath : String := "/usr/local/sbin:/usr/local/bin:/usr/sbin:/usr/bin:/sbin:/bin"

/-- The state of a new shell that runs in place of a program. -/
def fresh (name : String) (arguments : List String) : Run Unit := modify fun s =>
  let shown := "/" ++ "/".intercalate s.cwd
  let env := s.environment.bindings.filter fun v => isName v.1
  let inherited := env.map fun (name, value) => (name, (⟨some value, true, false⟩ : Variable))
  let claimed := (s.valueOf? "PWD").getD ""
  let directory :=
    if isAbsoluteText claimed && s.world.files.findText s.cwd true claimed == .entry s.cwd .dir then
      claimed
    else shown
  let others := inherited.filter fun v => v.1 != "PWD" && v.1 != "IFS"
  let path : List (String × Variable) :=
    if (others.lookup "PATH").isSome then [] else [("PATH", ⟨some widePath, false, false⟩)]
  let own : List (String × Variable) :=
    [("OPTIND", ⟨some "1", false, false⟩), ("IFS", ⟨some " \t\n", false, false⟩)]
  { s with
    name := name, arguments := arguments, functions := [], locals := none, loops := 0, status := 0
    line := 1, settings := {}, traps := [], background := none, directory := directory
    bindings := others ++ ("PWD", ⟨some directory, true, false⟩) :: path ++ own }

/-- The options of a shell that is started. -/
structure ShellOptions where
  letters : List Char
  /-- Whether the script is given as an argument. -/
  inline : Bool

/-- Reads the options of a shell at the front of its arguments. -/
def shellOptions (o : ShellOptions) : List String → ShellOptions × List String
  | [] => (o, [])
  | "--" :: rest => (o, rest)
  | "-o" :: name :: rest =>
    shellOptions { o with letters := o.letters ++ [Builtin.settingLetter name] } rest
  | arg :: rest =>
    match arg.toList with
    | '-' :: c :: cs =>
      let letters := (c :: cs).filter fun c => c != 'c' && c != 's' && c != 'i' && c != 'l'
      shellOptions ⟨o.letters ++ letters, o.inline || (c :: cs).contains 'c'⟩ rest
    | _ => (o, arg :: rest)

end Run

end BuildPilot.Shell
