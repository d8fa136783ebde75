import BuildPilot.CommandLine.Switch
import BuildPilot.Configuration.Basic
import BuildPilot.Text.Quoted

/-!
# Arguments of the command line

Arguments are first told apart: switches, words, and the two dashes behind which everything is a
word. Then they are taken from left to right. A switch may be shortened as long as only one switch
starts like that, its value may follow an equals sign or come as the next word, and short switches
may be written together. The actions are the first words that stand side by side.
-/

namespace BuildPilot.CommandLine

open Numeric Text

/-! ## Telling arguments apart -/

/-- A switch as it is written: the spelling that is meant, and the value written with it. -/
structure Given where
  switch : Switch
  spelling : String
  value : Option String
deriving DecidableEq, Repr

/-- An argument. -/
inductive Argument where
  | word (s : String)
  | given (g : Given)
  /-- Something that looks like a switch and is none. -/
  | unknown (s : String)
  /-- The two dashes that end the switches. -/
  | dashes
deriving DecidableEq, Repr

/-- Why a command line is not understood. -/
inductive UsageFault where
  /-- Several switches start like this. -/
  | ambiguous (arg : String) (spellings : List String)
  | noValue (s : Switch)
  /-- A value is written with a switch that takes none. -/
  | extraValue (s : Switch) (value : String)
  | badJobs (text : String)
  | fewJobs (n : Int)
  /-- Only one of the two switches may be given. -/
  | conflict (s before : Switch)
  | unrecognized (args : List String)
deriving DecidableEq, Repr

/-- The text of a fault. -/
def UsageFault.message : UsageFault → String
  | ambiguous arg spellings =>
    s!"ambiguous option: {arg} could match " ++ ", ".intercalate spellings
  | noValue s => s!"argument {s.label}: expected one argument"
  | extraValue s value => s!"argument {s.label}: ignored explicit argument " ++ quoted value
  | badJobs text => s!"argument {Switch.jobs.label}: invalid job count: " ++ quoted text
  | fewJobs n => s!"argument {Switch.jobs.label}: job count must be positive: {n}"
  | conflict s before => s!"argument {s.label}: not allowed with argument {before.label}"
  | unrecognized args => "unrecognized arguments: " ++ " ".intercalate args

/-- Whether a text looks like a negative number: a dash, digits, and perhaps a point with digits
behind it. A line feed at the end does not count. -/
def looksNegative (s : String) : Bool :=
  match s.toList with
  | '-' :: body =>
    let body := if body.getLast? = some '\n' then body.dropLast else body
    let isDigit (c : Char) : Bool := (digit? c).isSome
    match body.dropWhile isDigit with
    | [] => !body.isEmpty
    | '.' :: fraction => !fraction.isEmpty && fraction.all isDigit
    | _ => false
  | _ => false

/-- The text before and behind the first equals sign. -/
def splitValue (arg : String) : String × Option String :=
  match cutAtFirst '=' arg.toList with
  | some (name, value) => (String.ofList name, some (String.ofList value))
  | none => (arg, none)

/-- The switches that a shortened long spelling may mean. -/
def longMatches (arg : String) : List Given :=
  let (name, value) := splitValue arg
  (Switch.table.filter fun (spelling, _) => name.toList.isPrefixOf spelling.toList).map
    fun (spelling, s) => ⟨s, spelling, value⟩

/-- The short switch that an argument starts with; the rest is its value. -/
def shortMatches (arg : String) : List Given :=
  let name := String.ofList (arg.toList.take 2)
  let value := String.ofList (arg.toList.drop 2)
  (Switch.table.filter fun (spelling, _) => spelling = name).map
    fun (spelling, s) => ⟨s, spelling, some value⟩

/-- The switches that an argument with a dash may mean when it is no full spelling. -/
def possibleMatches (arg : String) : List Given :=
  match arg.toList with
  | '-' :: '-' :: _ => longMatches arg
  | _ => shortMatches arg

/-- What an argument is, in front of the two dashes. -/
def classify (arg : String) : Except UsageFault Argument :=
  if arg.toList.head? ≠ some '-' then .ok (.word arg)
  else match Switch.ofSpelling? arg with
    | some s => .ok (.given ⟨s, arg, none⟩)
    | none =>
      if arg = "-" then .ok (.word arg)
      else
        let (name, value) := splitValue arg
        match value.bind fun _ => Switch.ofSpelling? name with
        | some s => .ok (.given ⟨s, name, value⟩)
        | none =>
          match possibleMatches arg with
          | [g] => .ok (.given g)
          | [] =>
            if looksNegative arg || arg.toList.contains ' ' then .ok (.word arg)
            else .ok (.unknown arg)
          | gs => .error (.ambiguous arg (gs.map Given.spelling))

/-- What the arguments are. -/
def classifyAll : List String → Except UsageFault (List Argument)
  | [] => .ok []
  | arg :: args =>
    if arg = "--" then .ok (.dashes :: args.map .word)
    else do return (← classify arg) :: (← classifyAll args)

/-! ## Taking arguments -/

/-- Where the actions are. -/
inductive Phase where
  /-- No action has come yet. -/
  | before
  /-- The next word is an action. -/
  | within
  /-- Words are not actions any more. -/
  | behind
deriving DecidableEq, Repr

/-- What the command line asks for. -/
structure Arguments where
  actions : List String := []
  options : Options := {}
  dryRun : Bool := false
  extra : List String := []
  /-- Switches whose value was two dashes, which are dropped. -/
  dropped : List Switch := []

/-- The arguments taken so far. -/
structure Taken where
  arguments : Arguments := {}
  phase : Phase := .before
  /-- The switches so far of which only one may be given. -/
  exclusive : List Switch := []
  unrecognized : List String := []

/-- Why taking arguments stops early. -/
inductive Stop where
  /-- The page that explains the program is asked for. -/
  | help
  | fault (f : UsageFault)
deriving DecidableEq, Repr

/-- The number of jobs that a text gives. -/
def readJobs (text : String) : Except UsageFault Int :=
  match readInteger? text with
  | none => .error (.badJobs text)
  | some n => if n < 1 then .error (.fewJobs n) else .ok n

namespace Taken

/-- Takes a word. -/
def word (t : Taken) (s : String) : Taken :=
  match t.phase with
  | .behind => { t with unrecognized := t.unrecognized ++ [s] }
  | _ =>
    { t with
      phase := .within
      arguments := { t.arguments with actions := t.arguments.actions ++ [s] } }

/-- Takes the two dashes. -/
def dashes (t : Taken) : Taken :=
  match t.phase with
  | .behind => { t with unrecognized := t.unrecognized ++ ["--"] }
  | _ => { t with phase := .within }

/-- Notes that a switch comes. -/
def atSwitch (t : Taken) : Taken :=
  match t.phase with
  | .within => { t with phase := .behind }
  | _ => t

/-- Takes something that looks like a switch and is none. -/
def unknown (t : Taken) (s : String) : Taken := { t with unrecognized := t.unrecognized ++ [s] }

/-- Changes what is asked for. -/
def update (t : Taken) (f : Arguments → Arguments) : Taken := { t with arguments := f t.arguments }

/-- Changes the options that are asked for. -/
def option (t : Taken) (f : Options → Options) : Taken :=
  t.update fun a => { a with options := f a.options }

/-- Takes a switch that excludes others, which must not have come. -/
def exclude (t : Taken) (s : Switch) : Except Stop Taken :=
  if s ∈ Switch.exclusive then
    match Switch.exclusive.find? fun b => b ≠ s && t.exclusive.contains b with
    | some before => .error (.fault (.conflict s before))
    | none => .ok { t with exclusive := s :: t.exclusive }
  else .ok t

/-- Carries out a switch without a value. -/
def flag (t : Taken) : Switch → Except Stop Taken
  | .help => .error .help
  | .debug => .ok (t.option fun o => { o with buildType := some BuildType.debug.name })
  | .release => .ok (t.option fun o => { o with buildType := some BuildType.release.name })
  | .noTests => .ok (t.option fun o => { o with skipTests := true })
  | .dryRun => .ok (t.update fun a => { a with dryRun := true })
  | .verbose => .ok (t.option fun o => { o with verbose := true })
  | _ => .ok t

/-- Carries out a switch whose value is dropped: a value that came before is forgotten. -/
def drop (t : Taken) (s : Switch) : Taken :=
  let t := t.update fun a => { a with dropped := s :: a.dropped }
  match s with
  | .buildType => t.option fun o => { o with buildType := none }
  | .toolchain => t.option fun o => { o with toolchain := none }
  | .projectDir => t.option fun o => { o with projectDir := none }
  | _ => t

/-- Notes that a switch has a value again. -/
def restore (t : Taken) (s : Switch) : Taken :=
  if s = .extra then t else t.update fun a => { a with dropped := a.dropped.filter (· ≠ s) }

/-- Carries out a switch with a value. -/
def value (t : Taken) (s : Switch) (v : String) : Except Stop Taken :=
  if v = "--" then .ok (t.drop s)
  else
    let t := t.restore s
    match s with
    | .buildType => .ok (t.option fun o => { o with buildType := some v })
    | .toolchain => .ok (t.option fun o => { o with toolchain := some v })
    | .testNames => .ok (t.option fun o => { o with testNames := o.testNames ++ [v] })
    | .jobs =>
      match readJobs v with
      | .ok n => .ok (t.option fun o => { o with jobs := some n })
      | .error f => .error (.fault f)
    | .projectDir => .ok (t.option fun o => { o with projectDir := some (Path.ofString v) })
    | .config => .ok (t.option fun o => { o with configFile := some (Path.ofString v) })
    | .extra => .ok (t.update fun a => { a with extra := a.extra ++ [v] })
    | _ => .ok t

/-- Carries out a switch. -/
def carryOut (t : Taken) (s : Switch) (v : Option String) : Except Stop Taken := do
  match v with
  | some v => (← t.value s v).exclude s
  | none => (← t.exclude s).flag s

/-- Carries out switches in order. -/
def carryOutAll (t : Taken) : List (Switch × Option String) → Except Stop Taken
  | [] => .ok t
  | (s, v) :: rest => do (← t.carryOut s v).carryOutAll rest

end Taken

/-- The switches of an argument: those without values, then the last one, which may have its value
still to come. -/
structure Cluster where
  flags : List Switch
  last : Switch
  value : Option String

/-- Takes short switches apart that are written together, behind the switch `s`. -/
def clusterFrom (s : Switch) : List Char → Except UsageFault Cluster
  | [] => .ok ⟨[], s, none⟩
  | c :: rest =>
    if s.takesValue then .ok ⟨[], s, some (String.ofList (c :: rest))⟩
    else match Switch.ofSpelling? (String.ofList ['-', c]) with
      | none => .error (.extraValue s (String.ofList (c :: rest)))
      | some next => do
        let more ← clusterFrom next rest
        return { more with flags := s :: more.flags }

/-- Whether a spelling is a short one. -/
def isShort (spelling : String) : Bool := spelling.toList[1]? != some '-'

/-- Takes an argument apart. -/
def Given.cluster (g : Given) : Except UsageFault Cluster :=
  match g.value with
  | none => .ok ⟨[], g.switch, none⟩
  | some v =>
    if g.switch.takesValue then .ok ⟨[], g.switch, some v⟩
    else if isShort g.spelling && !v.isEmpty then clusterFrom g.switch v.toList
    else .error (.extraValue g.switch v)

/-- Carries out the switches of an argument, the last one with the given value. -/
def Taken.cluster (t : Taken) (c : Cluster) (v : Option String) : Except Stop Taken :=
  t.carryOutAll (c.flags.map (·, none) ++ [(c.last, v)])

/-- Takes arguments from left to right. -/
def takeFrom (t : Taken) : List Argument → Except Stop Taken
  | [] => .ok t
  | .word s :: rest => takeFrom (t.word s) rest
  | .dashes :: rest => takeFrom t.dashes rest
  | .unknown s :: rest => takeFrom (t.atSwitch.unknown s) rest
  | .given g :: rest => do
    let c ← g.cluster.mapError .fault
    let t := t.atSwitch
    if c.last.takesValue && c.value.isNone then
      match rest with
      | .word v :: rest => takeFrom (← t.cluster c (some v)) rest
      | _ => throw (.fault (.noValue c.last))
    else takeFrom (← t.cluster c c.value) rest

/-- What a command line asks for. -/
def Arguments.parse (args : List String) : Except Stop Arguments := do
  let t ← takeFrom {} (← (classifyAll args).mapError .fault)
  if t.unrecognized.isEmpty then return t.arguments
  else throw (.fault (.unrecognized t.unrecognized))

end BuildPilot.CommandLine
