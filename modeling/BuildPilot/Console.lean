/-!
# The console

Messages go to one of two streams and have a level; a console shows the messages up to its own
level. What a dry run would do is shown at every level.
-/

namespace BuildPilot

/-- The streams of a console. -/
inductive Stream where
  | out
  | err
deriving DecidableEq, Repr

/-- A piece of text on a stream. -/
structure Printed where
  stream : Stream
  text : String
  /-- Whether the text is output of a command that is handed on. -/
  forwarded : Bool := false
deriving DecidableEq, Repr

/-- The texts on one stream, put together. -/
def Printed.textOn (stream : Stream) (ps : List Printed) : String :=
  String.join ((ps.filter (·.stream == stream)).map Printed.text)

/-- How much a console shows. -/
inductive Level where
  | none
  | error
  | warning
  | info
  | debug
deriving DecidableEq, Repr

namespace Level

/-- All levels, from silent to talkative. -/
def all : List Level := [none, error, warning, info, debug]

/-- The name of a level. -/
def name : Level → String
  | none => "none"
  | error => "error"
  | warning => "warning"
  | info => "info"
  | debug => "debug"

/-- The place of a level in the order. -/
def rank : Level → Nat
  | none => 0
  | error => 1
  | warning => 2
  | info => 3
  | debug => 4

/-- The level of a name. -/
def ofName? (s : String) : Option Level := all.find? fun l => l.name = s

/-- The message about a name that no level has. -/
def unknownMessage (s : String) : String :=
  s!"Unknown console level '{s}'. Expected one of: " ++ ", ".intercalate (all.map name)

end Level

/-- A console: what it shows, and whether it announces a dry run. -/
structure Console where
  level : Level := .info
  dryRun : Bool := false
deriving DecidableEq, Repr

namespace Console

/-- Whether messages of a level are shown. -/
def shows (c : Console) (l : Level) : Bool := l.rank ≤ c.level.rank

/-- A line on a stream. -/
def line (stream : Stream) (text : String) : List Printed :=
  [{ stream := stream, text := text ++ "\n" }]

/-- A plain message. -/
def info (c : Console) (s : String) : List Printed := if c.shows .info then line .out s else []

/-- A warning. -/
def warning (c : Console) (s : String) : List Printed :=
  if c.shows .warning then line .err ("[WARN] " ++ s) else []

/-- An error. -/
def error (c : Console) (s : String) : List Printed :=
  if c.shows .error then line .err ("[ERROR] " ++ s) else []

/-- What a dry run would do. -/
def dry (c : Console) (s : String) : List Printed :=
  if c.dryRun then line .out ("[dry-run] " ++ s) else []

/-- A detail. -/
def debug (c : Console) (s : String) : List Printed :=
  if c.shows .debug then line .out ("[DEBUG] " ++ s) else []

end Console

end BuildPilot
