import BuildPilot.FileSystem.Operations
import BuildPilot.Text.Utf8

/-!
# The world of a running command

What all the programs of a running command share: the files, the channels that are open, and what
has been printed so far. A channel is known by its number; several descriptors may stand for one.
-/

namespace BuildPilot.Shell

open FileSystem

/-- An open channel. -/
inductive Channel where
  /-- Gives nothing and swallows everything. -/
  | nowhere
  /-- The output of the whole command. -/
  | outlet
  /-- Octets that are still to be read. -/
  | source (rest : List UInt8)
  /-- Octets that were written and are kept, last piece first. -/
  | kept (pieces : List (List UInt8))
  /-- A file, at a place in it or at its end. -/
  | file (loc : Location) (offset : Nat) (appends : Bool)

/-- What the programs of a command share. -/
structure World where
  files : FileSystem
  channels : Array Channel
  /-- The pieces of the output, last one first. -/
  printed : List (List UInt8)
  /-- The number of the program that was started last. -/
  lastProgram : Nat

namespace World

/-- The world with one more channel, and its number. -/
def addChannel (w : World) (s : Channel) : Nat × World :=
  (w.channels.size, { w with channels := w.channels.push s })

/-- The channel of a number. -/
def channel (w : World) (id : Nat) : Channel := (w.channels[id]?).getD .nowhere

/-- The world with another channel for a number. -/
def setChannel (w : World) (id : Nat) (s : Channel) : World :=
  { w with channels := w.channels.setIfInBounds id s }

/-- The content of a list with octets written over it at an offset. -/
def overwrite (content : List UInt8) (offset : Nat) (octets : List UInt8) : List UInt8 :=
  let gap := List.replicate (offset - content.length) 0
  content.take offset ++ gap ++ octets ++ content.drop (offset + octets.length)

/-- Writes octets to a channel. -/
def write (w : World) (id : Nat) (octets : List UInt8) : World :=
  if octets.isEmpty then w
  else match w.channel id with
    | .nowhere | .source _ => w
    | .outlet => { w with printed := octets :: w.printed }
    | .kept pieces => w.setChannel id (.kept (octets :: pieces))
    | .file loc offset appends =>
      match w.files.get? loc with
      | some (.file mode content) =>
        let start := if appends then content.length else offset
        let files := w.files.put loc (.file mode (overwrite content start octets))
        { w with files := files }.setChannel id (.file loc (start + octets.length) appends)
      | _ => w

/-- The octets that a channel still has to give. -/
def waiting (w : World) (id : Nat) : List UInt8 :=
  match w.channel id with
  | .source rest => rest
  | .file loc offset _ =>
    match w.files.get? loc with
    | some (.file _ content) => content.drop offset
    | _ => []
  | _ => []

/-- Takes so many octets from a channel. -/
def consume (w : World) (id : Nat) (n : Nat) : World :=
  match w.channel id with
  | .source rest => w.setChannel id (.source (rest.drop n))
  | .file loc offset appends => w.setChannel id (.file loc (offset + n) appends)
  | _ => w

/-- All octets that were kept by a channel. -/
def keptOctets (w : World) (id : Nat) : List UInt8 :=
  match w.channel id with
  | .kept pieces => pieces.reverse.flatten
  | _ => []

/-- The file that gives nothing and swallows everything. -/
def nullFile : Location := ["dev", "null"]

/-- Opens the file at a sight for reading. -/
def openRead (w : World) : Sight → Except ErrorCause (Nat × World)
  | .entry loc (.file mode _) =>
    if ownerMayRead mode then .ok (w.addChannel (.file loc 0 false)) else .error .accessDenied
  | .entry _ .dir => .ok (w.addChannel .nowhere)
  | .entry _ (.link _) => .error .linkLoop
  | .absent loc => if loc = nullFile then .ok (w.addChannel .nowhere) else .error .noEntry
  | .failed cause => .error cause

/-- Opens the file at a sight for writing, from its start or at its end. -/
def openWrite (w : World) (appends : Bool) (sight : Sight) : Except ErrorCause (Nat × World) :=
  match sight with
  | .entry loc (.file mode content) =>
    if ownerMayWrite mode then
      if appends then .ok (w.addChannel (.file loc content.length true))
      else
        let files := w.files.put loc (.file mode [])
        .ok ({ w with files := files }.addChannel (.file loc 0 false))
    else .error .accessDenied
  | .entry _ .dir => .error .isDirectory
  | .entry _ (.link _) => .error .linkLoop
  | .absent loc =>
    if loc = nullFile then .ok (w.addChannel .nowhere)
    else
      let files := w.files.put loc (.file newFileMode [])
      .ok ({ w with files := files }.addChannel (.file loc 0 appends))
  | .failed cause => .error cause

end World

end BuildPilot.Shell
