import BuildPilot.Shell.Token

/-!
# Scripts

A script is a command that may be made of others: pipelines, lists, conditions, loops, choices and
functions. Simple commands are words to be expanded, with assignments and redirections around them.
-/

namespace BuildPilot.Shell

/-- What a redirection does to a descriptor. -/
inductive Redirection where
  /-- Reads a file. -/
  | read
  /-- Writes a file from its start, which empties it. -/
  | write
  /-- Writes at the end of a file. -/
  | append
  /-- Stands for another descriptor, or for none. -/
  | duplicate
  /-- Reads a given text. -/
  | text
deriving DecidableEq, Repr

/-- A redirection of a descriptor. -/
structure Redirect where
  descriptor : Nat
  kind : Redirection
  target : Word

/-- A simple command: its line, the assignments before it, its words, and its redirections. -/
structure SimpleCommand where
  line : Nat
  assignments : List (String × Word)
  words : List Word
  redirects : List Redirect

/-- A script. -/
inductive Script where
  /-- Nothing. -/
  | empty
  | simple (c : SimpleCommand)
  /-- Each script reads what the one before it prints. -/
  | pipe (stages : List Script)
  /-- Succeeds if the script fails. -/
  | negated (s : Script)
  /-- The second script runs if the first one succeeds. -/
  | both (s t : Script)
  /-- The second script runs if the first one fails. -/
  | either (s t : Script)
  | seq (s t : Script)
  /-- Runs without being waited for. -/
  | background (s : Script)
  /-- Runs in a shell of its own. -/
  | subshell (s : Script)
  /-- Runs with redirections. -/
  | redirected (s : Script) (line : Nat) (redirects : List Redirect)
  | cond (test whenTrue whenFalse : Script)
  /-- Repeats the body while the test succeeds, or until it does. -/
  | loop (untilTrue : Bool) (test body : Script)
  /-- Repeats the body for each word, or else for each argument. -/
  | each (name : String) (words : Option (List Word)) (body : Script)
  /-- Runs the first branch of which a pattern matches the word. -/
  | choice (subject : Word) (branches : List (List Word × Script))
  | function (name : String) (body : Script)

/-- The assignment that a word is, if it is one. -/
def assignment? (w : Word) : Option (String × Word) :=
  let isPlainIn (ok : Char → Bool) : Piece → Bool
    | .char c false => ok c
    | _ => false
  let front := w.takeWhile (isPlainIn inName)
  match plainText? front, w.drop front.length with
  | some name, .char '=' false :: value => if isName name then some (name, value) else none
  | _, _ => none

end BuildPilot.Shell
