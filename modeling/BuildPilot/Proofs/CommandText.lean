import BuildPilot.Proofs.Preview
import BuildPilot.Proofs.Report
import Mathlib.Data.List.Basic

/-!
# Commands read back

The shell cuts a text into words at blanks and takes the quotes off. From the text of a command it
gets the command back, so that a line that shows a command tells which command it was.
-/

namespace BuildPilot.Command

/-! ## Words of a text -/

/-- Where a reader of words is. -/
inductive Spot where
  /-- Between words. -/
  | between
  /-- In a word, outside quotes. -/
  | bare
  /-- Between single quotes. -/
  | single
  /-- Between double quotes. -/
  | double
  /-- Behind a backslash, which stands between double quotes or outside quotes. -/
  | escaped (quoted : Bool)
deriving DecidableEq, Repr

/-- Whether a character outside quotes separates words. -/
def isSeparator (c : Char) : Bool := c == ' ' || c == '\t' || c == '\r' || c == '\n'

namespace Spot

/-- Whether a separator ends the word, if there is one. -/
def isOpen : Spot → Bool
  | between | bare => true
  | _ => false

/-- The word that has come to its end: what was read of it stands in front. -/
def ended : Spot → List (List Char)
  | bare => [[]]
  | _ => []

/-- Where any other character leads to, and what it adds to the word. Between double quotes a
backslash stands for itself unless a double quote or a backslash is behind it. -/
def step : Spot → Char → Spot × List Char
  | single, c => if c = '\'' then (bare, []) else (single, [c])
  | double, c =>
    if c = '"' then (bare, []) else if c = '\\' then (escaped true, []) else (double, [c])
  | escaped true, c => (double, if c = '"' ∨ c = '\\' then [c] else ['\\', c])
  | escaped false, c => (bare, [c])
  | _, c =>
    if c = '\'' then (single, []) else if c = '"' then (double, [])
    else if c = '\\' then (escaped false, []) else (bare, [c])

end Spot

/-- The words with characters in front of the first one. -/
def onFirst (w : List Char) (ws : Option (List (List Char))) : Option (List (List Char)) :=
  ws.map (List.modifyHead (w ++ ·))

/-- The words that a text goes on with; the first is the rest of the word that is being read. There
are none if a quotation is not closed, or nothing is behind a backslash. -/
def wordsFrom : Spot → List Char → Option (List (List Char))
  | s, [] => if s.isOpen then some s.ended else none
  | s, c :: cs =>
    if s.isOpen && isSeparator c then (wordsFrom .between cs).map (s.ended ++ ·)
    else onFirst (s.step c).2 (wordsFrom (s.step c).1 cs)

/-- The words that the shell reads in a text. -/
def words? (text : String) : Option (List String) :=
  (wordsFrom .between text.toList).map (List.map String.ofList)

@[simp] theorem onFirst_nil (ws : Option (List (List Char))) : onFirst [] ws = ws := by
  have same : List.modifyHead (([] : List Char) ++ ·) = id := by
    funext ws
    cases ws <;> rfl
  rw [onFirst, same, Option.map_id_fun, id]

@[simp] theorem onFirst_onFirst (v w : List Char) (ws : Option (List (List Char))) :
    onFirst v (onFirst w ws) = onFirst (v ++ w) ws := by
  unfold onFirst
  rw [Option.map_map]
  congr 1
  funext ws
  simp [Function.comp_def]

/-! ## Quoted words -/

theorem step_of_isPlain {c : Char} (plain : isPlain c = true) {s : Spot} (hs : s.isOpen = true) :
    (s.isOpen && isSeparator c) = false ∧ s.step c = (.bare, [c]) := by
  have other (d : Char) (special : isPlain d = false) : c ≠ d := by
    rintro rfl
    rw [plain] at special
    cases special
  refine ⟨?_, ?_⟩
  · simp [isSeparator, other ' ' (by decide), other '\t' (by decide), other '\r' (by decide),
      other '\n' (by decide)]
  · have single := other '\'' (by decide)
    have double := other '"' (by decide)
    have backslash := other '\\' (by decide)
    cases s with
    | between | bare => simp [Spot.step, single, double, backslash]
    | _ => cases hs

/-- Plain characters are read as they are. -/
theorem wordsFrom_plain {w : List Char} (plain : ∀ c ∈ w, isPlain c = true) (rest : List Char) :
    wordsFrom .bare (w ++ rest) = onFirst w (wordsFrom .bare rest) := by
  induction w with
  | nil => exact (onFirst_nil _).symm
  | cons c w ih =>
    obtain ⟨inside, step⟩ := step_of_isPlain (plain c List.mem_cons_self) (s := .bare) rfl
    rw [List.cons_append, wordsFrom, inside, step,
      ih fun d hd => plain d (List.mem_cons_of_mem c hd)]
    exact onFirst_onFirst [c] w _

/-- Between single quotes, the characters that were quoted are read back. -/
theorem wordsFrom_quoted (w rest : List Char) :
    wordsFrom .single (w.flatMap quoteChar ++ '\'' :: rest) = onFirst w (wordsFrom .bare rest) := by
  induction w with
  | nil => rfl
  | cons c w ih =>
    rw [List.flatMap_cons, List.append_assoc]
    have through (cs : List Char) :
        wordsFrom .single (quoteChar c ++ cs) = onFirst [c] (wordsFrom .single cs) := by
      by_cases quote : c = '\''
      · -- the quotes are closed, this one stands between double quotes, and they are opened again
        subst quote
        simp [quoteChar, wordsFrom, Spot.step, Spot.isOpen, isSeparator]
      · simp [quoteChar, wordsFrom, Spot.step, Spot.isOpen, quote]
    rw [through, ih]
    exact onFirst_onFirst [c] w _

/-- A quoted word is read as one word. -/
theorem wordsFrom_quoteChars (w rest : List Char) :
    wordsFrom .between (quoteChars w ++ rest) = onFirst w (wordsFrom .bare rest) := by
  unfold quoteChars
  split
  · rename_i plain
    obtain ⟨full, plain⟩ := plain
    obtain ⟨c, w, rfl⟩ := List.exists_cons_of_ne_nil full
    have plain := List.all_eq_true.mp plain
    obtain ⟨inside, step⟩ := step_of_isPlain (plain c List.mem_cons_self) (s := .between) rfl
    rw [List.cons_append, wordsFrom, inside, step,
      wordsFrom_plain fun d hd => plain d (List.mem_cons_of_mem c hd)]
    exact onFirst_onFirst [c] w _
  · have opened (cs : List Char) : wordsFrom .between ('\'' :: cs) = wordsFrom .single cs := by
      simp [wordsFrom, Spot.step, isSeparator]
    rw [List.append_assoc, List.cons_append, List.singleton_append, opened]
    exact wordsFrom_quoted w rest

/-! ## Texts of commands -/

theorem wordsFrom_intercalate (ws : List (List Char)) :
    wordsFrom .between (List.intercalate [' '] (ws.map quoteChars)) = some ws := by
  induction ws with
  | nil => rfl
  | cons w ws ih =>
    cases ws with
    | nil =>
      have alone : List.intercalate [' '] ([w].map quoteChars) = quoteChars w ++ [] := by
        simp [List.intercalate]
      rw [alone, wordsFrom_quoteChars]
      simp [wordsFrom, onFirst, Spot.isOpen, Spot.ended]
    | cons v ws =>
      have joined : List.intercalate [' '] ((w :: v :: ws).map quoteChars) =
          quoteChars w ++ ' ' :: List.intercalate [' '] ((v :: ws).map quoteChars) := by
        simp [List.intercalate]
      rw [joined, wordsFrom_quoteChars, wordsFrom, ih]
      simp [onFirst, Spot.isOpen, Spot.ended, isSeparator]

/-- The shell reads the words of a command in its text. -/
theorem words?_format (words : List String) : words? (format words) = some words := by
  have chars : (format words).toList =
      List.intercalate [' '] ((words.map String.toList).map quoteChars) := by
    rw [format, String.toList_intercalate, List.map_map, List.map_map]
    congr 2
    funext w
    simp [quoteWord]
  rw [words?, chars, wordsFrom_intercalate]
  simp

theorem format_injective : Function.Injective format := by
  intro ws vs same
  have read := words?_format ws
  rw [same, words?_format] at read
  exact (Option.some.inj read).symm

end BuildPilot.Command

namespace BuildPilot

open Command

/-! ## Lines that show a command -/

/-- The line that shows a command before it is run. -/
def echoLine (command : String) : Printed := { stream := .out, text := "-> " ++ command ++ "\n" }

theorem echoLine_injective : Function.Injective echoLine := by
  intro s t same
  have text : "-> " ++ s ++ "\n" = "-> " ++ t ++ "\n" := congrArg Printed.text same
  exact (String.append_right_inj _).mp ((String.append_left_inj "\n").mp text)

theorem failureLine_injective : Function.Injective failureLine := by
  intro s t same
  have text : "[ERROR] Build command failed: " ++ s ++ "\n" =
      "[ERROR] Build command failed: " ++ t ++ "\n" := congrArg Printed.text same
  exact (String.append_right_inj _).mp ((String.append_left_inj "\n").mp text)

theorem announce_of_live {x : Executor} (live : x.dryRun = false)
    (shown : x.console.shows .info = true) (step : Step) :
    ∃ rest, x.announce step = echoLine (format step.command) :: rest := by
  unfold Executor.announce
  dsimp only
  rw [live, Console.info, if_pos shown]
  exact ⟨_, rfl⟩

theorem report?_command {console : Console} (shown : console.shows .error = true) (o : Outcome) :
    ∃ rest, CommandLine.report? console (.command o) =
      some (failureLine (format o.command) :: rest, CommandLine.statusFailed) := by
  have line : console.error s!"Build command failed: {o.commandLine}" =
      [failureLine (format o.command)] := by
    unfold Console.error
    rw [if_pos shown]
    simp [Console.line, failureLine, Outcome.commandLine, ← String.append_assoc, toString]
  unfold CommandLine.report?
  dsimp only
  rw [line]
  exact ⟨_, rfl⟩

/-- The shell reads a command in its text, so two commands never have the same text. A live run
shows each command before it is run, and the program reports a failed one, by a line that no other
command has. -/
theorem command_of_line :
    (∀ words, words? (format words) = some words) ∧ Function.Injective format ∧
    (∀ (x : Executor) (step : Step), x.dryRun = false → x.console.shows .info = true →
      ∃ rest, x.announce step = echoLine (format step.command) :: rest) ∧
    (Function.Injective fun words => echoLine (format words)) ∧
    (∀ (console : Console) (o : Outcome), console.shows .error = true →
      ∃ rest, CommandLine.report? console (.command o) =
        some (failureLine (format o.command) :: rest, CommandLine.statusFailed)) ∧
    Function.Injective fun words => failureLine (format words) :=
  ⟨words?_format, format_injective, fun _ step live shown => announce_of_live live shown step,
    echoLine_injective.comp format_injective, fun _ o shown => report?_command shown o,
    failureLine_injective.comp format_injective⟩

/-- A command with a quote, an empty word, blanks and characters that mean something to a shell. -/
def quarrel : List String := ["echo", "it's", "", "a  b\n", "$HOME \"~\" \\", "#ä"]

theorem command_of_line_quarrel :
    let text := "echo 'it'\"'\"'s' '' 'a  b\n' '$HOME \"~\" \\' '#ä'"
    let x : Executor := ⟨Executor.retesting, .recording, {}, false, .faultless⟩
    let step : Step := ⟨quarrel, ⟨.root, ["p"]⟩, "Quarrel"⟩
    let o : Outcome := ⟨quarrel, 1, "", "", true⟩
    format quarrel = text ∧ words? text = some quarrel ∧
    (x.dryRun = false ∧ x.console.shows .info = true ∧
      ∃ rest, x.announce step = echoLine text :: rest) ∧
    (Console.shows {} .error = true ∧
      ∃ rest, CommandLine.report? {} (.command o) = some (failureLine text :: rest, 1)) := by
  intro text x step o
  have written : format quarrel = text := by decide +kernel
  obtain ⟨read, -, announced, -, reported, -⟩ := command_of_line
  refine ⟨written, written ▸ read quarrel, ⟨rfl, rfl, ?_⟩, rfl, ?_⟩
  · exact written ▸ announced x step rfl rfl
  · exact written ▸ reported {} o rfl

end BuildPilot
