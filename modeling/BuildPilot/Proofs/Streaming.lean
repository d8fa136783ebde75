import BuildPilot.Proofs.Decoding
import BuildPilot.Proofs.Outcome

/-!
# Streams of lines

The lines of a command's output make up the text that its octets stand for, with every line end
written as a line feed. It does not matter in which pieces the octets arrive. A runner has handed
on all lines of a command when it replies, whatever the reply is.
-/

namespace BuildPilot

namespace Text

/-! ## Lines of a text -/

/-- A text without the line feed at its start, if there is one. -/
def dropFeed : List Char → List Char
  | '\n' :: cs => cs
  | cs => cs

theorem dropFeed_cons {c : Char} (h : c ≠ '\n') (cs : List Char) :
    dropFeed (c :: cs) = c :: cs := by
  unfold dropFeed
  split
  · rename_i same
    exact absurd (List.cons.inj same).1 h
  · rfl

theorem unifyNewlines_return (cs : List Char) :
    unifyNewlines ('\r' :: cs) = '\n' :: unifyNewlines (dropFeed cs) := by
  unfold dropFeed
  split
  · rw [unifyNewlines]
  · rename_i other
    rw [unifyNewlines]
    · rfl
    · exact fun rest _ h => other rest h

theorem unifyNewlines_cons {c : Char} (h : c ≠ '\r') (cs : List Char) :
    unifyNewlines (c :: cs) = c :: unifyNewlines cs := by
  rw [unifyNewlines]
  · simp [h]
  · exact fun _ first _ => h first

theorem return_not_mem_unifyNewlines (cs : List Char) : '\r' ∉ unifyNewlines cs := by
  fun_induction unifyNewlines cs with
  | case1 => exact List.not_mem_nil
  | case2 cs ih => simp [ih]
  | case3 c cs other ih =>
    by_cases h : c = '\r'
    · simp [h, ih]
    · simp [h, ih, Ne.symm h]

theorem splitLines_feed (cs : List Char) : splitLines ('\n' :: cs) = ['\n'] :: splitLines cs := rfl

theorem splitLines_cons {c : Char} (h : c ≠ '\n') (cs : List Char) :
    splitLines (c :: cs) = match splitLines cs with
      | [] => [[c]]
      | l :: ls => (c :: l) :: ls := by
  have other : (c == '\n') = false := by simpa using h
  cases hl : splitLines cs <;> simp [splitLines, other, hl]

theorem flatten_splitLines (cs : List Char) : (splitLines cs).flatten = cs := by
  induction cs with
  | nil => rfl
  | cons c cs ih =>
    by_cases h : c = '\n'
    · rw [h, splitLines_feed, List.flatten_cons, ih, List.singleton_append]
    · rw [splitLines_cons h]
      cases hl : splitLines cs with
      | nil =>
        rw [hl] at ih
        rw [← ih]
        rfl
      | cons l ls =>
        rw [hl] at ih
        rw [← ih]
        rfl

/-- A part of a text as a line, which ends with a line feed unless it is the last one. -/
def IsLine (line : List Char) (last : Prop) : Prop :=
  line ≠ [] ∧ '\n' ∉ line.dropLast ∧ (¬ last → line.getLast? = some '\n')

theorem isLine_of_splitLines {cs line : List Char} {before after : List (List Char)}
    (h : splitLines cs = before ++ line :: after) : IsLine line (after = []) := by
  induction cs generalizing before line after with
  | nil => simp [splitLines] at h
  | cons c cs ih =>
    by_cases hc : c = '\n'
    · rw [hc, splitLines_feed] at h
      cases before with
      | nil =>
        obtain ⟨rfl, rfl⟩ := List.cons.inj h
        exact ⟨by simp, by simp, fun _ => rfl⟩
      | cons first before => exact ih (List.cons.inj h).2
    · rw [splitLines_cons hc] at h
      cases hl : splitLines cs with
      | nil =>
        rw [hl] at h
        cases before with
        | nil =>
          obtain ⟨rfl, rfl⟩ := List.cons.inj h
          exact ⟨by simp, by simp, fun more => absurd rfl more⟩
        | cons first before => simp at h
      | cons l ls =>
        rw [hl] at h ih
        cases before with
        | nil =>
          obtain ⟨rfl, rfl⟩ := List.cons.inj h
          obtain ⟨full, inside, ends⟩ := ih (show l :: ls = [] ++ l :: ls from rfl)
          refine ⟨by simp, ?_, fun more => ?_⟩
          · rw [List.dropLast_cons_of_ne_nil full]
            simp [Ne.symm hc, inside]
          · rw [List.getLast?_cons_of_ne_nil full, ends more]
        | cons first before =>
          have later : ls = before ++ line :: after := (List.cons.inj h).2
          exact ih (show l :: ls = (l :: before) ++ line :: after by rw [later, List.cons_append])

theorem splitLines_append_feed {l : List Char} (h : '\n' ∉ l) (cs : List Char) :
    splitLines (l ++ '\n' :: cs) = (l ++ ['\n']) :: splitLines cs := by
  induction l with
  | nil => rfl
  | cons c l ih =>
    have hc : c ≠ '\n' := fun same => h (same ▸ List.mem_cons_self)
    rw [List.cons_append, splitLines_cons hc, ih fun inside => h (List.mem_cons_of_mem c inside)]
    rfl

theorem splitLines_of_not_mem {l : List Char} (h : '\n' ∉ l) :
    splitLines l = if l.isEmpty then [] else [l] := by
  induction l with
  | nil => rfl
  | cons c l ih =>
    have hc : c ≠ '\n' := fun same => h (same ▸ List.mem_cons_self)
    rw [splitLines_cons hc, ih fun inside => h (List.mem_cons_of_mem c inside)]
    cases l <;> rfl

theorem splitLines_flatten {lines : List (List Char)}
    (h : ∀ before line after, lines = before ++ line :: after → IsLine line (after = [])) :
    splitLines lines.flatten = lines := by
  induction lines with
  | nil => rfl
  | cons line lines ih =>
    obtain ⟨full, inside, ends⟩ := h [] line lines rfl
    have rest : splitLines lines.flatten = lines := by
      refine ih fun before l after same => h (line :: before) l after ?_
      rw [same, List.cons_append]
    rw [List.flatten_cons, ← List.dropLast_concat_getLast full]
    by_cases feed : line.getLast full = '\n'
    · rw [feed, List.append_assoc, List.singleton_append, splitLines_append_feed inside, rest]
    · have last : lines = [] := by
        by_contra more
        have := ends more
        rw [List.getLast?_eq_some_getLast full] at this
        exact feed (Option.some.inj this)
      have noFeed : '\n' ∉ line.dropLast ++ [line.getLast full] := by
        simp [inside, Ne.symm feed]
      rw [last, List.flatten_nil, List.append_nil, splitLines_of_not_mem noFeed]
      simp

/-! ## Lines of a stream -/

namespace LineStream

variable {s : LineStream}

/-- The current line, if it has begun, when nothing more follows. -/
def lastLine (s : LineStream) : List String := if s.line.isEmpty then [] else [lineOf s.line]

/-- The lines that are handed on when some characters follow and nothing more. -/
def linesWith (s : LineStream) (cs : List Char) : List String :=
  (s.putAll cs).2 ++ (s.putAll cs).1.lastLine

/-- The current line has no line feed, and it has not begun right behind a carriage return. -/
structure IsInLine (s : LineStream) : Prop where
  noFeed : '\n' ∉ s.line
  fresh : s.afterReturn = true → s.line = []

theorem linesWith_cons (s : LineStream) (c : Char) (cs : List Char) :
    s.linesWith (c :: cs) = (s.put c).2 ++ (s.put c).1.linesWith cs :=
  List.append_assoc _ _ _

theorem putAll_append (s : LineStream) (cs ds : List Char) :
    s.putAll (cs ++ ds) =
      (((s.putAll cs).1.putAll ds).1, (s.putAll cs).2 ++ ((s.putAll cs).1.putAll ds).2) := by
  induction cs generalizing s with
  | nil => rfl
  | cons c cs ih =>
    change (((s.put c).1.putAll (cs ++ ds)).1, _ ++ ((s.put c).1.putAll (cs ++ ds)).2) = _
    rw [ih]
    exact Prod.ext rfl (List.append_assoc _ _ _).symm

/-- What characters do does not depend on an unfinished one, and leaves it. -/
theorem putAll_with (s : LineStream) (u : Option Unfinished) (cs : List Char) :
    ({ s with unfinished := u } : LineStream).putAll cs =
      ({ (s.putAll cs).1 with unfinished := u }, (s.putAll cs).2) := by
  induction cs generalizing s with
  | nil => rfl
  | cons c cs ih =>
    have one : ({ s with unfinished := u } : LineStream).put c =
        ({ (s.put c).1 with unfinished := u }, (s.put c).2) := by
      unfold put
      split_ifs <;> rfl
    unfold putAll
    rw [one]
    dsimp only
    rw [ih]

theorem map_splitLines_feed {line : List Char} (noFeed : '\n' ∉ line) (cs : List Char) :
    (splitLines (line.reverse ++ '\n' :: cs)).map String.ofList =
      lineOf ('\n' :: line) :: (splitLines cs).map String.ofList := by
  rw [splitLines_append_feed (by simpa using noFeed), List.map_cons, lineOf, List.reverse_cons]

/-- The lines are those of the text: what is in the current line, and then the characters that
follow, without a line feed that belongs to the line before. -/
theorem linesWith_eq (h : s.IsInLine) (cs : List Char) :
    s.linesWith cs = (splitLines (s.line.reverse ++
      unifyNewlines (if s.afterReturn then dropFeed cs else cs))).map String.ofList := by
  induction cs generalizing s with
  | nil =>
    have none : unifyNewlines (if s.afterReturn then dropFeed [] else []) = [] := by
      split_ifs <;> rfl
    rw [none, List.append_nil, splitLines_of_not_mem (by simpa using h.noFeed)]
    unfold linesWith lastLine putAll lineOf
    cases s.line <;> simp
  | cons c cs ih =>
    obtain ⟨unfinished, afterReturn, line⟩ := s
    obtain ⟨noFeed, fresh⟩ := h
    have fresh : afterReturn = true → line = [] := fresh
    rw [linesWith_cons]
    by_cases feed : c = '\n'
    · subst feed
      have rest := ih (s := ⟨unfinished, false, []⟩) ⟨List.not_mem_nil, fun _ => rfl⟩
      cases afterReturn with
      | true =>
        -- the line feed belongs to the line that the carriage return has ended
        rw [fresh rfl]
        exact rest
      | false =>
        dsimp only
        rw [if_neg Bool.false_ne_true, unifyNewlines_cons (by decide), map_splitLines_feed noFeed]
        exact congrArg (lineOf ('\n' :: line) :: ·) rest
    dsimp only
    rw [dropFeed_cons feed, ite_self]
    by_cases ret : c = '\r'
    · subst ret
      have rest := ih (s := ⟨unfinished, true, []⟩) ⟨List.not_mem_nil, fun _ => rfl⟩
      rw [unifyNewlines_return, map_splitLines_feed noFeed]
      exact congrArg (lineOf ('\n' :: line) :: ·) rest
    · have next : put ⟨unfinished, afterReturn, line⟩ c =
          (⟨unfinished, false, c :: line⟩, []) := by
        simp [put, feed, ret]
      have noFeed' : '\n' ∉ c :: line := by simp [Ne.symm feed, noFeed]
      have rest := ih (s := ⟨unfinished, false, c :: line⟩) ⟨noFeed', fun h => by cases h⟩
      rw [next, rest, unifyNewlines_cons ret]
      simp

theorem feed_append (s : LineStream) (bs bs' : List UInt8) :
    s.feed (bs ++ bs') =
      (((s.feed bs).1.feed bs').1, (s.feed bs).2 ++ ((s.feed bs).1.feed bs').2) := by
  induction bs generalizing s with
  | nil => rfl
  | cons b bs ih =>
    change (((s.putOctet b).1.feed (bs ++ bs')).1,
      _ ++ ((s.putOctet b).1.feed (bs ++ bs')).2) = _
    rw [ih]
    exact Prod.ext rfl (List.append_assoc _ _ _).symm

theorem finish_eq (s : LineStream) : s.finish = s.linesWith (endOfOctets s.unfinished) := rfl

/-- Octets hand on the lines of their characters. -/
theorem feed_finish (s : LineStream) (bs : List UInt8) :
    (s.feed bs).2 ++ (s.feed bs).1.finish = s.linesWith (decodeFrom s.unfinished bs) := by
  induction bs generalizing s with
  | nil => exact finish_eq s
  | cons b bs ih =>
    change ((s.putOctet b).2 ++ ((s.putOctet b).1.feed bs).2) ++
      ((s.putOctet b).1.feed bs).1.finish = _
    rw [List.append_assoc, ih, decodeFrom]
    unfold putOctet linesWith
    dsimp only
    rw [putAll_append, putAll_with]
    simp [putAll_with, lastLine]

theorem linesFrom_eq (s : LineStream) (pieces : List (List UInt8)) :
    s.linesFrom pieces = s.linesWith (decodeFrom s.unfinished pieces.flatten) := by
  rw [← feed_finish]
  induction pieces generalizing s with
  | nil => rfl
  | cons piece pieces ih =>
    change (s.feed piece).2 ++ (s.feed piece).1.linesFrom pieces = _
    rw [ih, List.flatten_cons, feed_append, List.append_assoc]

end LineStream

theorem streamedLines_eq (pieces : List (List UInt8)) :
    streamedLines pieces =
      (splitLines (unifyNewlines (decodeFrom none pieces.flatten))).map String.ofList :=
  (LineStream.linesFrom_eq {} pieces).trans
    (LineStream.linesWith_eq (s := {}) ⟨List.not_mem_nil, fun h => by cases h⟩ _)

/-- `Renders octets lines`: the lines make up the text of the octets, with every line end written as
a line feed. -/
structure Renders (octets : List UInt8) (lines : List String) : Prop where
  text : ∃ cs, Decodes octets cs ∧ (lines.map String.toList).flatten = unifyNewlines cs
  noReturn : ∀ line ∈ lines, '\r' ∉ line.toList
  isLine : ∀ before line after, lines = before ++ line :: after →
    IsLine line.toList (after = [])

/-- The lines of an output are those of its text, however it is cut into pieces. -/
theorem renders_iff {pieces : List (List UInt8)} {lines : List String} :
    Renders pieces.flatten lines ↔ lines = streamedLines pieces := by
  rw [streamedLines_eq]
  constructor
  · rintro ⟨⟨cs, decodes, text⟩, -, isLine⟩
    have shape : ∀ before line after, lines.map String.toList = before ++ line :: after →
        IsLine line (after = []) := by
      intro before line after same
      obtain ⟨before', rest, rfl, rfl, hrest⟩ := List.map_eq_append_iff.mp same
      obtain ⟨line', after', rfl, rfl, rfl⟩ := List.map_eq_cons_iff.mp hrest
      rw [List.map_eq_nil_iff]
      exact isLine before' line' after' rfl
    rw [← decodes_iff.mp decodes, ← text, splitLines_flatten shape]
    simp
  · rintro rfl
    have text : Decodes pieces.flatten (decodeFrom none pieces.flatten) := decodes_iff.mpr rfl
    generalize decodeFrom none pieces.flatten = cs at text
    have toList : ((splitLines (unifyNewlines cs)).map String.ofList).map String.toList =
        splitLines (unifyNewlines cs) := by
      simp
    refine ⟨⟨cs, text, ?_⟩, ?_, ?_⟩
    · rw [toList, flatten_splitLines]
    · intro line hline ret
      have inside : '\r' ∈ (splitLines (unifyNewlines cs)).flatten := by
        rw [← toList]
        exact List.mem_flatten.mpr ⟨_, List.mem_map_of_mem hline, ret⟩
      rw [flatten_splitLines] at inside
      exact return_not_mem_unifyNewlines cs inside
    · intro before line after same
      rw [same, List.map_append, List.map_cons] at toList
      have shape := isLine_of_splitLines toList.symm
      rwa [List.map_eq_nil_iff] at shape

end Text

/-! ## Lines of a command -/

namespace Runner

open Text

variable {launcher : Launcher} {r : Request} {s : Session}

/-- When the runner replies to a command that has run, with an outcome or a failure, its output has
been handed on: the lines of the text that its octets stand for, whatever the pieces in which they
have arrived. -/
theorem output_delivered {output : List (List UInt8)} {status : Int} {files : FileSystem}
    (ran : launcher s.clock s.files r.command r.cwd = .ran output status files) :
    ∃ lines after,
      (Act.command (launching launcher) r).runIn s =
        (checked r.check ⟨r.command, status, "", "", true⟩, after) ∧
      after.printed = s.printed ++ lines.map (Printed.mk .out · true) ∧
      Renders output.flatten lines ∧
      (∀ other, Renders output.flatten other → other = lines) ∧
      ∀ pieces, pieces.flatten = output.flatten → streamedLines pieces = lines := by
  have act := Act.runIn_command (launching launcher) r s
  rw [launching_of_ran ran] at act
  refine ⟨streamedLines output, _, act, rfl, renders_iff.mpr rfl, fun _ => renders_iff.mp, ?_⟩
  intro pieces same
  rw [streamedLines_eq, streamedLines_eq, same]

/-- An output that is cut inside of a character and of a line end. -/
def cutOutput : List (List UInt8) :=
  [[0x61, 0xE2], [0x82, 0xAC, 0x0D], [0x0A, 0xF0, 0x9F, 0x0D], [0x62]]

theorem output_delivered_cutOutput :
    let launcher : Launcher := fun _ fs _ _ => .ran cutOutput 1 fs
    let outcome : Command.Outcome := ⟨["tool"], 1, "", "", true⟩
    ∃ after,
      (Act.command (launching launcher) { command := ["tool"] }).runIn { files := .empty } =
        (.error (.command outcome), after) ∧
      after.printed = ["a€\n", "\ufffd\n", "b"].map (Printed.mk .out · true) ∧
      Renders cutOutput.flatten ["a€\n", "\ufffd\n", "b"] := by
  intro launcher outcome
  have ran : launcher 0 .empty ["tool"] .none = .ran cutOutput 1 .empty := rfl
  obtain ⟨lines, after, act, printed, renders, -⟩ :=
    output_delivered (r := { command := ["tool"] }) (s := { files := .empty }) ran
  have same : lines = ["a€\n", "\ufffd\n", "b"] :=
    (renders_iff.mp renders).trans (by decide +kernel)
  subst same
  exact ⟨after, act, printed, renders⟩

end Runner

end BuildPilot
