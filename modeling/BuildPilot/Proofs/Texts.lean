import BuildPilot.Text.Blank
import BuildPilot.Text.LetterCase
import BuildPilot.Text.Split
import Mathlib.Data.List.TakeWhile
import Mathlib.Data.String.Basic

/-!
# Texts

What trimming does to a text, what cutting at the first occurrence of a character gives, and which
texts have a small form without capital letters.
-/

namespace BuildPilot.Text

/-! ## Trimmed texts -/

/-- A text with something in it and no blank at either end. -/
def IsTrimmed (s : String) : Prop :=
  s ≠ "" ∧ s.toList.head?.any isBlank = false ∧ s.toList.getLast?.any isBlank = false

instance (s : String) : Decidable (IsTrimmed s) :=
  inferInstanceAs (Decidable (_ ∧ _ ∧ _))

theorem head?_trimStart (s : List Char) : (trimStart s).head?.any isBlank = false := by
  have h := List.head?_dropWhile_not isBlank s
  unfold trimStart
  cases hs : (s.dropWhile isBlank).head? with
  | none => rfl
  | some c =>
    rw [hs] at h
    simpa using h

theorem prefix_trimEnd (s : List Char) : trimEnd s <+: s := by
  rw [← List.reverse_suffix, trimEnd, List.reverse_reverse]
  exact List.dropWhile_suffix isBlank

theorem infix_trimChars (s : List Char) : trimChars s <:+: s :=
  (prefix_trimEnd _).isInfix.trans (List.dropWhile_suffix isBlank).isInfix

theorem mem_of_mem_trim {c : Char} {s : String} (h : c ∈ (trim s).toList) : c ∈ s.toList := by
  rw [trim, String.toList_ofList] at h
  exact (infix_trimChars s.toList).subset h

theorem ends_trimChars (s : List Char) : (trimChars s).head?.any isBlank = false ∧
    (trimChars s).getLast?.any isBlank = false := by
  constructor
  · -- what is cut off at the end leaves the first character, unless it leaves nothing
    obtain ⟨rest, hrest⟩ := prefix_trimEnd (trimStart s)
    have start := head?_trimStart s
    rw [trimChars]
    cases hs : trimEnd (trimStart s) with
    | nil => rfl
    | cons c cs =>
      rw [← hrest, hs] at start
      exact start
  · have last := head?_trimStart (trimStart s).reverse
    rw [trimChars, trimEnd, List.getLast?_reverse]
    exact last

theorem isTrimmed_trim {s : String} (h : trim s ≠ "") : IsTrimmed (trim s) := by
  have ends := ends_trimChars s.toList
  rw [← String.toList_ofList (l := trimChars s.toList)] at ends
  exact ⟨h, ends⟩

theorem trim_ne_empty {s : String} (h : isBlankText s = false) : trim s ≠ "" := by
  intro empty
  have chars : trimChars s.toList = [] := by
    rw [← String.toList_ofList (l := trimChars s.toList), ← trim, empty]
    rfl
  have rest : ∀ c ∈ trimStart s.toList, isBlank c = true := by
    rw [trimChars, trimEnd, List.reverse_eq_nil_iff, List.dropWhile_eq_nil_iff] at chars
    simpa using chars
  have start := head?_trimStart s.toList
  have none : trimStart s.toList = [] := by
    cases hs : trimStart s.toList with
    | nil => rfl
    | cons c cs =>
      rw [hs] at start rest
      have blank := rest c List.mem_cons_self
      simp [blank] at start
  rw [trimStart, List.dropWhile_eq_nil_iff] at none
  rw [isBlankText, List.all_eq_false] at h
  obtain ⟨c, hc, full⟩ := h
  exact full (none c hc)

variable {s : String}

theorem dropWhile_eq_self {p : Char → Bool} {cs : List Char} (h : cs.head?.any p = false) :
    cs.dropWhile p = cs := by
  cases cs with
  | nil => rfl
  | cons c cs => exact List.dropWhile_cons_of_neg (by simpa using h)

theorem IsTrimmed.trim_eq (h : IsTrimmed s) : trim s = s := by
  obtain ⟨-, start, stop⟩ := h
  rw [← List.head?_reverse] at stop
  unfold trim trimChars trimStart trimEnd
  rw [dropWhile_eq_self start, dropWhile_eq_self stop, List.reverse_reverse, String.ofList_toList]

theorem IsTrimmed.isBlankText_eq_false (h : IsTrimmed s) : isBlankText s = false := by
  obtain ⟨more, start, -⟩ := h
  unfold isBlankText
  cases hs : s.toList with
  | nil => exact absurd (String.toList_inj.mp hs) more
  | cons c cs =>
    rw [hs] at start
    have full : isBlank c = false := by simpa using start
    rw [List.all_cons, full, Bool.false_and]

theorem isEmpty_trim (s : String) : (trim s).isEmpty = isBlankText s := by
  cases blank : isBlankText s with
  | false => simpa [String.isEmpty_iff] using trim_ne_empty blank
  | true =>
    have start : trimStart s.toList = [] := by simpa [trimStart, isBlankText] using blank
    rw [trim, trimChars, start]
    rfl

theorem dropWhile_append_cons {p : Char → Bool} {c : Char} (stop : p c = false)
    (w r : List Char) : (w ++ c :: r).dropWhile p = w.dropWhile p ++ c :: r := by
  induction w with
  | nil => simp [stop]
  | cons d w ih => by_cases h : p d = true <;> simp [h, ih]

/-- Around a character that is not blank, each side is trimmed by itself. -/
theorem trimChars_append_cons {c : Char} (full : isBlank c = false) (w r : List Char) :
    trimChars (w ++ c :: r) = trimStart w ++ c :: trimEnd r := by
  unfold trimChars trimStart trimEnd
  rw [dropWhile_append_cons full, List.reverse_append, List.reverse_cons, List.append_assoc,
    List.singleton_append, dropWhile_append_cons full]
  simp

theorem trimChars_trimStart (w : List Char) : trimChars (trimStart w) = trimChars w := by
  unfold trimChars
  exact congrArg trimEnd (dropWhile_eq_self (head?_trimStart w))

theorem trimEnd_eq_nil_iff {r : List Char} : trimEnd r = [] ↔ r.all isBlank = true := by
  simp [trimEnd]

/-! ## Texts with a separator -/

theorem cutAtFirst_append {sep : Char} {l : List Char} (free : sep ∉ l) (r : List Char) :
    cutAtFirst sep (l ++ sep :: r) = some (l, r) := by
  induction l with
  | nil => simp [cutAtFirst]
  | cons c l ih =>
    have hc : c ≠ sep := fun h => free (h ▸ List.mem_cons_self)
    rw [List.cons_append, cutAtFirst, if_neg hc, ih fun h => free (List.mem_cons_of_mem c h)]
    rfl

theorem eq_of_cutAtFirst {sep : Char} {s l r : List Char} (h : cutAtFirst sep s = some (l, r)) :
    s = l ++ sep :: r ∧ sep ∉ l := by
  induction s generalizing l with
  | nil => cases h
  | cons c s ih =>
    rw [cutAtFirst] at h
    by_cases hc : c = sep
    · rw [if_pos hc] at h
      cases h
      exact ⟨by rw [hc, List.nil_append], List.not_mem_nil⟩
    · rw [if_neg hc] at h
      obtain ⟨⟨l', r'⟩, cut, same⟩ := Option.map_eq_some_iff.mp h
      cases same
      obtain ⟨rfl, free⟩ := ih cut
      exact ⟨rfl, by simp [Ne.symm hc, free]⟩

/-! ## Letter case -/

/-- Capital letters beyond the ASCII ones have small forms beyond them too, but for the Kelvin
sign. -/
theorem beyond_of_mem_caseRuns {r : CaseRun} (hr : r ∈ caseRuns) {n : Nat}
    (hn : r.contains n = true) (beyond : 0x80 ≤ n) (other : n ≠ 0x212A) :
    0x80 ≤ (Char.ofNat (n + r.shift).toNat).toNat := by
  have table : caseRuns.all (fun r => decide (r.last < 0x80) ||
      (r.first == 0x212A && r.last == 0x212A) ||
      (decide (0x80 ≤ r.first + r.shift) && decide (r.last + r.shift < 0xD800)) ||
      (decide (0xE000 ≤ r.first + r.shift) && decide (r.last + r.shift < 0x110000))) = true := by
    decide +kernel
  have fits := List.all_eq_true.mp table r hr
  simp only [CaseRun.contains, Bool.and_eq_true, decide_eq_true_eq] at hn
  simp only [Bool.or_eq_true, Bool.and_eq_true, decide_eq_true_eq, beq_iff_eq] at fits
  have valid : (n + r.shift).toNat.isValidChar ∧ 0x80 ≤ (n + r.shift).toNat := by
    unfold Nat.isValidChar
    omega
  rw [Char.ofNat, dif_pos valid.1]
  exact valid.2

theorem toLower_of_beyond {c : Char} (beyond : 0x80 ≤ c.toNat) : c.toLower = c := by
  unfold Char.toLower
  refine dif_neg fun capital => ?_
  have le : c.toNat ≤ 'Z'.toNat := capital.2
  have : 'Z'.toNat = 90 := rfl
  omega

/-- A character that is an ASCII one, and not the small k, which is the small form of another one,
too. -/
def IsBasic (c : Char) : Prop := c.toNat < 0x80 ∧ c ≠ 'k'

instance (c : Char) : Decidable (IsBasic c) := inferInstanceAs (Decidable (_ ∧ _))

theorem exists_not_isBasic_lowerChar {c : Char} (beyond : 0x80 ≤ c.toNat) :
    ∃ d ∈ lowerChar c, ¬ IsBasic d := by
  by_cases kelvin : c.toNat = 0x212A
  · obtain rfl : c = '\u212A' := Char.toNat_inj.mp kelvin
    exact ⟨'k', by decide +kernel, by decide⟩
  unfold lowerChar
  rw [if_neg (by omega)]
  split
  · exact ⟨'\u0307', by simp, by decide⟩
  · cases hr : caseRuns.find? (·.contains c.toNat) with
    | none => exact ⟨c, List.mem_singleton_self c, fun basic => by have := basic.1; omega⟩
    | some r =>
      have hn := List.find?_some hr
      have far := beyond_of_mem_caseRuns (List.mem_of_find?_eq_some hr) hn beyond kelvin
      exact ⟨_, List.mem_singleton_self _, fun basic => by have := basic.1; omega⟩

/-- A text has a small form of basic characters exactly if its letters are those, each of them small
or capital. -/
theorem lowerAfter_eq_iff {ns : List Char} (basic : ∀ c ∈ ns, IsBasic c) (before s : List Char) :
    lowerAfter before s = ns ↔ s.map Char.toLower = ns := by
  induction s generalizing before ns with
  | nil => rfl
  | cons c s ih =>
    rw [lowerAfter, List.map_cons]
    by_cases ascii : c.toNat < 0x80
    · have sigma : (c == 'Σ') = false := by
        rw [beq_eq_false_iff_ne]
        rintro rfl
        exact absurd ascii (by decide)
      rw [sigma, lowerChar, if_pos ascii]
      cases ns with
      | nil => simp
      | cons d ns =>
        have rest := ih (fun e he => basic e (List.mem_cons_of_mem d he)) (c :: before)
        simp [rest]
    · have beyond : 0x80 ≤ c.toNat := Nat.le_of_not_lt ascii
      refine iff_of_false ?_ ?_
      · rintro rfl
        split at basic
        · have capital := basic (lowerSigma before s) (by simp)
          unfold lowerSigma at capital
          split at capital <;> exact absurd capital (by decide)
        · obtain ⟨d, hd, other⟩ := exists_not_isBasic_lowerChar beyond
          exact other (basic d (List.mem_append_left _ hd))
      · rintro rfl
        have head := (basic c.toLower (List.mem_cons_self)).1
        rw [toLower_of_beyond beyond] at head
        omega

theorem lower_eq_iff {s t : String} (basic : ∀ c ∈ t.toList, IsBasic c) :
    lower s = t ↔ s.toList.map Char.toLower = t.toList := by
  rw [← lowerAfter_eq_iff basic [], lower, ← String.toList_inj, String.toList_ofList]

end BuildPilot.Text
