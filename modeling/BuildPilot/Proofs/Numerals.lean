import BuildPilot.Numeric.Integer
import BuildPilot.Proofs.Texts

/-!
# Numerals

The texts that spell a number without a minus sign, and that they are read as this number. The
decimal digits of a number are one of its spellings.
-/

namespace BuildPilot.Numeric

open Text

/-! ## Spellings -/

/-- A row of digits of any script, with single underscores between them at most, and the values of
the digits. -/
inductive Grouped : List Char → List Nat → Prop
  | last {c : Char} {d : Nat} (value : digit? c = some d) : Grouped [c] [d]
  | next {c : Char} {d : Nat} {s : List Char} {ds : List Nat} (value : digit? c = some d)
      (rest : Grouped s ds) : Grouped (c :: s) (d :: ds)
  | gap {c : Char} {d : Nat} {s : List Char} {ds : List Nat} (value : digit? c = some d)
      (rest : Grouped s ds) : Grouped (c :: '_' :: s) (d :: ds)

/-- A text is a numeral with the given digits: in front of them there may be a plus sign, and around
all of it blanks. -/
def IsNumeral (text : String) (ds : List Nat) : Prop :=
  ∃ before sign digits after : List Char, text.toList = before ++ (sign ++ digits ++ after) ∧
    (∀ c ∈ before, numeralBlank c = true) ∧ (∀ c ∈ after, numeralBlank c = true) ∧
    (sign = [] ∨ sign = ['+']) ∧ Grouped digits ds

/-- A text spells a number. Zeros in front may be among its digits, of which there are not too
many. -/
def Spells (text : String) (n : Int) : Prop :=
  ∃ ds, IsNumeral text ds ∧ ds.length ≤ maxDigits ∧ (ofDigits 10 0 ds : Int) = n

variable {c : Char} {d : Nat} {s digits before after : List Char} {ds : List Nat}
  {text : String} {n : Int} {k : Nat}

/-! ## Digits -/

/-- No digit of any script is blank. -/
theorem isBlank_of_digit? (value : digit? c = some d) : isBlank c = false := by
  have table : (zeroDigits.all fun z => (List.range 10).all fun i =>
      !blankRanges.contains (z + i)) = true := by
    decide +kernel
  obtain ⟨z, found, -⟩ := Option.map_eq_some_iff.mp value
  have row := List.find?_some found
  simp only [Bool.and_eq_true, decide_eq_true_eq] at row
  have free := List.all_eq_true.mp (List.all_eq_true.mp table z (List.mem_of_find?_eq_some found))
    (c.toNat - z) (List.mem_range.mpr (by omega))
  rw [Nat.add_sub_cancel' row.1, Bool.not_eq_true'] at free
  exact free

theorem ne_of_digit? {e : Char} (value : digit? c = some d) (other : digit? e = none) : c ≠ e := by
  rintro rfl
  cases value.symm.trans other

theorem groupedDigits?_cons (value : digit? c = some d) (ready : Bool) (s : List Char) :
    groupedDigits? digit? ready (c :: s) = (groupedDigits? digit? true s).map (d :: ·) := by
  rw [groupedDigits?.eq_3 _ _ _ _ (ne_of_digit? value (by decide)), value]
  cases groupedDigits? digit? true s <;> rfl

theorem Grouped.read (h : Grouped digits ds) (ready : Bool) :
    groupedDigits? digit? ready digits = some ds := by
  induction h generalizing ready with
  | last value => rw [groupedDigits?_cons value]; rfl
  | next value rest ih => rw [groupedDigits?_cons value, ih]; rfl
  | gap value rest ih =>
    rw [groupedDigits?_cons value, groupedDigits?.eq_2, if_pos rfl, ih]
    rfl

/-! ## Blanks around a numeral -/

theorem Grouped.ne_nil (h : Grouped digits ds) : digits ≠ [] := by
  cases h <;> simp

theorem Grouped.mem (h : Grouped digits ds) : ∀ c ∈ digits, c = '_' ∨ ∃ d, digit? c = some d := by
  induction h with
  | last value =>
    rw [List.forall_mem_singleton]
    exact .inr ⟨_, value⟩
  | next value rest ih =>
    rw [List.forall_mem_cons]
    exact ⟨.inr ⟨_, value⟩, ih⟩
  | gap value rest ih =>
    rw [List.forall_mem_cons, List.forall_mem_cons]
    exact ⟨.inr ⟨_, value⟩, .inl rfl, ih⟩

theorem Grouped.full (h : Grouped digits ds) : ∀ c ∈ digits, numeralBlank c = false := by
  intro c mem
  rcases h.mem c mem with rfl | ⟨d, value⟩
  · decide +kernel
  · rw [numeralBlank, isBlank_of_digit? value, Bool.false_and]

theorem dropWhile_eq_of_full {p : Char → Bool} (full : ∀ c ∈ s, p c = false) (more : s ≠ [])
    (after : List Char) : (s ++ after).dropWhile p = s ++ after := by
  cases s with
  | nil => exact absurd rfl more
  | cons c s =>
    apply dropWhile_eq_self
    simpa using full c List.mem_cons_self

theorem trimNumeral_surrounded (blank : ∀ c ∈ before, numeralBlank c = true)
    (blank' : ∀ c ∈ after, numeralBlank c = true) (full : ∀ c ∈ s, numeralBlank c = false)
    (more : s ≠ []) : trimNumeral (before ++ (s ++ after)) = s := by
  have full' : ∀ c ∈ s.reverse, numeralBlank c = false := by simpa using full
  have reversed := dropWhile_eq_of_full full' (by simpa using more) []
  rw [List.append_nil] at reversed
  unfold trimNumeral
  rw [List.dropWhile_append_of_pos blank, dropWhile_eq_of_full full more, List.reverse_append,
    List.dropWhile_append_of_pos (by simpa using blank'), reversed, List.reverse_reverse]

/-! ## Reading -/

theorem splitSign_of_grouped {sign : List Char} (plus : sign = [] ∨ sign = ['+'])
    (h : Grouped digits ds) : splitSign (sign ++ digits) = (false, digits) := by
  have start : ∃ c s d, digits = c :: s ∧ digit? c = some d := by
    cases h with
    | last value => exact ⟨_, _, _, rfl, value⟩
    | next value => exact ⟨_, _, _, rfl, value⟩
    | gap value => exact ⟨_, _, _, rfl, value⟩
  obtain ⟨c, s, d, rfl, value⟩ := start
  rcases plus with rfl | rfl
  · apply splitSign.eq_3
    · intro s' same
      cases same
      exact ne_of_digit? value (by decide) rfl
    · intro s' same
      cases same
      exact ne_of_digit? value (by decide) rfl
  · exact splitSign.eq_1 _

/-- A numeral is read as the number that its digits denote, unless there are too many of them. -/
theorem readInteger?_of_isNumeral (h : IsNumeral text ds) :
    readInteger? text =
      if ds.length ≤ maxDigits then some (ofDigits 10 0 ds : Int) else none := by
  obtain ⟨before, sign, digits, after, chars, blank, blank', plus, grouped⟩ := h
  have full : ∀ c ∈ sign ++ digits, numeralBlank c = false := by
    intro c mem
    rcases List.mem_append.mp mem with inSign | inDigits
    · rcases plus with rfl | rfl
      · cases inSign
      · rw [List.mem_singleton.mp inSign]
        decide +kernel
    · exact grouped.full c inDigits
  have more : sign ++ digits ≠ [] := List.append_ne_nil_of_right_ne_nil _ grouped.ne_nil
  unfold readInteger?
  rw [chars, trimNumeral_surrounded blank blank' full more, splitSign_of_grouped plus grouped]
  dsimp only
  rw [grouped.read]
  rfl

theorem readInteger?_of_spells (h : Spells text n) : readInteger? text = some n := by
  obtain ⟨ds, numeral, few, rfl⟩ := h
  rw [readInteger?_of_isNumeral numeral, if_pos few]

example : readInteger? " +0_042\t" = some 42 := by decide +kernel

/-- What occurs in a numeral: blanks, a plus sign, underscores and digits. -/
theorem IsNumeral.mem (h : IsNumeral text ds) : ∀ c ∈ text.toList,
    numeralBlank c = true ∨ c = '+' ∨ c = '_' ∨ ∃ d, digit? c = some d := by
  obtain ⟨before, sign, digits, after, chars, blank, blank', plus, grouped⟩ := h
  intro c mem
  rw [chars, List.mem_append, List.mem_append, List.mem_append] at mem
  rcases mem with mem | (mem | mem) | mem
  · exact .inl (blank c mem)
  · rcases plus with rfl | rfl
    · cases mem
    · exact .inr (.inl (List.mem_singleton.mp mem))
  · exact .inr (.inr (grouped.mem c mem))
  · exact .inl (blank' c mem)

theorem IsNumeral.ne_empty (h : IsNumeral text ds) : text ≠ "" := by
  rintro rfl
  obtain ⟨before, sign, digits, after, chars, -, -, -, grouped⟩ := h
  have nothing := chars.symm
  simp [grouped.ne_nil] at nothing

/-! ## The digits of a number -/

theorem digit?_of_isDigit (h : c.isDigit = true) : digit? c = some (c.toNat - 0x30) := by
  have row : 0x30 ≤ c.val ∧ c.val ≤ 0x39 := by simpa [Char.isDigit] using h
  obtain ⟨zeros, hzeros⟩ : ∃ zeros, zeroDigits = 0x30 :: zeros := ⟨_, rfl⟩
  have first : (decide (0x30 ≤ c.toNat) && decide (c.toNat < 0x30 + 10)) = true := by
    have low : 0x30 ≤ c.toNat := row.1
    have high : c.toNat ≤ 0x39 := row.2
    simp only [Bool.and_eq_true, decide_eq_true_eq]
    omega
  simp only [digit?, hzeros, List.find?_cons, first, Option.map_some]

theorem grouped_of_isDigit (h : ∀ c ∈ s, c.isDigit = true) (more : s ≠ []) :
    Grouped s (s.map fun c => c.toNat - 0x30) := by
  induction s with
  | nil => exact absurd rfl more
  | cons c s ih =>
    have value := digit?_of_isDigit (h c List.mem_cons_self)
    by_cases rest : s = []
    · subst rest
      exact .last value
    · exact .next value (ih (fun c hc => h c (List.mem_cons_of_mem _ hc)) rest)

theorem ofDigits_map (s : List Char) (acc : Nat) :
    ofDigits 10 acc (s.map fun c => c.toNat - 0x30) = Nat.ofDigitChars 10 s acc := by
  induction s generalizing acc with
  | nil => rfl
  | cons c s ih =>
    rw [List.map_cons, ofDigits, ih, Nat.ofDigitChars_cons, Nat.mul_comm]
    rfl

theorem length_toDigits_le {m k : Nat} (more : 0 < k) (small : m < Nat.pow 10 k) :
    (Nat.toDigits 10 m).length ≤ k :=
  (Nat.length_toDigits_le_iff (by decide) more).mpr small

theorem isNumeral_of_isDigit (h : ∀ c ∈ s, c.isDigit = true) (more : s ≠ []) :
    IsNumeral (String.ofList s) (s.map fun c => c.toNat - 0x30) :=
  ⟨[], [], s, [], by simp, nofun, nofun, .inl rfl, grouped_of_isDigit h more⟩

/-- The decimal digits of a number spell it, unless there are too many of them. -/
theorem spells_decimal (positive : 1 ≤ n) (writable : isWritable n = true) :
    Spells (decimal n) n := by
  obtain ⟨m, rfl⟩ := Int.eq_ofNat_of_zero_le (by omega : 0 ≤ n)
  have text : decimal m = String.ofList (Nat.toDigits 10 m) := Nat.toString_eq_ofList_toDigits
  rw [text]
  refine ⟨_, isNumeral_of_isDigit
    (fun c => Nat.isDigit_of_mem_toDigits (by decide) (by decide)) Nat.toDigits_ne_nil, ?_, ?_⟩
  · rw [List.length_map]
    exact length_toDigits_le (by decide) (of_decide_eq_true writable)
  · rw [ofDigits_map, Nat.ofDigitChars_ten_toDigits]

/-- Zeros in front are counted among the digits of a numeral. -/
theorem readInteger?_of_zeros (many : maxDigits ≤ k) (more : s ≠ [])
    (h : ∀ c ∈ s, c.isDigit = true) :
    readInteger? (String.ofList (List.replicate k '0' ++ s)) = none := by
  have digits : ∀ c ∈ List.replicate k '0' ++ s, c.isDigit = true := by
    intro c mem
    rcases List.mem_append.mp mem with zero | other
    · rw [List.eq_of_mem_replicate zero]
      decide
    · exact h c other
  have length : 0 < s.length := List.length_pos_iff.mpr more
  rw [readInteger?_of_isNumeral (isNumeral_of_isDigit digits (by simp [more]))]
  refine if_neg ?_
  rw [List.length_map, List.length_append, List.length_replicate]
  omega

end BuildPilot.Numeric
