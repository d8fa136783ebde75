import BuildPilot.Proofs.Texts

/-!
# Lower case and blanks

Lower-casing a text looks around each capital sigma, but never past a blank, and it neither makes
nor loses blanks. So it makes no difference whether a text is trimmed before or after it is put in
lower case.
-/

namespace BuildPilot.Text

variable {c : Char} {s w before before' : List Char}

/-! ## Single characters -/

/-- The code points of the blanks, one by one. -/
def blankPoints : List Nat :=
  blankRanges.flatMap fun r => List.range' r.1 (r.2 + 1 - r.1)

theorem toNat_mem_blankPoints (blank : isBlank c = true) : c.toNat ∈ blankPoints := by
  obtain ⟨r, hr, low, high⟩ := (Ranges.contains_iff blankRanges c.toNat).mp blank
  refine List.mem_flatMap.mpr ⟨r, hr, ?_⟩
  rw [List.mem_range'_1]
  omega

/-- A blank is its own small form, and the search around a sigma ends at it. -/
theorem lowerChar_of_isBlank (blank : isBlank c = true) :
    lowerChar c = [c] ∧ c ≠ 'Σ' ∧ caseIgnorableRanges.contains c.toNat = false ∧
      casedRanges.contains c.toNat = false := by
  have table : blankPoints.all (fun n => lowerChar (Char.ofNat n) == [Char.ofNat n] &&
      Char.ofNat n != 'Σ' && !caseIgnorableRanges.contains n && !casedRanges.contains n) =
      true := by
    decide +kernel
  have row := List.all_eq_true.mp table _ (toNat_mem_blankPoints blank)
  rw [Char.ofNat_toNat] at row
  simp only [Bool.and_eq_true, beq_iff_eq, bne_iff_ne, Bool.not_eq_true'] at row
  obtain ⟨⟨⟨small, sigma⟩, ignorable⟩, cased⟩ := row
  exact ⟨small, sigma, ignorable, cased⟩

theorem isBlank_toLower (ascii : c.toNat < 0x80) (full : isBlank c = false) :
    isBlank c.toLower = false := by
  have table : (List.range 0x80).all (fun n =>
      isBlank (Char.ofNat n) || !isBlank (Char.ofNat n).toLower) = true := by
    decide +kernel
  have row := List.all_eq_true.mp table c.toNat (List.mem_range.mpr ascii)
  rw [Char.ofNat_toNat, full] at row
  simpa using row

/-- No capital letter has a blank for its small form. -/
theorem isBlank_of_mem_caseRuns {r : CaseRun} (hr : r ∈ caseRuns) {n : Nat}
    (hn : r.contains n = true) : isBlank (Char.ofNat (n + r.shift).toNat) = false := by
  have table : caseRuns.all (fun r => blankRanges.all fun b => decide (0 < b.1) &&
      (decide (r.last + r.shift < b.1) || decide (b.2 < r.first + r.shift))) = true := by
    decide +kernel
  have apart := List.all_eq_true.mp table r hr
  simp only [CaseRun.contains, Bool.and_eq_true, decide_eq_true_eq] at hn
  rw [Bool.eq_false_iff]
  intro blank
  obtain ⟨b, hb, low, high⟩ := (Ranges.contains_iff blankRanges _).mp blank
  have away := List.all_eq_true.mp apart b hb
  simp only [Bool.and_eq_true, Bool.or_eq_true, decide_eq_true_eq] at away
  by_cases valid : (n + r.shift).toNat.isValidChar
  · have point : (Char.ofNat (n + r.shift).toNat).toNat = (n + r.shift).toNat := by
      rw [Char.ofNat, dif_pos valid]
      rfl
    rw [point] at low high
    omega
  · have point : (Char.ofNat (n + r.shift).toNat).toNat = 0 := by
      rw [Char.ofNat, dif_neg valid]
      rfl
    rw [point] at low
    omega

theorem lowerChar_of_full (full : isBlank c = false) :
    lowerChar c ≠ [] ∧ ∀ d ∈ lowerChar c, isBlank d = false := by
  unfold lowerChar
  split
  · rename_i ascii
    simpa using isBlank_toLower ascii full
  · split
    · rw [List.forall_mem_cons, List.forall_mem_singleton]
      exact ⟨by simp, by decide, by decide⟩
    · cases hr : caseRuns.find? (·.contains c.toNat) with
      | none => simpa using full
      | some r =>
        have hn := List.find?_some hr
        simpa using isBlank_of_mem_caseRuns (List.mem_of_find?_eq_some hr) hn

/-! ## The search around a sigma -/

/-- A text that is empty or starts with a blank is not searched. -/
def IsEdge (s : List Char) : Prop := ∀ c ∈ s.head?, isBlank c = true

theorem isEdge_of_blanks (blanks : ∀ c ∈ w, isBlank c = true) : IsEdge w :=
  fun c hc => blanks c (List.mem_of_head? hc)

theorem meetsCased_append (edge : IsEdge w) (s : List Char) :
    meetsCased (s ++ w) = meetsCased s := by
  unfold meetsCased
  rw [List.find?_append]
  cases s.find? fun c => !caseIgnorableRanges.contains c.toNat with
  | some c => rfl
  | none =>
    cases w with
    | nil => rfl
    | cons c w =>
      obtain ⟨-, -, ignorable, cased⟩ := lowerChar_of_isBlank (edge c rfl)
      simp [ignorable, cased]

theorem lowerAfter_congr (same : ∀ s, meetsCased (s ++ before) = meetsCased (s ++ before'))
    (s : List Char) : lowerAfter before s = lowerAfter before' s := by
  induction s generalizing before before' with
  | nil => rfl
  | cons c s ih =>
    have sigma : lowerSigma before s = lowerSigma before' s := by
      have here := same []
      simp only [List.nil_append] at here
      rw [lowerSigma, here, lowerSigma]
    have rest : lowerAfter (c :: before) s = lowerAfter (c :: before') s := by
      apply ih
      intro t
      simpa using same (t ++ [c])
    rw [lowerAfter, sigma, rest, lowerAfter]

/-! ## Blanks around a text -/

theorem lowerAfter_blanks (blanks : ∀ c ∈ w, isBlank c = true) (before : List Char) :
    lowerAfter before w = w := by
  induction w generalizing before with
  | nil => rfl
  | cons c w ih =>
    obtain ⟨small, sigma, -, -⟩ := lowerChar_of_isBlank (blanks c List.mem_cons_self)
    rw [lowerAfter, if_neg (by simpa using sigma), small,
      ih fun d hd => blanks d (List.mem_cons_of_mem c hd)]
    rfl

theorem lowerAfter_append_blanks (blanks : ∀ c ∈ w, isBlank c = true) (before s : List Char) :
    lowerAfter before (s ++ w) = lowerAfter before s ++ w := by
  induction s generalizing before with
  | nil => exact lowerAfter_blanks blanks before
  | cons c s ih =>
    have sigma : lowerSigma before (s ++ w) = lowerSigma before s := by
      rw [lowerSigma, meetsCased_append (isEdge_of_blanks blanks), lowerSigma]
    rw [List.cons_append, lowerAfter, sigma, ih, lowerAfter, List.append_assoc]

theorem lowerAfter_blanks_append (blanks : ∀ c ∈ w, isBlank c = true) (before s : List Char) :
    lowerAfter before (w ++ s) = w ++ lowerAfter (w.reverse ++ before) s := by
  induction w generalizing before with
  | nil => rfl
  | cons c w ih =>
    obtain ⟨small, sigma, -, -⟩ := lowerChar_of_isBlank (blanks c List.mem_cons_self)
    rw [List.cons_append, lowerAfter, if_neg (by simpa using sigma), small,
      ih fun d hd => blanks d (List.mem_cons_of_mem c hd)]
    simp

/-- Blanks at either end stay where they are, and what stands between them is lower-cased as if it
stood alone. -/
theorem lowerAfter_surrounded {w' : List Char} (blanks : ∀ c ∈ w, isBlank c = true)
    (blanks' : ∀ c ∈ w', isBlank c = true) (s : List Char) :
    lowerAfter [] (w ++ s ++ w') = w ++ lowerAfter [] s ++ w' := by
  have edge : IsEdge (w.reverse ++ []) :=
    isEdge_of_blanks fun c hc => blanks c (by simpa using hc)
  have alone : lowerAfter (w.reverse ++ []) s = lowerAfter [] s := by
    apply lowerAfter_congr
    intro t
    rw [meetsCased_append edge, List.append_nil]
  rw [lowerAfter_append_blanks blanks', lowerAfter_blanks_append blanks, alone]

/-! ## Trimmed texts -/

/-- The small form of a character that is not blank, wherever it stands. -/
theorem small_of_full (full : isBlank c = false) (before after : List Char) :
    (if c == 'Σ' then [lowerSigma before after] else lowerChar c) ≠ [] ∧
      ∀ d ∈ if c == 'Σ' then [lowerSigma before after] else lowerChar c, isBlank d = false := by
  split
  · refine ⟨by simp, fun d hd => ?_⟩
    rw [List.mem_singleton.mp hd, lowerSigma]
    split <;> decide
  · exact lowerChar_of_full full

theorem head?_lowerAfter (full : s.head?.any isBlank = false) (before : List Char) :
    (lowerAfter before s).head?.any isBlank = false := by
  cases s with
  | nil => rfl
  | cons c s =>
    obtain ⟨some, full⟩ := small_of_full (by simpa using full) before s
    rw [lowerAfter]
    obtain ⟨d, ds, small⟩ := List.exists_cons_of_ne_nil some
    rw [small] at full ⊢
    simpa using full d List.mem_cons_self

theorem exists_lowerAfter_concat (before s : List Char) (c : Char) :
    ∃ front before', lowerAfter before (s ++ [c]) = front ++ lowerAfter before' [c] := by
  induction s generalizing before with
  | nil => exact ⟨[], before, rfl⟩
  | cons d s ih =>
    obtain ⟨front, before', rest⟩ := ih (d :: before)
    rw [List.cons_append, lowerAfter, rest, ← List.append_assoc]
    exact ⟨_, before', rfl⟩

theorem getLast?_lowerAfter (full : s.getLast?.any isBlank = false) (before : List Char) :
    (lowerAfter before s).getLast?.any isBlank = false := by
  rcases List.eq_nil_or_concat s with rfl | ⟨s, c, rfl⟩
  · rfl
  · obtain ⟨front, before', last⟩ := exists_lowerAfter_concat before s c
    obtain ⟨some, full⟩ := small_of_full (by simpa using full) before' []
    rw [List.concat_eq_append, last, lowerAfter, lowerAfter, List.append_nil,
      List.getLast?_append_of_ne_nil front some, List.getLast?_eq_some_getLast some]
    simpa using full _ (List.getLast_mem some)

theorem exists_blanks (s : List Char) : ∃ w w' : List Char, (∀ c ∈ w, isBlank c = true) ∧
    (∀ c ∈ w', isBlank c = true) ∧ s = w ++ trimChars s ++ w' := by
  have blank {t : List Char} : ∀ c ∈ t.takeWhile isBlank, isBlank c = true :=
    fun c hc => List.mem_takeWhile_imp hc
  refine ⟨s.takeWhile isBlank, ((trimStart s).reverse.takeWhile isBlank).reverse, blank,
    fun c hc => blank c (List.mem_reverse.mp hc), ?_⟩
  have stop : trimChars s ++ ((trimStart s).reverse.takeWhile isBlank).reverse = trimStart s := by
    rw [trimChars, trimEnd, ← List.reverse_append, List.takeWhile_append_dropWhile,
      List.reverse_reverse]
  rw [List.append_assoc, stop]
  exact List.takeWhile_append_dropWhile.symm

theorem trimChars_surrounded {w' : List Char} (blanks : ∀ c ∈ w, isBlank c = true)
    (blanks' : ∀ c ∈ w', isBlank c = true) (start : s.head?.any isBlank = false)
    (stop : s.getLast?.any isBlank = false) : trimChars (w ++ s ++ w') = s := by
  have front : trimStart (w ++ s ++ w') = trimStart (s ++ w') := by
    rw [List.append_assoc]
    exact List.dropWhile_append_of_pos blanks
  have back : trimEnd (s ++ w') = s := by
    rw [trimEnd, List.reverse_append, List.dropWhile_append_of_pos fun c hc =>
      blanks' c (List.mem_reverse.mp hc)]
    rw [← List.head?_reverse] at stop
    rw [dropWhile_eq_self stop, List.reverse_reverse]
  rw [trimChars, front]
  cases s with
  | nil =>
    have nothing : trimStart ([] ++ w') = [] := List.dropWhile_eq_nil_iff.mpr blanks'
    rw [nothing]
    rfl
  | cons c s =>
    have kept : trimStart (c :: s ++ w') = c :: s ++ w' := dropWhile_eq_self start
    rw [kept, back]

/-- Trimming and lower-casing may change places. -/
theorem trim_lower (s : String) : trim (lower s) = lower (trim s) := by
  obtain ⟨w, w', blanks, blanks', split⟩ := exists_blanks s.toList
  obtain ⟨start, stop⟩ := ends_trimChars s.toList
  rw [trim, lower, trim, lower, String.toList_ofList, String.toList_ofList]
  conv_lhs => rw [split, lowerAfter_surrounded blanks blanks']
  rw [trimChars_surrounded blanks blanks' (head?_lowerAfter start [])
    (getLast?_lowerAfter stop [])]

end BuildPilot.Text
