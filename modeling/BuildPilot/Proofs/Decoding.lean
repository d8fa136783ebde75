import BuildPilot.Text.Utf8
import Mathlib.Data.Nat.Find
import Mathlib.Tactic.SplitIfs

/-!
# Decoding octets

Which text a sequence of octets stands for. At each place there is either a character, or the
longest part that is one octet or begins a character is replaced. Octets read one at a time give
this text and no other.
-/

namespace BuildPilot.Text

open String (utf8EncodeChar)

/-! ## Texts of octets -/

/-- Octets that a character begins with, maybe all of its octets. -/
def Begins (p : List UInt8) : Prop := ∃ c, p <+: utf8EncodeChar c

/-- At the start of `p ++ rest` there is no character, and `p` is the longest part from there on
that is a single octet or begins a character. -/
structure IsMaximalSubpart (p rest : List UInt8) : Prop where
  nonempty : p ≠ []
  unconvertible : ∀ c, ¬ utf8EncodeChar c <+: p ++ rest
  fits : p.length = 1 ∨ Begins p
  longest : ∀ q, q <+: p ++ rest → q.length = 1 ∨ Begins q → q.length ≤ p.length

/-- `Decodes bs cs`: the octets `bs` stand for the characters `cs`, some of them replaced. -/
inductive Decodes : List UInt8 → List Char → Prop
  | done : Decodes [] []
  | character {rest : List UInt8} {cs : List Char} (c : Char) (more : Decodes rest cs) :
    Decodes (utf8EncodeChar c ++ rest) (c :: cs)
  | replaced {p rest : List UInt8} {cs : List Char} (subpart : IsMaximalSubpart p rest)
    (more : Decodes rest cs) : Decodes (p ++ rest) (replacement :: cs)

theorem Begins.of_append {p q : List UInt8} (h : Begins (p ++ q)) : Begins p :=
  h.imp fun _ inside => (List.prefix_append p q).trans inside

/-- Where no character stands, something is replaced. -/
theorem exists_maximalSubpart {bs : List UInt8} (full : bs ≠ [])
    (unconvertible : ∀ c, ¬ utf8EncodeChar c <+: bs) :
    ∃ p rest, bs = p ++ rest ∧ IsMaximalSubpart p rest := by
  classical
  let Fits (n : Nat) : Prop := n = 1 ∨ Begins (bs.take n)
  have one : 1 ≤ bs.length := List.length_pos_iff.mpr full
  have some : 1 ≤ Nat.findGreatest Fits bs.length := Nat.le_findGreatest one (.inl rfl)
  have all : Nat.findGreatest Fits bs.length ≤ bs.length := Nat.findGreatest_le _
  have fits : Fits (Nat.findGreatest Fits bs.length) := Nat.findGreatest_spec one (.inl rfl)
  have longest (n : Nat) (hn : n ≤ bs.length) (h : Fits n) :
      n ≤ Nat.findGreatest Fits bs.length := Nat.le_findGreatest hn h
  generalize Nat.findGreatest Fits bs.length = n at *
  have length : (bs.take n).length = n := List.length_take_of_le all
  refine ⟨bs.take n, bs.drop n, (List.take_append_drop n bs).symm, ?_, ?_, ?_, ?_⟩
  · intro none
    rw [none, List.length_nil] at length
    omega
  · rwa [List.take_append_drop]
  · rwa [length]
  · intro q hq h
    rw [List.take_append_drop] at hq
    rw [length]
    refine longest _ hq.length_le (h.imp id fun begins => ?_)
    rwa [← List.prefix_iff_eq_take.mp hq]

theorem exists_decodes (bs : List UInt8) : ∃ cs, Decodes bs cs := by
  by_cases full : bs = []
  · exact ⟨[], full ▸ .done⟩
  by_cases h : ∃ c, utf8EncodeChar c <+: bs
  · obtain ⟨c, rest, rfl⟩ := h
    have shorter : rest.length < (utf8EncodeChar c ++ rest).length := by
      have := c.utf8Size_pos
      rw [List.length_append, String.length_utf8EncodeChar]
      omega
    obtain ⟨cs, more⟩ := exists_decodes rest
    exact ⟨c :: cs, .character c more⟩
  · obtain ⟨p, rest, rfl, subpart⟩ := exists_maximalSubpart full fun c hc => h ⟨c, hc⟩
    have shorter : rest.length < (p ++ rest).length := by
      have := List.length_pos_iff.mpr subpart.nonempty
      rw [List.length_append]
      omega
    obtain ⟨cs, more⟩ := exists_decodes rest
    exact ⟨replacement :: cs, .replaced subpart more⟩
termination_by bs.length

/-! ## The octets of a character -/

/-- The octets of a code point, as numbers. -/
def codeUnits (n : Nat) : List Nat :=
  if n < 0x80 then [n]
  else if n < 0x800 then [0xC0 + n / 64, 0x80 + n % 64]
  else if n < 0x10000 then [0xE0 + n / 4096, 0x80 + n / 64 % 64, 0x80 + n % 64]
  else [0xF0 + n / 262144, 0x80 + n / 4096 % 64, 0x80 + n / 64 % 64, 0x80 + n % 64]

/-- The code points of characters. -/
def IsScalar (n : Nat) : Prop := n < 0xD800 ∨ (0xDFFF < n ∧ n < 0x110000)

theorem isScalar_toNat (c : Char) : IsScalar c.toNat := c.valid

theorem toNat_ofNat {n : Nat} (valid : IsScalar n) : (Char.ofNat n).toNat = n := by
  have valid : n.isValidChar := valid
  rw [Char.ofNat, dif_pos valid]
  rfl

theorem map_toNat_utf8EncodeChar (c : Char) :
    (utf8EncodeChar c).map UInt8.toNat = codeUnits c.toNat := by
  have valid := isScalar_toNat c
  unfold utf8EncodeChar codeUnits IsScalar at *
  rw [show c.val.toNat = c.toNat from rfl]
  generalize c.toNat = n at *
  dsimp only
  by_cases h1 : n < 0x80
  · rw [if_pos (by omega), if_pos h1]
    simp only [List.map_cons, List.map_nil, UInt8.toNat_ofNat', List.cons.injEq, and_true]
    omega
  by_cases h2 : n < 0x800
  · rw [if_neg (by omega), if_pos (by omega), if_neg h1, if_pos h2]
    simp only [List.map_cons, List.map_nil, UInt8.toNat_ofNat', List.cons.injEq, and_true]
    omega
  by_cases h3 : n < 0x10000
  · rw [if_neg (by omega), if_neg (by omega), if_pos (by omega), if_neg h1, if_neg h2, if_pos h3]
    simp only [List.map_cons, List.map_nil, UInt8.toNat_ofNat', List.cons.injEq, and_true]
    omega
  · rw [if_neg (by omega), if_neg (by omega), if_neg (by omega), if_neg h1, if_neg h2, if_neg h3]
    simp only [List.map_cons, List.map_nil, UInt8.toNat_ofNat', List.cons.injEq, and_true]
    omega

theorem utf8EncodeChar_eq_iff {c : Char} {bs : List UInt8} :
    utf8EncodeChar c = bs ↔ codeUnits c.toNat = bs.map UInt8.toNat := by
  rw [← map_toNat_utf8EncodeChar]
  exact (List.map_inj_right fun a b => UInt8.toNat_inj.mp).symm

/-- Octets that an unfinished character may go on with to its end, and the character. -/
def Unfinished.Completes : Unfinished → List UInt8 → Char → Prop
  | _, [], _ => False
  | u, b :: rest, c =>
    (u.low ≤ b.toNat ∧ b.toNat ≤ u.high) ∧
      if u.owed ≤ 1 then rest = [] ∧ c = Char.ofNat (u.bits * 64 + (b.toNat - 0x80))
      else Completes ⟨u.bits * 64 + (b.toNat - 0x80), u.owed - 1, 0x80, 0xBF⟩ rest c

theorem completes_last {k low high : Nat} {rest : List UInt8} {c : Char} :
    Unfinished.Completes ⟨k, 1, low, high⟩ rest c ↔ ∃ b, rest = [b] ∧
      (low ≤ b.toNat ∧ b.toNat ≤ high) ∧ c = Char.ofNat (k * 64 + (b.toNat - 0x80)) := by
  constructor
  · intro h
    match rest, h with
    | b :: _, ⟨range, rfl, same⟩ => exact ⟨b, rfl, range, same⟩
  · rintro ⟨b, rfl, range, same⟩
    exact ⟨range, rfl, same⟩

theorem completes_more {k owed low high : Nat} {rest : List UInt8} {c : Char} :
    Unfinished.Completes ⟨k, owed + 2, low, high⟩ rest c ↔ ∃ b more, rest = b :: more ∧
      (low ≤ b.toNat ∧ b.toNat ≤ high) ∧
      Unfinished.Completes ⟨k * 64 + (b.toNat - 0x80), owed + 1, 0x80, 0xBF⟩ more c := by
  constructor
  · intro h
    match rest, h with
    | b :: more, ⟨range, h⟩ =>
      rw [if_neg (by simp)] at h
      exact ⟨b, more, rfl, range, h⟩
  · rintro ⟨b, more, rfl, range, h⟩
    refine ⟨range, ?_⟩
    rw [if_neg (by simp)]
    exact h

theorem codeUnits_two {k x : Nat} (hk : 2 ≤ k ∧ k < 32) (hx : x < 64) :
    codeUnits (k * 64 + x) = [0xC0 + k, 0x80 + x] := by
  rw [codeUnits, if_neg (by omega), if_pos (by omega)]
  simp only [List.cons.injEq, and_true]
  omega

theorem codeUnits_three {k x y : Nat} (hk : 32 ≤ k * 64 + x ∧ k < 16) (hx : x < 64)
    (hy : y < 64) :
    codeUnits ((k * 64 + x) * 64 + y) = [0xE0 + k, 0x80 + x, 0x80 + y] := by
  rw [codeUnits, if_neg (by omega), if_neg (by omega), if_pos (by omega)]
  simp only [List.cons.injEq, and_true]
  omega

theorem codeUnits_four {k x y z : Nat} (hk : 16 ≤ k * 64 + x ∧ k < 5) (hx : x < 64)
    (hy : y < 64) (hz : z < 64) :
    codeUnits (((k * 64 + x) * 64 + y) * 64 + z) =
      [0xF0 + k, 0x80 + x, 0x80 + y, 0x80 + z] := by
  rw [codeUnits, if_neg (by omega), if_neg (by omega), if_neg (by omega)]
  simp only [List.cons.injEq, and_true]
  omega

theorem eq_ofNat {c : Char} {n : Nat} (h : n = c.toNat) : c = Char.ofNat n := by
  rw [h, Char.ofNat_toNat]

theorem completes_two_iff {k : Nat} (hk : 2 ≤ k ∧ k < 32) {rest : List UInt8} {c : Char} :
    Unfinished.Completes ⟨k, 1, 0x80, 0xBF⟩ rest c ↔
      codeUnits c.toNat = (0xC0 + k) :: rest.map UInt8.toNat := by
  rw [completes_last]
  constructor
  · rintro ⟨b, rfl, range, same⟩
    have scalar : IsScalar (k * 64 + (b.toNat - 0x80)) := .inl (by omega)
    rw [same, toNat_ofNat scalar, codeUnits_two hk (by omega)]
    simp only [List.map_cons, List.map_nil, List.cons.injEq, and_true, true_and]
    omega
  · intro h
    have valid := isScalar_toNat c
    unfold codeUnits IsScalar at *
    split_ifs at h <;> obtain ⟨head, tail⟩ := List.cons.inj h
    · omega
    · obtain ⟨b, more, rfl, hb, hmore⟩ := List.map_eq_cons_iff.mp tail.symm
      cases List.map_eq_nil_iff.mp hmore
      exact ⟨b, rfl, by omega, eq_ofNat (by omega)⟩
    · omega
    · omega

theorem completes_three_iff {k low high : Nat} (hk : k < 16)
    (hlow : low = if k = 0 then 0xA0 else 0x80) (hhigh : high = if k = 0xD then 0x9F else 0xBF)
    {rest : List UInt8} {c : Char} :
    Unfinished.Completes ⟨k, 2, low, high⟩ rest c ↔
      codeUnits c.toNat = (0xE0 + k) :: rest.map UInt8.toNat := by
  rw [completes_more]
  constructor
  · rintro ⟨b₁, more, rfl, range₁, h⟩
    obtain ⟨b₂, rfl, range₂, same⟩ := completes_last.mp h
    have bounds : 32 ≤ k * 64 + (b₁.toNat - 0x80) ∧ 0x80 ≤ b₁.toNat ∧ b₁.toNat < 0xC0 := by
      split_ifs at hlow hhigh <;> omega
    have scalar : IsScalar ((k * 64 + (b₁.toNat - 0x80)) * 64 + (b₂.toNat - 0x80)) := by
      unfold IsScalar
      split_ifs at hlow hhigh <;> omega
    rw [same, toNat_ofNat scalar, codeUnits_three ⟨bounds.1, hk⟩ (by omega) (by omega)]
    simp only [List.map_cons, List.map_nil, List.cons.injEq, and_true, true_and]
    omega
  · intro h
    have valid := isScalar_toNat c
    unfold codeUnits IsScalar at *
    split_ifs at h <;> obtain ⟨head, tail⟩ := List.cons.inj h
    · omega
    · omega
    · obtain ⟨b₁, more, rfl, hb₁, tail⟩ := List.map_eq_cons_iff.mp tail.symm
      obtain ⟨b₂, more, rfl, hb₂, hmore⟩ := List.map_eq_cons_iff.mp tail
      cases List.map_eq_nil_iff.mp hmore
      refine ⟨b₁, _, rfl, ?_, completes_last.mpr ⟨b₂, rfl, by omega, eq_ofNat (by omega)⟩⟩
      split_ifs at hlow hhigh <;> omega
    · omega

theorem completes_four_iff {k low high : Nat} (hk : k < 5)
    (hlow : low = if k = 0 then 0x90 else 0x80) (hhigh : high = if k = 4 then 0x8F else 0xBF)
    {rest : List UInt8} {c : Char} :
    Unfinished.Completes ⟨k, 3, low, high⟩ rest c ↔
      codeUnits c.toNat = (0xF0 + k) :: rest.map UInt8.toNat := by
  rw [completes_more]
  constructor
  · rintro ⟨b₁, more, rfl, range₁, h⟩
    obtain ⟨b₂, more, rfl, range₂, h⟩ := completes_more.mp h
    obtain ⟨b₃, rfl, range₃, same⟩ := completes_last.mp h
    have bounds : 16 ≤ k * 64 + (b₁.toNat - 0x80) ∧ k * 64 + (b₁.toNat - 0x80) < 0x110 ∧
        0x80 ≤ b₁.toNat ∧ b₁.toNat < 0xC0 := by
      split_ifs at hlow hhigh <;> omega
    have scalar : IsScalar (((k * 64 + (b₁.toNat - 0x80)) * 64 + (b₂.toNat - 0x80)) * 64 +
        (b₃.toNat - 0x80)) := .inr (by omega)
    rw [same, toNat_ofNat scalar, codeUnits_four ⟨bounds.1, hk⟩ (by omega) (by omega) (by omega)]
    simp only [List.map_cons, List.map_nil, List.cons.injEq, and_true, true_and]
    omega
  · intro h
    have valid := isScalar_toNat c
    unfold codeUnits IsScalar at *
    split_ifs at h <;> obtain ⟨head, tail⟩ := List.cons.inj h
    · omega
    · omega
    · omega
    · obtain ⟨b₁, more, rfl, hb₁, tail⟩ := List.map_eq_cons_iff.mp tail.symm
      obtain ⟨b₂, more, rfl, hb₂, tail⟩ := List.map_eq_cons_iff.mp tail
      obtain ⟨b₃, more, rfl, hb₃, hmore⟩ := List.map_eq_cons_iff.mp tail
      cases List.map_eq_nil_iff.mp hmore
      refine ⟨b₁, _, rfl, ?_, completes_more.mpr ⟨b₂, _, rfl, by omega,
        completes_last.mpr ⟨b₃, rfl, by omega, eq_ofNat (by omega)⟩⟩⟩
      split_ifs at hlow hhigh <;> omega

theorem utf8EncodeChar_eq_cons_iff {c : Char} {b : UInt8} {rest : List UInt8} :
    utf8EncodeChar c = b :: rest ↔
      match leadOctet b.toNat with
      | some (.inl d) => c = d ∧ rest = []
      | some (.inr u) => u.Completes rest c
      | none => False := by
  rw [utf8EncodeChar_eq_iff, List.map_cons]
  generalize b.toNat = m
  unfold leadOctet
  split_ifs with ascii two firstThree surrogates three firstFour four lastFour
  · constructor
    · intro h
      unfold codeUnits at h
      split_ifs at h <;> obtain ⟨head, tail⟩ := List.cons.inj h
      · exact ⟨eq_ofNat head.symm, List.map_eq_nil_iff.mp tail.symm⟩
      all_goals omega
    · rintro ⟨same, rfl⟩
      rw [same, toNat_ofNat (.inl (by omega)), codeUnits, if_pos ascii]
      rfl
  · obtain ⟨k, rfl⟩ := Nat.exists_eq_add_of_le (show 0xC0 ≤ m by omega)
    rw [Nat.add_sub_cancel_left]
    exact (completes_two_iff (by omega)).symm
  · subst firstThree
    exact (completes_three_iff (k := 0) (by omega) rfl rfl).symm
  · subst surrogates
    exact (completes_three_iff (k := 0xD) (by omega) rfl rfl).symm
  · obtain ⟨k, rfl⟩ := Nat.exists_eq_add_of_le (show 0xE0 ≤ m by omega)
    rw [Nat.add_sub_cancel_left]
    exact (completes_three_iff (by omega) (by rw [if_neg]; omega) (by rw [if_neg]; omega)).symm
  · subst firstFour
    exact (completes_four_iff (k := 0) (by omega) rfl rfl).symm
  · obtain ⟨k, rfl⟩ := Nat.exists_eq_add_of_le (show 0xF0 ≤ m by omega)
    rw [Nat.add_sub_cancel_left]
    exact (completes_four_iff (by omega) (by rw [if_neg]; omega) (by rw [if_neg]; omega)).symm
  · subst lastFour
    exact (completes_four_iff (k := 4) (by omega) rfl rfl).symm
  · refine iff_false_intro fun h => ?_
    have valid := isScalar_toNat c
    unfold codeUnits IsScalar at *
    split_ifs at h <;> obtain ⟨head, tail⟩ := List.cons.inj h <;> omega

/-! ## Reading octets -/

theorem decodeFrom_of_completes {u : Unfinished} {more : List UInt8} {c : Char}
    (h : u.Completes more c) (rest : List UInt8) :
    decodeFrom (some u) (more ++ rest) = c :: decodeFrom none rest := by
  induction more generalizing u with
  | nil => exact h.elim
  | cons b more ih =>
    obtain ⟨range, h⟩ := h
    rw [List.cons_append, decodeFrom, readOctet, if_pos range]
    dsimp only
    by_cases last : u.owed ≤ 1
    · rw [if_pos last] at h ⊢
      obtain ⟨rfl, same⟩ := h
      rw [same]
      rfl
    · rw [if_neg last] at h ⊢
      exact ih h

theorem exists_completes {u : Unfinished} {b : UInt8}
    (range : u.low ≤ b.toNat ∧ b.toNat ≤ u.high) : ∃ more c, u.Completes (b :: more) c := by
  obtain ⟨bits, owed, low, high⟩ := u
  induction owed generalizing b bits low high with
  | zero => exact ⟨[], _, range, rfl, rfl⟩
  | succ owed ih =>
    by_cases last : owed = 0
    · subst last
      exact ⟨[], _, range, rfl, rfl⟩
    · have tail : 0x80 ≤ (0x80 : UInt8).toNat ∧ (0x80 : UInt8).toNat ≤ 0xBF := by decide
      obtain ⟨more, c, h⟩ := ih (bits * 64 + (b.toNat - 0x80)) 0x80 0xBF tail
      refine ⟨0x80 :: more, c, range, ?_⟩
      rwa [if_neg (by simpa using last)]

theorem utf8EncodeChar_ne_nil (c : Char) : utf8EncodeChar c ≠ [] :=
  List.ne_nil_of_length_pos (String.length_utf8EncodeChar c ▸ c.utf8Size_pos)

theorem decodeFrom_utf8EncodeChar (c : Char) (rest : List UInt8) :
    decodeFrom none (utf8EncodeChar c ++ rest) = c :: decodeFrom none rest := by
  obtain ⟨b, more, h⟩ := List.exists_cons_of_ne_nil (utf8EncodeChar_ne_nil c)
  have lead := utf8EncodeChar_eq_cons_iff.mp h
  rw [h, List.cons_append, decodeFrom, readOctet, startCharacter]
  cases hlead : leadOctet b.toNat with
  | none =>
    rw [hlead] at lead
    exact lead.elim
  | some announced =>
    rw [hlead] at lead
    cases announced with
    | inl d =>
      obtain ⟨rfl, rfl⟩ := lead
      rfl
    | inr u => exact decodeFrom_of_completes lead rest

/-- The octets `q` have led to the unfinished character `u`: what may follow them may follow it. -/
def LeadsTo (q : List UInt8) (u : Unfinished) : Prop :=
  ∀ more c, utf8EncodeChar c = q ++ more ↔ u.Completes more c

theorem LeadsTo.begins {q : List UInt8} {u : Unfinished} (h : LeadsTo q u) {b : UInt8}
    (range : u.low ≤ b.toNat ∧ b.toNat ≤ u.high) : Begins (q ++ [b]) := by
  obtain ⟨more, c, completes⟩ := exists_completes range
  refine ⟨c, more, ?_⟩
  rw [(h _ _).mpr completes, List.append_assoc, List.singleton_append]

/-- An octet behind an unfinished character is in its range exactly if a character goes on so. -/
theorem LeadsTo.range {q : List UInt8} {u : Unfinished} (h : LeadsTo q u) {b : UInt8}
    (begins : Begins (q ++ [b])) : u.low ≤ b.toNat ∧ b.toNat ≤ u.high := by
  obtain ⟨c, more, hc⟩ := begins
  rw [List.append_assoc, List.singleton_append] at hc
  exact ((h _ _).mp hc.symm).1

theorem decodeFrom_of_leadsTo {q p rest : List UInt8} {u : Unfinished} (h : LeadsTo q u)
    (hq : q ≠ []) (subpart : IsMaximalSubpart (q ++ p) rest) :
    decodeFrom (some u) (p ++ rest) = replacement :: decodeFrom none rest := by
  -- `q` has been read, and `p` is the rest of the subpart
  induction p generalizing q u with
  | nil =>
    rw [List.append_nil] at subpart
    cases rest with
    | nil => rfl
    | cons b rest =>
      have outside : ¬ (u.low ≤ b.toNat ∧ b.toNat ≤ u.high) := by
        intro range
        have longer := subpart.longest (q ++ [b]) ⟨rest, by simp⟩ (.inr (h.begins range))
        rw [List.length_append, List.length_singleton] at longer
        omega
      rw [List.nil_append, decodeFrom, readOctet, if_neg outside]
      rfl
  | cons b p ih =>
    rw [List.append_cons] at subpart
    have begins : Begins (q ++ [b]) := by
      refine Begins.of_append (subpart.fits.resolve_left fun single => ?_)
      have := List.length_pos_iff.mpr hq
      simp only [List.length_append, List.length_singleton] at single
      omega
    have range := h.range begins
    -- if this octet were the last one owed, a character would stand here
    have more : ¬ u.owed ≤ 1 := by
      intro last
      let c := Char.ofNat (u.bits * 64 + (b.toNat - 0x80))
      have completes : u.Completes [b] c := ⟨range, by rw [if_pos last]; exact ⟨rfl, rfl⟩⟩
      refine subpart.unconvertible c ?_
      rw [(h _ _).mpr completes, List.append_assoc]
      exact List.prefix_append _ _
    have next : LeadsTo (q ++ [b])
        ⟨u.bits * 64 + (b.toNat - 0x80), u.owed - 1, 0x80, 0xBF⟩ := by
      intro rest c
      rw [List.append_assoc, List.singleton_append, h, Unfinished.Completes, if_neg more]
      exact and_iff_right range
    rw [List.cons_append, decodeFrom, readOctet, if_pos range]
    dsimp only
    rw [if_neg more]
    exact ih next (by simp) subpart

theorem decodeFrom_of_maximalSubpart {p rest : List UInt8} (subpart : IsMaximalSubpart p rest) :
    decodeFrom none (p ++ rest) = replacement :: decodeFrom none rest := by
  obtain ⟨b, p, rfl⟩ := List.exists_cons_of_ne_nil subpart.nonempty
  rw [List.cons_append, decodeFrom, readOctet, startCharacter]
  have lead (more : List UInt8) (c : Char) : utf8EncodeChar c = b :: more ↔ _ :=
    utf8EncodeChar_eq_cons_iff
  cases hlead : leadOctet b.toNat with
  | none =>
    -- the octet begins no character, so it is replaced by itself
    rw [hlead] at lead
    have alone : p = [] := by
      rcases subpart.fits with single | ⟨c, more, hc⟩
      · simpa using single
      · exact ((lead _ _).mp hc.symm).elim
    rw [alone]
    rfl
  | some announced =>
    rw [hlead] at lead
    cases announced with
    | inl d =>
      have whole := (lead [] d).mpr ⟨rfl, rfl⟩
      refine (subpart.unconvertible d ?_).elim
      rw [whole]
      exact ⟨p ++ rest, rfl⟩
    | inr u => exact decodeFrom_of_leadsTo (q := [b]) lead (by simp) subpart

/-- Reading octets one at a time gives the text that they stand for, which is only one. -/
theorem decodes_iff {bs : List UInt8} {cs : List Char} :
    Decodes bs cs ↔ cs = decodeFrom none bs := by
  have unique {bs : List UInt8} {cs : List Char} (h : Decodes bs cs) :
      cs = decodeFrom none bs := by
    induction h with
    | done => rfl
    | character c more ih => rw [decodeFrom_utf8EncodeChar, ih]
    | replaced subpart more ih => rw [decodeFrom_of_maximalSubpart subpart, ih]
  refine ⟨unique, fun h => ?_⟩
  obtain ⟨cs', decodes⟩ := exists_decodes bs
  rwa [h, ← unique decodes]

end BuildPilot.Text
