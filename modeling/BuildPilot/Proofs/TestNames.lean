import BuildPilot.Proofs.WellFormed
import Mathlib.Data.List.Induction

/-!
# Names of tests

The filter of a run holds the names that are given, in the order in which each of them comes first.
How the names are spread over values does not matter: values may be joined by semicolons, and parts
of a list may be read by themselves and the results put together.
-/

namespace BuildPilot.TestFilter

open Text

variable {names acc : List String} {name : String}

/-! ## Adding names -/

theorem addName_of_mem (h : name ∈ acc) : addName acc name = acc := if_pos h

theorem addName_of_not_mem (h : name ∉ acc) : addName acc name = acc ++ [name] := if_neg h

/-- Names that are each there once are added as they are. -/
theorem foldl_addName_of_nodup (h : (acc ++ names).Nodup) :
    names.foldl addName acc = acc ++ names := by
  induction names generalizing acc with
  | nil => exact (List.append_nil acc).symm
  | cons first names ih =>
    rw [List.append_cons] at h ⊢
    have new : first ∉ acc := by
      have apart := (List.nodup_append.mp (List.nodup_append.mp h).1).2.2
      exact fun old => apart first old first (List.mem_singleton_self first) rfl
    rw [List.foldl_cons, addName_of_not_mem new, ih h]

/-- The names that are left when others are added may be added in their place. -/
theorem foldl_foldl_addName (names start acc : List String) :
    (names.foldl addName start).foldl addName acc =
      names.foldl addName (start.foldl addName acc) := by
  induction names generalizing start with
  | nil => rfl
  | cons first names ih =>
    rw [List.foldl_cons, List.foldl_cons, ih]
    congr 1
    by_cases old : first ∈ start
    · rw [addName_of_mem old, addName_of_mem (mem_foldl_addName.mpr (.inr old))]
    · rw [addName_of_not_mem old, List.foldl_append, List.foldl_cons, List.foldl_nil]

/-- The names stand in the order in which each comes first. -/
theorem pairwise_foldl_addName (names : List String) :
    (names.foldl addName []).Pairwise fun a b => names.idxOf a < names.idxOf b := by
  induction names using List.reverseRecOn with
  | nil => exact .nil
  | append_singleton names last ih =>
    have there {a : String} (ha : a ∈ names.foldl addName []) : a ∈ names := by
      simpa using mem_foldl_addName.mp ha
    -- a name that is there already keeps its place when another one comes behind all of them
    have kept : (names.foldl addName []).Pairwise fun a b =>
        (names ++ [last]).idxOf a < (names ++ [last]).idxOf b := by
      refine ih.imp_of_mem fun ha hb less => ?_
      rwa [List.idxOf_append_of_mem (there ha), List.idxOf_append_of_mem (there hb)]
    rw [List.foldl_append, List.foldl_cons, List.foldl_nil]
    by_cases old : last ∈ names.foldl addName []
    · rwa [addName_of_mem old]
    · rw [addName_of_not_mem old, List.pairwise_append]
      refine ⟨kept, List.pairwise_singleton _ _, fun a ha b hb => ?_⟩
      obtain rfl := List.mem_singleton.mp hb
      have new : b ∉ names := fun h => old (mem_foldl_addName.mpr (.inr h))
      rw [List.idxOf_append_of_mem (there ha), List.idxOf_append_of_notMem new]
      exact Nat.lt_add_right _ (List.idxOf_lt_length_iff.mpr (there ha))

/-! ## Names in values -/

/-- The pieces of all values between semicolons, trimmed and without the empty ones, in the order
in which they are given. -/
def given (values : List String) : List String :=
  (values.flatMap fun value => (pieces ';' value).map trim).filter fun name => name ≠ ""

theorem flatMap_namesIn (values : List String) : values.flatMap namesIn = given values := by
  unfold given
  rw [List.filter_flatMap]
  congr 1
  funext value
  refine List.filter_congr fun name _ => ?_
  rw [Bool.eq_iff_iff]
  simp

theorem namesIn_of_isName (h : IsName name) : namesIn name = [name] := by
  have alone : pieces ';' name = [name] := by
    rw [pieces, splitAtEach_of_not_mem h.2, List.map_singleton, String.ofList_toList]
  have full : (!name.isEmpty) = true := by simpa using h.1.1
  rw [namesIn, alone, List.map_singleton, h.1.trim_eq, List.filter_singleton, full]
  rfl

theorem flatMap_namesIn_of_isName (h : ∀ name ∈ names, IsName name) :
    names.flatMap namesIn = names := by
  induction names with
  | nil => rfl
  | cons name names ih =>
    rw [List.flatMap_cons, namesIn_of_isName (h name List.mem_cons_self),
      ih fun other hother => h other (List.mem_cons_of_mem name hother), List.singleton_append]

theorem splitAtEach_append_cons (sep : Char) (x rest : List Char) :
    splitAtEach sep (x ++ sep :: rest) = splitAtEach sep x ++ splitAtEach sep rest := by
  induction x with
  | nil => simp [splitAtEach]
  | cons c x ih =>
    rw [List.cons_append, splitAtEach, splitAtEach, ih]
    by_cases hc : c = sep
    · rw [if_pos hc, if_pos hc, List.cons_append]
    · rw [if_neg hc, if_neg hc]
      obtain ⟨p, ps, hp⟩ := List.exists_cons_of_ne_nil (splitAtEach_ne_nil sep x)
      rw [hp]
      rfl

theorem namesIn_append (value rest : String) :
    namesIn (value ++ ";" ++ rest) = namesIn value ++ namesIn rest := by
  have cut : pieces ';' (value ++ ";" ++ rest) = pieces ';' value ++ pieces ';' rest := by
    have joined : (value ++ ";" ++ rest).toList = value.toList ++ ';' :: rest.toList := by simp
    rw [pieces, joined, splitAtEach_append_cons, List.map_append]
    rfl
  rw [namesIn, cut, List.map_append, List.filter_append]
  rfl

theorem namesIn_intercalate (values : List String) :
    namesIn (";".intercalate values) = values.flatMap namesIn := by
  induction values with
  | nil => decide +kernel
  | cons value values ih =>
    cases values with
    | nil => simp
    | cons other values =>
      have joined : ";".intercalate (value :: other :: values) =
          value ++ ";" ++ ";".intercalate (other :: values) :=
        String.intercalate_cons_cons
      rw [joined, namesIn_append, ih, ← List.flatMap_cons]

/-! ## Filters -/

theorem parse_append (xs ys : List String) :
    parse (xs ++ ys) = (ys.flatMap namesIn).foldl addName (parse xs) := by
  rw [parse, List.flatMap_append, List.foldl_append]
  rfl

theorem flatMap_namesIn_parse (values : List String) :
    (parse values).flatMap namesIn = parse values :=
  flatMap_namesIn_of_isName (parse_wellFormed values).2.2

theorem parse_parse (values : List String) : parse (parse values) = parse values := by
  rw [parse, flatMap_namesIn_parse, foldl_addName_of_nodup, List.nil_append]
  exact (parse_wellFormed values).1

theorem parse_intercalate (values : List String) :
    parse [";".intercalate values] = parse values := by
  rw [parse, List.flatMap_singleton, namesIn_intercalate]
  rfl

/-- The filter holds the names that are given, each once and in the order in which they come first.
It depends only on the values joined by semicolons. Two lists of values may be read by themselves,
and the filter is read from its own names again. -/
theorem parse_firstOccurrences :
    (∀ values, (∀ name, name ∈ parse values ↔ name ∈ given values) ∧ (parse values).Nodup ∧
      (parse values).Pairwise (fun a b => (given values).idxOf a < (given values).idxOf b) ∧
      ∀ name ∈ parse values, IsTrimmed name ∧ ';' ∉ name.toList) ∧
    (∀ values, parse values = parse [";".intercalate values]) ∧
    (∀ xs ys, parse (xs ++ ys) = parse (parse xs ++ parse ys)) ∧
    ∀ values, parse [";".intercalate (parse values)] = parse values := by
  refine ⟨fun values => ?_, fun values => (parse_intercalate values).symm, fun xs ys => ?_,
    fun values => ?_⟩
  · obtain ⟨nodup, -, isName⟩ := parse_wellFormed values
    rw [← flatMap_namesIn]
    refine ⟨fun name => ?_, nodup, pairwise_foldl_addName _, isName⟩
    rw [parse, mem_foldl_addName]
    exact or_iff_right List.not_mem_nil
  · -- what is added to the names of the first list are the names of the second one, each once
    rw [parse_append, parse_append, parse_parse, flatMap_namesIn_parse]
    exact (foldl_foldl_addName (ys.flatMap namesIn) [] (parse xs)).symm
  · rw [parse_intercalate, parse_parse]

example : parse [" b;a ", "", "c;; b", "a"] = ["b", "a", "c"] := by decide +kernel

end BuildPilot.TestFilter
