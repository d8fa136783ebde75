import BuildPilot.ExtraArgs
import BuildPilot.Proofs.Texts

/-!
# Values of switches

Where the arguments in switch values go. The values are sorted one by one, each argument arrives
trimmed and without a comma, and a list of arguments for each tool can be given by switches whatever
order the values are put in.
-/

namespace BuildPilot

open Text

/-! ## Scopes -/

namespace Scope

/-- A word is the name of a scope, in small or capital letters. -/
def IsSpelled (s : Scope) (word : String) : Prop := word.toList.map Char.toLower = s.name.toList

instance (s : Scope) (word : String) : Decidable (s.IsSpelled word) :=
  inferInstanceAs (Decidable (_ = _))

theorem name_eq_lower_iff {s : Scope} {word : String} :
    s.name = lower word ↔ s.IsSpelled word := by
  have checked : (s.name.toList.all fun c => decide (IsBasic c)) = true := by cases s <;> decide
  have basic : ∀ c ∈ s.name.toList, IsBasic c := fun c hc =>
    of_decide_eq_true (List.all_eq_true.mp checked c hc)
  rw [eq_comm, lower_eq_iff basic, IsSpelled]

theorem ofWord?_eq_some_iff {s : Scope} {word : String} :
    ofWord? word = some s ↔ s.IsSpelled (trim word) := by
  constructor
  · intro found
    have named := List.find?_some found
    exact name_eq_lower_iff.mp (by simpa using named)
  · intro spelled
    have named := name_eq_lower_iff.mpr spelled
    unfold ofWord?
    rw [← named]
    cases s <;> decide

end Scope

namespace ExtraArgs

/-! ## Arguments -/

/-- The arguments for the tool of a scope. -/
def of (e : ExtraArgs) : Scope → List String
  | .config => e.config
  | .build => e.build
  | .native => e.native

/-- An argument as a switch can give it. -/
def IsArgument (a : String) : Prop := IsTrimmed a ∧ ',' ∉ a.toList

variable {e f g : ExtraArgs} {s t : Scope} {value word rest a : String}

theorem ext_of (h : ∀ t, e.of t = f.of t) : e = f := by
  obtain ⟨config, build, native⟩ := f
  obtain rfl : e.config = config := h .config
  obtain rfl : e.build = build := h .build
  obtain rfl : e.native = native := h .native
  rfl

@[simp] theorem of_append (e f : ExtraArgs) (t : Scope) : (e ++ f).of t = e.of t ++ f.of t := by
  cases t <;> rfl

@[simp] theorem of_empty (t : Scope) : ({} : ExtraArgs).of t = [] := by
  cases t <;> rfl

theorem append_assoc (e f g : ExtraArgs) : e ++ f ++ g = e ++ (f ++ g) :=
  ext_of fun t => by simp

theorem empty_append (e : ExtraArgs) : {} ++ e = e := ext_of fun t => by simp

theorem append_empty (e : ExtraArgs) : e ++ {} = e := ext_of fun t => by simp

theorem of_inScope_some (s : Scope) (args : List String) (t : Scope) :
    (inScope (some s) args).of t = if t = s then args else [] := by
  cases s <;> cases t <;> rfl

theorem of_inScope_none (args : List String) (t : Scope) :
    (inScope none args).of t = if t = .native then [] else args := by
  cases t <;> rfl

theorem isArgument_of_mem_argumentsIn (h : a ∈ argumentsIn rest) : IsArgument a := by
  obtain ⟨h, full⟩ := List.mem_filter.mp h
  obtain ⟨piece, hpiece, rfl⟩ := List.mem_map.mp h
  obtain ⟨chars, hchars, rfl⟩ := List.mem_map.mp hpiece
  refine ⟨isTrimmed_trim (by simpa using full), fun comma => ?_⟩
  have inside := mem_of_mem_trim comma
  rw [String.toList_ofList] at inside
  exact not_mem_of_mem_splitAtEach hchars inside

/-- The pieces of a text between commas that are not blank, trimmed. -/
def fullPieces (text : String) : List String :=
  ((pieces ',' text).filter fun p => !isBlankText p).map trim

theorem argumentsIn_eq (payload : String) : argumentsIn payload = fullPieces payload := by
  have same : ((pieces ',' payload).filter ((fun a => !a.isEmpty) ∘ trim)) =
      (pieces ',' payload).filter fun p => !isBlankText p :=
    List.filter_congr fun p _ => by rw [Function.comp_apply, isEmpty_trim]
  unfold argumentsIn fullPieces
  rw [List.filter_map, same]

theorem fullPieces_of_isArgument (h : IsArgument a) : fullPieces a = [a] := by
  have alone : pieces ',' a = [a] := by
    rw [pieces, splitAtEach_of_not_mem h.2, List.map_singleton, String.ofList_toList]
  rw [fullPieces, alone, List.filter_singleton, h.1.isBlankText_eq_false]
  simp [h.1.trim_eq]

/-! ## Single values -/

/-- A trimmed value names a scope: before its first comma there is the name of the scope, with
blanks around it or not, and behind the comma there is something, `rest`. -/
def Targets (value : String) (s : Scope) (rest : String) : Prop :=
  ∃ word, trim value = word ++ "," ++ rest ∧ ',' ∉ word.toList ∧ s.IsSpelled (trim word) ∧ rest ≠ ""

theorem toList_append_comma (word rest : String) :
    (word ++ "," ++ rest).toList = word.toList ++ ',' :: rest.toList := by
  simp

theorem scopeAndPayload_of_targets (h : Targets value s rest) :
    scopeAndPayload (trim value) = (some s, rest) := by
  obtain ⟨word, text, first, spelled, more⟩ := h
  have cut : cutAtFirst ',' (trim value).toList = some (word.toList, rest.toList) := by
    rw [text, toList_append_comma, cutAtFirst_append first]
  have named : Scope.ofWord? word = some s := Scope.ofWord?_eq_some_iff.mpr spelled
  have full : rest.toList.isEmpty = false := by simpa using more
  unfold scopeAndPayload
  simp only [cut, String.ofList_toList, named, full, Bool.false_eq_true, if_false]

theorem scopeAndPayload_of_untargeted (h : ∀ s rest, ¬ Targets value s rest) :
    scopeAndPayload (trim value) = (none, trim value) := by
  unfold scopeAndPayload
  split
  · rename_i word rest cut
    obtain ⟨text, first⟩ := eq_of_cutAtFirst cut
    split
    · rename_i s named
      split
      · rfl
      · rename_i more
        refine absurd ⟨String.ofList word, ?_, ?_, ?_, ?_⟩ (h s (String.ofList rest))
        · rw [← String.toList_inj, text, toList_append_comma]
          simp
        · rwa [String.toList_ofList]
        · exact Scope.ofWord?_eq_some_iff.mp named
        · simpa [← String.toList_inj] using more
    · rfl
  · rfl

/-- A value that names a scope names it alone, with the same arguments. -/
theorem targets_iff : Targets value s rest ↔ scopeAndPayload (trim value) = (some s, rest) := by
  refine ⟨scopeAndPayload_of_targets, fun h => ?_⟩
  by_contra other
  by_cases named : ∃ s' rest', Targets value s' rest'
  · obtain ⟨s', rest', targets⟩ := named
    rw [scopeAndPayload_of_targets targets] at h
    cases h
    exact other targets
  · rw [scopeAndPayload_of_untargeted fun s' rest' targets => named ⟨s', rest', targets⟩] at h
    cases h

instance (value : String) (s : Scope) (rest : String) : Decidable (Targets value s rest) :=
  decidable_of_iff _ targets_iff.symm

theorem untargeted_of_none (h : (scopeAndPayload (trim value)).1 = none) (s : Scope)
    (rest : String) : ¬ Targets value s rest := by
  rw [targets_iff]
  intro targets
  rw [targets] at h
  cases h

theorem ofSwitch_eq (value : String) :
    ofSwitch value = inScope (scopeAndPayload (trim value)).1
      (argumentsIn (scopeAndPayload (trim value)).2) := by
  unfold ofSwitch
  cases scopeAndPayload (trim value)
  rfl

/-- A value that names a scope gives its arguments to that tool only. -/
theorem of_ofSwitch_of_targets (h : Targets value s rest) (t : Scope) :
    (ofSwitch value).of t = if t = s then fullPieces rest else [] := by
  rw [ofSwitch_eq, scopeAndPayload_of_targets h, of_inScope_some, argumentsIn_eq]

/-- Any other value gives its arguments to the generator and the build tool. -/
theorem of_ofSwitch_of_untargeted (h : ∀ s rest, ¬ Targets value s rest) (t : Scope) :
    (ofSwitch value).of t = if t = .native then [] else fullPieces (trim value) := by
  rw [ofSwitch_eq, scopeAndPayload_of_untargeted h, of_inScope_none, argumentsIn_eq]

theorem isArgument_of_mem_ofSwitch (h : a ∈ (ofSwitch value).of t) : IsArgument a := by
  rw [ofSwitch_eq] at h
  cases hs : (scopeAndPayload (trim value)).1 with
  | none =>
    rw [hs, of_inScope_none] at h
    split at h
    · cases h
    · exact isArgument_of_mem_argumentsIn h
  | some s =>
    rw [hs, of_inScope_some] at h
    split at h
    · exact isArgument_of_mem_argumentsIn h
    · cases h

/-! ## Several values -/

/-- What a value adds; a missing one adds nothing. -/
def share (value : Option String) : ExtraArgs := (value.map ofSwitch).getD {}

theorem share_none : share none = {} := rfl

theorem share_some (value : String) : share (some value) = ofSwitch value := by
  unfold share
  rw [Option.map_some, Option.getD_some]

theorem ofSwitches_eq_foldl (values : List (Option String)) :
    ofSwitches values = values.foldl (fun e value => e ++ share value) {} := rfl

theorem foldl_share (e : ExtraArgs) (values : List (Option String)) :
    values.foldl (fun e value => e ++ share value) e = e ++ ofSwitches values := by
  rw [ofSwitches_eq_foldl]
  induction values generalizing e with
  | nil => exact (append_empty e).symm
  | cons value values ih =>
    rw [List.foldl_cons, List.foldl_cons, ih, ih ({} ++ share value), empty_append, append_assoc]

theorem ofSwitches_cons (value : Option String) (values : List (Option String)) :
    ofSwitches (value :: values) = share value ++ ofSwitches values := by
  rw [ofSwitches_eq_foldl, List.foldl_cons, empty_append]
  exact foldl_share (share value) values

theorem ofSwitches_singleton (value : Option String) : ofSwitches [value] = share value := by
  rw [ofSwitches_eq_foldl, List.foldl_cons, empty_append]
  rfl

theorem ofSwitches_append (xs ys : List (Option String)) :
    ofSwitches (xs ++ ys) = ofSwitches xs ++ ofSwitches ys := by
  rw [ofSwitches_eq_foldl, List.foldl_append]
  exact foldl_share _ ys

theorem isArgument_of_mem_ofSwitches {values : List (Option String)}
    (h : a ∈ (ofSwitches values).of t) : IsArgument a := by
  induction values with
  | nil =>
    rw [ofSwitches, List.foldl_nil, of_empty] at h
    cases h
  | cons value values ih =>
    rw [ofSwitches_cons, of_append, List.mem_append] at h
    rcases h with h | h
    · cases value with
      | none =>
        rw [share_none, of_empty] at h
        cases h
      | some value =>
        rw [share_some] at h
        exact isArgument_of_mem_ofSwitch h
    · exact ih h

/-! ## Arguments as switches -/

/-- The value that gives one argument to one tool. -/
def valueFor (s : Scope) (a : String) : String := s.name ++ "," ++ a

/-- In a list of arguments, each with the tool that it is for, the arguments for each tool stand in
their own order. -/
inductive Interleaves : ExtraArgs → List (Scope × String) → Prop
  | nil : Interleaves {} []
  | config {c b n : List String} {order : List (Scope × String)} (a : String)
      (h : Interleaves ⟨c, b, n⟩ order) : Interleaves ⟨a :: c, b, n⟩ ((.config, a) :: order)
  | build {c b n : List String} {order : List (Scope × String)} (a : String)
      (h : Interleaves ⟨c, b, n⟩ order) : Interleaves ⟨c, a :: b, n⟩ ((.build, a) :: order)
  | native {c b n : List String} {order : List (Scope × String)} (a : String)
      (h : Interleaves ⟨c, b, n⟩ order) : Interleaves ⟨c, b, a :: n⟩ ((.native, a) :: order)

theorem toList_valueFor (s : Scope) (a : String) :
    (valueFor s a).toList = s.name.toList ++ ',' :: a.toList :=
  toList_append_comma s.name a

theorem isTrimmed_valueFor (s : Scope) (h : IsTrimmed a) : IsTrimmed (valueFor s a) := by
  obtain ⟨more, -, stop⟩ := h
  obtain ⟨c, cs, ha⟩ : ∃ c cs, a.toList = c :: cs :=
    List.exists_cons_of_ne_nil (by simpa using more)
  refine ⟨?_, ?_, ?_⟩
  · intro empty
    have none := congrArg String.toList empty
    rw [toList_valueFor] at none
    simp at none
  · have start : s.name.toList.head?.any isBlank = false ∧ s.name.toList ≠ [] := by
      cases s <;> decide +kernel
    rw [toList_valueFor, List.head?_append_of_ne_nil _ start.2]
    exact start.1
  · have last : (valueFor s a).toList.getLast? = a.toList.getLast? := by
      rw [toList_valueFor, ha, List.getLast?_append, List.getLast?_cons_cons]
      simp [List.getLast?_cons]
    rw [last]
    exact stop

theorem targets_valueFor (s : Scope) (h : IsArgument a) : Targets (valueFor s a) s a := by
  have spelled : s.IsSpelled (trim s.name) := by cases s <;> decide +kernel
  have first : ',' ∉ s.name.toList := by cases s <;> decide +kernel
  exact ⟨s.name, (isTrimmed_valueFor s h.1).trim_eq, first, spelled, h.1.1⟩

theorem share_valueFor (s : Scope) (h : IsArgument a) :
    share (some (valueFor s a)) = inScope (some s) [a] := by
  refine ext_of fun t => ?_
  rw [share_some, of_ofSwitch_of_targets (targets_valueFor s h), fullPieces_of_isArgument h,
    of_inScope_some]

/-- Given as switches in any order, the arguments reach the tools that they are for. -/
theorem Interleaves.ofSwitches_eq {order : List (Scope × String)} (h : Interleaves e order)
    (valid : ∀ p ∈ order, IsArgument p.2) :
    ofSwitches (order.map fun p => some (valueFor p.1 p.2)) = e := by
  induction h with
  | nil => rfl
  | config a h ih | build a h ih | native a h ih =>
    rw [List.map_cons, ofSwitches_cons, share_valueFor _ (valid _ List.mem_cons_self),
      ih fun p hp => valid p (List.mem_cons_of_mem _ hp)]
    rfl

theorem Interleaves.mem_of {order : List (Scope × String)} (h : Interleaves e order)
    {p : Scope × String} (hp : p ∈ order) : p.2 ∈ e.of p.1 := by
  induction h with
  | nil => cases hp
  | config a h ih | build a h ih | native a h ih =>
    rcases List.mem_cons.mp hp with rfl | hp
    · exact List.mem_cons_self
    · obtain ⟨t, b⟩ := p
      cases t <;> simp_all [of]

/-- Switch values are sorted one by one, in order, and what arrives are trimmed arguments without a
comma. A value that names a scope, with something behind the comma, gives its arguments to that tool
only; any other value gives them to the generator and the build tool. Conversely, each tool gets
given arguments by values that name its scope, in whatever order these stand between each other. -/
theorem switches_sorted :
    (∀ (xs ys : List (Option String)) (t : Scope),
      (ofSwitches (xs ++ ys)).of t = (ofSwitches xs).of t ++ (ofSwitches ys).of t) ∧
    (∀ (values : List (Option String)) (t : Scope),
      ∀ a ∈ (ofSwitches values).of t, IsTrimmed a ∧ ',' ∉ a.toList) ∧
    (∀ t : Scope, (ofSwitches [none]).of t = []) ∧
    (∀ (value rest : String) (s : Scope), Targets value s rest →
      ∀ t, (ofSwitches [some value]).of t = if t = s then fullPieces rest else []) ∧
    (∀ value : String, (∀ s rest, ¬ Targets value s rest) →
      ∀ t, (ofSwitches [some value]).of t =
        if t = .native then [] else fullPieces (trim value)) ∧
    ∀ (c b n : List String) (order : List (Scope × String)), Interleaves ⟨c, b, n⟩ order →
      (∀ a ∈ c ++ b ++ n, IsTrimmed a ∧ ',' ∉ a.toList) →
      ofSwitches (order.map fun (s, a) => some (s.name ++ "," ++ a)) = ⟨c, b, n⟩ := by
  refine ⟨fun xs ys t => ?_, fun values t a => isArgument_of_mem_ofSwitches, fun t => ?_,
    fun value rest s targets t => ?_, fun value other t => ?_, fun c b n order h valid => ?_⟩
  · rw [ofSwitches_append, of_append]
  · rw [ofSwitches_singleton, share_none, of_empty]
  · rw [ofSwitches_singleton, share_some, of_ofSwitch_of_targets targets]
  · rw [ofSwitches_singleton, share_some, of_ofSwitch_of_untargeted other]
  · refine h.ofSwitches_eq fun p hp => valid p.2 ?_
    have there := h.mem_of hp
    obtain ⟨s, a⟩ := p
    cases s <;> simp_all [of]

theorem switches_sorted_mixed :
    Targets " Config , -DFOO=1 ,, -DBAR" .config " -DFOO=1 ,, -DBAR" ∧
    (ofSwitches [some " Config , -DFOO=1 ,, -DBAR"]).config = ["-DFOO=1", "-DBAR"] ∧
    (∀ s rest, ¬ Targets "native, " s rest) ∧ (ofSwitches [some "native, "]).build = ["native"] ∧
    Interleaves ⟨["-DA"], ["--target", "app"], ["-k 0"]⟩
      [(.build, "--target"), (.native, "-k 0"), (.build, "app"), (.config, "-DA")] ∧
    ofSwitches [some "build,--target", some "native,-k 0", some "build,app", some "config,-DA"] =
      ⟨["-DA"], ["--target", "app"], ["-k 0"]⟩ := by
  obtain ⟨-, -, -, targeted, untargeted, back⟩ := switches_sorted
  have targets : Targets " Config , -DFOO=1 ,, -DBAR" .config " -DFOO=1 ,, -DBAR" := by
    decide +kernel
  have bare : ∀ s rest, ¬ Targets "native, " s rest := untargeted_of_none (by decide +kernel)
  have order : Interleaves ⟨["-DA"], ["--target", "app"], ["-k 0"]⟩
      [(.build, "--target"), (.native, "-k 0"), (.build, "app"), (.config, "-DA")] :=
    .build _ (.native _ (.build _ (.config _ .nil)))
  refine ⟨targets, ?_, bare, ?_, order, ?_⟩
  · exact (targeted _ _ _ targets .config).trans (by decide +kernel)
  · exact (untargeted _ bare .build).trans (by decide +kernel)
  · exact back _ _ _ _ order (by decide +kernel)

end ExtraArgs

end BuildPilot
