import BuildPilot.Proofs.SwitchValues
import BuildPilot.Proofs.WellFormed

/-!
# Isolation of scopes

A switch value that names a scope is meant for one tool. Its arguments reach no other tool, whatever
they are, as long as something that is not blank stands behind the comma; else the value counts as
one without a scope, and the name of the scope itself becomes an argument for the generator and the
build tool. So the parts of the commands that belong to other tools do not depend on such switches.
-/

namespace BuildPilot

open Text

namespace ExtraArgs

variable {e f : ExtraArgs} {s t : Scope} {value word rest : String}

/-! ## Values with a scope -/

/-- Before its first comma a value has the name of a scope, in small or capital letters and with
blanks around it or not. Behind the comma it has `rest`. -/
def Addresses (value : String) (s : Scope) (rest : String) : Prop :=
  ∃ word, value = word ++ "," ++ rest ∧ ',' ∉ word.toList ∧ s.IsSpelled (trim word)

theorem toList_trim_of_comma (word rest : String) :
    (trim (word ++ "," ++ rest)).toList = trimStart word.toList ++ ',' :: trimEnd rest.toList := by
  rw [trim, String.toList_ofList, toList_append_comma, trimChars_append_cons (by decide)]

theorem trim_trimStart (word : String) :
    trim (String.ofList (trimStart word.toList)) = trim word := by
  rw [trim, String.toList_ofList, trimChars_trimStart, trim]

theorem not_mem_trimStart {c : Char} (h : c ∉ word.toList) : c ∉ trimStart word.toList :=
  fun inside => h ((List.dropWhile_suffix isBlank).subset inside)

theorem Addresses.targets (h : Addresses value s rest) (full : isBlankText rest = false) :
    Targets value s (String.ofList (trimEnd rest.toList)) := by
  obtain ⟨word, rfl, first, spelled⟩ := h
  refine ⟨String.ofList (trimStart word.toList), ?_, ?_, ?_, fun empty => ?_⟩
  · rw [← String.toList_inj, toList_trim_of_comma]
    simp
  · rw [String.toList_ofList]
    exact not_mem_trimStart first
  · rwa [trim_trimStart]
  · have none : trimEnd rest.toList = [] := by simpa using congrArg String.toList empty
    rw [isBlankText, trimEnd_eq_nil_iff.mp none] at full
    cases full

/-- A value with nothing but blanks behind its comma names no scope. -/
theorem Addresses.untargeted (h : Addresses value s rest) (bare : isBlankText rest = true)
    (t : Scope) (more : String) : ¬ Targets value t more := by
  obtain ⟨word, rfl, first, -⟩ := h
  rintro ⟨word', text, first', -, full⟩
  have here : cutAtFirst ',' (trim (word ++ "," ++ rest)).toList =
      some (trimStart word.toList, []) := by
    rw [toList_trim_of_comma, trimEnd_eq_nil_iff.mpr bare,
      cutAtFirst_append (not_mem_trimStart first)]
  have there : cutAtFirst ',' (trim (word ++ "," ++ rest)).toList =
      some (word'.toList, more.toList) := by
    rw [text, toList_append_comma, cutAtFirst_append first']
  rw [here] at there
  cases more.toList_eq_nil_iff.mp (congrArg Prod.snd (Option.some.inj there)).symm
  exact full rfl

/-- The only argument in such a value is the name of the scope. -/
theorem Addresses.fullPieces_of_bare (h : Addresses value s rest) (bare : isBlankText rest = true) :
    ∃ word, s.IsSpelled word ∧ fullPieces (trim value) = [word] := by
  obtain ⟨word, rfl, first, spelled⟩ := h
  refine ⟨trim word, spelled, ?_⟩
  have cut : pieces ',' (trim (word ++ "," ++ rest)) =
      [String.ofList (trimStart word.toList), ""] := by
    rw [pieces, toList_trim_of_comma, trimEnd_eq_nil_iff.mpr bare,
      splitAtEach_append (not_mem_trimStart first)]
    rfl
  have full : (isBlankText (String.ofList (trimStart word.toList))) = false := by
    rw [← isEmpty_trim, trim_trimStart]
    cases more : (trim word).isEmpty with
    | false => rfl
    | true =>
      rw [String.isEmpty_iff.mp more] at spelled
      cases s <;> cases spelled
  rw [fullPieces, cut, List.filter_cons_of_pos (by simpa using full),
    List.filter_cons_of_neg (by decide), List.filter_nil, List.map_singleton, trim_trimStart]

/-! ## Lists of values -/

/-- A value is for the tool of a scope: it names the scope, and not only blanks stand behind the
comma. -/
def IsFor (s : Scope) (value : Option String) : Prop :=
  ∃ v rest, value = some v ∧ Addresses v s rest ∧ isBlankText rest = false

theorem IsFor.of_share {value : Option String} (h : IsFor s value) (other : t ≠ s) :
    (share value).of t = [] := by
  obtain ⟨v, rest, rfl, addresses, full⟩ := h
  rw [share_some, of_ofSwitch_of_targets (addresses.targets full), if_neg other]

/-- Values for one tool may be left out without a difference for the others. -/
theorem of_ofSwitches_filter {values : List (Option String)} {keep : Option String → Bool}
    (left : ∀ v ∈ values, keep v = false → IsFor s v) (other : t ≠ s) :
    (ofSwitches (values.filter keep)).of t = (ofSwitches values).of t := by
  induction values with
  | nil => rfl
  | cons value values ih =>
    have rest := ih fun v hv => left v (List.mem_cons_of_mem value hv)
    rw [ofSwitches_cons, of_append, List.filter_cons]
    cases kept : keep value with
    | true => rw [if_pos rfl, ofSwitches_cons, of_append, rest]
    | false =>
      have idle := (left value List.mem_cons_self kept).of_share other
      rw [if_neg Bool.false_ne_true, rest, idle, List.nil_append]

theorem share_infix {values : List (Option String)} {value : Option String} (h : value ∈ values)
    (t : Scope) : (share value).of t <:+: (ofSwitches values).of t := by
  obtain ⟨before, after, rfl⟩ := List.append_of_mem h
  refine ⟨(ofSwitches before).of t, (ofSwitches after).of t, ?_⟩
  rw [ofSwitches_append, ofSwitches_cons, of_append, of_append, List.append_assoc]

/-- Values that name one scope give the other tools nothing exactly if not only blanks stand behind
the comma in each of them. -/
theorem of_ofSwitches_eq_nil_iff {values : List String}
    (named : ∀ v ∈ values, ∃ rest, Addresses v s rest) :
    (∀ t ≠ s, (ofSwitches (values.map some)).of t = []) ↔ ∀ v ∈ values, IsFor s (some v) := by
  constructor
  · intro idle v hv
    obtain ⟨rest, addresses⟩ := named v hv
    cases bare : isBlankText rest with
    | false => exact ⟨v, rest, rfl, addresses, bare⟩
    | true =>
      -- one of the generator and the build tool is not the tool of the scope
      obtain ⟨t, other, notNative⟩ : ∃ t ≠ s, t ≠ .native := by
        cases s
        · exact ⟨.build, by decide, by decide⟩
        · exact ⟨.config, by decide, by decide⟩
        · exact ⟨.config, by decide, by decide⟩
      obtain ⟨word, -, alone⟩ := addresses.fullPieces_of_bare bare
      have part := share_infix (List.mem_map_of_mem (f := some) hv) t
      rw [idle t other, share_some, of_ofSwitch_of_untargeted (addresses.untargeted bare),
        if_neg notNative, alone] at part
      simp at part
  · intro isFor t other
    have left : ∀ v ∈ values.map some, (fun _ => false) v = false → IsFor s v := by
      intro value hvalue _
      obtain ⟨v, hv, rfl⟩ := List.mem_map.mp hvalue
      exact isFor v hv
    rw [← of_ofSwitches_filter left other, List.filter_eq_nil_iff.mpr (by simp)]
    exact of_empty t

theorem of_extended (e : ExtraArgs) (more : List String) (t : Scope) :
    (e.extended more).of t = e.of t ++ if t = .build then more else [] := by
  cases t <;> simp [extended, of]

end ExtraArgs

/-! ## Parts of the commands -/

namespace Configuration

open ExtraArgs

variable {c : Configuration} {e f : ExtraArgs} {t : Scope} {action : Action} {more : List String}

/-- The part of the commands of a build that belongs to a tool: the command of the generator, the
build command up to the arguments for the native tool, or these. -/
def part (c : Configuration) (extra : ExtraArgs) : Scope → List String
  | .config => c.configureCommand extra
  | .build => ["cmake", "--build", c.buildDir.toString, "-j"] ++ c.jobArguments ++ extra.build
  | .native =>
    if (c.nativeArguments extra).isEmpty then [] else "--" :: c.nativeArguments extra

theorem part_congr (h : e.of t = f.of t) : c.part e t = c.part f t := by
  cases t with
  | config =>
    have h : e.config = f.config := h
    rw [part, part, configureCommand, configureCommand, h]
  | build =>
    have h : e.build = f.build := h
    rw [part, part, h]
  | native =>
    have h : e.native = f.native := h
    rw [part, part, nativeArguments, nativeArguments, h]

theorem ownSteps?_eq_parts (build : (action, more) ∈ CommandLine.builds) (extra : ExtraArgs)
    (processors : Option Nat) :
    c.ownSteps? extra processors action =
      if c.jobs.toList.all Numeric.isWritable then some [
        ⟨c.part (extra.extended more) .config, c.projectDir, "Generate build files"⟩,
        ⟨c.part (extra.extended more) .build ++ c.part (extra.extended more) .native,
          c.projectDir, "Build project"⟩]
      else none := by
  simp only [CommandLine.builds, List.mem_cons, Prod.mk.injEq, List.not_mem_nil, or_false] at build
  rcases build with ⟨rfl, rfl⟩ | ⟨rfl, rfl⟩ | ⟨rfl, rfl⟩
  · rw [ExtraArgs.extended, List.append_nil]
    rfl
  · rfl
  · rfl

end Configuration

/-! ## Isolation -/

namespace ExtraArgs

/-- Switches for one tool do not touch the others. If all values name one scope, the lists of the
other tools are empty exactly if each value has more than blanks behind its comma. And values of
this kind may be left out of any switches: of the commands that build, rebuild or clean, the parts
that belong to the other tools stay the same. -/
theorem scopes_isolated (s : Scope) :
    (∀ values : List String, (∀ v ∈ values, ∃ rest, Addresses v s rest) →
      ((∀ t ≠ s, (ofSwitches (values.map some)).of t = []) ↔ ∀ v ∈ values, IsFor s (some v))) ∧
    ∀ (values : List (Option String)) (keep : Option String → Bool),
      (∀ v ∈ values, keep v = false → IsFor s v) →
      ∀ (c : Configuration) (processors : Option Nat) (action : Action) (more : List String),
        (action, more) ∈ CommandLine.builds →
        (∀ extra : ExtraArgs, c.ownSteps? extra processors action =
          if c.jobs.toList.all Numeric.isWritable then some [
            ⟨c.part (extra.extended more) .config, c.projectDir, "Generate build files"⟩,
            ⟨c.part (extra.extended more) .build ++ c.part (extra.extended more) .native,
              c.projectDir, "Build project"⟩]
          else none) ∧
        ∀ t ≠ s, c.part ((ofSwitches values).extended more) t =
          c.part ((ofSwitches (values.filter keep)).extended more) t := by
  refine ⟨fun values named => of_ofSwitches_eq_nil_iff named,
    fun values keep left c processors action more build =>
      ⟨fun extra => Configuration.ownSteps?_eq_parts build extra processors, fun t other => ?_⟩⟩
  apply Configuration.part_congr
  rw [of_extended, of_extended, of_ofSwitches_filter left other]

/-- Switches for the native tool, one of them with commas only, among another one. -/
def nativeSwitches : List (Option String) := [some "native,-k,0", some "-DA", some " NATIVE ,, "]

theorem scopes_isolated_native :
    Addresses "native,-k,0" .native "-k,0" ∧ Addresses " NATIVE ,, " .native ", " ∧
    (ofSwitches [some "native,-k,0", some " NATIVE ,, "]).config = [] ∧
    (∀ c : Configuration, c.part ((ofSwitches nativeSwitches).extended ["--clean-first"]) .build =
      c.part ((ofSwitches [some "-DA"]).extended ["--clean-first"]) .build) := by
  obtain ⟨empty, same⟩ := scopes_isolated .native
  have plain : Addresses "native,-k,0" .native "-k,0" :=
    ⟨"native", by decide, by decide, by decide +kernel⟩
  have commas : Addresses " NATIVE ,, " .native ", " :=
    ⟨" NATIVE ", by decide, by decide, by decide +kernel⟩
  have arguments : IsFor .native (some "native,-k,0") := ⟨_, _, rfl, plain, by decide⟩
  have commasOnly : IsFor .native (some " NATIVE ,, ") := ⟨_, _, rfl, commas, by decide⟩
  refine ⟨plain, commas, ?_, fun c => ?_⟩
  · have named : ∀ v ∈ ["native,-k,0", " NATIVE ,, "], ∃ rest, Addresses v .native rest := by
      simpa using ⟨⟨_, plain⟩, ⟨_, commas⟩⟩
    have isFor : ∀ v ∈ ["native,-k,0", " NATIVE ,, "], IsFor .native (some v) := by
      simpa using ⟨arguments, commasOnly⟩
    exact (empty _ named).mpr isFor .config (by decide)
  · have left : ∀ v ∈ nativeSwitches, (v == some "-DA") = false → IsFor .native v := by
      intro v hv dropped
      simp only [nativeSwitches, List.mem_cons, List.not_mem_nil, or_false] at hv
      rcases hv with rfl | rfl | rfl
      · exact arguments
      · cases dropped
      · exact commasOnly
    exact (same _ _ left c none .rebuild _ (by decide)).2 .build (by decide)

/-- With nothing behind the comma the name of the native tool goes to the others. -/
theorem bareScope_reaches_others :
    Addresses "native," .native "" ∧
      ofSwitches [some "native,"] = { config := ["native"], build := ["native"] } :=
  ⟨⟨"native", by decide, by decide, by decide +kernel⟩, by decide +kernel⟩

end ExtraArgs

end BuildPilot
