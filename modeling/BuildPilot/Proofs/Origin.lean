import BuildPilot.Proofs.AddedEntries
import BuildPilot.Proofs.Choices
import BuildPilot.Proofs.Surroundings

/-!
# The origin of a choice

It does not matter whether the build type, the toolchain and the number of jobs are chosen on the
command line or in the document that holds the defaults of a project. Either way the same run is
configured, or it fails in the same kind. Only two dashes are lost on the command line, and a
numeral may not have too many zeros in front there.
-/

namespace BuildPilot

open CommandLine Document Numeric Text

/-- The configuration of a run with the defaults in a document. -/
def resolveDocument (h : Host) (r : Registry) (o : Options) (source : Option String)
    (doc : Document) : Except ResolveFault Configuration := do
  let d ← ((Defaults.ofDocument source doc).mapError (.ofDefaults source)).mapError .ofLoad
  resolve h r o (some d)

namespace Choice

/-- The key under which a document makes a choice. -/
def key : Choice → String
  | buildType _ => "build_type"
  | toolchain _ => "toolchain"
  | jobs _ => "jobs"

/-- The value of a choice in a document. -/
def value : Choice → Value
  | buildType name => .text name
  | toolchain name => .text name
  | jobs n => .int n

/-- The entry that makes a choice in a document. -/
def entry (x : Choice) : Value × Value := (.text x.key, x.value)

/-- The defaults with the choice made. -/
def inDefaults : Choice → Defaults → Defaults
  | buildType name, d => { d with buildType := some name }
  | toolchain name, d => { d with toolchain := some name }
  | jobs n, d => { d with jobs := some n }

/-- The defaults leave the choice open. -/
def IsLeftOpen : Choice → Defaults → Prop
  | buildType _, d => d.buildType = none
  | toolchain _, d => d.toolchain = none
  | jobs _, d => d.jobs = none

/-- The table of a document does not have the key of the choice. -/
def IsAbsent (x : Choice) (doc : Document) : Prop :=
  Value.lookup? x.key (Defaults.tableEntries doc) = none

variable {x y : Choice} {h : Host} {r : Registry} {o : Options} {d : Defaults} {doc doc' : Document}
  {es : List (Value × Value)} {field : String} {source : Option String}

/-! ## The entry of a choice -/

theorem isWritable_entry (proper : x.IsProper) (inner : Nat → Bool) :
    x.entry.1.isWritableWith inner = true ∧ x.entry.2.isWritableWith inner = true := by
  refine ⟨rfl, ?_⟩
  cases x with
  | buildType | toolchain => rfl
  | jobs n => simpa [entry, value, Value.isWritableWith] using proper.2

theorem key_mem_keys (x : Choice) : x.key ∈ Defaults.keys := by
  cases x <;> simp [key, Defaults.keys]

/-- What a table gives for a field with the entry of the choice: what it gives without, unless the
field is the one of the choice. -/
theorem lookup?_entry (absent : Value.lookup? x.key es = none) (field : String) :
    Value.lookup? field (es ++ [x.entry]) =
      if field = x.key then some x.value else Value.lookup? field es := by
  rw [Value.lookup?_append]
  by_cases own : field = x.key
  · rw [if_pos own, own, absent]
    simp [entry, Value.lookup?]
  · rw [if_neg own]
    have none : Value.lookup? field [x.entry] = none := by
      simp [entry, Value.lookup?, Ne.symm own]
    rw [none, Option.or_none]

theorem unknownKeys_entry (x : Choice) (es : List (Value × Value)) :
    Defaults.unknownKeys (es ++ [x.entry]) = Defaults.unknownKeys es := by
  have known : x.entry.1.display ∈ Defaults.keys := x.key_mem_keys
  unfold Defaults.unknownKeys
  rw [List.map_append, List.filter_append, List.map_singleton, List.filter_singleton]
  simp [known]

/-! ## Reading both tables -/

/-- Two results are related values, or the same fault, or they tell of the same count, which may be
written in two ways. -/
inductive Agrees {α β : Type} (R : α → β → Prop) :
    Except DefaultsFault α → Except DefaultsFault β → Prop
  | ok {a : α} {b : β} (related : R a b) : Agrees R (.ok a) (.ok b)
  | error (f : DefaultsFault) : Agrees R (.error f) (.error f)
  | notPositive (field v v' : String) :
    Agrees R (.error (.notPositive field v)) (.error (.notPositive field v'))

theorem Agrees.bind {α β γ δ : Type} {R : α → β → Prop} {S : γ → δ → Prop}
    {a : Except DefaultsFault α} {b : Except DefaultsFault β} {f : α → Except DefaultsFault γ}
    {g : β → Except DefaultsFault δ} (agree : Agrees R a b)
    (rest : ∀ a b, R a b → Agrees S (f a) (g b)) : Agrees S (a >>= f) (b >>= g) := by
  cases agree with
  | ok related => exact rest _ _ related
  | error f => exact .error f
  | notPositive field v v' => exact .notPositive field v v'

/-- The text that a choice gives to a field. -/
def textFor (x : Choice) (field : String) : Option String :=
  match x with
  | buildType name => if field = "build_type" then some name else none
  | toolchain name => if field = "toolchain" then some name else none
  | jobs _ => none

/-- The number that a choice gives to a field. -/
def countFor (x : Choice) (field : String) : Option Int :=
  match x with
  | jobs n => if field = "jobs" then some n else none
  | _ => none

/-- A field is read with the choice as without, unless the choice gives it a value, and then it was
open. -/
def IsFilled {α : Type} (own a b : Option α) : Prop := b = own.or a ∧ (own ≠ none → a = none)

theorem isFilled_none {α : Type} (a : Option α) : IsFilled none a a := ⟨rfl, nofun⟩

theorem agrees_textField (proper : x.IsProper) (absent : Value.lookup? x.key es = none)
    (hfield : field ∈ Defaults.textFields) :
    Agrees (IsFilled (x.textFor field)) (Defaults.textField field es)
      (Defaults.textField field (es ++ [x.entry])) := by
  unfold Defaults.textField
  rw [lookup?_entry absent]
  by_cases own : field = x.key
  · subst own
    rw [if_pos rfl, absent]
    cases x with
    | buildType name | toolchain name =>
      have proper : IsTrimmed name := proper
      simp only [value, proper.isBlankText_eq_false, proper.trim_eq, Bool.false_eq_true, if_false]
      exact .ok ⟨rfl, fun _ => rfl⟩
    | jobs n => exact absurd hfield (by simp [key, Defaults.textFields])
  · rw [if_neg own]
    have none : x.textFor field = none := by
      cases x with
      | buildType | toolchain => exact if_neg own
      | jobs => rfl
    rw [none]
    split
    · exact .ok (isFilled_none _)
    · exact .ok (isFilled_none _)
    · split
      · exact .error _
      · exact .ok (isFilled_none _)
    · exact .error _

theorem agrees_countField (proper : x.IsProper) (absent : Value.lookup? x.key es = none)
    (hfield : field ∈ Defaults.countFields)
    (writable : ∀ v, doc'.isWritable v = doc.isWritable v) :
    Agrees (IsFilled (x.countFor field)) (Defaults.countField doc field es)
      (Defaults.countField doc' field (es ++ [x.entry])) := by
  have rejected (v : Value) : Agrees (IsFilled (x.countFor field))
      (.error (Defaults.notPositive doc field v)) (.error (Defaults.notPositive doc' field v)) := by
    unfold Defaults.notPositive
    rw [writable]
    split
    · exact .notPositive field _ _
    · exact .error _
  unfold Defaults.countField
  rw [lookup?_entry absent]
  by_cases own : field = x.key
  · subst own
    rw [if_pos rfl, absent]
    cases x with
    | buildType | toolchain => exact absurd hfield (by simp [key, Defaults.countFields])
    | jobs n =>
      have positive : 1 ≤ n := proper.1
      simp only [value, positive, if_true]
      exact .ok ⟨rfl, fun _ => rfl⟩
  · rw [if_neg own]
    have none : x.countFor field = none := by
      cases x with
      | buildType | toolchain => rfl
      | jobs => exact if_neg own
    split
    · exact .ok (none ▸ isFilled_none _)
    · exact .ok (none ▸ isFilled_none _)
    · split
      · split
        · exact .ok (none ▸ isFilled_none _)
        · exact rejected _
      · exact rejected _

/-- Defaults, and the defaults with a choice that they leave open. -/
def IsChosen (x : Choice) (d d' : Defaults) : Prop := d' = x.inDefaults d ∧ x.IsLeftOpen d

theorem agrees_readFields (proper : x.IsProper) (absent : Value.lookup? x.key es = none)
    (writable : ∀ v, doc'.isWritable v = doc.isWritable v) :
    Agrees (IsChosen x) (Defaults.readFields source doc es)
      (Defaults.readFields source doc' (es ++ [x.entry])) := by
  have text (field : String) (h : field ∈ Defaults.textFields) :=
    agrees_textField proper absent h
  have count (field : String) (h : field ∈ Defaults.countFields) :=
    agrees_countField proper absent h writable
  unfold Defaults.readFields
  refine (text "output_dir" (by decide)).bind fun outputDir _ ⟨houtput, _⟩ => ?_
  refine (text "generator" (by decide)).bind fun generator _ ⟨hgenerator, _⟩ => ?_
  refine (count "jobs" (by decide)).bind fun jobs _ ⟨hjobs, leftJobs⟩ => ?_
  refine (text "build_type" (by decide)).bind fun buildType _ ⟨hbuildType, leftBuildType⟩ => ?_
  refine (text "toolchain" (by decide)).bind fun toolchain _ ⟨htoolchain, leftToolchain⟩ => ?_
  refine (count "repeat_until_fail" (by decide)).bind fun repeats _ ⟨hrepeats, _⟩ => ?_
  refine (text "header_filter" (by decide)).bind fun filter _ ⟨hfilter, _⟩ => ?_
  subst houtput hgenerator hjobs hbuildType htoolchain hrepeats hfilter
  refine .ok ⟨?_, ?_⟩
  · cases x <;> simp [textFor, countFor, inDefaults]
  · cases x with
    | buildType => exact leftBuildType nofun
    | toolchain => exact leftToolchain nofun
    | jobs => exact leftJobs nofun

theorem agrees_ofTable (proper : x.IsProper) (absent : Value.lookup? x.key es = none)
    (writable : ∀ v, doc'.isWritable v = doc.isWritable v) :
    Agrees (IsChosen x) (Defaults.ofTable source doc es)
      (Defaults.ofTable source doc' (es ++ [x.entry])) := by
  have key : doc.isWritable x.entry.1 = true := rfl
  have keys : (∀ e ∈ es ++ [x.entry], doc'.isWritable e.1 = true) ↔
      ∀ e ∈ es, doc.isWritable e.1 = true := by
    simp only [List.forall_mem_append, List.forall_mem_singleton, writable, key, and_true]
  by_cases written : ∀ e ∈ es, doc.isWritable e.1 = true
  · rw [Defaults.ofTable_of_writable written, Defaults.ofTable_of_writable (keys.mpr written),
      unknownKeys_entry]
    split
    · exact agrees_readFields proper absent writable
    · exact .error _
  · rw [Defaults.ofTable_of_unwritable written,
      Defaults.ofTable_of_unwritable (mt keys.mp written)]
    exact .error _

/-- With the entry of the choice a document gives the same defaults, and the choice in them. -/
theorem agrees_ofDocument (proper : x.IsProper) (mapping : doc.IsMapping)
    (absent : x.IsAbsent doc) :
    Agrees (IsChosen x) (Defaults.ofDocument source doc)
      (Defaults.ofDocument source (doc.withBuildEntry x.entry)) := by
  unfold Defaults.ofDocument
  rw [(table_withBuildEntry mapping).2]
  cases table : Defaults.table doc with
  | error f => exact .error f
  | ok es =>
    obtain ⟨-, rfl⟩ := Defaults.table_eq_ok_iff.mp table
    have entry (inner : Nat → Bool) := isWritable_entry proper inner
    exact agrees_ofTable proper absent
      (isWritable_withBuildEntry (fun inner => (entry inner).1) fun inner => (entry inner).2)

/-! ## One choice -/

/-- A run settles the choice alike, wherever it comes from. -/
theorem resolve_inOptions (proper : x.IsProper) (isOpen : x.IsOpen o) (left : x.IsLeftOpen d) :
    resolve h r (x.inOptions o) (some d) = resolve h r o (some (x.inDefaults d)) := by
  have project : projectDirectory h (x.inOptions o) = projectDirectory h o := by
    cases x <;> rfl
  cases hp : projectDirectory h o with
  | error f => rw [resolve_of_no_project hp, resolve_of_no_project (project.trans hp)]
  | ok p =>
    rw [resolve_of_project hp, resolve_of_project (project.trans hp)]
    unfold resolveWith outputRoot jobCount
    cases x with
    | buildType name | toolchain name =>
      have more : name ≠ "" := proper.1
      simp only [IsOpen, IsLeftOpen] at isOpen left
      simp only [inOptions, inDefaults, isOpen, left, orElseText_of_ne_empty more]
      rfl
    | jobs n =>
      simp only [IsOpen, IsLeftOpen] at isOpen left
      simp only [inOptions, inDefaults, isOpen, left, Option.some_or, Option.none_or]

/-- A choice leads to the same outcome on the command line and in the document. -/
theorem sameOutcome_of_choice (proper : x.IsProper) (isOpen : x.IsOpen o)
    (mapping : doc.IsMapping) (absent : x.IsAbsent doc) :
    SameOutcome (resolveDocument h r (x.inOptions o) source doc)
      (resolveDocument h r o source (doc.withBuildEntry x.entry)) := by
  have agree : Agrees (IsChosen x) (Defaults.ofDocument source doc)
      (Defaults.ofDocument source (doc.withBuildEntry x.entry)) :=
    agrees_ofDocument proper mapping absent
  unfold resolveDocument
  generalize Defaults.ofDocument source doc = a,
    Defaults.ofDocument source (doc.withBuildEntry x.entry) = b at agree
  cases agree with
  | ok related =>
    obtain ⟨rfl, left⟩ := related
    exact .of_eq (resolve_inOptions proper isOpen left)
  | error f => exact .of_eq rfl
  | notPositive field v v' => exact .failed (.config rfl)

/-! ## Several choices -/

/-- The document with the entries of all the choices. -/
def allInDocument (xs : List Choice) (doc : Document) : Document :=
  xs.foldl (fun doc x => doc.withBuildEntry x.entry) doc

theorem tableEntries_eq (doc : Document) :
    Defaults.tableEntries doc = (Defaults.table doc).toOption.getD [] := by
  unfold Defaults.tableEntries Defaults.table
  cases Value.lookup? "build" doc.entries with
  | none => rfl
  | some v =>
    dsimp only [Option.bind_some]
    cases doc.entries? v <;> rfl

theorem switch_eq_of_key (h : x.key = y.key) : x.switch = y.switch := by
  cases x <;> cases y <;> simp_all [key, switch]

theorem IsAbsent.withBuildEntry (mapping : doc.IsMapping) (other : x.switch ≠ y.switch)
    (absent : x.IsAbsent doc) : x.IsAbsent (doc.withBuildEntry y.entry) := by
  unfold IsAbsent at absent ⊢
  rw [tableEntries_eq] at absent ⊢
  rw [(table_withBuildEntry mapping).2]
  cases table : Defaults.table doc with
  | error f => rfl
  | ok es =>
    rw [table] at absent
    have elsewhere : Value.lookup? x.key [y.entry] = none := by
      have keys : y.key ≠ x.key := fun same => other (switch_eq_of_key same.symm)
      simp [entry, Value.lookup?, keys]
    show Value.lookup? x.key (es ++ [y.entry]) = none
    rw [Value.lookup?_append, elsewhere, Option.or_none]
    exact absent

/-- The choices are moved from the command line to the document one by one. -/
theorem sameOutcome_of_choices {xs : List Choice} (once : (xs.map switch).Nodup)
    (proper : ∀ x ∈ xs, x.IsProper) (isOpen : ∀ x ∈ xs, x.IsOpen o) (mapping : doc.IsMapping)
    (absent : ∀ x ∈ xs, x.IsAbsent doc) :
    SameOutcome (resolveDocument h r (allInOptions xs o) source doc)
      (resolveDocument h r o source (allInDocument xs doc)) := by
  induction xs generalizing doc with
  | nil => exact .of_eq rfl
  | cons x xs ih =>
    rw [List.map_cons, List.nodup_cons] at once
    have first : SameOutcome (resolveDocument h r (allInOptions (x :: xs) o) source doc)
        (resolveDocument h r (allInOptions xs o) source (doc.withBuildEntry x.entry)) :=
      sameOutcome_of_choice (proper x List.mem_cons_self)
        ((isOpen x List.mem_cons_self).allInOptions once.1) mapping (absent x List.mem_cons_self)
    refine first.trans (ih once.2 (fun y mem => proper y (List.mem_cons_of_mem _ mem))
      (fun y mem => isOpen y (List.mem_cons_of_mem _ mem)) (table_withBuildEntry mapping).1
      fun y mem => ?_)
    have other : y.switch ≠ x.switch := fun same => once.1 (same ▸ List.mem_map_of_mem mem)
    exact (absent y (List.mem_cons_of_mem _ mem)).withBuildEntry mapping other

/-- Choices of a build type, a toolchain and a number of jobs, each made at most once, that neither
the other arguments nor the document make: whether switches in front of the arguments make them or
entries in the table of the document, the same run is configured, with the same plan for every
action, or both fail in the same kind. The command line is understood as before otherwise. A name
makes its choice as it is, unless it is two dashes; a number in any of its spellings, of which its
decimal digits are one. -/
theorem choices_alike_from_either_side (h : Host) (r : Registry) (source : Option String)
    (doc : Document) (xs : List Choice) (once : (xs.map switch).Nodup)
    (proper : ∀ x ∈ xs, x.IsProper) (mapping : doc.IsMapping)
    (absent : ∀ x ∈ xs, x.IsAbsent doc) :
    (∀ o : Options, (∀ x ∈ xs, x.IsOpen o) →
      let onLine := resolveDocument h r (allInOptions xs o) source doc
      let inTable := resolveDocument h r o source (allInDocument xs doc)
      SameOutcome onLine inTable ∧ ∀ extra processors action,
        onLine.toOption.map (·.plan extra processors action) =
          inTable.toOption.map (·.plan extra processors action)) ∧
    (∀ front args a, Written xs front → Arguments.parse args = .ok a →
      (∀ x ∈ xs, x.IsUnsaid a) →
      Arguments.parse (front ++ args) = .ok { a with options := allInOptions xs a.options } ∧
      SameOutcome (resolveDocument h r (allInOptions xs a.options) source doc)
        (resolveDocument h r a.options source (allInDocument xs doc))) ∧
    ∀ x ∈ xs, x.plain ≠ "--" → x.IsSpelled x.plain := by
  refine ⟨fun o isOpen => ?_, fun front args a written parsed unsaid => ⟨?_, ?_⟩,
    fun x mem more => isSpelled_plain (proper x mem) more⟩
  · have same : SameOutcome (resolveDocument h r (allInOptions xs o) source doc)
        (resolveDocument h r o source (allInDocument xs doc)) :=
      sameOutcome_of_choices once proper isOpen mapping absent
    exact ⟨same, fun extra processors action => by rw [same.toOption_eq]⟩
  · exact written.parse_append once proper parsed unsaid
  · exact sameOutcome_of_choices once proper (fun x mem => (unsaid x mem).1) mapping absent

/-- A document whose table says how to build. -/
def makefiles : Document :=
  ⟨.map [(.text "build", .map [(.text "generator", .text "Unix Makefiles")])], []⟩

/-- A release build with gcc and eight jobs. -/
def releaseWithGcc : List Choice := [.buildType "Release", .toolchain "gcc", .jobs 8]

theorem spells_eight : Spells " +0_8" 8 :=
  ⟨[0, 8], ⟨[' '], ['+'], ['0', '_', '8'], [], rfl,
    List.forall_mem_singleton.mpr (by decide +kernel), nofun, .inr rfl,
    .gap (by decide +kernel) (.last (by decide +kernel))⟩, by decide, rfl⟩

theorem isProper_releaseWithGcc : ∀ x ∈ releaseWithGcc, x.IsProper := by
  have release : IsTrimmed "Release" := by decide +kernel
  have gcc : IsTrimmed "gcc" := by decide +kernel
  have eight : (1 : Int) ≤ 8 ∧ Numeric.isWritable 8 = true := by decide +kernel
  simp only [releaseWithGcc, List.mem_cons, List.not_mem_nil, or_false]
  rintro x (rfl | rfl | rfl)
  · exact release
  · exact gcc
  · exact eight

theorem written_releaseWithGcc :
    Written releaseWithGcc ["--build-type=Release", "--toolchain", "gcc", "-j= +0_8"] := by
  have release : (buildType "Release").Gives ["--build-type" ++ "=" ++ "Release"] :=
    .joined (by decide) ⟨rfl, by decide⟩
  have gcc : (toolchain "gcc").Gives ["--toolchain", "gcc"] :=
    .apart (by decide) ⟨rfl, by decide⟩ (by decide +kernel)
  have eight : (jobs 8).Gives ["-j" ++ "=" ++ " +0_8"] := .joined (by decide) spells_eight
  exact .cons release (.cons gcc (.cons eight .nil))

/-- The three choices in front of a command line, in different forms. -/
theorem choices_alike_from_either_side_linkedHost :
    (releaseWithGcc.map switch).Nodup ∧ (∀ x ∈ releaseWithGcc, x.IsProper) ∧
    makefiles.IsMapping ∧ (∀ x ∈ releaseWithGcc, x.IsAbsent makefiles) ∧
    Written releaseWithGcc ["--build-type=Release", "--toolchain", "gcc", "-j= +0_8"] ∧
    ∃ a, Arguments.parse ["--verbose", "build"] = .ok a ∧
      (∀ x ∈ releaseWithGcc, x.IsUnsaid a) ∧
      Arguments.parse
        ["--build-type=Release", "--toolchain", "gcc", "-j= +0_8", "--verbose", "build"] =
          .ok { a with options := allInOptions releaseWithGcc a.options } ∧
      SameOutcome
        (resolveDocument linkedHost .builtin (allInOptions releaseWithGcc a.options) none makefiles)
        (resolveDocument linkedHost .builtin a.options none
          (allInDocument releaseWithGcc makefiles)) ∧
      (resolveDocument linkedHost .builtin a.options none
        (allInDocument releaseWithGcc makefiles)).toOption.map
          (fun c => (c.buildType, c.toolchain.name, c.jobs, c.generator)) =
        some (.release, "gcc", some 8, "Unix Makefiles") := by
  have once : (releaseWithGcc.map switch).Nodup := by decide
  have mapping : makefiles.IsMapping := ⟨_, rfl⟩
  have absent : ∀ x ∈ releaseWithGcc, x.IsAbsent makefiles := by
    simp only [releaseWithGcc, List.mem_cons, List.not_mem_nil, or_false]
    rintro x (rfl | rfl | rfl) <;> rfl
  have parsed : Arguments.parse ["--verbose", "build"] =
      .ok { actions := ["build"], options := { verbose := true } } := rfl
  have unsaid : ∀ x ∈ releaseWithGcc,
      x.IsUnsaid { actions := ["build"], options := { verbose := true } } := by
    simp only [releaseWithGcc, List.mem_cons, List.not_mem_nil, or_false]
    rintro x (rfl | rfl | rfl) <;> exact ⟨rfl, nofun⟩
  obtain ⟨-, onLine, -⟩ := choices_alike_from_either_side linkedHost .builtin none makefiles
    releaseWithGcc once isProper_releaseWithGcc mapping absent
  obtain ⟨parsed', same⟩ := onLine _ _ _ written_releaseWithGcc parsed unsaid
  exact ⟨once, isProper_releaseWithGcc, mapping, absent, written_releaseWithGcc, _, parsed, unsaid,
    parsed', same, by decide +kernel⟩

/-- A document that says nothing. -/
def silent : Document := ⟨.map [], []⟩

/-- A numeral with 4300 zeros in front of its last digit. -/
def manyZeros : String := String.ofList (List.replicate maxDigits '0' ++ ['1'])

theorem parse_twoDashes : Arguments.parse ["--build-type=--"] = .ok { dropped := [.buildType] } := by
  have told : classifyAll ["--build-type" ++ "=" ++ "--"] =
      .ok [.given ⟨.buildType, "--build-type", some "--"⟩] :=
    classifyAll_cons (by decide) (classify_joined (by decide) "--") rfl
  have text : "--build-type" ++ "=" ++ "--" = "--build-type=--" := by decide
  rw [← text, Arguments.parse, told]
  rfl

theorem resolveDocument_twoDashes :
    resolveDocument linkedHost .builtin {} none
      (silent.withBuildEntry (buildType "--").entry) = .error (.config (.buildType "--")) := by
  have read : Defaults.ofDocument none (silent.withBuildEntry (buildType "--").entry) =
      .ok { buildType := some "--" } := by
    decide +kernel
  have project : (projectDirectory linkedHost {}).toOption = some ⟨.root, ["w"]⟩ := by
    decide +kernel
  have settled : settledBuildType {} { buildType := some "--" } = "--" := rfl
  have unknown : BuildType.ofName? "--" = none := by decide
  unfold resolveDocument
  rw [read]
  show resolve linkedHost .builtin {} (some { buildType := some "--" }) = _
  exact resolve_of_unknownBuildType (eq_ok_of_toOption project) settled unknown

/-- The zeros are no more than a way to write the last digit. -/
theorem exists_isNumeral_manyZeros : ∃ ds, IsNumeral manyZeros ds ∧ ofDigits 10 0 ds = 1 := by
  have digits : ∀ c ∈ List.replicate maxDigits '0' ++ ['1'], c.isDigit = true := by
    intro c mem
    rcases List.mem_append.mp mem with zero | one
    · rw [List.eq_of_mem_replicate zero]
      decide
    · rw [List.mem_singleton.mp one]
      decide
  refine ⟨_, isNumeral_of_isDigit digits (by simp), ?_⟩
  rw [ofDigits_map, Nat.ofDigitChars_append, Nat.ofDigitChars_replicate_zero, Nat.mul_zero]
  rfl

theorem readJobs_manyZeros : readJobs manyZeros = .error (.badJobs manyZeros) := by
  have one : ∀ c ∈ ['1'], c.isDigit = true := List.forall_mem_singleton.mpr (by decide)
  rw [readJobs, manyZeros, readInteger?_of_zeros le_rfl (by simp) one]

/-- Two dashes are a name like any other in a document, and no build type has it; on the command line
they are dropped, and the run is configured. And a numeral is refused for the zeros in front of a
number that could be written. -/
theorem two_dashes_and_zeros_lost :
    (buildType "--").IsProper ∧ silent.IsMapping ∧ (buildType "--").IsAbsent silent ∧
    (∃ a, Arguments.parse ["--build-type=--"] = .ok a ∧
      (resolveDocument linkedHost .builtin a.options none silent).toOption.map (·.buildType) =
        some .debug ∧
      resolveDocument linkedHost .builtin {} none
        (silent.withBuildEntry (buildType "--").entry) = .error (.config (.buildType "--")) ∧
      ¬ SameOutcome (resolveDocument linkedHost .builtin a.options none silent)
        (resolveDocument linkedHost .builtin {} none
          (silent.withBuildEntry (buildType "--").entry))) ∧
    (jobs 1).IsProper ∧
    (∃ ds, IsNumeral manyZeros ds ∧ ofDigits 10 0 ds = 1) ∧
    readJobs manyZeros = .error (.badJobs manyZeros) := by
  have debug : (resolveDocument linkedHost .builtin {} none silent).toOption.map (·.buildType) =
      some .debug := by
    decide +kernel
  have rejected := resolveDocument_twoDashes
  have trimmed : IsTrimmed "--" := by decide +kernel
  refine ⟨trimmed, ⟨_, rfl⟩, rfl, ⟨_, parse_twoDashes, debug, rejected, fun same => ?_⟩,
    ⟨by decide, by decide +kernel⟩, exists_isNumeral_manyZeros, readJobs_manyZeros⟩
  have same := same.toOption_eq
  rw [rejected] at same
  rw [same] at debug
  cases debug

end Choice

end BuildPilot
