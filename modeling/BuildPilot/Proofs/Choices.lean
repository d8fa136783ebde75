import BuildPilot.CommandLine.Arguments
import BuildPilot.Proofs.Layout
import BuildPilot.Proofs.Numerals

/-!
# Choices on the command line

The build type, the toolchain and the number of jobs are chosen by switches. Switches in front of a
command line that says nothing of these choices make them, and nothing else that is asked for
changes.
-/

namespace BuildPilot

open CommandLine Numeric Text

/-- A choice that a command line makes, or else the defaults of a project. -/
inductive Choice where
  | buildType (name : String)
  | toolchain (name : String)
  | jobs (n : Int)

namespace Choice

/-- The switch that makes a choice. -/
def switch : Choice → Switch
  | buildType _ => .buildType
  | toolchain _ => .toolchain
  | jobs _ => .jobs

/-- A choice that can be made: of a name without blanks around it, or of a positive number that can
be written. -/
def IsProper : Choice → Prop
  | buildType name => IsTrimmed name
  | toolchain name => IsTrimmed name
  | jobs n => 1 ≤ n ∧ isWritable n = true

/-- The options with the choice made. -/
def inOptions : Choice → Options → Options
  | buildType name, o => { o with buildType := some name }
  | toolchain name, o => { o with toolchain := some name }
  | jobs n, o => { o with jobs := some n }

/-- The options leave the choice open. -/
def IsOpen : Choice → Options → Prop
  | buildType _, o => o.buildType = none
  | toolchain _, o => o.toolchain = none
  | jobs _, o => o.jobs = none

/-- A command line says nothing of the choice. -/
def IsUnsaid (x : Choice) (a : Arguments) : Prop := x.IsOpen a.options ∧ x.switch ∉ a.dropped

/-- A text that makes the choice as the value of its switch. Two dashes make none. -/
def IsSpelled : Choice → String → Prop
  | buildType name, text => text = name ∧ name ≠ "--"
  | toolchain name, text => text = name ∧ name ≠ "--"
  | jobs n, text => Spells text n

/-- Arguments that make the choice: its switch in any spelling, with the text behind an equals sign,
or as the next argument if it is not taken for a switch there; or the short switch with the text
right behind it. -/
inductive Gives (x : Choice) : List String → Prop
  | joined {name text : String} (spelling : name ∈ x.switch.spellings)
      (value : x.IsSpelled text) : Gives x [name ++ "=" ++ text]
  | apart {name text : String} (spelling : name ∈ x.switch.spellings) (value : x.IsSpelled text)
      (word : classify text = .ok (.word text)) : Gives x [name, text]
  | attached {n : Int} {text : String} (own : x = jobs n) (value : Spells text n) :
    Gives x ["-j" ++ text]

/-- The arguments taken so far, and before them the switch that makes the choice. -/
def onTaken (x : Choice) (t : Taken) : Taken :=
  { t with
    arguments := { t.arguments with options := x.inOptions t.arguments.options }
    exclusive := t.exclusive ++ [x.switch].filter (· ∈ Switch.exclusive) }

/-- A stage of taking arguments goes alike behind the switch that makes the choice, as long as
nothing is said of the choice afterwards. -/
def Carries (x : Choice) (f : Taken → Except Stop Taken) : Prop :=
  ∀ t t', f t = .ok t' → x.IsUnsaid t'.arguments →
    x.IsUnsaid t.arguments ∧ f (x.onTaken t) = .ok (x.onTaken t')

variable {x y : Choice} {s : Switch} {f g : Taken → Except Stop Taken}

/-! ## Stages -/

theorem carries_pure {f : Taken → Taken}
    (keeps : ∀ t, x.IsUnsaid (f t).arguments → x.IsUnsaid t.arguments)
    (alike : ∀ t, f (x.onTaken t) = x.onTaken (f t)) : Carries x fun t => .ok (f t) := by
  intro t t' ok unsaid
  cases ok
  exact ⟨keeps t unsaid, congrArg Except.ok (alike t)⟩

theorem Carries.comp (hf : Carries x f) (hg : Carries x g) : Carries x fun t => f t >>= g := by
  intro t t' ok unsaid
  obtain ⟨u, first, second⟩ := bind_eq_ok ok
  obtain ⟨between, second'⟩ := hg u t' second unsaid
  obtain ⟨start, first'⟩ := hf t u first between
  refine ⟨start, ?_⟩
  dsimp only
  rw [first']
  exact second'

theorem Carries.congr (hf : Carries x f) (same : ∀ t, g t = f t) : Carries x g := by
  rwa [funext same]

theorem carries_word (v : String) : Carries x fun t => .ok (t.word v) := by
  refine carries_pure (fun t => ?_) fun t => ?_
  · unfold Taken.word
    split <;> exact id
  · unfold Taken.word
    cases hp : t.phase <;> simp [onTaken, hp]

theorem carries_dashes : Carries x fun t => .ok t.dashes := by
  refine carries_pure (fun t => ?_) fun t => ?_
  · unfold Taken.dashes
    split <;> exact id
  · unfold Taken.dashes
    cases hp : t.phase <;> simp [onTaken, hp]

theorem carries_atSwitch : Carries x fun t => .ok t.atSwitch := by
  refine carries_pure (fun t => ?_) fun t => ?_
  · unfold Taken.atSwitch
    split <;> exact id
  · unfold Taken.atSwitch
    cases hp : t.phase <;> simp [onTaken, hp]

theorem carries_unknown (v : String) : Carries x fun t => .ok (t.unknown v) :=
  carries_pure (fun _ => id) fun _ => rfl

/-! ## Switches -/

/-- A switch decides what the choice is about. -/
def Meets (x : Choice) (s : Switch) : Prop :=
  s = x.switch ∨ s ∈ Switch.exclusive ∧ x.switch ∈ Switch.exclusive

theorem arguments_of_exclude {t t' : Taken} (ok : t.exclude s = .ok t') :
    t'.arguments = t.arguments := by
  unfold Taken.exclude at ok
  split at ok
  · split at ok
    · cases ok
    · cases ok
      rfl
  · cases ok
    rfl

theorem carries_exclude (other : ¬ x.Meets s) : Carries x fun t => t.exclude s := by
  intro t t' ok unsaid
  refine ⟨arguments_of_exclude ok ▸ unsaid, ?_⟩
  dsimp only at ok ⊢
  unfold Taken.exclude at ok ⊢
  by_cases hs : s ∈ Switch.exclusive
  · have alone : [x.switch].filter (· ∈ Switch.exclusive) = [] := by
      simpa using fun mem => other (.inr ⟨hs, mem⟩)
    have same : (x.onTaken t).exclusive = t.exclusive := by
      rw [onTaken, alone]
      exact List.append_nil _
    rw [if_pos hs] at ok ⊢
    rw [same]
    split at ok
    · cases ok
    · cases ok
      simp [onTaken, alone]
  · rw [if_neg hs] at ok ⊢
    cases ok
    rfl

theorem meets_buildType {name : String} (hs : s ∈ Switch.exclusive) : (buildType name).Meets s :=
  .inr ⟨hs, List.mem_cons_self⟩

theorem eq_buildType_of_mem (h : x.switch ∈ Switch.exclusive) : ∃ name, x = buildType name := by
  cases x with
  | buildType name => exact ⟨name, rfl⟩
  | toolchain | jobs => simp [switch, Switch.exclusive] at h

theorem carries_flag (other : ¬ x.Meets s) : Carries x fun t => t.flag s := by
  intro t t' ok unsaid
  cases s <;> cases x <;> first
    | exact absurd (meets_buildType (by decide)) other
    | (cases ok <;> exact ⟨unsaid, rfl⟩)

theorem carries_drop (other : s ≠ x.switch) : Carries x fun t => .ok (t.drop s) := by
  refine carries_pure (fun t unsaid => ?_) fun t => ?_
  · cases s <;> cases x <;> first
      | exact absurd rfl other
      | exact ⟨unsaid.1, fun mem => unsaid.2 (List.mem_cons_of_mem _ mem)⟩
  · cases s <;> cases x <;> first
      | exact absurd rfl other
      | rfl

theorem restore_onTaken (t : Taken) : (x.onTaken t).restore s = x.onTaken (t.restore s) := by
  unfold Taken.restore
  split <;> rfl

theorem isUnsaid_of_restore {t : Taken} (other : s ≠ x.switch)
    (unsaid : x.IsUnsaid (t.restore s).arguments) : x.IsUnsaid t.arguments := by
  unfold Taken.restore at unsaid
  split at unsaid
  · exact unsaid
  · refine ⟨unsaid.1, fun mem => unsaid.2 (List.mem_filter.mpr ⟨mem, ?_⟩)⟩
    simpa using other.symm

theorem carries_value (other : s ≠ x.switch) (v : String) : Carries x fun t => t.value s v := by
  by_cases dashes : v = "--"
  · subst dashes
    exact carries_drop other
  intro t t' ok unsaid
  suffices kept : x.IsUnsaid (t.restore s).arguments ∧
      (x.onTaken t).value s v = .ok (x.onTaken t') from
    ⟨isUnsaid_of_restore other kept.1, kept.2⟩
  dsimp only at ok
  unfold Taken.value at ok ⊢
  rw [if_neg dashes] at ok ⊢
  rw [restore_onTaken]
  generalize t.restore s = u at ok ⊢
  cases number : readJobs v <;> cases s <;> cases x <;> first
    | exact absurd rfl other
    | (simp only [number] at ok ⊢; cases ok <;> exact ⟨unsaid, rfl⟩)

theorem switch_eq_of_meets (meets : x.Meets s) (takes : s.takesValue = true) : s = x.switch := by
  rcases meets with same | ⟨hs, hx⟩
  · exact same
  · obtain ⟨name, rfl⟩ := eq_buildType_of_mem hx
    simp only [Switch.exclusive, List.mem_cons, List.not_mem_nil, or_false] at hs
    rcases hs with rfl | rfl | rfl
    · rfl
    · cases takes
    · cases takes

theorem not_isUnsaid_of_value {t t' : Taken} {v : String} (ok : t.value x.switch v = .ok t') :
    ¬ x.IsUnsaid t'.arguments := by
  rintro ⟨isOpen, mem⟩
  unfold Taken.value at ok
  split at ok
  · cases ok
    exact mem (by cases x <;> exact List.mem_cons_self)
  · cases x with
    | buildType => cases ok; cases isOpen
    | toolchain => cases ok; cases isOpen
    | jobs =>
      dsimp only [switch] at ok
      split at ok
      · cases ok; cases isOpen
      · cases ok

theorem not_isUnsaid_of_flag {t t' : Taken} (meets : x.Meets s) (takes : s.takesValue = false)
    (ok : t.flag s = .ok t') : ¬ x.IsUnsaid t'.arguments := by
  rintro ⟨isOpen, -⟩
  rcases meets with rfl | ⟨hs, hx⟩
  · cases x <;> cases takes
  · obtain ⟨name, rfl⟩ := eq_buildType_of_mem hx
    cases s <;> first
      | exact absurd hs (by decide)
      | (cases ok; cases isOpen)
      | cases takes

theorem carries_carryOut {v : Option String} (fits : v.isSome = s.takesValue) :
    Carries x fun t => t.carryOut s v := by
  by_cases meets : x.Meets s
  · -- what is said now remains said
    intro t t' ok unsaid
    exfalso
    cases v with
    | none =>
      obtain ⟨u, -, ok⟩ := bind_eq_ok ok
      exact not_isUnsaid_of_flag meets fits.symm ok unsaid
    | some v =>
      obtain rfl := switch_eq_of_meets meets fits.symm
      obtain ⟨u, ok, last⟩ := bind_eq_ok ok
      rw [arguments_of_exclude last] at unsaid
      exact not_isUnsaid_of_value ok unsaid
  · cases v with
    | none => exact (carries_exclude meets).comp (carries_flag meets)
    | some v => exact (carries_value (fun same => meets (.inl same)) v).comp (carries_exclude meets)

/-! ## Arguments -/

theorem flags_of_clusterFrom {cs : List Char} {c : Cluster} (ok : clusterFrom s cs = .ok c) :
    (∀ f ∈ c.flags, f.takesValue = false) ∧ (c.value.isSome = true → c.last.takesValue = true) := by
  induction cs generalizing s c with
  | nil =>
    cases ok
    exact ⟨nofun, nofun⟩
  | cons d cs ih =>
    rw [clusterFrom] at ok
    split at ok
    · rename_i takes
      cases ok
      exact ⟨nofun, fun _ => takes⟩
    · rename_i bare
      split at ok
      · cases ok
      · obtain ⟨more, first, ok⟩ := bind_eq_ok ok
        cases ok
        obtain ⟨flags, last⟩ := ih first
        refine ⟨fun f mem => ?_, last⟩
        rcases List.mem_cons.mp mem with rfl | mem
        · simpa using bare
        · exact flags f mem

theorem flags_of_cluster {g : Given} {c : Cluster} (ok : g.cluster = .ok c) :
    (∀ f ∈ c.flags, f.takesValue = false) ∧ (c.value.isSome = true → c.last.takesValue = true) := by
  unfold Given.cluster at ok
  split at ok
  · cases ok
    exact ⟨nofun, nofun⟩
  · split at ok
    · rename_i takes
      cases ok
      exact ⟨nofun, fun _ => takes⟩
    · split at ok
      · exact flags_of_clusterFrom ok
      · cases ok

theorem carries_carryOutAll {l : List (Switch × Option String)}
    (fits : ∀ p ∈ l, p.2.isSome = p.1.takesValue) : Carries x fun t => t.carryOutAll l := by
  induction l with
  | nil => exact carries_pure (fun _ => id) fun _ => rfl
  | cons p l ih =>
    exact (carries_carryOut (fits p List.mem_cons_self)).comp
      (ih fun q mem => fits q (List.mem_cons_of_mem _ mem))

theorem carries_cluster {g : Given} {c : Cluster} {v : Option String} (ok : g.cluster = .ok c)
    (fits : v.isSome = c.last.takesValue) : Carries x fun t => t.cluster c v := by
  refine carries_carryOutAll fun p mem => ?_
  rcases List.mem_append.mp mem with mem | mem
  · obtain ⟨f, hf, rfl⟩ := List.mem_map.mp mem
    exact ((flags_of_cluster ok).1 f hf).symm
  · rw [List.mem_singleton.mp mem]
    exact fits

/-- The last switch of an argument is carried out with the value that it has, unless its value is
still to come. -/
theorem fits_of_cluster {g : Given} {c : Cluster} (ok : g.cluster = .ok c)
    (complete : (c.last.takesValue && c.value.isNone) = false) :
    c.value.isSome = c.last.takesValue := by
  cases hv : c.value with
  | none => simpa [hv] using complete.symm
  | some v => exact ((flags_of_cluster ok).2 (by rw [hv]; rfl)).symm

theorem takeFrom_complete {g : Given} {c : Cluster} (ok : g.cluster = .ok c)
    (complete : (c.last.takesValue && c.value.isNone) = false) (t : Taken) (rest : List Argument) :
    takeFrom t (.given g :: rest) =
      t.atSwitch.cluster c c.value >>= fun u => takeFrom u rest := by
  rw [takeFrom.eq_5, ok]
  show (if (c.last.takesValue && c.value.isNone) = true then _ else _) = _
  rw [complete]
  rfl

theorem takeFrom_incomplete {g : Given} {c : Cluster} (ok : g.cluster = .ok c)
    (later : (c.last.takesValue && c.value.isNone) = true) (t : Taken) (v : String)
    (rest : List Argument) : takeFrom t (.given g :: .word v :: rest) =
      t.atSwitch.cluster c (some v) >>= fun u => takeFrom u rest := by
  rw [takeFrom.eq_5, ok]
  show (if (c.last.takesValue && c.value.isNone) = true then _ else _) = _
  rw [later]
  rfl

/-- Where a value is still to come, it comes. -/
theorem exists_word_of_takeFrom {g : Given} {c : Cluster} (ok : g.cluster = .ok c)
    (later : (c.last.takesValue && c.value.isNone) = true) {t t' : Taken} {rest : List Argument}
    (taken : takeFrom t (.given g :: rest) = .ok t') : ∃ v more, rest = .word v :: more := by
  rw [takeFrom.eq_5, ok] at taken
  change (if (c.last.takesValue && c.value.isNone) = true then _ else _) = _ at taken
  rw [if_pos later] at taken
  match rest with
  | .word v :: more => exact ⟨v, more, rfl⟩
  | [] | .given _ :: _ | .dashes :: _ | .unknown _ :: _ => cases taken

/-- Arguments are taken alike behind the switch. -/
theorem carries_takeFrom (args : List Argument) : Carries x fun t => takeFrom t args := by
  match args with
  | [] => exact carries_pure (fun _ => id) fun _ => rfl
  | .word v :: rest => exact (carries_word v).comp (carries_takeFrom rest)
  | .dashes :: rest => exact carries_dashes.comp (carries_takeFrom rest)
  | .unknown v :: rest =>
    exact (carries_atSwitch.comp (carries_unknown v)).comp (carries_takeFrom rest)
  | .given g :: rest =>
    cases cluster : g.cluster with
    | error f =>
      intro t t' ok
      have failed : takeFrom t (.given g :: rest) = .error (.fault f) := by
        rw [takeFrom.eq_5, cluster]
        rfl
      cases failed.symm.trans ok
    | ok c =>
      cases later : c.last.takesValue && c.value.isNone with
      | true =>
        intro t t' ok
        obtain ⟨v, more, rfl⟩ := exists_word_of_takeFrom cluster later ok
        have fits : (some v).isSome = c.last.takesValue := (Bool.and_eq_true_iff.mp later).1.symm
        exact ((carries_atSwitch.comp (carries_cluster cluster fits)).comp
          (carries_takeFrom more)).congr (takeFrom_incomplete cluster later · v more) t t' ok
      | false =>
        exact ((carries_atSwitch.comp (carries_cluster cluster (fits_of_cluster cluster later))).comp
          (carries_takeFrom rest)).congr (takeFrom_complete cluster later · rest)

/-! ## Switches in front -/

theorem mem_table {name : String} (h : name ∈ s.spellings) : (name, s) ∈ Switch.table :=
  List.mem_flatMap.mpr ⟨s, by cases s <;> decide, List.mem_map.mpr ⟨name, h, rfl⟩⟩

/-- What a spelling is: it has a dash in front and no equals sign, and means its switch. -/
theorem facts_of_mem_table {name : String} (h : (name, s) ∈ Switch.table) :
    name.toList.head? = some '-' ∧ '=' ∉ name.toList ∧ name ≠ "--" ∧
      Switch.ofSpelling? name = some s := by
  have table : Switch.table.all (fun p => decide (p.1.toList.head? = some '-' ∧
      '=' ∉ p.1.toList ∧ p.1 ≠ "--" ∧ Switch.ofSpelling? p.1 = some p.2)) = true := by
    decide +kernel
  exact of_decide_eq_true (List.all_eq_true.mp table _ h)

theorem ofSpelling?_of_mem {text : String} (sign : '=' ∈ text.toList) :
    Switch.ofSpelling? text = none := by
  refine List.lookup_eq_none_iff.mpr fun p mem => bne_iff_ne.mpr ?_
  rintro rfl
  exact (facts_of_mem_table mem).2.1 sign

theorem classify_spelling {name : String} (h : name ∈ s.spellings) :
    classify name = .ok (.given ⟨s, name, none⟩) := by
  obtain ⟨dash, -, -, means⟩ := facts_of_mem_table (mem_table h)
  rw [classify, if_neg (not_not.mpr dash), means]

theorem classify_joined {name : String} (h : name ∈ s.spellings) (text : String) :
    classify (name ++ "=" ++ text) = .ok (.given ⟨s, name, some text⟩) := by
  obtain ⟨dash, free, -, means⟩ := facts_of_mem_table (mem_table h)
  have chars : (name ++ "=" ++ text).toList = name.toList ++ '=' :: text.toList := by simp
  have start : (name ++ "=" ++ text).toList.head? = some '-' := by
    rw [chars, List.head?_append, dash]
    rfl
  have sign : '=' ∈ (name ++ "=" ++ text).toList := by simp
  have more : name ++ "=" ++ text ≠ "-" := by
    intro same
    rw [same] at sign
    exact absurd sign (by decide)
  have cut : splitValue (name ++ "=" ++ text) = (name, some text) := by
    unfold splitValue
    rw [chars, cutAtFirst_append free]
    simp
  rw [classify, if_neg (not_not.mpr start), ofSpelling?_of_mem sign]
  dsimp only
  rw [if_neg more, cut]
  dsimp only [Option.bind_some]
  rw [means]

theorem splitValue_of_not_mem {arg : String} (free : '=' ∉ arg.toList) :
    splitValue arg = (arg, none) := by
  unfold splitValue
  cases cut : cutAtFirst '=' arg.toList with
  | none => rfl
  | some pair =>
    rw [(eq_of_cutAtFirst cut).1] at free
    simp at free

theorem toList_attached (text : String) : ("-j" ++ text).toList = '-' :: 'j' :: text.toList := by
  simp

theorem ofSpelling?_attached {text : String} (more : text ≠ "") :
    Switch.ofSpelling? ("-j" ++ text) = none := by
  have table : Switch.table.all (fun p => decide (p.1.toList.take 2 = ['-', 'j'] →
      p.1.toList.length = 2)) = true := by
    decide +kernel
  refine List.lookup_eq_none_iff.mpr fun p mem => bne_iff_ne.mpr fun same => more ?_
  have short := of_decide_eq_true (List.all_eq_true.mp table p mem)
  rw [← same, toList_attached] at short
  simpa using short

theorem possibleMatches_attached (text : String) :
    possibleMatches ("-j" ++ text) = [⟨.jobs, "-j", some text⟩] := by
  have matched : Switch.table.filter (fun p => decide (p.1 = "-j")) = [("-j", .jobs)] := by
    decide +kernel
  have spelling : String.ofList ['-', 'j'] = "-j" := rfl
  unfold possibleMatches shortMatches
  rw [toList_attached]
  simp [spelling, matched]

theorem classify_attached {text : String} (free : '=' ∉ text.toList) (more : text ≠ "") :
    classify ("-j" ++ text) = .ok (.given ⟨.jobs, "-j", some text⟩) := by
  have start : ("-j" ++ text).toList.head? = some '-' := by
    rw [toList_attached]
    rfl
  have whole : splitValue ("-j" ++ text) = ("-j" ++ text, none) :=
    splitValue_of_not_mem (by simpa using free)
  have other : "-j" ++ text ≠ "-" := by
    intro same
    have chars := toList_attached text
    rw [same] at chars
    cases chars
  rw [classify, if_neg (not_not.mpr start), ofSpelling?_attached more]
  dsimp only
  rw [if_neg other, whole]
  dsimp only [Option.bind_none]
  rw [possibleMatches_attached]

theorem equals_not_mem {text : String} {ds : List Nat} (numeral : IsNumeral text ds) :
    '=' ∉ text.toList := by
  intro mem
  have none : digit? '=' = none := by decide
  rcases numeral.mem '=' mem with blank | plus | underscore | ⟨d, digit⟩
  · exact absurd blank (by decide +kernel)
  · exact absurd plus (by decide)
  · exact absurd underscore (by decide)
  · cases none.symm.trans digit

theorem classifyAll_cons {arg : String} {a : Argument} {args : List String} {l : List Argument}
    (more : arg ≠ "--") (first : classify arg = .ok a) (rest : classifyAll args = .ok l) :
    classifyAll (arg :: args) = .ok (a :: l) := by
  rw [classifyAll, if_neg more, first, rest]
  rfl

theorem readJobs_of_spells {text : String} {n : Int} (positive : 1 ≤ n) (h : Spells text n) :
    readJobs text = .ok n := by
  rw [readJobs, readInteger?_of_spells h]
  exact if_neg (by omega)

theorem IsSpelled.ne_dashes {text : String} (proper : x.IsProper) (value : x.IsSpelled text) :
    text ≠ "--" := by
  cases x with
  | buildType name => exact value.1 ▸ value.2
  | toolchain name => exact value.1 ▸ value.2
  | jobs n =>
    rintro rfl
    have none : readInteger? "--" = none := by decide +kernel
    cases none.symm.trans (readInteger?_of_spells value)

theorem takesValue_switch (x : Choice) : x.switch.takesValue = true := by
  cases x <;> rfl

theorem carryOut_of_isSpelled {text : String} (proper : x.IsProper) (value : x.IsSpelled text) :
    ({} : Taken).carryOut x.switch (some text) = .ok (x.onTaken {}) := by
  have more := value.ne_dashes proper
  have taken : ({} : Taken).value x.switch text = .ok (({} : Taken).option x.inOptions) := by
    rw [Taken.value, if_neg more]
    cases x with
    | buildType name => rw [value.1]; rfl
    | toolchain name => rw [value.1]; rfl
    | jobs n =>
      dsimp only [switch]
      rw [readJobs_of_spells proper.1 value]
      rfl
  rw [Taken.carryOut, taken]
  cases x <;> rfl

theorem cluster_single (t : Taken) (v v' : Option String) :
    t.cluster ⟨[], s, v'⟩ v = t.carryOut s v := by
  show (t.carryOut s v >>= fun u => Except.ok u) = _
  cases t.carryOut s v <;> rfl

/-- Arguments that make a choice are told apart, and taken as its switch. -/
theorem Gives.takeFrom_eq {front args : List String} {l : List Argument} (gives : x.Gives front)
    (proper : x.IsProper) (rest : classifyAll args = .ok l) :
    ∃ l', classifyAll (front ++ args) = .ok l' ∧ takeFrom {} l' = takeFrom (x.onTaken {}) l := by
  have takes := x.takesValue_switch
  -- where the value is in the same argument
  have together {name text : String} (value : x.IsSpelled text) :
      takeFrom {} (.given ⟨x.switch, name, some text⟩ :: l) = takeFrom (x.onTaken {}) l := by
    have cluster : (Given.mk x.switch name (some text)).cluster = .ok ⟨[], x.switch, some text⟩ :=
      if_pos takes
    rw [takeFrom_complete cluster (Bool.and_false _), cluster_single]
    show Taken.carryOut {} _ _ >>= _ = _
    rw [carryOut_of_isSpelled proper value]
    rfl
  cases gives with
  | @joined name text spelling value =>
    have more : name ++ "=" ++ text ≠ "--" := by
      intro same
      have sign : '=' ∈ (name ++ "=" ++ text).toList := by simp
      rw [same] at sign
      exact absurd sign (by decide)
    exact ⟨_, classifyAll_cons more (classify_joined spelling text) rest, together value⟩
  | @attached n text own value =>
    subst own
    have ⟨ds, numeral, _⟩ := value
    have more : "-j" ++ text ≠ "--" := by
      intro same
      have chars := congrArg String.toList same
      simp at chars
    exact ⟨_, classifyAll_cons more
      (classify_attached (equals_not_mem numeral) numeral.ne_empty) rest, together value⟩
  | @apart name text spelling value word =>
    have cluster : (Given.mk x.switch name none).cluster = .ok ⟨[], x.switch, none⟩ := rfl
    refine ⟨_, classifyAll_cons (facts_of_mem_table (mem_table spelling)).2.2.1
      (classify_spelling spelling) (classifyAll_cons (value.ne_dashes proper) word rest), ?_⟩
    rw [takeFrom_incomplete cluster (by rw [takes]; rfl), cluster_single]
    show Taken.carryOut {} _ _ >>= _ = _
    rw [carryOut_of_isSpelled proper value]
    rfl

/-- Behind the switch that makes a choice of which it says nothing, a command line asks for what it
asks for by itself, and for the choice. -/
theorem Gives.parse_append {front args : List String} {a : Arguments} (gives : x.Gives front)
    (proper : x.IsProper) (parsed : Arguments.parse args = .ok a) (unsaid : x.IsUnsaid a) :
    Arguments.parse (front ++ args) = .ok { a with options := x.inOptions a.options } := by
  obtain ⟨l, classified, parsed⟩ := bind_eq_ok parsed
  obtain ⟨t, taken, parsed⟩ := bind_eq_ok parsed
  obtain ⟨l', classified', alike⟩ := gives.takeFrom_eq proper (mapError_eq_ok classified)
  by_cases known : t.unrecognized.isEmpty = true
  · rw [if_pos known] at parsed
    cases parsed
    have taken' : takeFrom (x.onTaken {}) l = .ok (x.onTaken t) :=
      (carries_takeFrom l {} t taken unsaid).2
    rw [Arguments.parse, classified', mapError_ok]
    show takeFrom {} l' >>= _ = _
    rw [alike, taken']
    exact if_pos known
  · rw [if_neg known] at parsed
    cases parsed

/-! ## Several choices -/

/-- Arguments that make choices, one behind the other. -/
inductive Written : List Choice → List String → Prop
  | nil : Written [] []
  | cons {x : Choice} {xs : List Choice} {front more : List String} (gives : x.Gives front)
      (rest : Written xs more) : Written (x :: xs) (front ++ more)

/-- The options with all the choices made. -/
def allInOptions (xs : List Choice) (o : Options) : Options := xs.foldr inOptions o

theorem IsOpen.inOptions {o : Options} (other : x.switch ≠ y.switch) (h : x.IsOpen o) :
    x.IsOpen (y.inOptions o) := by
  cases x <;> cases y <;> first
    | exact absurd rfl other
    | exact h

theorem IsOpen.allInOptions {xs : List Choice} {o : Options} (other : x.switch ∉ xs.map switch)
    (h : x.IsOpen o) : x.IsOpen (allInOptions xs o) := by
  induction xs with
  | nil => exact h
  | cons y ys ih =>
    rw [List.map_cons, List.mem_cons, not_or] at other
    exact (ih other.2).inOptions other.1

/-- Switches for choices of which it says nothing can stand in front of any command line. -/
theorem Written.parse_append {xs : List Choice} {front args : List String} {a : Arguments}
    (written : Written xs front) (once : (xs.map switch).Nodup) (proper : ∀ x ∈ xs, x.IsProper)
    (parsed : Arguments.parse args = .ok a) (unsaid : ∀ x ∈ xs, x.IsUnsaid a) :
    Arguments.parse (front ++ args) = .ok { a with options := allInOptions xs a.options } := by
  induction written with
  | nil => exact parsed
  | @cons x xs front more gives rest ih =>
    rw [List.map_cons, List.nodup_cons] at once
    have behind := ih once.2 (fun y mem => proper y (List.mem_cons_of_mem _ mem))
      fun y mem => unsaid y (List.mem_cons_of_mem _ mem)
    obtain ⟨isOpen, kept⟩ := unsaid x List.mem_cons_self
    rw [List.append_assoc]
    exact gives.parse_append (proper x List.mem_cons_self) behind
      ⟨isOpen.allInOptions once.1, kept⟩

/-- The plain text of a choice. -/
def plain : Choice → String
  | buildType name => name
  | toolchain name => name
  | jobs n => decimal n

/-- The plain text of a choice makes it, unless it is two dashes. -/
theorem isSpelled_plain (proper : x.IsProper) (more : x.plain ≠ "--") : x.IsSpelled x.plain := by
  cases x with
  | buildType | toolchain => exact ⟨rfl, more⟩
  | jobs n => exact spells_decimal proper.1 proper.2

end Choice

end BuildPilot
