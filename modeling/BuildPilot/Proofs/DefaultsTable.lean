import BuildPilot.Proofs.Entries
import BuildPilot.Proofs.WellFormed
import Mathlib.Data.List.Sort
import Mathlib.Data.String.Basic

/-!
# The table of defaults

Which documents give defaults, and which defaults they give. The answer does not depend on the order
of entries, and neither does what is told of a document that is rejected, apart from a collection
that holds the table itself: it is written as it stands. Defaults that are written back to a table
are read again.
-/

namespace BuildPilot

open Document Text

/-! ## Keys that mean nothing -/

theorem nodup_eraseDups {α : Type} [BEq α] [LawfulBEq α] (l : List α) : l.eraseDups.Nodup := by
  match l with
  | [] => exact List.nodup_nil
  | a :: as =>
    rw [List.eraseDups_cons, List.nodup_cons, List.mem_eraseDups]
    have shorter : (as.filter fun b => !b == a).length < as.length + 1 :=
      Nat.lt_succ_of_le (List.length_filter_le _ as)
    exact ⟨by simp, nodup_eraseDups _⟩
termination_by l.length

namespace Defaults

variable {source : Option String} {doc doc' : Document} {es es' : List (Value × Value)}
  {field : String} {d : Defaults}

theorem mem_unknownKeys {k : String} :
    k ∈ unknownKeys es ↔ (∃ e ∈ es, e.1.display = k) ∧ k ∉ keys := by
  unfold unknownKeys
  rw [List.mem_mergeSort, List.mem_eraseDups, List.mem_filter, List.mem_map]
  simp

theorem unknownKeys_eq_nil_iff : unknownKeys es = [] ↔ ∀ e ∈ es, e.1.display ∈ keys := by
  rw [List.eq_nil_iff_forall_not_mem]
  constructor
  · intro none e he
    by_contra unknown
    exact none _ (mem_unknownKeys.mpr ⟨⟨e, he, rfl⟩, unknown⟩)
  · rintro known k hk
    obtain ⟨⟨e, he, rfl⟩, unknown⟩ := mem_unknownKeys.mp hk
    exact unknown (known e he)

/-- The keys are told in their own order, so that in which they stand has no say. -/
theorem unknownKeys_perm (perm : (es.map Prod.fst).Perm (es'.map Prod.fst)) :
    unknownKeys es = unknownKeys es' := by
  have perm : (es.map (·.1.display)).Perm (es'.map (·.1.display)) := by
    have shown := perm.map Value.display
    rw [List.map_map, List.map_map] at shown
    exact shown
  unfold unknownKeys
  have same : ((es.map (·.1.display)).filter fun k => k ∉ keys).eraseDups.Perm
      ((es'.map (·.1.display)).filter fun k => k ∉ keys).eraseDups := by
    refine (List.perm_ext_iff_of_nodup (nodup_eraseDups _) (nodup_eraseDups _)).mpr fun k => ?_
    rw [List.mem_eraseDups, List.mem_eraseDups]
    exact (perm.filter _).mem_iff
  refine List.Perm.eq_of_sortedLE List.sortedLE_mergeSort List.sortedLE_mergeSort ?_
  exact (List.mergeSort_perm _ _).trans (same.trans (List.mergeSort_perm _ _).symm)

/-! ## Fields -/

/-- The fields that hold a text. -/
def textFields : List String :=
  ["output_dir", "generator", "build_type", "toolchain", "header_filter"]

/-- The fields that hold a count. -/
def countFields : List String := ["jobs", "repeat_until_fail"]

/-- A field is absent, null, or a text with something in it. -/
def HasText (field : String) (es : List (Value × Value)) : Prop :=
  ∀ v, Value.lookup? field es = some v → v = .null ∨ ∃ s, v = .text s ∧ isBlankText s = false

/-- A field is absent, null, or a positive whole number. -/
def HasCount (field : String) (es : List (Value × Value)) : Prop :=
  ∀ v, Value.lookup? field es = some v → v = .null ∨ ∃ n, v = .int n ∧ 1 ≤ n

/-- The text in a field, trimmed. -/
def textAt? (field : String) (es : List (Value × Value)) : Option String :=
  match Value.lookup? field es with
  | some (.text s) => some (trim s)
  | _ => none

/-- The number in a field. -/
def countAt? (field : String) (es : List (Value × Value)) : Option Int :=
  match Value.lookup? field es with
  | some (.int n) => some n
  | _ => none

theorem textField_eq_ok_iff {t : Option String} :
    textField field es = .ok t ↔ HasText field es ∧ textAt? field es = t := by
  unfold textField HasText textAt?
  cases Value.lookup? field es with
  | none => simp
  | some v =>
    cases v with
    | null => simp
    | text s => by_cases blank : isBlankText s <;> simp [blank]
    | _ => simp

theorem countField_eq_ok_iff {n : Option Int} :
    countField doc field es = .ok n ↔ HasCount field es ∧ countAt? field es = n := by
  unfold countField HasCount countAt?
  cases Value.lookup? field es with
  | none => simp
  | some v =>
    cases v with
    | null => simp
    | int n => by_cases positive : 1 ≤ n <;> simp [positive]
    | _ => simp

/-! ## Accepted documents -/

/-- The entries of the table in a document. -/
def tableEntries (doc : Document) : List (Value × Value) :=
  ((Value.lookup? "build" doc.entries).bind doc.entries?).getD []

/-- A document that gives defaults: its table is absent or a mapping, every key of the table is
written like one of the names, and every field holds what it may hold. -/
structure IsAccepted (doc : Document) : Prop where
  table : ∀ v, Value.lookup? "build" doc.entries = some v → ∃ es, doc.entries? v = some es
  keys : ∀ e ∈ tableEntries doc, e.1.display ∈ keys
  texts : ∀ field ∈ textFields, HasText field (tableEntries doc)
  counts : ∀ field ∈ countFields, HasCount field (tableEntries doc)

/-- The defaults that the entries of a table come to. -/
def given (source : Option String) (es : List (Value × Value)) : Defaults where
  outputDir := (textAt? "output_dir" es).getD "build"
  generator := (textAt? "generator" es).getD "Ninja"
  jobs := countAt? "jobs" es
  buildType := textAt? "build_type" es
  toolchain := textAt? "toolchain" es
  repeatUntilFail := (countAt? "repeat_until_fail" es).getD 3
  headerFilter := (textAt? "header_filter" es).getD "include/"
  source := source

/-- The keys of the table can be written. -/
def HasWritableKeys (doc : Document) : Prop := ∀ e ∈ tableEntries doc, doc.isWritable e.1 = true

theorem table_eq_ok_iff : table doc = .ok es ↔
    (∀ v, Value.lookup? "build" doc.entries = some v → ∃ es, doc.entries? v = some es) ∧
      tableEntries doc = es := by
  unfold table tableEntries
  cases Value.lookup? "build" doc.entries with
  | none => simp
  | some v => cases hv : doc.entries? v <;> simp [hv]

/-- The defaults that the fields of a table give, whatever its other keys. -/
def readFields (source : Option String) (doc : Document) (es : List (Value × Value)) :
    Except DefaultsFault Defaults := do
  let outputDir ← textField "output_dir" es
  let generator ← textField "generator" es
  let jobs ← countField doc "jobs" es
  let buildType ← textField "build_type" es
  let toolchain ← textField "toolchain" es
  let repeatUntilFail ← countField doc "repeat_until_fail" es
  let headerFilter ← textField "header_filter" es
  return {
    outputDir := outputDir.getD "build"
    generator := generator.getD "Ninja"
    jobs := jobs
    buildType := buildType
    toolchain := toolchain
    repeatUntilFail := repeatUntilFail.getD 3
    headerFilter := headerFilter.getD "include/"
    source := source }

theorem ofTable_of_writable (writable : ∀ e ∈ es, doc.isWritable e.1 = true) :
    ofTable source doc es =
      if (unknownKeys es).isEmpty then readFields source doc es
      else .error (.unknownKeys (unknownKeys es)) := by
  have written : (!es.all fun e => doc.isWritable e.1) = false := by simpa using writable
  unfold ofTable
  rw [written]
  by_cases none : (unknownKeys es).isEmpty = true
  · rw [if_pos none]
    dsimp only
    rw [none]
    rfl
  · rw [if_neg none]
    dsimp only
    rw [Bool.eq_false_iff.mpr none]
    rfl

theorem ofTable_of_unwritable (unwritable : ¬ ∀ e ∈ es, doc.isWritable e.1 = true) :
    ofTable source doc es = .error .longNumber := by
  have long : (!es.all fun e => doc.isWritable e.1) = true := by simpa using unwritable
  unfold ofTable
  rw [long]
  rfl

theorem readFields_eq_ok_iff : readFields source doc es = .ok d ↔
    (∀ field ∈ textFields, HasText field es) ∧ (∀ field ∈ countFields, HasCount field es) ∧
      given source es = d := by
  constructor
  · intro ok
    unfold readFields at ok
    obtain ⟨outputDir, houtput, ok⟩ := bind_eq_ok ok
    obtain ⟨generator, hgenerator, ok⟩ := bind_eq_ok ok
    obtain ⟨jobs, hjobs, ok⟩ := bind_eq_ok ok
    obtain ⟨buildType, hbuildType, ok⟩ := bind_eq_ok ok
    obtain ⟨toolchain, htoolchain, ok⟩ := bind_eq_ok ok
    obtain ⟨repeats, hrepeats, ok⟩ := bind_eq_ok ok
    obtain ⟨headerFilter, hfilter, ok⟩ := bind_eq_ok ok
    cases ok
    obtain ⟨output, rfl⟩ := textField_eq_ok_iff.mp houtput
    obtain ⟨generator, rfl⟩ := textField_eq_ok_iff.mp hgenerator
    obtain ⟨jobs, rfl⟩ := countField_eq_ok_iff.mp hjobs
    obtain ⟨buildType, rfl⟩ := textField_eq_ok_iff.mp hbuildType
    obtain ⟨toolchain, rfl⟩ := textField_eq_ok_iff.mp htoolchain
    obtain ⟨repeats, rfl⟩ := countField_eq_ok_iff.mp hrepeats
    obtain ⟨filter, rfl⟩ := textField_eq_ok_iff.mp hfilter
    refine ⟨?_, ?_, rfl⟩
    · simp [textFields, output, generator, buildType, toolchain, filter]
    · simp [countFields, jobs, repeats]
  · rintro ⟨texts, counts, rfl⟩
    have text (field : String) (h : field ∈ textFields) :
        textField field es = .ok (textAt? field es) :=
      textField_eq_ok_iff.mpr ⟨texts field h, rfl⟩
    have count (field : String) (h : field ∈ countFields) :
        countField doc field es = .ok (countAt? field es) :=
      countField_eq_ok_iff.mpr ⟨counts field h, rfl⟩
    unfold readFields
    rw [text "output_dir" (by decide), text "generator" (by decide), count "jobs" (by decide),
      text "build_type" (by decide), text "toolchain" (by decide),
      count "repeat_until_fail" (by decide), text "header_filter" (by decide)]
    rfl

theorem ofTable_eq_ok_iff (writable : ∀ e ∈ es, doc.isWritable e.1 = true) :
    ofTable source doc es = .ok d ↔ (∀ e ∈ es, e.1.display ∈ keys) ∧
      (∀ field ∈ textFields, HasText field es) ∧ (∀ field ∈ countFields, HasCount field es) ∧
      given source es = d := by
  rw [ofTable_of_writable writable, ← unknownKeys_eq_nil_iff, ← List.isEmpty_iff]
  by_cases none : (unknownKeys es).isEmpty = true
  · rw [if_pos none, readFields_eq_ok_iff]
    simp [none]
  · rw [if_neg none]
    simp [none]

/-- A document gives defaults exactly if it is accepted, and then those that its table comes to. -/
theorem ofDocument_eq_ok_iff (writable : HasWritableKeys doc) :
    ofDocument source doc = .ok d ↔ IsAccepted doc ∧ given source (tableEntries doc) = d := by
  constructor
  · intro ok
    obtain ⟨es, htable, ok⟩ := bind_eq_ok ok
    obtain ⟨table, rfl⟩ := table_eq_ok_iff.mp htable
    obtain ⟨keys, texts, counts, same⟩ := (ofTable_eq_ok_iff writable).mp ok
    exact ⟨⟨table, keys, texts, counts⟩, same⟩
  · rintro ⟨accepted, same⟩
    have htable : table doc = .ok (tableEntries doc) := table_eq_ok_iff.mpr ⟨accepted.table, rfl⟩
    unfold ofDocument
    rw [htable]
    exact (ofTable_eq_ok_iff writable).mpr ⟨accepted.keys, accepted.texts, accepted.counts, same⟩

theorem hasWritableKeys_of_ok (ok : ofDocument source doc = .ok d) : HasWritableKeys doc := by
  obtain ⟨es, htable, ok⟩ := bind_eq_ok ok
  obtain ⟨-, rfl⟩ := table_eq_ok_iff.mp htable
  by_contra unwritable
  rw [ofTable_of_unwritable unwritable] at ok
  cases ok

/-! ## What is told of rejected documents -/

/-- All that may have to be shown of the table can be written. -/
def IsShowable (doc : Document) : Prop :=
  ∀ e ∈ tableEntries doc, doc.isWritable e.1 = true ∧ doc.isWritable e.2 = true

theorem bind_ne_error {ε α β : Type} {x : Except ε α} {f : α → Except ε β} {e : ε}
    (hx : x ≠ .error e) (hf : ∀ a, f a ≠ .error e) : x >>= f ≠ .error e := by
  cases x with
  | error e' => simpa [bind, Except.bind] using hx
  | ok a => exact hf a

theorem textField_ne_longNumber : textField field es ≠ .error .longNumber := by
  unfold textField
  repeat' split
  all_goals simp

theorem notPositive_of_writable {v : Value} (h : doc.isWritable v = true) :
    notPositive doc field v = .notPositive field (doc.literal v) := by
  unfold notPositive
  rw [if_pos h]

theorem countField_eq_error {f : DefaultsFault} (h : countField doc field es = .error f) :
    ∃ v, Value.lookup? field es = some v ∧ f = notPositive doc field v := by
  unfold countField at h
  split at h
  · cases h
  · cases h
  · rename_i v _ there
    refine ⟨v, there, ?_⟩
    split at h
    · split at h
      · cases h
      · exact (Except.error.inj h).symm
    · exact (Except.error.inj h).symm

theorem countField_of_not_hasCount (h : ¬ HasCount field es) :
    ∃ v, Value.lookup? field es = some v ∧
      countField doc field es = .error (notPositive doc field v) := by
  cases hc : countField doc field es with
  | ok n => exact absurd (countField_eq_ok_iff.mp hc).1 h
  | error f =>
    obtain ⟨v, there, rfl⟩ := countField_eq_error hc
    exact ⟨v, there, rfl⟩

theorem ofDocument_ne_longNumber (showable : IsShowable doc) :
    ofDocument source doc ≠ .error .longNumber := by
  have count (field : String) :
      countField doc field (tableEntries doc) ≠ .error .longNumber := by
    intro failed
    obtain ⟨v, there, long⟩ := countField_eq_error failed
    rw [notPositive_of_writable (showable _ (Value.mem_of_lookup? there)).2] at long
    cases long
  have fields : readFields source doc (tableEntries doc) ≠ .error .longNumber := by
    unfold readFields
    refine bind_ne_error textField_ne_longNumber fun _ => ?_
    refine bind_ne_error textField_ne_longNumber fun _ => ?_
    refine bind_ne_error (count _) fun _ => ?_
    refine bind_ne_error textField_ne_longNumber fun _ => ?_
    refine bind_ne_error textField_ne_longNumber fun _ => ?_
    refine bind_ne_error (count _) fun _ => ?_
    exact bind_ne_error textField_ne_longNumber fun _ => by simp [pure, Except.pure]
  unfold ofDocument
  cases htable : table doc with
  | error f =>
    unfold table at htable
    repeat' split at htable
    all_goals cases htable
    simp [bind, Except.bind]
  | ok es =>
    obtain ⟨-, rfl⟩ := table_eq_ok_iff.mp htable
    change ofTable source doc (tableEntries doc) ≠ _
    rw [ofTable_of_writable fun e he => (showable e he).1]
    split
    · exact fields
    · simp

/-! ## The order of entries -/

/-- Both documents have a table that is none, or they have the same entries in their tables. -/
theorem tables_of_reorders (h : doc.Reorders doc') :
    (table doc = .error .notTable ∧ table doc' = .error .notTable) ∨
    table doc = .ok (tableEntries doc) ∧ table doc' = .ok (tableEntries doc') ∧
      Value.SameEntries (tableEntries doc) (tableEntries doc') := by
  unfold table tableEntries
  rcases Value.lookup?_of_keys h.keys "build" with ⟨hv, hw⟩ | ⟨v, w, hv, hw⟩
  · rw [hv, hw]
    exact .inr ⟨rfl, rfl, Value.sameEntries_of_perm nofun (.refl _)⟩
  · have same := h.table v w (Value.mem_of_lookup? hv) (Value.mem_of_lookup? hw)
    rw [hv, hw]
    dsimp only [Option.bind_some]
    generalize doc.entries? v = es, doc'.entries? w = es' at same
    cases same with
    | none => exact .inl ⟨rfl, rfl⟩
    | some entries => exact .inr ⟨rfl, rfl, entries⟩

/-- Two results are the same; or both tell of the same count, each as its own document writes it, and
then the counts differ or hold a collection that holds itself. -/
def Alike {α : Type} (doc doc' : Document) (x y : Except DefaultsFault α) : Prop :=
  y = x ∨ ∃ field ∈ countFields, ∃ v w, Value.lookup? field (tableEntries doc) = some v ∧
    Value.lookup? field (tableEntries doc') = some w ∧ v.Similar w ∧
    (w = v → v.holdsLoop = true) ∧ x = .error (.notPositive field (doc.literal v)) ∧
    y = .error (.notPositive field (doc'.literal w))

theorem Alike.bind {α β : Type} {x y : Except DefaultsFault α}
    {f g : α → Except DefaultsFault β} (h : Alike doc doc' x y)
    (hf : ∀ a, Alike doc doc' (f a) (g a)) : Alike doc doc' (x >>= f) (y >>= g) := by
  rcases h with rfl | ⟨field, hfield, v, w, hv, hw, similar, differ, rfl, rfl⟩
  · cases y with
    | error e => exact .inl rfl
    | ok a => exact hf a
  · exact .inr ⟨field, hfield, v, w, hv, hw, similar, differ, rfl, rfl⟩

theorem textField_of_similar
    (similar : Option.Rel Value.Similar (Value.lookup? field es) (Value.lookup? field es')) :
    textField field es' = textField field es := by
  unfold textField
  generalize Value.lookup? field es = v?, Value.lookup? field es' = w? at similar
  cases similar with
  | none => rfl
  | @some v w similar =>
    rcases similar with rfl | ⟨hv, hw⟩
    · rfl
    · cases v <;> cases hv <;> cases w <;> cases hw <;> rfl

theorem hasCount_of_similar
    (similar : Option.Rel Value.Similar (Value.lookup? field es) (Value.lookup? field es')) :
    (HasCount field es' ↔ HasCount field es) ∧ countAt? field es' = countAt? field es := by
  unfold HasCount countAt?
  generalize Value.lookup? field es = v?, Value.lookup? field es' = w? at similar
  cases similar with
  | none => simp
  | @some v w similar =>
    rcases similar with rfl | ⟨hv, hw⟩
    · simp
    · cases v <;> cases hv <;> cases w <;> cases hw <;> simp

theorem alike_countField (showable : IsShowable doc) (showable' : IsShowable doc')
    (same : Value.SameEntries (tableEntries doc) (tableEntries doc'))
    (hfield : field ∈ countFields) :
    Alike doc doc' (countField doc field (tableEntries doc))
      (countField doc' field (tableEntries doc')) := by
  obtain ⟨sameCount, sameNumber⟩ := hasCount_of_similar (same.lookup? field)
  by_cases positive : HasCount field (tableEntries doc)
  · refine .inl ?_
    rw [countField_eq_ok_iff.mpr ⟨positive, rfl⟩,
      countField_eq_ok_iff.mpr ⟨sameCount.mpr positive, rfl⟩, sameNumber]
  · obtain ⟨v, hv, wrong⟩ := countField_of_not_hasCount positive
    obtain ⟨w, hw, wrong'⟩ := countField_of_not_hasCount (mt sameCount.mp positive)
    have similar := same.values field v w (Value.mem_of_lookup? hv) (Value.mem_of_lookup? hw)
    rw [wrong, wrong', notPositive_of_writable (showable _ (Value.mem_of_lookup? hv)).2,
      notPositive_of_writable (showable' _ (Value.mem_of_lookup? hw)).2]
    by_cases finite : w = v ∧ v.holdsLoop = false
    · obtain ⟨rfl, finite⟩ := finite
      exact .inl (by rw [Document.literal_congr finite])
    · exact .inr ⟨field, hfield, v, w, hv, hw, similar, by simpa using finite, rfl, rfl⟩

theorem alike_readFields (showable : IsShowable doc) (showable' : IsShowable doc')
    (same : Value.SameEntries (tableEntries doc) (tableEntries doc')) :
    Alike doc doc' (readFields source doc (tableEntries doc))
      (readFields source doc' (tableEntries doc')) := by
  have text (field : String) : Alike doc doc' (textField field (tableEntries doc))
      (textField field (tableEntries doc')) := .inl (textField_of_similar (same.lookup? field))
  unfold readFields
  refine (text _).bind fun _ => ?_
  refine (text _).bind fun _ => ?_
  refine (alike_countField showable showable' same (by decide)).bind fun _ => ?_
  refine (text _).bind fun _ => ?_
  refine (text _).bind fun _ => ?_
  refine (alike_countField showable showable' same (by decide)).bind fun _ => ?_
  exact (text _).bind fun _ => .inl rfl

theorem alike_of_reorders (h : doc.Reorders doc') (showable : IsShowable doc)
    (showable' : IsShowable doc') (source : Option String) :
    Alike doc doc' (ofDocument source doc) (ofDocument source doc') := by
  unfold ofDocument
  rcases tables_of_reorders h with ⟨htable, htable'⟩ | ⟨htable, htable', same⟩
  · rw [htable, htable']
    exact .inl (by simp only [bind, Except.bind])
  · rw [htable, htable']
    change Alike doc doc' (ofTable source doc (tableEntries doc))
      (ofTable source doc' (tableEntries doc'))
    rw [ofTable_of_writable fun e he => (showable e he).1,
      ofTable_of_writable fun e he => (showable' e he).1, unknownKeys_perm same.keys]
    split
    · exact alike_readFields showable showable' same
    · exact .inl rfl

/-! ## Defaults as a table -/

/-- The table that says what defaults say; what they leave open is null. -/
def toEntries (d : Defaults) : List (Value × Value) :=
  [(.text "output_dir", .text d.outputDir), (.text "generator", .text d.generator),
    (.text "jobs", (d.jobs.map Value.int).getD .null),
    (.text "build_type", (d.buildType.map Value.text).getD .null),
    (.text "toolchain", (d.toolchain.map Value.text).getD .null),
    (.text "repeat_until_fail", .int d.repeatUntilFail),
    (.text "header_filter", .text d.headerFilter)]

/-- A document with that table. -/
def toDocument (d : Defaults) : Document := ⟨.map [(.text "build", .map d.toEntries)], []⟩

theorem hasText_toEntries (d : Defaults) (field : String) (t : Option String)
    (there : Value.lookup? field d.toEntries = some ((t.map Value.text).getD .null))
    (trimmed : ∀ s ∈ t, IsTrimmed s) :
    HasText field d.toEntries ∧ textAt? field d.toEntries = t := by
  unfold HasText textAt?
  rw [there]
  cases t with
  | none => simp
  | some s =>
    have htrimmed := trimmed s rfl
    simp [htrimmed.trim_eq, htrimmed.isBlankText_eq_false]

theorem hasCount_toEntries (d : Defaults) (field : String) (t : Option Int)
    (there : Value.lookup? field d.toEntries = some ((t.map Value.int).getD .null))
    (positive : ∀ n ∈ t, 1 ≤ n) :
    HasCount field d.toEntries ∧ countAt? field d.toEntries = t := by
  unfold HasCount countAt?
  rw [there]
  cases t with
  | none => simp
  | some n =>
    have hpositive := positive n rfl
    simp [hpositive]

/-- Sound defaults are read from the table that says the same. -/
theorem ofDocument_toDocument (sound : d.IsSound) :
    ofDocument d.source d.toDocument = .ok d := by
  have entries : tableEntries d.toDocument = d.toEntries := rfl
  have writable : HasWritableKeys d.toDocument := by
    intro e he
    rw [entries] at he
    simp only [toEntries, List.mem_cons, List.not_mem_nil, or_false] at he
    rcases he with rfl | rfl | rfl | rfl | rfl | rfl | rfl <;> rfl
  obtain ⟨output, outputDir⟩ := d.hasText_toEntries "output_dir" (some d.outputDir) rfl
    (by simpa using sound.outputDir)
  obtain ⟨generator, hgenerator⟩ := d.hasText_toEntries "generator" (some d.generator) rfl
    (by simpa using sound.generator)
  obtain ⟨jobs, hjobs⟩ := d.hasCount_toEntries "jobs" d.jobs rfl sound.jobs
  obtain ⟨buildType, hbuildType⟩ :=
    d.hasText_toEntries "build_type" d.buildType rfl sound.buildType
  obtain ⟨toolchain, htoolchain⟩ :=
    d.hasText_toEntries "toolchain" d.toolchain rfl sound.toolchain
  obtain ⟨repeats, hrepeats⟩ := d.hasCount_toEntries "repeat_until_fail"
    (some d.repeatUntilFail) rfl (by simpa using sound.repeatUntilFail)
  obtain ⟨filter, hfilter⟩ := d.hasText_toEntries "header_filter" (some d.headerFilter) rfl
    (by simpa using sound.headerFilter)
  refine (ofDocument_eq_ok_iff writable).mpr ⟨⟨fun v hv => ?_, fun e he => ?_, ?_, ?_⟩, ?_⟩
  · cases hv
    exact ⟨d.toEntries, rfl⟩
  · rw [entries] at he
    simp only [toEntries, List.mem_cons, List.not_mem_nil, or_false] at he
    rcases he with rfl | rfl | rfl | rfl | rfl | rfl | rfl <;> simp [Value.display, keys]
  · simp [textFields, entries, output, generator, buildType, toolchain, filter]
  · simp [countFields, entries, jobs, repeats]
  · rw [entries, given, outputDir, hgenerator, hjobs, hbuildType, htoolchain, hrepeats, hfilter]
    rfl

/-! ## Which documents give which defaults -/

theorem isSound_ofDocument (ok : ofDocument source doc = .ok d) : d.IsSound := by
  obtain ⟨es, -, ok⟩ := bind_eq_ok ok
  exact isSound_ofTable ok

theorem source_of_ofDocument (writable : HasWritableKeys doc)
    (ok : ofDocument source doc = .ok d) : d.source = source := by
  obtain ⟨-, rfl⟩ := (ofDocument_eq_ok_iff writable).mp ok
  rfl

/-- A document whose table can be shown gives defaults exactly if it is accepted, and then those that
its table comes to; else it is rejected with a fault that blames the file. Defaults that are
written back are read again. For the same entries in any order the outcome is the same, up to the
text of a rejected count that is a collection: each document writes it as it stands there. It is
the same text where the collection is the same and does not hold itself. -/
theorem ofDocument_decided (source : Option String) (showable : IsShowable doc) :
    (∀ d, ofDocument source doc = .ok d ↔
      IsAccepted doc ∧ given source (tableEntries doc) = d) ∧
    ((∃ f, f ≠ .longNumber ∧ ofDocument source doc = .error f) ↔ ¬ IsAccepted doc) ∧
    (∀ d, ofDocument source doc = .ok d → ofDocument source d.toDocument = .ok d) ∧
    ∀ doc', doc.Reorders doc' → IsShowable doc' →
      ofDocument source doc' = ofDocument source doc ∨
        ∃ field ∈ countFields, ∃ v w, Value.lookup? field (tableEntries doc) = some v ∧
          Value.lookup? field (tableEntries doc') = some w ∧ v.Similar w ∧
          (w = v → v.holdsLoop = true) ∧
          ofDocument source doc = .error (.notPositive field (doc.literal v)) ∧
          ofDocument source doc' = .error (.notPositive field (doc'.literal w)) := by
  have writable : HasWritableKeys doc := fun e he => (showable e he).1
  refine ⟨fun d => ofDocument_eq_ok_iff writable, ⟨?_, fun rejected => ?_⟩, fun d ok => ?_,
    fun doc' h showable' => alike_of_reorders h showable showable' source⟩
  · rintro ⟨f, -, failed⟩ accepted
    cases failed.symm.trans ((ofDocument_eq_ok_iff writable).mpr ⟨accepted, rfl⟩)
  · cases failed : ofDocument source doc with
    | ok d => exact absurd ((ofDocument_eq_ok_iff writable).mp failed).1 rejected
    | error f =>
      refine ⟨f, ?_, rfl⟩
      rintro rfl
      exact ofDocument_ne_longNumber showable failed
  · have again := ofDocument_toDocument (isSound_ofDocument ok)
    rwa [source_of_ofDocument writable ok] at again

/-- A document whose table has a text with blanks around it, a null and a number. -/
def spacious : Document :=
  ⟨.map [(.text "build", .map [(.text "generator", .text " Ninja Multi "), (.text "jobs", .null),
    (.text "repeat_until_fail", .int 5)])], []⟩

/-- That document with the entries of the table the other way round. -/
def backward : Document :=
  ⟨.map [(.text "build", .map [(.text "repeat_until_fail", .int 5), (.text "jobs", .null),
    (.text "generator", .text " Ninja Multi ")])], []⟩

theorem reorders_backward : spacious.Reorders backward where
  once := Value.Distinct.bindsOnce (by decide +kernel)
  once' := Value.Distinct.bindsOnce (by decide +kernel)
  keys := .refl _
  table v w hv hw := by
    cases List.mem_singleton.mp hv
    cases List.mem_singleton.mp hw
    exact .some (Value.sameEntries_of_perm (Value.Distinct.bindsOnce (by decide +kernel))
      (List.reverse_perm _).symm)

theorem isShowable_spacious : IsShowable spacious := by
  intro e he
  have he : e ∈ [(Value.text "generator", Value.text " Ninja Multi "), (.text "jobs", .null),
    (.text "repeat_until_fail", .int 5)] := he
  simp only [List.mem_cons, List.not_mem_nil, or_false] at he
  rcases he with rfl | rfl | rfl <;> exact ⟨rfl, by decide +kernel⟩

theorem isShowable_backward : IsShowable backward := by
  have same : (tableEntries backward).Perm (tableEntries spacious) :=
    List.reverse_perm (tableEntries spacious)
  exact fun e he => isShowable_spacious e (same.mem_iff.mp he)

theorem ofDocument_decided_spacious :
    let d : Defaults := { generator := "Ninja Multi", repeatUntilFail := 5 }
    IsShowable spacious ∧ IsAccepted spacious ∧ ofDocument none spacious = .ok d ∧
    ofDocument none d.toDocument = .ok d ∧
    spacious.Reorders backward ∧ IsShowable backward ∧ ofDocument none backward = .ok d := by
  intro d
  have read : ofDocument none spacious = .ok d := by decide +kernel
  obtain ⟨decided, -, again, reordered⟩ := ofDocument_decided none isShowable_spacious
  refine ⟨isShowable_spacious, ((decided d).mp read).1, read, again d read, reorders_backward,
    isShowable_backward, ?_⟩
  rcases reordered backward reorders_backward isShowable_backward with same | ⟨_, _, _, _, _, _, _, _, failed, _⟩
  · exact same.trans read
  · cases failed.symm.trans read

/-- A document with a table that is the value of a count in itself. -/
def circular (first second : Value × Value) : Document :=
  ⟨.map [(.text "build", .loop 0)], [(0, .map [first, second])]⟩

/-- Where a table is the value of a count in itself, the order of its entries is seen in what is told
of it. -/
theorem rejection_shows_order :
    let generator := (Value.text "generator", Value.text "G")
    let jobs := (Value.text "jobs", Value.loop 0)
    (circular generator jobs).Reorders (circular jobs generator) ∧
    IsShowable (circular generator jobs) ∧ IsShowable (circular jobs generator) ∧
    ofDocument none (circular generator jobs) =
      .error (.notPositive "jobs" "\x7b'generator': 'G', 'jobs': \x7b...\x7d\x7d") ∧
    ofDocument none (circular jobs generator) =
      .error (.notPositive "jobs" "\x7b'jobs': \x7b...\x7d, 'generator': 'G'\x7d") ∧
    ofDocument none (circular jobs generator) ≠ ofDocument none (circular generator jobs) := by
  intro generator jobs
  have told : ofDocument none (circular generator jobs) =
      .error (.notPositive "jobs" "\x7b'generator': 'G', 'jobs': \x7b...\x7d\x7d") := by
    decide +kernel
  have told' : ofDocument none (circular jobs generator) =
      .error (.notPositive "jobs" "\x7b'jobs': \x7b...\x7d, 'generator': 'G'\x7d") := by
    decide +kernel
  have reorders : (circular generator jobs).Reorders (circular jobs generator) := {
    once := Value.Distinct.bindsOnce (by decide +kernel)
    once' := Value.Distinct.bindsOnce (by decide +kernel)
    keys := .refl _
    table := fun v w hv hw => by
      cases List.mem_singleton.mp hv
      cases List.mem_singleton.mp hw
      exact .some (Value.sameEntries_of_perm (Value.Distinct.bindsOnce (by decide +kernel))
        (.swap _ _ _)) }
  refine ⟨reorders, ?_, ?_, told, told', ?_⟩
  · unfold IsShowable
    decide +kernel
  · unfold IsShowable
    decide +kernel
  · rw [told, told']
    decide +kernel

end Defaults

end BuildPilot
