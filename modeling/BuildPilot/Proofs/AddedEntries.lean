import BuildPilot.Proofs.DefaultsTable

/-!
# Entries added to a document

An entry can be added to the `build` table of a document, which is made if it is not there. The
table, or the document itself, may be a collection that holds itself; then the entry is seen wherever
this collection stands.
-/

namespace BuildPilot

namespace Document

/-! ## Adding an entry -/

/-- A value with other entries, if it is a mapping. -/
def Value.onEntries (f : List (Value × Value) → List (Value × Value)) : Value → Value
  | .map es => .map (f es)
  | v => v

/-- The entries of a document with an entry added at the end of their `build` table. -/
def Value.intoBuild (e : Value × Value) : List (Value × Value) → List (Value × Value)
  | [] => [(.text "build", .map [e])]
  | (.text k, v) :: es =>
    if k = "build" then (.text k, v.onEntries (· ++ [e])) :: es
    else (.text k, v) :: intoBuild e es
  | p :: es => p :: intoBuild e es

variable {doc doc' : Document} {e : Value × Value} {es : List (Value × Value)} {v : Value}
  {f : List (Value × Value) → List (Value × Value)} {n m : Nat}

/-- The document with other entries in one of the collections that hold themselves. -/
def onLoop (doc : Document) (n : Nat) (f : List (Value × Value) → List (Value × Value)) :
    Document :=
  { doc with loops := doc.loops.map fun p => (p.1, if p.1 = n then p.2.onEntries f else p.2) }

/-- The document with other entries. -/
def onRoot (doc : Document) (f : List (Value × Value) → List (Value × Value)) : Document :=
  match doc.root with
  | .loop n => doc.onLoop n f
  | v => { doc with root := v.onEntries f }

/-- The document with an entry added at the end of its `build` table. -/
def withBuildEntry (doc : Document) (e : Value × Value) : Document :=
  match Value.lookup? "build" doc.entries with
  | some (.loop n) => doc.onLoop n (· ++ [e])
  | _ => doc.onRoot (Value.intoBuild e)

/-- The value of the document is a mapping. -/
def IsMapping (doc : Document) : Prop := ∃ es, doc.entries? doc.root = some es

/-! ## Lookups -/

theorem Value.lookup?_append (k : String) (es es' : List (Value × Value)) :
    Value.lookup? k (es ++ es') = (Value.lookup? k es).or (Value.lookup? k es') := by
  induction es with
  | nil => rfl
  | cons p es ih =>
    obtain ⟨name, v⟩ := p
    cases name <;> simp only [List.cons_append, Value.lookup?, ih]
    split <;> rfl

theorem Value.lookup?_intoBuild (e : Value × Value) (es : List (Value × Value)) :
    Value.lookup? "build" (Value.intoBuild e es) =
      some (((Value.lookup? "build" es).map (Value.onEntries (· ++ [e]))).getD (.map [e])) := by
  induction es with
  | nil => rfl
  | cons p es ih =>
    obtain ⟨name, v⟩ := p
    cases name with
    | text k =>
      by_cases build : k = "build"
      · simp [Value.intoBuild, Value.lookup?, build]
      · simp [Value.intoBuild, Value.lookup?, build, ih]
    | _ => simpa [Value.intoBuild, Value.lookup?] using ih

theorem resolved_onLoop (doc : Document) (n m : Nat) :
    (doc.onLoop n f).resolved (.loop m) =
      if m = n then (doc.resolved (.loop m)).onEntries f else doc.resolved (.loop m) := by
  have lookup (l : List (Nat × Value)) :
      (l.map fun p => (p.1, if p.1 = n then p.2.onEntries f else p.2)).lookup m =
        (l.lookup m).map fun v => if m = n then v.onEntries f else v := by
    induction l with
    | nil => rfl
    | cons p l ih =>
      rw [List.map_cons, List.lookup_cons, List.lookup_cons, ih]
      by_cases here : m = p.1
      · subst here
        simp
      · have other : (m == p.1) = false := by simpa using here
        simp only [other]
  unfold resolved onLoop
  dsimp only
  rw [lookup]
  cases doc.loops.lookup m with
  | none => split <;> rfl
  | some v => split <;> rfl

theorem entries?_onLoop (doc : Document) (n m : Nat) :
    (doc.onLoop n f).entries? (.loop m) =
      if m = n then (doc.entries? (.loop m)).map f else doc.entries? (.loop m) := by
  unfold entries?
  rw [resolved_onLoop]
  by_cases here : m = n
  · rw [if_pos here, if_pos here]
    cases doc.resolved (.loop m) <;> rfl
  · rw [if_neg here, if_neg here]

/-- A value that is no number stands for itself. -/
theorem entries?_of_ne_loop (h : ∀ n, v ≠ .loop n) : doc'.entries? v = doc.entries? v := by
  cases v with
  | loop n => exact absurd rfl (h n)
  | _ => rfl

theorem entries?_onEntries (h : ∀ n, v ≠ .loop n) :
    doc.entries? (v.onEntries f) = (doc.entries? v).map f := by
  cases v with
  | loop n => exact absurd rfl (h n)
  | _ => rfl

theorem entries?_onRoot (mapping : doc.entries? doc.root = some es) :
    (doc.onRoot f).entries? (doc.onRoot f).root = some (f es) := by
  unfold onRoot
  split
  · rename_i n root
    show (doc.onLoop n f).entries? doc.root = _
    rw [root] at mapping ⊢
    rw [entries?_onLoop, if_pos rfl, mapping]
    rfl
  · rename_i more
    rw [entries?_onEntries more, entries?_of_ne_loop more, mapping]
    rfl

/-! ## The table -/

theorem entries?_root_onLoop (mapping : doc.entries? doc.root = some es) :
    ∃ es', (doc.onLoop n (· ++ [e])).entries? (doc.onLoop n (· ++ [e])).root = some es' ∧
      (es' = es ∨ es' = es ++ [e]) := by
  show ∃ es', (doc.onLoop n (· ++ [e])).entries? doc.root = some es' ∧ _
  by_cases loop : ∃ m, doc.root = .loop m
  · obtain ⟨m, root⟩ := loop
    rw [root] at mapping ⊢
    rw [entries?_onLoop, mapping]
    split
    · exact ⟨_, rfl, .inr rfl⟩
    · exact ⟨_, rfl, .inl rfl⟩
  · have same : (doc.onLoop n (· ++ [e])).entries? doc.root = doc.entries? doc.root :=
      entries?_of_ne_loop fun m root => loop ⟨m, root⟩
    exact ⟨es, same.trans mapping, .inl rfl⟩

theorem table_withBuildEntry (mapping : doc.IsMapping) :
    (doc.withBuildEntry e).IsMapping ∧
      Defaults.table (doc.withBuildEntry e) = (Defaults.table doc).map (· ++ [e]) := by
  obtain ⟨es, mapping⟩ := mapping
  have entries : doc.entries = es := by rw [Document.entries, mapping]; rfl
  unfold withBuildEntry Defaults.table
  rw [entries]
  split
  · rename_i n there
    obtain ⟨es', mapping', same⟩ := entries?_root_onLoop (n := n) (e := e) mapping
    refine ⟨⟨es', mapping'⟩, ?_⟩
    have there' : Value.lookup? "build" es' = some (.loop n) := by
      rcases same with rfl | rfl
      · exact there
      · rw [Value.lookup?_append, there]
        rfl
    rw [Document.entries, mapping', Option.getD_some, there', there]
    dsimp only
    rw [entries?_onLoop, if_pos rfl]
    cases doc.entries? (.loop n) <;> rfl
  · rename_i plain
    have mapping' := entries?_onRoot (f := Value.intoBuild e) mapping
    refine ⟨⟨_, mapping'⟩, ?_⟩
    rw [Document.entries, mapping', Option.getD_some, Value.lookup?_intoBuild]
    cases there : Value.lookup? "build" es with
    | none => rfl
    | some v =>
      have more : ∀ n, v ≠ .loop n := by
        rintro n rfl
        exact plain n there
      have same : (doc.onRoot (Value.intoBuild e)).entries? v = doc.entries? v :=
        entries?_of_ne_loop more
      dsimp only [Option.map_some, Option.getD_some]
      rw [entries?_onEntries more, same]
      cases doc.entries? v <;> rfl

/-! ## What can be written -/

/-- What can be written of a document depends on its collections that hold themselves only through
what can be written of each. -/
theorem isWritable_congr (size : doc'.loops.length = doc.loops.length)
    (same : ∀ inner n, (doc'.resolved (.loop n)).isWritableWith inner =
      (doc.resolved (.loop n)).isWritableWith inner) (v : Value) :
    doc'.isWritable v = doc.isWritable v := by
  have loops (bound : Nat) : doc'.isLoopWritable bound = doc.isLoopWritable bound := by
    induction bound with
    | zero => rfl
    | succ bound ih =>
      funext around n
      unfold isLoopWritable
      rw [same, ih]
  unfold isWritable
  rw [size, loops]

theorem Value.entriesAreWritable_append {inner : Nat → Bool} (h : e.1.isWritableWith inner = true)
    (h' : e.2.isWritableWith inner = true) (es : List (Value × Value)) :
    Value.entriesAreWritable inner (es ++ [e]) = Value.entriesAreWritable inner es := by
  induction es with
  | nil => simp [Value.entriesAreWritable, h, h']
  | cons p es ih => simp only [List.cons_append, Value.entriesAreWritable, ih]

theorem Value.isWritableWith_onEntries {inner : Nat → Bool}
    (h : ∀ es, Value.entriesAreWritable inner (f es) = Value.entriesAreWritable inner es)
    (v : Value) : (v.onEntries f).isWritableWith inner = v.isWritableWith inner := by
  cases v with
  | map es => simpa [Value.onEntries, Value.isWritableWith] using h es
  | _ => rfl

theorem Value.entriesAreWritable_intoBuild {inner : Nat → Bool}
    (h : e.1.isWritableWith inner = true) (h' : e.2.isWritableWith inner = true)
    (es : List (Value × Value)) :
    Value.entriesAreWritable inner (Value.intoBuild e es) = Value.entriesAreWritable inner es := by
  have table := Value.isWritableWith_onEntries (Value.entriesAreWritable_append h h')
  induction es with
  | nil => simp [Value.intoBuild, Value.entriesAreWritable, Value.isWritableWith, h, h']
  | cons p es ih =>
    obtain ⟨name, v⟩ := p
    cases name with
    | text k =>
      by_cases build : k = "build"
      · simp [Value.intoBuild, Value.entriesAreWritable, build, table]
      · simp [Value.intoBuild, Value.entriesAreWritable, build, ih]
    | _ => simp [Value.intoBuild, Value.entriesAreWritable, ih]

theorem isWritable_onLoop (h : ∀ inner es,
    Value.entriesAreWritable inner (f es) = Value.entriesAreWritable inner es) (v : Value) :
    (doc.onLoop n f).isWritable v = doc.isWritable v := by
  refine isWritable_congr (List.length_map _) (fun inner m => ?_) v
  rw [resolved_onLoop]
  split
  · exact Value.isWritableWith_onEntries (h inner) _
  · rfl

/-- An entry that can be written itself changes nothing of what can be written. -/
theorem isWritable_withBuildEntry (h : ∀ inner, e.1.isWritableWith inner = true)
    (h' : ∀ inner, e.2.isWritableWith inner = true) (v : Value) :
    (doc.withBuildEntry e).isWritable v = doc.isWritable v := by
  unfold withBuildEntry
  split
  · exact isWritable_onLoop (fun inner => Value.entriesAreWritable_append (h inner) (h' inner)) v
  · unfold onRoot
    split
    · exact isWritable_onLoop
        (fun inner => Value.entriesAreWritable_intoBuild (h inner) (h' inner)) v
    · refine isWritable_congr ?_ (fun _ _ => ?_) v <;> rfl

end Document

end BuildPilot
