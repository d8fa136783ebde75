import BuildPilot.Document.Value
import Mathlib.Data.List.Perm.Basic

/-!
# Entries of mappings

A mapping binds a text once, so what it binds a text to does not depend on the order of its entries.
The text of a value does depend on it; and where a collection holds itself, also the text of what
stands inside.
-/

namespace BuildPilot

open Document

/-! ## Texts of values -/

namespace Document.Value

mutual

/-- Whether a collection that holds itself occurs in a value. -/
def holdsLoop : Value → Bool
  | list vs => anyHoldsLoop vs
  | tuple vs => anyHoldsLoop vs
  | set vs => anyHoldsLoop vs
  | map es => anyEntryHoldsLoop es
  | loop _ => true
  | _ => false

/-- Whether a collection that holds itself occurs in the values of a list. -/
def anyHoldsLoop : List Value → Bool
  | [] => false
  | v :: vs => holdsLoop v || anyHoldsLoop vs

/-- Whether a collection that holds itself occurs in the entries of a mapping. -/
def anyEntryHoldsLoop : List (Value × Value) → Bool
  | [] => false
  | (k, v) :: es => holdsLoop k || holdsLoop v || anyEntryHoldsLoop es

end

variable {f g : Nat → String}

mutual

/-- Where no collection holds itself, what is written inside such collections has no say. -/
theorem literalWith_congr : ∀ v : Value, v.holdsLoop = false → v.literalWith f = v.literalWith g
  | null, _ | bool _, _ | int _, _ | float _, _ | text _, _ | octets _, _ | date _, _ | time _, _
  | dateTime _, _ => by simp only [literalWith]
  | list vs, h => by
    have inside := literals_congr vs (by simpa [holdsLoop] using h)
    simp only [literalWith, inside]
  | tuple [], h => by simp [literalWith, literals]
  | tuple [v], h => by
    have inside := literalWith_congr v (by simpa [holdsLoop, anyHoldsLoop] using h)
    simp only [literalWith, inside]
  | tuple (v :: w :: vs), h => by
    have inside := literals_congr (v :: w :: vs) (by simpa [holdsLoop] using h)
    simp only [literalWith, inside]
  | set [], _ => by simp only [literalWith]
  | set (v :: vs), h => by
    have inside := literals_congr (v :: vs) (by simpa [holdsLoop] using h)
    simp only [literalWith, inside]
  | map es, h => by
    have inside := entryLiterals_congr es (by simpa [holdsLoop] using h)
    simp only [literalWith, inside]
  | loop n, h => by simp [holdsLoop] at h

theorem literals_congr : ∀ vs : List Value, anyHoldsLoop vs = false → literals f vs = literals g vs
  | [], _ => by simp only [literals]
  | v :: vs, h => by
    rw [anyHoldsLoop, Bool.or_eq_false_iff] at h
    rw [literals, literals, literalWith_congr v h.1, literals_congr vs h.2]

theorem entryLiterals_congr : ∀ es : List (Value × Value), anyEntryHoldsLoop es = false →
    entryLiterals f es = entryLiterals g es
  | [], _ => by simp only [entryLiterals]
  | (k, v) :: es, h => by
    rw [anyEntryHoldsLoop, Bool.or_eq_false_iff, Bool.or_eq_false_iff] at h
    rw [entryLiterals, entryLiterals, literalWith_congr k h.1.1, literalWith_congr v h.1.2,
      entryLiterals_congr es h.2]

end

end Document.Value

theorem Document.literal_congr {doc doc' : Document} {v : Value} (h : v.holdsLoop = false) :
    doc.literal v = doc'.literal v :=
  Value.literalWith_congr v h

/-! ## Entries in any order -/

namespace Document.Value

variable {es es' : List (Value × Value)} {k : String} {v : Value}

/-- A text is bound to one value at most, as in every mapping. -/
def BindsOnce (es : List (Value × Value)) : Prop :=
  ∀ k v w, (text k, v) ∈ es → (text k, w) ∈ es → v = w

/-- Keys that differ, each from those after it. -/
def Distinct (es : List (Value × Value)) : Prop := es.Pairwise fun e f => sameKey e.1 f.1 = false

instance (es : List (Value × Value)) : Decidable (Distinct es) :=
  inferInstanceAs (Decidable (List.Pairwise _ _))

theorem Distinct.bindsOnce (h : Distinct es) : BindsOnce es := by
  have self (k : String) : sameKey (text k) (text k) = true := by simp [sameKey]
  induction h with
  | nil => exact nofun
  | @cons e es away _ ih =>
    intro k v w hv hw
    rcases List.mem_cons.mp hv with rfl | tail
    · rcases List.mem_cons.mp hw with same | tail'
      · exact (Prod.mk.inj same).2.symm
      · cases (self k).symm.trans (away (text k, w) tail')
    · rcases List.mem_cons.mp hw with rfl | tail'
      · cases (self k).symm.trans (away (text k, v) tail)
      · exact ih k v w tail tail'

theorem mem_insertEntry {k w : Value} {e : Value × Value} (h : e ∈ insertEntry k w es) :
    e.1 = k ∨ ∃ f ∈ es, e.1 = f.1 := by
  induction es with
  | nil =>
    rw [insertEntry, List.mem_singleton] at h
    exact .inl (congrArg Prod.fst h)
  | cons f es ih =>
    unfold insertEntry at h
    split at h
    · rcases List.mem_cons.mp h with rfl | h
      · exact .inr ⟨f, List.mem_cons_self, rfl⟩
      · exact .inr ⟨e, List.mem_cons_of_mem f h, rfl⟩
    · rcases List.mem_cons.mp h with rfl | h
      · exact .inr ⟨f, List.mem_cons_self, rfl⟩
      · exact (ih h).imp_right fun ⟨g, hg, same⟩ => ⟨g, List.mem_cons_of_mem f hg, same⟩

theorem Distinct.insertEntry (h : Distinct es) (k w : Value) : Distinct (insertEntry k w es) := by
  induction h with
  | nil => exact List.pairwise_singleton _ _
  | @cons e es away rest ih =>
    unfold Value.insertEntry
    split
    · exact .cons away rest
    · rename_i other
      refine .cons (fun f hf => ?_) ih
      rcases mem_insertEntry hf with same | ⟨g, hg, same⟩
      · rw [same]
        exact Bool.eq_false_iff.mpr other
      · rw [same]
        exact away g hg

/-- Every mapping that is put together from entries binds a text once. -/
theorem bindsOnce_mapOf (entries : List (Value × Value)) :
    ∃ es, mapOf entries = map es ∧ BindsOnce es := by
  have distinct := List.foldlRecOn (motive := Distinct) entries _ .nil
    fun es (h : Distinct es) e _ => h.insertEntry e.1 e.2
  exact ⟨_, rfl, distinct.bindsOnce⟩

theorem mem_of_lookup? (h : lookup? k es = some v) : (text k, v) ∈ es := by
  induction es with
  | nil => cases h
  | cons e es ih =>
    unfold lookup? at h
    split at h
    · cases h
    · rename_i heq
      cases heq
      split at h
      · cases h
        subst k
        exact List.mem_cons_self
      · exact List.mem_cons_of_mem _ (ih h)
    · rename_i heq
      cases heq
      exact List.mem_cons_of_mem _ (ih h)

theorem exists_lookup?_of_mem (h : (text k, v) ∈ es) : ∃ w, lookup? k es = some w := by
  induction es with
  | nil => cases h
  | cons e es ih =>
    unfold lookup?
    split
    · rename_i heq
      cases heq
    · rename_i heq
      cases heq
      split
      · exact ⟨_, rfl⟩
      · refine ih ((List.mem_cons.mp h).resolve_left fun same => ?_)
        cases same
        contradiction
    · rename_i other heq
      cases heq
      refine ih ((List.mem_cons.mp h).resolve_left fun same => ?_)
      cases same
      exact other _ _ rfl

/-- Whether a value is a collection of other values. -/
def isCollection : Value → Bool
  | list _ | tuple _ | set _ | map _ | loop _ => true
  | _ => false

/-- Two values are the same, or both collections, which may differ inside. -/
def Similar (v w : Value) : Prop := w = v ∨ v.isCollection = true ∧ w.isCollection = true

/-- The same keys in any order, with the same values but for the inside of collections. -/
structure SameEntries (es es' : List (Value × Value)) : Prop where
  once : BindsOnce es
  once' : BindsOnce es'
  keys : (es.map Prod.fst).Perm (es'.map Prod.fst)
  values : ∀ k v w, (text k, v) ∈ es → (text k, w) ∈ es' → v.Similar w

theorem exists_lookup?_of_keys (keys : (es.map Prod.fst).Perm (es'.map Prod.fst))
    (h : lookup? k es = some v) : ∃ w, lookup? k es' = some w := by
  have key := List.mem_map_of_mem (f := Prod.fst) (mem_of_lookup? h)
  obtain ⟨⟨-, w⟩, there, rfl⟩ := List.mem_map.mp (keys.mem_iff.mp key)
  exact exists_lookup?_of_mem there

/-- Where the keys are the same, looking up a text finds a value in both lists or in none. -/
theorem lookup?_of_keys (keys : (es.map Prod.fst).Perm (es'.map Prod.fst)) (k : String) :
    (lookup? k es = none ∧ lookup? k es' = none) ∨
    ∃ v w, lookup? k es = some v ∧ lookup? k es' = some w := by
  cases hv : lookup? k es with
  | none =>
    cases hw : lookup? k es' with
    | none => exact .inl ⟨rfl, rfl⟩
    | some w =>
      obtain ⟨v, hv'⟩ := exists_lookup?_of_keys keys.symm hw
      cases hv.symm.trans hv'
  | some v =>
    obtain ⟨w, hw⟩ := exists_lookup?_of_keys keys hv
    exact .inr ⟨v, w, rfl, hw⟩

theorem SameEntries.lookup? (h : SameEntries es es') (k : String) :
    Option.Rel Similar (lookup? k es) (lookup? k es') := by
  rcases lookup?_of_keys h.keys k with ⟨hv, hw⟩ | ⟨v, w, hv, hw⟩
  · rw [hv, hw]
    exact .none
  · rw [hv, hw]
    exact .some (h.values k v w (mem_of_lookup? hv) (mem_of_lookup? hw))

theorem sameEntries_of_perm (once : BindsOnce es) (perm : es.Perm es') : SameEntries es es' where
  once := once
  once' := fun k v w hv hw => once k v w (perm.mem_iff.mpr hv) (perm.mem_iff.mpr hw)
  keys := perm.map _
  values := fun k v w hv hw => .inl (once k w v (perm.mem_iff.mpr hw) hv)

end Document.Value

/-- `doc'` is `doc` with the entries of the document, those of its table and those inside in any
order. -/
structure Document.Reorders (doc doc' : Document) : Prop where
  once : Value.BindsOnce doc.entries
  once' : Value.BindsOnce doc'.entries
  keys : (doc.entries.map Prod.fst).Perm (doc'.entries.map Prod.fst)
  table : ∀ v w, (.text "build", v) ∈ doc.entries → (.text "build", w) ∈ doc'.entries →
    Option.Rel Value.SameEntries (doc.entries? v) (doc'.entries? w)

end BuildPilot
