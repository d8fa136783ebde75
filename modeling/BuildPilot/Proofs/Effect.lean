import BuildPilot.Executor
import BuildPilot.Proofs.Act
import BuildPilot.Proofs.Layout
import BuildPilot.Proofs.Place
import BuildPilot.Proofs.Search

/-!
# Effects on files

What an act does to the files is stated by the files that it may be started on and the files that it
may leave, with the answer or the failure that it ends in. From the rules for the ways to build an
act follows what removing the output, publishing the database and making built files executable do.
-/

namespace BuildPilot

open FileSystem

namespace Act

variable {α β : Type} {pre inv : FileSystem → Prop}

/-- Started on files of which `pre` holds, an act leaves files of which `post` holds, with what it
ends in. -/
def OnFiles (act : Act α) (pre : FileSystem → Prop)
    (post : Except Failure α → FileSystem → Prop) : Prop :=
  ∀ s, pre s.files → post (act.runIn s).1 (act.runIn s).2.files

section Rules

variable {post : Except Failure α → FileSystem → Prop} {post' : Except Failure β → FileSystem → Prop}

theorem OnFiles.bind {mid : Except Failure α → FileSystem → Prop} {act : Act α} {f : α → Act β}
    (h : act.OnFiles pre mid) (ok : ∀ a, (f a).OnFiles (mid (.ok a)) post')
    (error : ∀ e fs, mid (.error e) fs → post' (.error e) fs) :
    (act >>= f).OnFiles pre post' := by
  intro s hs
  have first := h s hs
  rw [runIn_bind]
  match hr : act.runIn s with
  | (.ok a, t) =>
    rw [hr] at first
    exact ok a t first
  | (.error e, t) =>
    rw [hr] at first
    exact error e t.files first

theorem OnFiles.weaken {strong : Except Failure α → FileSystem → Prop} {act : Act α}
    (h : act.OnFiles pre strong) (imp : ∀ r fs, strong r fs → post r fs) : act.OnFiles pre post :=
  fun s hs => imp _ _ (h s hs)

theorem OnFiles.restrict {weak : FileSystem → Prop} {act : Act α} (h : act.OnFiles weak post)
    (imp : ∀ fs, pre fs → weak fs) : act.OnFiles pre post :=
  fun s hs => h s (imp _ hs)

/-- What is known of the files that an act is started on may be used to prove what it does. -/
theorem onFiles_of_forall {act : Act α} (h : ∀ fs, pre fs → act.OnFiles (· = fs) post) :
    act.OnFiles pre post :=
  fun s hs => h s.files hs s rfl

theorem onFiles_true (act : Act α) : act.OnFiles pre fun _ _ => True := fun _ _ => trivial

theorem onFiles_pure {a : α} (h : ∀ fs, pre fs → post (.ok a) fs) :
    (pure a : Act α).OnFiles pre post :=
  fun s hs => h s.files hs

theorem onFiles_throw {e : Failure} (h : ∀ fs, pre fs → post (.error e) fs) :
    (throw e : Act α).OnFiles pre post :=
  fun s hs => h s.files hs

/-- What holds of the files whatever an act ends in holds also when another answer is given. -/
theorem OnFiles.thenReturn {act : Act α} (h : act.OnFiles pre fun _ => inv) (b : β) :
    (act >>= fun _ => pure b).OnFiles pre fun _ => inv :=
  h.bind (fun _ => onFiles_pure fun _ hs => hs) fun _ _ hs => hs

theorem OnFiles.discard {act : Act α} (h : act.OnFiles pre fun _ => inv) :
    (discard act).OnFiles pre fun _ => inv := by
  rw [discard_eq_bind]
  exact h.thenReturn ()

theorem onFiles_print (ps : List Printed) : (print ps).OnFiles pre fun _ => pre :=
  fun _ hs => hs

/-- Printing never fails and leaves the files to what follows. -/
theorem onFiles_print_bind {ps : List Printed} {act : Act α} (h : act.OnFiles pre post) :
    (print ps >>= fun _ => act).OnFiles pre post := by
  intro s hs
  rw [runIn_bind_ok (runIn_print ps s)]
  exact h _ hs

theorem onFiles_get {f : Session → Act α}
    (h : ∀ s, pre s.files → (f s).OnFiles (· = s.files) post) : (get >>= f).OnFiles pre post := by
  intro s hs
  rw [runIn_bind_ok (runIn_get s)]
  exact h s hs s rfl

theorem onFiles_orFail (failure : FileError → Failure) (r : Except FileError α) :
    (orFail failure r).OnFiles pre fun _ => pre := by
  cases r with
  | ok a => exact onFiles_pure fun _ h => h
  | error e => exact onFiles_throw fun _ h => h

theorem onFiles_ask (f : FileSystem → Except FileError α) :
    (ask f).OnFiles pre fun r fs => pre fs ∧ r = (f fs).mapError .file := by
  refine onFiles_get fun s hs => ?_
  cases hr : f s.files with
  | ok a => exact onFiles_pure fun fs h => by rw [h, hr]; exact ⟨hs, rfl⟩
  | error e => exact onFiles_throw fun fs h => by rw [h, hr]; exact ⟨hs, rfl⟩

/-- A look leaves the files as they are; what it tells is true, unless a fault is set for it. -/
theorem onFiles_look (faults : Faults) (op : Operation) (f : FileSystem → Except FileError α) :
    (look faults op f).OnFiles pre fun r fs => pre fs ∧ ∀ a, r = .ok (.ok a) → f fs = .ok a := by
  refine onFiles_get fun s hs => onFiles_pure fun fs h => ?_
  exact ⟨h ▸ hs, fun a ha => h ▸ eq_of_attempt (Except.ok.inj ha)⟩

theorem onFiles_changeLeaving {post : Except Failure (Except FileError Unit) → FileSystem → Prop}
    {left : Nat → FileSystem → FileSystem} {faults : Faults} {op : Operation}
    {f : FileSystem → Except FileError FileSystem}
    (ok : ∀ fs gs, pre fs → f fs = .ok gs → post (.ok (.ok ())) gs)
    (error : ∀ n fs e, pre fs → post (.ok (.error e)) (left n fs)) :
    (changeLeaving left faults op f).OnFiles pre post := by
  intro s hs
  unfold changeLeaving
  rw [runIn_bind_ok (runIn_get s)]
  split
  · rename_i gs hr
    rw [runIn_bind_ok (runIn_set _ s)]
    exact ok s.files gs hs (eq_of_attempt hr)
  · exact error s.clock s.files _ hs

theorem onFiles_change {post : Except Failure (Except FileError Unit) → FileSystem → Prop}
    {faults : Faults} {op : Operation} {f : FileSystem → Except FileError FileSystem}
    (ok : ∀ fs gs, pre fs → f fs = .ok gs → post (.ok (.ok ())) gs)
    (error : ∀ fs e, pre fs → post (.ok (.error e)) fs) :
    (change faults op f).OnFiles pre post :=
  onFiles_changeLeaving ok fun _ fs e hs => error fs e hs

end Rules

/-! ## Traversals -/

theorem onFiles_mapM {f : β → Act α} :
    ∀ l : List β, (∀ b ∈ l, (f b).OnFiles inv fun _ => inv) →
      (l.mapM f).OnFiles inv fun _ => inv
  | [], _ => by
    rw [List.mapM_nil]
    exact onFiles_pure fun _ hs => hs
  | b :: l, h => by
    rw [List.mapM_cons]
    refine (h b List.mem_cons_self).bind (fun a => ?_) fun _ _ hs => hs
    have rest := onFiles_mapM l fun b' hb' => h b' (List.mem_cons_of_mem b hb')
    exact rest.bind (fun as => onFiles_pure fun _ hs => hs) fun _ _ hs => hs

theorem onFiles_filterAuxM {f : β → Act Bool} :
    ∀ l acc : List β, (∀ b ∈ l, (f b).OnFiles inv fun _ => inv) →
      (l.filterAuxM f acc).OnFiles inv fun _ => inv
  | [], acc, _ => onFiles_pure fun _ hs => hs
  | b :: l, acc, h => by
    refine (h b List.mem_cons_self).bind (fun y => ?_) fun _ _ hs => hs
    exact onFiles_filterAuxM l _ fun b' hb' => h b' (List.mem_cons_of_mem b hb')

theorem onFiles_filterM {f : β → Act Bool} {l : List β}
    (h : ∀ b ∈ l, (f b).OnFiles inv fun _ => inv) : (l.filterM f).OnFiles inv fun _ => inv :=
  (onFiles_filterAuxM l [] h).bind (fun _ => onFiles_pure fun _ hs => hs) fun _ _ hs => hs

end Act

namespace Executor

open Act

variable {x : Executor} {fs gs : FileSystem}

/-! ## Removing the output -/

/-- However a removal ends, it removes entries from the tree at the output directory and changes no
other. -/
theorem removeOutput_onFiles : x.removeOutput.OnFiles (· = fs) fun _ gs =>
    Prunes x.machine.cwd x.config.outputRoot fs gs := by
  unfold removeOutput
  have nothing {gs : FileSystem} (same : gs = fs) :
      Prunes x.machine.cwd x.config.outputRoot fs gs :=
    same ▸ .refl
  refine (onFiles_ask _).bind (fun there => ?_) fun e gs h => nothing h.1
  split
  · exact (onFiles_print _).weaken fun r gs h => nothing h.1
  · refine (onFiles_print _).bind (fun _ => ?_) fun e gs h => nothing h.1
    have remove : (changeLeaving x.leftOutput x.machine.faults .removeTree fun fs =>
        fs.removeTree x.machine.cwd x.config.outputRoot).OnFiles
        (fun gs => gs = fs ∧ Except.ok there =
          (gs.status x.machine.cwd x.config.outputRoot).mapError Failure.file)
        fun _ gs => Prunes x.machine.cwd x.config.outputRoot fs gs :=
      onFiles_changeLeaving (fun fs' gs h done => h.1 ▸ prunes_of_removeTree done)
        fun n fs' _ h => h.1 ▸ prunes_removePart _
    exact remove.bind (fun r => onFiles_orFail _ r) fun _ _ h => h

/-! ## Publishing -/

/-- The place where the database is published. -/
def publicPlace? (x : Executor) (fs : FileSystem) : Option Location :=
  fs.place? x.machine.cwd x.config.publishedDatabase

/-- The path of the published database leads to the place `l?` or nowhere, and no other place has
changed. -/
def Frees (x : Executor) (fs : FileSystem) (l? : Option Location) (gs : FileSystem) : Prop :=
  Leads gs x.machine.cwd x.config.publishedDatabase l? ∧ ChangesOnly fs gs (l? = some ·)

theorem frees_of_unlink
    (h : fs.unlink x.machine.cwd x.config.publishedDatabase = .ok gs) :
    x.Frees fs (x.publicPlace? fs) gs := by
  obtain ⟨l, e, found, hdir, rfl⟩ := unlink_eq_ok h
  have place : x.publicPlace? fs = some l := place?_of_find found rfl
  have there : fs.get? l ≠ some .dir := by
    rw [get?_of_find found hdir]
    simpa using hdir
  have hl : l ≠ [] := ne_nil_of_get? there
  have only := changesOnly_erase fs hl
  refine ⟨?_, fun k changed => ?_⟩
  · rw [place]
    refine leads_of_touched found rfl there (fun k hk => only.get?_eq hk) fun e he => ?_
    rw [get?_erase fs hl, if_pos rfl] at he
    cases he
  · rw [place, only k changed]

theorem frees_of_unoccupied
    (h : isOccupied fs x.machine.cwd x.config.publishedDatabase = .ok false) :
    x.Frees fs (x.publicPlace? fs) fs := by
  refine ⟨leads_of_unlinked fun l target found => ?_, .refl fs _⟩
  unfold isOccupied at h
  rw [found] at h
  cases h

/-- To free the published place takes away the entry there, or leaves the files as they are. -/
theorem freeTarget_onFiles : x.freeTarget.OnFiles (· = fs) fun r gs =>
    ChangesOnly fs gs (x.publicPlace? fs = some ·) ∧
      ∀ u, r = .ok (.ok u) → x.Frees fs (x.publicPlace? fs) gs := by
  unfold freeTarget
  refine (onFiles_look _ _ _).bind (fun occupied => ?_)
    fun e gs h => ⟨h.1 ▸ .refl _ _, fun u hu => by cases hu⟩
  split
  · exact onFiles_pure fun gs h => ⟨h.1 ▸ .refl _ _, fun u hu => by cases hu⟩
  · refine onFiles_pure fun gs h => ?_
    obtain ⟨rfl, free⟩ := h
    exact ⟨.refl _ _, fun _ _ => frees_of_unoccupied (free _ rfl)⟩
  · refine onFiles_change (fun gs hs h done => ?_) fun gs e h => ?_
    · obtain ⟨rfl, -⟩ := h
      have freed := frees_of_unlink (mapError_eq_ok done)
      exact ⟨freed.2, fun _ _ => freed⟩
    · exact ⟨h.1 ▸ .refl _ _, fun u hu => by cases hu⟩

theorem placeDatabase_onFiles {l? : Option Location} :
    x.placeDatabase.OnFiles (x.Frees fs l?) fun _ gs => ChangesOnly fs gs (l? = some ·) := by
  have copy : (change x.machine.faults .copy fun gs => gs.copy x.machine.cwd x.config.database
      x.config.publishedDatabase).OnFiles (x.Frees fs l?)
      fun _ gs => ChangesOnly fs gs (l? = some ·) :=
    onFiles_change (fun _ _ h done => h.2.trans (h.1.changesOnly_copy done)) fun _ _ h => h.2
  have link : (change x.machine.faults .link fun gs =>
      (gs.makeLink x.machine.cwd x.config.publishedDatabase x.config.database.toString).mapError
        fun cause => FileError.onPath cause x.config.publishedDatabase.toString).OnFiles
      (x.Frees fs l?)
      fun r gs => ChangesOnly fs gs (l? = some ·) ∧ ∀ e, r = .ok (.error e) → x.Frees fs l? gs := by
    refine onFiles_change (fun gs hs h done => ⟨?_, fun e he => by cases he⟩)
      fun gs e h => ⟨h.2, fun _ _ => h⟩
    exact h.2.trans (h.1.changesOnly_makeLink (mapError_eq_ok done))
  unfold placeDatabase
  dsimp only
  split
  · exact copy
  · refine link.bind (fun linked => ?_) fun _ _ h => h.1
    -- a link that could not be made has left the place free, so copying is next
    split
    · exact onFiles_pure fun _ h => h.1
    · exact copy.restrict fun _ h => h.2 _ rfl

/-- Publishing changes the entry at the published place and no other. -/
theorem publish_onFiles : x.publish.OnFiles (· = fs) fun _ gs =>
    ChangesOnly fs gs (x.publicPlace? fs = some ·) := by
  have replace : x.replaceDatabase.OnFiles (· = fs) fun _ gs =>
      ChangesOnly fs gs (x.publicPlace? fs = some ·) := by
    have unchanged : ∀ gs, gs = fs → ChangesOnly fs gs (x.publicPlace? fs = some ·) :=
      fun gs h => h ▸ .refl fs _
    unfold replaceDatabase
    refine (onFiles_look _ _ _).bind (fun there => ?_) fun e gs h => unchanged gs h.1
    split
    · exact onFiles_pure fun gs h => unchanged gs h.1
    · exact onFiles_pure fun gs h => unchanged gs h.1
    · refine (freeTarget_onFiles.restrict fun gs h => h.1).bind (fun freed => ?_)
        fun _ _ h => h.1
      split
      · exact onFiles_pure fun _ h => h.1
      · exact (placeDatabase_onFiles.restrict fun gs h => h.2 _ rfl).bind
          (fun r => onFiles_pure fun _ h => h) fun _ _ h => h
  unfold publish
  refine replace.bind (fun r => ?_) fun _ _ h => h
  split <;> exact (onFiles_print _).thenReturn _

/-! ## Permissions -/

/-- A path that a pattern of the toolchain selects below the build directory. -/
def IsBuilt (x : Executor) (fs : FileSystem) (p : Path) : Prop :=
  ∃ pattern ∈ x.config.toolchain.executablePatterns, ∃ ss names,
    selectorsOf pattern = .ok ss ∧ Selected fs ss names ∧ p = x.config.buildDir.append names

/-- The file that a built path leads to has been given the execute bits, and nothing else. -/
def Marks (x : Executor) (fs gs : FileSystem) (p : Path) (k : Location) : Prop :=
  x.IsBuilt fs p ∧ ∃ mode content, fs.find x.machine.cwd true p = .entry k (.file mode content) ∧
    gs.get? k = some (.file (mode ||| executeBits) content)

/-- All that has changed is that some files were marked. -/
def Marked (x : Executor) (fs gs : FileSystem) : Prop :=
  ChangesOnly fs gs fun k => ∃ p, x.Marks fs gs p k

theorem Marked.sameShape (h : x.Marked fs gs) : SameShape fs gs := by
  intro k
  by_cases same : gs.get? k = fs.get? k
  · rw [same]
  · obtain ⟨p, -, mode, content, found, now⟩ := h k same
    rw [now, get?_of_find_file found]
    rfl

/-- To mark one more file, or one a second time, is still nothing but marking. -/
theorem Marked.chmod {mode : Nat} {content : List UInt8} {p : Path} {l : Location}
    (h : x.Marked fs gs) (built : x.IsBuilt fs p)
    (found : gs.find x.machine.cwd true p = .entry l (.file mode content)) :
    x.Marked fs (gs.put l (.file (mode ||| executeBits) content)) := by
  have hgs : gs.get? l = some (.file mode content) := get?_of_find_file found
  have hl : l ≠ [] := ne_nil_of_get? (by rw [hgs]; simp)
  obtain ⟨mode₀, content₀, found₀⟩ := h.sameShape.symm.find_eq_file found
  have hfs : fs.get? l = some (.file mode₀ content₀) := get?_of_find_file found₀
  -- two paths may lead to one file: if it was marked before, it has the bits already
  have now : mode ||| executeBits = mode₀ ||| executeBits ∧ content = content₀ := by
    by_cases same : gs.get? l = fs.get? l
    · rw [hgs, hfs] at same
      cases same
      exact ⟨rfl, rfl⟩
    · obtain ⟨q, -, m, c, found', marked⟩ := h l same
      have hm := (get?_of_find_file found').symm.trans hfs
      rw [hgs] at marked
      cases hm
      cases marked
      exact ⟨by rw [Nat.or_assoc, Nat.or_self], rfl⟩
  obtain ⟨hmode, hcontent⟩ := now
  intro k changed
  by_cases hk : k = l
  · subst hk
    refine ⟨p, built, mode₀, content₀, found₀, ?_⟩
    rw [get?_put gs hl, if_pos rfl, hmode, hcontent]
  · rw [get?_put gs hl, if_neg hk] at changed
    obtain ⟨q, hq, m, c, found', marked⟩ := h k changed
    refine ⟨q, hq, m, c, found', ?_⟩
    rwa [get?_put gs hl, if_neg hk]

theorem fileMode?_eq_some {cwd : Location} {p : Path} {mode : Nat}
    (h : fileMode? fs cwd p = .ok (some mode)) :
    ∃ l content, fs.find cwd true p = .entry l (.file mode content) := by
  unfold fileMode? at h
  obtain ⟨there, hthere, h⟩ := bind_eq_ok h
  split at h
  · cases h
    unfold status at hthere
    split at hthere
    · cases hthere
    · split at hthere
      · cases hthere
        exact ⟨_, _, ‹_›⟩
      · cases hthere
      · split at hthere <;> cases hthere
  · cases h

theorem makeExecutable_onFiles {p : Path} (built : x.IsBuilt fs p) :
    (x.makeExecutable p).OnFiles (x.Marked fs) fun _ => x.Marked fs := by
  unfold makeExecutable
  refine (onFiles_ask _).bind (fun mode => ?_) fun _ _ h => h.1
  split
  · exact onFiles_pure fun _ h => h.1
  · rename_i mode
    have mark : (change x.machine.faults .chmod fun gs =>
        (gs.chmod x.machine.cwd p (mode ||| executeBits)).mapError
          (FileError.onPath · p.toString)).OnFiles
        (fun gs => x.Marked fs gs ∧ Except.ok (some mode) =
          (fileMode? gs x.machine.cwd p).mapError Failure.file)
        fun _ => x.Marked fs := by
      refine onFiles_change (fun gs hs h done => ?_) fun _ _ h => h.1
      obtain ⟨marked, hmode⟩ := h
      obtain ⟨l, content, found⟩ := fileMode?_eq_some (mapError_eq_ok hmode.symm)
      have done := mapError_eq_ok done
      rw [chmod, found] at done
      cases done
      exact marked.chmod built found
    refine mark.bind (fun r => ?_) fun _ _ h => h
    exact (onFiles_orFail _ r).thenReturn true

theorem builtFiles_onFiles {pattern : String}
    (hpattern : pattern ∈ x.config.toolchain.executablePatterns) :
    (x.builtFiles pattern).OnFiles (x.Marked fs) fun r gs =>
      x.Marked fs gs ∧ ∀ found, r = .ok found → ∀ p ∈ found, x.IsBuilt fs p := by
  unfold builtFiles
  split
  · exact onFiles_throw fun _ h => ⟨h, fun _ h => by cases h⟩
  · rename_i ss hss
    -- the search looks at the files as they are by now, which have the same names as those before
    refine (onFiles_ask _).weaken fun r gs ⟨h, hr⟩ => ⟨h, fun found hfound p hp => ?_⟩
    rw [hfound] at hr
    obtain ⟨names, selected, rfl⟩ := selected_of_mem_search (mapError_eq_ok hr.symm) hp
    exact ⟨pattern, hpattern, ss, names, hss, selected.of_sameShape h.sameShape, rfl⟩

/-- Fixing permissions marks built files and changes nothing else, also if it fails on the way. -/
theorem fixPermissions_onFiles : x.fixPermissions.OnFiles (· = fs) fun _ gs => x.Marked fs gs := by
  have pattern : ∀ pattern ∈ x.config.toolchain.executablePatterns,
      (x.fixPattern pattern).OnFiles (x.Marked fs) fun _ => x.Marked fs := by
    intro pattern hpattern
    refine (builtFiles_onFiles hpattern).bind (fun found s hs => ?_) fun _ _ h => h.1
    exact onFiles_filterM (fun p hp => makeExecutable_onFiles (hs.2 found rfl p hp)) s hs.1
  have unmarked : ∀ gs, gs = fs → x.Marked fs gs := fun gs h => h ▸ .refl fs _
  unfold fixPermissions
  refine (onFiles_ask _).bind (fun dir => ?_) fun _ gs h => unmarked gs h.1
  split
  · exact onFiles_pure fun gs h => unmarked gs h.1
  · refine ((onFiles_mapM _ pattern).restrict fun gs h => unmarked gs h.1).bind (fun fixed => ?_)
      fun _ _ h => h
    exact (onFiles_print _).thenReturn _

end Executor

end BuildPilot
