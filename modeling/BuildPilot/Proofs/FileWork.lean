import BuildPilot.Executor
import BuildPilot.Proofs.Act

/-!
# Work on files

Removing the output, making built files executable and publishing the database keep to every rule
that leaves the files free and lets remarks be printed. A remark is output of a command that is
handed on, or a line that is neither an error nor the message about a run that succeeded.
-/

namespace BuildPilot

open FileSystem

/-! ## Remarks -/

/-- A text starts neither like an error nor like the message about a run that succeeded. -/
def IsRemarkText (s : String) : Prop := ¬ ['A'] <+: s.toList ∧ ¬ ['[', 'E'] <+: s.toList

/-- A printed text says nothing about how a run ended. -/
def Printed.IsRemark (p : Printed) : Prop := p.forwarded = true ∨ IsRemarkText p.text

/-- From `s` to `t`, nothing but remarks were printed. -/
def Session.RemarksTo (s t : Session) : Prop :=
  ∃ ps, t.printed = s.printed ++ ps ∧ ∀ p ∈ ps, p.IsRemark

namespace Session.RemarksTo

variable {s t u : Session}

theorem refl (s : Session) : s.RemarksTo s := ⟨[], by simp⟩

theorem trans (h : s.RemarksTo t) (h' : t.RemarksTo u) : s.RemarksTo u := by
  obtain ⟨ps, ht, hps⟩ := h
  obtain ⟨ps', hu, hps'⟩ := h'
  refine ⟨ps ++ ps', ?_, fun p hp => ?_⟩
  · rw [hu, ht, List.append_assoc]
  · exact (List.mem_append.mp hp).elim (hps p) (hps' p)

end Session.RemarksTo

namespace Console

variable {c : Console} {s : String}

theorem isRemark_line {stream : Stream} (h : IsRemarkText s) : ∀ p ∈ line stream s, p.IsRemark := by
  intro p hp
  rw [line, List.mem_singleton] at hp
  subst hp
  right
  unfold IsRemarkText at h ⊢
  rw [String.toList_append, show "\n".toList = ['\n'] from rfl, List.prefix_concat_iff,
    List.prefix_concat_iff]
  refine ⟨?_, ?_⟩
  · rintro (heq | hp)
    · cases hs : s.toList <;> simp [hs] at heq
    · exact h.1 hp
  · rintro (heq | hp)
    · have := congrArg List.getLast? heq
      simp at this
    · exact h.2 hp

theorem isRemark_debug : ∀ p ∈ c.debug s, p.IsRemark := by
  unfold debug
  split
  · exact isRemark_line (by simp [IsRemarkText])
  · simp

theorem isRemark_warning : ∀ p ∈ c.warning s, p.IsRemark := by
  unfold warning
  split
  · exact isRemark_line (by simp [IsRemarkText])
  · simp

theorem isRemark_dry : ∀ p ∈ c.dry s, p.IsRemark := by
  unfold dry
  split
  · exact isRemark_line (by simp [IsRemarkText])
  · simp

theorem isRemark_info (h : IsRemarkText s) : ∀ p ∈ c.info s, p.IsRemark := by
  unfold info
  split
  · exact isRemark_line h
  · simp

end Console

namespace Executor

variable {x : Executor}

theorem isRemark_announce (step : Step) : ∀ p ∈ x.announce step, p.IsRemark := by
  unfold announce
  dsimp only
  split
  · exact Console.isRemark_dry
  · intro p hp
    rcases List.mem_append.mp hp with hp | hp
    · exact Console.isRemark_info (by simp [IsRemarkText]) p hp
    · exact Console.isRemark_debug p hp

end Executor

/-! ## Rules that leave the files free -/

/-- A rule lets the acts of an executor change the files as they like, print remarks, and fail over
files and over patterns of the toolchain. -/
structure Rule.FreesFiles (ρ : Rule) (x : Executor) : Prop where
  print : ∀ s ps, (∀ p ∈ ps, p.IsRemark) → ρ.follows s { s with printed := s.printed ++ ps }
  files : ∀ s fs n, ρ.follows s { s with files := fs, clock := n }
  file : ∀ e, ρ.allows (.file e)
  pattern : ∀ pattern ∈ x.config.toolchain.executablePatterns, ∀ fault,
    selectorsOf pattern = .error fault → ρ.allows (.pattern fault)

namespace Act

variable {ρ : Rule} {x : Executor}

theorem keepsTo_print (hρ : ρ.FreesFiles x) {ps : List Printed} (h : ∀ p ∈ ps, p.IsRemark) :
    (print ps).KeepsTo ρ :=
  fun s => ⟨hρ.print s ps h, fun _ he => by cases he⟩

end Act

namespace Executor

open Act

variable {x : Executor} {ρ : Rule}

theorem keepsTo_changeLeaving (hρ : ρ.FreesFiles x) (left : Nat → FileSystem → FileSystem)
    (op : Operation) (f : FileSystem → Except FileError FileSystem) :
    (changeLeaving left x.machine.faults op f).KeepsTo ρ :=
  Act.keepsTo_changeLeaving (fun s fs => hρ.files s fs _) left _ op f

theorem keepsTo_change (hρ : ρ.FreesFiles x) (op : Operation)
    (f : FileSystem → Except FileError FileSystem) : (change x.machine.faults op f).KeepsTo ρ :=
  keepsTo_changeLeaving hρ _ op f

theorem keepsTo_removeOutput (hρ : ρ.FreesFiles x) : x.removeOutput.KeepsTo ρ := by
  unfold removeOutput
  refine (keepsTo_ask hρ.file _).bind fun there => ?_
  split
  · exact keepsTo_print hρ Console.isRemark_debug
  · refine (keepsTo_print hρ (Console.isRemark_info ?_)).bind fun _ => ?_
    · simp [IsRemarkText, toString]
    · exact (keepsTo_changeLeaving hρ _ _ _).bind fun r => keepsTo_orFail hρ.file r

theorem keepsTo_builtFiles (hρ : ρ.FreesFiles x) {pattern : String}
    (known : pattern ∈ x.config.toolchain.executablePatterns) :
    (x.builtFiles pattern).KeepsTo ρ := by
  unfold builtFiles
  split
  · exact keepsTo_throw (hρ.pattern pattern known _ ‹_›)
  · exact keepsTo_ask hρ.file _

theorem keepsTo_makeExecutable (hρ : ρ.FreesFiles x) (p : Path) :
    (x.makeExecutable p).KeepsTo ρ := by
  unfold makeExecutable
  refine (keepsTo_ask hρ.file _).bind fun mode => ?_
  split
  · exact keepsTo_pure false
  · refine (keepsTo_change hρ _ _).bind fun r => ?_
    exact (keepsTo_orFail hρ.file r).bind fun _ => keepsTo_pure true

theorem keepsTo_fixPattern (hρ : ρ.FreesFiles x) {pattern : String}
    (known : pattern ∈ x.config.toolchain.executablePatterns) :
    (x.fixPattern pattern).KeepsTo ρ :=
  (keepsTo_builtFiles hρ known).bind fun found =>
    keepsTo_filterM (keepsTo_makeExecutable hρ) found

theorem keepsTo_fixPermissions (hρ : ρ.FreesFiles x) : x.fixPermissions.KeepsTo ρ := by
  unfold fixPermissions
  refine (keepsTo_ask hρ.file _).bind fun dir => ?_
  split
  · exact keepsTo_pure []
  · refine (keepsTo_mapM _ fun pattern known => keepsTo_fixPattern hρ known).bind fun fixed => ?_
    exact (keepsTo_print hρ Console.isRemark_debug).bind fun _ => keepsTo_pure _

theorem keepsTo_placeDatabase (hρ : ρ.FreesFiles x) : x.placeDatabase.KeepsTo ρ := by
  unfold placeDatabase
  dsimp only
  split
  · exact keepsTo_change hρ _ _
  · refine (keepsTo_change hρ _ _).bind fun linked => ?_
    split
    · exact keepsTo_pure _
    · exact keepsTo_change hρ _ _

theorem keepsTo_freeTarget (hρ : ρ.FreesFiles x) : x.freeTarget.KeepsTo ρ := by
  unfold freeTarget
  refine (keepsTo_look _ _ _).bind fun occupied => ?_
  split
  · exact keepsTo_pure _
  · exact keepsTo_pure _
  · exact keepsTo_change hρ _ _

theorem keepsTo_replaceDatabase (hρ : ρ.FreesFiles x) : x.replaceDatabase.KeepsTo ρ := by
  unfold replaceDatabase
  refine (keepsTo_look _ _ _).bind fun there => ?_
  split
  · exact keepsTo_pure _
  · exact keepsTo_pure _
  · refine (keepsTo_freeTarget hρ).bind fun freed => ?_
    split
    · exact keepsTo_pure _
    · exact (keepsTo_placeDatabase hρ).bind fun r => keepsTo_pure _

theorem keepsTo_publish (hρ : ρ.FreesFiles x) : x.publish.KeepsTo ρ := by
  unfold publish
  refine (keepsTo_replaceDatabase hρ).bind fun r => ?_
  split
  · exact (keepsTo_print hρ Console.isRemark_warning).bind fun _ => keepsTo_pure none
  · exact (keepsTo_print hρ Console.isRemark_warning).bind fun _ => keepsTo_pure none
  · exact (keepsTo_print hρ Console.isRemark_debug).bind fun _ => keepsTo_pure _

/-- What is done for a task keeps to a rule that leaves the files free, if running its command
does. -/
theorem keepsTo_operation (hρ : ρ.FreesFiles x) (t : Task)
    (number : t = .giveUp → ρ.allows .longNumber)
    (runs : ∀ step, t = .run step → (command x.runner step.request).KeepsTo ρ) :
    (x.operation t).KeepsTo ρ := by
  cases t with
  | run step => exact (runs step rfl).bind fun o => keepsTo_pure (some o)
  | fixPermissions =>
    exact (keepsTo_fixPermissions hρ).discard.bind fun _ => keepsTo_pure none
  | publish => exact (keepsTo_publish hρ).discard.bind fun _ => keepsTo_pure none
  | removeOutput => exact (keepsTo_removeOutput hρ).bind fun _ => keepsTo_pure none
  | giveUp => exact keepsTo_throw (number rfl)

/-! ## Whole runs -/

theorem keepsTo_runSteps (hρ : ρ.FreesFiles x) (h : ∀ t, (x.undertake t).KeepsTo ρ)
    (extra : ExtraArgs) (a : Action) : (x.runSteps extra a).KeepsTo ρ := by
  unfold runSteps
  split
  · refine keepsTo_forM (fun step => ?_) _
    exact (keepsTo_print hρ (isRemark_announce step)).bind fun _ => h (.run step)
  · exact h .giveUp

theorem keepsTo_afterBuild (h : ∀ t, (x.undertake t).KeepsTo ρ) : x.afterBuild.KeepsTo ρ := by
  unfold afterBuild
  split
  · exact keepsTo_pure ()
  · dsimp only
    split
    · exact (h .fixPermissions).bind fun _ => h .publish
    · exact h .publish

theorem keepsTo_cleanall (hρ : ρ.FreesFiles x) (h : ∀ t, (x.undertake t).KeepsTo ρ) :
    x.cleanall.KeepsTo ρ := by
  unfold cleanall
  split
  · exact keepsTo_print hρ Console.isRemark_dry
  · exact h .removeOutput

/-- Carrying out an action keeps to a rule if undertaking tasks does. -/
theorem keepsTo_carryOut (hρ : ρ.FreesFiles x) (h : ∀ t, (x.undertake t).KeepsTo ρ)
    (extra : ExtraArgs) (a : Action) : (x.carryOut extra a).KeepsTo ρ := by
  have steps := keepsTo_runSteps hρ h extra
  have build : (x.build extra).KeepsTo ρ := (steps .build).bind fun _ => keepsTo_afterBuild h
  cases a with
  | build => exact build
  | rebuild => exact (steps .rebuild).bind fun _ => keepsTo_afterBuild h
  | clean => exact steps .clean
  | cleanall => exact keepsTo_cleanall hρ h
  | test => exact build.bind fun _ => steps .test
  | retest => exact steps .retest
  | analyze => exact build.bind fun _ => steps .analyze

theorem keepsTo_runActions (hρ : ρ.FreesFiles x) (h : ∀ t, (x.undertake t).KeepsTo ρ)
    (extra : ExtraArgs) (actions : List Action) : (actions.forM (x.runAction extra)).KeepsTo ρ :=
  keepsTo_forM (fun a => (keepsTo_print hρ Console.isRemark_debug).bind fun _ =>
    keepsTo_carryOut hρ h extra a) actions

end Executor

end BuildPilot
