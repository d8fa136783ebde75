import BuildPilot.Proofs.Layout
import BuildPilot.Proofs.Verbosity

/-!
# Rebuilding and cleaning beside building

A rebuild leaves what a build leaves, if its commands do the same: the same files, and success in the
same cases. A clean leaves what the commands of a build leave; what belongs to a build after its
commands, the permissions of the built files and the published database, is not part of it.
-/

namespace BuildPilot

open FileSystem

namespace Session.Agrees

variable {s t u : Session}

theorem symm (h : s.Agrees t) : t.Agrees s := ⟨h.files.symm, h.clock.symm⟩

theorem trans (h : s.Agrees t) (h' : t.Agrees u) : s.Agrees u :=
  ⟨h.files.trans h'.files, h.clock.trans h'.clock⟩

end Session.Agrees

namespace Act

variable {α β γ : Type}

/-- Started in sessions that agree, both acts succeed with the same value or both fail, and the
sessions agree afterwards. Events, prints and the failures themselves may be others. -/
def Matches (act act' : Act α) : Prop :=
  ∀ s t, s.Agrees t → (act.runIn s).1.toOption = (act'.runIn t).1.toOption ∧
    (act.runIn s).2.Agrees (act'.runIn t).2

theorem Parallel.matches {R : Event → Event → Prop} {act act' : Act α} (h : act.Parallel R act') :
    act.Matches act' := by
  intro s t agree
  obtain ⟨same, agree', -⟩ := h s t agree
  exact ⟨congrArg _ same, agree'⟩

theorem matches_pure (a : α) : Matches (pure a) (pure a) := fun _ _ agree => ⟨rfl, agree⟩

theorem matches_print (ps ps' : List Printed) : Matches (print ps) (print ps') :=
  fun _ _ agree => ⟨rfl, agree.files, agree.clock⟩

theorem Matches.symm {act act' : Act α} (h : act.Matches act') : act'.Matches act := by
  intro s t agree
  obtain ⟨same, agree'⟩ := h t s agree.symm
  exact ⟨same.symm, agree'.symm⟩

theorem Matches.isOk_eq {act act' : Act α} (h : act.Matches act') {s t : Session}
    (agree : s.Agrees t) : (act.runIn s).1.isOk = (act'.runIn t).1.isOk := by
  have isSome (r : Except Failure α) : r.toOption.isSome = r.isOk := by
    cases r <;> rfl
  rw [← isSome, ← isSome, (h s t agree).1]

theorem Matches.bind {act act' : Act α} {f g : α → Act β} (h : act.Matches act')
    (hf : ∀ a, (f a).Matches (g a)) : (act >>= f).Matches (act' >>= g) := by
  intro s t agree
  obtain ⟨same, agree'⟩ := h s t agree
  rw [runIn_bind, runIn_bind]
  match hr : act.runIn s, hr' : act'.runIn t with
  | (.ok a, s'), (.ok b, t') =>
    rw [hr, hr'] at same agree'
    cases same
    exact hf a s' t' agree'
  | (.error e, s'), (.error e', t') =>
    rw [hr, hr'] at agree'
    exact ⟨rfl, agree'⟩
  | (.ok a, s'), (.error e', t') =>
    rw [hr, hr'] at same
    cases same
  | (.error e, s'), (.ok b, t') =>
    rw [hr, hr'] at same
    cases same

theorem matches_forM {P : β → γ → Prop} {f : β → Act Unit} {g : γ → Act Unit}
    (h : ∀ b c, P b c → (f b).Matches (g c)) {l : List β} {l' : List γ} (hl : l.Forall₂ P l') :
    (l.forM f).Matches (l'.forM g) := by
  induction hl with
  | nil => exact matches_pure ()
  | cons hbc _ ih => exact (h _ _ hbc).bind fun _ => ih

end Act

/-- Whenever it is asked, the runner does the same for both steps: it leaves the same files, and it
succeeds for both or for neither. -/
def Runner.AnswersAlike (runner : Runner) (step step' : Step) : Prop :=
  ∀ clock fs,
    (runner.run clock fs step.request).files = (runner.run clock fs step'.request).files ∧
      (runner.run clock fs step.request).result.isOk =
        (runner.run clock fs step'.request).result.isOk

namespace Executor

open Act

variable {x : Executor} {extra : ExtraArgs}

theorem matches_undertake_run {step step' : Step} (alike : x.runner.AnswersAlike step step') :
    (x.undertake (.run step)).Matches (x.undertake (.run step')) := by
  intro s t agree
  obtain ⟨files, ends⟩ := alike t.clock t.files
  unfold undertake operation
  rw [runIn_undertaking, runIn_undertaking, runIn_bind, runIn_bind, runIn_command, runIn_command,
    agree.files, agree.clock]
  dsimp only
  cases h : (x.runner.run t.clock t.files step.request).result with
  | ok o =>
    cases h' : (x.runner.run t.clock t.files step'.request).result with
    | ok o' => exact ⟨rfl, files, rfl⟩
    | error e' =>
      rw [h, h'] at ends
      cases ends
  | error e =>
    cases h' : (x.runner.run t.clock t.files step'.request).result with
    | ok o' =>
      rw [h, h'] at ends
      cases ends
    | error e' => exact ⟨rfl, files, rfl⟩

theorem matches_runStep {step step' : Step} (alike : x.runner.AnswersAlike step step') :
    (x.runStep step).Matches (x.runStep step') :=
  (matches_print _ _).bind fun _ => matches_undertake_run alike

theorem matches_runSteps (x : Executor) {a b : Action}
    (numbers : x.config.ownNumbers x.machine.processors a =
      x.config.ownNumbers x.machine.processors b)
    (alike : (x.config.ownSteps extra x.machine.processors a).Forall₂ x.runner.AnswersAlike
      (x.config.ownSteps extra x.machine.processors b)) :
    (x.runSteps extra a).Matches (x.runSteps extra b) := by
  unfold runSteps Configuration.ownSteps?
  rw [numbers]
  by_cases fits : (x.config.ownNumbers x.machine.processors b).all Numeric.isWritable = true
  · rw [if_pos fits, if_pos fits]
    exact matches_forM (fun _ _ h => matches_runStep h) alike
  · rw [if_neg fits, if_neg fits]
    exact fun s t agree => ⟨rfl, agree.files, agree.clock⟩

/-- What follows the commands of a build does not depend on whether the build was verbose. -/
theorem matches_afterBuild (x : Executor) : x.afterBuild.Matches x.afterBuild :=
  (show x.quiet.afterBuild.Parallel (Event.Louder ({} : ExtraArgs).native)
      (x.loud x.runner x.console).afterBuild from parallel_afterBuild).matches

/-- If its commands are answered like those of a build, a rebuild leaves the files that a build
leaves, and succeeds if a build does. A clean whose commands are answered so fails if they do, and
then a build fails too and leaves the same files; if the clean succeeds, a build ends as what belongs
to a build after its commands does from where the clean has ended. -/
theorem rebuild_and_clean_beside_build (x : Executor) (extra : ExtraArgs) (s : Session) :
    let run (a : Action) := (x.execute [a.name] extra).runIn s
    let steps := x.config.ownSteps extra x.machine.processors
    let alike (a : Action) := (steps .build).Forall₂ x.runner.AnswersAlike (steps a)
    (alike .rebuild → (run .rebuild).2.files = (run .build).2.files ∧
      (run .rebuild).1.isOk = (run .build).1.isOk) ∧
    (alike .clean →
      ((run .clean).1.isOk = false →
        (run .build).2.files = (run .clean).2.files ∧ (run .build).1.isOk = false) ∧
      ((run .clean).1.isOk = true → let after := x.afterBuild.runIn (run .clean).2
        (run .build).2.files = after.2.files ∧ (run .build).1.isOk = after.1.isOk)) := by
  intro run steps alike
  -- each run ends as carrying out its action does, from sessions that agree
  have single (a : Action) : ∃ t, t.Agrees s ∧
      (run a).1.isOk = ((x.carryOut extra a).runIn t).1.isOk ∧
      (run a).2 = ((x.carryOut extra a).runIn t).2 := by
    obtain ⟨t, files, clock, ended⟩ := x.runIn_execute_single a extra s
    refine ⟨t, ⟨files, clock⟩, ?_, congrArg Prod.snd ended⟩
    change ((x.execute [a.name] extra).runIn s).1.isOk = _
    rw [ended]
    exact isOk_map _ _
  obtain ⟨t, start, ended, left⟩ := single .build
  refine ⟨fun same => ?_, fun same => ?_⟩
  · obtain ⟨t', start', ended', left'⟩ := single .rebuild
    have commands : (x.runSteps extra .build).Matches (x.runSteps extra .rebuild) :=
      x.matches_runSteps rfl same
    have goes : (x.rebuild extra).Matches (x.build extra) :=
      commands.symm.bind fun _ => x.matches_afterBuild
    have agree := start'.trans start.symm
    rw [left', left, ended', ended]
    exact ⟨(goes t' t agree).2.files, goes.isOk_eq agree⟩
  · obtain ⟨t', start', ended', left'⟩ := single .clean
    have commands : (x.runSteps extra .build).Matches (x.runSteps extra .clean) :=
      x.matches_runSteps rfl same
    obtain ⟨ends, agree⟩ := commands t t' (start.trans start'.symm)
    rw [ended, left, ended', left', carryOut, carryOut, build, runIn_bind]
    -- the commands end alike; only if they succeed does the build go on
    match (x.runSteps extra .build).runIn t, (x.runSteps extra .clean).runIn t', ends, agree with
    | (.ok (), u), (.ok (), u'), _, agree =>
      have goes := x.matches_afterBuild
      exact ⟨nofun, fun _ => ⟨(goes u u' agree).2.files, goes.isOk_eq agree⟩⟩
    | (.error e, u), (.error e', u'), _, agree => exact ⟨fun _ => ⟨agree.files, rfl⟩, nofun⟩

/-- A runner that notes every command answers all of them alike. -/
theorem answersAlike_recording (step step' : Step) : Runner.recording.AnswersAlike step step' :=
  fun _ _ => ⟨rfl, rfl⟩

/-- A cross build, and what its commands have left. -/
def crossBuilder : Executor :=
  ⟨{ retesting with
      toolchain := Registry.msvcWsl
      buildDir := ⟨.root, ["p", "build", "msvc_wsl", "Debug"]⟩ },
    .recording, {}, false, .faultless⟩

/-- A tool and a database in the build directory. -/
def crossBuilt : FileSystem :=
  ⟨[(["p"], .dir), (["p", "build"], .dir), (["p", "build", "msvc_wsl"], .dir),
    (["p", "build", "msvc_wsl", "Debug"], .dir),
    (["p", "build", "msvc_wsl", "Debug", "tool.exe"], .file 0o644 [0x78]),
    (["p", "build", "msvc_wsl", "Debug", databaseName], .file 0o644 [0x5b, 0x5d])]⟩

theorem alike_crossBuilder (a : Action) (build : a = .rebuild ∨ a = .clean) :
    (crossBuilder.config.ownSteps {} crossBuilder.machine.processors .build).Forall₂
      crossBuilder.runner.AnswersAlike
      (crossBuilder.config.ownSteps {} crossBuilder.machine.processors a) := by
  rcases build with rfl | rfl <;>
    exact .cons (answersAlike_recording _ _) (.cons (answersAlike_recording _ _) .nil)

theorem rebuild_and_clean_beside_build_crossBuilt :
    let run (a : Action) := (crossBuilder.execute [a.name] {}).runIn { files := crossBuilt }
    (run .rebuild).2.files = (run .build).2.files ∧
      (run .rebuild).1.isOk = (run .build).1.isOk ∧
      (run .build).2.files = (crossBuilder.afterBuild.runIn (run .clean).2).2.files := by
  intro run
  obtain ⟨rebuild, clean⟩ :=
    rebuild_and_clean_beside_build crossBuilder {} { files := crossBuilt }
  have rebuilt := rebuild (alike_crossBuilder .rebuild (.inl rfl))
  have cleaned := clean (alike_crossBuilder .clean (.inr rfl))
  exact ⟨rebuilt.1, rebuilt.2, (cleaned.2 (by decide +kernel)).1⟩

/-- A clean that succeeds publishes no database and leaves the built files as they are, although its
commands do what those of a build do. -/
theorem clean_leaves_other_files :
    let run (a : Action) := (crossBuilder.execute [a.name] {}).runIn { files := crossBuilt }
    let tool := ["p", "build", "msvc_wsl", "Debug", "tool.exe"]
    (crossBuilder.config.ownSteps {} crossBuilder.machine.processors .build).Forall₂
      crossBuilder.runner.AnswersAlike
      (crossBuilder.config.ownSteps {} crossBuilder.machine.processors .clean) ∧
    (run .build).1.isOk = true ∧ (run .clean).1.isOk = true ∧
    (run .build).2.files.get? ["p", databaseName] =
      some (.link "/p/build/msvc_wsl/Debug/compile_commands.json") ∧
    (run .clean).2.files.get? ["p", databaseName] = none ∧
    (run .build).2.files.get? tool = some (.file 0o755 [0x78]) ∧
    (run .clean).2.files.get? tool = some (.file 0o644 [0x78]) := by
  intro run tool
  refine ⟨alike_crossBuilder .clean (.inr rfl), ?_, ?_, ?_, ?_, ?_, ?_⟩ <;> decide +kernel

end Executor

end BuildPilot
