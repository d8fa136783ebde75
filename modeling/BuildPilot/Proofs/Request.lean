import BuildPilot.Proofs.Report

/-!
# Requests

A request is checked as a whole before anything is done for it: one unknown name rejects it, and
the fault tells all names that are unknown. A request that passes is turned into actions once; that
the executor checks their names again changes nothing.
-/

namespace BuildPilot

namespace Action

/-! ## Names -/

/-- Some action has exactly this name. -/
def IsName (s : String) : Prop := ∃ a : Action, a.name = s

theorem name_of_ofName? {s : String} {a : Action} (h : ofName? s = some a) : a.name = s := by
  simpa using List.find?_some h

theorem isName_iff {s : String} : IsName s ↔ (ofName? s).isSome = true := by
  rw [Option.isSome_iff_exists]
  constructor
  · rintro ⟨a, rfl⟩
    exact ⟨a, ofName?_name a⟩
  · rintro ⟨a, ha⟩
    exact ⟨a, name_of_ofName? ha⟩

instance (s : String) : Decidable (IsName s) := decidable_of_iff _ isName_iff.symm

/-- The names in a request that no action has, in order and as often as they occur. -/
def unknownNames (names : List String) : List String := names.filter fun s => ¬ IsName s

theorem filter_isNone_ofName? (names : List String) :
    (names.filter fun s => (ofName? s).isNone) = unknownNames names := by
  refine List.filter_congr fun s _ => ?_
  cases h : ofName? s <;> simp [isName_iff, h]

/-! ## Checking a request -/

theorem validate_of_unknown {names : List String} (h : ∃ s ∈ names, ¬ IsName s) :
    validate names = .error ⟨unknownNames names⟩ := by
  obtain ⟨s, hs, unknown⟩ := h
  have listed : s ∈ unknownNames names := List.mem_filter.mpr ⟨hs, by simpa using unknown⟩
  unfold validate
  dsimp only
  rw [filter_isNone_ofName?, if_neg (by simpa using List.ne_nil_of_mem hs),
    if_neg (by simpa using List.ne_nil_of_mem listed)]

/-- A request without unknown names is a list of actions by name. -/
theorem exists_map_name {names : List String} (h : ∀ s ∈ names, IsName s) :
    ∃ actions : List Action, actions.map name = names := by
  induction names with
  | nil => exact ⟨[], rfl⟩
  | cons s names ih =>
    obtain ⟨a, ha⟩ := h s List.mem_cons_self
    obtain ⟨actions, hactions⟩ := ih fun t ht => h t (List.mem_cons_of_mem s ht)
    exact ⟨a :: actions, by rw [List.map_cons, ha, hactions]⟩

theorem map_name_requested (actions : List Action) :
    (requested actions).map name =
      if (actions.map name).isEmpty then [build.name] else actions.map name := by
  unfold requested
  rw [List.isEmpty_map]
  split <;> rfl

theorem validate_of_known {names : List String} (h : ∀ s ∈ names, IsName s) :
    ∃ actions, validate names = .ok actions ∧
      actions.map name = (if names.isEmpty then [build.name] else names) ∧
      validate (actions.map name) = .ok actions := by
  obtain ⟨actions, rfl⟩ := exists_map_name h
  have valid := validate_names actions
  refine ⟨requested actions, valid, map_name_requested actions, ?_⟩
  rw [validate_names, requested_of_validate valid]

end Action

/-! ## What comes of a request -/

theorem Executor.execute_of_unknown {names : List String} {u : UnknownActions}
    (h : Action.validate names = .error u) (x : Executor) (extra : ExtraArgs) (s : Session) :
    (x.execute names extra).runIn s = (.error (.unknownActions u), s) := by
  unfold execute
  rw [h]
  rfl

namespace CommandLine

/-- The line about an error. -/
def errorLine (message : String) : Printed :=
  { stream := .err, text := "[ERROR] " ++ message ++ "\n" }

theorem run_of_unknown {args : List String} {a : Arguments} {u : UnknownActions}
    (parsed : Arguments.parse args = .ok a) (h : Action.validate a.actions = .error u)
    (m : Machine) (runner : Runner) (s : Session) :
    (run m runner args).runIn s =
      (.ok ⟨statusUsage, false⟩, { s with printed := s.printed ++ [errorLine u.message] }) := by
  have handled : (handle m runner a).runIn s = (.error (.unknownActions u), s) := by
    unfold handle
    dsimp only
    rw [h]
    rfl
  rw [run_of_parse parsed, runIn_runArguments, handled]
  unfold ended report?
  dsimp only
  rw [error_consoleOf]
  rfl

/-- Whatever else a request asks for: if one of its names is unknown, then both the executor and
the program reject it, name exactly the unknown names, and have done nothing else. Any other
request asks for the actions that it names, in order, or for a build if it names none; and checking
the names of these actions again makes no difference. -/
theorem request_checked_first (names : List String) :
    ((∃ s ∈ names, ¬ Action.IsName s) →
      let u : UnknownActions := ⟨Action.unknownNames names⟩
      Action.validate names = .error u ∧
      (∀ (x : Executor) (extra : ExtraArgs) (s : Session),
        (x.execute names extra).runIn s = (.error (.unknownActions u), s)) ∧
      ∀ (m : Machine) (runner : Runner) (args : List String) (a : Arguments) (s : Session),
        Arguments.parse args = .ok a → a.actions = names →
        (run m runner args).runIn s =
          (.ok ⟨2, false⟩, { s with printed := s.printed ++ [errorLine u.message] })) ∧
    ((∀ s ∈ names, Action.IsName s) →
      ∃ actions, Action.validate names = .ok actions ∧
        actions.map Action.name = (if names.isEmpty then [Action.build.name] else names) ∧
        Action.validate (actions.map Action.name) = .ok actions ∧
        ∀ (x : Executor) (extra : ExtraArgs),
          x.execute (actions.map Action.name) extra = x.execute names extra) := by
  refine ⟨fun unknown => ?_, fun known => ?_⟩
  · have rejected := Action.validate_of_unknown unknown
    refine ⟨rejected, fun x extra s => x.execute_of_unknown rejected extra s, ?_⟩
    intro m runner args a s parsed named
    exact run_of_unknown parsed (named ▸ rejected) m runner s
  · obtain ⟨actions, valid, named, again⟩ := Action.validate_of_known known
    refine ⟨actions, valid, named, again, fun x extra => ?_⟩
    unfold Executor.execute
    rw [valid, again]

/-- A slip behind a request to remove the output keeps the output from being removed. -/
theorem request_checked_first_cleanall :
    (run .faultless .none ["cleanall", "tset", "build", "tset"]).runIn { files := .empty } =
      (.ok ⟨2, false⟩, { files := .empty, printed := [errorLine
        ("Unknown build command(s): 'tset', 'tset'. Possible actions: "
          ++ "build, rebuild, clean, cleanall, test, retest, analyze")] }) := by
  have unknown : ∃ s ∈ ["cleanall", "tset", "build", "tset"], ¬ Action.IsName s :=
    ⟨"tset", by simp, by decide⟩
  have parsed : Arguments.parse ["cleanall", "tset", "build", "tset"] = .ok _ := rfl
  obtain ⟨-, -, rejected⟩ := (request_checked_first _).1 unknown
  have text : UnknownActions.message ⟨Action.unknownNames ["cleanall", "tset", "build", "tset"]⟩ =
      "Unknown build command(s): 'tset', 'tset'. Possible actions: "
        ++ "build, rebuild, clean, cleanall, test, retest, analyze" := by
    decide +kernel
  rw [rejected .faultless .none _ _ _ parsed rfl, text]
  rfl

end CommandLine

end BuildPilot
