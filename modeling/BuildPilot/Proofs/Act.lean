import BuildPilot.Session

/-!
# Running acts

What an act comes to in a session, by the way in which the act is built, and rules that acts keep
to: how the session after an act is related to the session before it, and which failures may end
the act.
-/

namespace BuildPilot

open FileSystem

namespace Act

variable {α β : Type}

/-! ## Acts in a session -/

theorem runIn_pure (a : α) (s : Session) : (pure a : Act α).runIn s = (.ok a, s) := rfl

theorem runIn_throw (e : Failure) (s : Session) :
    (throw e : Act α).runIn s = (.error e, s) := rfl

theorem runIn_get (s : Session) : (get : Act Session).runIn s = (.ok s, s) := rfl

theorem runIn_set (t s : Session) : (set t : Act Unit).runIn s = (.ok (), t) := rfl

theorem runIn_bind (act : Act α) (f : α → Act β) (s : Session) :
    (act >>= f).runIn s = match act.runIn s with
      | (.ok a, t) => (f a).runIn t
      | (.error e, t) => (.error e, t) := by
  change (ExceptT.bindCont f (act s).1) (act s).2 = match act s with
    | (.ok a, t) => f a t
    | (.error e, t) => (.error e, t)
  obtain ⟨r, t⟩ := act s
  cases r <;> rfl

theorem runIn_bind_ok {act : Act α} {s t : Session} {a : α} (h : act.runIn s = (.ok a, t))
    (f : α → Act β) : (act >>= f).runIn s = (f a).runIn t := by
  rw [runIn_bind, h]

theorem runIn_bind_error {act : Act α} {s t : Session} {e : Failure}
    (h : act.runIn s = (.error e, t)) (f : α → Act β) :
    (act >>= f).runIn s = (.error e, t) := by
  rw [runIn_bind, h]

theorem discard_eq_bind (act : Act α) : discard act = act >>= fun _ => pure () := by
  rw [bind_pure_comp]
  rfl

theorem runIn_tryCatch (act : Act α) (handler : Failure → Act α) (s : Session) :
    (tryCatch act handler).runIn s = match act.runIn s with
      | (.ok a, t) => (.ok a, t)
      | (.error e, t) => (handler e).runIn t := by
  simp only [runIn, tryCatch, tryCatchThe, MonadExceptOf.tryCatch, ExceptT.tryCatch, ExceptT.run,
    ExceptT.mk, StateT.run, bind, StateT.bind]
  cases act s with
  | mk r t => cases r <;> rfl

theorem runIn_print (ps : List Printed) (s : Session) :
    (print ps).runIn s = (.ok (), { s with printed := s.printed ++ ps }) := rfl

theorem runIn_undertaking (t : Task) (act : Act (Option Command.Outcome)) (s : Session) :
    (undertaking t act).runIn s =
      ((act.runIn s).1.map fun _ => (), { (act.runIn s).2 with
        events := (act.runIn s).2.events ++
          [⟨t, s.files, (act.runIn s).2.files, (act.runIn s).1⟩] }) := rfl

theorem runIn_command (runner : Runner) (r : Request) (s : Session) :
    let reply := runner.run s.clock s.files r
    (command runner r).runIn s = (reply.result, { s with
      files := reply.files
      clock := s.clock + 1
      printed := s.printed ++ reply.lines.map (Printed.mk .out · true)
      noted := s.noted ++ reply.noted }) := by
  intro reply
  unfold command
  rw [runIn_bind_ok (runIn_get s)]
  dsimp only
  rw [runIn_bind_ok (runIn_set _ s)]
  cases (runner.run s.clock s.files r).result <;> rfl

/-- A fault gives no result, so the result of an attempt is that of the operation itself. -/
theorem eq_of_attempt {faults : Faults} {n : Nat} {op : Operation} {result : Except FileError α}
    {a : α} (h : faults.attempt n op result = .ok a) : result = .ok a := by
  unfold Faults.attempt at h
  split at h
  · cases h
  · exact h

theorem runIn_look (faults : Faults) (op : Operation) (f : FileSystem → Except FileError α)
    (s : Session) :
    (look faults op f).runIn s = (.ok (faults.attempt s.clock op (f s.files)), s) := by
  unfold look
  rw [runIn_bind_ok (runIn_get s)]
  rfl

theorem runIn_ask_of_ok {f : FileSystem → Except FileError α} {s : Session} {a : α}
    (h : f s.files = .ok a) : (ask f).runIn s = (.ok a, s) := by
  unfold ask
  rw [runIn_bind_ok (runIn_get s), h]
  rfl

theorem runIn_ask_of_error {f : FileSystem → Except FileError α} {s : Session} {e : FileError}
    (h : f s.files = .error e) : (ask f).runIn s = (.error (.file e), s) := by
  unfold ask
  rw [runIn_bind_ok (runIn_get s), h]
  rfl

/-- An attempted change never fails the run by itself, and it touches the files and the clock
only. -/
theorem runIn_changeLeaving (left : Nat → FileSystem → FileSystem) (faults : Faults)
    (op : Operation) (f : FileSystem → Except FileError FileSystem) (s : Session) :
    ∃ r fs, (changeLeaving left faults op f).runIn s =
      (.ok r, { s with files := fs, clock := s.clock + 1 }) := by
  unfold changeLeaving
  rw [runIn_bind, runIn_get]
  dsimp only
  split
  · exact ⟨_, _, rfl⟩
  · exact ⟨_, _, rfl⟩

end Act

/-! ## Rules -/

/-- A rule for acts: which session may follow on which, and which failures may end an act. -/
structure Rule where
  follows : Session → Session → Prop
  allows : Failure → Prop
  refl : ∀ s, follows s s
  trans : ∀ {s t u}, follows s t → follows t u → follows s u

namespace Act

variable {α β : Type} {ρ : Rule}

/-- An act keeps to a rule if it does so in every session. -/
def KeepsTo (act : Act α) (ρ : Rule) : Prop :=
  ∀ s, ρ.follows s (act.runIn s).2 ∧ ∀ e, (act.runIn s).1 = .error e → ρ.allows e

theorem keepsTo_pure (a : α) : (pure a : Act α).KeepsTo ρ :=
  fun s => ⟨ρ.refl s, fun _ h => by cases h⟩

theorem keepsTo_throw {e : Failure} (h : ρ.allows e) : (throw e : Act α).KeepsTo ρ :=
  fun s => ⟨ρ.refl s, fun _ he => by cases he; exact h⟩

theorem keepsTo_get : (get : Act Session).KeepsTo ρ :=
  fun s => ⟨ρ.refl s, fun _ h => by cases h⟩

theorem KeepsTo.bind {act : Act α} {f : α → Act β} (h : act.KeepsTo ρ)
    (hf : ∀ a, (f a).KeepsTo ρ) : (act >>= f).KeepsTo ρ := by
  intro s
  obtain ⟨step, fails⟩ := h s
  rw [runIn_bind]
  match hr : act.runIn s with
  | (.ok a, t) =>
    rw [hr] at step
    obtain ⟨step', fails'⟩ := hf a t
    exact ⟨ρ.trans step step', fails'⟩
  | (.error e, t) =>
    rw [hr] at step fails
    exact ⟨step, fun e' he => by cases he; exact fails e rfl⟩

theorem KeepsTo.discard {act : Act α} (h : act.KeepsTo ρ) : (discard act).KeepsTo ρ := by
  rw [discard_eq_bind]
  exact h.bind fun _ => keepsTo_pure ()

theorem keepsTo_forM {f : β → Act Unit} (h : ∀ b, (f b).KeepsTo ρ) :
    ∀ l : List β, (l.forM f).KeepsTo ρ
  | [] => keepsTo_pure ()
  | b :: l => (h b).bind fun _ => keepsTo_forM h l

theorem keepsTo_mapM {f : β → Act α} :
    ∀ l : List β, (∀ b ∈ l, (f b).KeepsTo ρ) → (l.mapM f).KeepsTo ρ
  | [], _ => by
    rw [List.mapM_nil]
    exact keepsTo_pure []
  | b :: l, h => by
    rw [List.mapM_cons]
    have rest := keepsTo_mapM l fun b' hb' => h b' (List.mem_cons_of_mem b hb')
    exact (h b List.mem_cons_self).bind fun _ => rest.bind fun _ => keepsTo_pure _

theorem keepsTo_filterAuxM {f : β → Act Bool} (h : ∀ b, (f b).KeepsTo ρ) :
    ∀ l acc : List β, (l.filterAuxM f acc).KeepsTo ρ
  | [], acc => keepsTo_pure acc
  | b :: l, acc => (h b).bind fun y => keepsTo_filterAuxM h l (cond y (b :: acc) acc)

theorem keepsTo_filterM {f : β → Act Bool} (h : ∀ b, (f b).KeepsTo ρ) (l : List β) :
    (l.filterM f).KeepsTo ρ :=
  (keepsTo_filterAuxM h l []).bind fun found => keepsTo_pure found.reverse

theorem keepsTo_orFail {failure : FileError → Failure} (h : ∀ e, ρ.allows (failure e)) :
    ∀ r : Except FileError α, (orFail failure r).KeepsTo ρ
  | .ok a => keepsTo_pure a
  | .error e => keepsTo_throw (h e)

theorem keepsTo_ask (h : ∀ e, ρ.allows (.file e)) (f : FileSystem → Except FileError α) :
    (ask f).KeepsTo ρ :=
  keepsTo_get.bind fun s => keepsTo_orFail h (f s.files)

theorem keepsTo_look (faults : Faults) (op : Operation) (f : FileSystem → Except FileError α) :
    (look faults op f).KeepsTo ρ :=
  keepsTo_get.bind fun _ => keepsTo_pure _

theorem keepsTo_undertaking {act : Act (Option Command.Outcome)} (h : act.KeepsTo ρ)
    (hevents : ∀ s t es, ρ.follows s t → ρ.follows s { t with events := es }) (t : Task) :
    (undertaking t act).KeepsTo ρ := by
  intro s
  obtain ⟨step, fails⟩ := h s
  rw [runIn_undertaking]
  refine ⟨hevents _ _ _ step, fun e he => ?_⟩
  cases hr : (act.runIn s).1 with
  | ok o =>
    rw [hr] at he
    cases he
  | error e' =>
    rw [hr] at he
    cases he
    exact fails e hr

theorem keepsTo_changeLeaving
    (h : ∀ s fs, ρ.follows s { s with files := fs, clock := s.clock + 1 })
    (left : Nat → FileSystem → FileSystem) (faults : Faults) (op : Operation)
    (f : FileSystem → Except FileError FileSystem) :
    (changeLeaving left faults op f).KeepsTo ρ := by
  intro s
  obtain ⟨r, fs, hr⟩ := runIn_changeLeaving left faults op f s
  rw [hr]
  exact ⟨h s fs, fun _ he => by cases he⟩

end Act

end BuildPilot
