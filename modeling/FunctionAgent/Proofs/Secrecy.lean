import FunctionAgent.Broker.Account
import FunctionAgent.Proofs.Ledger
import FunctionAgent.Proofs.Redaction
/-!
# No secret is told

Two runs in which the others do the same, but for the values of tokens and the session information
of calls, are one run when these secrets are struck out (`World.replay_redact`). So all that is told
of them is the same: what is reported and at what time, how each message reads in a log, which
functions the executor is asked to start, the phases, and how the work ends. What shows a slot of a
token, a session or an account for inspection does not tell a secret either.
-/

set_option autoImplicit false

namespace FunctionAgent.Agent

def Beat.redact (b : Beat) : Beat := ⟨b.before.redact, b.act.map Act.redact, b.move.redact⟩

def Record.redact (r : Record) : Record := { r with happening := r.happening.redact }

/-- Steps with the secrets struck out of what the others do. -/
def redactActs (acts : List (Option Act)) : List (Option Act) := acts.map (Option.map Act.redact)

/-- How a message that was written reads in a log, with what became of it. -/
def Record.text? (r : Record) : Option (Nat × Nat × String × Except WriteFault Unit) :=
  r.written?.map fun (time, i, message, result) => (time, i, message.render, result)

/-- The envelope of a message that was written, without its secrets. -/
def Record.envelope? (r : Record) : Option (Nat × Nat × Update × Except WriteFault Unit) :=
  r.written?.map fun (time, i, message, result) => (time, i, message.toUpdate.redact, result)

/-- The id of a function that the executor was asked to start. -/
def Record.startId? (r : Record) : Option (Nat × Uuid) :=
  r.start?.map fun (time, f, _) => (time, f.id)

/-- Two runs of which the same is told. -/
structure Indistinct (beats beats' : List Beat) (v v' : World) : Prop where
  events : (recordsOf beats).filterMap Record.event? = (recordsOf beats').filterMap Record.event?
  texts : (recordsOf beats).filterMap Record.text? = (recordsOf beats').filterMap Record.text?
  starts : (recordsOf beats).filterMap Record.startId? =
    (recordsOf beats').filterMap Record.startId?
  openings : (recordsOf beats).filterMap Record.opening? =
    (recordsOf beats').filterMap Record.opening?
  phases : (recordsOf beats).filterMap Record.phase? = (recordsOf beats').filterMap Record.phase?
  envelopes : (recordsOf beats).filterMap Record.envelope? =
    (recordsOf beats').filterMap Record.envelope?
  result : v.outcome? = v'.outcome?
  /-- Nothing else differs in the end either. -/
  left : v.redact = v'.redact

/-- Nothing is told of a secret in any run from a state on, be it a secret that the state holds or
one that is let in later. -/
structure Discreet (w : World) : Prop where
  /-- Whether a run is possible does not depend on the secrets. -/
  possible : ∀ (w' : World) acts acts', w.redact = w'.redact → redactActs acts = redactActs acts' →
    (w.replay acts).isSome = (w'.replay acts').isSome
  same : ∀ (w' : World) acts acts' beats beats' v v', w.redact = w'.redact →
    redactActs acts = redactActs acts' → w.replay acts = some (beats, v) →
      w'.replay acts' = some (beats', v') → Indistinct beats beats' v v'

/-- Nothing is told of a secret by what is shown for inspection. -/
structure Masked : Prop where
  bearer : ∀ token token' : String, Bearer.render (some token) = Bearer.render (some token')
  session : ∀ s s' : Session, s.redact = s'.redact → s.render = s'.render
  account : ∀ (account : Account) (secret : String),
    { account with clientSecret := secret }.render = account.render

section Runs

variable {w v v' : World} {beats beats' : List Beat} {acts acts' : List (Option Act)}

/-- With the secrets struck out a run is the run of what the others do without them. -/
theorem World.replay_redact (w : World) (acts : List (Option Act)) :
    w.redact.replay (redactActs acts) =
      (w.replay acts).map fun (beats, v) => (beats.map Beat.redact, v.redact) := by
  induction acts generalizing w with
  | nil => rfl
  | cons act acts ih =>
    simp only [redactActs, List.map_cons, replay, step_redact]
    cases w.step act with
    | none => rfl
    | some m =>
      have later := ih m.world
      simp only [redactActs] at later
      simp only [Option.map_some, Move.redact, later]
      cases m.world.replay acts <;> rfl

theorem recordsOf_redact (beats : List Beat) :
    recordsOf (beats.map Beat.redact) = (recordsOf beats).map Record.redact := by
  induction beats with
  | nil => rfl
  | cons b beats ih =>
    rw [List.map_cons, recordsOf_cons, ih, recordsOf_cons, List.map_append]
    simp [Beat.records, Beat.redact, Move.redact, Record.redact, Function.comp_def]

/-- What a record tells without its secrets is told of a run. -/
theorem filterMap_redact {α : Type} {tell : Record → Option α}
    (blind : ∀ r : Record, tell r.redact = tell r) (beats : List Beat) :
    (recordsOf (beats.map Beat.redact)).filterMap tell = (recordsOf beats).filterMap tell := by
  rw [recordsOf_redact, List.filterMap_map]
  exact congrArg (List.filterMap · (recordsOf beats)) (funext blind)

namespace Record

variable (r : Record)

theorem event?_redact : r.redact.event? = r.event? := by
  obtain ⟨time, happening⟩ := r
  cases happening <;> rfl

theorem opening?_redact : r.redact.opening? = r.opening? := by
  obtain ⟨time, happening⟩ := r
  cases happening <;> rfl

theorem phase?_redact : r.redact.phase? = r.phase? := by
  obtain ⟨time, happening⟩ := r
  cases happening <;> rfl

theorem startId?_redact : r.redact.startId? = r.startId? := by
  obtain ⟨time, happening⟩ := r
  cases happening <;> rfl

/-- A write is still one, of the message without its secrets. -/
theorem written?_redact :
    r.redact.written? = r.written?.map fun (time, i, message, result) =>
      (time, i, message.redact, result) := by
  obtain ⟨time, happening⟩ := r
  cases happening <;> rfl

theorem text?_redact : r.redact.text? = r.text? := by
  unfold text?
  rw [written?_redact, Option.map_map]
  congr 1
  funext ⟨time, i, message, result⟩
  simp

theorem envelope?_redact : r.redact.envelope? = r.envelope? := by
  unfold envelope?
  rw [written?_redact, Option.map_map]
  congr 1
  funext ⟨time, i, message, result⟩
  simp [Message.toUpdate_redact]

end Record

theorem outcome?_redact (w : World) : w.redact.outcome? = w.outcome? := by
  unfold World.outcome?
  rw [World.control_redact]
  cases w.control with
  | writing task => cases task <;> rfl
  | _ => rfl

theorem Indistinct.of_redact (same : beats.map Beat.redact = beats'.map Beat.redact)
    (left : v.redact = v'.redact) : Indistinct beats beats' v v' := by
  have told {α : Type} {tell : Record → Option α} (blind : ∀ r : Record, tell r.redact = tell r) :
      (recordsOf beats).filterMap tell = (recordsOf beats').filterMap tell := by
    rw [← filterMap_redact blind, same, filterMap_redact blind]
  exact
    { events := told Record.event?_redact
      texts := told Record.text?_redact
      starts := told Record.startId?_redact
      openings := told Record.opening?_redact
      phases := told Record.phase?_redact
      envelopes := told Record.envelope?_redact
      result := by rw [← outcome?_redact, left, outcome?_redact]
      left }

theorem World.discreet (w : World) : Discreet w where
  possible w' acts acts' held alike := by
    have first := w.replay_redact acts
    rw [held, alike, w'.replay_redact acts'] at first
    simpa using (congrArg Option.isSome first).symm
  same w' acts acts' beats beats' v v' held alike played played' := by
    have first := w.replay_redact acts
    rw [held, alike, w'.replay_redact acts', played, played'] at first
    obtain ⟨same, left⟩ := Prod.mk.inj (Option.some.inj first)
    exact .of_redact same.symm left.symm

end Runs

theorem masked : Masked where
  bearer _ _ := rfl
  session s s' alike := by rw [← s.render_redact, alike, s'.render_redact]
  account _ _ := rfl

/-- In two runs that differ in nothing but secrets the same is told, and a secret is not shown for
inspection either. -/
theorem World.tells_no_secret (w : World) : Discreet w ∧ Masked := ⟨w.discreet, masked⟩

/-- A run in which a token comes, the same as the first one, and then a call. -/
def twin (token : String) (info : List UInt8) : List (Option Act) :=
  [some (.answerOpen (.ok (.start token default))), none, none, none, some .run,
    some (.peer 0 (.deliver ⟨2, 1, "", some (.token ⟨token⟩)⟩)), none, none, none,
    some (.peer 0 (.deliver
      ⟨1, 0, "", some (.call ⟨"00000000000000000000000000000000", info⟩)⟩)),
    none, none, some (.answerStart (.ok ())), none]

theorem tells_no_secret_of_twins :
    let w := (World.create .standard [default] .start).world
    ∃ beats beats' v v', w.replay (twin "first" [1, 2]) = some (beats, v) ∧
      w.replay (twin "second" []) = some (beats', v') ∧
      (v.session 0).bearer = some "first" ∧ (v'.session 0).bearer = some "second" ∧
      ((recordsOf beats).filterMap Record.event?).length = 5 ∧ Indistinct beats beats' v v' := by
  intro w
  have played : (w.replay (twin "first" [1, 2])).map (fun run => ((run.2.session 0).bearer,
      ((recordsOf run.1).filterMap Record.event?).length)) = some (some "first", 5) := by
    decide +kernel
  have played' : (w.replay (twin "second" [])).map (fun run => (run.2.session 0).bearer)
      = some (some "second") := by decide +kernel
  obtain ⟨⟨beats, v⟩, replayed, seen⟩ := Option.map_eq_some_iff.1 played
  obtain ⟨⟨beats', v'⟩, replayed', bears'⟩ := Option.map_eq_some_iff.1 played'
  obtain ⟨bears, length⟩ := Prod.mk.inj seen
  have alike : redactActs (twin "first" [1, 2]) = redactActs (twin "second" []) := rfl
  exact ⟨beats, beats', v, v', replayed, replayed', bears, bears', length,
    (World.tells_no_secret w).1.same w _ _ _ _ _ _ rfl alike replayed replayed'⟩

end FunctionAgent.Agent
