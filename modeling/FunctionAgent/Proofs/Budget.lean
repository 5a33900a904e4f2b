import FunctionAgent.Proofs.Ledger
/-!
# The budget of recoveries

As long as no shutdown is asked for, a failure within the budget leads to a session that is asked
for, and the one beyond it ends the work with its own cause. The agent needs nothing but time for
either.
-/

set_option autoImplicit false

namespace FunctionAgent.Agent

section Reopening

variable {w : World} {attempt : Nat}

theorem reopens_of_backingOff {wake : Nat} (stands : w.control = .backingOff attempt wake)
    (unasked : w.isShutdown = false) :
    w.Comes fun v => v.control = .opening (.recover attempt) := by
  have opens {v : World} (stands : v.control = .backingOff attempt wake)
      (unasked : v.isShutdown = false) (due : wake ≤ v.clock) :
      v.Comes fun v => v.control = .opening (.recover attempt) := by
    have step : v.step none = some ((Move.stay v).askSession (.recover attempt)) := by
      simp [World.step, World.proceed, stands, unasked, due]
    exact .after step (.inl rfl) (.here rfl)
  by_cases due : wake ≤ w.clock
  · exact opens stands unasked due
  · have rests : w.proceed = none := by simp [World.proceed, stands, unasked, due]
    have wakes : w.wake? = some wake := by rw [World.wake?, stands]
    exact .wait rests wakes (by omega) (opens stands unasked (Nat.le_refl _))

theorem reopens_of_recovering {cause : SessionFailure} (stands : w.control = .recovering cause)
    (unasked : w.isShutdown = false) (left : w.failures + 1 ≤ w.settings.maxAttempts.toNat)
    (countable : w.failures + 1 ≤ Text.word32Max)
    (measurable : w.settings.backoff.times? (w.failures + 1) ≠ none) :
    w.Comes fun v => v.control = .opening (.recover (w.failures + 1)) := by
  have step : w.step none = some (w.recover cause) := by simp [World.step, World.proceed, stands]
  generalize w.recover cause = m at step
  have deed := deed_of_step step
  refine .after step (.inl rfl) ?_
  cases deed with
  | miscount here large => omega
  | giveUp here small exhausted => omega
  | desist here small left asked => simp [unasked] at asked
  | mismeasure here small left unasked later long => exact absurd long measurable
  | reopen here left unasked first => exact .here rfl
  | backOff here small left unasked later length => exact reopens_of_backingOff rfl unasked
  | _ => simp_all

/-- The failure beyond the budget ends the work with its own cause. -/
theorem gives_up {cause : SessionFailure} (stands : w.control = .recovering cause)
    (countable : w.failures + 1 ≤ Text.word32Max)
    (exhausted : w.settings.maxAttempts.toNat = w.failures) :
    ∃ m, w.step none = some m ∧ m.world.outcome? = some (.error cause) := by
  have step : w.step none = some (w.recover cause) := by simp [World.step, World.proceed, stands]
  refine ⟨_, step, ?_⟩
  generalize w.recover cause = m at step
  have deed := deed_of_step step
  cases deed with
  | giveUp here small exhausted =>
    obtain rfl : cause = _ := by simpa [stands] using here
    rfl
  | miscount here large => omega
  | desist here small left => omega
  | reopen here left => omega
  | mismeasure here small left => omega
  | backOff here small left => omega
  | _ => simp_all

end Reopening

section Ending

variable {w : World} {todo : List Function} {result : Result}

theorem control_settle {id : Uuid} {message : Message} (outcome : Outbound.Written Update) :
    (w.settle (.withdraw id todo result) message outcome).world.control
      = .draining todo result := by
  obtain ⟨written, after⟩ := outcome
  cases written <;> rfl

theorem finishes_of_draining (stands : w.control = .draining todo result) :
    w.Comes fun v => v.control = .finished result := by
  induction todo generalizing w with
  | nil =>
    have step : w.step none = some (w.rest result) := by simp [World.step, World.proceed, stands]
    exact .after step (.inl rfl) (.here rfl)
  | cons f todo ih =>
    have step : w.step none = some (w.announce f .offline (.withdraw f.id todo result)) := by
      simp [World.step, World.proceed, stands]
    exact .after step (.inl rfl) (.write rfl fun _ outcome => ih (control_settle outcome))

/-- Once it is settled how the work ends the agent needs nobody for coming to this end. -/
theorem finishes (outcome : w.outcome? = some result) :
    w.Comes fun v => v.control = .finished result := by
  unfold World.outcome? at outcome
  split at outcome
  · rename_i stands
    obtain rfl := Option.some.inj outcome
    exact finishes_of_draining stands
  · rename_i stands
    obtain rfl := Option.some.inj outcome
    exact .write stands fun _ outcome => finishes_of_draining (control_settle outcome)
  · rename_i stands
    obtain rfl := Option.some.inj outcome
    exact .here stands
  · contradiction

end Ending

/-- How an agent keeps to its budget. -/
structure Budget (max : Nat) (beats : List Beat) (w : World) : Prop where
  /-- Every failure is numbered and answered as the law wants it. -/
  ledger : Ledger max w (marksOf beats)
  opened : (marksOf beats).countP Mark.isOpened
    ≤ max * ((marksOf beats).countP Mark.isHandled + 1)
  /-- A failure within the budget leads to a session that is asked for. -/
  reopens : ∀ cause, w.control = .recovering cause → w.isShutdown = false → w.failures < max →
    w.Comes fun v => v.control = .opening (.recover (w.failures + 1))
  resumes : ∀ attempt wake, w.control = .backingOff attempt wake → w.isShutdown = false →
    w.Comes fun v => v.control = .opening (.recover attempt)
  /-- The failure beyond the budget settles how the work ends. -/
  gives : ∀ cause, w.control = .recovering cause → w.failures = max →
    ∃ m, w.step none = some m ∧ m.world.outcome? = some (.error cause)
  finishes : ∀ result, w.outcome? = some result →
    w.Comes fun v => v.control = .finished result

section Career

variable {settings : Settings} {functions : List Function} {entry : Entry} {beats : List Beat}
  {w : World}

theorem Career.ledger (career : Career settings functions entry beats w)
    (countable : settings.maxAttempts.toNat < Text.word32Max)
    (measurable : ∀ n ≤ settings.maxAttempts.toNat, settings.backoff.times? n ≠ none) :
    Ledger settings.maxAttempts.toNat w (marksOf beats) := by
  refine career.told (P := fun beats w => Ledger _ w (marksOf beats))
    (sound_create settings functions entry) (fun _ _ _ sound deed => sound.deed deed)
    (.even rfl .nil) (fun beats v act m sound ledger deed => ?_)
  rw [marksOf_snoc]
  exact ledger.deed sound rfl countable measurable deed

/-- As long as failures can be counted and pauses be measured, an agent keeps to its budget. -/
theorem Career.keeps_budget (career : Career settings functions entry beats w)
    (countable : settings.maxAttempts.toNat < Text.word32Max)
    (measurable : ∀ n ≤ settings.maxAttempts.toNat, settings.backoff.times? n ≠ none) :
    Budget settings.maxAttempts.toNat beats w := by
  have ledger := career.ledger countable measurable
  obtain rfl := career.sound.settings
  exact
    { ledger
      opened := ledger.opened_le
      reopens := fun cause stands unasked left =>
        reopens_of_recovering stands unasked left (by omega) (measurable _ left)
      resumes := fun attempt wake stands unasked => reopens_of_backingOff stands unasked
      gives := fun cause stands exhausted => gives_up stands (by omega) exhausted.symm
      finishes := fun result outcome => finishes outcome }

/-- A run with a budget of two: the stream ends, the functions cannot be offered on the next
session, and the one after it is refused. -/
def downfall : List (Option Act) :=
  let deaf : Duplex Update Update := .start { Outbound.fresh 1 with peer := .shut }
  [some (.answerOpen (.ok (.start "first" default))), none, none, none, some .run,
    some (.peer 0 (.endFeed .completed)), none, none,
    some (.answerOpen (.ok (.start "second" deaf))), none, none, none, some (.elapse 2000), none,
    some (.answerOpen (.error (.connection "refused"))), none, none, none, none]

theorem keeps_budget_in_downfall :
    let settings : Settings := { Settings.standard with maxAttempts := 2 }
    settings.maxAttempts.toNat < Text.word32Max ∧
      (∀ n ≤ settings.maxAttempts.toNat, settings.backoff.times? n ≠ none) ∧
      ∃ beats w, Career settings [default] .start beats w ∧
        w.outcome? = some (.error (.connection "refused")) ∧
        (marksOf beats).countP Mark.isOpened = 2 ∧ Budget 2 beats w := by
  intro settings
  have countable : settings.maxAttempts.toNat < Text.word32Max := by decide
  have measurable : ∀ n ≤ settings.maxAttempts.toNat, settings.backoff.times? n ≠ none := by decide
  have played : ((World.create settings [default] .start).world.replay downfall).map
      (fun run => (run.2.outcome?.bind fun
        | .error failure => some failure
        | .ok () => none, (marksOf run.1).countP Mark.isOpened))
        = some (some (.connection "refused"), 2) := by decide +kernel
  obtain ⟨⟨beats, w⟩, replayed, ended⟩ := Option.map_eq_some_iff.1 played
  obtain ⟨failure, opened⟩ := Prod.mk.inj ended
  have outcome : w.outcome? = some (.error (.connection "refused")) := by
    obtain ⟨result, settled, failed⟩ := Option.bind_eq_some_iff.1 failure
    cases result with
    | ok => simp at failed
    | error cause => rw [settled, Option.some.inj failed]
  have career : Career settings [default] .start beats w := .of_replay replayed
  exact ⟨countable, measurable, beats, w, career, outcome, opened,
    career.keeps_budget countable measurable⟩

end Career

end FunctionAgent.Agent
