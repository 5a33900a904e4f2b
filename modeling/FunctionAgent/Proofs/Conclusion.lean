import FunctionAgent.Proofs.Windup
/-!
# How the work ends

The work of an agent fails only with its budget used up. After a shutdown was asked for it ends
well, but for one case: the budget was used up already, and the agent fails in what it has under
way. A failure is held against the budget before the agent looks for the request.
-/

set_option autoImplicit false

namespace FunctionAgent.Agent

instance Result.decEq : DecidableEq Result
  | .ok (), .ok () => isTrue rfl
  | .ok (), .error _ => isFalse nofun
  | .error _, .ok () => isFalse nofun
  | .error first, .error second => decidable_of_iff (first = second) (by simp)

/-- How the work of an agent ends when a shutdown was asked for in the state `w`. -/
structure Resolved (w : World) (more : List Beat) (v : World) : Prop where
  /-- The agent fails once at most. -/
  few : (w.losses more).length ≤ 1
  well : v.outcome? = some (.ok ()) ↔ v.isWithdrawing = true ∧
    (w.losses more = [] ∨ w.failures < w.settings.maxAttempts.toNat)
  failed : ∀ cause, v.outcome? = some (.error cause) ↔ v.isWithdrawing = true ∧
    w.losses more = [cause] ∧ w.settings.maxAttempts.toNat ≤ w.failures
  /-- The agent needs nobody for coming to its end, once it is driven and has been answered, and no
  pause is over that may still end in a session. -/
  ends : v.isPauseOver = false → v.control ≠ .ready → v.control ≠ .dropped →
    (∀ purpose, v.control ≠ .opening purpose) → v.Comes fun u => u.isOver = true
  uncountable : v.control = .overflowed → Text.word32Max ≤ w.failures

/-- How the work of an agent ends. -/
structure Conclusion (max : Nat) (beats : List Beat) (v : World) : Prop where
  /-- The work fails only with the budget used up. -/
  exhausted : ∀ cause, v.outcome? = some (.error cause) → ∃ before b after,
    beats = before ++ b :: after ∧ b.before.control = .recovering cause ∧ max ≤ b.before.failures
  asked : ∀ before b more, beats = before ++ b :: more → b.act = some .requestShutdown →
    b.before.isServing = true → b.before.outcome? = none → Resolved b.move.world more v

section Resolving

variable {w v : World} {more : List Beat} {losses : List SessionFailure}

theorem Course.resolved (course : Course w more v) (asked : w.isShutdown = true)
    (serving : w.isServing = true) (undecided : w.outcome? = none) : Resolved w more v := by
  obtain ⟨u, rest, outset, windup⟩ := course.winds_up asked serving
  obtain ⟨settings, failures⟩ := outset.same
  rw [outset.losses_eq] at windup
  have unsettled := outset.outcome?_eq undecided
  refine ⟨windup.few, ?_, ?_, course.ends asked serving, ?_⟩
  · rw [windup.outcome?_eq, due_eq_ok_iff unsettled, settings, failures]
  · intro cause
    rw [windup.outcome?_eq, due_eq_error_iff unsettled windup.few, settings, failures]
  · intro overflowed
    cases windup with
    | overflowed _ _ _ uncountable => exact failures ▸ uncountable
    | working since here => simp [World.work?, overflowed] at here
    | leaving outcome => simp [World.outcome?, overflowed] at outcome
    | failed stands | turning stands | dropped stands => simp [overflowed] at stands

end Resolving

section Career

variable {settings : Settings} {functions : List Function} {entry : Entry} {beats : List Beat}
  {v : World}

/-- The work of every agent ends in this way. -/
theorem Career.concludes (career : Career settings functions entry beats v) :
    Conclusion settings.maxAttempts.toNat beats v where
  exhausted := by
    intro cause failed
    cases career.parting with
    | working working =>
      rw [isWithdrawing_of_outcome failed] at working
      contradiction
    | @leaving before after b result tries leaving once withdrawal =>
      obtain rfl : .error cause = result :=
        Option.some.inj (failed.symm.trans withdrawal.outcome)
      obtain ⟨earlier, -, -⟩ := career.around
      cases withdrawal.reason with
      | exhausted here exhausted =>
        rw [(Career.sound earlier).settings] at exhausted
        exact ⟨before, b, after, rfl, here, Nat.le_of_lt_succ exhausted⟩
  asked := by
    rintro before b more rfl request serving undecided
    obtain ⟨-, step, later⟩ := career.around
    rw [request] at step
    have same := (deed_of_step step).requests
    refine later.resolved ?_ ?_ ?_
    · rw [same]
    · rw [same]
      exact serving
    · rw [same]
      exact undecided

/-- A run in which a shutdown is asked for while the executor has yet to answer a call, and in which
the answer cannot be written. -/
def missedAnswer : Option (List Beat × Beat × List Beat × World) :=
  let call : Call := ⟨"00000000000000000000000000000000", [1, 2]⟩
  (World.create .standard [default] .start).world.replayAsked
    [some (.answerOpen (.ok (.start "first" default))), none, none, none, some .run,
      some (.peer 0 (.deliver ⟨1, 0, "", some (.call call)⟩)), none, none]
    [some (.peer 0 (.outbound .shut)), some (.answerStart (.ok ())), none, none, none, none, none,
      none]

theorem concludes_after_missed_answer :
    ∃ before b more v, Career .standard [default] .start (before ++ b :: more) v ∧
      b.act = some .requestShutdown ∧ b.before.isServing = true ∧ b.before.outcome? = none ∧
      v.outcome? = some (.ok ()) ∧ (b.move.world.losses more).length = 1 ∧
      Conclusion 10 (before ++ b :: more) v := by
  have played : missedAnswer.map (fun (_, b, more, v) => (b.before.isServing, b.before.outcome?,
      v.outcome?, (b.move.world.losses more).length)) = some (true, none, some (.ok ()), 1) := by
    decide +kernel
  obtain ⟨⟨before, b, more, v⟩, replayed, seen⟩ := Option.map_eq_some_iff.1 played
  simp only [Prod.mk.injEq] at seen
  obtain ⟨serving, undecided, well, lost⟩ := seen
  obtain ⟨course, request⟩ := Course.of_replayAsked replayed
  have career : Career .standard [default] .start (before ++ b :: more) v := course
  exact ⟨before, b, more, v, career, request, serving, undecided, well, lost, career.concludes⟩

/-- A run with a budget of one: the stream ends, and a shutdown is asked for while a session is
opened in its stead, which is refused. -/
def lastRefusal : Option (List Beat × Beat × List Beat × World) :=
  let settings : Settings := { Settings.standard with maxAttempts := 1 }
  (World.create settings [default] .start).world.replayAsked
    [some (.answerOpen (.ok (.start "first" default))), none, none, none, some .run,
      some (.peer 0 (.endFeed .completed)), none, none]
    [some (.answerOpen (.error (.connection "refused"))), none, none, none, none]

/-- It is not so that the work always ends well for which a shutdown was asked in time. -/
theorem may_fail_after_request :
    ¬ ∀ (settings : Settings) (functions : List Function) (entry : Entry) (before : List Beat)
        (b : Beat) (more : List Beat) (v : World),
      Career settings functions entry (before ++ b :: more) v → b.act = some .requestShutdown →
        b.before.isServing = true → b.before.outcome? = none → v.isFinished = true →
          v.outcome? = some (.ok ()) := by
  intro pardon
  have played : lastRefusal.map (fun (_, b, _, v) => (b.before.isServing, b.before.outcome?,
      v.isFinished, v.outcome?))
        = some (true, none, true, some (.error (.connection "refused"))) := by decide +kernel
  obtain ⟨⟨before, b, more, v⟩, replayed, seen⟩ := Option.map_eq_some_iff.1 played
  simp only [Prod.mk.injEq] at seen
  obtain ⟨serving, undecided, finished, failed⟩ := seen
  obtain ⟨course, request⟩ := Course.of_replayAsked replayed
  have well := pardon _ [default] .start before b more v course request serving undecided finished
  rw [failed] at well
  contradiction

end Career

end FunctionAgent.Agent
