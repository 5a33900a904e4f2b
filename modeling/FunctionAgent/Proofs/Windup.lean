import FunctionAgent.Proofs.Answer
import FunctionAgent.Proofs.Withdrawal
/-!
# The work after a shutdown was asked for

A shutdown may be asked for whatever an agent has under way (`Work`): an update that it took, a
session in the stead of a lost one, or a pause. A step goes on with this, or brings it to its end,
or fails in it (`Goes`), so that at most one failure can come after the request. Then the agent
turns to the withdrawal of its functions (`Windup`). Which result this has, and on which session it
comes about, is known from the state in which the shutdown was asked for and from the failure:
`World.due` and `World.heir`. Nobody can ask for a shutdown before the agent is started, so there is
always a session in use.

A pause that is over when the shutdown is asked for may still end in the session that it was for.
The agent then winds up its work from there (`Outset`).
-/

set_option autoImplicit false

namespace FunctionAgent.Agent

/-- What an agent has under way. -/
inductive Work where
  /-- An update that it took. -/
  | answering
  /-- A session in the stead of the one in use. -/
  | reopening
  | pausing
  /-- Nothing yet: somebody is to drive the agent. -/
  | undriven
  deriving DecidableEq

namespace World

def work? (w : World) : Option Work :=
  match w.control with
  | .handling _ | .starting _ _ | .writing .answer _ _ => some .answering
  | .opening (.recover _) | .offering (.recover _) _ _
  | .writing (.offer (.recover _) _ _) _ _ => some .reopening
  | .resting _ | .backingOff _ _ => some .pausing
  | .ready => some .undriven
  | _ => none

/-- The session that is to replace the one in use. -/
def next? (w : World) : Option Nat :=
  match w.control with
  | .opening (.recover _) => some w.sessions.length
  | .offering (.recover _) i _ | .writing (.offer (.recover _) i _) _ _ => some i
  | _ => none

/-- The failure that the agent is about to recover from. -/
def failing? (w : World) : Option SessionFailure :=
  match w.control with
  | .recovering cause => some cause
  | _ => none

/-- The failures of an agent in some steps, and the one from which it is about to recover before. -/
def losses (w : World) (beats : List Beat) : List SessionFailure :=
  w.failing?.toList ++ beats.flatMap (·.failure?.toList)

/-- How the work of an agent that is to shut down ends. -/
def due (w : World) (losses : List SessionFailure) : Result :=
  w.outcome?.getD <|
    match losses with
    | [] => .ok ()
    | cause :: _ => if w.settings.maxAttempts.toNat ≤ w.failures then .error cause else .ok ()

/-- The session on which an agent that is to shut down withdraws its functions. -/
def heir (w : World) (losses : List SessionFailure) : Nat :=
  match losses with
  | [] => w.next?.getD w.held
  | _ :: _ => w.held

end World

/-- What a step comes to of an agent that has something under way and is to shut down. -/
inductive Goes (kind : Work) (w v : World) (loss : Option SessionFailure) : Prop where
  | on (here : v.work? = some kind) (failures : v.failures = w.failures) (held : v.held = w.held)
      (next : v.next? = w.next?)
      (still : kind = .pausing → v.control = w.control ∧ v.clock = w.clock)
      (unharmed : loss = none)
  | done (stands : v.control = .looping) (held : v.held = w.next?.getD w.held)
      (still : v.clock = w.clock) (unharmed : loss = none)
  | failed {cause : SessionFailure} (stands : v.control = .recovering cause)
      (busy : kind ≠ .pausing) (failures : v.failures = w.failures) (held : v.held = w.held)
      (lost : loss = some cause)
  | dropped (stands : v.control = .dropped) (undriven : kind = .undriven) (unharmed : loss = none)

/-- How far an agent `v` has come that was `w` when a shutdown was asked for. -/
inductive Windup (w : World) (losses : List SessionFailure) (v : World) : Prop where
  | working {kind : Work} (since : w.work? = some kind) (here : v.work? = some kind)
      (unharmed : losses = []) (failures : v.failures = w.failures) (held : v.held = w.held)
      (next : v.next? = w.next?)
      (still : kind = .pausing → v.control = w.control ∧ v.clock = w.clock)
  | failed {cause : SessionFailure} (stands : v.control = .recovering cause)
      (undecided : w.outcome? = none) (busy : w.work? ≠ some .pausing) (lost : losses = [cause])
      (failures : v.failures = w.failures) (held : v.held = w.held)
  | turning (stands : v.control = .looping) (few : losses.length ≤ 1)
      (due : w.due losses = .ok ()) (held : v.held = w.heir losses)
      (still : w.work? = some .pausing → v.clock = w.clock)
  | leaving (outcome : v.outcome? = some (w.due losses)) (few : losses.length ≤ 1)
      (held : v.held = w.heir losses)
  | overflowed (stands : v.control = .overflowed) (busy : w.work? ≠ some .pausing)
      (few : losses.length ≤ 1) (uncountable : Text.word32Max ≤ w.failures)
  | dropped (stands : v.control = .dropped) (undriven : w.control = .ready ∨ w.control = .dropped)
      (few : losses.length ≤ 1)

section Steps

variable {w v : World} {act : Option Act} {m : Move} {kind : Work} {losses : List SessionFailure}

theorem Deed.goes (deed : Deed w act m) (asked : w.isShutdown = true)
    (calm : act ≠ some .endPause) (here : w.work? = some kind) :
    Goes kind w m.world (⟨w, act, m⟩ : Beat).failure? := by
  cases deed with
  | reopenAnyway => exact absurd rfl calm
  | refresh stands carried | refuse stands carried | launch stands carried =>
    obtain rfl : .answering = kind := by simpa [World.work?, stands] using here
    exact .on rfl rfl rfl (by simp [World.next?, stands]) (by simp)
      (by simp [Beat.failure?, Update.notice?, stands, carried])
  | timeOut stands | started stands | unstarted cause stands =>
    obtain rfl : .answering = kind := by simpa [World.work?, stands] using here
    exact .on rfl rfl rfl (by simp [World.next?, stands]) (by simp)
      (by simp [Beat.failure?, stands])
  | ignore stands noToken noNotice =>
    exact .done rfl (by simp [World.next?, stands]) rfl
      (by simp [Beat.failure?, stands, Update.notice?_eq_none noNotice])
  | heed stands carried =>
    obtain rfl : .answering = kind := by simpa [World.work?, stands] using here
    exact .failed rfl (by simp) rfl rfl (by simp [Beat.failure?, Update.notice?, stands, carried])
  | answerWritten stands =>
    exact .done rfl (by simp [World.next?, stands]) rfl (by simp [Beat.failure?, stands])
  | answerFailed stands =>
    obtain rfl : .answering = kind := by simpa [World.work?, stands] using here
    exact .failed rfl (by simp) rfl rfl (by simp [Beat.failure?, stands])
  | @opened purpose session stands =>
    cases purpose with
    | start | connect => simp [World.work?, stands] at here
    | recover attempt =>
      obtain rfl : .reopening = kind := by simpa [World.work?, stands] using here
      exact .on rfl rfl rfl (by simp [World.next?, stands]) (by simp) rfl
  | @offer purpose i f todo stands | @offerWritten purpose i todo message deadline o stands =>
    cases purpose with
    | start | connect => simp [World.work?, stands] at here
    | recover attempt =>
      obtain rfl : .reopening = kind := by simpa [World.work?, stands] using here
      exact .on rfl rfl rfl (by simp [World.next?, stands]) (by simp)
        (by simp [Beat.failure?, stands])
  | @installFirst purpose i stands first =>
    cases purpose with
    | start | connect => simp [World.work?, stands] at here
    | recover => simp [Purpose.isFirst] at first
  | installNext stands =>
    exact .done rfl (by simp [World.next?, stands]) rfl (by simp [Beat.failure?, stands])
  | unopened stands setback | offerFailed stands ends setback =>
    cases setback with
    | recovering failure =>
      obtain rfl : .reopening = kind := by simpa [World.work?, stands] using here
      exact .failed rfl (by simp) rfl rfl (by simp [Beat.failure?, stands])
    | _ => simp [World.work?, stands] at here
  | @awaitSpace task message stands =>
    rcases task with ⟨_ | _ | attempt, i, todo⟩ | _ | ⟨id, todo, result⟩
    · simp [World.work?, stands] at here
    · simp [World.work?, stands] at here
    · obtain rfl : .reopening = kind := by simpa [World.work?, stands] using here
      exact .on rfl rfl rfl (by simp [World.next?, stands]) (by simp)
        (by simp [Beat.failure?, stands])
    · obtain rfl : .answering = kind := by simpa [World.work?, stands] using here
      exact .on rfl rfl rfl (by simp [World.next?, stands]) (by simp)
        (by simp [Beat.failure?, stands])
    · simp [World.work?, stands] at here
  | wake stands | quitBackOff stands | run stands =>
    exact .done rfl (by simp [World.next?, stands]) rfl (by simp [Beat.failure?, stands])
  | drop stands =>
    obtain rfl : .undriven = kind := by simpa [World.work?, stands] using here
    exact .dropped rfl rfl rfl
  | peer i act =>
    exact .on here rfl rfl (by simp [World.next?]) (fun _ => ⟨rfl, rfl⟩) rfl
  | shutDown | shutDownAgain => exact .on here rfl rfl rfl (fun _ => ⟨rfl, rfl⟩) rfl
  | elapse ms may =>
    refine .on here rfl rfl rfl (fun pausing => ?_) rfl
    -- A pause is over as soon as a shutdown is asked for.
    subst pausing
    unfold World.work? at here
    split at here <;> simp_all [World.mayElapse, World.isWaiting, World.proceed]
  | _ => simp_all [World.work?]

theorem outcome?_of_work (here : w.work? = some kind) : w.outcome? = none := by
  unfold World.work? at here
  split at here <;> simp_all [World.outcome?]

theorem ready_of_work (here : w.work? = some .undriven) : w.control = .ready := by
  unfold World.work? at here
  split at here <;> simp_all

/-- How the work ends is settled when the agent sets out to withdraw its functions. -/
theorem outcome?_isSome : w.outcome?.isSome = w.isWithdrawing := by
  unfold World.outcome? World.isWithdrawing
  split <;> simp_all

theorem isWithdrawing_of_outcome {result : Result} (outcome : w.outcome? = some result) :
    w.isWithdrawing = true := by
  rw [← outcome?_isSome, outcome]
  rfl

/-- Nothing counts as a failure in a step that counts for nothing. -/
theorem Beat.failure?_eq_none {b : Beat} (nothing : b.marks = []) : b.failure? = none := by
  unfold Beat.marks at nothing
  cases lost : b.failure? with
  | none => rfl
  | some cause => simp [lost] at nothing

/-- How the work of an agent ends that was at work when a shutdown was asked for. -/
theorem due_eq_ok_iff (undecided : w.outcome? = none) :
    w.due losses = .ok () ↔ losses = [] ∨ w.failures < w.settings.maxAttempts.toNat := by
  cases losses with
  | nil => simp [World.due, undecided]
  | cons cause rest =>
    by_cases exhausted : w.settings.maxAttempts.toNat ≤ w.failures
    · simp [World.due, undecided, exhausted, Nat.not_lt.2 exhausted]
    · simp [World.due, undecided, exhausted, Nat.lt_of_not_le exhausted]

theorem due_eq_error_iff {cause : SessionFailure} (undecided : w.outcome? = none)
    (few : losses.length ≤ 1) :
    w.due losses = .error cause ↔
      losses = [cause] ∧ w.settings.maxAttempts.toNat ≤ w.failures := by
  cases losses with
  | nil => simp [World.due, undecided]
  | cons first rest =>
    obtain rfl : rest = [] := List.eq_nil_of_length_eq_zero (by simpa using few)
    by_cases exhausted : w.settings.maxAttempts.toNat ≤ w.failures
    · simp [World.due, undecided, exhausted]
    · simp [World.due, undecided, exhausted]

theorem Windup.working_deed (deed : Deed v act m) (asked : v.isShutdown = true)
    (calm : act ≠ some .endPause) (since : w.work? = some kind) (here : v.work? = some kind)
    (failures : v.failures = w.failures) (held : v.held = w.held) (next : v.next? = w.next?)
    (still : kind = .pausing → v.control = w.control ∧ v.clock = w.clock) :
    Windup w (⟨v, act, m⟩ : Beat).failure?.toList m.world := by
  have undecided := outcome?_of_work since
  have pausing : w.work? = some .pausing → kind = .pausing := by
    intro pausing
    rw [since] at pausing
    exact Option.some.inj pausing
  have busy (other : kind ≠ .pausing) : w.work? ≠ some .pausing := by
    intro same
    exact other (pausing same)
  cases deed.goes asked calm here with
  | on here' failures' held' next' still' unharmed =>
    rw [unharmed]
    refine .working since here' rfl (failures'.trans failures) (held'.trans held) (next'.trans next)
      fun same => ?_
    obtain ⟨control, clock⟩ := still same
    obtain ⟨control', clock'⟩ := still' same
    exact ⟨control'.trans control, clock'.trans clock⟩
  | done stands held' still' unharmed =>
    rw [unharmed]
    have due : w.due [] = .ok () := (due_eq_ok_iff undecided).2 (.inl rfl)
    refine .turning stands (Nat.zero_le 1) due ?_ fun same => ?_
    · rw [held', next, held]
      rfl
    · exact still'.trans (still (pausing same)).2
  | failed stands other failures' held' lost =>
    rw [lost]
    exact .failed stands undecided (busy other) rfl (failures'.trans failures) (held'.trans held)
  | dropped stands undriven unharmed =>
    rw [unharmed]
    exact .dropped stands (.inl (ready_of_work (undriven ▸ since))) (Nat.zero_le 1)

theorem Windup.failed_deed {cause : SessionFailure} (deed : Deed v act m)
    (asked : v.isShutdown = true) (same : v.settings = w.settings)
    (stands : v.control = .recovering cause) (undecided : w.outcome? = none)
    (busy : w.work? ≠ some .pausing) (failures : v.failures = w.failures)
    (held : v.held = w.held) :
    Windup w ([cause] ++ (⟨v, act, m⟩ : Beat).failure?.toList) m.world := by
  cases deed with
  | @miscount other here large =>
    rw [Beat.failure?, here]
    exact .overflowed rfl busy (Nat.le_refl 1) (by omega)
  | @giveUp other here small exhausted =>
    obtain rfl : other = cause := by simpa [stands] using here.symm
    have exceeded : w.settings.maxAttempts.toNat ≤ w.failures := by
      rw [← same, ← failures]
      omega
    have few : [other].length ≤ 1 := Nat.le_refl 1
    have due : w.due [other] = .error other := (due_eq_error_iff undecided few).2 ⟨rfl, exceeded⟩
    rw [Beat.failure?, here]
    exact .leaving (congrArg some due.symm) few held
  | @desist other here small left =>
    have within : w.failures < w.settings.maxAttempts.toNat := by
      rw [← same, ← failures]
      omega
    have due : w.due [cause] = .ok () := (due_eq_ok_iff undecided).2 (.inr within)
    rw [Beat.failure?, here]
    exact .turning rfl (Nat.le_refl 1) due held fun pausing => absurd pausing busy
  | peer | shutDown | shutDownAgain | elapse =>
    exact .failed stands undecided busy rfl failures held
  | _ => simp_all

theorem Windup.turning_deed (deed : Deed v act m) (asked : v.isShutdown = true)
    (stands : v.control = .looping) (few : losses.length ≤ 1) (due : w.due losses = .ok ())
    (held : v.held = w.heir losses) (still : w.work? = some .pausing → v.clock = w.clock) :
    Windup w (losses ++ (⟨v, act, m⟩ : Beat).failure?.toList) m.world := by
  have unharmed : (⟨v, act, m⟩ : Beat).failure? = none := by
    cases deed with
    | drain here => simp [Beat.failure?, here, asked]
    | peer | shutDown | shutDownAgain | elapse => rfl
    | _ => simp_all
  rw [unharmed, Option.toList_none, List.append_nil]
  cases deed with
  | drain here => exact .leaving (congrArg some due.symm) few held
  | peer | shutDown | shutDownAgain => exact .turning stands few due held still
  | elapse ms may => simp [World.mayElapse, World.isWaiting, World.proceed, stands] at may
  | _ => simp_all

/-- Where an agent has nothing more to do, nothing but the acts of others can happen. -/
theorem Deed.idle (deed : Deed v act m)
    (stands : v.control = .overflowed ∨ v.control = .dropped) :
    m.world.control = v.control ∧ (⟨v, act, m⟩ : Beat).failure? = none := by
  cases deed with
  | peer | shutDown | shutDownAgain | elapse => exact ⟨rfl, rfl⟩
  | _ => simp_all

theorem Windup.deed (windup : Windup w losses v) (asked : v.isShutdown = true)
    (calm : act ≠ some .endPause) (same : v.settings = w.settings) (deed : Deed v act m) :
    Windup w (losses ++ (⟨v, act, m⟩ : Beat).failure?.toList) m.world := by
  cases windup with
  | working since here unharmed failures held next still =>
    subst unharmed
    exact Windup.working_deed deed asked calm since here failures held next still
  | failed stands undecided busy lost failures held =>
    subst lost
    exact Windup.failed_deed deed asked same stands undecided busy failures held
  | turning stands few due held still =>
    exact Windup.turning_deed deed asked stands few due held still
  | leaving outcome few held =>
    obtain ⟨further, nothing⟩ := deed.outcome?_eq outcome
    obtain ⟨-, stays⟩ := deed.still_leaving (isWithdrawing_of_outcome outcome)
    rw [Beat.failure?_eq_none nothing, Option.toList_none, List.append_nil]
    exact .leaving further few (stays.trans held)
  | overflowed stands busy few uncountable =>
    obtain ⟨still, nothing⟩ := deed.idle (.inl stands)
    rw [nothing, Option.toList_none, List.append_nil]
    exact .overflowed (still.trans stands) busy few uncountable
  | dropped stands undriven few =>
    obtain ⟨still, nothing⟩ := deed.idle (.inr stands)
    rw [nothing, Option.toList_none, List.append_nil]
    exact .dropped (still.trans stands) undriven few

end Steps

section Course

variable {w v : World} {more : List Beat} {losses : List SessionFailure}

/-- Where an agent stands when a shutdown is asked for. -/
theorem Windup.begin (serving : w.isServing = true) : Windup w w.failing?.toList w := by
  cases under : w.work? with
  | some kind =>
    have unharmed : w.failing? = none := by
      unfold World.work? at under
      split at under <;> simp_all [World.failing?]
    rw [unharmed]
    exact .working under under rfl rfl rfl rfl fun _ => ⟨rfl, rfl⟩
  | none =>
    have busy : w.work? ≠ some .pausing := by simp [under]
    cases stands : w.control with
    | recovering cause =>
      have lost : w.failing?.toList = [cause] := by simp [World.failing?, stands]
      exact .failed stands (by simp [World.outcome?, stands]) busy lost rfl rfl
    | looping =>
      refine .turning stands (by simp [World.failing?, stands]) ?_ ?_ fun _ => rfl
      · simp [World.due, World.outcome?, World.failing?, stands]
      · simp [World.heir, World.next?, World.failing?, stands]
    | draining | finished =>
      refine .leaving ?_ (by simp [World.failing?, stands]) ?_
      · simp [World.due, World.outcome?, stands]
      · simp [World.heir, World.next?, World.failing?, stands]
    | writing task message deadline =>
      rcases task with ⟨_ | _ | attempt, i, todo⟩ | _ | ⟨id, todo, result⟩
      case withdraw =>
        refine .leaving ?_ (by simp [World.failing?, stands]) ?_
        · simp [World.due, World.outcome?, stands]
        · simp [World.heir, World.next?, World.failing?, stands]
      all_goals simp_all [World.work?, World.isServing, Purpose.isFirst]
    | dropped => exact .dropped stands (.inr stands) (by simp [World.failing?, stands])
    | opening purpose | offering purpose =>
      cases purpose <;> simp_all [World.work?, World.isServing, Purpose.isFirst]
    | _ => simp_all [World.work?, World.isServing]

theorem Course.isShutdown_eq (course : Course w more v) (asked : w.isShutdown = true) :
    v.isShutdown = true :=
  course.keeps (P := fun v => v.isShutdown = true) asked fun _ _ _ asked deed =>
    deed.isShutdown_eq asked

/-- A session that is asked for at the end of a pause, after a shutdown was: nothing else has
changed until then. -/
structure Reopening (w : World) (b : Beat) : Prop where
  past : w.isPauseOver = true
  act : b.act = some .endPause
  asks : .opening ∈ b.move.happened
  control : b.before.control = w.control
  clock : b.before.clock = w.clock
  settings : b.before.settings = w.settings
  failures : b.before.failures = w.failures
  held : b.before.held = w.held
  world : ∃ attempt, b.move.world = { b.before with control := .opening (.recover attempt) }

theorem Reopening.isServing {b : Beat} (reopening : Reopening w b) :
    b.move.world.isServing = true := by
  obtain ⟨attempt, world⟩ := reopening.world
  simp [world, World.isServing, Purpose.isFirst]

/-- The session is waited for, and no pause is over any more. -/
theorem Reopening.isPauseOver_eq {b : Beat} (reopening : Reopening w b) :
    b.move.world.isPauseOver = false := by
  obtain ⟨attempt, world⟩ := reopening.world
  simp [world, World.isPauseOver]

theorem Windup.reopens {m : Move} (windup : Windup w losses v) (same : v.settings = w.settings)
    (deed : Deed v (some .endPause) m) : losses = [] ∧ Reopening w ⟨v, some .endPause, m⟩ := by
  cases deed with
  | @reopenAnyway attempt wake stands asked due =>
    cases windup with
    | working since here unharmed failures held next still =>
      obtain rfl : Work.pausing = _ := by simpa [World.work?, stands] using here
      obtain ⟨control, clock⟩ := still rfl
      have past : w.isPauseOver = true := by
        simpa [World.isPauseOver, ← control, ← clock, stands] using due
      exact ⟨unharmed, past, rfl, List.mem_cons_self, control, clock, same, failures, held, attempt,
        rfl⟩
    | leaving outcome => simp [World.outcome?, stands] at outcome
    | failed here | turning here | overflowed here | dropped here => simp [stands] at here

/-- From which state on, with which steps, an agent winds up its work. -/
inductive Outset (w : World) : (more : List Beat) → (u : World) → (rest : List Beat) → Prop where
  | here {more : List Beat} (calm : ∀ b ∈ more, b.act ≠ some .endPause) : Outset w more w more
  | reopening {first rest : List Beat} {b : Beat} (reopening : Reopening w b)
      (unharmed : w.losses first = []) (before : ∀ x ∈ first, x.act ≠ some .endPause)
      (after : ∀ x ∈ rest, x.act ≠ some .endPause) :
      Outset w (first ++ b :: rest) b.move.world rest

/-- The settings and the count of failures are the same whether the work is wound up from the
request on or from a session that was asked for after it. -/
theorem Outset.same {u : World} {rest : List Beat} (outset : Outset w more u rest) :
    u.settings = w.settings ∧ u.failures = w.failures := by
  cases outset with
  | here => exact ⟨rfl, rfl⟩
  | reopening reopening =>
    obtain ⟨attempt, world⟩ := reopening.world
    rw [world]
    exact ⟨reopening.settings, reopening.failures⟩

theorem losses_snoc (w : World) (more : List Beat) (b : Beat) :
    w.losses (more ++ [b]) = w.losses more ++ b.failure?.toList := by
  simp [World.losses]

/-- Every agent winds up its work in this way. -/
theorem Course.winds_up (course : Course w more v) (asked : w.isShutdown = true)
    (serving : w.isServing = true) :
    ∃ u rest, Outset w more u rest ∧ Windup u (u.losses rest) v := by
  refine course.told (I := fun v => v.isShutdown = true ∧ v.settings = w.settings)
    (P := fun more v => ∃ u rest, Outset w more u rest ∧ Windup u (u.losses rest) v)
    ⟨asked, rfl⟩ ?_ ?_ ?_
  · rintro v act m ⟨asked, same⟩ deed
    exact ⟨deed.isShutdown_eq asked, deed.settings_eq.trans same⟩
  · refine ⟨w, [], .here (by simp), ?_⟩
    rw [World.losses, List.flatMap_nil, List.append_nil]
    exact .begin serving
  · rintro more v act m ⟨asked, same⟩ ⟨u, rest, outset, windup⟩ deed
    have kept := same.trans outset.same.1.symm
    by_cases calm : act = some .endPause
    · subst calm
      obtain ⟨unharmed, reopening⟩ := windup.reopens kept deed
      cases outset with
      | reopening earlier =>
        have past := reopening.past
        simp [earlier.isPauseOver_eq] at past
      | here before =>
        refine ⟨_, [], .reopening reopening unharmed before (by simp), ?_⟩
        rw [World.losses, List.flatMap_nil, List.append_nil]
        exact .begin reopening.isServing
    · have further := windup.deed asked calm kept deed
      rw [← losses_snoc] at further
      cases outset with
      | here before => exact ⟨_, _, .here (forall_snoc before calm), further⟩
      | @reopening first rest b reopening unharmed before after =>
        refine ⟨_, _, ?_, further⟩
        rw [List.append_assoc, List.cons_append]
        exact .reopening reopening unharmed before (forall_snoc after calm)

/-- The failures are the same whether they are counted from the request on or from the session that
was asked for after it. -/
theorem Outset.losses_eq {u : World} {rest : List Beat} (outset : Outset w more u rest) :
    u.losses rest = w.losses more := by
  cases outset with
  | here => rfl
  | @reopening first rest b reopening unharmed =>
    obtain ⟨attempt, world⟩ := reopening.world
    have nothing : b.failure? = none := by simp [Beat.failure?, reopening.act]
    have none : b.move.world.failing? = none := by simp [world, World.failing?]
    simp only [World.losses, List.append_eq_nil_iff] at unharmed
    simp [World.losses, nothing, none, unharmed.1, unharmed.2]

theorem Outset.outcome?_eq {u : World} {rest : List Beat} (outset : Outset w more u rest)
    (undecided : w.outcome? = none) : u.outcome? = none := by
  cases outset with
  | here => exact undecided
  | reopening reopening =>
    obtain ⟨attempt, world⟩ := reopening.world
    simp [world, World.outcome?]

/-- Unless a pause is over, an agent winds up its work from the request on. -/
theorem Course.winds_up_here (course : Course w more v) (asked : w.isShutdown = true)
    (serving : w.isServing = true) (early : w.isPauseOver = false) :
    Windup w (w.losses more) v := by
  obtain ⟨u, rest, outset, windup⟩ := course.winds_up asked serving
  cases outset with
  | here => exact windup
  | reopening reopening =>
    have past := reopening.past
    simp [early] at past

theorem Windup.few (windup : Windup w losses v) : losses.length ≤ 1 := by
  cases windup with
  | working since here unharmed => simp [unharmed]
  | failed stands undecided busy lost => simp [lost]
  | turning _ few | leaving _ few | overflowed _ _ few | dropped _ _ few => exact few

theorem Windup.outcome?_eq (windup : Windup w losses v) {result : Result} :
    v.outcome? = some result ↔ v.isWithdrawing = true ∧ w.due losses = result := by
  rw [← outcome?_isSome]
  cases windup with
  | working since here => simp [outcome?_of_work here]
  | leaving outcome => simp [outcome]
  | failed stands | turning stands | overflowed stands | dropped stands =>
    simp [World.outcome?, stands]

end Course

/-! ## The end of the work -/

/-- Whether an agent has come to its end. -/
def World.isOver (w : World) : Bool :=
  match w.control with
  | .finished _ | .overflowed => true
  | _ => false

section Ending

variable {w v : World} {losses : List SessionFailure}

theorem ends_of_outcome {result : Result} (outcome : w.outcome? = some result) :
    w.Comes fun v => v.isOver = true := by
  refine (finishes outcome).trans fun beats v _ finished => .here ?_
  simp [World.isOver, finished]

theorem ends_of_looping (stands : w.control = .looping) (asked : w.isShutdown = true) :
    w.Comes fun v => v.isOver = true := by
  have step : w.step none = some w.turn := by simp [World.step, World.proceed, stands]
  generalize w.turn = m at step
  have deed := deed_of_step step
  refine .after step (.inl rfl) ?_
  cases deed with
  | drain => exact ends_of_outcome rfl
  | _ => simp_all

theorem ends_of_recovering {cause : SessionFailure} (stands : w.control = .recovering cause)
    (asked : w.isShutdown = true) : w.Comes fun v => v.isOver = true := by
  have step : w.step none = some (w.recover cause) := by simp [World.step, World.proceed, stands]
  generalize w.recover cause = m at step
  have deed := deed_of_step step
  refine .after step (.inl rfl) ?_
  cases deed with
  | miscount => exact .here rfl
  | giveUp => exact ends_of_outcome rfl
  | desist => exact ends_of_looping rfl asked
  | _ => simp_all

/-- An agent for which a shutdown was asked has nothing under way: it comes to its end by itself. -/
theorem Windup.ends (windup : Windup w losses v) (asked : v.isShutdown = true)
    (idle : v.work? = none) (kept : v.control ≠ .dropped) : v.Comes fun u => u.isOver = true := by
  cases windup with
  | working since here => simp [idle] at here
  | failed stands => exact ends_of_recovering stands asked
  | turning stands => exact ends_of_looping stands asked
  | leaving outcome => exact ends_of_outcome outcome
  | overflowed stands => exact .here (by simp [World.isOver, stands])
  | dropped stands => exact absurd stands kept

theorem settle_offer {attempt i : Nat} {todo : List Function} {message : Message}
    (outcome : Outbound.Written Update) :
    (w.settle (.offer (.recover attempt) i todo) message outcome).world.control
        = .offering (.recover attempt) i todo ∨
      (w.settle (.offer (.recover attempt) i todo) message outcome).world.work? = none := by
  obtain ⟨result, o⟩ := outcome
  cases result with
  | ok => exact .inl rfl
  | error fault => exact .inr rfl

/-- The functions are offered on a session, or this fails, without an act of the others. -/
theorem settles_of_offering {attempt i : Nat} {todo : List Function}
    (stands : w.control = .offering (.recover attempt) i todo) :
    w.Comes fun v => v.work? = none := by
  induction todo generalizing w with
  | nil =>
    have step : w.step none = some (w.offered (.recover attempt) i) := by
      simp [World.step, World.proceed, stands]
    exact .after step (.inl rfl) (.here rfl)
  | cons f todo ih =>
    have step : w.step none = some (w.announce f .online (.offer (.recover attempt) i todo)) := by
      simp [World.step, World.proceed, stands]
    refine .after step (.inl rfl) (.write rfl fun v outcome => ?_)
    rcases settle_offer outcome with stands | idle
    · exact ih stands
    · exact .here idle

/-- A pause is not waited out. -/
theorem settles_of_pausing (pausing : w.work? = some .pausing) (asked : w.isShutdown = true) :
    w.Comes fun v => v.work? = none := by
  have step : w.step none = some ((Move.stay w).goto .looping) := by
    unfold World.work? at pausing
    split at pausing <;> simp_all [World.step, World.proceed]
  exact .after step (.inl rfl) (.here rfl)

theorem Windup.work?_eq (windup : Windup w losses v) : v.work? = none ∨ v.work? = w.work? := by
  cases windup with
  | working since here => exact .inr (here.trans since.symm)
  | leaving outcome =>
    refine .inl ?_
    cases under : v.work? with
    | none => rfl
    | some kind => simp [outcome?_of_work under] at outcome
  | failed stands | turning stands | overflowed stands | dropped stands =>
    exact .inl (by simp [World.work?, stands])

theorem reopening_cases (under : w.work? = some .reopening) :
    (∃ attempt, w.control = .opening (.recover attempt)) ∨
      (∃ attempt i todo, w.control = .offering (.recover attempt) i todo) ∨
      ∃ attempt i todo message deadline,
        w.control = .writing (.offer (.recover attempt) i todo) message deadline := by
  unfold World.work? at under
  split at under <;> simp_all

/-- What an agent that is to shut down has under way comes to its end without an act of the others,
unless a session is to be opened, a pause is over or nobody drives the agent. -/
theorem settles (asked : w.isShutdown = true) (serving : w.isServing = true)
    (early : w.isPauseOver = false) (driven : w.control ≠ .ready)
    (answered : ∀ purpose, w.control ≠ .opening purpose) :
    w.Comes fun v => v.work? = none := by
  cases under : w.work? with
  | none => exact .here under
  | some kind =>
    cases kind with
    | answering =>
      have busy : w.isBusy = true := by
        unfold World.work? at under
        split at under <;> simp_all [World.isBusy]
      refine (frees_of_busy busy).trans fun beats v course free => .here ?_
      rcases (course.winds_up_here asked serving early).work?_eq with idle | same
      · exact idle
      · rw [under] at same
        unfold World.work? at same
        split at same <;> simp_all [World.isBusy]
    | reopening =>
      rcases reopening_cases under with ⟨_, stands⟩ | ⟨_, _, _, stands⟩ | ⟨_, _, _, _, _, stands⟩
      · exact absurd stands (answered _)
      · exact settles_of_offering stands
      · refine .write stands fun v outcome => ?_
        rcases settle_offer outcome with offering | idle
        · exact settles_of_offering offering
        · exact .here idle
    | pausing => exact settles_of_pausing under asked
    | undriven => exact absurd (ready_of_work under) driven

theorem serving_of_work {kind : Work} (here : w.work? = some kind) : w.isServing = true := by
  unfold World.work? at here
  split at here <;> simp_all [World.isServing, Purpose.isFirst]

/-- An agent keeps its session as long as it can count its failures. -/
theorem Windup.serves (windup : Windup w losses v) :
    v.isServing = true ∨ v.control = .overflowed := by
  cases windup with
  | working since here => exact .inl (serving_of_work here)
  | leaving outcome =>
    refine .inl ?_
    unfold World.outcome? at outcome
    split at outcome <;> simp_all [World.isServing]
  | overflowed stands => exact .inr stands
  | failed stands | turning stands | dropped stands =>
    exact .inl (by simp [World.isServing, stands])

/-- An agent that is driven is not given up. -/
theorem Windup.kept (windup : Windup w losses v) (driven : w.control ≠ .ready)
    (kept : w.control ≠ .dropped) : v.control ≠ .dropped := by
  intro gone
  cases windup with
  | working since here => simp [World.work?, gone] at here
  | leaving outcome => simp [World.outcome?, gone] at outcome
  | dropped stands undriven => exact undriven.elim driven kept
  | failed stands | turning stands | overflowed stands => simp [gone] at stands

/-- An agent that is to shut down comes to its end without an act of the others, unless a session
is to be opened, a pause is over or nobody drives the agent. -/
theorem ends_of_asked (asked : w.isShutdown = true) (serving : w.isServing = true)
    (early : w.isPauseOver = false) (driven : w.control ≠ .ready) (kept : w.control ≠ .dropped)
    (answered : ∀ purpose, w.control ≠ .opening purpose) : w.Comes fun v => v.isOver = true := by
  refine (settles asked serving early driven answered).trans fun beats v course idle => ?_
  have windup := course.winds_up_here asked serving early
  exact windup.ends (course.isShutdown_eq asked) idle (windup.kept driven kept)

/-- However far the agent has come since a shutdown was asked for, it comes to its end. -/
theorem Course.ends {more : List Beat} (course : Course w more v) (asked : w.isShutdown = true)
    (serving : w.isServing = true) (early : v.isPauseOver = false) (driven : v.control ≠ .ready)
    (kept : v.control ≠ .dropped) (answered : ∀ purpose, v.control ≠ .opening purpose) :
    v.Comes fun u => u.isOver = true := by
  obtain ⟨u, rest, -, windup⟩ := course.winds_up asked serving
  rcases windup.serves with serving | overflowed
  · exact ends_of_asked (course.isShutdown_eq asked) serving early driven kept answered
  · exact .here (by simp [World.isOver, overflowed])

end Ending

/-! ## Runs in which a shutdown is asked for -/

/-- A request to shut down changes nothing else. -/
theorem Deed.requests {w : World} {m : Move} (deed : Deed w (some .requestShutdown) m) :
    m.world = { w with isShutdown := true } := by
  cases deed with
  | shutDown => rfl
  | shutDownAgain asked => rw [← asked]

/-- The steps taken one after the other, with a request to shut down between two parts of them. -/
def World.replayAsked (w : World) (acts later : List (Option Act)) :
    Option (List Beat × Beat × List Beat × World) := do
  let (before, u) ← w.replay acts
  let m ← u.step (some .requestShutdown)
  let (more, v) ← m.world.replay later
  return (before, ⟨u, some .requestShutdown, m⟩, more, v)

theorem Course.of_replayAsked {w v : World} {acts later : List (Option Act)}
    {before more : List Beat} {b : Beat}
    (played : w.replayAsked acts later = some (before, b, more, v)) :
    Course w (before ++ b :: more) v ∧ b.act = some .requestShutdown := by
  simp only [World.replayAsked, Option.bind_eq_bind, Option.bind_eq_some_iff, Option.pure_def,
    Option.some.injEq, Prod.mk.injEq] at played
  obtain ⟨⟨_, u⟩, first, m, step, ⟨_, _⟩, second, rfl, rfl, rfl, rfl⟩ := played
  have request : Course u [⟨u, some .requestShutdown, m⟩] m.world := Course.nil.snoc step
  exact ⟨(Course.of_replay first).append (request.append (.of_replay second)), rfl⟩

end FunctionAgent.Agent
