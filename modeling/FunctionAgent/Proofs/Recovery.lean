import FunctionAgent.Proofs.Publishing
import FunctionAgent.Proofs.Reckoning
/-!
# How a recovery goes

A recovery that is published asks for a session: the first one at once, a later one when it has
waited for its pause, and not at all if a shutdown is asked for before the end of the pause
(`Attempted`). Its number is that of the failures since the last update that was handled. The work
on a lost stream is over when the functions are on offer on another session, when a shutdown was
asked for, or when the budget is exceeded (`Returned`).
-/

set_option autoImplicit false

namespace FunctionAgent

theorem Span.nanos_of_times? {d e : Span} {n : Nat} (length : d.times? n = some e) :
    e.nanos = d.nanos * n := by
  unfold times? at length
  split at length
  · exact Option.some.inj length ▸ rfl
  · contradiction

/-- A wait ends at the first full millisecond that is not too early. -/
theorem Span.ticks_least (d : Span) :
    d.nanos ≤ d.ticks * 1_000_000 ∧ d.ticks * 1_000_000 < d.nanos + 1_000_000 := by
  unfold ticks
  omega

namespace Agent

/-! ## Failures since the last update that was handled -/

/-- The number of failures with one more mark. -/
def Mark.count (n : Nat) : Mark → Nat
  | .failed _ => n + 1
  | .handled => 0
  | _ => n

/-- How many failures there are since the last update that was handled. -/
def failuresSince (marks : List Mark) : Nat := marks.foldl Mark.count 0

/-- The failures that an agent has counted, and the one that it is about to count. -/
def World.known (w : World) : Nat :=
  match w.control with
  | .recovering _ => w.failures + 1
  | _ => w.failures

section Counting

variable {settings : Settings} {functions : List Function} {entry : Entry} {beats : List Beat}
  {w : World} {act : Option Act} {m : Move}

/-- What is shown of a failure is no failure itself. -/
theorem count_marked (n : Nat) (happened : List Happening) :
    (happened.flatMap w.marked).foldl Mark.count n = n := by
  induction happened with
  | nil => rfl
  | cons h rest ih =>
    rw [List.flatMap_cons, List.foldl_append]
    suffices still : (w.marked h).foldl Mark.count n = n by rw [still, ih]
    unfold World.marked
    split
    · rfl
    · split <;> rfl
    · split <;> rfl
    · rfl

theorem count_marks (n : Nat) (b : Beat) :
    b.marks.foldl Mark.count n =
      if b.isHandled then 0 else if b.failure?.isSome then n + 1 else n := by
  rw [Beat.marks, List.foldl_append, List.foldl_append, count_marked]
  cases b.failure? <;> cases b.isHandled <;> rfl

theorem Deed.known_eq (deed : Deed w act m) :
    m.world.known = if (⟨w, act, m⟩ : Beat).isHandled then 0
      else if (⟨w, act, m⟩ : Beat).failure?.isSome then w.known + 1 else w.known := by
  cases deed with
  | @awaitSpace task message here =>
    rcases task with ⟨_ | _ | _, _, _⟩ | _ | _ <;>
      simp [World.known, Beat.isHandled, Beat.failure?, here]
  | @offerWritten purpose i todo message deadline o here =>
    cases purpose <;> simp [World.known, Beat.isHandled, Beat.failure?, here]
  | offerFailed here ends setback | unopened here setback =>
    cases setback <;> simp [World.known, Beat.isHandled, Beat.failure?, here]
  | refresh here carried | heed here carried =>
    simp [World.known, Beat.isHandled, Beat.failure?, Update.needsAnswer, Update.notice?, here,
      carried]
  | refuse here carried request | launch here carried request =>
    simp [World.known, Beat.isHandled, Beat.failure?, Update.needsAnswer, Update.notice?, here,
      carried, request]
  | @ignore u here noToken noNotice noRequest =>
    have silent := u.needsAnswer_eq_false noToken noRequest
    have plain := Update.notice?_eq_none noNotice
    simp [World.known, Beat.isHandled, silent, plain, here]
  | _ => simp_all [World.known, Beat.isHandled, Beat.failure?]

/-- An agent counts its failures from the last update on that was handled. -/
theorem Career.failuresSince_eq (career : Career settings functions entry beats w) :
    failuresSince (marksOf beats) = w.known := by
  induction career with
  | nil => rfl
  | snoc course step ih =>
    rw [marksOf_snoc, failuresSince, List.foldl_append, count_marks, (deed_of_step step).known_eq]
    rw [failuresSince] at ih
    rw [ih]

end Counting

/-! ## From a recovery to the session that it asks for -/

/-- The agent is asked to shut down, for the first time. -/
def Beat.asksShutdown (b : Beat) : Prop :=
  b.act = some .requestShutdown ∧ b.before.isShutdown = false

/-- What has become of a recovery that is to ask for a session at some time. -/
inductive Awaited (attempt due : Nat) : List Beat → World → Prop where
  /-- The time has not come, and nobody has asked for a shutdown. -/
  | waiting {after : List Beat} {w : World} (stands : w.control = .backingOff attempt due)
      (early : w.clock ≤ due) (unasked : w.isShutdown = false)
      (idle : ∀ b ∈ after, b.opens = false) (quiet : ∀ b ∈ after, ¬b.asksShutdown)
      (counted : w.failures = attempt) : Awaited attempt due after w
  /-- A shutdown has just been asked for. -/
  | asked {after : List Beat} {w : World} (stands : w.control = .backingOff attempt due)
      (early : w.clock ≤ due) (asked : w.isShutdown = true) (idle : ∀ b ∈ after, b.opens = false)
      (request : ∃ b ∈ after, b.asksShutdown)
      (now : ∀ b ∈ after, b.asksShutdown → b.before.clock = w.clock)
      (counted : w.failures = attempt) : Awaited attempt due after w
  /-- The session was asked for, and at no other time than this, and nobody had asked for a shutdown
  before this time. -/
  | opened {before after : List Beat} {b : Beat} {w : World}
      (idle : ∀ x ∈ before, x.opens = false) (opens : b.opens = true)
      (stood : b.before.control = .backingOff attempt due)
      (unasked : ∀ r ∈ before, r.asksShutdown → r.before.clock = due)
      (punctual : b.before.clock = due) : Awaited attempt due (before ++ b :: after) w
  /-- The recovery was given up at the time at which a shutdown was asked for. -/
  | quit {before after : List Beat} {b : Beat} {w : World}
      (idle : ∀ x ∈ before ++ [b], x.opens = false)
      (stood : b.before.control = .backingOff attempt due)
      (request : ∃ r ∈ before, r.asksShutdown ∧ r.before.clock = b.before.clock)
      (resumed : b.move.world.control = .looping) (counted : b.move.world.failures = attempt) :
      Awaited attempt due (before ++ b :: after) w

section Awaiting

variable {attempt due : Nat} {after : List Beat} {w : World} {act : Option Act} {m : Move}

/-- No time passes for an agent that has something to do. -/
theorem Deed.waits {ms : Nat} (deed : Deed w (some (.elapse ms)) m) :
    w.proceed = none ∧ (∀ wake, w.wake? = some wake → w.clock + ms ≤ wake) ∧
      m = ⟨{ w with clock := w.clock + ms }, []⟩ := by
  cases deed with
  | elapse _ may =>
    obtain ⟨waits, early⟩ := Bool.and_eq_true _ _ ▸ may
    refine ⟨Option.isNone_iff_eq_none.1 waits, fun wake wakes => ?_, rfl⟩
    simpa [wakes] using early

/-- A recovery waits for its time, unless a shutdown is asked for. -/
theorem Awaited.deed_waiting (deed : Deed w act m) (stands : w.control = .backingOff attempt due)
    (early : w.clock ≤ due) (unasked : w.isShutdown = false)
    (idle : ∀ b ∈ after, b.opens = false) (quiet : ∀ b ∈ after, ¬b.asksShutdown)
    (counted : w.failures = attempt) : Awaited attempt due (after ++ [⟨w, act, m⟩]) m.world := by
  have last : (⟨w, act, m⟩ : Beat) ∈ after ++ [⟨w, act, m⟩] := by simp
  have silent (other : act ≠ some .requestShutdown) : ¬(⟨w, act, m⟩ : Beat).asksShutdown :=
    fun asks => other asks.1
  cases deed with
  | reopenLater here _ past =>
    obtain ⟨rfl, rfl⟩ : attempt = _ ∧ due = _ := by simpa [stands] using here
    have unasked : ∀ r ∈ after, r.asksShutdown → r.before.clock = due := fun r member asks =>
      absurd asks (quiet r member)
    exact .opened idle rfl stands unasked (Nat.le_antisymm early past)
  | quitBackOff here asked | reopenAnyway here asked => simp [unasked] at asked
  | shutDownAgain asked => simp [unasked] at asked
  | shutDown =>
    refine .asked stands early rfl (forall_snoc idle rfl) ⟨_, last, rfl, unasked⟩ ?_ counted
    exact forall_snoc (fun r member asks => absurd asks (quiet r member)) fun _ => rfl
  | peer i act =>
    exact .waiting stands early unasked (forall_snoc idle rfl)
      (forall_snoc quiet (silent (by simp))) counted
  | elapse ms may =>
    have wakes : w.wake? = some due := by rw [World.wake?, stands]
    have := (Deed.elapse ms may).waits.2.1 due wakes
    exact .waiting stands this unasked (forall_snoc idle rfl)
      (forall_snoc quiet (silent (by simp))) counted
  | _ => simp_all

/-- A recovery is given up as soon as a shutdown was asked for, but for one that is due. -/
theorem Awaited.deed_asked (deed : Deed w act m) (stands : w.control = .backingOff attempt due)
    (early : w.clock ≤ due) (asked : w.isShutdown = true) (idle : ∀ b ∈ after, b.opens = false)
    (request : ∃ b ∈ after, b.asksShutdown)
    (now : ∀ b ∈ after, b.asksShutdown → b.before.clock = w.clock)
    (counted : w.failures = attempt) : Awaited attempt due (after ++ [⟨w, act, m⟩]) m.world := by
  have requested : ∃ b ∈ after ++ [⟨w, act, m⟩], b.asksShutdown := by
    obtain ⟨b, member, asks⟩ := request
    exact ⟨b, List.mem_append_left _ member, asks⟩
  cases deed with
  | quitBackOff here =>
    obtain ⟨r, member, asks⟩ := request
    exact .quit (forall_snoc idle rfl) stands ⟨r, member, asks, now r member asks⟩ rfl counted
  | reopenAnyway here _ past =>
    obtain ⟨rfl, rfl⟩ : attempt = _ ∧ due = _ := by simpa [stands] using here
    have punctual := Nat.le_antisymm early past
    exact .opened idle rfl stands (fun r member asks => (now r member asks).trans punctual) punctual
  | reopenLater here unasked => simp [asked] at unasked
  | shutDown unasked => simp [asked] at unasked
  | peer | shutDownAgain =>
    exact .asked stands early asked (forall_snoc idle rfl) requested
      (forall_snoc now fun _ => rfl) counted
  | elapse ms may =>
    have busy := (Deed.elapse ms may).waits.1
    simp [World.proceed, stands, asked] at busy
  | _ => simp_all

theorem Awaited.deed (awaited : Awaited attempt due after w) (deed : Deed w act m) :
    Awaited attempt due (after ++ [⟨w, act, m⟩]) m.world := by
  cases awaited with
  | waiting stands early unasked idle quiet counted =>
    exact .deed_waiting deed stands early unasked idle quiet counted
  | asked stands early asked idle request now counted =>
    exact .deed_asked deed stands early asked idle request now counted
  | @opened before after b _ idle opens stood unasked punctual =>
    rw [List.append_assoc, List.cons_append]
    exact .opened idle opens stood unasked punctual
  | @quit before after b _ idle stood request resumed counted =>
    rw [List.append_assoc, List.cons_append]
    exact .quit idle stood request resumed counted

theorem Course.awaited {v : World} (course : Course w after v)
    (stands : w.control = .backingOff attempt due) (early : w.clock ≤ due)
    (unasked : w.isShutdown = false) (counted : w.failures = attempt) :
    Awaited attempt due after v := by
  induction course with
  | nil => exact .waiting stands early unasked (by simp) (by simp) counted
  | snoc _ step ih => exact ih.deed (deed_of_step step)

end Awaiting

/-- What has become of a recovery that was published in a step. -/
inductive Attempted (settings : Settings) (b : Beat) (after : List Beat) (w : World) :
    Nat → Prop where
  /-- The first one asks for a session in the same step. -/
  | atOnce (opens : b.opens = true) : Attempted settings b after w 1
  /-- A later one waits for its pause, up to the first full millisecond that is not too early. -/
  | later {attempt : Nat} {pause : Span} (second : 2 ≤ attempt) (silent : b.opens = false)
      (length : pause.nanos = settings.backoff.nanos * attempt)
      (full : pause.nanos ≤ pause.ticks * 1_000_000)
      (least : pause.ticks * 1_000_000 < pause.nanos + 1_000_000)
      (awaited : Awaited attempt (b.before.clock + pause.ticks) after w) :
      Attempted settings b after w attempt

/-! ## The end of a recovery -/

/-- Whether the agent is at work on a lost stream. -/
def World.isReopening (w : World) : Bool :=
  match w.control with
  | .recovering _ | .backingOff _ _ | .opening (.recover _) | .offering (.recover _) _ _
  | .writing (.offer (.recover _) _ _) _ _ => true
  | _ => false

/-- How the work on a lost stream ends. -/
inductive Returned (settings : Settings) (functions : List Function) (before : List Beat)
    (b : Beat) : Prop where
  /-- Every function is on offer on a session that was opened just now, and no other is in use. -/
  | resumed (running : b.move.world.phase = .running) (looping : b.move.world.control = .looping)
      (fresh : b.move.world.held + 1 = b.move.world.sessions.length)
      (other : b.before.held < b.move.world.held)
      (offered : acceptedOn b.move.world.held (before ++ [b])
        = (Roster.onOffer functions).announcements .online)
  /-- A shutdown was asked for. -/
  | shutDown (asked : b.move.world.isShutdown = true) (looping : b.move.world.control = .looping)
  /-- There was one failure more than the budget allows. -/
  | exceeded {roster : Roster} {cause : SessionFailure}
      (failed : b.move.world.control = .draining roster (.error cause))
      (leaving : b.move.world.phase = .shuttingDown)
      (counted : failuresSince (marksOf (before ++ [b])) = settings.maxAttempts.toNat + 1)

/-- How an agent recovers lost streams. -/
structure Recovery (settings : Settings) (functions : List Function) (beats : List Beat)
    (w : World) : Prop where
  /-- Every recovery that is published has the number of the failures so far. -/
  numbered : ∀ before b after attempt, beats = before ++ b :: after →
    .published (.recovering attempt) ∈ b.move.happened → attempt = failuresSince (marksOf before)
  attempted : ∀ before b after attempt, beats = before ++ b :: after →
    .published (.recovering attempt) ∈ b.move.happened → Attempted settings b after w attempt
  /-- As long as no shutdown is asked for, the time comes, and then the session is asked for. -/
  comes : ∀ attempt due, w.control = .backingOff attempt due → w.isShutdown = false →
    w.Comes fun v => v.control = .opening (.recover attempt) ∧ v.clock = due
  /-- When one was asked for before this time, no time passes any more and no session is asked
  for. -/
  quits : ∀ attempt due, w.control = .backingOff attempt due → w.isShutdown = true →
    w.clock < due → (∀ ms, w.step (some (.elapse ms)) = none) ∧ w.step (some .endPause) = none ∧
      ∃ m, w.step none = some m ∧ m.world.control = .looping ∧ m.world.failures = w.failures
  returned : ∀ before b after, beats = before ++ b :: after → b.before.isReopening = true →
    b.move.world.isReopening = false → Returned settings functions before b

section Recovering

variable {settings : Settings} {functions : List Function} {entry : Entry} {beats : List Beat}
  {w v : World} {act : Option Act} {m : Move} {attempt due : Nat}

/-- An agent that is stuck stays so. -/
theorem Course.stays_overflowed (course : Course w beats v) (stuck : w.control = .overflowed) :
    v.control = .overflowed := by
  refine course.keeps (P := fun v => v.control = .overflowed) stuck fun u act m stuck deed => ?_
  cases deed with
  | peer | elapse | shutDown | shutDownAgain => exact stuck
  | _ => simp_all

/-- The time at which a wait is over has not passed. -/
def World.IsEarly (w : World) : Prop := ∀ wake, w.wake? = some wake → w.clock ≤ wake

theorem Deed.isEarly (deed : Deed w act m) (early : w.IsEarly) : m.world.IsEarly := by
  intro wake wakes
  cases deed with
  | elapse ms may => exact (Deed.elapse ms may).waits.2.1 wake wakes
  | peer | shutDown | shutDownAgain => exact early wake wakes
  | awaitSpace | rest | launch | backOff =>
    obtain rfl := Option.some.inj wakes
    exact Nat.le_add_right _ _
  | offerFailed here ends setback | unopened here setback =>
    cases setback with
    | retrying =>
      obtain rfl := Option.some.inj wakes
      exact Nat.le_add_right _ _
    | _ => simp [World.wake?] at wakes
  | _ => simp [World.wake?] at wakes

theorem Career.isEarly (career : Career settings functions entry beats w) : w.IsEarly :=
  career.keeps (by simp [World.IsEarly, World.wake?, World.create]) fun _ _ _ early deed =>
    deed.isEarly early

theorem comes_of_backingOff (stands : w.control = .backingOff attempt due) (early : w.IsEarly)
    (unasked : w.isShutdown = false) :
    w.Comes fun v => v.control = .opening (.recover attempt) ∧ v.clock = due := by
  have wakes : w.wake? = some due := by rw [World.wake?, stands]
  refine .due wakes (early due wakes) (fun before => ?_) ?_
  · simp [World.proceed, stands, unasked, Nat.not_le.2 before]
  · have step : { w with clock := due }.step none
        = some ((Move.stay { w with clock := due }).askSession (.recover attempt)) := by
      simp [World.step, World.proceed, stands, unasked]
    exact .after step (.inl rfl) (.here ⟨rfl, rfl⟩)

/-- What is published of a phase is this phase. -/
theorem eq_of_published {old new phase : Phase}
    (member : .published phase ∈ Move.publication old new) : phase = new := by
  simp [Move.publication] at member
  exact member.2

theorem Deed.attempted (deed : Deed w act m) (course : Course m.world beats v)
    (sane : v.control ≠ .overflowed) (published : .published (.recovering attempt) ∈ m.happened) :
    attempt = w.known ∧ Attempted w.settings ⟨w, act, m⟩ beats v attempt := by
  cases deed with
  | reopen here left unasked first =>
    obtain rfl : attempt = w.failures + 1 :=
      Phase.recovering.inj (eq_of_published (by simpa using published))
    refine ⟨by simp [World.known, here], ?_⟩
    rw [first]
    exact .atOnce (by simp [Beat.opens, Happening.opens])
  | mismeasure => exact absurd (course.stays_overflowed rfl) sane
  | @backOff cause pause here small left unasked later length =>
    obtain rfl : attempt = w.failures + 1 :=
      Phase.recovering.inj (eq_of_published (by simpa using published))
    refine ⟨by simp [World.known, here], ?_⟩
    have bounds := pause.ticks_least
    refine .later (by omega) ?_ (Span.nanos_of_times? length) bounds.1 bounds.2 ?_
    · simp [Beat.opens, Happening.opens, opens_publication, -List.any_eq_false]
    · exact course.awaited rfl (Nat.le_add_right _ _) unasked rfl
  | installNext | drain | giveUp | stop =>
    have equal := eq_of_published (by simpa using published)
    simp at equal
  | offerFailed here ends setback | unopened here setback => cases setback <;> simp at published
  | _ => simp at published

theorem Deed.returned (deed : Deed w act m) (career : Career settings functions entry beats w)
    (counted : failuresSince (marksOf (beats ++ [⟨w, act, m⟩])) = m.world.known)
    (reopening : w.isReopening = true) (recovered : m.world.isReopening = false)
    (sane : m.world.control ≠ .overflowed) : Returned settings functions beats ⟨w, act, m⟩ := by
  have sound := Career.sound career
  have standing := sound.standing
  cases deed with
  | @installNext attempt i here =>
    have offered : w.offered? = some i := by rw [World.offered?, here]
    have serving : w.isServing = true := by simp [World.isServing, Purpose.isFirst, here]
    have fresh := standing.fresh i offered
    have used := standing.used serving
    have apart := standing.apart serving i offered
    refine .resumed rfl rfl fresh ?_ ?_
    · show w.held < i
      omega
    · rw [acceptedOn_append, Career.accepted_whole career here]
      simp [acceptedOn, signsOn_singleton, Beat.signs, Beat.heard, World.shown, shown_publication,
        here]
  | desist here small left asked | quitBackOff here asked => exact .shutDown asked rfl
  | giveUp here small exhausted =>
    have within := career.bounded.within (by simp [World.isWithdrawing, here]) (by simp [here])
    refine .exceeded rfl rfl (counted.trans ?_)
    rw [← sound.settings]
    simp only [World.known]
    omega
  | miscount | mismeasure => exact absurd rfl sane
  | offerFailed here ends setback | unopened here setback =>
    cases setback <;> simp_all [World.isReopening]
  | @awaitSpace task message here =>
    rcases task with ⟨_ | _ | _, _, _⟩ | _ | _ <;> simp_all [World.isReopening]
  | @offer purpose i f todo here | @offerWritten purpose i todo message deadline o here
  | @opened purpose session here => cases purpose <;> simp_all [World.isReopening]
  | @installFirst purpose i here first =>
    cases purpose <;> simp_all [World.isReopening, Purpose.isFirst]
  | _ => simp_all [World.isReopening]

/-- As long as failures can be counted and pauses be measured, an agent recovers in this way. -/
theorem Career.recovers (career : Career settings functions entry beats w)
    (sane : w.control ≠ .overflowed) : Recovery settings functions beats w where
  numbered := by
    rintro before b after attempt rfl published
    obtain ⟨earlier, step, later⟩ := career.around
    rw [Career.failuresSince_eq earlier]
    exact ((deed_of_step step).attempted later sane published).1
  attempted := by
    rintro before b after attempt rfl published
    obtain ⟨earlier, step, later⟩ := career.around
    rw [← (Career.sound earlier).settings]
    exact ((deed_of_step step).attempted later sane published).2
  comes attempt due stands unasked := comes_of_backingOff stands career.isEarly unasked
  quits attempt due stands asked before := by
    have step : w.step none = some ((Move.stay w).goto .looping) := by
      simp [World.step, World.proceed, stands, asked]
    refine ⟨fun ms => ?_, ?_, _, step, rfl, rfl⟩
    · simp [World.step, World.act, World.mayElapse, World.isWaiting, World.proceed, stands, asked]
    · simp [World.step, World.act, stands, before]
  returned := by
    rintro before b after rfl reopening recovered
    obtain ⟨earlier, step, later⟩ := career.around
    have all : Career settings functions entry (before ++ [b]) b.move.world := earlier.snoc step
    have going : b.move.world.control ≠ .overflowed := fun stuck =>
      sane (later.stays_overflowed stuck)
    exact (deed_of_step step).returned earlier all.failuresSince_eq reopening recovered going

/-- A run in which the stream ends, the next session is refused, the one after it is opened and ends
as well, and a shutdown is asked for while the third recovery waits. -/
def setbacks : List (Option Act) :=
  [some (.answerOpen (.ok (.start "first" default))), none, none, none, some .run,
    some (.peer 0 (.endFeed .completed)), none, none,
    some (.answerOpen (.error (.connection "refused"))), none, some (.elapse 2000), none,
    some (.answerOpen (.ok (.start "second" default))), none, none, none,
    some (.peer 1 (.endFeed .completed)), none, none, some (.elapse 1000), some .requestShutdown,
    none, none, none, none, none]

theorem recovers_from_setbacks :
    ∃ beats w, Career .standard [default] .start beats w ∧ w.control ≠ .overflowed ∧
      w.phase = .stopped ∧
      ((beats.filter Beat.opens).map fun b => (b.before.failures, b.before.clock))
        = [(0, 0), (2, 2000)] ∧
      failuresSince (marksOf beats) = 3 ∧ Recovery .standard [default] beats w := by
  have played : ((World.create .standard [default] .start).world.replay setbacks).map
      (fun run => (run.2.isOverflowed, run.2.phase,
        (run.1.filter Beat.opens).map (fun b => (b.before.failures, b.before.clock)),
        failuresSince (marksOf run.1)))
        = some (false, .stopped, [(0, 0), (2, 2000)], 3) := by decide +kernel
  obtain ⟨⟨beats, w⟩, replayed, seen⟩ := Option.map_eq_some_iff.1 played
  simp only [Prod.mk.injEq] at seen
  obtain ⟨going, stopped, opens, failures⟩ := seen
  have sane : w.control ≠ .overflowed := fun stuck => by
    simp [World.isOverflowed_iff.2 stuck] at going
  have career : Career .standard [default] .start beats w := .of_replay replayed
  exact ⟨beats, w, career, sane, stopped, opens, failures, career.recovers sane⟩

end Recovering

end Agent

end FunctionAgent
