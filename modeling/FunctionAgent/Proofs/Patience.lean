import FunctionAgent.Proofs.Debts
import FunctionAgent.Proofs.Executors
/-!
# A slow executor does not hold the agent up

The agent waits for the executor up to the first full millisecond that is not before its limit. What
decides the answer to the call is what the executor says if it says it sooner, and the limit if this
comes later or never (`Settles`). The answer is tried as soon as it is settled (`Launched`), and
what has arrived meanwhile is handled next (`Dispatch`).
-/

set_option autoImplicit false

namespace FunctionAgent.Agent

/-- How the answer to a call is settled: after how many milliseconds from the start, and what about
the start it tells. An answer of the executor counts up to the first full millisecond that is not
before the limit, at which the wait is over; when the two meet either may come first. -/
inductive Settles (limit : Span) (reaction : Reaction) : Nat → Except StartFailure Unit → Prop where
  | own {delay : Nat} {answer : Except StartFailure Unit} (reacts : reaction = some (delay, answer))
      (inTime : delay ≤ limit.ticks) : Settles limit reaction delay answer
  | timedOut (late : ∀ delay answer, reaction = some (delay, answer) → limit.ticks ≤ delay) :
      Settles limit reaction limit.ticks (.error (.timedOut limit))

/-- The answer that the agent begins to write in a step, with the time. -/
def Beat.attempt? (b : Beat) : Option (Nat × Message) :=
  match b.act, b.before.control with
  | none, .writing .answer message none => some (b.before.clock, message)
  | _, _ => none

/-- The answers that the agent began to write in some steps, with the times. -/
def attemptsIn (beats : List Beat) : List (Nat × Message) := beats.filterMap Beat.attempt?

/-- What has become of a call on session `i` whose start the executor was asked for at the time
`begun`, up to the end of the work on it. -/
inductive Launched (limit : Span) (reaction : Reaction) (call : Call) (i begun : Nat)
    (beats : List Beat) (w : World) : Prop where
  /-- Neither has the executor answered nor is the limit over. -/
  | waiting (stands : w.control = .starting call (begun + limit.ticks))
      (early : w.clock ≤ begun + limit.ticks)
      (unanswered : ∀ delay answer, reaction = some (delay, answer) → w.clock ≤ begun + delay)
      (unattempted : attemptsIn beats = []) (untried : triesIn beats = [])
  /-- The answer has just been settled. -/
  | settled {delay : Nat} {answer : Except StartFailure Unit}
      (settles : Settles limit reaction delay answer)
      (stands : w.control = .writing .answer (.ofStart call answer) none)
      (punctual : w.clock = begun + delay) (unattempted : attemptsIn beats = [])
      (untried : triesIn beats = [])
  /-- The agent set out to write the answer as soon as it was settled and found no space yet. -/
  | attempted {delay : Nat} {answer : Except StartFailure Unit} {deadline : Nat}
      (settles : Settles limit reaction delay answer)
      (stands : w.control = .writing .answer (.ofStart call answer) (some deadline))
      (once : attemptsIn beats = [(begun + delay, .ofStart call answer)])
      (untried : triesIn beats = [])
  /-- The answer was written or could not be, and the work on the call is over. -/
  | answered {delay : Nat} {answer : Except StartFailure Unit} (result : Except WriteFault Unit)
      (settles : Settles limit reaction delay answer)
      (once : attemptsIn beats = [(begun + delay, .ofStart call answer)])
      (tried : triesIn beats = [(i, .ofStart call answer, result)])
      (goes : match result with
        | .ok () => w.control = .looping
        | .error fault => w.control = .recovering (Session.writeFailure fault))

/-- Whether the agent waits for the executor or writes an answer. -/
def World.isAnswering (w : World) : Bool :=
  match w.control with
  | .starting _ _ | .writing .answer _ _ => true
  | _ => false

section Steps

variable {x : Executor} {limit : Span} {earlier : List Nat} {w v : World} {act : Option Act}
  {m : Move} {beats : List Beat} {begun : Nat} {call : Call} {i : Nat}

theorem attemptsIn_append (beats more : List Beat) :
    attemptsIn (beats ++ more) = attemptsIn beats ++ attemptsIn more := List.filterMap_append

/-- Whether the agent is at work on a call whose start it asked for. -/
theorem Launched.isAnswering {reaction : Reaction}
    (launched : Launched limit reaction call i begun beats w) (busy : w.isBusy = true) :
    w.isAnswering = true := by
  cases launched with
  | waiting stands | settled _ stands | attempted _ stands => rw [World.isAnswering, stands]
  | answered result _ _ _ goes =>
    cases result with
    | ok => simp [World.isBusy, goes] at busy
    | error => simp [World.isBusy, goes] at busy

theorem attemptsIn_snoc {b : Beat} (silent : b.attempt? = none) :
    attemptsIn (beats ++ [b]) = attemptsIn beats := by
  simp [attemptsIn, silent]

theorem triesIn_snoc {b : Beat} (silent : b.move.happened.filterMap Happening.tried? = []) :
    triesIn (beats ++ [b]) = triesIn beats := by
  rw [triesIn_append, triesIn_singleton, silent, List.append_nil]

/-- While the agent waits for the executor, the answer is settled by an answer or by the limit. -/
theorem Launched.deed_waiting (deed : Deed w act m)
    (limited : w.settings.dispatchTimeout = limit)
    (permits : x.Permits (earlier ++ [begun]) ⟨w, act, m⟩)
    (stands : w.control = .starting call (begun + limit.ticks))
    (early : w.clock ≤ begun + limit.ticks)
    (unanswered : ∀ delay answer, x earlier.length = some (delay, answer) → w.clock ≤ begun + delay)
    (unattempted : attemptsIn beats = []) (untried : triesIn beats = []) :
    Launched limit (x earlier.length) call i begun (beats ++ [⟨w, act, m⟩]) m.world := by
  have silent : (⟨w, act, m⟩ : Beat).attempt? = none := by
    cases act <;> simp [Beat.attempt?, stands]
  rw [← attemptsIn_snoc silent] at unattempted
  have quiet (none : m.happened.filterMap Happening.tried? = []) :
      triesIn (beats ++ [⟨w, act, m⟩]) = [] := (triesIn_snoc none).trans untried
  cases deed with
  | timeOut here due =>
    obtain ⟨rfl, rfl⟩ : call = _ ∧ begun + limit.ticks = _ := by simpa [stands] using here
    have late (delay answer) (reacts : x earlier.length = some (delay, answer)) :
        limit.ticks ≤ delay := by
      have := unanswered delay answer reacts
      omega
    exact .settled (.timedOut late) (limited ▸ rfl) (Nat.le_antisymm early due) unattempted
      (quiet rfl)
  | started here =>
    obtain ⟨rfl, -⟩ : call = _ ∧ begun + limit.ticks = _ := by simpa [stands] using here
    obtain ⟨delay, reacts, now⟩ := Executor.permits_answer.1 permits
    exact .settled (.own reacts (by omega)) rfl now unattempted (quiet rfl)
  | unstarted cause here =>
    obtain ⟨rfl, -⟩ : call = _ ∧ begun + limit.ticks = _ := by simpa [stands] using here
    obtain ⟨delay, reacts, now⟩ := Executor.permits_answer.1 permits
    exact .settled (.own reacts (by omega)) rfl now unattempted (quiet rfl)
  | elapse ms may =>
    have wakes : w.wake? = some (begun + limit.ticks) := by rw [World.wake?, stands]
    have inTime := (Deed.elapse ms may).waits.2.1 _ wakes
    have further := (Executor.permits_elapse stands).1 permits
    exact .waiting stands inTime further unattempted (quiet rfl)
  | peer | shutDown | shutDownAgain =>
    exact .waiting stands early unanswered unattempted (quiet rfl)
  | _ => simp_all

/-- A message is tried before any time passes. -/
theorem World.proceed_of_writing {task : Task} {message : Message}
    (stands : w.control = .writing task message none) : w.proceed ≠ none := by
  simp only [proceed, stands, write]
  split
  · simp
  · simp
  · contradiction

/-- An answer that is settled is tried at once. -/
theorem Launched.deed_settled {delay : Nat} {answer : Except StartFailure Unit}
    (deed : Deed w act m) (held : w.held = i)
    (settles : Settles limit (x earlier.length) delay answer)
    (stands : w.control = .writing .answer (.ofStart call answer) none)
    (punctual : w.clock = begun + delay) (unattempted : attemptsIn beats = [])
    (untried : triesIn beats = []) :
    Launched limit (x earlier.length) call i begun (beats ++ [⟨w, act, m⟩]) m.world := by
  have once (move : Move) : attemptsIn (beats ++ [⟨w, none, move⟩])
      = [(begun + delay, .ofStart call answer)] := by
    rw [attemptsIn_append, unattempted]
    simp [attemptsIn, Beat.attempt?, stands, punctual]
  have tries (move : Move) : triesIn (beats ++ [⟨w, none, move⟩])
      = move.happened.filterMap Happening.tried? := by
    rw [triesIn_append, untried, triesIn_singleton, List.nil_append]
  cases deed with
  | awaitSpace here =>
    obtain ⟨rfl, rfl⟩ : Task.answer = _ ∧ Message.ofStart call answer = _ := by
      simpa [stands] using here
    exact .attempted settles rfl (once _) (tries _)
  | answerWritten here =>
    obtain ⟨rfl, -⟩ : Message.ofStart call answer = _ ∧ none = _ := by simpa [stands] using here
    subst held
    exact .answered (.ok ()) settles (once _) (tries _) rfl
  | answerFailed here =>
    obtain ⟨rfl, -⟩ : Message.ofStart call answer = _ ∧ none = _ := by simpa [stands] using here
    subst held
    exact .answered (.error _) settles (once _) (tries _) rfl
  | elapse ms may => exact absurd (Deed.elapse ms may).waits.1 (World.proceed_of_writing stands)
  | peer | shutDown | shutDownAgain =>
    refine .settled settles stands punctual ?_ ?_
    · exact (attemptsIn_snoc rfl).trans unattempted
    · exact (triesIn_snoc rfl).trans untried
  | _ => simp_all

/-- An answer for which there was no space is tried until there is, or its time is over. -/
theorem Launched.deed_attempted {delay deadline : Nat} {answer : Except StartFailure Unit}
    (deed : Deed w act m) (held : w.held = i)
    (settles : Settles limit (x earlier.length) delay answer)
    (stands : w.control = .writing .answer (.ofStart call answer) (some deadline))
    (once : attemptsIn beats = [(begun + delay, .ofStart call answer)])
    (untried : triesIn beats = []) :
    Launched limit (x earlier.length) call i begun (beats ++ [⟨w, act, m⟩]) m.world := by
  have silent : (⟨w, act, m⟩ : Beat).attempt? = none := by
    cases act <;> simp [Beat.attempt?, stands]
  rw [← attemptsIn_snoc silent] at once
  have tries (move : Move) : triesIn (beats ++ [⟨w, act, move⟩])
      = move.happened.filterMap Happening.tried? := by
    rw [triesIn_append, untried, triesIn_singleton, List.nil_append]
  cases deed with
  | answerWritten here =>
    obtain ⟨rfl, -⟩ : Message.ofStart call answer = _ ∧ some deadline = _ := by
      simpa [stands] using here
    subst held
    exact .answered (.ok ()) settles once (tries _) rfl
  | answerFailed here =>
    obtain ⟨rfl, -⟩ : Message.ofStart call answer = _ ∧ some deadline = _ := by
      simpa [stands] using here
    subst held
    exact .answered (.error _) settles once (tries _) rfl
  | peer | shutDown | shutDownAgain | elapse => exact .attempted settles stands once (tries _)
  | _ => simp_all

/-- One step of the work on a call. -/
theorem Launched.deed (launched : Launched limit (x earlier.length) call i begun beats w)
    (deed : Deed w act m) (busy : w.isBusy = true) (held : w.held = i)
    (limited : w.settings.dispatchTimeout = limit)
    (permits : x.Permits (earlier ++ [begun]) ⟨w, act, m⟩) :
    Launched limit (x earlier.length) call i begun (beats ++ [⟨w, act, m⟩]) m.world := by
  have answering := launched.isAnswering busy
  cases launched with
  | waiting stands early unanswered unattempted untried =>
    exact .deed_waiting deed limited permits stands early unanswered unattempted untried
  | settled settles stands punctual unattempted untried =>
    exact .deed_settled deed held settles stands punctual unattempted untried
  | attempted settles stands once untried =>
    exact .deed_attempted deed held settles stands once untried
  | answered result _ _ _ goes =>
    cases result with
    | ok => simp [World.isAnswering, goes] at answering
    | error => simp [World.isAnswering, goes] at answering

/-- While the agent answers a call it begins nothing else. -/
theorem Deed.begins_nothing (deed : Deed w act m) (answering : w.isAnswering = true) (i : Nat) :
    startTimes [⟨w, act, m⟩] = [] ∧ takenOn i [⟨w, act, m⟩] = [] := by
  rw [takenOn, signsOn_singleton]
  cases deed with
  | @awaitSpace task message here => exact ⟨rfl, by simp [Beat.signs, Beat.heard, here]⟩
  | answerWritten here | answerFailed here | timeOut here | started here | unstarted _ here =>
    exact ⟨rfl, by simp [Beat.signs, Beat.heard, World.shown, here]⟩
  | peer | shutDown | shutDownAgain | elapse =>
    exact ⟨rfl, by simp [Beat.signs, Beat.heard, World.shown]⟩
  | _ => simp_all [World.isAnswering]

/-- The work on a call up to its end, with what is left alone meanwhile. -/
theorem Course.launched {s : World} (course : Course s beats v)
    (works : ∀ b ∈ beats, b.before.isBusy = true) (held : s.held = i)
    (limited : s.settings.dispatchTimeout = limit)
    (launched : Launched limit (x earlier.length) call i begun [] s)
    (allows : x.Allows (earlier ++ [begun]) beats) :
    Launched limit (x earlier.length) call i begun beats v ∧ v.held = i ∧
      v.settings.dispatchTimeout = limit ∧ startTimes beats = [] ∧ takenOn i beats = [] := by
  induction course with
  | nil => exact ⟨launched, held, limited, rfl, rfl⟩
  | @snoc v beats act m course step ih =>
    obtain ⟨allows, permits⟩ := Executor.allows_snoc.1 allows
    obtain ⟨launched, held, limited, unasked, untaken⟩ :=
      ih (fun b member => works b (List.mem_append_left _ member)) allows
    have busy : v.isBusy = true := works ⟨v, act, m⟩ (by simp)
    have deed := deed_of_step step
    rw [unasked, List.append_nil] at permits
    obtain ⟨silent, still⟩ := deed.begins_nothing (launched.isAnswering busy) i
    refine ⟨launched.deed deed busy held limited permits, (deed.serves busy).1.trans held, ?_, ?_,
      ?_⟩
    · rw [deed.settings_eq, limited]
    · rw [startTimes_append, unasked, silent, List.append_nil]
    · rw [takenOn, signsOn_append, List.filterMap_append, ← takenOn, ← takenOn, untaken, still,
        List.append_nil]

end Steps

/-! ## What comes of a call -/

/-- What comes of a call whose start the executor was asked for in a step `b` of a run: the steps
`front` up to the state `v` belong to the work on it, and the steps `back` come after it. -/
structure Dispatch (functions : List Function) (limit : Span) (reaction : Reaction) (call : Call)
    (f : Function) (b : Beat) (front : List Beat) (v : World) (back : List Beat) (w : World) :
    Prop where
  asked : b.move.happened.filterMap Happening.started? = [f]
  work : Course b.move.world front v
  rest : Course v back w
  last : v.isBusy = true → back = []
  launched : Launched limit reaction call b.before.held b.before.clock front v
  /-- Nothing else is begun meanwhile. -/
  alone : startTimes front = [] ∧ takenOn b.before.held front = []
  online : v.roster = .onOffer functions ∧ ∀ c ∈ front, c.before.roster = .onOffer functions
  /-- Every further answer is one to an update that is taken later. -/
  others : v.isBusy = false → asksIn back = echoesIn back ++ w.owed
  /-- What arrives meanwhile comes after what waits, and is handled in this order. -/
  queue : v.waiting b.before.held =
    b.before.waiting b.before.held ++ deliveredOn b.before.held front
  order : handledOn b.before.held back ++ w.inHand b.before.held ++ w.waiting b.before.held =
    v.waiting b.before.held ++ deliveredOn b.before.held back

/-- Why the agent leaves session `i` after it has handled an update: this is the notice of a
reconnect, or the answer to it could not be written. -/
inductive Breaks (i : Nat) (beats : List Beat) (u : Update) : SessionFailure → Prop where
  | noticed {notice : Reconnect} (carried : u.payload = some (.reconnect notice)) :
      Breaks i beats u (.reconnectRequested notice.seconds)
  | unanswered {message : Message} {fault : WriteFault} (needs : u.needsAnswer = true)
      (echoed : message.toUpdate.payload = u.payload)
      (tried : (i, message, .error fault) ∈ triesIn beats) :
      Breaks i beats u (.streamEnded fault.message)

/-- How an agent gets on with an executor, whatever this makes of the starts. -/
structure Patience (settings : Settings) (functions : List Function) (x : Executor)
    (beats : List Beat) (w : World) : Prop where
  /-- The wait ends at the first full millisecond that is not before the limit. -/
  rounded : settings.dispatchTimeout.nanos ≤ settings.dispatchTimeout.ticks * 1_000_000 ∧
    settings.dispatchTimeout.ticks * 1_000_000 < settings.dispatchTimeout.nanos + 1_000_000
  /-- What comes before the limit decides the answer, and what comes after the end of the wait does
  not. -/
  settled : ∀ n delay answer, Settles settings.dispatchTimeout (x n) delay answer →
    (∀ d told, x n = some (d, told) → d * 1_000_000 < settings.dispatchTimeout.nanos →
      delay = d ∧ answer = told) ∧
    ((∀ d told, x n = some (d, told) → settings.dispatchTimeout.ticks < d) →
      delay = settings.dispatchTimeout.ticks ∧
        answer = .error (.timedOut settings.dispatchTimeout))
  dispatched : ∀ before b after u call f, beats = before ++ b :: after →
    b.act = none → b.before.control = .handling u → u.payload = some (.call call) →
    UpdateKind.ofNumber u.kind = .request → (Roster.onOffer functions).resolve? call.id = some f →
      ∃ front v back, after = front ++ back ∧
        Dispatch functions settings.dispatchTimeout (x (startTimes before).length) call f b front v
          back w
  /-- The run is the same with any executor that differs only in answers that come too late. -/
  abandons : ∀ y : Executor, (∀ n, x.within settings.dispatchTimeout n =
    y.within settings.dispatchTimeout n) → y.Allows [] beats
  /-- The agent needs nobody but the executor for coming to the end of the work on an update. -/
  finishes : w.isBusy = true →
    ∃ more v, x.Leads (startTimes beats) w more v ∧ v.isBusy = false
  /-- Nor does it for handling all that waits, unless a shutdown was asked for or one of these
  updates makes it leave the session. -/
  catchesUp : w.control = .looping → w.isShutdown = false →
    ∃ more v, x.Leads (startTimes beats) w more v ∧ handledOn w.held more <+: w.waiting w.held ∧
      (v.control = .looping ∧ handledOn w.held more = w.waiting w.held ∨
        ∃ cause updates u, v.control = .recovering cause ∧
          handledOn w.held more = updates ++ [u] ∧ Breaks w.held more u cause)

section Settling

variable {limit : Span} {reaction : Reaction} {delay d : Nat}
  {answer told : Except StartFailure Unit}

/-- An answer that comes before the end of the wait decides. -/
theorem Settles.of_early (settles : Settles limit reaction delay answer)
    (reacts : reaction = some (d, told)) (early : d < limit.ticks) : delay = d ∧ answer = told := by
  cases settles with
  | own reacts' => simpa [reacts, eq_comm] using reacts'
  | timedOut late =>
    have := late d told reacts
    omega

/-- An answer that comes after the end of the wait does not. -/
theorem Settles.of_late (settles : Settles limit reaction delay answer)
    (late : ∀ d told, reaction = some (d, told) → limit.ticks < d) :
    delay = limit.ticks ∧ answer = .error (.timedOut limit) := by
  cases settles with
  | own reacts inTime =>
    have := late _ _ reacts
    omega
  | timedOut => exact ⟨rfl, rfl⟩

end Settling

section Career

variable {settings : Settings} {functions : List Function} {entry : Entry} {beats more : List Beat}
  {x : Executor} {w v : World} {i : Nat}

theorem Career.timed (career : Career settings functions entry beats w)
    (allows : x.Allows [] beats) : w.Timed x settings.dispatchTimeout (startTimes beats) := by
  have started : (World.create settings functions entry.purpose).world.Timed x
      settings.dispatchTimeout [] := trivial
  exact (Course.timed career rfl started allows).1

theorem Career.worded (career : Career settings functions entry beats w) : w.Worded :=
  Course.worded career trivial

/-- All functions are on offer while the agent takes updates, and when it has lost the stream. -/
theorem Sound.roster_eq (sound : Sound settings functions w)
    (works : w.isDispatching = true ∨ ∃ cause, w.control = .recovering cause) :
    w.roster = .onOffer functions := by
  apply sound.offered.eq_onOffer
  have listed := sound.offered.listed
  rcases works with works | ⟨cause, stands⟩
  · unfold World.isDispatching at works
    split at works <;> simp_all [World.Listed]
  · simpa [World.Listed, stands] using listed

theorem World.dispatching_of_busy (busy : w.isBusy = true) : w.isDispatching = true := by
  unfold isBusy at busy
  split at busy <;> simp_all [isDispatching]

/-- What was taken since and what waits now is what waited and what was delivered since. -/
theorem Career.taken_append (career : Career settings functions entry beats w)
    (course : Course w more v) (i : Nat) :
    takenOn i more ++ v.waiting i = w.waiting i ++ deliveredOn i more := by
  have whole : Career settings functions entry (beats ++ more) v := career.append course
  have after := Career.taken_append_waiting whole i
  rw [deliveredOn_append, ← career.taken_append_waiting i, takenOn, signsOn_append,
    List.filterMap_append, List.append_assoc, List.append_assoc] at after
  exact List.append_cancel_left after

/-- What is taken when nothing is in hand is handled, or is in hand then. -/
theorem Career.taken_eq_append (career : Career settings functions entry beats w)
    (course : Course w more v) (free : w.inHand i = []) :
    takenOn i more = handledOn i more ++ v.inHand i := by
  have whole : Career settings functions entry (beats ++ more) v := career.append course
  have after := Career.taken_eq whole i
  have before := career.taken_eq i
  rw [free, List.append_nil] at before
  rw [handledOn_append, ← before, takenOn, signsOn_append, List.filterMap_append,
    List.append_assoc] at after
  exact List.append_cancel_left after

/-- A look for an update finds the first one that waits. -/
theorem World.turn_of_waiting {u : Update} {rest : List Update} (stands : w.control = .looping)
    (unasked : w.isShutdown = false) (waits : w.waiting w.held = u :: rest) :
    w.turn.world.isBusy = true ∧ w.turn.world.held = w.held := by
  have deed := deed_of_turn stands
  have waits : w.current.stream.inbound.queue = u :: rest := waits
  generalize w.turn = m at deed
  cases deed with
  | take => exact ⟨rfl, rfl⟩
  | drain here asked => simp [unasked] at asked
  | rest here _ nothing =>
    obtain ⟨dry, -⟩ := w.current.receive_eq_none_iff.1 nothing
    simp [waits] at dry
  | lose here _ lost =>
    obtain ⟨-, dry, -⟩ := Session.receive_eq_error lost
    simp [waits] at dry
  | _ => simp_all

/-- A failure of a tick that found an update is due to this update. -/
theorem Tick.Fails.breaks {tick : List Beat} {u : Update} {cause : SessionFailure}
    (fails : Tick.Fails w tick cause) (taken : takenOn w.held tick = [u])
    (waits : w.current.stream.inbound.queue ≠ []) : Breaks w.held tick u cause := by
  cases fails with
  | ended dry => exact absurd dry waits
  | noticed took carried =>
    obtain rfl : u = _ := by simpa [taken] using took
    exact .noticed carried
  | unanswered took needs echoed tried =>
    obtain rfl : u = _ := by simpa [taken] using took
    exact .unanswered needs echoed (by simp [tried])

theorem Breaks.append {tick : List Beat} {u : Update} {cause : SessionFailure}
    (breaks : Breaks i more u cause) : Breaks i (tick ++ more) u cause := by
  cases breaks with
  | noticed carried => exact .noticed carried
  | unanswered needs echoed tried =>
    exact .unanswered needs echoed (by rw [triesIn_append]; exact List.mem_append_right _ tried)

/-- The agent works off what waits, one update after the other, as long as it keeps the session. -/
theorem Career.catches_up (career : Career settings functions entry beats w)
    (allows : x.Allows [] beats) (stands : w.control = .looping) (unasked : w.isShutdown = false) :
    ∃ more v, x.Leads (startTimes beats) w more v ∧
      (v.control = .looping ∧ v.waiting w.held = [] ∨
        ∃ cause updates u, v.control = .recovering cause ∧
          takenOn w.held more = updates ++ [u] ∧ Breaks w.held more u cause) := by
  induction count : (w.waiting w.held).length generalizing w beats with
  | zero => exact ⟨[], w, .nil _ _ _, .inl ⟨stands, List.length_eq_zero_iff.1 count⟩⟩
  | succ n ih =>
    obtain ⟨u, rest, waits⟩ := List.exists_cons_of_length_eq_add_one count
    have queue : w.current.stream.inbound.queue = u :: rest := waits
    obtain ⟨busy, kept⟩ := World.turn_of_waiting stands unasked waits
    have looked : w.step none = some w.turn := by simp [World.step, World.proceed, stands]
    have begun : Career settings functions entry (beats ++ [⟨w, none, w.turn⟩]) w.turn.world :=
      career.snoc looked
    have allowed : x.Allows [] (beats ++ [⟨w, none, w.turn⟩]) :=
      Executor.allows_snoc.2 ⟨allows, trivial⟩
    have limited : w.turn.world.settings.dispatchTimeout = settings.dispatchTimeout := by
      rw [(Career.sound begun).settings]
    have timed := Career.timed begun allowed
    rw [startTimes_append] at timed
    obtain ⟨front, v, leads, works, free⟩ := leads_of_busy limited timed busy
    have held : v.held = w.held := (leads.course.held_of_busy works).trans kept
    have tick : Tick w (⟨w, none, w.turn⟩ :: front) v :=
      .look stands unasked looked leads.course works free
    have ticking := tick.ticking career.sound
    have leads := leads.after looked rfl trivial
    have taken : takenOn w.held (⟨w, none, w.turn⟩ :: front) = [u] := by
      simpa [queue] using ticking.taken
    cases upshot : v.upshot? with
    | none => exact absurd upshot ticking.ends
    | some outcome =>
      cases outcome with
      | idle =>
        have dry := (ticking.idles.1 upshot).1
        simp [queue] at dry
      | failed cause =>
        have breaks := ((ticking.fails cause).1 upshot).breaks taken (by simp [queue])
        exact ⟨_, v, leads, .inr ⟨cause, [], u, (ticking.recovers cause upshot).2, taken, breaks⟩⟩
      | handled =>
        have left : v.waiting w.held = rest := by
          have passes := career.taken_append leads.course w.held
          rw [taken, leads.deliveredOn_eq, List.append_nil, waits] at passes
          exact (List.cons.inj passes).2
        have whole : Career settings functions entry (beats ++ ⟨w, none, w.turn⟩ :: front) v :=
          career.append leads.course
        have permitted : x.Allows [] (beats ++ ⟨w, none, w.turn⟩ :: front) :=
          Executor.allows_append.2 ⟨allows, leads.allows⟩
        obtain ⟨more, last, further, reached⟩ := ih whole permitted
          (looping_of_handled upshot) (leads.isShutdown_eq.trans unasked)
          (by rw [held, left]; simpa [waits] using count)
        rw [startTimes_append] at further
        rw [held] at reached
        refine ⟨_, last, leads.append further, reached.imp_right ?_⟩
        rintro ⟨cause, updates, u', stands, took, breaks⟩
        refine ⟨cause, u :: updates, u', stands, ?_, breaks.append⟩
        rw [takenOn, signsOn_append, List.filterMap_append, ← takenOn, ← takenOn, taken, took]
        rfl

/-- A course is known from its steps. -/
theorem Course.unique {u : World} (course : Course w more u) (other : Course w more v) : u = v := by
  have first := World.replay_eq_some_iff.2 ⟨course, rfl⟩
  have second := World.replay_eq_some_iff.2 ⟨other, rfl⟩
  exact (Prod.mk.inj (Option.some.inj (first.symm.trans second))).2

/-- The work on an update is the first part of a course, or all of it. -/
theorem Course.work (course : Course w more v) (busy : w.isBusy = true) :
    ∃ front u back, more = front ++ back ∧ Course w front u ∧ Course u back v ∧
      (∀ b ∈ front, b.before.isBusy = true) ∧ (u.isBusy = true → back = []) := by
  rcases course.first_free busy with ⟨working, works⟩ | ⟨front, back, u, rfl, first, works, free⟩
  · exact ⟨more, v, [], (List.append_nil _).symm, course, .nil, works, fun _ => rfl⟩
  · obtain ⟨u', same, rest⟩ := course.split
    obtain rfl := first.unique same
    refine ⟨front, u, back, rfl, first, rest, works, fun working => ?_⟩
    simp [free] at working

/-- A call of a function on offer makes the agent ask for its start. -/
theorem Deed.launches {m : Move} {u : Update} {call : Call} {f : Function} (deed : Deed w none m)
    (stands : w.control = .handling u) (carried : u.payload = some (.call call))
    (request : UpdateKind.ofNumber u.kind = .request) (known : w.roster.resolve? call.id = some f) :
    m.happened.filterMap Happening.started? = [f] ∧
      m.world = { w with
        control := .starting call (w.clock + w.settings.dispatchTimeout.ticks) } := by
  cases deed with
  | launch here carries _ resolved =>
    obtain rfl : u = _ := by simpa [stands] using here
    obtain rfl : call = _ := by simpa [carried] using carries
    obtain rfl : f = _ := by simpa [known] using resolved
    exact ⟨rfl, rfl⟩
  | refuse here carries _ unknown =>
    obtain rfl : u = _ := by simpa [stands] using here
    obtain rfl : call = _ := by simpa [carried] using carries
    simp [known] at unknown
  | _ => simp_all

/-- Where the agent stands after the work on a call, or in it. -/
theorem Launched.stands {limit : Span} {reaction : Reaction} {call : Call} {begun : Nat}
    (launched : Launched limit reaction call i begun more v) :
    (v.isDispatching = true ∨ ∃ cause, v.control = .recovering cause) ∧ v.inHand i = [] := by
  cases launched with
  | waiting stands | settled _ stands | attempted _ stands =>
    simp [World.isDispatching, World.inHand, stands]
  | answered result _ _ _ goes =>
    cases result with
    | ok => simp [World.isDispatching, World.inHand, goes]
    | error => simp [World.isDispatching, World.inHand, goes]

/-- What comes of a call of a function on offer. -/
theorem Career.dispatched {before after : List Beat} {b : Beat} {u : Update} {call : Call}
    {f : Function} (career : Career settings functions entry (before ++ b :: after) w)
    (allows : x.Allows [] (before ++ b :: after)) (own : b.act = none)
    (stands : b.before.control = .handling u) (carried : u.payload = some (.call call))
    (request : UpdateKind.ofNumber u.kind = .request)
    (known : (Roster.onOffer functions).resolve? call.id = some f) :
    ∃ front v back, after = front ++ back ∧
      Dispatch functions settings.dispatchTimeout (x (startTimes before).length) call f b front v
        back w := by
  obtain ⟨earlier, step, later⟩ := career.around
  obtain ⟨s, act, m⟩ := b
  obtain rfl : act = none := own
  have stands : s.control = .handling u := stands
  have sound := Career.sound earlier
  have limited : s.settings.dispatchTimeout = settings.dispatchTimeout := by rw [sound.settings]
  have roster : s.roster = .onOffer functions :=
    sound.roster_eq (.inl (by simp [World.isDispatching, stands]))
  obtain ⟨asked, world⟩ :=
    (deed_of_step step).launches stands carried request (roster.symm ▸ known)
  have begun : Career settings functions entry (before ++ [⟨s, none, m⟩]) m.world :=
    earlier.snoc step
  have busy : m.world.isBusy = true := by rw [world]; rfl
  obtain ⟨front, v, back, rfl, work, rest, works, last⟩ := later.work busy
  have time : startTimes [⟨s, none, m⟩] = [s.clock] := by simp [startTimes, asked]
  have allowed : x.Allows (startTimes before ++ [s.clock]) front := by
    have all := (Executor.allows_append.1 allows).2.2
    rw [time] at all
    exact (Executor.allows_append.1 all).1
  have waits : Launched settings.dispatchTimeout (x (startTimes before).length) call s.held s.clock
      [] m.world := by
    rw [world]
    refine .waiting (limited ▸ rfl) (Nat.le_add_right _ _) ?_ rfl rfl
    intro delay answer _
    exact Nat.le_add_right _ _
  obtain ⟨launched, -, -, unasked, untaken⟩ :=
    work.launched works (by rw [world]) (by rw [world, ← limited]) waits allowed
  obtain ⟨place, free⟩ := launched.stands
  have reached : Career settings functions entry (before ++ [⟨s, none, m⟩] ++ front) v :=
    begun.append work
  have online (c : Beat) (member : c ∈ front) : c.before.roster = .onOffer functions := by
    obtain ⟨first, last, rfl⟩ := List.append_of_mem member
    have here := begun.append work.around.1
    exact (Career.sound here).roster_eq (.inl (World.dispatching_of_busy (works c member)))
  refine ⟨front, v, back, rfl, asked, work, rest, last, launched, ⟨unasked, untaken⟩,
    ⟨(Career.sound reached).roster_eq place, online⟩, fun idle => ?_, ?_, ?_⟩
  · have debts := rest.owed_append (Career.worded reached)
    rwa [World.owed_of_free idle] at debts
  · have passes := Career.taken_append begun work s.held
    rw [untaken, world] at passes
    exact passes
  · have passes := Career.taken_append reached rest s.held
    rwa [Career.taken_eq_append reached rest free] at passes

/-- A slow executor does not hold an agent up: whatever it makes of the starts, the agent answers
each call at its time, with what the executor says or that it timed out, and goes on with what has
arrived meanwhile. -/
theorem Career.waits_patiently (career : Career settings functions entry beats w)
    (allows : x.Allows [] beats) : Patience settings functions x beats w where
  rounded := settings.dispatchTimeout.ticks_least
  settled := by
    intro n delay answer settles
    constructor
    · intro d told reacts early
      have rounded := settings.dispatchTimeout.ticks_least
      exact settles.of_early reacts (by omega)
    · exact settles.of_late
  dispatched := by
    rintro before b after u call f rfl own stands carried request known
    exact Career.dispatched career allows own stands carried request known
  abandons := by
    intro y same
    have started : (World.create settings functions entry.purpose).world.Timed x
        settings.dispatchTimeout [] := trivial
    exact Course.allows_congr career rfl started same allows
  finishes := by
    intro busy
    obtain ⟨more, v, leads, -, free⟩ :=
      leads_of_busy (by rw [career.sound.settings]) (Career.timed career allows) busy
    exact ⟨more, v, leads, free⟩
  catchesUp := by
    intro stands unasked
    obtain ⟨more, v, leads, reached⟩ := Career.catches_up career allows stands unasked
    have free : w.inHand w.held = [] := by simp [World.inHand, stands]
    have idle : v.inHand w.held = [] := by
      rcases reached with ⟨here, -⟩ | ⟨cause, -, -, here, -⟩ <;> simp [World.inHand, here]
    have handled : takenOn w.held more = handledOn w.held more := by
      rw [career.taken_eq_append leads.course free, idle, List.append_nil]
    have passes := career.taken_append leads.course w.held
    rw [handled, leads.deliveredOn_eq, List.append_nil] at passes
    rw [handled] at reached
    refine ⟨more, v, leads, ⟨_, passes⟩, reached.imp_left ?_⟩
    rintro ⟨looping, dry⟩
    rw [dry, List.append_nil] at passes
    exact ⟨looping, passes⟩

/-- An executor that says after some time that it started the function. -/
def starter (delay : Nat) : Executor := fun _ => some (delay, .ok ())

/-- The executor would say too late that it started the function, and a token arrives meanwhile. -/
theorem waits_patiently_for_late_answer :
    ∃ beats w, Career .standard [default] .start beats w ∧ (starter 7000).Allows [] beats ∧
      attemptsIn beats =
        [(5000, .refused ⟨"00000000000000000000000000000000", [1, 2]⟩
            ("function 00000000000000000000000000000000 could not be started: " ++
              "executor did not answer within 5s")),
          (5000, .tokenTaken ⟨"second"⟩)] ∧
      Patience .standard [default] (starter 7000) beats w := by
  have played : ((World.create .standard [default] .start).world.replay (callThen
      [some (.peer 0 (.deliver ⟨0, 0, "", some (.token ⟨"second"⟩)⟩)), some (.elapse 5000), none,
        none, none, none, none, none, some (.elapse 1000), none, none, some (.elapse 1000), none,
        none, some (.elapse 1)])).map
      (fun run => (decide ((starter 7000).Allows [] run.1), attemptsIn run.1)) = some (true,
        [(5000, .refused ⟨"00000000000000000000000000000000", [1, 2]⟩
            ("function 00000000000000000000000000000000 could not be started: " ++
              "executor did not answer within 5s")),
          (5000, .tokenTaken ⟨"second"⟩)]) := by decide +kernel
  obtain ⟨⟨beats, w⟩, replayed, seen⟩ := Option.map_eq_some_iff.1 played
  obtain ⟨allowed, attempts⟩ := Prod.mk.inj seen
  have career : Career .standard [default] .start beats w := .of_replay replayed
  have allows := of_decide_eq_true allowed
  exact ⟨beats, w, career, allows, attempts, career.waits_patiently allows⟩

/-- An answer of the executor may count that comes after the limit; an update that arrives while the
agent waits is not handled when a shutdown is asked for meanwhile; and an answer is not sent when
the broker has left. -/
theorem patience_has_bounds :
    let call : Call := ⟨"00000000000000000000000000000000", [1, 2]⟩
    let request : Update := ⟨1, 0, "", some (.call call)⟩
    let token : Update := ⟨0, 0, "", some (.token ⟨"second"⟩)⟩
    (∃ beats w, Career hasty [default] .start beats w ∧ (starter 2).Allows [] beats ∧
      hasty.dispatchTimeout.nanos < 2 * 1_000_000 ∧ answersIn beats = [.started call]) ∧
    (∃ beats w, Career .standard [default] .start beats w ∧ (starter 10).Allows [] beats ∧
      w.phase = .stopped ∧ deliveredOn 0 beats = [request, token] ∧
      handledOn 0 beats = [request]) ∧
    ∃ beats w, Career .standard [default] .start beats w ∧ (starter 10).Allows [] beats ∧
      answersIn beats = [.started call] ∧ acceptedOn 0 beats = [.announce default .online] := by
  intro call request token
  have late : ((World.create hasty [default] .start).world.replay (callThen
      [some (.elapse 2), some (.answerStart (.ok ())), none])).map (fun run =>
        (decide ((starter 2).Allows [] run.1), answersIn run.1)) =
      some (true, [.started call]) := by decide +kernel
  have asked : ((World.create .standard [default] .start).world.replay (callThen
      [some (.peer 0 (.deliver token)), some .requestShutdown, some (.elapse 10),
        some (.answerStart (.ok ())), none, none, none, none, none])).map (fun run =>
        (decide ((starter 10).Allows [] run.1), run.2.phase, deliveredOn 0 run.1,
          handledOn 0 run.1)) =
      some (true, .stopped, [request, token], [request]) := by decide +kernel
  have left : ((World.create .standard [default] .start).world.replay (callThen
      [some (.peer 0 (.outbound .shut)), some (.elapse 10), some (.answerStart (.ok ())),
        none])).map (fun run =>
        (decide ((starter 10).Allows [] run.1), answersIn run.1, acceptedOn 0 run.1)) =
      some (true, [.started call], [.announce default .online]) := by decide +kernel
  refine ⟨?_, ?_, ?_⟩
  · obtain ⟨⟨beats, w⟩, replayed, seen⟩ := Option.map_eq_some_iff.1 late
    obtain ⟨allowed, answers⟩ := Prod.mk.inj seen
    exact ⟨beats, w, .of_replay replayed, of_decide_eq_true allowed, by decide, answers⟩
  · obtain ⟨⟨beats, w⟩, replayed, seen⟩ := Option.map_eq_some_iff.1 asked
    simp only [Prod.mk.injEq] at seen
    obtain ⟨allowed, stopped, delivered, handled⟩ := seen
    exact ⟨beats, w, .of_replay replayed, of_decide_eq_true allowed, stopped, delivered, handled⟩
  · obtain ⟨⟨beats, w⟩, replayed, seen⟩ := Option.map_eq_some_iff.1 left
    simp only [Prod.mk.injEq] at seen
    obtain ⟨allowed, answers, accepted⟩ := seen
    exact ⟨beats, w, .of_replay replayed, of_decide_eq_true allowed, answers, accepted⟩

end Career

end FunctionAgent.Agent
