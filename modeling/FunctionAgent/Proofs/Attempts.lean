import FunctionAgent.Proofs.Withdrawal
/-!
# Attempts to start

An agent that connects asks for a session and offers its functions on it. Where one of the two fails
it rests and tries again, as long as attempts are left. An `Attempt` is what can be seen of this
from one session that is asked for to the next, and `effortsOf` reads the attempts of a run off its
steps. What the attempts have come to is told by the point of the work at which the agent stands
(`Trying`); every deed before somebody drives the agent keeps to it.
-/

set_option autoImplicit false

namespace FunctionAgent.Agent

/-- What can be seen of an attempt to start. Times are milliseconds of the clock. -/
structure Attempt where
  /-- When the session was asked for. -/
  begun : Nat
  /-- The session that came, or why none did; `none` as long as there is no answer. -/
  answer : Option (Except SessionFailure Nat)
  /-- What was written, in its order, each with its session. -/
  tries : List (Nat × Try)
  /-- When the answer came or the last message was written. -/
  ended : Nat
  /-- How long the agent set out to rest after it. -/
  pause : Option Nat

/-- The attempts of a run: those that were given up and the one that is made, or was made last. -/
structure Efforts where
  past : List Attempt
  current : Attempt

/-! ## Reading attempts off a run -/

/-- Whether a session is asked for. -/
def Happening.opens : Happening → Bool
  | .opening => true
  | _ => false

/-- What was written, with its session. -/
def Happening.try? : Happening → Option (Nat × Try)
  | .written i message result => some (i, message, result)
  | _ => none

/-- When the rest before the next attempt to start is over, while the agent takes it. -/
def World.dawn? (w : World) : Option Nat :=
  match w.control with
  | .retrying _ _ wake => some wake
  | _ => none

namespace Beat

def opens (b : Beat) : Bool := b.move.happened.any Happening.opens

/-- What was written, each with its session. -/
def tries (b : Beat) : List (Nat × Try) := b.move.happened.filterMap Happening.try?

/-- The answer to the session that was asked for. -/
def answer? (b : Beat) : Option (Except SessionFailure Nat) :=
  match b.act with
  | some (.answerOpen (.ok _)) => some (.ok b.before.sessions.length)
  | some (.answerOpen (.error failure)) => some (.error failure)
  | _ => none

theorem opens_iff (b : Beat) : b.opens = true ↔ .opening ∈ b.move.happened := by
  constructor
  · intro opens
    obtain ⟨happening, member, opening⟩ := List.any_eq_true.1 opens
    cases happening with
    | opening => exact member
    | _ => contradiction
  · exact fun member => List.any_eq_true.2 ⟨_, member, rfl⟩

theorem isOk_answer?_iff (b : Beat) : b.answer?.any Except.isOk = true ↔
    ∃ session, b.act = some (.answerOpen (.ok session)) := by
  unfold answer?
  split <;> simp_all [Except.isOk, Except.toBool]

/-- How long the agent sets out to rest before it tries to start again. -/
def pause? (b : Beat) : Option Nat :=
  if b.before.dawn?.isSome then none else b.move.world.dawn?.map (· - b.before.clock)

end Beat

/-- An attempt of which nothing but its beginning is known. -/
def Attempt.begin (time : Nat) : Attempt := ⟨time, none, [], time, none⟩

/-- An attempt with what one more step shows of it. -/
def Attempt.note (a : Attempt) (b : Beat) : Attempt where
  begun := a.begun
  answer := b.answer?.or a.answer
  tries := a.tries ++ b.tries
  ended := if b.answer?.isSome || !b.tries.isEmpty then b.before.clock else a.ended
  pause := b.pause?.or a.pause

/-- The attempts with what one more step shows of them: a session that is asked for begins the next
one. -/
def Efforts.note (e : Efforts) (b : Beat) : Efforts :=
  if b.opens then ⟨e.past ++ [e.current], .begin b.before.clock⟩
  else { e with current := e.current.note b }

/-- All attempts, the first one first. -/
def Efforts.all (e : Efforts) : List Attempt := e.past ++ [e.current]

/-- The attempts of a run from the creation of the agent on. -/
def effortsOf (beats : List Beat) : Efforts := beats.foldl Efforts.note ⟨[], .begin 0⟩

theorem effortsOf_snoc (beats : List Beat) (b : Beat) :
    effortsOf (beats ++ [b]) = (effortsOf beats).note b := by
  simp [effortsOf]

/-! ## What attempts come to -/

namespace Attempt

/-- What was written on the session of an attempt: these messages were accepted. -/
def acceptance (i : Nat) (messages : List Message) : List (Nat × Try) :=
  messages.map fun message => (i, message, .ok ())

/-- Whether an attempt succeeds: a session comes and accepts the announcement of every function. -/
def isSuccess (roster : Roster) (a : Attempt) : Bool :=
  (match a.answer with
    | some (.ok _) => true
    | _ => false) &&
    a.tries.filterMap (fun t => t.2.accepted?) == roster.announcements .online

/-- An attempt that came to its session: every function was announced on it, from the first one on,
and every announcement was accepted. -/
structure Succeeds (roster : Roster) (i : Nat) (a : Attempt) : Prop where
  answer : a.answer = some (.ok i)
  tries : a.tries = acceptance i (roster.announcements .online)

/-- An attempt that failed: no session came, or the functions were announced on it from the first
one on until an announcement failed. -/
inductive Fails (roster : Roster) (a : Attempt) : SessionFailure → Prop where
  | refused {failure : SessionFailure} (answer : a.answer = some (.error failure))
      (tries : a.tries = []) : Fails roster a failure
  | cutShort {i : Nat} {done todo : List Message} {message : Message} {fault : WriteFault}
      (answer : a.answer = some (.ok i))
      (parts : done ++ message :: todo = roster.announcements .online)
      (tries : a.tries = acceptance i done ++ [(i, message, .error fault)]) :
      Fails roster a (Session.writeFailure fault)

variable {roster : Roster} {a : Attempt} {i : Nat} {failure : SessionFailure}

theorem acceptance_concat (i : Nat) (done : List Message) (message : Message) :
    acceptance i (done ++ [message]) = acceptance i done ++ [(i, message, .ok ())] := by
  simp [acceptance]

theorem filterMap_acceptance (i : Nat) (messages : List Message) :
    (acceptance i messages).filterMap (fun t => t.2.accepted?) = messages := by
  induction messages with
  | nil => rfl
  | cons message rest ih => exact congrArg (message :: ·) ih

theorem Succeeds.isSuccess (succeeds : a.Succeeds roster i) : a.isSuccess roster = true := by
  simp [Attempt.isSuccess, succeeds.answer, succeeds.tries, filterMap_acceptance]

theorem Fails.not_isSuccess (fails : a.Fails roster failure) : a.isSuccess roster = false := by
  cases fails with
  | refused answer => simp [Attempt.isSuccess, answer]
  | @cutShort i done todo message fault answer parts tries =>
    have accepted : a.tries.filterMap (fun t => t.2.accepted?) = done := by
      rw [tries, List.filterMap_append, filterMap_acceptance]
      exact List.append_nil done
    have less : done ≠ roster.announcements .online := by
      intro all
      simp [all] at parts
    simp [Attempt.isSuccess, accepted, less]

/-- Whether the functions are announced from the first one on, on the session of the attempt. -/
structure Offers (roster : Roster) (a : Attempt) : Prop where
  part : a.tries.map (fun t => t.2.1) <+: roster.announcements .online
  own : ∀ t ∈ a.tries, a.answer = some (.ok t.1)

theorem map_acceptance (i : Nat) (messages : List Message) :
    (acceptance i messages).map (fun t => t.2.1) = messages := by
  simp [acceptance, Function.comp_def]

theorem Offers.of_acceptance {done todo : List Message}
    (parts : done ++ todo = roster.announcements .online) (answer : a.answer = some (.ok i))
    (tries : a.tries = acceptance i done) : a.Offers roster where
  part := by
    rw [tries, map_acceptance, ← parts]
    exact List.prefix_append done todo
  own t member := by
    rw [tries] at member
    obtain ⟨message, -, rfl⟩ := List.mem_map.1 member
    exact answer

theorem Offers.of_silent (silent : a.tries = []) : a.Offers roster where
  part := by
    rw [silent]
    exact List.nil_prefix
  own t member := by simp [silent] at member

theorem Succeeds.offers (succeeds : a.Succeeds roster i) : a.Offers roster :=
  .of_acceptance (List.append_nil _) succeeds.answer succeeds.tries

theorem Fails.offers (fails : a.Fails roster failure) : a.Offers roster := by
  cases fails with
  | refused answer silent => exact .of_silent silent
  | @cutShort i done todo message fault answer parts tries =>
    refine ⟨?_, fun t member => ?_⟩
    · rw [tries, List.map_append, map_acceptance, ← parts]
      exact ⟨todo, by simp⟩
    · rw [tries, List.mem_append] at member
      rcases member with member | member
      · obtain ⟨message, -, rfl⟩ := List.mem_map.1 member
        exact answer
      · obtain rfl := List.mem_singleton.1 member
        exact answer

end Attempt

/-- Attempts that failed one after the other, and when the next one is begun: after the `n`-th of
them the agent rests for `n` times the configured span, up to the first full millisecond that is not
too early. -/
inductive Retried (settings : Settings) (roster : Roster) : List Attempt → Nat → Prop where
  | first : Retried settings roster [] 0
  | next {past : List Attempt} {a : Attempt} {failure : SessionFailure} {pause : Span}
      (retried : Retried settings roster past a.begun) (fails : a.Fails roster failure)
      (length : settings.backoff.times? (past.length + 1) = some pause)
      (rests : a.pause = some pause.ticks) :
      Retried settings roster (past ++ [a]) (a.ended + pause.ticks)

theorem Retried.fails {settings : Settings} {roster : Roster} {past : List Attempt} {time : Nat}
    (retried : Retried settings roster past time) {a : Attempt} (member : a ∈ past) :
    ∃ failure, a.Fails roster failure := by
  induction retried with
  | first => contradiction
  | next _ fails _ _ ih =>
    rcases List.mem_append.1 member with earlier | last
    · exact ih earlier
    · obtain rfl := List.mem_singleton.1 last
      exact ⟨_, fails⟩

/-- What the attempt that is made has come to, by the point of the work. -/
inductive Attempt.Stands (settings : Settings) (roster : Roster) (limit past : Nat) (a : Attempt)
    (w : World) : Prop where
  | asked (here : w.control = .opening (.connect limit past)) (unanswered : a.answer = none)
      (silent : a.tries = []) (awake : a.pause = none)
  | offering {i : Nat} {done : List Message} {todo : List Function}
      (here : w.control = .offering (.connect limit past) i todo)
      (parts : done ++ w.remaining = roster.announcements .online)
      (answer : a.answer = some (.ok i)) (tries : a.tries = acceptance i done)
      (awake : a.pause = none)
  | writing {i : Nat} {done : List Message} {todo : List Function} {message : Message}
      {deadline : Option Nat}
      (here : w.control = .writing (.offer (.connect limit past) i todo) message deadline)
      (parts : done ++ w.remaining = roster.announcements .online)
      (answer : a.answer = some (.ok i)) (tries : a.tries = acceptance i done)
      (awake : a.pause = none)
  | resting {failure : SessionFailure} {pause : Span}
      (here : w.control = .retrying limit (past + 1) (a.ended + pause.ticks))
      (fails : a.Fails roster failure) (left : past + 1 < limit)
      (length : settings.backoff.times? (past + 1) = some pause)
      (rests : a.pause = some pause.ticks) (early : w.clock ≤ a.ended + pause.ticks)
  | ready (here : w.control = .ready) (succeeds : a.Succeeds roster w.held) (awake : a.pause = none)
  | unstarted {failure : SessionFailure} (here : w.control = .unstarted failure)
      (fails : a.Fails roster failure) (exhausted : limit ≤ past + 1) (awake : a.pause = none)

/-- What the attempts have come to while an agent starts in up to `limit` of them. -/
structure Trying (settings : Settings) (roster : Roster) (limit : Nat) (e : Efforts) (w : World) :
    Prop where
  retried : Retried settings roster e.past e.current.begun
  few : e.past.length < max limit 1
  stands : e.current.Stands settings roster limit e.past.length w
  unused : w.failures = 0

theorem Attempt.Stands.offers {settings : Settings} {roster : Roster} {limit past : Nat}
    {a : Attempt} {w : World} (stands : a.Stands settings roster limit past w) :
    a.Offers roster := by
  cases stands with
  | asked here unanswered silent => exact .of_silent silent
  | offering here parts answer tries | writing here parts answer tries =>
    exact .of_acceptance parts answer tries
  | resting here fails | unstarted here fails => exact fails.offers
  | ready here succeeds => exact succeeds.offers

/-! ## One step -/

section Steps

variable {settings : Settings} {functions : List Function} {roster : Roster} {limit : Nat}
  {e : Efforts} {w : World} {act : Option Act} {m : Move}

theorem Efforts.note_of_unopened {b : Beat} (unopened : b.opens = false) :
    e.note b = ⟨e.past, e.current.note b⟩ := by
  simp [Efforts.note, unopened]

theorem Efforts.note_of_opening {b : Beat} (opens : b.opens = true) :
    e.note b = ⟨e.past ++ [e.current], .begin b.before.clock⟩ := by
  simp [Efforts.note, opens]

/-- A step in which nothing is answered or written shows nothing of an attempt. -/
theorem Attempt.note_of_still {a : Attempt} {b : Beat} (unanswered : b.answer? = none)
    (unwritten : b.tries = []) (awake : b.pause? = none) : a.note b = a := by
  simp [Attempt.note, unanswered, unwritten, awake]

/-- An attempt that has just failed is the last one, or a pause follows it. -/
theorem Attempt.Stands.of_setback {past : Nat} {a : Attempt} {failure : SessionFailure}
    {control : Control} {reports : List Happening} {v : World}
    (setback : Setback settings w.clock (.connect limit past) failure control reports)
    (few : past < max limit 1) (countable : limit ≤ Text.word32Max)
    (measurable : ∀ n, 0 < n → n < limit → settings.backoff.times? n ≠ none)
    (fails : a.Fails roster failure) (ended : a.ended = w.clock) (next : v.control = control)
    (same : v.clock = w.clock) (pause : a.pause = v.dawn?.map (· - w.clock)) :
    a.Stands settings roster limit past v := by
  cases setback with
  | uncountable _ large =>
    have : 1 ≤ Text.word32Max := by decide
    omega
  | unmeasurable _ small left long => exact absurd long (measurable _ (Nat.succ_pos _) left)
  | unstarted _ small exhausted =>
    refine .unstarted next fails exhausted ?_
    simpa [World.dawn?, next] using pause
  | @retrying _ _ span _ small left length =>
    have rests : a.pause = some span.ticks := by simpa [World.dawn?, next] using pause
    refine .resting (ended ▸ next) fails left length rests ?_
    rw [same, ended]
    exact Nat.le_add_right _ _

theorem setback_quiet {settings : Settings} {clock : Nat} {purpose : Purpose}
    {failure : SessionFailure} {control : Control} {reports : List Happening}
    (setback : Setback settings clock purpose failure control reports) :
    reports.any Happening.opens = false ∧ reports.filterMap Happening.try? = [] := by
  cases setback <;> exact ⟨rfl, rfl⟩

/-- What the agent does not do itself leaves an attempt where it stands. -/
theorem Attempt.Stands.still {past : Nat} {a : Attempt} {v : World}
    (stands : a.Stands settings roster limit past w) (control : v.control = w.control)
    (held : v.held = w.held) (early : ∀ wake, w.dawn? = some wake → v.clock ≤ wake) :
    a.Stands settings roster limit past v := by
  have remaining : v.remaining = w.remaining := by simp only [World.remaining, control]
  cases stands with
  | asked here unanswered silent awake =>
    exact .asked (control.trans here) unanswered silent awake
  | offering here parts answer tries awake =>
    exact .offering (control.trans here) (remaining ▸ parts) answer tries awake
  | writing here parts answer tries awake =>
    exact .writing (control.trans here) (remaining ▸ parts) answer tries awake
  | resting here fails left length rests =>
    have soon := early _ (by rw [World.dawn?, here])
    exact .resting (control.trans here) fails left length rests soon
  | ready here succeeds awake => exact .ready (control.trans here) (held ▸ succeeds) awake
  | unstarted here fails exhausted awake =>
    exact .unstarted (control.trans here) fails exhausted awake

/-- Whether an act neither answers the agent nor drives it. -/
def Act.isAside : Act → Bool
  | .peer _ _ | .requestShutdown | .elapse _ => true
  | .answerOpen _ | .answerStart _ | .run | .drop | .endPause => false

theorem pause?_of_same (same : m.world.control = w.control) :
    (⟨w, act, m⟩ : Beat).pause? = none := by
  simp only [Beat.pause?, World.dawn?, same]
  cases dawn : w.dawn? <;> simp_all [World.dawn?]

theorem pause?_of_awake (awake : w.dawn? = none) :
    (⟨w, act, m⟩ : Beat).pause? = m.world.dawn?.map (· - w.clock) := by
  simp [Beat.pause?, awake]

/-- Time does not pass beyond the end of a rest. -/
theorem Attempt.Stands.early {past ms : Nat} {a : Attempt}
    (stands : a.Stands settings roster limit past w) (may : ms = 0 ∨ w.mayElapse ms = true)
    {wake : Nat} (dawn : w.dawn? = some wake) : w.clock + ms ≤ wake := by
  cases stands with
  | resting here _ _ _ _ early =>
    obtain rfl : _ = wake := by simpa [World.dawn?, here] using dawn
    rcases may with rfl | may
    · exact early
    · simp only [World.mayElapse, World.wake?, here, Bool.and_eq_true] at may
      simpa using may.2
  | asked here | offering here | writing here | ready here | unstarted here =>
    simp [World.dawn?, here] at dawn

/-- What others do beside the attempt changes nothing of it. -/
theorem Attempt.Stands.aside {past : Nat} {a : Attempt} {act : Act}
    (stands : a.Stands settings roster limit past w) (deed : Deed w (some act) m)
    (aside : act.isAside = true) :
    (a.note ⟨w, some act, m⟩).Stands settings roster limit past m.world := by
  cases deed with
  | peer | shutDown | shutDownAgain =>
    rw [Attempt.note_of_still rfl rfl (pause?_of_same (w := w) rfl)]
    exact stands.still rfl rfl fun _ => stands.early (.inl rfl)
  | elapse ms may =>
    rw [Attempt.note_of_still rfl rfl (pause?_of_same (w := w) rfl)]
    exact stands.still rfl rfl fun _ => stands.early (.inr may)
  | _ => contradiction

/-- The session that was asked for comes, or does not. -/
theorem Attempt.Stands.answered {past : Nat} {a : Attempt}
    (here : w.control = .opening (.connect limit past)) (silent : a.tries = [])
    (awake : a.pause = none) (offered : Offered functions w) (few : past < max limit 1)
    (countable : limit ≤ Text.word32Max)
    (measurable : ∀ n, 0 < n → n < limit → settings.backoff.times? n ≠ none)
    (same : w.settings = settings) {answer : Except SessionFailure Session}
    (deed : Deed w (some (.answerOpen answer)) m) :
    (a.note ⟨w, some (.answerOpen answer), m⟩).Stands settings (.onOffer functions) limit past
      m.world := by
  have dawn : w.dawn? = none := by rw [World.dawn?, here]
  cases deed with
  | @opened purpose session stands =>
    obtain rfl : _ = purpose := by simpa [here] using stands
    have parts := offered.same_onOffer.announcements_eq .online
    have tries : a.tries ++ [] = acceptance w.sessions.length [] := by rw [silent]; rfl
    refine .offering rfl parts rfl tries ?_
    simp [note, pause?_of_awake dawn, World.dawn?, awake]
  | @unopened purpose failure control reports stands setback =>
    obtain rfl : _ = purpose := by simpa [here] using stands
    subst same
    have tries : (a.note ⟨w, some (.answerOpen (.error failure)),
        ⟨{ w with control }, reports⟩⟩).tries = [] := by
      simp [note, silent, Beat.tries, (setback_quiet setback).2]
    refine .of_setback setback few countable measurable (.refused rfl tries) rfl rfl rfl ?_
    simp [note, pause?_of_awake dawn, awake]

/-- Announcing the functions goes on, is over or fails. -/
theorem Attempt.Stands.offered {past i : Nat} {a : Attempt} {done : List Message}
    {todo : List Function} (here : w.control = .offering (.connect limit past) i todo)
    (parts : done ++ w.remaining = roster.announcements .online)
    (answer : a.answer = some (.ok i)) (tries : a.tries = acceptance i done)
    (awake : a.pause = none) (deed : Deed w none m) :
    (a.note ⟨w, none, m⟩).Stands settings roster limit past m.world := by
  have dawn : w.dawn? = none := by rw [World.dawn?, here]
  have same : a.tries ++ [] = acceptance i done := by rw [tries, List.append_nil]
  cases deed with
  | @installFirst purpose j stands first =>
    obtain ⟨rfl, rfl, rfl⟩ : _ = purpose ∧ i = j ∧ todo = [] := by simpa [here] using stands
    have all : done = roster.announcements .online := by simpa [World.remaining, here] using parts
    refine .ready rfl ⟨answer, all ▸ same⟩ ?_
    simp [note, pause?_of_awake dawn, World.dawn?, awake]
  | @offer purpose j f rest stands =>
    obtain ⟨rfl, rfl, rfl⟩ : _ = purpose ∧ i = j ∧ todo = f :: rest := by simpa [here] using stands
    refine .writing rfl ?_ answer same ?_
    · simpa [World.remaining, here] using parts
    · simp [note, pause?_of_awake dawn, World.dawn?, awake]
  | _ => simp_all

/-- An announcement is accepted, waits for space or fails. -/
theorem Attempt.Stands.written {past i : Nat} {a : Attempt} {done : List Message}
    {todo : List Function} {message : Message} {deadline : Option Nat}
    (here : w.control = .writing (.offer (.connect limit past) i todo) message deadline)
    (parts : done ++ w.remaining = roster.announcements .online)
    (answer : a.answer = some (.ok i)) (tries : a.tries = acceptance i done)
    (awake : a.pause = none) (few : past < max limit 1) (countable : limit ≤ Text.word32Max)
    (measurable : ∀ n, 0 < n → n < limit → settings.backoff.times? n ≠ none)
    (same : w.settings = settings) (deed : Deed w none m) :
    (a.note ⟨w, none, m⟩).Stands settings roster limit past m.world := by
  have dawn : w.dawn? = none := by rw [World.dawn?, here]
  cases deed with
  | @awaitSpace task text stands =>
    obtain ⟨rfl, rfl, rfl⟩ : _ = task ∧ message = text ∧ deadline = none := by
      simpa [here] using stands
    have still : a.tries ++ [] = acceptance i done := by rw [tries, List.append_nil]
    refine .writing rfl ?_ answer still ?_
    · simpa [World.remaining, here] using parts
    · simp [note, pause?_of_awake dawn, World.dawn?, awake]
  | @offerWritten purpose j rest text due o stands =>
    obtain ⟨⟨rfl, rfl, rfl⟩, rfl, rfl⟩ :
        (_ = purpose ∧ i = j ∧ todo = rest) ∧ message = text ∧ deadline = due := by
      simpa [here] using stands
    have longer : a.tries ++ [(i, message, .ok ())] = acceptance i (done ++ [message]) := by
      rw [tries, acceptance_concat]
    refine .offering rfl ?_ answer longer ?_
    · simpa [World.remaining, here] using parts
    · simp [note, pause?_of_awake dawn, World.dawn?, awake]
  | @offerFailed purpose j rest text due fault o control reports stands ends setback =>
    obtain ⟨⟨rfl, rfl, rfl⟩, rfl, rfl⟩ :
        (_ = purpose ∧ i = j ∧ todo = rest) ∧ message = text ∧ deadline = due := by
      simpa [here] using stands
    subst same
    have cut : done ++ message :: Roster.announcements todo .online
        = roster.announcements .online := by simpa [World.remaining, here] using parts
    refine .of_setback setback few countable measurable (.cutShort answer cut ?_) rfl rfl rfl ?_
    · simp only [note, Beat.tries, List.filterMap_append, (setback_quiet setback).2, tries]
      rfl
    · simp [note, pause?_of_awake dawn, awake]
  | _ => simp_all

/-- After a rest the next attempt begins, at the time at which the rest is over. -/
theorem Trying.retries {past : Nat} {failure : SessionFailure} {pause : Span}
    (retried : Retried settings roster e.past e.current.begun)
    (here : w.control = .retrying limit past (e.current.ended + pause.ticks))
    (fails : e.current.Fails roster failure) (left : e.past.length + 1 < limit)
    (counted : past = e.past.length + 1) (unused : w.failures = 0)
    (length : settings.backoff.times? (e.past.length + 1) = some pause)
    (rests : e.current.pause = some pause.ticks) (early : w.clock ≤ e.current.ended + pause.ticks)
    (deed : Deed w none m) : Trying settings roster limit (e.note ⟨w, none, m⟩) m.world := by
  cases deed with
  | @retry most failed wake stands due =>
    obtain ⟨rfl, rfl, rfl⟩ :
        limit = most ∧ past = failed ∧ e.current.ended + pause.ticks = wake := by
      simpa [here] using stands
    have now : w.clock = e.current.ended + pause.ticks := Nat.le_antisymm early due
    have next := Retried.next retried fails length rests
    have count : (e.past ++ [e.current]).length = past := by
      rw [List.length_append, List.length_singleton, counted]
    rw [e.note_of_opening rfl]
    refine ⟨?_, ?_, .asked ?_ rfl rfl rfl, unused⟩
    · show Retried settings roster (e.past ++ [e.current]) w.clock
      exact now ▸ next
    · show (e.past ++ [e.current]).length < max limit 1
      omega
    · show Control.opening (.connect limit past) = .opening (.connect limit _)
      rw [count]
  | _ => simp_all

/-- Whether a lost stream or a failed attempt is what the agent is to act on. -/
def World.isSetBack (w : World) : Bool :=
  match w.control with
  | .retrying _ _ _ | .recovering _ | .backingOff _ _ => true
  | _ => false

theorem opens_publication (old new : Phase) :
    (Move.publication old new).any Happening.opens = false := by
  unfold Move.publication
  split <;> rfl

/-- Sessions are asked for only after a setback. -/
theorem Deed.opens_eq_false (deed : Deed w act m)
    (other : act ≠ none ∧ act ≠ some .endPause ∨ w.isSetBack = false) :
    (⟨w, act, m⟩ : Beat).opens = false := by
  cases deed with
  | retry here | reopen here | reopenLater here | reopenAnyway here =>
    simp [World.isSetBack, here] at other
  | unopened here setback => exact (setback_quiet setback).1
  | offerFailed here ends setback => exact (setback_quiet setback).1
  | installNext | drain | giveUp | mismeasure | backOff | stop =>
    simp [Beat.opens, Happening.opens, opens_publication, -List.any_eq_false]
  | _ => rfl

/-- Failures are counted only after a setback. -/
theorem Deed.failures_eq_zero (deed : Deed w act m)
    (other : act ≠ none ∧ act ≠ some .endPause ∨ w.isSetBack = false)
    (unused : w.failures = 0) : m.world.failures = 0 := by
  cases deed with
  | miscount here | giveUp here | desist here | reopen here | mismeasure here | backOff here =>
    simp [World.isSetBack, here] at other
  | answerWritten | ignore => rfl
  | _ => exact unused

/-- Every deed of an agent that nobody drives yet keeps to it. -/
theorem Trying.deed (trying : Trying settings (.onOffer functions) limit e w)
    (sound : Sound settings functions w) (countable : limit ≤ Text.word32Max)
    (measurable : ∀ n, 0 < n → n < limit → settings.backoff.times? n ≠ none)
    (undriven : act ≠ some .run ∧ act ≠ some .drop) (deed : Deed w act m) :
    Trying settings (.onOffer functions) limit (e.note ⟨w, act, m⟩) m.world := by
  obtain ⟨retried, few, stands, unused⟩ := trying
  have kept (other : act ≠ none ∧ act ≠ some .endPause ∨ w.isSetBack = false)
      (next : (e.current.note ⟨w, act, m⟩).Stands settings (.onOffer functions) limit
        e.past.length m.world) :
      Trying settings (.onOffer functions) limit (e.note ⟨w, act, m⟩) m.world := by
    rw [e.note_of_unopened (deed.opens_eq_false other)]
    exact ⟨retried, few, next, deed.failures_eq_zero other unused⟩
  cases act with
  | some act =>
    cases act with
    | peer | requestShutdown | elapse => exact kept (.inl (by simp)) (stands.aside deed rfl)
    | answerOpen answer =>
      refine kept (.inl (by simp)) ?_
      cases stands with
      | asked here _ silent awake =>
        exact .answered here silent awake sound.offered few countable measurable sound.settings deed
      | _ => cases deed <;> simp_all
    -- A start that connects has no call whose answer could come and pauses before no recovery, and
    -- nobody drives it yet.
    | answerStart | endPause => cases stands <;> cases deed <;> simp_all
    | run => exact absurd rfl undriven.1
    | drop => exact absurd rfl undriven.2
  | none =>
    cases stands with
    | asked here => cases deed <;> simp_all
    | offering here parts answer tries awake =>
      refine kept (.inr (by rw [World.isSetBack, here])) ?_
      exact .offered here parts answer tries awake deed
    | writing here parts answer tries awake =>
      refine kept (.inr (by rw [World.isSetBack, here])) ?_
      exact .written here parts answer tries awake few countable measurable sound.settings deed
    | resting here fails left length rests early =>
      exact .retries retried here fails left rfl unused length rests early deed
    | ready here => cases deed <;> simp_all
    | unstarted here => cases deed <;> simp_all

end Steps

/-! ## The whole run -/

variable {settings : Settings} {functions : List Function} {limit : Nat} {beats : List Beat}
  {w : World}

theorem trying_create (settings : Settings) (functions : List Function) (limit : Nat) :
    Trying settings (.onOffer functions) limit (effortsOf [])
      (World.create settings functions (.connect limit 0)).world where
  retried := .first
  few := Nat.lt_of_lt_of_le Nat.zero_lt_one (Nat.le_max_right limit 1)
  stands := .asked rfl rfl rfl rfl
  unused := rfl

/-- Until somebody drives the agent or gives it up, its attempts keep to it. -/
theorem Career.trying (career : Career settings functions (.connect limit) beats w)
    (countable : limit ≤ Text.word32Max)
    (measurable : ∀ n, 0 < n → n < limit → settings.backoff.times? n ≠ none)
    (undriven : ∀ b ∈ beats, b.act ≠ some .run ∧ b.act ≠ some .drop) :
    Trying settings (.onOffer functions) limit (effortsOf beats) w := by
  induction career with
  | nil => exact trying_create settings functions limit
  | snoc course step ih =>
    have earlier := ih fun b member => undriven b (List.mem_append_left _ member)
    have last := undriven _ (List.mem_append_right _ (List.mem_singleton_self _))
    rw [effortsOf_snoc]
    exact earlier.deed (Career.sound course) countable measurable last (deed_of_step step)

end FunctionAgent.Agent
