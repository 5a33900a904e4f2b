import FunctionAgent.Proofs.Answer
import FunctionAgent.Proofs.Delivery
import FunctionAgent.Proofs.Withdrawal
/-!
# Which failures end the use of a session

A tick is a look for an update together with the work on what it found. It fails for three reasons
only (`Tick.Fails`): the stream is over, the update is the notice of a reconnect, or the one message
that answers the update could not be written. What is wrong with a call, or with the start of its
function, is told to the broker and fails nothing. Every failure of a tick is one from which the
agent recovers, so that its work fails only with the budget of recoveries used up.
-/

set_option autoImplicit false

namespace FunctionAgent

theorem Session.receive_eq_none_iff (s : Session) :
    s.receive.1 = .ok none ↔ s.stream.inbound.queue = [] ∧ s.stream.inbound.ended = none := by
  obtain ⟨bearer, ⟨⟨queue, ended⟩, outbound, isFed⟩⟩ := s
  cases queue with
  | cons u rest => exact iff_of_false nofun nofun
  | nil =>
    cases ended with
    | none => exact iff_of_true rfl ⟨rfl, rfl⟩
    | some how => exact iff_of_false nofun nofun

theorem Session.receive_eq_some {s : Session} {u : Update}
    (received : s.receive.1 = .ok (some u)) : s.stream.inbound.queue.head? = some u := by
  have finds := s.finds
  rw [received] at finds
  cases finds with
  | update waiting => rw [waiting]; rfl

theorem Session.receive_eq_error {s : Session} {text : String}
    (received : s.receive.1 = .error (.streamEnded text)) :
    ∃ how, s.stream.inbound.queue = [] ∧ s.stream.inbound.ended = some how ∧
      how.message = text := by
  have finds := s.finds
  rw [received] at finds
  generalize s.receive.2 = after at finds
  cases finds with
  | exhausted dry ended => exact ⟨_, dry, ended, rfl⟩

namespace Agent

/-- A message that was written to a session, with what became of it. -/
def Happening.tried? : Happening → Option (Nat × Message × Except WriteFault Unit)
  | .written i message result => some (i, message, result)
  | _ => none

/-- What was written in some steps. -/
def triesIn (beats : List Beat) : List (Nat × Message × Except WriteFault Unit) :=
  beats.flatMap fun b => b.move.happened.filterMap Happening.tried?

/-- Whether the agent reports that it does not recover from a failure of its work. -/
def Happening.isSurrender : Happening → Bool
  | .logged event => event.message == "Dispatch loop failed"
  | _ => false

/-- What a tick comes to. -/
inductive Upshot where
  /-- Nothing waited. -/
  | idle
  | handled
  | failed (cause : SessionFailure)
  deriving DecidableEq

namespace World

/-- What a tick has come to that ends here. -/
def upshot? (w : World) : Option Upshot :=
  match w.control with
  | .resting _ => some .idle
  | .looping => some .handled
  | .recovering cause | .draining _ (.error cause) => some (.failed cause)
  | _ => none

/-- Whether the agent is busy with an update, which is echoed where it is answered. -/
def Pursues (w : World) (u : Update) : Prop :=
  match w.control with
  | .handling taken => taken = u
  | .starting call _ => u.needsAnswer = true ∧ u.payload = some (.call call)
  | .writing .answer message _ => u.needsAnswer = true ∧ message.toUpdate.payload = u.payload
  | _ => False

end World

/-- A tick: the agent looks for an update and works on what it finds, until it is busy no more. -/
inductive Tick (w : World) : List Beat → World → Prop where
  | look {v : World} {m : Move} {rest : List Beat} (begins : w.control = .looping)
      (unasked : w.isShutdown = false) (looked : w.step none = some m)
      (course : Course m.world rest v) (works : ∀ b ∈ rest, b.before.isBusy = true)
      (freed : v.isBusy = false) : Tick w (⟨w, none, m⟩ :: rest) v

/-- Why a tick fails. -/
inductive Tick.Fails (w : World) (beats : List Beat) : SessionFailure → Prop where
  /-- Nothing waits, and the stream is over. -/
  | ended {how : StreamEnd} (dry : w.current.stream.inbound.queue = [])
      (ended : w.current.stream.inbound.ended = some how) :
      Fails w beats (.streamEnded how.message)
  | noticed {u : Update} {notice : Reconnect} (taken : takenOn w.held beats = [u])
      (carried : u.payload = some (.reconnect notice)) :
      Fails w beats (.reconnectRequested notice.seconds)
  /-- The one message that was to answer the update could not be written. -/
  | unanswered {u : Update} {message : Message} {fault : WriteFault}
      (taken : takenOn w.held beats = [u]) (needs : u.needsAnswer = true)
      (echoed : message.toUpdate.payload = u.payload)
      (tried : triesIn beats = [(w.held, message, .error fault)]) :
      Fails w beats (.streamEnded fault.message)

/-- How far the work on an update has come: it is under way, or it is over in one of four ways. -/
inductive Pursuit (roster : Roster) (limit : Span) (w : World) (u : Update) (beats : List Beat)
    (v : World) : Prop where
  | under (busy : v.isBusy = true) (pursues : v.Pursues u) (held : v.held = w.held)
      (counted : v.failures = w.failures) (untried : triesIn beats = [])
      (unfinished : v.Unfinished roster limit (signsOn w.held beats))
  | noticed {notice : Reconnect} (carried : u.payload = some (.reconnect notice))
      (stands : v.control = .recovering (.reconnectRequested notice.seconds))
      (counted : v.failures = w.failures) (untried : triesIn beats = [])
      (exchange : Exchange roster limit (signsOn w.held beats))
  | silent (needless : u.needsAnswer = false)
      (noNotice : ∀ notice, u.payload ≠ some (.reconnect notice)) (stands : v.control = .looping)
      (anew : v.failures = 0) (untried : triesIn beats = [])
      (exchange : Exchange roster limit (signsOn w.held beats))
  | answered {message : Message} (needs : u.needsAnswer = true)
      (echoed : message.toUpdate.payload = u.payload) (stands : v.control = .looping)
      (anew : v.failures = 0) (tried : triesIn beats = [(w.held, message, .ok ())])
      (exchange : Exchange roster limit (signsOn w.held beats))
  | unanswered {message : Message} {fault : WriteFault} (needs : u.needsAnswer = true)
      (echoed : message.toUpdate.payload = u.payload)
      (stands : v.control = .recovering (.streamEnded fault.message))
      (counted : v.failures = w.failures)
      (tried : triesIn beats = [(w.held, message, .error fault)])
      (exchange : Exchange roster limit (signsOn w.held beats))

section Steps

variable {settings : Settings} {functions : List Function} {w v : World} {act : Option Act}
  {m : Move} {u : Update} {beats : List Beat} {roster : Roster} {limit : Span}

theorem triesIn_append (beats more : List Beat) :
    triesIn (beats ++ more) = triesIn beats ++ triesIn more := List.flatMap_append

theorem triesIn_singleton (b : Beat) :
    triesIn [b] = b.move.happened.filterMap Happening.tried? := List.append_nil _

theorem World.Unfinished.ne_nil {part : List Sign} (unfinished : v.Unfinished roster limit part)
    (busy : v.isBusy = true) : part ≠ [] := by
  unfold World.Unfinished at unfinished
  split at unfinished
  · simp [unfinished]
  · obtain ⟨u, begun, f, -, -, -, rfl, -⟩ := unfinished
    simp
  · exact unfinished.1
  · unfold World.isBusy at busy
    split at busy <;> simp_all

theorem World.Pursues.of_handling {taken : Update} (pursues : v.Pursues u)
    (stands : v.control = .handling taken) : u = taken := by
  rw [World.Pursues, stands] at pursues
  exact pursues.symm

theorem World.Pursues.of_starting {call : Call} {deadline : Nat} (pursues : v.Pursues u)
    (stands : v.control = .starting call deadline) :
    u.needsAnswer = true ∧ u.payload = some (.call call) := by
  rw [World.Pursues, stands] at pursues
  exact pursues

theorem World.Pursues.of_answering {message : Message} {deadline : Option Nat}
    (pursues : v.Pursues u) (stands : v.control = .writing .answer message deadline) :
    u.needsAnswer = true ∧ message.toUpdate.payload = u.payload := by
  rw [World.Pursues, stands] at pursues
  exact pursues

/-- When an agent is busy no more it has come to the end of the exchange. -/
theorem World.Unfinished.ends {part : List Sign}
    (unfinished : v.Unfinished (Roster.onOffer functions) settings.dispatchTimeout part)
    (sound : Sound settings functions v) (busy : v.isBusy = true) (deed : Deed v act m)
    (free : m.world.isBusy = false) :
    Exchange (Roster.onOffer functions) settings.dispatchTimeout
      (part ++ (⟨v, act, m⟩ : Beat).signs v.held) := by
  rcases unfinished.deed sound busy deed rfl with further | ⟨exchange, -⟩
  · rw [World.unfinished_iff free, List.append_eq_nil_iff] at further
    exact absurd further.1 (unfinished.ne_nil busy)
  · exact exchange

/-- The work on an update begins when it is taken. -/
theorem Pursuit.begin (roster : Roster) (limit : Span) (begins : w.control = .looping)
    (unasked : w.isShutdown = false) (received : w.current.receive.1 = .ok (some u))
    (looked : w.step none = some m) :
    Pursuit roster limit w u [⟨w, none, m⟩] m.world ∧
      signsOn w.held [⟨w, none, m⟩] = [.took u] := by
  have deed := deed_of_step looked
  cases deed with
  | take here _ receives =>
    obtain rfl : u = _ := by simpa [received] using receives
    have shown (v : World) :
        signsOn w.held [⟨w, none, ⟨v, [.taken w.held u]⟩⟩] = [.took u] := by
      simp [signsOn_singleton, Beat.signs, Beat.heard, World.shown, here]
    exact ⟨.under rfl rfl rfl rfl rfl (shown _), shown _⟩
  | drain here asked => simp [unasked] at asked
  | _ => simp_all

/-- One step of the work on an update. -/
theorem Pursuit.deed (busy : v.isBusy = true) (pursues : v.Pursues u) (held : v.held = w.held)
    (counted : v.failures = w.failures) (untried : triesIn beats = [])
    (unfinished : v.Unfinished (.onOffer functions) settings.dispatchTimeout
      (signsOn w.held beats))
    (sound : Sound settings functions v) (deed : Deed v act m) :
    Pursuit (.onOffer functions) settings.dispatchTimeout w u (beats ++ [⟨v, act, m⟩])
      m.world := by
  have ends := unfinished.ends sound busy deed
  have goes := unfinished.deed sound busy deed rfl
  rw [held, ← signsOn_snoc] at goes ends
  -- Most steps leave the agent busy, with nothing written and nothing counted.
  have under (working : m.world.isBusy = true) (about : m.world.Pursues u)
      (same : m.world.held = v.held) (count : m.world.failures = v.failures)
      (quiet : m.happened.filterMap Happening.tried? = []) :
      Pursuit (.onOffer functions) settings.dispatchTimeout w u (beats ++ [⟨v, act, m⟩])
        m.world := by
    refine .under working about (same.trans held) (count.trans counted) ?_ ?_
    · rw [triesIn_append, untried, triesIn_singleton, quiet, List.append_nil]
    · exact goes.resolve_right fun freed => by simp [working] at freed
  have tries : triesIn (beats ++ [⟨v, act, m⟩]) = m.happened.filterMap Happening.tried? := by
    rw [triesIn_append, untried, triesIn_singleton, List.nil_append]
  cases deed with
  | @awaitSpace task message here =>
    refine under ?_ ?_ rfl rfl rfl
    · cases task <;> simp_all [World.isBusy]
    · cases task <;> simp_all [World.Pursues]
  | peer | shutDown | shutDownAgain | elapse => exact under busy pursues rfl rfl rfl
  | refresh here carried =>
    obtain rfl := pursues.of_handling here
    have needs : u.needsAnswer = true := by simp [Update.needsAnswer, carried]
    exact under rfl ⟨needs, carried.symm⟩ rfl rfl rfl
  | refuse here carried request =>
    obtain rfl := pursues.of_handling here
    have needs : u.needsAnswer = true := by simp [Update.needsAnswer, carried, request]
    exact under rfl ⟨needs, carried.symm⟩ rfl rfl rfl
  | launch here carried request =>
    obtain rfl := pursues.of_handling here
    have needs : u.needsAnswer = true := by simp [Update.needsAnswer, carried, request]
    exact under rfl ⟨needs, carried⟩ rfl rfl rfl
  | timeOut here | started here | unstarted _ here =>
    -- However the start went, the call is answered, and nothing fails.
    obtain ⟨needs, carried⟩ := pursues.of_starting here
    exact under rfl ⟨needs, carried.symm⟩ rfl rfl rfl
  | heed here carried =>
    obtain rfl := pursues.of_handling here
    exact .noticed carried rfl counted tries (ends rfl)
  | ignore here noToken noNotice noRequest =>
    obtain rfl := pursues.of_handling here
    exact .silent (Update.needsAnswer_eq_false noToken noRequest) noNotice rfl rfl tries (ends rfl)
  | answerWritten here =>
    obtain ⟨needs, echoed⟩ := pursues.of_answering here
    exact .answered needs echoed rfl rfl (by rw [tries, ← held]; rfl) (ends rfl)
  | answerFailed here =>
    obtain ⟨needs, echoed⟩ := pursues.of_answering here
    exact .unanswered needs echoed rfl counted (by rw [tries, ← held]; rfl) (ends rfl)
  | _ => simp_all [World.isBusy]

theorem Pursuit.exchange (pursuit : Pursuit roster limit w u beats v) (freed : v.isBusy = false) :
    Exchange roster limit (signsOn w.held beats) := by
  cases pursuit with
  | under busy => simp [freed] at busy
  | noticed _ _ _ _ exchange | answered _ _ _ _ _ exchange | silent _ _ _ _ _ exchange
  | unanswered _ _ _ _ _ exchange => exact exchange

/-- The agent stays with an update until it is free, and counts nothing meanwhile. -/
theorem Pursuit.course {start : World} {first : List Beat}
    (pursuit : Pursuit (.onOffer functions) settings.dispatchTimeout w u first start)
    (sound : Sound settings functions start) (course : Course start beats v)
    (works : ∀ b ∈ beats, b.before.isBusy = true) :
    Pursuit (.onOffer functions) settings.dispatchTimeout w u (first ++ beats) v ∧
      ∀ b ∈ beats, b.before.failures = w.failures := by
  induction course with
  | nil => simpa using pursuit
  | @snoc v beats act m course step ih =>
    obtain ⟨pursuit, earlier⟩ := ih fun b member => works b (List.mem_append_left _ member)
    have busy : v.isBusy = true := works ⟨v, act, m⟩ (by simp)
    have sound := course.keeps sound fun _ _ _ sound deed => sound.deed deed
    cases pursuit with
    | noticed _ stands | silent _ _ stands | answered _ _ stands | unanswered _ _ stands =>
      simp [World.isBusy, stands] at busy
    | under _ pursues held counted untried unfinished =>
      rw [← List.append_assoc]
      refine ⟨.deed busy pursues held counted untried unfinished sound (deed_of_step step), ?_⟩
      intro b member
      rcases List.mem_append.1 member with member | member
      · exact earlier b member
      · obtain rfl := List.mem_singleton.1 member
        exact counted

/-- An agent that is free does no work on an update. -/
theorem Course.rests (course : Course w beats v) (works : ∀ b ∈ beats, b.before.isBusy = true)
    (free : w.isBusy = false) : beats = [] ∧ v = w := by
  induction course with
  | nil => exact ⟨rfl, rfl⟩
  | @snoc v beats act m course step ih =>
    obtain ⟨rfl, rfl⟩ := ih fun b member => works b (List.mem_append_left _ member)
    have busy := works ⟨v, act, m⟩ (by simp)
    simp [free] at busy

/-- Where an agent is busy no more there is a first point at which it is not. -/
theorem Course.first_free (course : Course w beats v) (busy : w.isBusy = true) :
    (v.isBusy = true ∧ ∀ b ∈ beats, b.before.isBusy = true) ∨
      ∃ front back u, beats = front ++ back ∧ Course w front u ∧
        (∀ b ∈ front, b.before.isBusy = true) ∧ u.isBusy = false := by
  induction course with
  | nil => exact .inl ⟨busy, fun _ member => absurd member List.not_mem_nil⟩
  | @snoc v beats act m course step ih =>
    rcases ih with ⟨working, works⟩ | ⟨front, back, u, rfl, first, works, free⟩
    · have all : ∀ b ∈ beats ++ [⟨v, act, m⟩], b.before.isBusy = true := by
        intro b member
        rcases List.mem_append.1 member with member | member
        · exact works b member
        · exact List.mem_singleton.1 member ▸ working
      cases further : m.world.isBusy with
      | true => exact .inl ⟨rfl, all⟩
      | false => exact .inr ⟨_, [], _, by simp, course.snoc step, all, further⟩
    · exact .inr ⟨front, back ++ [⟨v, act, m⟩], u, by simp, first, works, free⟩

/-- Every look for an update leads to the end of a tick, for which the agent needs nobody. -/
theorem ticks_of_looping (begins : w.control = .looping) (unasked : w.isShutdown = false) :
    ∃ beats v, Tick w beats v ∧ ∀ b ∈ beats, b.act = none ∨ ∃ ms, b.act = some (.elapse ms) := by
  have looked : w.step none = some w.turn := by simp [World.step, World.proceed, begins]
  cases busy : w.turn.world.isBusy with
  | false =>
    refine ⟨_, _, .look begins unasked looked .nil (fun _ member => ?_) busy, ?_⟩
    · exact absurd member List.not_mem_nil
    · simp
  | true =>
    obtain ⟨rest, u, course, alone, free⟩ := frees_of_busy busy
    rcases course.first_free busy with ⟨working, -⟩ | ⟨front, back, v, rfl, first, works, freed⟩
    · simp [free] at working
    · refine ⟨_, _, .look begins unasked looked first works freed, ?_⟩
      rintro b (_ | ⟨_, member⟩)
      · exact .inl rfl
      · exact alone b (List.mem_append_left _ member)

end Steps

/-- What a tick does and how it ends. -/
structure Ticking (roster : Roster) (limit : Span) (w : World) (beats : List Beat) (v : World) :
    Prop where
  /-- The oldest update that waits is taken, and no other. -/
  taken : takenOn w.held beats = w.current.stream.inbound.queue.head?.toList
  ends : v.upshot? ≠ none
  idles : v.upshot? = some .idle ↔
    w.current.stream.inbound.queue = [] ∧ w.current.stream.inbound.ended = none
  fails : ∀ cause, v.upshot? = some (.failed cause) ↔ Tick.Fails w beats cause
  recovers : ∀ cause, v.upshot? = some (.failed cause) →
    cause.isRecoverable = true ∧ v.control = .recovering cause
  counts : v.failures = if v.upshot? = some .handled then 0 else w.failures
  meanwhile : ∀ b ∈ beats, b.before.failures = w.failures
  exchange : ∀ u, takenOn w.held beats = [u] → Exchange roster limit (signsOn w.held beats)
  /-- An update that needs an answer is handled just if the answer was accepted. -/
  answers : ∀ u, takenOn w.held beats = [u] → u.needsAnswer = true →
    ∃ message result, triesIn beats = [(w.held, message, result)] ∧
      message.toUpdate.payload = u.payload ∧ (v.upshot? = some .handled ↔ result = .ok ())
  silent : ∀ u, takenOn w.held beats = [u] → u.needsAnswer = false → triesIn beats = []

section Ticks

variable {settings : Settings} {functions : List Function} {w v : World} {beats : List Beat}
  {u : Update} {cause : SessionFailure} {roster : Roster} {limit : Span}

theorem Tick.Fails.isRecoverable (fails : Tick.Fails w beats cause) :
    cause.isRecoverable = true := by
  cases fails <;> rfl

/-- A tick for which nothing waits fails just if the stream is over. -/
theorem Tick.fails_iff_of_dry (dry : w.current.stream.inbound.queue = [])
    (untaken : takenOn w.held beats = []) :
    Tick.Fails w beats cause ↔
      ∃ how, w.current.stream.inbound.ended = some how ∧ cause = .streamEnded how.message := by
  constructor
  · rintro (⟨-, ended⟩ | ⟨taken, -⟩ | ⟨taken, -, -⟩)
    · exact ⟨_, ended, rfl⟩
    · simp [untaken] at taken
    · simp [untaken] at taken
  · rintro ⟨how, ended, rfl⟩
    exact .ended dry ended

/-- What makes a tick fail that has an update is the update, or the answer to it. -/
theorem Tick.fails_iff_of_taken (waiting : w.current.stream.inbound.queue.head? = some u)
    (taken : takenOn w.held beats = [u]) :
    Tick.Fails w beats cause ↔
      (∃ notice, u.payload = some (.reconnect notice) ∧
        cause = .reconnectRequested notice.seconds) ∨
      u.needsAnswer = true ∧ ∃ message fault, message.toUpdate.payload = u.payload ∧
        triesIn beats = [(w.held, message, .error fault)] ∧ cause = .streamEnded fault.message := by
  constructor
  · rintro (⟨dry, -⟩ | ⟨took, carried⟩ | ⟨took, needs, echoed, tried⟩)
    · simp [dry] at waiting
    · obtain rfl : u = _ := by simpa [taken] using took
      exact .inl ⟨_, carried, rfl⟩
    · obtain rfl : u = _ := by simpa [taken] using took
      exact .inr ⟨needs, _, _, echoed, tried, rfl⟩
  · rintro (⟨notice, carried, rfl⟩ | ⟨needs, message, fault, echoed, tried, rfl⟩)
    · exact .noticed taken carried
    · exact .unanswered taken needs echoed tried

theorem control_of_failed (failed : v.upshot? = some (.failed cause))
    (working : v.isWithdrawing = false) : v.control = .recovering cause := by
  unfold World.upshot? at failed
  split at failed
  · simp at failed
  · simp at failed
  · rename_i stands
    simpa [stands] using failed
  · rename_i stands
    simp [World.isWithdrawing, stands] at working
  · contradiction

theorem looping_of_handled (handled : w.upshot? = some .handled) : w.control = .looping := by
  unfold World.upshot? at handled
  split at handled
  · simp at handled
  · assumption
  · simp at handled
  · simp at handled
  · contradiction

theorem Tick.of_replay {acts : List (Option Act)} (begins : w.upshot? = some .handled)
    (unasked : w.isShutdown = false) (played : w.replay (none :: acts) = some (beats, v))
    (works : beats.tail.all (·.before.isBusy) = true) (freed : v.isBusy = false) :
    Tick w beats v := by
  simp only [World.replay] at played
  split at played
  · contradiction
  · rename_i m looked
    obtain ⟨⟨rest, u⟩, replayed, equal⟩ := Option.map_eq_some_iff.1 played
    obtain ⟨rfl, rfl⟩ := Prod.mk.inj equal
    exact .look (looping_of_handled begins) unasked looked (.of_replay replayed)
      (List.all_eq_true.1 works) freed

/-- What is to be known of a tick with an update. -/
theorem Ticking.of_taken (upshot : Upshot) (waiting : w.current.stream.inbound.queue.head? = some u)
    (taken : takenOn w.held beats = [u]) (comes : v.upshot? = some upshot)
    (worked : upshot ≠ .idle) (working : v.isWithdrawing = false)
    (counts : v.failures = if upshot = .handled then 0 else w.failures)
    (meanwhile : ∀ b ∈ beats, b.before.failures = w.failures)
    (exchange : Exchange roster limit (signsOn w.held beats))
    (fails : ∀ cause, upshot = .failed cause ↔ Tick.Fails w beats cause)
    (answers : u.needsAnswer = true → ∃ message result,
      triesIn beats = [(w.held, message, result)] ∧ message.toUpdate.payload = u.payload ∧
        (upshot = .handled ↔ result = .ok ()))
    (silent : u.needsAnswer = false → triesIn beats = []) : Ticking roster limit w beats v := by
  have full : w.current.stream.inbound.queue ≠ [] := by
    rintro dry
    simp [dry] at waiting
  have only {u' : Update} (took : takenOn w.held beats = [u']) : u' = u := by
    simpa [taken] using took.symm
  have failed (cause : SessionFailure) :
      v.upshot? = some (.failed cause) ↔ Tick.Fails w beats cause := by
    rw [← fails, comes, Option.some.injEq]
  exact
    { taken := by rw [taken, waiting]; rfl
      ends := by simp [comes]
      idles := iff_of_false (by simp [comes, worked]) fun dry => full dry.1
      fails := failed
      recovers := fun cause lost =>
        ⟨((failed cause).1 lost).isRecoverable, control_of_failed lost working⟩
      counts := by simp [comes, counts]
      meanwhile
      exchange := fun _ _ => exchange
      answers := fun _ took needs => by
        rw [comes, Option.some.injEq]
        obtain rfl := only took
        exact answers needs
      silent := fun _ took needless => silent (only took ▸ needless) }

/-- What is to be known of a tick for which nothing waits. -/
theorem Ticking.of_dry (upshot : Upshot) (dry : w.current.stream.inbound.queue = [])
    (untaken : takenOn w.held beats = []) (comes : v.upshot? = some upshot)
    (idles : upshot = .idle ↔ w.current.stream.inbound.ended = none)
    (fails : ∀ cause, upshot = .failed cause ↔ Tick.Fails w beats cause)
    (unhandled : upshot ≠ .handled) (working : v.isWithdrawing = false)
    (counted : v.failures = w.failures)
    (meanwhile : ∀ b ∈ beats, b.before.failures = w.failures) : Ticking roster limit w beats v := by
  have failed (cause : SessionFailure) :
      v.upshot? = some (.failed cause) ↔ Tick.Fails w beats cause := by
    rw [← fails, comes, Option.some.injEq]
  have none {u : Update} (took : takenOn w.held beats = [u]) : False := by
    simp [untaken] at took
  exact
    { taken := by rw [untaken, dry]; rfl
      ends := by simp [comes]
      idles := by simp [comes, dry, idles]
      fails := failed
      recovers := fun cause lost =>
        ⟨((failed cause).1 lost).isRecoverable, control_of_failed lost working⟩
      counts := by simp [comes, unhandled, counted]
      meanwhile
      exchange := fun _ took => (none took).elim
      answers := fun _ took => (none took).elim
      silent := fun _ took => (none took).elim }

/-- The work on an update, once it is over, is a tick. -/
theorem Pursuit.ticking (pursuit : Pursuit roster limit w u beats v) (freed : v.isBusy = false)
    (waiting : w.current.stream.inbound.queue.head? = some u)
    (taken : takenOn w.held beats = [u])
    (meanwhile : ∀ b ∈ beats, b.before.failures = w.failures) :
    Ticking roster limit w beats v := by
  have noNotice (needs : u.needsAnswer = true) (notice : Reconnect) :
      u.payload ≠ some (.reconnect notice) := by
    intro carried
    simp [Update.needsAnswer, carried] at needs
  cases pursuit with
  | under busy => simp [freed] at busy
  | @noticed notice carried stands counted untried exchange =>
    have needless : u.needsAnswer = false := by simp [Update.needsAnswer, carried]
    have comes : v.upshot? = some (.failed (.reconnectRequested notice.seconds)) := by
      rw [World.upshot?, stands]
    have working : v.isWithdrawing = false := by simp [World.isWithdrawing, stands]
    apply Ticking.of_taken _ waiting taken comes (by simp) working counted meanwhile exchange
    · intro cause
      rw [Tick.fails_iff_of_taken waiting taken]
      simp [carried, needless, eq_comm]
    · intro needs
      simp [needless] at needs
    · intro _
      exact untried
  | silent needless noNotice stands anew untried exchange =>
    have comes : v.upshot? = some .handled := by rw [World.upshot?, stands]
    have working : v.isWithdrawing = false := by simp [World.isWithdrawing, stands]
    apply Ticking.of_taken _ waiting taken comes (by simp) working anew meanwhile exchange
    · intro cause
      rw [Tick.fails_iff_of_taken waiting taken]
      simp [noNotice, needless]
    · intro needs
      simp [needless] at needs
    · intro _
      exact untried
  | @answered message needs echoed stands anew tried exchange =>
    have comes : v.upshot? = some .handled := by rw [World.upshot?, stands]
    have working : v.isWithdrawing = false := by simp [World.isWithdrawing, stands]
    apply Ticking.of_taken _ waiting taken comes (by simp) working anew meanwhile exchange
    · intro cause
      rw [Tick.fails_iff_of_taken waiting taken]
      simp [noNotice needs, tried]
    · intro _
      exact ⟨message, .ok (), tried, echoed, by simp⟩
    · intro needless
      simp [needs] at needless
  | @unanswered message fault needs echoed stands counted tried exchange =>
    have comes : v.upshot? = some (.failed (.streamEnded fault.message)) := by
      rw [World.upshot?, stands]
    have working : v.isWithdrawing = false := by simp [World.isWithdrawing, stands]
    apply Ticking.of_taken _ waiting taken comes (by simp) working counted meanwhile exchange
    · intro cause
      constructor
      · rintro ⟨⟩
        exact .unanswered taken needs echoed tried
      · rw [Tick.fails_iff_of_taken waiting taken]
        rintro (⟨notice, carried, -⟩ | ⟨-, message', fault', -, tried', rfl⟩)
        · exact absurd carried (noNotice needs notice)
        · -- There was one write only, so that it is its fault that is told.
          obtain ⟨-, rfl⟩ : message = message' ∧ fault = fault' := by simpa [tried] using tried'
          rfl
    · intro _
      exact ⟨message, .error fault, tried, echoed, by simp⟩
    · intro needless
      simp [needs] at needless

theorem Tick.ticking (tick : Tick w beats v) (sound : Sound settings functions w) :
    Ticking (.onOffer functions) settings.dispatchTimeout w beats v := by
  obtain ⟨begins, unasked, looked, course, works, freed⟩ := tick
  have deed := deed_of_step looked
  have sound := sound.deed deed
  have untaken (next : World) : takenOn w.held [⟨w, none, ⟨next, []⟩⟩] = [] := by
    simp [takenOn, signsOn_singleton, Beat.signs, Beat.heard, begins]
  cases deed with
  | rest here _ nothing =>
    obtain ⟨rfl, rfl⟩ := course.rests works rfl
    obtain ⟨dry, running⟩ := w.current.receive_eq_none_iff.1 nothing
    refine .of_dry .idle dry (untaken _) rfl (by simp [running]) ?_ (by simp) rfl rfl (by simp)
    intro cause
    rw [Tick.fails_iff_of_dry dry (untaken _)]
    simp [running]
  | lose here _ lost =>
    obtain ⟨rfl, rfl⟩ := course.rests works rfl
    obtain ⟨how, dry, ended, rfl⟩ := Session.receive_eq_error lost
    refine .of_dry (.failed (.streamEnded how.message)) dry (untaken _) rfl (by simp [ended]) ?_
      (by simp) rfl rfl (by simp)
    intro cause
    rw [Tick.fails_iff_of_dry dry (untaken _)]
    simp [ended, eq_comm]
  | @take u here _ received =>
    obtain ⟨begun, shown⟩ :=
      Pursuit.begin (.onOffer functions) settings.dispatchTimeout here unasked received looked
    obtain ⟨pursuit, counted⟩ := begun.course sound course works
    refine pursuit.ticking freed (Session.receive_eq_some received) ?_ ?_
    · obtain ⟨u', signs, signed, others⟩ := (pursuit.exchange freed).begins
      obtain rfl : u = u' := by
        rw [signsOn_append, shown] at signed
        exact Sign.took.inj (List.cons.inj signed).1
      rw [takenOn, signed]
      simp [others]
    · rintro b (_ | ⟨_, member⟩)
      · rfl
      · exact counted b member
  | drain here asked => simp [unasked] at asked
  | _ => simp_all

end Ticks

section Steps

variable {w : World} {act : Option Act} {m : Move} {cause : SessionFailure}

theorem surrender_publication (old new : Phase) :
    (Move.publication old new).any Happening.isSurrender = false := by
  unfold Move.publication
  split <;> simp [Happening.isSurrender]

/-- The agent never reports that it does not recover from a failure. -/
theorem Deed.never_surrenders (deed : Deed w act m) :
    m.happened.any Happening.isSurrender = false := by
  cases deed with
  | unopened here setback | offerFailed here ends setback =>
    cases setback <;> simp [Happening.isSurrender]
  | _ => simp [Happening.isSurrender, surrender_publication, -List.any_eq_false]

/-- The work comes to fail only when a stream is lost and the budget is used up. -/
theorem Deed.gives_up (deed : Deed w act m) (failed : m.world.outcome? = some (.error cause)) :
    w.outcome? = some (.error cause) ∨
      w.control = .recovering cause ∧ w.settings.maxAttempts.toNat ≤ w.failures := by
  cases deed with
  | giveUp here small exhausted =>
    obtain rfl : _ = cause := by simpa [World.outcome?] using failed
    exact .inr ⟨here, by omega⟩
  | @awaitSpace task message here =>
    cases task <;> simp_all [World.outcome?]
  | unopened here setback | offerFailed here ends setback =>
    cases setback <;> simp [World.outcome?] at failed
  | peer | shutDown | shutDownAgain | elapse => exact .inl failed
  | _ => simp_all [World.outcome?]

end Steps

/-- Which failures end the use of a session, and which one ends the work. -/
structure Escalation (settings : Settings) (functions : List Function) (beats : List Beat)
    (w : World) : Prop where
  /-- A tick that begins here, whatever the others do meanwhile. -/
  ticking : ∀ tick v, Tick w tick v →
    Ticking (.onOffer functions) settings.dispatchTimeout w tick v
  /-- The agent needs nobody for coming to the end of a tick. -/
  ticks : w.control = .looping → w.isShutdown = false →
    ∃ tick v, Tick w tick v ∧ ∀ b ∈ tick, b.act = none ∨ ∃ ms, b.act = some (.elapse ms)
  unsurrendered : ∀ b ∈ beats, b.move.happened.any Happening.isSurrender = false
  /-- The work fails only with the budget of recoveries used up. -/
  exhausted : ∀ cause, w.outcome? = some (.error cause) →
    ∃ b ∈ beats, b.before.control = .recovering cause ∧
      settings.maxAttempts.toNat ≤ b.before.failures

section Career

variable {settings : Settings} {functions : List Function} {entry : Entry} {beats : List Beat}
  {w : World}

theorem Career.unsurrendered (career : Career settings functions entry beats w) :
    ∀ b ∈ beats, b.move.happened.any Happening.isSurrender = false := by
  intro b member
  obtain ⟨before, after, rfl⟩ := List.append_of_mem member
  obtain ⟨-, step, -⟩ := career.around
  exact (deed_of_step step).never_surrenders

theorem Career.exhausted (career : Career settings functions entry beats w)
    (cause : SessionFailure) (failed : w.outcome? = some (.error cause)) :
    ∃ b ∈ beats, b.before.control = .recovering cause ∧
      settings.maxAttempts.toNat ≤ b.before.failures := by
  induction career with
  | nil => simp [World.outcome?, World.create] at failed
  | @snoc w beats act m course step ih =>
    rcases (deed_of_step step).gives_up failed with earlier | ⟨stands, used⟩
    · obtain ⟨b, member, gave⟩ := ih earlier
      exact ⟨b, List.mem_append_left _ member, gave⟩
    · rw [(Career.sound course).settings] at used
      exact ⟨⟨w, act, m⟩, by simp, stands, used⟩

/-- A tick fails just if the stream is over, its update is the notice of a reconnect, or the answer
to its update could not be written. The agent recovers from each of these failures, and its work
fails only with the budget used up. -/
theorem Career.escalates (career : Career settings functions entry beats w) :
    Escalation settings functions beats w where
  ticking _ _ tick := tick.ticking career.sound
  ticks begins unasked := ticks_of_looping begins unasked
  unsurrendered := career.unsurrendered
  exhausted := career.exhausted

/-- A run that comes to a call of a function that is on offer. -/
def callWaiting : List (Option Act) :=
  [some (.answerOpen (.ok (.start "first" default))), none, none, none, some .run,
    some (.peer 0 (.deliver
      ⟨1, 1, "", some (.call ⟨"00000000000000000000000000000000", [1, 2]⟩)⟩))]

/-- A tick in which the executor does not start the function and the broker reads no more. -/
def deafTick : List (Option Act) :=
  [none, some (.answerStart (.error (.rejected 503 "busy"))), some (.peer 0 (.outbound .shut)),
    none]

theorem escalates_in_deaf_tick :
    ∃ beats w tick v, Career .standard [default] .start beats w ∧ Tick w tick v ∧
      Escalation .standard [default] beats w ∧
      Tick.Fails w tick (.streamEnded "request stream closed by the broker") := by
  have played : ((World.create .standard [default] .start).world.replay callWaiting).bind
      (fun run => (run.2.replay (none :: deafTick)).map fun rest =>
        (run.2.upshot?, run.2.isShutdown, rest.1.tail.all (·.before.isBusy), rest.2.isBusy,
          rest.2.upshot?))
        = some (some .handled, false, true, false,
          some (.failed (.streamEnded "request stream closed by the broker"))) := by
    decide +kernel
  obtain ⟨⟨beats, w⟩, led, further⟩ := Option.bind_eq_some_iff.1 played
  obtain ⟨⟨tick, v⟩, ticked, seen⟩ := Option.map_eq_some_iff.1 further
  simp only [Prod.mk.injEq] at seen
  obtain ⟨begins, unasked, works, freed, failed⟩ := seen
  have career : Career .standard [default] .start beats w := .of_replay led
  have tick : Tick w tick v := .of_replay begins unasked ticked works freed
  have escalation := career.escalates
  exact ⟨beats, w, _, v, career, tick, escalation,
    ((escalation.ticking _ _ tick).fails _).1 failed⟩

end Career

end Agent

end FunctionAgent
