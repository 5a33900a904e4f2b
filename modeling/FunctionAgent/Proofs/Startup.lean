import FunctionAgent.Proofs.Attempts
/-!
# How an agent starts

Whoever connects an agent gets an agent that is ready or the failure of the last attempt. Every
attempt offers the functions anew, on a session of its own, and the pauses between the attempts
grow. The number of attempts is that of the first one that succeeds, as far as the limit allows.
However the sessions that are asked for come or are refused, the agent gets to an end, since every
attempt passes (`World.Passes`).
-/

set_option autoImplicit false

namespace FunctionAgent.Agent

/-- Whether an agent that connects has come to an end of it. -/
def World.isConnected (w : World) : Bool :=
  match w.control with
  | .ready | .unstarted _ => true
  | _ => false

/-- A step of an agent that is left to itself, but for the sessions that it asks for: the attempt
after `n` failed ones gets the `n`-th answer. -/
def Beat.Served (factory : Nat → Except SessionFailure Session) (b : Beat) : Prop :=
  b.act = none ∨ (∃ ms, b.act = some (.elapse ms)) ∨
    ∃ limit n, b.before.control = .opening (.connect limit n) ∧
      b.act = some (.answerOpen (factory n))

section Progress

variable {w : World} {limit n : Nat} {factory : Nat → Except SessionFailure Session}

/-- An attempt comes to its end: the next one begins, or there is no next one. -/
def World.Passes (limit n : Nat) (w : World) : Prop :=
  w.control = .opening (.connect limit (n + 1)) ∧ n + 1 < limit ∨ w.isConnected = true ∨
    w.control = .overflowed

theorem reopens_of_retrying {wake : Nat} (stands : w.control = .retrying limit n wake)
    (early : w.clock ≤ wake) : w.Comes fun v => v.control = .opening (.connect limit n) := by
  have wakes : w.wake? = some wake := by rw [World.wake?, stands]
  refine .due wakes early (fun before => ?_) ?_
  · simp [World.proceed, stands, Nat.not_le.2 before]
  · have step : { w with clock := wake }.step none
        = some ((Move.stay { w with clock := wake }).askSession (.connect limit n)) := by
      simp [World.step, World.proceed, stands]
    exact .after step (.inl rfl) (.here rfl)

theorem passes_of_retrying {wake : Nat} (stands : w.control = .retrying limit (n + 1) wake)
    (early : w.clock ≤ wake) (left : n + 1 < limit) : w.Comes (World.Passes limit n) :=
  (reopens_of_retrying stands early).trans fun _ _ _ opening => .here (.inl ⟨opening, left⟩)

theorem passes_of_unopened {m : Move} (failure : SessionFailure) :
    (m.unopened (.connect limit n) failure).world.Comes (World.Passes limit n) := by
  obtain ⟨control, reports, setback, equal⟩ := m.unopened_eq (.connect limit n) failure
  rw [equal]
  cases setback with
  | uncountable | unmeasurable => exact .here (.inr (.inr rfl))
  | unstarted => exact .here (.inr (.inl rfl))
  | retrying _ small left length =>
    exact passes_of_retrying rfl (Nat.le_add_right _ _) left

/-- The functions are offered on a session, or this fails, without an act of the others. -/
theorem passes_of_offering {i : Nat} {todo : List Function}
    (stands : w.control = .offering (.connect limit n) i todo) :
    w.Comes (World.Passes limit n) := by
  induction todo generalizing w with
  | nil =>
    have step : w.step none = some (w.offered (.connect limit n) i) := by
      simp [World.step, World.proceed, stands]
    exact .after step (.inl rfl) (.here (.inr (.inl rfl)))
  | cons f todo ih =>
    have step : w.step none = some (w.announce f .online (.offer (.connect limit n) i todo)) := by
      simp [World.step, World.proceed, stands]
    refine .after step (.inl rfl) (.write rfl fun v outcome => ?_)
    obtain ⟨result, o⟩ := outcome
    cases result with
    | ok => exact ih rfl
    | error fault => exact passes_of_unopened (Session.writeFailure fault)

theorem passes_of_writing {i : Nat} {todo : List Function} {message : Message}
    {deadline : Option Nat}
    (stands : w.control = .writing (.offer (.connect limit n) i todo) message deadline) :
    w.Comes (World.Passes limit n) := by
  refine .write stands fun v outcome => ?_
  obtain ⟨result, o⟩ := outcome
  cases result with
  | ok => exact passes_of_offering rfl
  | error fault => exact passes_of_unopened (Session.writeFailure fault)

theorem passes_of_answer (stands : w.control = .opening (.connect limit n))
    (answer : Except SessionFailure Session) :
    ∃ m, w.step (some (.answerOpen answer)) = some m ∧ m.world.Comes (World.Passes limit n) := by
  refine ⟨w.answerOpen (.connect limit n) answer, ?_, ?_⟩
  · simp [World.step, World.act, stands]
  · cases answer with
    | ok session => exact passes_of_offering rfl
    | error failure => exact passes_of_unopened failure

theorem served_of_alone {beats : List Beat}
    (alone : ∀ b ∈ beats, b.act = none ∨ ∃ ms, b.act = some (.elapse ms)) :
    ∀ b ∈ beats, b.Served factory := by
  intro b member
  rcases alone b member with own | passing
  · exact .inl own
  · exact .inr (.inl passing)

/-- Whether the agent gets to an end as the sessions that it asks for come or are refused. -/
def World.Arrives (factory : Nat → Except SessionFailure Session) (w : World) : Prop :=
  ∃ beats v, Course w beats v ∧ (∀ b ∈ beats, b.Served factory) ∧
    (v.isConnected = true ∨ v.control = .overflowed)

/-- What the agent arrives at from where it was served to it arrives at. -/
theorem World.Arrives.after {v : World} {beats : List Beat} (course : Course w beats v)
    (served : ∀ b ∈ beats, b.Served factory) (arrives : v.Arrives factory) : w.Arrives factory := by
  obtain ⟨more, u, later, others, ended⟩ := arrives
  refine ⟨beats ++ more, u, course.append later, fun b member => ?_, ended⟩
  rcases List.mem_append.1 member with member | member
  · exact served b member
  · exact others b member

/-- An attempt that passes leads to an end if the next one does. -/
theorem World.Arrives.of_passes (passes : w.Comes (World.Passes limit n))
    (next : ∀ v : World, v.control = .opening (.connect limit (n + 1)) → n + 1 < limit →
      v.Arrives factory) : w.Arrives factory := by
  obtain ⟨beats, v, course, alone, ⟨here, left⟩ | ended⟩ := passes
  · exact .after course (served_of_alone alone) (next v here left)
  · exact ⟨beats, v, course, served_of_alone alone, ended⟩

/-- However the sessions that are asked for come or are refused, an agent gets to an end. -/
theorem arrives_of_opening {w : World} {n : Nat}
    (stands : w.control = .opening (.connect limit n)) : w.Arrives factory := by
  obtain ⟨m, step, passes⟩ := passes_of_answer stands (factory n)
  have first : Course w [⟨w, some (.answerOpen (factory n)), m⟩] m.world := Course.nil.snoc step
  -- Every answer is followed by an end or by the next attempt, of which fewer are left.
  refine .after first (fun b member => ?_) (.of_passes passes fun v next left => ?_)
  · obtain rfl := List.mem_singleton.1 member
    exact .inr (.inr ⟨limit, n, stands, rfl⟩)
  · exact arrives_of_opening next
termination_by limit - n

end Progress

/-- How an agent starts that connects in up to `limit` attempts. -/
structure Startup (settings : Settings) (functions : List Function) (limit : Nat)
    (beats : List Beat) (w : World) : Prop where
  /-- The functions stand in strictly ascending order. -/
  sorted : Roster.IsSorted (.onOffer functions)
  /-- Every attempt before the last one has failed, and the next one was begun after its pause. -/
  retried : Retried settings (.onOffer functions) (effortsOf beats).past
    (effortsOf beats).current.begun
  /-- Every attempt announces the functions anew. -/
  offers : ∀ a ∈ (effortsOf beats).all, a.Offers (.onOffer functions)
  few : (effortsOf beats).all.length ≤ max limit 1
  /-- The start ends with the first attempt that succeeds, or with the last one of the limit. -/
  made : w.isConnected = true →
    (effortsOf beats).all.length =
      min ((effortsOf beats).all.findIdx (Attempt.isSuccess (.onOffer functions)) + 1) (max limit 1)
  /-- No pause follows the last attempt. -/
  awake : w.isConnected = true → (effortsOf beats).current.pause = none
  /-- A start leads to an agent that is running and has offered each function once. -/
  ready : w.control = .ready →
    (effortsOf beats).current.Succeeds (.onOffer functions) w.held ∧
      acceptedOn w.held beats = (Roster.onOffer functions).announcements .online ∧
      w.phase = .running ∧ w.failures = 0 ∧ w.roster = .onOffer functions
  /-- Otherwise the failure is that of the last attempt. -/
  unstarted : ∀ failure, w.control = .unstarted failure →
    (effortsOf beats).current.Fails (.onOffer functions) failure
  /-- The sessions of earlier attempts are closed. None is open while the next one is asked for, or
  when the last attempt has failed. -/
  closed : ∀ i < w.sessions.length,
    (effortsOf beats).current.answer ≠ some (.ok i) ∨ (∃ failure, w.control = .unstarted failure) →
      (w.session i).isClosed = true
  /-- Failures can be counted and pauses be measured. -/
  counted : w.control ≠ .overflowed
  /-- However the sessions that are asked for come or are refused, the start comes to an end. -/
  ends : ∀ factory : Nat → Except SessionFailure Session,
    ∃ more v, Course w more v ∧ (∀ b ∈ more, b.Served factory) ∧ v.isConnected = true

section Career

variable {settings : Settings} {functions : List Function} {limit : Nat} {beats : List Beat}
  {e : Efforts} {w : World}

theorem Trying.findIdx_eq {roster : Roster} (trying : Trying settings roster limit e w) :
    e.all.findIdx (Attempt.isSuccess roster)
      = e.past.length + if e.current.isSuccess roster then 0 else 1 := by
  have failed : e.past.findIdx (Attempt.isSuccess roster) = e.past.length := by
    refine List.findIdx_eq_length_of_false fun a member => ?_
    obtain ⟨failure, fails⟩ := trying.retried.fails member
    simpa using fails.not_isSuccess
  rw [Efforts.all, List.findIdx_append, failed, if_neg (Nat.lt_irrefl _), Nat.add_comm]
  cases success : e.current.isSuccess roster <;> simp [List.findIdx_cons, success]

/-- An agent that has connected has made as many attempts as it takes. -/
theorem Trying.made {roster : Roster} (trying : Trying settings roster limit e w)
    (connected : w.isConnected = true) :
    e.all.length = min (e.all.findIdx (Attempt.isSuccess roster) + 1) (max limit 1) ∧
      e.current.pause = none := by
  have few := trying.few
  have count : e.all.length = e.past.length + 1 := by simp [Efforts.all]
  rw [trying.findIdx_eq, count]
  cases trying.stands with
  | ready here succeeds awake =>
    rw [succeeds.isSuccess, if_pos rfl]
    exact ⟨by omega, awake⟩
  | unstarted here fails exhausted awake =>
    rw [fails.not_isSuccess, if_neg Bool.false_ne_true]
    exact ⟨by omega, awake⟩
  | asked here | offering here | writing here | resting here =>
    simp [World.isConnected, here] at connected

/-- The session of an agent that is ready has accepted the announcements and nothing else. -/
theorem Career.accepted_ready {entry : Entry} (career : Career settings functions entry beats w)
    (stands : w.control = .ready) :
    acceptedOn w.held beats = (Roster.onOffer functions).announcements .online := by
  induction career with
  | nil => simp [World.create] at stands
  | @snoc v beats act m course step ih =>
    rw [acceptedOn_append]
    cases deed_of_step step with
    | @installFirst purpose i here first =>
      have offered : v.offered? = some i := by rw [World.offered?, here]
      have parts := Career.accepted_append_remaining course offered
      rw [World.remaining, here] at parts
      simpa [acceptedOn, signsOn, Beat.signs, Beat.heard, World.shown, here] using parts
    | peer | shutDown | shutDownAgain | elapse =>
      show acceptedOn v.held beats ++ acceptedOn v.held [_] = _
      rw [ih stands]
      simp [acceptedOn, signsOn_singleton, Beat.signs, Beat.heard, World.shown]
    | offerFailed here ends setback | unopened here setback => cases setback <;> cases stands
    | _ => simp_all

/-- From every point of a start an agent comes to the end of it. -/
theorem Trying.arrives {roster : Roster} (trying : Trying settings roster limit e w)
    (factory : Nat → Except SessionFailure Session) : w.Arrives factory := by
  have passing (passes : w.Comes (World.Passes limit e.past.length)) : w.Arrives factory :=
    .of_passes passes fun _ next _ => arrives_of_opening next
  cases trying.stands with
  | asked here => exact arrives_of_opening here
  | offering here => exact passing (passes_of_offering here)
  | writing here => exact passing (passes_of_writing here)
  | resting here _ left _ _ early => exact passing (passes_of_retrying here early left)
  | ready here | unstarted here =>
    exact ⟨[], w, .nil, by simp, .inl (by rw [World.isConnected, here])⟩

theorem Beat.Served.undriven {factory : Nat → Except SessionFailure Session} {b : Beat}
    (served : b.Served factory) : b.act ≠ some .run ∧ b.act ≠ some .drop := by
  rcases served with own | ⟨ms, passing⟩ | ⟨limit, n, -, answered⟩
  · simp [own]
  · simp [passing]
  · simp [answered]

/-- A session that is open is the one of the attempt that is made. -/
theorem Trying.open?_eq {roster : Roster} (trying : Trying settings roster limit e w) {i : Nat}
    (opened : w.open? = some i) : e.current.answer = some (.ok i) := by
  cases trying.stands with
  | offering here parts answer | writing here parts answer =>
    obtain rfl : _ = i := by simpa [World.open?, here] using opened
    exact answer
  | ready here succeeds =>
    obtain rfl : _ = i := by simpa [World.open?, here] using opened
    exact succeeds.answer
  | asked here | resting here | unstarted here => simp [World.open?, here] at opened

/-- As long as pauses can be measured, an agent that connects starts in this way. -/
theorem Career.connects {limit : UInt32}
    (career : Career settings functions (.connect limit.toNat) beats w)
    (measurable : ∀ n, 0 < n → n < limit.toNat → settings.backoff.times? n ≠ none)
    (undriven : ∀ b ∈ beats, b.act ≠ some .run ∧ b.act ≠ some .drop) :
    Startup settings functions limit.toNat beats w := by
  have countable : limit.toNat ≤ Text.word32Max := Nat.le_of_lt_succ limit.toNat_lt
  have trying := career.trying countable measurable undriven
  have sound := career.sound
  refine
    { sorted := Roster.isSorted_onOffer functions
      retried := trying.retried
      offers := fun a member => ?_
      few := ?_
      made := fun connected => (trying.made connected).1
      awake := fun connected => (trying.made connected).2
      ready := fun stands => ?_
      unstarted := fun failure stands => ?_
      closed := fun i known other => ?_
      counted := fun stands => ?_
      ends := fun factory => ?_ }
  · rcases List.mem_append.1 member with earlier | last
    · obtain ⟨failure, fails⟩ := trying.retried.fails earlier
      exact fails.offers
    · obtain rfl := List.mem_singleton.1 last
      exact trying.stands.offers
  · rw [Efforts.all, List.length_append]
    exact trying.few
  · have phase : w.phase = .running := by simpa [World.Phased, stands] using sound.phased
    have online : Roster.AllIn .online w.roster := by
      simpa [World.Listed, stands] using sound.offered.listed
    refine ⟨?_, career.accepted_ready stands, phase, trying.unused, sound.offered.eq_onOffer online⟩
    cases trying.stands with
    | ready _ succeeds => exact succeeds
    | _ => simp_all
  · cases trying.stands with
    | @unstarted cause here fails =>
      obtain rfl : failure = cause := by simpa [stands] using here
      exact fails
    | _ => simp_all
  · refine sound.standing.closed i known fun opened => ?_
    rcases other with other | ⟨failure, stands⟩
    · exact other (trying.open?_eq opened)
    · simp [World.open?, stands] at opened
  · cases trying.stands <;> simp_all
  · obtain ⟨more, v, course, served, connected | overflowed⟩ := trying.arrives factory
    · exact ⟨more, v, course, served, connected⟩
    · have later := Career.trying (career.append course) countable measurable fun b member => by
        rcases List.mem_append.1 member with member | member
        · exact undriven b member
        · exact (served b member).undriven
      cases later.stands <;> simp_all

/-- A start in up to three attempts: the first session is refused, the broker takes no messages on
the second one, and the third one is fine. -/
def ascent : List (Option Act) :=
  let deaf : Duplex Update Update := .start { Outbound.fresh 1 with peer := .shut }
  [some (.answerOpen (.error (.connection "refused"))), some (.elapse 1000), none,
    some (.answerOpen (.ok (.start "first" deaf))), none, none, some (.elapse 2000), none,
    some (.answerOpen (.ok (.start "second" default))), none, none, none]

theorem connects_in_ascent :
    (∀ n, 0 < n → n < (3 : UInt32).toNat → Settings.standard.backoff.times? n ≠ none) ∧
      ∃ beats w, Career .standard [default] (.connect (3 : UInt32).toNat) beats w ∧
        (∀ b ∈ beats, b.act ≠ some .run ∧ b.act ≠ some .drop) ∧ w.isConnected = true ∧
        (effortsOf beats).all.map (fun a => (a.begun, a.pause))
          = [(0, some 1000), (1000, some 2000), (3000, none)] ∧
        Startup .standard [default] 3 beats w := by
  have measurable : ∀ n, 0 < n → n < (3 : UInt32).toNat →
      Settings.standard.backoff.times? n ≠ none := by
    intro n positive left
    exact (by decide : ∀ n < 3, Settings.standard.backoff.times? n ≠ none) n left
  have played : ((World.create .standard [default] (.connect 3 0)).world.replay ascent).map
      (fun run => (run.2.isConnected, (effortsOf run.1).all.map fun a => (a.begun, a.pause)))
        = some (true, [(0, some 1000), (1000, some 2000), (3000, none)]) := by decide +kernel
  obtain ⟨⟨beats, w⟩, replayed, ended⟩ := Option.map_eq_some_iff.1 played
  obtain ⟨connected, made⟩ := Prod.mk.inj ended
  obtain ⟨career, acts⟩ := World.replay_eq_some_iff.1 replayed
  have undriven : ∀ b ∈ beats, b.act ≠ some .run ∧ b.act ≠ some .drop := by
    intro b member
    have act : b.act ∈ ascent := acts ▸ List.mem_map_of_mem member
    constructor
    · rintro driven
      simp [ascent, driven] at act
    · rintro dropped
      simp [ascent, dropped] at act
  exact ⟨measurable, beats, w, career, undriven, connected, made,
    Career.connects career measurable undriven⟩

end Career

end FunctionAgent.Agent
