import FunctionAgent.Proofs.Budget
import FunctionAgent.Proofs.Startup
/-!
# Counting failures and measuring pauses

The failures of an agent are counted in 32 bits, and the pauses between its attempts are multiples
of the unit that the settings name. Whether all of them can be represented depends on the settings
and on the limit of the start (`Settings.IsReckonable`). Where one cannot be, there is a run that
comes to it and gets stuck, in the middle of a start or of a recovery; no other run does
(`reckons`). A count that is subtracted from a limit never exceeds it.
-/

set_option autoImplicit false

namespace FunctionAgent

theorem Span.times?_eq_none_iff {d : Span} {n : Nat} :
    d.times? n = none ↔ 18_446_744_073_709_551_616 * 1_000_000_000 ≤ d.nanos * n := by
  unfold times?
  split
  · rename_i short
    simpa using short
  · rename_i long
    exact ⟨fun _ => Nat.le_of_not_lt long, fun _ => rfl⟩

/-- The span itself can always be measured, and so can none of it. -/
theorem Span.times?_ne_none (d : Span) {n : Nat} (few : n ≤ 1) : d.times? n ≠ none := by
  intro long
  have least := Span.times?_eq_none_iff.1 long
  have most := Nat.mul_le_mul_left d.nanos few
  have := d.nanos_lt
  omega

namespace Agent

/-- The start of an agent in a single attempt, or in up to so many as somebody has chosen. -/
def Entry.upTo : Option UInt32 → Entry
  | none => .start
  | some limit => .connect limit.toNat

/-- In how many attempts an agent is started at most. -/
def Entry.limit : Entry → Nat
  | .start => 1
  | .connect limit => limit

theorem Entry.limit_upTo (limit : Option UInt32) : (Entry.upTo limit).limit ≤ Text.word32Max := by
  cases limit with
  | none => decide
  | some limit => exact Nat.le_of_lt_succ limit.toNat_lt

theorem Settings.maxAttempts_le (settings : Settings) :
    settings.maxAttempts.toNat ≤ Text.word32Max :=
  Nat.le_of_lt_succ settings.maxAttempts.toNat_lt

/-- Whether every failure can be counted and every pause be measured. -/
structure Settings.IsReckonable (settings : Settings) (entry : Entry) : Prop where
  countable : settings.maxAttempts.toNat < Text.word32Max
  measurable : settings.backoff.nanos * max settings.maxAttempts.toNat (entry.limit - 1)
    < 18_446_744_073_709_551_616 * 1_000_000_000

theorem Settings.IsReckonable.times?_ne {settings : Settings} {entry : Entry} {n : Nat}
    (reckonable : settings.IsReckonable entry)
    (due : n ≤ settings.maxAttempts.toNat ∨ n < entry.limit) :
    settings.backoff.times? n ≠ none := by
  intro long
  have least := Span.times?_eq_none_iff.1 long
  have within : n ≤ max settings.maxAttempts.toNat (entry.limit - 1) := by omega
  have := Nat.mul_le_mul_left settings.backoff.nanos within
  have := reckonable.measurable
  omega

/-- The limit and the number of attempts that have failed, while an agent connects. -/
def World.connecting? (w : World) : Option (Nat × Nat) :=
  match w.control with
  | .opening (.connect limit failed) | .offering (.connect limit failed) _ _
  | .writing (.offer (.connect limit failed) _ _) _ _ | .retrying limit failed _ =>
    some (limit, failed)
  | _ => none

/-- Whether an agent is stuck for a count or a pause that is too large. -/
def World.isOverflowed (w : World) : Bool :=
  match w.control with
  | .overflowed => true
  | _ => false

theorem World.isOverflowed_iff {w : World} :
    w.isOverflowed = true ↔ w.control = .overflowed := by
  unfold isOverflowed
  split <;> simp_all

/-- The event that a start is tried again. -/
def retried (limit attempt : Nat) (pause : Span) (cause : SessionFailure) : Event :=
  ⟨.agent, .warn, "Could not connect to broker, retrying",
    [("attempt", toString attempt), ("remaining", toString (limit - attempt)),
      ("retry_in", pause.render), ("error", cause.message)]⟩

/-! ## What is counted -/

/-- How far an agent has counted its recoveries: the failure that exceeds the budget is the last. -/
def World.Bounded (w : World) : Prop :=
  w.failures ≤ w.settings.maxAttempts.toNat ∨
    w.failures = w.settings.maxAttempts.toNat + 1 ∧
      (w.isWithdrawing = true ∧ w.failures ≤ Text.word32Max ∨ w.control = .overflowed)

/-- How far an agent has counted its attempts to start, and why it may be stuck. -/
structure Counting (entry : Entry) (w : World) : Prop where
  bounded : w.Bounded
  attempts : ∀ limit failed, w.connecting? = some (limit, failed) →
    limit = entry.limit ∧ failed < max limit 1
  overflowed : w.control = .overflowed → ¬w.settings.IsReckonable entry

section Counting

variable {settings : Settings} {functions : List Function} {entry : Entry} {w : World}
  {act : Option Act} {m : Move} {limit failed : Nat}

/-- As long as the work goes on no failure exceeds the budget. -/
theorem World.Bounded.within (bounded : w.Bounded) (going : w.isWithdrawing = false)
    (sane : w.control ≠ .overflowed) : w.failures ≤ w.settings.maxAttempts.toNat := by
  rcases bounded with within | ⟨-, withdrawing | stuck⟩
  · exact within
  · simp [withdrawing.1] at going
  · exact absurd stuck sane

theorem World.Bounded.deed (bounded : w.Bounded) (deed : Deed w act m) : m.world.Bounded := by
  cases deed with
  | answerWritten | ignore => exact .inl (Nat.zero_le _)
  | giveUp here small exhausted =>
    have within := bounded.within (by simp [World.isWithdrawing, here]) (by simp [here])
    exact .inr ⟨by simp only; omega, .inl ⟨rfl, small⟩⟩
  | miscount here large =>
    have within := bounded.within (by simp [World.isWithdrawing, here]) (by simp [here])
    by_cases more : w.settings.maxAttempts.toNat < w.failures + 1
    · exact .inr ⟨by simp only; omega, .inr rfl⟩
    · exact .inl (Nat.le_of_not_lt more)
  | desist here small left | reopen here left | mismeasure here small left
  | backOff here small left => exact .inl left
  | stop here | withdraw here | withdrawalWritten here | withdrawalFailed here =>
    simpa [World.Bounded, World.isWithdrawing, here] using bounded
  | @awaitSpace task message here =>
    cases task <;> simpa [World.Bounded, World.isWithdrawing, here] using bounded
  | peer | elapse | shutDown | shutDownAgain => exact bounded
  | _ => exact .inl (bounded.within (by simp_all [World.isWithdrawing]) (by simp_all))

theorem Career.bounded {beats : List Beat} (career : Career settings functions entry beats w) :
    w.Bounded :=
  career.keeps (.inl (Nat.zero_le _)) fun _ _ _ bounded deed => bounded.deed deed

theorem counting_create (settings : Settings) (functions : List Function) (entry : Entry) :
    Counting entry (World.create settings functions entry.purpose).world where
  bounded := .inl (Nat.zero_le _)
  attempts limit failed connecting := by
    cases entry with
    | start => simp [World.connecting?, World.create, Entry.purpose] at connecting
    | connect most =>
      obtain ⟨rfl, rfl⟩ : most = limit ∧ 0 = failed := by
        simpa [World.connecting?, World.create, Entry.purpose] using connecting
      exact ⟨rfl, by omega⟩
  overflowed stuck := by simp [World.create] at stuck

/-- A pause that an agent fails to measure is one that the settings make too long. -/
theorem not_reckonable_of_times? {n : Nat} (long : w.settings.backoff.times? n = none)
    (due : n ≤ w.settings.maxAttempts.toNat ∨ n < entry.limit) :
    ¬w.settings.IsReckonable entry :=
  fun reckonable => reckonable.times?_ne due long

theorem Counting.setback (counting : Counting entry w) (small : entry.limit ≤ Text.word32Max)
    {purpose : Purpose} {failure : SessionFailure} {control : Control} {reports : List Happening}
    (setback : Setback w.settings w.clock purpose failure control reports)
    (connecting : ∀ limit failed, purpose = .connect limit failed →
      w.connecting? = some (limit, failed))
    (next : m.world.control = control) (same : m.world.settings = w.settings) :
    (∀ limit failed, m.world.connecting? = some (limit, failed) →
      limit = entry.limit ∧ failed < max limit 1) ∧
    (m.world.control = .overflowed → ¬m.world.settings.IsReckonable entry) := by
  rw [same, next]
  cases setback with
  | start | recovering | unstarted => simp [World.connecting?, next]
  | @uncountable limit failed failure large =>
    obtain ⟨rfl, few⟩ := counting.attempts _ _ (connecting _ _ rfl)
    simp only [Text.word32Max] at small large
    omega
  | @unmeasurable limit failed failure small left long =>
    obtain ⟨rfl, few⟩ := counting.attempts _ _ (connecting _ _ rfl)
    refine ⟨by simp [World.connecting?, next], fun _ => ?_⟩
    exact not_reckonable_of_times? long (.inr left)
  | @retrying limit failed pause failure small left length =>
    obtain ⟨rfl, few⟩ := counting.attempts _ _ (connecting _ _ rfl)
    simp [World.connecting?, next]
    omega

theorem Counting.deed (counting : Counting entry w) (small : entry.limit ≤ Text.word32Max)
    (deed : Deed w act m) : Counting entry m.world := by
  have bounded := counting.bounded.deed deed
  suffices rest : (∀ limit failed, m.world.connecting? = some (limit, failed) →
      limit = entry.limit ∧ failed < max limit 1) ∧
      (m.world.control = .overflowed → ¬m.world.settings.IsReckonable entry) from
    ⟨bounded, rest.1, rest.2⟩
  have still (same : m.world.connecting? = w.connecting?) (sane : m.world.control ≠ .overflowed) :
      (∀ limit failed, m.world.connecting? = some (limit, failed) →
        limit = entry.limit ∧ failed < max limit 1) ∧
      (m.world.control = .overflowed → ¬m.world.settings.IsReckonable entry) := by
    rw [same]
    exact ⟨counting.attempts, fun stuck => absurd stuck sane⟩
  cases deed with
  | offerFailed here ends setback =>
    refine counting.setback small setback (fun limit failed equal => ?_) rfl rfl
    simp [World.connecting?, here, equal]
  | unopened here setback =>
    refine counting.setback small setback (fun limit failed equal => ?_) rfl rfl
    simp [World.connecting?, here, equal]
  | @offer purpose i f todo here | @offerWritten purpose i todo message deadline o here
  | @opened purpose session here =>
    cases purpose <;> exact still (by simp [World.connecting?, here]) (by simp)
  | @awaitSpace task message here =>
    rcases task with ⟨_ | _ | _, _, _⟩ | _ | _ <;>
      exact still (by simp [World.connecting?, here]) (by simp)
  | retry here => exact still (by simp [World.connecting?, here]) (by simp)
  | miscount here large =>
    have within := counting.bounded.within (by simp [World.isWithdrawing, here]) (by simp [here])
    refine ⟨by simp [World.connecting?], fun _ reckonable => ?_⟩
    have countable : w.settings.maxAttempts.toNat < Text.word32Max := reckonable.countable
    omega
  | mismeasure here small left unasked later long =>
    exact ⟨by simp [World.connecting?], fun _ => not_reckonable_of_times? long (.inl left)⟩
  | peer | elapse | shutDown | shutDownAgain => exact ⟨counting.attempts, counting.overflowed⟩
  | _ => simp [World.connecting?]

theorem Career.counting {beats : List Beat} (career : Career settings functions entry beats w)
    (small : entry.limit ≤ Text.word32Max) : Counting entry w :=
  career.keeps (counting_create settings functions entry) fun _ _ _ counting deed =>
    counting.deed small deed

/-- What an agent subtracts from its budget, and tells, is at most this budget. -/
theorem Deed.lost_eq {event : Event} (deed : Deed w act m) (member : .logged event ∈ m.happened)
    (text : event.message = "Lost broker stream, reconnecting") :
    ∃ attempt cause, event = lost w.settings.maxAttempts.toNat attempt cause ∧
      attempt ≤ w.settings.maxAttempts.toNat := by
  cases deed with
  | @reopen cause here left | @mismeasure cause here small left
  | @backOff cause pause here small left =>
    refine ⟨_, cause, ?_, left⟩
    grind [Move.publication, lost]
  | offerFailed here ends setback | unopened here setback => cases setback <;> grind
  | _ => grind [Move.publication]

/-- What an agent subtracts from the limit of its start, and tells, is less than this limit. -/
theorem Deed.retried_eq {event : Event} (deed : Deed w act m)
    (member : .logged event ∈ m.happened)
    (text : event.message = "Could not connect to broker, retrying") :
    ∃ limit failed pause cause, event = retried limit (failed + 1) pause cause ∧
      failed + 1 < limit ∧ w.settings.backoff.times? (failed + 1) = some pause ∧
      w.connecting? = some (limit, failed) := by
  cases deed with
  | @offerFailed purpose i todo message deadline fault o control reports here ends setback =>
    cases setback with
    | retrying _ small left length =>
      refine ⟨_, _, _, Session.writeFailure fault, ?_, left, length, ?_⟩
      · grind [retried]
      · simp [World.connecting?, here]
    | _ => grind
  | @unopened purpose failure control reports here setback =>
    cases setback with
    | retrying _ small left length =>
      refine ⟨_, _, _, failure, ?_, left, length, ?_⟩
      · grind [retried]
      · simp [World.connecting?, here]
    | _ => grind
  | _ => grind [Move.publication]

end Counting

/-! ## Runs that get stuck -/

section Reaching

variable {settings : Settings} {functions : List Function} {entry : Entry} {w : World}
  {goal : World → Prop}

/-- Left to itself an agent is not asked to shut down. -/
theorem World.Comes.unasked (comes : w.Comes goal) (unasked : w.isShutdown = false) :
    ∃ beats v, Course w beats v ∧ goal v ∧ v.isShutdown = false := by
  obtain ⟨beats, v, course, alone, reached⟩ := comes
  refine ⟨beats, v, course, reached, ?_⟩
  clear reached
  induction course with
  | nil => exact unasked
  | @snoc u beats act m course step ih =>
    have before := ih fun b member => alone b (List.mem_append_left _ member)
    have last := alone _ (List.mem_append_right _ (List.mem_singleton.2 rfl))
    cases deed_of_step step with
    | shutDown | shutDownAgain => simp at last
    | _ => exact before

/-- A session that is asked for may be refused. -/
theorem refuses {purpose : Purpose} (stands : w.control = .opening purpose)
    (failure : SessionFailure) :
    ∃ control reports,
      w.step (some (.answerOpen (.error failure))) = some ⟨{ w with control }, reports⟩ ∧
        Setback w.settings w.clock purpose failure control reports := by
  obtain ⟨control, reports, setback, equal⟩ := (Move.stay w).unopened_eq purpose failure
  refine ⟨control, reports, ?_, setback⟩
  simpa [World.step, World.act, World.answerOpen, stands] using equal

/-- Whether some run of an agent leads to a goal. -/
def Reaches (settings : Settings) (functions : List Function) (entry : Entry)
    (goal : World → Prop) : Prop :=
  ∃ beats w, Career settings functions entry beats w ∧ goal w

theorem Reaches.next (reaches : Reaches settings functions entry goal) {further : World → Prop}
    (more : ∀ v, Sound settings functions v → goal v → ∃ beats u, Course v beats u ∧ further u) :
    Reaches settings functions entry further := by
  obtain ⟨beats, v, career, reached⟩ := reaches
  obtain ⟨later, u, course, got⟩ := more v career.sound reached
  exact ⟨beats ++ later, u, Course.append career course, got⟩

theorem Reaches.step (reaches : Reaches settings functions entry goal) {further : World → Prop}
    (more : ∀ v, Sound settings functions v → goal v →
      ∃ act m, v.step act = some m ∧ further m.world) :
    Reaches settings functions entry further :=
  reaches.next fun v sound reached => by
    obtain ⟨act, m, step, got⟩ := more v sound reached
    exact ⟨_, m.world, Course.nil.snoc step, got⟩

/-- An agent whose stream was lost, with `n` recoveries counted and no shutdown asked for. -/
structure World.Lost (n : Nat) (w : World) : Prop where
  stands : ∃ cause, w.control = .recovering cause
  counted : w.failures = n
  unasked : w.isShutdown = false

/-- A recovery that may be tried may be refused, and then the stream is lost once more. -/
theorem Reaches.loses_again {n : Nat} (reaches : Reaches settings functions entry (World.Lost n))
    (left : n + 1 ≤ settings.maxAttempts.toNat)
    (measurable : settings.backoff.times? (n + 1) ≠ none) :
    Reaches settings functions entry (World.Lost (n + 1)) := by
  have small := settings.maxAttempts_le
  have opens : Reaches settings functions entry fun v =>
      v.control = .opening (.recover (n + 1)) ∧ v.isShutdown = false := by
    refine reaches.next fun v sound lost => ?_
    obtain ⟨cause, stands⟩ := lost.stands
    obtain rfl := sound.settings
    obtain rfl := lost.counted
    have comes := reopens_of_recovering stands lost.unasked left (by omega) measurable
    obtain ⟨beats, u, course, opened, unasked⟩ := comes.unasked lost.unasked
    exact ⟨beats, u, course, opened, unasked⟩
  refine opens.step fun v sound ⟨stands, unasked⟩ => ?_
  have counted : n + 1 = v.failures := by
    have phased := sound.phased
    simp only [World.Phased, stands] at phased
    exact phased.1
  obtain ⟨control, reports, step, setback⟩ := refuses stands (.connection "refused")
  refine ⟨_, _, step, ?_, counted.symm, unasked⟩
  cases setback with
  | recovering => exact ⟨_, rfl⟩

/-- A stream that the broker has ended, with room for some more messages. -/
def ending (queue : List Update) (room : Nat) : Duplex Update Update where
  inbound := ⟨[], some .completed⟩
  outbound := ⟨queue.length + room, queue, .reading, false, none, Outbound.defaultLimit⟩
  isFed := false

theorem write?_ending (queue : List Update) (room : Nat) (u : Update) :
    (ending queue (room + 1)).outbound.write? u =
      some (.ok (), (ending (queue ++ [u]) room).outbound) := by
  have same : queue.length + (room + 1) = queue.length + 1 + room := by omega
  have fits : queue.length < queue.length + 1 + room := by omega
  simp [ending, Outbound.write?, same, fits]

/-- An agent whose first session has such a stream. -/
structure World.Greeted (control : Control) (room : Nat) (w : World) : Prop where
  stands : w.control = control
  known : 0 < w.sessions.length
  stream : ∃ queue, (w.session 0).stream = ending queue room
  counted : w.failures = 0
  unasked : w.isShutdown = false

theorem Reaches.announces {purpose : Purpose} {f : Function} {todo : List Function} {room : Nat}
    (reaches : Reaches settings functions entry
      (World.Greeted (.offering purpose 0 (f :: todo)) room)) :
    Reaches settings functions entry
      (World.Greeted (.writing (.offer purpose 0 todo) (.announce f .online) none) room) :=
  reaches.step fun v _ greeted => by
    have step : v.step none = some (v.announce f .online (.offer purpose 0 todo)) := by
      simp [World.step, World.proceed, greeted.stands]
    exact ⟨_, _, step, rfl, greeted.known, greeted.stream, greeted.counted, greeted.unasked⟩

theorem Reaches.writes {purpose : Purpose} {todo : List Function} {message : Message} {room : Nat}
    (reaches : Reaches settings functions entry
      (World.Greeted (.writing (.offer purpose 0 todo) message none) (room + 1))) :
    Reaches settings functions entry (World.Greeted (.offering purpose 0 todo) room) :=
  reaches.step fun v _ greeted => by
    obtain ⟨queue, stream⟩ := greeted.stream
    have written := write?_ending queue room message.toUpdate
    rw [← stream] at written
    have step : v.step none = some (v.settle (.offer purpose 0 todo) message
        (.ok (), (ending (queue ++ [message.toUpdate]) room).outbound)) := by
      simp [World.step, World.proceed, World.write, World.target, greeted.stands, written]
    refine ⟨_, _, step, rfl, ?_, ⟨queue ++ [message.toUpdate], ?_⟩, greeted.counted,
      greeted.unasked⟩
    · simpa [World.settle, Move.written] using greeted.known
    · show ((v.onSession 0 _).session 0).stream = _
      rw [World.session_onSession_self greeted.known]
      simp [Session.withOutbound, stream, ending]

theorem Reaches.offers {purpose : Purpose} {todo : List Function}
    (reaches : Reaches settings functions entry
      (World.Greeted (.offering purpose 0 todo) todo.length)) :
    Reaches settings functions entry (World.Greeted (.offering purpose 0 []) 0) := by
  induction todo with
  | nil => exact reaches
  | cons f todo ih => exact ih reaches.announces.writes

/-- The stream of the first session may be lost as soon as somebody drives the agent. -/
theorem reaches_lost (settings : Settings) (functions : List Function) (entry : Entry) :
    Reaches settings functions entry (World.Lost 0) := by
  have created : Reaches settings functions entry
      (· = (World.create settings functions entry.purpose).world) := ⟨[], _, .nil, rfl⟩
  have opened : Reaches settings functions entry (World.Greeted
      (.offering entry.purpose 0 (Roster.ofList functions)) (Roster.ofList functions).length) :=
    created.step fun v _ equal => by
      subst equal
      refine ⟨some (.answerOpen (.ok ⟨none, ending [] (Roster.ofList functions).length⟩)), _, rfl,
        rfl, Nat.zero_lt_one, ⟨[], rfl⟩, rfl, rfl⟩
  have ready : Reaches settings functions entry fun v => World.Greeted .ready 0 v ∧ v.held = 0 :=
    opened.offers.step fun v _ greeted => by
      have step : v.step none = some (v.offered entry.purpose 0) := by
        simp [World.step, World.proceed, greeted.stands]
      refine ⟨_, _, step, ?_⟩
      cases entry <;>
        exact ⟨⟨rfl, greeted.known, greeted.stream, greeted.counted, greeted.unasked⟩, rfl⟩
  have driven : Reaches settings functions entry fun v => World.Greeted .looping 0 v ∧ v.held = 0 :=
    ready.step fun v _ both => by
      obtain ⟨greeted, held⟩ := both
      have step : v.step (some .run) = some ((Move.stay v).goto .looping) := by
        simp [World.step, World.act, greeted.stands]
      exact ⟨_, _, step, ⟨rfl, greeted.known, greeted.stream, greeted.counted, greeted.unasked⟩,
        held⟩
  refine driven.step fun v _ both => ?_
  obtain ⟨greeted, held⟩ := both
  obtain ⟨queue, stream⟩ := greeted.stream
  have received : v.current.receive.1 = .error (.streamEnded "stream completed") := by
    rw [World.current, held, Session.receive, Duplex.receive, stream]
    rfl
  have step : v.step none = some v.turn := by simp [World.step, World.proceed, greeted.stands]
  refine ⟨_, _, step, ?_⟩
  generalize v.turn = m at step
  have stands := greeted.stands
  have unasked := greeted.unasked
  cases deed_of_step step with
  | lose here unasked => exact ⟨⟨_, rfl⟩, greeted.counted, unasked⟩
  | _ => simp_all

/-- A failure that cannot be counted, or whose pause cannot be measured, leaves an agent stuck. -/
theorem World.Lost.overflows {n : Nat} (lost : w.Lost n)
    (fails : Text.word32Max < n + 1 ∨
      n + 1 ≤ w.settings.maxAttempts.toNat ∧ w.settings.backoff.times? (n + 1) = none) :
    ∃ m, w.step none = some m ∧ m.world.control = .overflowed := by
  obtain ⟨cause, stands⟩ := lost.stands
  obtain rfl := lost.counted
  have unasked := lost.unasked
  have small := w.settings.maxAttempts_le
  have step : w.step none = some (w.recover cause) := by simp [World.step, World.proceed, stands]
  refine ⟨_, step, ?_⟩
  generalize w.recover cause = m at step
  cases deed_of_step step with
  | miscount | mismeasure => rfl
  | giveUp here small exhausted => omega
  | reopen here left unasked first =>
    have short := w.settings.backoff.times?_ne_none (n := w.failures + 1) (by omega)
    rcases fails with large | ⟨-, long⟩
    · omega
    · exact absurd long short
  | backOff here small left unasked later length =>
    rcases fails with large | ⟨-, long⟩
    · omega
    · simp [long] at length
  | _ => simp_all

/-- Recoveries are counted up to any number within the budget, unless the agent gets stuck. -/
theorem recovers_or_overflows {n : Nat} (within : n ≤ settings.maxAttempts.toNat) :
    Reaches settings functions entry (World.Lost n) ∧ settings.backoff.times? n ≠ none ∨
      Reaches settings functions entry (·.control = .overflowed) := by
  induction n with
  | zero =>
    exact .inl ⟨reaches_lost settings functions entry, Span.times?_ne_none _ (Nat.zero_le 1)⟩
  | succ n ih =>
    rcases ih (Nat.le_of_succ_le within) with ⟨lost, -⟩ | stuck
    · by_cases long : settings.backoff.times? (n + 1) = none
      · refine .inr (lost.step fun v sound here => ⟨none, ?_⟩)
        obtain rfl := sound.settings
        exact here.overflows (.inr ⟨within, long⟩)
      · exact .inl ⟨lost.loses_again within long, long⟩
    · exact .inr stuck

/-- Attempts to connect fail up to any number below the limit, unless the agent gets stuck. -/
theorem retries_or_overflows {limit n : Nat} (left : n < max limit 1)
    (small : limit ≤ Text.word32Max) :
    Reaches settings functions (.connect limit) (·.control = .opening (.connect limit n)) ∧
        settings.backoff.times? n ≠ none ∨
      Reaches settings functions (.connect limit) (·.control = .overflowed) := by
  induction n with
  | zero => exact .inl ⟨⟨[], _, .nil, rfl⟩, Span.times?_ne_none _ (Nat.zero_le 1)⟩
  | succ n ih =>
    rcases ih (Nat.lt_of_succ_lt left) with ⟨opening, -⟩ | stuck
    · by_cases long : settings.backoff.times? (n + 1) = none
      · refine .inr (opening.step fun v sound stands => ?_)
        obtain rfl := sound.settings
        obtain ⟨control, reports, step, setback⟩ := refuses stands (.connection "refused")
        refine ⟨_, _, step, ?_⟩
        cases setback with
        | uncountable | unmeasurable => rfl
        | unstarted => omega
        | retrying failure few left length => simp [long] at length
      · refine .inl ⟨opening.next fun v sound stands => ?_, long⟩
        obtain rfl := sound.settings
        obtain ⟨control, reports, step, setback⟩ := refuses stands (.connection "refused")
        cases setback with
        | uncountable | unstarted => omega
        | unmeasurable failure few left unmeasured => exact absurd unmeasured long
        | @retrying _ _ pause failure few left length =>
          have comes : World.Comes
              { v with control := .retrying limit (n + 1) (v.clock + pause.ticks) }
              (·.control = .opening (.connect limit (n + 1))) :=
            reopens_of_retrying rfl (Nat.le_add_right v.clock pause.ticks)
          obtain ⟨beats, u, course, -, reopened⟩ := comes
          exact ⟨_, u, Course.append (Course.nil.snoc step) course, reopened⟩
    · exact .inr stuck

/-- Where a failure cannot be counted, or a pause cannot be measured, some run comes to it. -/
theorem reaches_overflowed (small : entry.limit ≤ Text.word32Max)
    (unreckonable : ¬settings.IsReckonable entry) :
    Reaches settings functions entry (·.control = .overflowed) := by
  rcases @recovers_or_overflows settings functions entry _ (Nat.le_refl _) with
    ⟨lost, measurable⟩ | stuck
  · by_cases countable : settings.maxAttempts.toNat < Text.word32Max
    · -- All pauses of recoveries can be measured, so one of the start cannot be.
      have long : settings.backoff.times? (entry.limit - 1) = none := by
        rw [Span.times?_eq_none_iff]
        have exceeds := Nat.le_of_not_lt fun short => unreckonable ⟨countable, short⟩
        rcases Nat.le_total (entry.limit - 1) settings.maxAttempts.toNat with fewer | more
        · rw [Nat.max_eq_left fewer] at exceeds
          exact absurd (Span.times?_eq_none_iff.2 exceeds) measurable
        · rwa [Nat.max_eq_right more] at exceeds
      cases entry with
      | start => exact absurd long (Span.times?_ne_none _ (by decide))
      | connect limit =>
        have left : limit - 1 < max limit 1 := by omega
        rcases @retries_or_overflows settings functions limit _ left small with
          ⟨-, measurable⟩ | stuck
        · exact absurd long measurable
        · exact stuck
    · refine lost.step fun v sound here => ⟨none, ?_⟩
      obtain rfl := sound.settings
      exact here.overflows (.inl (by omega))
  · exact stuck

end Reaching

/-- What the arithmetic of a run keeps to. -/
structure Reckoning (settings : Settings) (entry : Entry) (beats : List Beat) (w : World) :
    Prop where
  failures : w.failures ≤ settings.maxAttempts.toNat + 1
  counted : w.control ≠ .overflowed → w.failures ≤ Text.word32Max
  attempts : ∀ limit failed, w.connecting? = some (limit, failed) →
    limit = entry.limit ∧ failed + 1 ≤ Text.word32Max
  /-- What is subtracted from the budget is at most the budget. -/
  lost : ∀ b ∈ beats, ∀ event, .logged event ∈ b.move.happened →
    event.message = "Lost broker stream, reconnecting" →
    ∃ attempt cause, event = Agent.lost settings.maxAttempts.toNat attempt cause ∧
      attempt ≤ settings.maxAttempts.toNat
  /-- What is subtracted from the limit of the start is less than the limit. -/
  retried : ∀ b ∈ beats, ∀ event, .logged event ∈ b.move.happened →
    event.message = "Could not connect to broker, retrying" →
    ∃ attempt pause cause, event = Agent.retried entry.limit attempt pause cause ∧
      attempt < entry.limit ∧ settings.backoff.times? attempt = some pause

theorem Career.reckoning {settings : Settings} {functions : List Function} {entry : Entry}
    {beats : List Beat} {w : World} (career : Career settings functions entry beats w)
    (small : entry.limit ≤ Text.word32Max) : Reckoning settings entry beats w := by
  have counting := career.counting small
  have word := settings.maxAttempts_le
  have same := career.sound.settings
  refine
    { failures := ?_
      counted := fun sane => ?_
      attempts := fun limit failed connecting => ?_
      lost := fun b member event logged text => ?_
      retried := fun b member event logged text => ?_ }
  · rw [← same]
    rcases counting.bounded with within | ⟨last, -⟩
    · omega
    · omega
  · rcases counting.bounded with within | ⟨-, ⟨-, countable⟩ | stuck⟩
    · rw [same] at within
      omega
    · exact countable
    · exact absurd stuck sane
  · obtain ⟨equal, few⟩ := counting.attempts limit failed connecting
    refine ⟨equal, ?_⟩
    simp only [Text.word32Max] at small ⊢
    omega
  · obtain ⟨before, after, rfl⟩ := List.append_of_mem member
    obtain ⟨first, step, -⟩ := Course.around career
    rw [← Career.sound first |>.settings]
    exact (deed_of_step step).lost_eq logged text
  · obtain ⟨before, after, rfl⟩ := List.append_of_mem member
    obtain ⟨first, step, -⟩ := Course.around career
    obtain ⟨limit, failed, pause, cause, shown, left, length, connecting⟩ :=
      (deed_of_step step).retried_eq logged text
    obtain ⟨rfl, -⟩ := (Career.counting first small).attempts limit failed connecting
    rw [← Career.sound first |>.settings]
    exact ⟨_, pause, cause, shown, left, length⟩

/-- The arithmetic of an agent keeps to this in every run. It fails in some run just if a failure
cannot be counted or a pause cannot be measured. -/
theorem reckons (settings : Settings) (functions : List Function) (limit : Option UInt32) :
    (∀ beats w, Career settings functions (.upTo limit) beats w →
      Reckoning settings (.upTo limit) beats w) ∧
    ((∃ beats w, Career settings functions (.upTo limit) beats w ∧ w.control = .overflowed) ↔
      ¬settings.IsReckonable (.upTo limit)) := by
  have small := Entry.limit_upTo limit
  refine ⟨fun beats w career => career.reckoning small, ?_, reaches_overflowed small⟩
  rintro ⟨beats, w, career, stuck⟩
  rw [← career.sound.settings]
  exact (career.counting small).overflowed stuck

/-- Settings with the longest pauses that can be asked for. -/
def patient : Settings :=
  { Settings.standard with backoff := .ofSeconds 18_446_744_073_709_551_615 }

/-- The stream ends, and the session that is asked for in its stead is refused. -/
def standstill : List (Option Act) :=
  [some (.answerOpen (.ok (.start "first" default))), none, none, none, some .run,
    some (.peer 0 (.endFeed .completed)), none, none,
    some (.answerOpen (.error (.connection "refused"))), none]

/-- Two attempts to connect fail, the second one after the longest pause. -/
def impasse : List (Option Act) :=
  [some (.answerOpen (.error (.connection "refused"))),
    some (.elapse 18_446_744_073_709_551_615_000), none,
    some (.answerOpen (.error (.connection "refused")))]

/-- A pause that cannot be measured stops an agent in the middle of a recovery, with its functions
still on offer, and in the middle of a start. -/
theorem arithmetic_fails :
    (∃ beats w, Career patient [default] .start beats w ∧ w.control = .overflowed ∧
      w.phase = .recovering 2 ∧ w.roster.map Function.state = [.online]) ∧
    ∃ beats w, Career patient [default] (.connect 3) beats w ∧ w.control = .overflowed := by
  have recovery : ((World.create patient [default] .start).world.replay standstill).map
      (fun run => (run.2.isOverflowed, run.2.phase, run.2.roster.map Function.state))
        = some (true, .recovering 2, [.online]) := by decide +kernel
  have start : ((World.create patient [default] (.connect 3 0)).world.replay impasse).map
      (fun run => run.2.isOverflowed) = some true := by decide +kernel
  obtain ⟨⟨beats, w⟩, replayed, ended⟩ := Option.map_eq_some_iff.1 recovery
  obtain ⟨overflowed, phase, states⟩ : w.isOverflowed = true ∧ w.phase = .recovering 2 ∧
      w.roster.map Function.state = [.online] := by simpa using ended
  obtain ⟨⟨others, v⟩, played, ended⟩ := Option.map_eq_some_iff.1 start
  exact ⟨⟨beats, w, .of_replay replayed, World.isOverflowed_iff.1 overflowed, phase, states⟩,
    others, v, .of_replay played, World.isOverflowed_iff.1 ended⟩

end Agent

end FunctionAgent
