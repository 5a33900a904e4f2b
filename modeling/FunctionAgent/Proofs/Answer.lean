import FunctionAgent.Proofs.Stage
/-!
# Every update gets its answer

Whatever the broker sends, however the executor behaves and however often the stream is lost, what
the agent says on a session is its transcript: the functions are announced, every update that was
taken gets the one answer that it needs and no other update gets any, and the functions may be
withdrawn. The answers are told by what the broker is sent (`Answering`): a token or a call comes
back as it was, and a call went well just if the executor started its function in time. Time is that
of the clock, whose ticks are milliseconds. A token is in use before it is acknowledged.
-/

set_option autoImplicit false

namespace FunctionAgent.Agent

/-- Whether a token that is about to be acknowledged is in use. -/
def World.Bearing (w : World) : Prop :=
  ∀ task token deadline, w.control = .writing task (.tokenTaken token) deadline →
    task = .answer ∧ w.current.bearer = some token.value

section Bearing

variable {w : World} {act : Option Act} {m : Move} {i : Nat}

theorem bearer_peerAct (s : Session) (act : Session.PeerAct) :
    (s.peerAct act).bearer = s.bearer := by
  cases act <;> rfl

theorem Deed.bearing (deed : Deed w act m) (standing : Standing w) (bearing : w.Bearing) :
    m.world.Bearing := by
  intro task token deadline stands
  cases deed with
  | @refresh u carriedToken here carried =>
    simp only [Control.writing.injEq, Message.tokenTaken.injEq] at stands
    obtain ⟨rfl, rfl, -⟩ := stands
    have known := standing.used (by simp [World.isServing, here])
    refine ⟨rfl, ?_⟩
    exact congrArg Session.bearer (World.session_onSession_self known _)
  | awaitSpace here =>
    simp only [Control.writing.injEq] at stands
    obtain ⟨rfl, rfl, -⟩ := stands
    exact bearing _ _ _ here
  | peer j act =>
    obtain ⟨answer, carries⟩ := bearing task token deadline stands
    have same := World.onSession_keeps Session.bearer (w := w) (i := j) (j := w.held)
      (bearer_peerAct · act)
    exact ⟨answer, same.trans carries⟩
  | shutDown | shutDownAgain | elapse => exact bearing task token deadline stands
  | unopened here setback | offerFailed here ends setback => cases setback <;> simp at stands
  | offer | withdraw => simp [Message.announce] at stands
  | refuse | timeOut | unstarted => simp [Message.refused] at stands
  | started => simp [Message.started] at stands
  | _ => simp at stands

/-- Whoever acknowledges a token uses it. -/
theorem Deed.bearer_eq {token : Token} {result : Except WriteFault Unit} (deed : Deed w act m)
    (bearing : w.Bearing) (written : .written i (.tokenTaken token) result ∈ m.happened) :
    (w.session i).bearer = some token.value := by
  cases deed with
  | answerWritten here | answerFailed here =>
    simp only [List.mem_singleton, Happening.written.injEq] at written
    obtain ⟨rfl, rfl, -⟩ := written
    exact (bearing _ _ _ here).2
  | offerWritten here | withdrawalWritten here =>
    simp only [List.mem_singleton, Happening.written.injEq] at written
    obtain ⟨-, rfl, -⟩ := written
    exact absurd (bearing _ _ _ here).1 (by simp)
  | @withdrawalFailed id todo final message deadline fault o here =>
    obtain rfl : message = .tokenTaken token := by simp_all
    exact absurd (bearing _ _ _ here).1 (by simp)
  | @offerFailed purpose j todo message deadline fault o control reports here ends setback =>
    obtain rfl : message = .tokenTaken token := by cases setback <;> simp_all
    exact absurd (bearing _ _ _ here).1 (by simp)
  | unopened here setback => cases setback <;> simp at written
  | _ => simp [Move.publication] at written

end Bearing

section Busy

variable {w : World}

theorem frees_of_answering {message : Message} {deadline : Option Nat}
    (stands : w.control = .writing .answer message deadline) :
    w.Comes fun v => v.isBusy = false := by
  refine .write stands fun v outcome => .here ?_
  obtain ⟨written, after⟩ := outcome
  cases written <;> rfl

theorem frees_of_starting {call : Call} {deadline : Nat}
    (stands : w.control = .starting call deadline) : w.Comes fun v => v.isBusy = false := by
  have answers {v : World} (stands : v.control = .starting call deadline)
      (past : deadline ≤ v.clock) : v.Comes fun v => v.isBusy = false := by
    have step : v.step none
        = some (v.started call (.error (.timedOut v.settings.dispatchTimeout))) := by
      simp [World.step, World.proceed, stands, past]
    exact .after step (.inl rfl) (frees_of_answering rfl)
  by_cases past : deadline ≤ w.clock
  · exact answers stands past
  · have rests : w.proceed = none := by simp [World.proceed, stands, past]
    have wakes : w.wake? = some deadline := by rw [World.wake?, stands]
    exact .wait rests wakes (by omega) (answers stands (Nat.le_refl _))

/-- An agent that is busy with an update needs nobody for coming to the end of the exchange. -/
theorem frees_of_busy (busy : w.isBusy = true) : w.Comes fun v => v.isBusy = false := by
  unfold World.isBusy at busy
  split at busy
  · rename_i u stands
    have step : w.step none = some (w.handle u) := by simp [World.step, World.proceed, stands]
    generalize w.handle u = m at step
    have deed := deed_of_step step
    refine .after step (.inl rfl) ?_
    cases deed with
    | heed | ignore => exact .here rfl
    | refresh | refuse => exact frees_of_answering rfl
    | launch => exact frees_of_starting rfl
    | _ => simp_all
  · rename_i stands
    exact frees_of_starting stands
  · rename_i stands
    exact frees_of_answering stands
  · contradiction

end Busy

variable {settings : Settings} {functions : List Function} {entry : Entry} {beats : List Beat}
  {w : World}

theorem Career.bearing (career : Career settings functions entry beats w) : w.Bearing := by
  refine (career.keeps (P := fun w => Sound settings functions w ∧ w.Bearing)
    ⟨sound_create settings functions entry, ?_⟩ fun v act m known deed => ?_).2
  · intro task token deadline stands
    simp [World.create] at stands
  · exact ⟨known.1.deed deed, deed.bearing known.1.standing known.2⟩

/-- What the agent says on a session, and to the executor for it: the functions, an exchange for
each update that it took in the order in which it took them, and the withdrawal of the functions if
it comes to that. While the agent is busy, the last exchange need not be complete. -/
structure Answering (roster : Roster) (limit : Span) (busy : Bool) (signs : List Sign) : Prop where
  transcript : Transcript roster limit busy signs
  /-- What follows an update that was taken is its answer. -/
  answered : ∀ before u after, signs = before ++ .took u :: after →
    ∃ rest, Answered roster limit u rest ∧ (rest <+: after ∨ busy = true ∧ after <+: rest)

theorem Transcript.answering {roster : Roster} {limit : Span} {busy : Bool} {signs : List Sign}
    (transcript : Transcript roster limit busy signs) : Answering roster limit busy signs where
  transcript := transcript
  answered before u after taken := by
    obtain ⟨rest, exchange, follows⟩ := transcript.exchange taken
    exact ⟨rest, exchange.answered, follows⟩

/-- Every update on a session gets its answer. The agent comes to the end of every exchange, and a
token is in use when it is acknowledged. -/
theorem Career.answers (career : Career settings functions entry beats w) (i : Nat) :
    Answering (.onOffer functions) settings.dispatchTimeout (w.held == i && w.isBusy)
        (signsOn i beats) ∧
      (w.Comes fun v => v.isBusy = false) ∧
      ∀ b ∈ beats, ∀ token result,
        Happening.written i (.tokenTaken token) result ∈ b.move.happened →
          (b.before.session i).bearer = some token.value := by
  have frees : w.Comes fun v => v.isBusy = false := by
    cases busy : w.isBusy with
    | true => exact frees_of_busy busy
    | false => exact .here busy
  refine ⟨(career.stage i).transcript.answering, frees, fun b member token result written => ?_⟩
  obtain ⟨before, after, rfl⟩ := List.append_of_mem member
  obtain ⟨earlier, step, -⟩ := career.around
  exact (deed_of_step step).bearer_eq (Career.bearing earlier) written

/-- A run in which a token comes in an update of an unknown kind, the executor does not answer a
call in time, a call comes in what is no request, and a shutdown is asked for. -/
def lateCall : List (Option Act) :=
  let call : Call := ⟨"00000000000000000000000000000000", [1, 2]⟩
  [some (.answerOpen (.ok (.start "first" default))), none, none, none, some .run,
    some (.peer 0 (.deliver ⟨7, 9, "", some (.token ⟨"second"⟩)⟩)), none, none, none,
    some (.peer 0 (.deliver ⟨1, 0, "", some (.call call)⟩)),
    some (.peer 0 (.deliver ⟨2, 1, "", some (.call call)⟩)), none, none, some (.elapse 5000),
    none, none, none, none, some .requestShutdown, none, none, none, none]

theorem answers_late_call :
    ∃ beats w, Career .standard [default] .start beats w ∧
      (signsOn 0 beats).filterMap Sign.message? =
        [.announce default .online, .tokenTaken ⟨"second"⟩,
          .refused ⟨"00000000000000000000000000000000", [1, 2]⟩
            "function 00000000000000000000000000000000 could not be started: executor did not answer within 5s",
          .announce default .offline] ∧
      Answering (.onOffer [default]) (.ofSeconds 5) (w.held == 0 && w.isBusy)
        (signsOn 0 beats) := by
  have played : ((World.create .standard [default] .start).world.replay lateCall).map
      (fun run => (signsOn 0 run.1).filterMap Sign.message?) = some
        [.announce default .online, .tokenTaken ⟨"second"⟩,
          .refused ⟨"00000000000000000000000000000000", [1, 2]⟩
            "function 00000000000000000000000000000000 could not be started: executor did not answer within 5s",
          .announce default .offline] := by decide +kernel
  obtain ⟨⟨beats, w⟩, replayed, said⟩ := Option.map_eq_some_iff.1 played
  have career : Career .standard [default] .start beats w := .of_replay replayed
  exact ⟨beats, w, career, said, (career.answers 0).1⟩

/-- A run that comes to a call of a function on offer, goes on with some steps, and ends. -/
def callThen (steps : List (Option Act)) : List (Option Act) :=
  [some (.answerOpen (.ok (.start "first" default))), none, none, none, some .run,
    some (.peer 0 (.deliver
      ⟨1, 0, "", some (.call ⟨"00000000000000000000000000000000", [1, 2]⟩)⟩)), none, none] ++ steps

/-- Settings with a limit of one and a half milliseconds. -/
def hasty : Settings := { Settings.standard with dispatchTimeout := ⟨1_500_000, by decide⟩ }

/-- What is seen of a session from which one call was taken that went well: the update, when its
function was asked for and with what, when the executor had started it, and the answer. -/
def soleSuccess? : List Sign → Option (Update × Nat × List UInt8 × Nat × Message)
  | [.tried _ _, .took u, .asked begun _ info, .heard ended (some (.ok ())), .tried message _] =>
    some (u, begun, info, ended, message)
  | _ => none

theorem exists_of_soleSuccess? {signs : List Sign} {u : Update} {begun ended : Nat}
    {info : List UInt8} {message : Message}
    (sole : soleSuccess? signs = some (u, begun, info, ended, message)) : ∃ first f result,
      signs = [first, .took u, .asked begun f info, .heard ended (some (.ok ())),
        .tried message result] := by
  unfold soleSuccess? at sole
  split at sole
  · simp only [Option.some.injEq, Prod.mk.injEq] at sole
    obtain ⟨rfl, rfl, rfl, rfl, rfl⟩ := sole
    exact ⟨_, _, _, rfl⟩
  · contradiction

/-- The executor answers after the limit, but not after the end of the millisecond in which the
limit is. -/
def barelyLate : List (Option Act) :=
  callThen [some (.elapse 2), some (.answerStart (.ok ())), none]

/-- It is not so that a call goes well only if the executor starts its function within the limit. -/
theorem succeeds_after_limit :
    ¬ ∀ (settings : Settings) (functions : List Function) (entry : Entry) (beats : List Beat)
        (w : World) (i : Nat) (before after : List Sign) (u : Update) (call : Call) (f : Function)
        (begun ended : Nat) (message : Message) (result : Except WriteFault Unit),
      Career settings functions entry beats w → u.payload = some (.call call) →
        signsOn i beats = before ++ .took u :: .asked begun f call.sessionInfo ::
          .heard ended (some (.ok ())) :: .tried message result :: after →
        message.toUpdate.response = Verdict.success.number →
          (ended - begun) * 1_000_000 ≤ settings.dispatchTimeout.nanos := by
  intro inTime
  let call : Call := ⟨"00000000000000000000000000000000", [1, 2]⟩
  have played : ((World.create hasty [default] .start).world.replay barelyLate).bind
      (fun run => soleSuccess? (signsOn 0 run.1)) =
        some (⟨1, 0, "", some (.call call)⟩, 0, [1, 2], 2, .started call) := by
    decide +kernel
  obtain ⟨⟨beats, w⟩, replayed, sole⟩ := Option.bind_eq_some_iff.1 played
  obtain ⟨first, f, result, signs⟩ := exists_of_soleSuccess? sole
  have early := inTime hasty [default] .start beats w 0 [first] [] _ call f 0 2 _ result
    (.of_replay replayed) rfl signs rfl
  simp [hasty] at early

end FunctionAgent.Agent
