import FunctionAgent.Proofs.Phase
/-!
# Exchanges on a session

On each session the agent announces its functions, then takes one update after the other and gives
each the answer that it needs, and may withdraw the functions in the end. `Sign`s are what can be
seen of this, `Exchange` is what one update leads to, and `Transcript` is the whole of a session.
That every session of every agent keeps to it is shown by following the stages of a session
(`Stage`) from deed to deed.
-/

set_option autoImplicit false

namespace FunctionAgent

/-- Whether an update is one that the broker waits for an answer to. -/
def Update.needsAnswer (u : Update) : Bool :=
  match u.payload with
  | some (.token _) => true
  | some (.call _) => UpdateKind.ofNumber u.kind == .request
  | some (.registration _) | some (.reconnect _) | none => false

theorem Update.needsAnswer_eq_false {u : Update}
    (noToken : ∀ token, u.payload ≠ some (.token token))
    (noRequest : ∀ call, u.payload = some (.call call) → UpdateKind.ofNumber u.kind ≠ .request) :
    u.needsAnswer = false := by
  unfold needsAnswer
  split
  · rename_i token carried
    exact absurd carried (noToken token)
  · rename_i call carried
    simpa using noRequest call carried
  · rfl
  · rfl
  · rfl

/-- The announcements of the functions of a roster in a state. -/
def Roster.announcements (roster : Roster) (state : Lifecycle) : List Message :=
  roster.map (.announce · state)

@[simp] theorem Roster.announcements_nil (state : Lifecycle) :
    Roster.announcements [] state = [] := rfl

@[simp] theorem Roster.announcements_cons (f : Function) (roster : Roster) (state : Lifecycle) :
    Roster.announcements (f :: roster) state = .announce f state :: roster.announcements state :=
  rfl

theorem Roster.Same.announcements_eq {r s : Roster} (same : Same r s) (state : Lifecycle) :
    r.announcements state = s.announcements state := by
  have := congrArg (Roster.announcements · state) (same.inState .online)
  simpa [Roster.announcements, Roster.inState, Function.comp_def, Message.announce,
    Function.registrationAs] using this

namespace Agent

/-- What can be seen of the work on a session. Times are milliseconds of the clock. -/
inductive Sign where
  | took (update : Update)
  | refreshed (token : String)
  /-- The executor was asked to start a function at some time. -/
  | asked (time : Nat) (function : Function) (sessionInfo : List UInt8)
  /-- The executor answered at some time, or its time was over then. -/
  | heard (time : Nat) (answer : Option (Except StartFailure Unit))
  | tried (message : Message) (result : Except WriteFault Unit)
  /-- The agent set out to withdraw its functions. -/
  | withdrawing

namespace Sign

/-- The message that was tried. -/
@[simp] def message? : Sign → Option Message
  | .tried message _ => some message
  | _ => none

/-- The message that was tried and accepted. -/
@[simp] def accepted? : Sign → Option Message
  | .tried message (.ok ()) => some message
  | _ => none

/-- The update that was taken. -/
@[simp] def taken? : Sign → Option Update
  | .took u => some u
  | _ => none

/-- A message was tried and accepted. -/
abbrev accepted (message : Message) : Sign := .tried message (.ok ())

end Sign

/-- What a happening shows of the work on a session. -/
def World.shown (w : World) (i : Nat) : Happening → List Sign
  | .taken j u => if j = i then [.took u] else []
  | .refreshed j token => if j = i then [.refreshed token] else []
  | .starting f info => if w.held = i then [.asked w.clock f info] else []
  | .written j message result => if j = i then [.tried message result] else []
  | .published .shuttingDown => if w.held = i then [.withdrawing] else []
  | _ => []

namespace Beat

/-- What the executor let the agent know in a step. -/
def heard (b : Beat) : List Sign :=
  match b.act with
  | none =>
    match b.before.control with
    | .starting _ _ => [.heard b.before.clock none]
    | _ => []
  | some (.answerStart answer) => [.heard b.before.clock (some answer)]
  | some _ => []

/-- What a step shows of the work on a session. -/
def signs (b : Beat) (i : Nat) : List Sign :=
  (if b.before.held = i then b.heard else []) ++ b.move.happened.flatMap (b.before.shown i)

end Beat

/-- What the steps show of the work on a session. -/
def signsOn (i : Nat) (beats : List Beat) : List Sign := beats.flatMap (·.signs i)

/-- The messages that a session accepted. -/
def acceptedOn (i : Nat) (beats : List Beat) : List Message :=
  (signsOn i beats).filterMap Sign.accepted?

/-- The updates that were taken from a session. -/
def takenOn (i : Nat) (beats : List Beat) : List Update :=
  (signsOn i beats).filterMap Sign.taken?

theorem signsOn_append (i : Nat) (before after : List Beat) :
    signsOn i (before ++ after) = signsOn i before ++ signsOn i after :=
  List.flatMap_append

theorem signsOn_singleton (i : Nat) (b : Beat) : signsOn i [b] = b.signs i := by
  simp [signsOn]

theorem signsOn_snoc (i : Nat) (beats : List Beat) (b : Beat) :
    signsOn i (beats ++ [b]) = signsOn i beats ++ b.signs i := by
  rw [signsOn_append, signsOn_singleton]

theorem acceptedOn_append (i : Nat) (before after : List Beat) :
    acceptedOn i (before ++ after) = acceptedOn i before ++ acceptedOn i after := by
  simp [acceptedOn, signsOn_append]

/-- What is asked by the updates that were taken. -/
def asks (signs : List Sign) : List (Option Payload) :=
  ((signs.filterMap Sign.taken?).filter Update.needsAnswer).map Update.payload

/-- What is echoed in the messages that were tried. -/
def echoes (signs : List Sign) : List (Option Payload) :=
  (signs.filterMap Sign.message?).map (·.toUpdate.payload)

theorem asks_append (before after : List Sign) :
    asks (before ++ after) = asks before ++ asks after := by
  simp [asks]

theorem echoes_append (before after : List Sign) :
    echoes (before ++ after) = echoes before ++ echoes after := by
  simp [echoes]

/-- What an update leads to, from its being taken to the answer that it needs. -/
inductive Exchange (roster : Roster) (limit : Span) : List Sign → Prop where
  | token {u : Update} {token : Token} (carried : u.payload = some (.token token))
      (result : Except WriteFault Unit) :
      Exchange roster limit
        [.took u, .refreshed token.value, .tried (.tokenTaken token) result]
  | unknown {u : Update} {call : Call} (carried : u.payload = some (.call call))
      (request : UpdateKind.ofNumber u.kind = .request)
      (unknown : roster.resolve? call.id = none) (result : Except WriteFault Unit) :
      Exchange roster limit
        [.took u, .tried (.refused call (CallFailure.unknownFunction call.id).message) result]
  | started {u : Update} {call : Call} {f : Function} {begun ended : Nat}
      (carried : u.payload = some (.call call))
      (request : UpdateKind.ofNumber u.kind = .request)
      (known : roster.resolve? call.id = some f)
      (order : begun ≤ ended) (inTime : ended ≤ begun + limit.ticks)
      (result : Except WriteFault Unit) :
      Exchange roster limit
        [.took u, .asked begun f call.sessionInfo, .heard ended (some (.ok ())),
          .tried (.started call) result]
  | unstarted {u : Update} {call : Call} {f : Function} {begun ended : Nat}
      (carried : u.payload = some (.call call))
      (request : UpdateKind.ofNumber u.kind = .request)
      (known : roster.resolve? call.id = some f)
      (order : begun ≤ ended) (inTime : ended ≤ begun + limit.ticks)
      (cause : StartFailure) (result : Except WriteFault Unit) :
      Exchange roster limit
        [.took u, .asked begun f call.sessionInfo, .heard ended (some (.error cause)),
          .tried (.refused call (CallFailure.notStarted call.id cause).message) result]
  | timedOut {u : Update} {call : Call} {f : Function} (begun : Nat)
      (carried : u.payload = some (.call call))
      (request : UpdateKind.ofNumber u.kind = .request)
      (known : roster.resolve? call.id = some f) (result : Except WriteFault Unit) :
      Exchange roster limit
        [.took u, .asked begun f call.sessionInfo, .heard (begun + limit.ticks) none,
          .tried (.refused call (CallFailure.notStarted call.id (.timedOut limit)).message) result]
  | silent {u : Update} (needless : u.needsAnswer = false) : Exchange roster limit [.took u]

/-- The executor is asked once to start a function, and is waited for until the limit at most. -/
def Consulted (limit : Span) (call : Call) (f : Function) (signs : List Sign) : Prop :=
  ∃ begun ended answer, signs = [.asked begun f call.sessionInfo, .heard ended answer] ∧
    begun ≤ ended ∧ ended ≤ begun + limit.ticks ∧ (answer = none → ended = begun + limit.ticks)

/-- What the broker is sent for a call, and what is asked of the executor before that. -/
structure Responds (roster : Roster) (limit : Span) (call : Call) (before : List Sign)
    (envelope : Update) : Prop where
  kind : envelope.kind = UpdateKind.response.number
  /-- The call is sent back as it came. -/
  echo : envelope.payload = some (.call call)
  verdict : envelope.response = Verdict.success.number ∨ envelope.response = Verdict.failed.number
  /-- The call went well just if it names a function and the executor started it in time. -/
  success : envelope.response = Verdict.success.number ↔
    ∃ f begun ended, roster.resolve? call.id = some f ∧ ended ≤ begun + limit.ticks ∧
      before = [.asked begun f call.sessionInfo, .heard ended (some (.ok ()))]
  asked : ∀ f, roster.resolve? call.id = some f → Consulted limit call f before
  unasked : roster.resolve? call.id = none → before = []

/-- What follows an update that was taken, and what the broker is sent for it. -/
structure Answered (roster : Roster) (limit : Span) (u : Update) (signs : List Sign) : Prop where
  /-- A token is put to use and then sent back. -/
  token : ∀ token, u.payload = some (.token token) → ∃ message result,
    signs = [.refreshed token.value, .tried message result] ∧
      message.toUpdate =
        { kind := UpdateKind.response.number
          response := Verdict.success.number
          description := "token updated"
          payload := some (.token token) }
  call : ∀ call, u.payload = some (.call call) → UpdateKind.ofNumber u.kind = .request →
    ∃ before message result, signs = before ++ [.tried message result] ∧
      Responds roster limit call before message.toUpdate
  /-- For nothing else the broker is sent anything. -/
  silent : (∀ token, u.payload ≠ some (.token token)) →
    (∀ call, u.payload = some (.call call) → UpdateKind.ofNumber u.kind ≠ .request) → signs = []

theorem Consulted.of_known {roster : Roster} {limit : Span} {call : Call} {f : Function}
    {signs : List Sign} (known : roster.resolve? call.id = some f)
    (consulted : Consulted limit call f signs) :
    ∀ g, roster.resolve? call.id = some g → Consulted limit call g signs := by
  intro g other
  obtain rfl : f = g := Option.some.inj (known.symm.trans other)
  exact consulted

section Exchange

variable {roster : Roster} {limit : Span} {u : Update} {rest : List Sign}

/-- An exchange begins with its update and has no other. -/
theorem Exchange.begins {signs : List Sign} (exchange : Exchange roster limit signs) :
    ∃ u rest, signs = .took u :: rest ∧ rest.filterMap Sign.taken? = [] := by
  cases exchange <;> exact ⟨_, _, rfl, rfl⟩

/-- An update that needs an answer is given one that echoes it, and no other update is. -/
theorem Exchange.echoes_eq {signs : List Sign} (exchange : Exchange roster limit signs) :
    echoes signs = asks signs := by
  cases exchange with
  | silent needless => simp [echoes, asks, List.filterMap_cons, needless]
  | _ =>
    simp [echoes, asks, List.filterMap_cons, Update.needsAnswer, Message.toUpdate, Message.started,
      Message.refused, *]

theorem Exchange.responses {signs : List Sign} (exchange : Exchange roster limit signs) :
    ∀ answer ∈ signs.filterMap Sign.message?,
      answer.toUpdate.kind = UpdateKind.response.number := by
  cases exchange <;> simp [List.filterMap_cons, Message.toUpdate, Message.started, Message.refused]

/-- A token is put to use and then echoed. -/
theorem Exchange.of_token {token : Token} (exchange : Exchange roster limit (.took u :: rest))
    (carried : u.payload = some (.token token)) :
    ∃ message result, rest = [.refreshed token.value, .tried message result] ∧
      message.toUpdate =
        { kind := UpdateKind.response.number
          response := Verdict.success.number
          description := "token updated"
          payload := some (.token token) } := by
  cases exchange with
  | silent needless => simp [Update.needsAnswer, carried] at needless
  | token carries result =>
    obtain rfl : token = _ := by simpa [carried] using carries
    exact ⟨_, result, rfl, rfl⟩
  | _ => simp_all

/-- A call is echoed in the response, with success just if the executor started the function that
it names in time. -/
theorem Exchange.of_call {call : Call} (exchange : Exchange roster limit (.took u :: rest))
    (carried : u.payload = some (.call call))
    (request : UpdateKind.ofNumber u.kind = .request) :
    ∃ before message result, rest = before ++ [.tried message result] ∧
      Responds roster limit call before message.toUpdate := by
  have differ : Verdict.failed.number ≠ Verdict.success.number := by decide
  cases exchange with
  | silent needless => simp [Update.needsAnswer, carried, request] at needless
  | token carries => simp [carried] at carries
  | @unknown _ other carries _ unknown result =>
    obtain rfl : call = other := by simpa [carried] using carries
    refine ⟨[], _, result, rfl, rfl, rfl, .inr rfl, iff_of_false differ ?_, ?_, fun _ => rfl⟩
    · rintro ⟨f, begun, ended, known, -⟩
      simp [unknown] at known
    · intro f known
      simp [unknown] at known
  | @started _ other f begun ended carries _ known order inTime result =>
    obtain rfl : call = other := by simpa [carried] using carries
    refine ⟨[_, _], _, result, rfl, rfl, rfl, .inl rfl, ?_, ?_, ?_⟩
    · exact iff_of_true rfl ⟨f, begun, ended, known, inTime, rfl⟩
    · exact Consulted.of_known known ⟨begun, ended, _, rfl, order, inTime, nofun⟩
    · simp [known]
  | @unstarted _ other f begun ended carries _ known order inTime cause result =>
    obtain rfl : call = other := by simpa [carried] using carries
    refine ⟨[_, _], _, result, rfl, rfl, rfl, .inr rfl, iff_of_false differ ?_, ?_, ?_⟩
    · rintro ⟨f, begun, ended, -, -, before⟩
      simp at before
    · exact Consulted.of_known known ⟨begun, ended, _, rfl, order, inTime, nofun⟩
    · simp [known]
  | @timedOut _ other f begun carries _ known result =>
    obtain rfl : call = other := by simpa [carried] using carries
    refine ⟨[_, _], _, result, rfl, rfl, rfl, .inr rfl, iff_of_false differ ?_, ?_, ?_⟩
    · rintro ⟨f, begun, ended, -, -, before⟩
      simp at before
    · have order := Nat.le_add_right begun limit.ticks
      exact Consulted.of_known known ⟨begun, _, none, rfl, order, Nat.le_refl _, fun _ => rfl⟩
    · simp [known]

theorem Exchange.answered (exchange : Exchange roster limit (.took u :: rest)) :
    Answered roster limit u rest where
  token _ carried := exchange.of_token carried
  call _ carried request := exchange.of_call carried request
  silent noToken noRequest := by
    have needless : u.needsAnswer = false := Update.needsAnswer_eq_false noToken noRequest
    cases exchange with
    | silent => rfl
    | _ => simp_all

end Exchange

/-- What can be seen of a session. While the agent is busy with an update that it took from the
session, the last exchange need not have come to its end. -/
inductive Transcript (roster : Roster) (limit : Span) (busy : Bool) : List Sign → Prop where
  | offering {done todo : List Message} (parts : done ++ todo = roster.announcements .online) :
      Transcript roster limit busy (done.map .accepted)
  | abandoned {done todo : List Message} {message : Message}
      (parts : done ++ message :: todo = roster.announcements .online) (fault : WriteFault) :
      Transcript roster limit busy (done.map .accepted ++ [.tried message (.error fault)])
  | serving {exchanges : List (List Sign)} {unfinished : List Sign} (rest : List Sign)
      (whole : ∀ exchange ∈ exchanges, Exchange roster limit exchange)
      (pending : unfinished ≠ [] → busy = true ∧ Exchange roster limit (unfinished ++ rest)) :
      Transcript roster limit busy
        ((roster.announcements .online).map .accepted ++ exchanges.flatten ++ unfinished)
  | withdrawing {exchanges : List (List Sign)} {withdrawals : List Sign} {done todo : List Message}
      (whole : ∀ exchange ∈ exchanges, Exchange roster limit exchange)
      (tried : withdrawals.map Sign.message? = done.map some)
      (parts : done ++ todo = roster.announcements .offline) :
      Transcript roster limit busy
        ((roster.announcements .online).map .accepted ++ exchanges.flatten
          ++ .withdrawing :: withdrawals)

section Transcript

variable {roster : Roster} {limit : Span} {busy : Bool} {u : Update}
  {signs before after tail : List Sign} {exchanges : List (List Sign)}

/-- What is sought behind a part in which it does not occur. -/
theorem exists_of_append_eq {α : Type} {part rest before after : List α} {a : α}
    (absent : a ∉ part) (equal : part ++ rest = before ++ a :: after) :
    ∃ middle, before = part ++ middle ∧ rest = middle ++ a :: after := by
  rcases List.append_eq_append_iff.1 equal with ⟨middle, rfl, same⟩ | ⟨middle, rfl, same⟩
  · exact ⟨middle, rfl, same⟩
  · cases middle with
    | nil => exact ⟨[], by simp, by simpa using same.symm⟩
    | cons b middle =>
      obtain ⟨rfl, -⟩ := List.cons.inj same
      exact absurd (by simp) absent

theorem not_mem_of_taken (untaken : signs.filterMap Sign.taken? = []) : .took u ∉ signs := by
  intro member
  have found : u ∈ signs.filterMap Sign.taken? := List.mem_filterMap.2 ⟨_, member, rfl⟩
  simp [untaken] at found

/-- Among signs that are nothing but tries there is no update. -/
theorem not_mem_of_tried {done : List Message} (tried : signs.map Sign.message? = done.map some) :
    .took u ∉ signs := by
  intro member
  have listed : none ∈ done.map some := tried ▸ List.mem_map.2 ⟨_, member, rfl⟩
  simp at listed

theorem not_mem_accepted (messages : List Message) : .took u ∉ messages.map Sign.accepted := by
  simp

/-- What follows an update among whole exchanges is the rest of its exchange, unless the update
comes behind them. -/
theorem exchange_of_flatten (whole : ∀ exchange ∈ exchanges, Exchange roster limit exchange)
    (equal : exchanges.flatten ++ tail = before ++ .took u :: after) :
    (∃ rest, Exchange roster limit (.took u :: rest) ∧ rest <+: after) ∨
      ∃ middle, tail = middle ++ .took u :: after := by
  induction exchanges generalizing before with
  | nil => exact .inr ⟨before, by simpa using equal⟩
  | cons first exchanges ih =>
    have exchange := whole first List.mem_cons_self
    obtain ⟨v, rest, rfl, untaken⟩ := exchange.begins
    rw [List.flatten_cons, List.append_assoc, List.cons_append] at equal
    cases before with
    | nil =>
      obtain ⟨same, rfl⟩ := List.cons.inj equal
      obtain rfl := Sign.took.inj same
      exact .inl ⟨rest, exchange, List.prefix_append ..⟩
    | cons sign before =>
      obtain ⟨-, others⟩ := List.cons.inj equal
      obtain ⟨middle, rfl, later⟩ := exists_of_append_eq (not_mem_of_taken untaken) others
      exact ih (fun exchange member => whole exchange (List.mem_cons_of_mem _ member)) later

/-- What follows an update that was taken is the rest of its exchange, or the beginning of it while
the agent is busy with the update. -/
theorem Transcript.exchange (transcript : Transcript roster limit busy signs)
    (taken : signs = before ++ .took u :: after) :
    ∃ rest, Exchange roster limit (.took u :: rest) ∧
      (rest <+: after ∨ busy = true ∧ after <+: rest) := by
  have member : .took u ∈ signs := by simp [taken]
  cases transcript with
  | offering parts => simp at member
  | abandoned parts fault => simp at member
  | @serving exchanges unfinished rest whole pending =>
    rw [List.append_assoc] at taken
    obtain ⟨middle, rfl, later⟩ := exists_of_append_eq (not_mem_accepted _) taken
    rcases exchange_of_flatten whole later with ⟨rest, exchange, part⟩ | ⟨middle, last⟩
    · exact ⟨rest, exchange, .inl part⟩
    · obtain ⟨busy, exchange⟩ := pending (by simp [last])
      obtain ⟨v, tail, shape, untaken⟩ := exchange.begins
      -- The update is the one with which the unfinished exchange begins.
      rw [last, List.append_assoc, List.cons_append] at shape
      cases middle with
      | nil =>
        rw [last] at exchange
        exact ⟨after ++ rest, exchange, .inr ⟨busy, List.prefix_append ..⟩⟩
      | cons sign middle =>
        obtain ⟨-, same⟩ := List.cons.inj shape
        exact absurd (by simp [← same]) (not_mem_of_taken (u := u) untaken)
  | @withdrawing exchanges withdrawals done todo whole tried parts =>
    rw [List.append_assoc] at taken
    obtain ⟨middle, rfl, later⟩ := exists_of_append_eq (not_mem_accepted _) taken
    rcases exchange_of_flatten whole later with ⟨rest, exchange, part⟩ | ⟨middle, last⟩
    · exact ⟨rest, exchange, .inl part⟩
    · have among : Sign.took u ∈ withdrawals := by
        have member : .took u ∈ Sign.withdrawing :: withdrawals := by simp [last]
        simpa using member
      exact absurd among (not_mem_of_tried tried)

end Transcript

section Shown

variable {w : World} {act : Option Act} {m : Move} {i : Nat} {settings : Settings}

theorem shown_publication {old new : Phase} :
    (Move.publication old new).flatMap (w.shown i) =
      if old ≠ new ∧ new = .shuttingDown ∧ w.held = i then [.withdrawing] else [] := by
  unfold Move.publication
  by_cases same : old = new
  · simp [same]
  · by_cases here : w.held = i
    · cases new <;> simp [same, here, World.shown]
    · cases new <;> simp [same, here, World.shown]

theorem shown_setback {clock : Nat} {purpose : Purpose} {failure : SessionFailure}
    {control : Control} {reports : List Happening}
    (setback : Setback settings clock purpose failure control reports) :
    reports.flatMap (w.shown i) = [] := by
  cases setback <;> simp [World.shown]

/-- Whether the agent does not turn to a session: no functions are offered on it and it is not in
use. -/
structure World.Shuns (w : World) (i : Nat) : Prop where
  unoffered : w.offered? ≠ some i
  unused : w.isServing = true → w.held ≠ i

/-- Of a session to which the agent does not turn nothing is seen. -/
theorem Deed.signs_eq_nil (deed : Deed w act m) (shuns : w.Shuns i) :
    (⟨w, act, m⟩ : Beat).signs i = [] := by
  obtain ⟨unoffered, unused⟩ := shuns
  cases deed with
  | peer | elapse | shutDown | shutDownAgain => simp [Beat.signs, Beat.heard, World.shown]
  | offerFailed here ends setback =>
    simp_all [Beat.signs, Beat.heard, World.shown, World.offered?, shown_setback setback,
      -List.flatMap_eq_nil_iff]
  | unopened here setback =>
    simp_all [Beat.signs, Beat.heard, shown_setback setback, -List.flatMap_eq_nil_iff]
  | _ =>
    simp_all [Beat.signs, Beat.heard, World.shown, shown_publication, World.offered?,
      World.isServing, -List.flatMap_eq_nil_iff]

/-- The functions are offered on the session on which they were, or on one that is new. -/
theorem Deed.offered?_cases (deed : Deed w act m) (offered : m.world.offered? = some i) :
    w.offered? = some i ∨ w.sessions.length = i := by
  cases deed with
  | offer here | offerWritten here => exact .inl (by simpa [World.offered?, here] using offered)
  | @awaitSpace task message here =>
    cases task <;> simp_all [World.offered?]
  | peer | elapse | shutDown | shutDownAgain => exact .inl offered
  | opened session here => exact .inr (Option.some.inj offered)
  | unopened here setback | offerFailed here ends setback =>
    cases setback <;> simp [World.offered?] at offered
  | _ => simp [World.offered?] at offered

/-- The agent uses the session that it used, or the one on which the functions were offered. -/
theorem Deed.serving_cases (deed : Deed w act m) (serving : m.world.isServing = true)
    (used : m.world.held = i) : w.offered? = some i ∨ w.isServing = true ∧ w.held = i := by
  cases deed with
  | installFirst here | installNext here => exact .inl (by simpa [World.offered?, here] using used)
  | @awaitSpace task message here =>
    cases task <;> simp_all [World.isServing]
  | peer | elapse | shutDown | shutDownAgain => exact .inr ⟨serving, used⟩
  | unopened here setback | offerFailed here ends setback =>
    cases setback <;> simp_all [World.isServing, Purpose.isFirst]
  | _ => simp_all [World.isServing, Purpose.isFirst]

/-- The agent never turns to a session again that it has left. -/
theorem Deed.shuns (deed : Deed w act m) (known : i < w.sessions.length) (shuns : w.Shuns i) :
    m.world.Shuns i where
  unoffered offered := by
    rcases deed.offered?_cases offered with offered | fresh
    · exact shuns.unoffered offered
    · omega
  unused serving used := by
    rcases deed.serving_cases serving used with offered | ⟨serving, used⟩
    · exact shuns.unoffered offered
    · exact shuns.unused serving used

theorem shuns_of_later (standing : Standing w) (later : w.sessions.length ≤ i) : w.Shuns i where
  unoffered offered := by
    have := standing.fresh i offered
    omega
  unused serving used := by
    have := standing.used serving
    omega

end Shown

end Agent

end FunctionAgent
