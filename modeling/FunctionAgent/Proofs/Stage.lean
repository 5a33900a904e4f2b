import FunctionAgent.Proofs.Exchange
/-!
# Stages of a session

A session is opened, the functions are offered on it, it is used, and in the end it is given up or
the functions are withdrawn on it. A stage says how far this has come and what has been seen of the
session so far. Every deed leads from stage to stage.
-/

set_option autoImplicit false

namespace FunctionAgent.Agent

namespace World

/-- Whether the agent is busy with an update that it took. -/
def isBusy (w : World) : Bool :=
  match w.control with
  | .handling _ | .starting _ _ | .writing .answer _ _ => true
  | _ => false

/-- The announcements that are still to be made on the session at hand. -/
def remaining (w : World) : List Message :=
  match w.control with
  | .offering _ _ todo => Roster.announcements todo .online
  | .writing (.offer _ _ todo) message _ => message :: Roster.announcements todo .online
  | .draining todo _ => Roster.announcements todo .offline
  | .writing (.withdraw _ todo _) message _ => message :: Roster.announcements todo .offline
  | _ => []

/-- What an agent that is busy with an update has shown of it. -/
def Unfinished (w : World) (roster : Roster) (limit : Span) (part : List Sign) : Prop :=
  match w.control with
  | .handling u => part = [.took u]
  | .starting call deadline =>
    ∃ u begun f, u.payload = some (.call call) ∧ UpdateKind.ofNumber u.kind = .request ∧
      roster.resolve? call.id = some f ∧ part = [.took u, .asked begun f call.sessionInfo] ∧
      deadline = begun + limit.ticks ∧ begun ≤ w.clock ∧ w.clock ≤ deadline
  | .writing .answer message _ =>
    part ≠ [] ∧ ∀ result, Exchange roster limit (part ++ [.tried message result])
  | _ => part = []

end World

/-- How far the work on a session has come. -/
inductive Stage (roster : Roster) (limit : Span) (w : World) (i : Nat) (signs : List Sign) :
    Prop where
  | unopened (later : w.sessions.length ≤ i) (none : signs = [])
  | offering (done : List Message) (here : w.offered? = some i)
      (parts : done ++ w.remaining = roster.announcements .online)
      (shown : signs = done.map .accepted)
  | serving (exchanges : List (List Sign)) (part : List Sign) (here : w.held = i)
      (serving : w.isServing = true) (working : w.isWithdrawing = false)
      (whole : ∀ exchange ∈ exchanges, Exchange roster limit exchange)
      (unfinished : w.Unfinished roster limit part)
      (shown : signs =
        (roster.announcements .online).map .accepted ++ exchanges.flatten ++ part)
  | withdrawing {exchanges : List (List Sign)} (withdrawals : List Sign) (done : List Message)
      (here : w.held = i) (leaving : w.isWithdrawing = true)
      (whole : ∀ exchange ∈ exchanges, Exchange roster limit exchange)
      (tried : withdrawals.map Sign.message? = done.map some)
      (parts : done ++ w.remaining = roster.announcements .offline)
      (shown : signs =
        (roster.announcements .online).map .accepted ++ exchanges.flatten
          ++ .withdrawing :: withdrawals)
  | left (known : i < w.sessions.length) (shuns : w.Shuns i)
      (transcript : Transcript roster limit false signs)

section Stages

variable {w : World} {act : Option Act} {m : Move} {i : Nat} {signs : List Sign}
  {roster : Roster} {limit : Span} {settings : Settings} {functions : List Function}

/-- What is still to come of an exchange. -/
theorem World.Unfinished.exchange {part : List Sign} (unfinished : w.Unfinished roster limit part)
    (begun : part ≠ []) : w.isBusy = true ∧ ∃ rest, Exchange roster limit (part ++ rest) := by
  unfold World.Unfinished at unfinished
  split at unfinished
  · rename_i u here
    subst unfinished
    refine ⟨by simp [World.isBusy, here], ?_⟩
    cases carried : u.payload with
    | none => exact ⟨[], .silent (by simp [Update.needsAnswer, carried])⟩
    | some payload =>
      cases payload with
      | token token => exact ⟨_, .token carried (.ok ())⟩
      | registration | reconnect => exact ⟨[], .silent (by simp [Update.needsAnswer, carried])⟩
      | call call =>
        by_cases request : UpdateKind.ofNumber u.kind = .request
        · cases resolved : roster.resolve? call.id with
          | none => exact ⟨_, .unknown carried request resolved (.ok ())⟩
          | some f =>
            exact ⟨_, Exchange.timedOut 0 carried request resolved (.ok ())⟩
        · exact ⟨[], .silent (by simp [Update.needsAnswer, carried, request])⟩
  · rename_i call deadline here
    obtain ⟨u, begun, f, carried, request, known, rfl, -⟩ := unfinished
    exact ⟨by simp [World.isBusy, here], _, .timedOut _ carried request known (.ok ())⟩
  · rename_i message deadline here
    exact ⟨by simp [World.isBusy, here], _, unfinished.2 (.ok ())⟩
  · exact absurd unfinished begun

/-- At every stage the session shows a transcript. -/
theorem Stage.transcript (stage : Stage roster limit w i signs) :
    Transcript roster limit (w.held == i && w.isBusy) signs := by
  cases stage with
  | unopened later none => exact none ▸ .offering (List.nil_append _)
  | offering done here parts shown => exact shown ▸ .offering parts
  | serving exchanges part here serving working whole unfinished shown =>
    subst shown
    by_cases empty : part = []
    · exact .serving [] whole (absurd empty)
    · obtain ⟨busy, rest, exchange⟩ := unfinished.exchange empty
      exact .serving rest whole fun _ => ⟨by simp [here, busy], exchange⟩
  | withdrawing withdrawals done here leaving whole tried parts shown =>
    exact shown ▸ .withdrawing whole tried parts
  | left known shuns transcript =>
    cases transcript with
    | offering parts => exact .offering parts
    | abandoned parts fault => exact .abandoned parts fault
    | withdrawing whole tried parts => exact .withdrawing whole tried parts
    | serving rest whole pending =>
      exact .serving rest whole fun part => absurd (pending part).1 (by simp)

theorem Stage.unopened_deed (deed : Deed w act m) (standing : Standing w)
    (same : Roster.Same w.roster roster) (later : w.sessions.length ≤ i) :
    Stage roster limit m.world i ((⟨w, act, m⟩ : Beat).signs i) := by
  have none := deed.signs_eq_nil (shuns_of_later standing later)
  by_cases known : i < m.world.sessions.length
  · cases deed with
    | opened session here =>
      obtain rfl : i = w.sessions.length := by simp at known; omega
      exact .offering [] rfl (same.announcements_eq .online) none
    | _ => exact absurd known (by simpa using later)
  · exact .unopened (Nat.le_of_not_lt known) none

theorem Stage.left_deed (deed : Deed w act m) (known : i < w.sessions.length) (shuns : w.Shuns i)
    (transcript : Transcript roster limit false signs) :
    Stage roster limit m.world i (signs ++ (⟨w, act, m⟩ : Beat).signs i) := by
  rw [deed.signs_eq_nil shuns, List.append_nil]
  exact .left (Nat.lt_of_lt_of_le known deed.length_le) (deed.shuns known shuns) transcript

/-- When a function cannot be offered the session is closed and left. -/
theorem Deed.abandons {purpose : Purpose} {todo : List Function} {message : Message}
    {deadline : Option Nat} {fault : WriteFault} (deed : Deed w act m) (standing : Standing w)
    (stands : w.control = .writing (.offer purpose i todo) message deadline)
    (written : .written i message (.error fault) ∈ m.happened) :
    (m.world.session i).isClosed = true ∧
      (⟨w, act, m⟩ : Beat).signs i = [.tried message (.error fault)] ∧ m.world.Shuns i := by
  have offered : w.offered? = some i := by simp [World.offered?, stands]
  have known : i < w.sessions.length := by
    have := standing.fresh i offered
    omega
  cases deed with
  | @offerFailed purpose' j todo' message' deadline' fault' o control reports here ends setback =>
    simp only [stands, Control.writing.injEq, Task.offer.injEq] at here
    obtain ⟨⟨rfl, rfl, rfl⟩, rfl, rfl⟩ := here
    obtain rfl : fault = fault' := by cases setback <;> simpa using written
    refine ⟨?_, ?_, ⟨?_, fun serving used => ?_⟩⟩
    · refine congrArg Session.isClosed (World.session_onSession_self (w := w.onSession i _) ?_ _)
      simpa using known
    · simp [Beat.signs, Beat.heard, World.shown, stands, shown_setback setback,
        -List.flatMap_eq_nil_iff]
    · cases setback <;> simp [World.offered?]
    · refine standing.apart ?_ i offered used
      cases setback <;> simp_all [World.isServing, Purpose.isFirst]
  | offerWritten => simp at written
  | awaitSpace | peer | elapse => simp at written
  | _ => simp_all

theorem Stage.offering_deed {done : List Message} (deed : Deed w act m) (standing : Standing w)
    (here : w.offered? = some i) (parts : done ++ w.remaining = roster.announcements .online) :
    Stage roster limit m.world i (done.map .accepted ++ (⟨w, act, m⟩ : Beat).signs i) := by
  have known : i < w.sessions.length := by have := standing.fresh i here; omega
  have apart : w.isServing = true → w.held ≠ i := fun serving => standing.apart serving i here
  cases deed with
  | installFirst stands | installNext stands =>
    obtain rfl : _ = i := by simpa [World.offered?, stands] using here
    obtain rfl : done = _ := by simpa [World.remaining, stands] using parts
    refine .serving [] [] rfl rfl rfl (by simp) rfl ?_
    simp [Beat.signs, Beat.heard, World.shown, shown_publication, stands]
  | offer stands =>
    refine .offering done (by simpa [World.offered?, stands] using here) ?_
      (by simp [Beat.signs, Beat.heard, stands])
    simpa [World.remaining, stands] using parts
  | @awaitSpace task message stands =>
    refine .offering done ?_ ?_ (by simp [Beat.signs, Beat.heard, stands])
    · cases task <;> simp_all [World.offered?]
    · cases task <;> simpa [World.remaining, stands] using parts
  | @offerWritten purpose j todo message deadline o stands =>
    obtain rfl : j = i := by simpa [World.offered?, stands] using here
    refine .offering (done ++ [message]) rfl ?_
      (by simp [Beat.signs, Beat.heard, World.shown, stands])
    simpa [World.remaining, stands] using parts
  | @offerFailed purpose j todo message deadline fault o control reports stands ends setback =>
    obtain rfl : j = i := by simpa [World.offered?, stands] using here
    obtain ⟨-, shown, shuns⟩ := (Deed.offerFailed stands ends setback).abandons standing stands
      (List.mem_append_left reports List.mem_cons_self)
    rw [shown]
    exact .left (by simpa using known) shuns
      (.abandoned (by simpa [World.remaining, stands] using parts) fault)
  | peer | elapse | shutDown | shutDownAgain =>
    exact .offering done here parts (by simp [Beat.signs, Beat.heard, World.shown])
  | _ => simp_all [World.offered?]

theorem Stage.withdrawing_deed {exchanges : List (List Sign)} {withdrawals : List Sign}
    {done : List Message} (deed : Deed w act m) (here : w.held = i)
    (leaving : w.isWithdrawing = true)
    (whole : ∀ exchange ∈ exchanges, Exchange roster limit exchange)
    (tried : withdrawals.map Sign.message? = done.map some)
    (parts : done ++ w.remaining = roster.announcements .offline) :
    Stage roster limit m.world i
      ((roster.announcements .online).map .accepted ++ exchanges.flatten
        ++ .withdrawing :: withdrawals ++ (⟨w, act, m⟩ : Beat).signs i) := by
  cases deed with
  | @awaitSpace task message stands =>
    refine .withdrawing withdrawals done here ?_ whole tried ?_
      (by simp [Beat.signs, Beat.heard, stands])
    · cases task <;> simp_all [World.isWithdrawing]
    · cases task <;> simpa [World.remaining, stands] using parts
  | @withdrawalWritten id todo result message deadline o stands =>
    refine .withdrawing (withdrawals ++ [.accepted message]) (done ++ [message]) here rfl whole
      (by simp [tried, Sign.message?]) ?_
      (by simp [Beat.signs, Beat.heard, World.shown, stands, here])
    simpa [World.remaining, stands] using parts
  | @withdrawalFailed id todo result message deadline fault o stands =>
    refine .withdrawing (withdrawals ++ [.tried message (.error fault)]) (done ++ [message]) here
      rfl whole (by simp [tried, Sign.message?]) ?_
      (by simp [Beat.signs, Beat.heard, World.shown, stands, here])
    simpa [World.remaining, stands] using parts
  | withdraw stands =>
    refine .withdrawing withdrawals done here rfl whole tried ?_
      (by simp [Beat.signs, Beat.heard, stands])
    simpa [World.remaining, stands] using parts
  | stop stands =>
    refine .withdrawing withdrawals done here rfl whole tried ?_
      (by simp [Beat.signs, Beat.heard, World.shown, stands, shown_publication])
    simpa [World.remaining, stands] using parts
  | peer | elapse | shutDown | shutDownAgain =>
    exact .withdrawing withdrawals done here leaving whole tried parts
      (by simp [Beat.signs, Beat.heard, World.shown])
  | _ => simp_all [World.isWithdrawing]

theorem whole_concat {exchanges : List (List Sign)} {last : List Sign}
    (whole : ∀ exchange ∈ exchanges, Exchange roster limit exchange)
    (ended : Exchange roster limit last) :
    ∀ exchange ∈ exchanges ++ [last], Exchange roster limit exchange := by
  intro exchange member
  rcases List.mem_append.1 member with member | member
  · exact whole exchange member
  · exact List.mem_singleton.1 member ▸ ended

theorem World.unfinished_iff {part : List Sign} (free : w.isBusy = false) :
    w.Unfinished roster limit part ↔ part = [] := by
  unfold World.Unfinished
  split
  · simp_all [World.isBusy]
  · simp_all [World.isBusy]
  · simp_all [World.isBusy]
  · exact Iff.rfl

/-- Time does not pass beyond the end of the executor's time. -/
theorem World.Unfinished.elapse {part : List Sign} {ms : Nat}
    (unfinished : w.Unfinished roster limit part) (may : w.mayElapse ms = true) :
    { w with clock := w.clock + ms }.Unfinished roster limit part := by
  unfold World.Unfinished at unfinished ⊢
  generalize stands : w.control = control at unfinished
  cases control with
  | starting call deadline =>
    obtain ⟨u, begun, f, carried, request, known, shown, due, begins, -⟩ := unfinished
    have before : w.clock + ms ≤ deadline := by
      simpa [World.mayElapse, World.wake?, stands] using (Bool.and_eq_true_iff.1 may).2
    exact ⟨u, begun, f, carried, request, known, shown, due, Nat.le_add_right_of_le begins, before⟩
  | writing task message deadline => cases task <;> exact unfinished
  | _ => exact unfinished

theorem Stage.free_deed {exchanges : List (List Sign)} (deed : Deed w act m)
    (sound : Sound settings functions w) (here : w.held = i)
    (serving : w.isServing = true) (working : w.isWithdrawing = false) (free : w.isBusy = false)
    (whole : ∀ exchange ∈ exchanges,
      Exchange (Roster.onOffer functions) settings.dispatchTimeout exchange) :
    Stage (Roster.onOffer functions) settings.dispatchTimeout m.world i
      (((Roster.onOffer functions).announcements .online).map .accepted ++ exchanges.flatten
        ++ (⟨w, act, m⟩ : Beat).signs i) := by
  have known := sound.standing.used serving
  have phased := sound.phased
  have served : Transcript (.onOffer functions) settings.dispatchTimeout false
      (((Roster.onOffer functions).announcements .online).map .accepted ++ exchanges.flatten
        ++ []) :=
    .serving [] whole (absurd rfl)
  subst here
  cases deed with
  | installFirst stands first => simp [World.isServing, stands, first] at serving
  | @installNext attempt j stands =>
    have other : w.held ≠ j := sound.standing.apart serving j (by simp [World.offered?, stands])
    refine .left known ⟨by simp [World.offered?], fun _ => Ne.symm other⟩ ?_
    simpa [Beat.signs, Beat.heard, World.shown, shown_publication, stands] using served
  | offer stands =>
    exact .serving _ [] rfl (by simpa [World.isServing, stands] using serving) rfl whole rfl
      (by simp [Beat.signs, Beat.heard, stands])
  | offerWritten stands =>
    have other := sound.standing.apart serving _ (by rw [World.offered?, stands])
    exact .serving _ [] rfl (by simpa [World.isServing, stands] using serving) rfl whole rfl
      (by simp [Beat.signs, Beat.heard, World.shown, stands, Ne.symm other])
  | @offerFailed purpose _ _ _ _ _ _ _ _ stands ends setback =>
    have other := sound.standing.apart serving _ (by rw [World.offered?, stands])
    have later : purpose.isFirst = false := by simpa [World.isServing, stands] using serving
    cases setback with
    | recovering =>
      exact .serving _ [] rfl rfl rfl whole rfl
        (by simp [Beat.signs, Beat.heard, World.shown, stands, Ne.symm other])
    | _ => simp [Purpose.isFirst] at later
  | @unopened purpose _ _ _ stands setback =>
    have later : purpose.isFirst = false := by simpa [World.isServing, stands] using serving
    cases setback with
    | recovering =>
      exact .serving _ [] rfl rfl rfl whole rfl
        (by simp [Beat.signs, Beat.heard, World.shown])
    | _ => simp [Purpose.isFirst] at later
  | opened session stands =>
    exact .serving _ [] rfl (by simpa [World.isServing, stands] using serving) rfl whole rfl
      (by simp [Beat.signs, Beat.heard])
  | @awaitSpace task message stands =>
    cases task with
    | offer purpose j todo =>
      exact .serving _ [] rfl (by simpa [World.isServing, stands] using serving) rfl whole
        rfl (by simp [Beat.signs, Beat.heard, stands])
    | answer => simp [World.isBusy, stands] at free
    | withdraw => simp [World.isWithdrawing, stands] at working
  | drain stands | giveUp stands =>
    have fresh : w.phase ≠ .shuttingDown := by
      intro leaving
      simp [World.Phased, stands, leaving] at phased
    exact .withdrawing [] [] rfl rfl whole rfl
      (sound.offered.same_onOffer.announcements_eq .offline)
      (by simp [Beat.signs, Beat.heard, World.shown, shown_publication, stands, fresh])
  | take stands =>
    exact .serving _ _ rfl rfl rfl whole rfl (by simp [Beat.signs, Beat.heard, World.shown, stands])
  | rest stands | lose stands | wake stands | desist stands | quitBackOff stands | run stands
  | reopen stands | backOff stands | drop stands | reopenLater stands
  | reopenAnyway stands =>
    exact .serving _ [] rfl rfl rfl whole rfl
      (by simp [Beat.signs, Beat.heard, World.shown, shown_publication, stands])
  | miscount stands | mismeasure stands =>
    refine .left (by simpa using known) ⟨by simp [World.offered?], by simp [World.isServing]⟩ ?_
    simpa [Beat.signs, Beat.heard, World.shown, shown_publication, stands] using served
  | peer | shutDown | shutDownAgain =>
    exact .serving _ [] rfl serving working whole ((World.unfinished_iff free).2 rfl)
      (by simp [Beat.signs, Beat.heard, World.shown])
  | elapse ms may =>
    exact .serving _ [] rfl serving working whole
      (((World.unfinished_iff free).2 rfl).elapse may) (by simp [Beat.signs, Beat.heard])
  | retry stands => simp [World.isServing, stands] at serving
  | withdraw stands | withdrawalWritten stands | withdrawalFailed stands | stop stands =>
    simp [World.isWithdrawing, stands] at working
  | _ => simp_all [World.isBusy]

/-- An agent that is busy has its session and does not withdraw anything. -/
theorem World.serving_of_busy (busy : w.isBusy = true) :
    w.isServing = true ∧ w.isWithdrawing = false := by
  unfold World.isBusy at busy
  split at busy
  · rename_i stands
    simp [World.isServing, World.isWithdrawing, stands]
  · rename_i stands
    simp [World.isServing, World.isWithdrawing, stands]
  · rename_i stands
    simp [World.isServing, World.isWithdrawing, stands]
  · contradiction

theorem Deed.serves {w : World} (deed : Deed w act m) (busy : w.isBusy = true) :
    m.world.held = w.held ∧ m.world.isServing = true ∧ m.world.isWithdrawing = false := by
  cases deed with
  | @awaitSpace task message stands =>
    cases task with
    | answer => exact ⟨rfl, rfl, rfl⟩
    | _ => simp [World.isBusy, stands] at busy
  | peer | shutDown | shutDownAgain | elapse => exact ⟨rfl, World.serving_of_busy busy⟩
  | answerWritten | answerFailed | refresh | heed | ignore | refuse | launch | timeOut | started
  | unstarted => exact ⟨rfl, rfl, rfl⟩
  | _ => simp_all [World.isBusy]

/-- A step of an agent that is busy goes on with the exchange, or brings it to its end. -/
theorem World.Unfinished.deed {part : List Sign}
    (unfinished : w.Unfinished (Roster.onOffer functions) settings.dispatchTimeout part)
    (sound : Sound settings functions w) (busy : w.isBusy = true) (deed : Deed w act m)
    (shown : (⟨w, act, m⟩ : Beat).signs w.held = signs) :
    m.world.Unfinished (Roster.onOffer functions) settings.dispatchTimeout (part ++ signs) ∨
      Exchange (Roster.onOffer functions) settings.dispatchTimeout (part ++ signs) ∧
        m.world.isBusy = false := by
  have listed := sound.offered.listed
  have timeout : w.settings.dispatchTimeout = settings.dispatchTimeout :=
    congrArg Settings.dispatchTimeout sound.settings
  cases deed with
  | @awaitSpace task message stands =>
    cases task with
    | answer =>
      simp only [World.Unfinished, stands] at unfinished
      obtain rfl : [] = signs := by simpa [Beat.signs, Beat.heard, stands] using shown
      rw [List.append_nil]
      exact .inl unfinished
    | _ => simp [World.isBusy, stands] at busy
  | @answerWritten message deadline o stands =>
    simp only [World.Unfinished, stands] at unfinished
    obtain rfl : [Sign.accepted message] = signs := by
      simpa [Beat.signs, Beat.heard, World.shown, stands] using shown
    exact .inr ⟨unfinished.2 (.ok ()), rfl⟩
  | @answerFailed message deadline fault o stands =>
    simp only [World.Unfinished, stands] at unfinished
    obtain rfl : [Sign.tried message (.error fault)] = signs := by
      simpa [Beat.signs, Beat.heard, World.shown, stands] using shown
    exact .inr ⟨unfinished.2 (.error fault), rfl⟩
  | @refresh u token stands carried =>
    simp only [World.Unfinished, stands] at unfinished
    obtain rfl : [Sign.refreshed token.value] = signs := by
      simpa [Beat.signs, Beat.heard, World.shown, stands] using shown
    subst unfinished
    exact .inl ⟨List.cons_ne_nil _ _, fun result => .token carried result⟩
  | @heed u notice stands carried =>
    simp only [World.Unfinished, stands] at unfinished
    obtain rfl : [] = signs := by simpa [Beat.signs, Beat.heard, World.shown, stands] using shown
    subst unfinished
    exact .inr ⟨.silent (by simp [Update.needsAnswer, carried]), rfl⟩
  | @ignore u stands noToken noNotice noRequest =>
    simp only [World.Unfinished, stands] at unfinished
    obtain rfl : [] = signs := by simpa [Beat.signs, Beat.heard, World.shown, stands] using shown
    subst unfinished
    exact .inr ⟨.silent (u.needsAnswer_eq_false noToken noRequest), rfl⟩
  | @refuse u call stands carried request unknown =>
    simp only [World.Unfinished, stands] at unfinished
    simp only [World.Listed, stands] at listed
    rw [sound.offered.eq_onOffer listed] at unknown
    obtain rfl : [] = signs := by simpa [Beat.signs, Beat.heard, World.shown, stands] using shown
    subst unfinished
    exact .inl ⟨List.cons_ne_nil _ _, fun result => .unknown carried request unknown result⟩
  | @launch u call f stands carried request known =>
    simp only [World.Unfinished, stands] at unfinished
    simp only [World.Listed, stands] at listed
    rw [sound.offered.eq_onOffer listed] at known
    obtain rfl : [Sign.asked w.clock f call.sessionInfo] = signs := by
      simpa [Beat.signs, Beat.heard, World.shown, stands] using shown
    subst unfinished
    refine .inl ⟨u, w.clock, f, carried, request, known, rfl, ?_, Nat.le_refl _, ?_⟩
    · rw [timeout]
    · exact Nat.le_add_right _ _
  | @timeOut call deadline stands due =>
    simp only [World.Unfinished, stands] at unfinished
    obtain ⟨u, begun, f, carried, request, known, rfl, rfl, begins, before⟩ := unfinished
    obtain rfl : [Sign.heard w.clock none] = signs := by
      simpa [Beat.signs, Beat.heard, World.shown, stands] using shown
    -- Time does not pass the end of the wait, so that it is just then that the wait is over.
    have now : w.clock = begun + settings.dispatchTimeout.ticks := by omega
    refine .inl ⟨List.cons_ne_nil _ _, fun result => ?_⟩
    rw [now, timeout]
    exact .timedOut _ carried request known result
  | @started call deadline stands =>
    simp only [World.Unfinished, stands] at unfinished
    obtain ⟨u, begun, f, carried, request, known, rfl, rfl, begins, before⟩ := unfinished
    obtain rfl : [Sign.heard w.clock (some (.ok ()))] = signs := by
      simpa [Beat.signs, Beat.heard, World.shown] using shown
    refine .inl ⟨List.cons_ne_nil _ _, fun result => ?_⟩
    exact .started carried request known begins before result
  | @unstarted call deadline cause stands =>
    simp only [World.Unfinished, stands] at unfinished
    obtain ⟨u, begun, f, carried, request, known, rfl, rfl, begins, before⟩ := unfinished
    obtain rfl : [Sign.heard w.clock (some (.error cause))] = signs := by
      simpa [Beat.signs, Beat.heard, World.shown] using shown
    refine .inl ⟨List.cons_ne_nil _ _, fun result => ?_⟩
    exact .unstarted carried request known begins before cause result
  | peer | shutDown | shutDownAgain =>
    obtain rfl : [] = signs := by simpa [Beat.signs, Beat.heard, World.shown] using shown
    rw [List.append_nil]
    exact .inl unfinished
  | elapse ms may =>
    obtain rfl : [] = signs := by simpa [Beat.signs, Beat.heard] using shown
    rw [List.append_nil]
    exact .inl (unfinished.elapse may)
  | _ => simp_all [World.isBusy]

theorem Stage.busy_deed {exchanges : List (List Sign)} {part : List Sign} (deed : Deed w act m)
    (sound : Sound settings functions w) (here : w.held = i) (busy : w.isBusy = true)
    (whole : ∀ exchange ∈ exchanges,
      Exchange (Roster.onOffer functions) settings.dispatchTimeout exchange)
    (unfinished : w.Unfinished (Roster.onOffer functions) settings.dispatchTimeout part) :
    Stage (Roster.onOffer functions) settings.dispatchTimeout m.world i
      (((Roster.onOffer functions).announcements .online).map .accepted ++ exchanges.flatten ++ part
        ++ (⟨w, act, m⟩ : Beat).signs i) := by
  subst here
  obtain ⟨held, serving, working⟩ := deed.serves busy
  generalize shown : (⟨w, act, m⟩ : Beat).signs w.held = signs
  rcases unfinished.deed sound busy deed shown with further | ⟨ended, free⟩
  · exact .serving exchanges (part ++ signs) held serving working whole further
      (List.append_assoc ..)
  · exact .serving (exchanges ++ [part ++ signs]) [] held serving working
      (whole_concat whole ended) ((World.unfinished_iff free).2 rfl) (by simp)

theorem Stage.deed (stage : Stage (Roster.onOffer functions) settings.dispatchTimeout w i signs)
    (sound : Sound settings functions w) (deed : Deed w act m) :
    Stage (Roster.onOffer functions) settings.dispatchTimeout m.world i
      (signs ++ (⟨w, act, m⟩ : Beat).signs i) := by
  cases stage with
  | unopened later none =>
    exact none ▸ Stage.unopened_deed deed sound.standing sound.offered.same_onOffer later
  | offering done here parts shown =>
    exact shown ▸ Stage.offering_deed deed sound.standing here parts
  | withdrawing withdrawals done here leaving whole tried parts shown =>
    exact shown ▸ Stage.withdrawing_deed deed here leaving whole tried parts
  | left known shuns transcript => exact Stage.left_deed deed known shuns transcript
  | serving exchanges part here serving working whole unfinished shown =>
    subst shown
    cases busy : w.isBusy with
    | true => exact Stage.busy_deed deed sound here busy whole unfinished
    | false =>
      obtain rfl := (World.unfinished_iff busy).1 unfinished
      rw [List.append_nil]
      exact Stage.free_deed deed sound here serving working busy whole

/-- Every session of every agent is at some stage. -/
theorem Career.stage {entry : Entry} {beats : List Beat}
    (career : Career settings functions entry beats w) (i : Nat) :
    Stage (Roster.onOffer functions) settings.dispatchTimeout w i (signsOn i beats) := by
  refine career.told (P := fun beats w => Stage _ _ w i (signsOn i beats))
    (sound_create settings functions entry) (fun _ _ _ sound deed => sound.deed deed)
    (.unopened (by simp [World.create]) rfl) (fun beats v act m sound stage deed => ?_)
  rw [signsOn_snoc]
  exact stage.deed sound deed

end Stages

end FunctionAgent.Agent
