import FunctionAgent.Proofs.Stage
/-!
# No update is lost

What the agent takes from a session is the beginning of what was delivered to it, each update is
handled once, and in the order of delivery. The agent stops taking updates from a session when all
that was delivered has been handled and the stream is over, and else for one of three reasons only
(`Leaves`).
-/

set_option autoImplicit false

namespace FunctionAgent

/-- What a look for an update finds. -/
inductive Session.Finds (s : Session) : Except SessionFailure (Option Update) → Session → Prop where
  | update {u : Update} {rest : List Update} {after : Session}
      (waiting : s.stream.inbound.queue = u :: rest) (left : after.stream.inbound.queue = rest) :
      Finds s (.ok (some u)) after
  | nothing (empty : s.stream.inbound.queue = []) : Finds s (.ok none) s
  | exhausted {how : StreamEnd} (empty : s.stream.inbound.queue = [])
      (ended : s.stream.inbound.ended = some how) : Finds s (.error (.streamEnded how.message)) s

theorem Session.finds (s : Session) : s.Finds s.receive.1 s.receive.2 := by
  obtain ⟨bearer, ⟨⟨queue, ended⟩, outbound, isFed⟩⟩ := s
  cases queue with
  | cons u rest => exact .update rfl rfl
  | nil =>
    cases ended with
    | none => exact .nothing rfl
    | some how => exact .exhausted rfl rfl

namespace Agent

namespace Beat

/-- The updates that come to wait on a session in a step. -/
def delivered (i : Nat) (b : Beat) : List Update :=
  match b.act with
  | some (.answerOpen (.ok session)) =>
    if b.before.sessions.length = i then session.stream.inbound.queue else []
  | some (.peer j (.deliver u)) =>
    if j = i ∧ i < b.before.sessions.length ∧ (b.before.session i).stream.isFed then [u] else []
  | _ => []

/-- The update of a session whose handling begins in a step. -/
def handled (i : Nat) (b : Beat) : List Update :=
  match b.act with
  | none =>
    match b.before.control with
    | .handling u => if b.before.held = i then [u] else []
    | _ => []
  | some _ => []

end Beat

/-- The updates that were delivered on a session. -/
def deliveredOn (i : Nat) (beats : List Beat) : List Update := beats.flatMap (Beat.delivered i)

/-- The updates of a session that were handled. -/
def handledOn (i : Nat) (beats : List Beat) : List Update := beats.flatMap (Beat.handled i)

namespace World

/-- The updates that wait on a session. -/
def waiting (w : World) (i : Nat) : List Update := (w.session i).stream.inbound.queue

/-- The update of a session that was taken and is to be handled. -/
def inHand (w : World) (i : Nat) : List Update :=
  match w.control with
  | .handling u => if w.held = i then [u] else []
  | _ => []

/-- Whether the agent takes updates and handles them. -/
def isDispatching (w : World) : Bool :=
  match w.control with
  | .looping | .handling _ | .starting _ _ | .resting _ | .writing .answer _ _ => true
  | _ => false

end World

section Deeds

variable {w : World} {act : Option Act} {m : Move} {i : Nat}

/-- In a step in which nothing is delivered and nothing is taken what waits stays the same. -/
theorem waiting_of_none {v : World} {delivered : List Update} {signs : List Sign}
    (undelivered : delivered = []) (untaken : signs.filterMap Sign.taken? = [])
    (same : v.waiting i = w.waiting i) :
    w.waiting i ++ delivered = signs.filterMap Sign.taken? ++ v.waiting i := by
  rw [undelivered, untaken, same, List.append_nil, List.nil_append]

/-- A look that finds nothing leaves the session as it is. -/
theorem session_of_nothing (nothing : ∀ u, w.current.receive.1 ≠ .ok (some u)) :
    (w.onSession w.held (·.receive.2)).session i = w.session i := by
  rw [World.session_onSession]
  split
  · rename_i both
    obtain ⟨rfl, -⟩ := both
    have finds := w.current.finds
    generalize w.current.receive.1 = found at finds nothing
    change w.current.receive.2 = w.current
    generalize w.current.receive.2 = after at finds
    cases finds with
    | update => exact absurd rfl (nothing _)
    | nothing | exhausted => rfl
  · rfl

theorem waiting_peer (j : Nat) (act : Session.PeerAct) :
    w.waiting i ++ (⟨w, some (.peer j act), ⟨w.onSession j (·.peerAct act), []⟩⟩ : Beat).delivered i
      = (w.onSession j (·.peerAct act)).waiting i := by
  rw [World.waiting, World.waiting, World.session_onSession]
  cases act with
  | deliver u =>
    by_cases here : j = i ∧ i < w.sessions.length
    · rw [if_pos here]
      by_cases fed : (w.session i).stream.isFed = true
      · simp [Beat.delivered, Session.peerAct, Duplex.deliver, here, fed]
      · simp [Beat.delivered, Session.peerAct, Duplex.deliver, here, fed]
    · rw [if_neg here]
      have unheard : ¬(j = i ∧ i < w.sessions.length ∧ (w.session i).stream.isFed = true) :=
        fun all => here ⟨all.1, all.2.1⟩
      simp [Beat.delivered, if_neg unheard]
  | endFeed how =>
    simp only [Beat.delivered, List.append_nil]
    split
    · simp only [Session.peerAct, Duplex.endFeed]
      split <;> rfl
    · rfl
  | outbound act =>
    simp only [Beat.delivered, List.append_nil]
    split <;> rfl

theorem waiting_opened (session : Session) (control : Control) :
    w.waiting i ++ (if w.sessions.length = i then session.stream.inbound.queue else [])
      = { w with sessions := w.sessions ++ [session], control }.waiting i := by
  simp only [World.waiting, World.session, List.getD_eq_getElem?_getD]
  rcases Nat.lt_trichotomy i w.sessions.length with known | rfl | beyond
  · rw [if_neg (by omega), List.getElem?_append_left known, List.append_nil]
  · simp
    rfl
  · rw [if_neg (by omega), List.getElem?_eq_none (by omega), List.append_nil,
      List.getElem?_eq_none (by simp; omega)]

/-- What waits on a session grows by what is delivered and shrinks by what is taken. -/
theorem Deed.waiting (deed : Deed w act m) (standing : Standing w) :
    w.waiting i ++ (⟨w, act, m⟩ : Beat).delivered i =
      ((⟨w, act, m⟩ : Beat).signs i).filterMap Sign.taken? ++ m.world.waiting i := by
  have keeps {v : World} {j : Nat} {f : Session → Session}
      (same : v.sessions = (w.onSession j f).sessions)
      (kept : ∀ s, (f s).stream.inbound.queue = s.stream.inbound.queue) :
      v.waiting i = w.waiting i := by
    rw [World.waiting, session_congr same]
    exact World.onSession_keeps (·.stream.inbound.queue) kept
  cases deed with
  | @take u here unasked received =>
    have known := standing.used (by simp [World.isServing, here])
    have finds := w.current.finds
    rw [received] at finds
    by_cases used : w.held = i
    · subst used
      have after : (w.onSession w.held (·.receive.2)).waiting w.held
          = w.current.receive.2.stream.inbound.queue :=
        congrArg (·.stream.inbound.queue) (World.session_onSession_self known _)
      cases finds with
      | @update _ rest _ waiting left =>
        have before : w.waiting w.held = u :: rest := waiting
        simp [Beat.delivered, Beat.signs, Beat.heard, World.shown, here, before]
        exact (after.trans left).symm
    · refine waiting_of_none rfl ?_ ?_
      · simp [Beat.signs, World.shown, used]
      · exact congrArg (·.stream.inbound.queue) (World.session_onSession_of_ne used _)
  | rest here unasked received | lose here unasked received =>
    refine waiting_of_none rfl ?_ (congrArg (·.stream.inbound.queue) (session_of_nothing ?_))
    · simp [Beat.signs, Beat.heard, here]
    · simp [received]
  | offerWritten here | answerWritten here | answerFailed here | withdrawalWritten here
  | withdrawalFailed here | refresh here | reopen here | mismeasure here | backOff here | stop here
  | drop here =>
    refine waiting_of_none rfl ?_ (keeps rfl fun _ => rfl)
    simp [Beat.signs, Beat.heard, World.shown, shown_publication, here]
  | @offerFailed _ j _ _ _ _ o _ _ here ends setback =>
    refine waiting_of_none rfl ?_ ?_
    · simp [Beat.signs, Beat.heard, World.shown, here, shown_setback setback,
        -List.flatMap_eq_nil_iff]
    · have first : (w.onSession j (·.withOutbound o)).waiting i = w.waiting i :=
        keeps rfl fun _ => rfl
      refine Eq.trans ?_ first
      exact World.onSession_keeps (·.stream.inbound.queue) fun _ => rfl
  | peer j act =>
    rw [waiting_peer]
    simp [Beat.signs, Beat.heard]
  | @opened purpose session here =>
    have shown := waiting_opened (w := w) (i := i) session
      (.offering purpose w.sessions.length w.roster)
    simpa [Beat.signs, Beat.heard, Beat.delivered] using shown
  | unopened here setback =>
    refine waiting_of_none rfl ?_ rfl
    simp [Beat.signs, Beat.heard, shown_setback setback]
  | shutDown | shutDownAgain | elapse =>
    refine waiting_of_none rfl ?_ rfl
    simp [Beat.signs, Beat.heard, World.shown]
  | _ =>
    refine waiting_of_none rfl ?_ rfl
    simp +contextual [Beat.signs, Beat.heard, World.shown, shown_publication, *]

/-- What was taken is handled, or is in hand. -/
theorem Deed.inHand (deed : Deed w act m) :
    w.inHand i ++ ((⟨w, act, m⟩ : Beat).signs i).filterMap Sign.taken? =
      (⟨w, act, m⟩ : Beat).handled i ++ m.world.inHand i := by
  cases deed with
  | take here =>
    by_cases used : w.held = i
    · simp [Beat.signs, Beat.heard, World.shown, Beat.handled, World.inHand, here, used]
    · simp [Beat.signs, World.shown, Beat.handled, World.inHand, here, used]
  | refresh here | heed here | refuse here | launch here | ignore here =>
    by_cases used : w.held = i
    · simp [Beat.signs, Beat.heard, World.shown, Beat.handled, World.inHand, here, used]
    · simp [Beat.signs, World.shown, Beat.handled, World.inHand, used]
  | peer =>
    simp [Beat.signs, Beat.heard, Beat.handled]
    rfl
  | shutDown | shutDownAgain | elapse =>
    simp [Beat.signs, Beat.heard, World.shown, Beat.handled, World.inHand]
  | offerFailed here ends setback =>
    cases setback <;> simp [Beat.signs, Beat.heard, World.shown, Beat.handled, World.inHand, here]
  | unopened here setback =>
    cases setback <;> simp [Beat.signs, Beat.heard, World.shown, Beat.handled, World.inHand, here]
  | _ =>
    simp +contextual [Beat.signs, Beat.heard, World.shown, shown_publication, Beat.handled,
      World.inHand, *]

end Deeds

/-- Why the agent stops taking updates from a session: all that was delivered has been handled and
the stream is over, the update that it took last is a notice, the answer to this update could not be
written, or a shutdown was asked for. -/
inductive Leaves (roster : Roster) (limit : Span) (before : List Beat) (b : Beat) : Prop where
  | exhausted {how : StreamEnd} {exchanges : List (List Sign)}
      (ended : b.before.current.stream.inbound.ended = some how)
      (lost : b.before.current.receive.1 = .error (.streamEnded how.message))
      (all : handledOn b.before.held before = deliveredOn b.before.held before)
      (whole : ∀ exchange ∈ exchanges, Exchange roster limit exchange)
      (shown : signsOn b.before.held before =
        (roster.announcements .online).map .accepted ++ exchanges.flatten)
  | noticed {updates : List Update} {u : Update} {notice : Reconnect}
      (last : takenOn b.before.held before = updates ++ [u])
      (carried : u.payload = some (.reconnect notice))
  | unanswered {updates : List Update} {u : Update} {message : Message} {fault : WriteFault}
      (last : takenOn b.before.held before = updates ++ [u]) (needed : u.needsAnswer = true)
      (answers : message.toUpdate.payload = u.payload)
      (failed : .written b.before.held message (.error fault) ∈ b.move.happened)
  | asked (asked : b.before.isShutdown = true)

section Career

variable {settings : Settings} {functions : List Function} {entry : Entry} {beats : List Beat}
  {w : World}

theorem Career.taken_append_waiting (career : Career settings functions entry beats w) (i : Nat) :
    takenOn i beats ++ w.waiting i = deliveredOn i beats := by
  refine career.told (P := fun beats w => takenOn i beats ++ w.waiting i = deliveredOn i beats)
    (sound_create settings functions entry) (fun _ _ _ sound deed => sound.deed deed) rfl
    (fun beats v act m sound taken deed => ?_)
  have passes := deed.waiting sound.standing (i := i)
  calc
    takenOn i (beats ++ [⟨v, act, m⟩]) ++ m.world.waiting i
        = takenOn i beats ++ (((⟨v, act, m⟩ : Beat).signs i).filterMap Sign.taken?
            ++ m.world.waiting i) := by simp [takenOn, signsOn_snoc]
    _ = takenOn i beats ++ (v.waiting i ++ (⟨v, act, m⟩ : Beat).delivered i) := by rw [passes]
    _ = deliveredOn i beats ++ (⟨v, act, m⟩ : Beat).delivered i := by
      rw [← taken, List.append_assoc]
    _ = deliveredOn i (beats ++ [⟨v, act, m⟩]) := by simp [deliveredOn]

theorem Career.taken_eq (career : Career settings functions entry beats w) (i : Nat) :
    takenOn i beats = handledOn i beats ++ w.inHand i := by
  refine career.told (P := fun beats w => takenOn i beats = handledOn i beats ++ w.inHand i)
    (sound_create settings functions entry) (fun _ _ _ sound deed => sound.deed deed) rfl
    (fun beats v act m sound taken deed => ?_)
  calc
    takenOn i (beats ++ [⟨v, act, m⟩])
        = takenOn i beats ++ ((⟨v, act, m⟩ : Beat).signs i).filterMap Sign.taken? := by
      simp [takenOn, signsOn_snoc]
    _ = handledOn i beats ++ ((⟨v, act, m⟩ : Beat).handled i ++ m.world.inHand i) := by
      rw [taken, List.append_assoc, deed.inHand]
    _ = handledOn i (beats ++ [⟨v, act, m⟩]) ++ m.world.inHand i := by
      simp [handledOn]

/-- What was seen of the session from which the agent takes updates. -/
theorem Career.dispatching (career : Career settings functions entry beats w)
    (dispatching : w.isDispatching = true) :
    ∃ (exchanges : List (List Sign)) (part : List Sign),
      (∀ exchange ∈ exchanges,
        Exchange (.onOffer functions) settings.dispatchTimeout exchange) ∧
      w.Unfinished (.onOffer functions) settings.dispatchTimeout part ∧
      signsOn w.held beats =
        ((Roster.onOffer functions).announcements .online).map .accepted ++ exchanges.flatten
          ++ part := by
  have serves : w.isServing = true ∧ w.isWithdrawing = false ∧ w.offered? = none := by
    unfold World.isDispatching at dispatching
    split at dispatching
    all_goals first
      | contradiction
      | simp [World.isServing, World.isWithdrawing, World.offered?, *]
  obtain ⟨serving, working, unoffered⟩ := serves
  cases career.stage w.held with
  | serving exchanges part here serving working whole unfinished shown =>
    exact ⟨exchanges, part, whole, unfinished, shown⟩
  | unopened later => exact absurd (career.sound.standing.used serving) (Nat.not_lt.2 later)
  | offering _ here => simp [unoffered] at here
  | withdrawing _ _ here leaving => simp [working] at leaving
  | left known shuns => exact absurd rfl (shuns.unused serving)

/-- An answer is one to the update that was taken last. -/
theorem Career.last_taken {message : Message} {deadline : Option Nat}
    (career : Career settings functions entry beats w)
    (stands : w.control = .writing .answer message deadline) :
    ∃ updates u, takenOn w.held beats = updates ++ [u] ∧ u.needsAnswer = true ∧
      message.toUpdate.payload = u.payload := by
  obtain ⟨exchanges, part, -, unfinished, shown⟩ :=
    Career.dispatching career (by simp [World.isDispatching, stands])
  simp only [World.Unfinished, stands] at unfinished
  have exchange := unfinished.2 (.ok ())
  obtain ⟨u, rest, shape, untaken⟩ := exchange.begins
  have taken : part.filterMap Sign.taken? = [u] := by
    have all := congrArg (List.filterMap Sign.taken?) shape
    simpa [untaken, List.filterMap_cons] using all
  have echoed : echoes part ++ [message.toUpdate.payload]
      = ([u].filter Update.needsAnswer).map Update.payload := by
    have same := exchange.echoes_eq
    rw [echoes_append, asks_append, asks, taken] at same
    exact same.trans (List.append_nil _)
  have last : takenOn w.held beats =
      ((((Roster.onOffer functions).announcements .online).map Sign.accepted
        ++ exchanges.flatten).filterMap Sign.taken?) ++ [u] := by
    rw [takenOn, shown, List.filterMap_append, taken]
  cases needed : u.needsAnswer with
  | false => simp [needed] at echoed
  | true =>
    have one : echoes part ++ [message.toUpdate.payload] = [] ++ [u.payload] := by
      simpa [needed] using echoed
    exact ⟨_, u, last, needed, List.singleton_inj.1 (List.append_inj' one rfl).2⟩

theorem Career.leaves {act : Option Act} {m : Move}
    (career : Career settings functions entry beats w) (deed : Deed w act m)
    (dispatching : w.isDispatching = true) (left : m.world.isDispatching = false) :
    Leaves (.onOffer functions) settings.dispatchTimeout beats ⟨w, act, m⟩ := by
  have taken := career.taken_eq w.held
  cases deed with
  | @lose text here unasked received =>
    obtain ⟨exchanges, part, whole, unfinished, shown⟩ := Career.dispatching career dispatching
    obtain rfl : part = [] := by simpa [World.Unfinished, here] using unfinished
    have delivered := career.taken_append_waiting w.held
    have finds := w.current.finds
    rw [received] at finds
    generalize w.current.receive.2 = after at finds
    cases finds with
    | exhausted empty ended =>
      refine .exhausted ended received ?_ whole (shown.trans (List.append_nil _))
      have nothing : w.waiting w.held = [] := empty
      simpa [nothing, taken, World.inHand, here] using delivered
  | heed here carried =>
    simp only [World.inHand, here, if_true] at taken
    exact .noticed taken carried
  | answerFailed here =>
    obtain ⟨updates, u, last, needed, answers⟩ := Career.last_taken career here
    exact .unanswered last needed answers List.mem_cons_self
  | drain here asked => exact .asked asked
  | @awaitSpace task => cases task <;> simp_all [World.isDispatching]
  | unopened here | offerFailed here => simp [World.isDispatching, here] at dispatching
  | peer | shutDown | shutDownAgain | elapse => exact absurd (left.symm.trans dispatching) (by simp)
  | _ => simp_all [World.isDispatching]

end Career

/-- What an agent takes from its sessions of what is delivered to them. -/
structure Delivery (roster : Roster) (limit : Span) (beats : List Beat) (w : World) : Prop where
  /-- What was delivered was taken in this order, or still waits. -/
  order : ∀ i, takenOn i beats ++ w.waiting i = deliveredOn i beats
  /-- What was taken was handled once and in this order, or is in hand. -/
  once : ∀ i, takenOn i beats = handledOn i beats ++ w.inHand i
  leaves : ∀ before b after, beats = before ++ b :: after →
    b.before.isDispatching = true → b.move.world.isDispatching = false →
      Leaves roster limit before b

section Career

variable {settings : Settings} {functions : List Function} {entry : Entry} {beats : List Beat}
  {w : World}

/-- No update is lost, doubled or put out of order. -/
theorem Career.delivery (career : Career settings functions entry beats w) :
    Delivery (.onOffer functions) settings.dispatchTimeout beats w where
  order := career.taken_append_waiting
  once := career.taken_eq
  leaves := by
    rintro before b after rfl dispatching left
    obtain ⟨earlier, step, -⟩ := career.around
    exact Career.leaves earlier (deed_of_step step) dispatching left

/-- A run in which a token, an empty update and the end of the stream come while the executor has
yet to answer a call. -/
def crossing : List (Option Act) :=
  let call : Call := ⟨"00000000000000000000000000000000", [1, 2]⟩
  [some (.answerOpen (.ok (.start "first" default))), none, none, none, some .run,
    some (.peer 0 (.deliver ⟨1, 0, "", some (.call call)⟩)), none, none,
    some (.peer 0 (.deliver ⟨0, 0, "", some (.token ⟨"second"⟩)⟩)),
    some (.peer 0 (.deliver ⟨0, 0, "", none⟩)), some (.peer 0 (.endFeed (.failed "gone"))),
    some (.answerStart (.ok ())), none, none, none, none, none, none, none]

theorem delivery_in_crossing :
    let updates : List Update :=
      [⟨1, 0, "", some (.call ⟨"00000000000000000000000000000000", [1, 2]⟩)⟩,
        ⟨0, 0, "", some (.token ⟨"second"⟩)⟩, ⟨0, 0, "", none⟩]
    ∃ beats w, Career .standard [default] .start beats w ∧ w.isDispatching = false ∧
      deliveredOn 0 beats = updates ∧ handledOn 0 beats = updates ∧
      Delivery (.onOffer [default]) (.ofSeconds 5) beats w := by
  intro updates
  have played : ((World.create .standard [default] .start).world.replay crossing).map
      (fun run => (run.2.isDispatching, deliveredOn 0 run.1, handledOn 0 run.1)) =
        some (false, updates, updates) := by decide +kernel
  obtain ⟨⟨beats, w⟩, replayed, seen⟩ := Option.map_eq_some_iff.1 played
  simp only [Prod.mk.injEq] at seen
  have career : Career .standard [default] .start beats w := .of_replay replayed
  exact ⟨beats, w, career, seen.1, seen.2.1, seen.2.2, career.delivery⟩

end Career

end Agent

end FunctionAgent
