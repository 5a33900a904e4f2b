import FunctionAgent.Proofs.Exchange
/-!
# The ledger of failures

A lost stream and a reopening that failed are failures. They are numbered from the last update that
was handled on, across all sessions, and each of them is answered by one session that is asked for
as long as its number is within the budget. `Tally` is this law, and `Ledger` is how an agent stands
to it at any time.
-/

set_option autoImplicit false

namespace FunctionAgent

/-- The notice that an update carries, if it carries one. -/
def Update.notice? (u : Update) : Option Reconnect :=
  match u.payload with
  | some (.reconnect notice) => some notice
  | _ => none

theorem Update.notice?_eq_none {u : Update}
    (noNotice : ∀ notice, u.payload ≠ some (.reconnect notice)) : u.notice? = none := by
  unfold notice?
  split
  · rename_i notice carried
    exact absurd carried (noNotice notice)
  · rfl

namespace Agent

/-- What counts for the budget. -/
inductive Mark where
  /-- The stream was lost, or could not be opened again. -/
  | failed (cause : SessionFailure)
  /-- An update was handled. -/
  | handled
  | recovering (attempt : Nat)
  | reported (event : Event)
  /-- A session was asked for in the stead of the one in use. -/
  | opened

namespace Mark

def isHandled : Mark → Bool
  | .handled => true
  | _ => false

def isOpened : Mark → Bool
  | .opened => true
  | _ => false

end Mark

namespace Beat

/-- The failure of a step: of a look for an update, of the work on one, or of a reopening. -/
def failure? (b : Beat) : Option SessionFailure :=
  match b.act with
  | none =>
    match b.before.control with
    | .looping =>
      match b.before.isShutdown, b.before.current.receive.1 with
      | false, .error failure => some failure
      | _, _ => none
    | .handling u => u.notice?.map fun notice => .reconnectRequested notice.seconds
    | .writing .answer _ _ | .writing (.offer (.recover _) _ _) _ _ =>
      b.move.happened.findSome? fun
        | .written _ _ (.error fault) => some (Session.writeFailure fault)
        | _ => none
    | _ => none
  | some (.answerOpen (.error failure)) =>
    match b.before.control with
    | .opening (.recover _) => some failure
    | _ => none
  | some _ => none

/-- Whether an update was handled in a step: it needed nothing, or got what it needed. -/
def isHandled (b : Beat) : Bool :=
  match b.act with
  | none =>
    match b.before.control with
    | .handling u => !u.needsAnswer && u.notice?.isNone
    | .writing .answer _ _ =>
      b.move.happened.any fun
        | .written _ _ (.ok ()) => true
        | _ => false
    | _ => false
  | some _ => false

end Beat

/-- The event that a lost stream is going to be replaced. -/
def lost (max attempt : Nat) (cause : SessionFailure) : Event :=
  ⟨.agent, .warn, "Lost broker stream, reconnecting",
    [("attempt", toString attempt), ("remaining", toString (max - attempt)),
      ("error", cause.message)]⟩

/-- What a happening shows of the use of the budget. -/
def World.marked (w : World) : Happening → List Mark
  | .published (.recovering attempt) => [.recovering attempt]
  | .logged event =>
    if event.message = "Lost broker stream, reconnecting" then [.reported event] else []
  | .opening => if w.isServing then [.opened] else []
  | _ => []

/-- What a step shows of the use of the budget. -/
def Beat.marks (b : Beat) : List Mark :=
  b.failure?.toList.map .failed ++ (if b.isHandled then [.handled] else [])
    ++ b.move.happened.flatMap b.before.marked

/-- What the steps show of the use of the budget. -/
def marksOf (beats : List Beat) : List Mark := beats.flatMap Beat.marks

theorem marksOf_snoc (beats : List Beat) (b : Beat) :
    marksOf (beats ++ [b]) = marksOf beats ++ b.marks := by
  simp [marksOf]

/-- What is shown of a failure before a session is asked for. -/
def reaction (max attempt : Nat) (cause : SessionFailure) : List Mark :=
  [.failed cause, .recovering attempt, .reported (lost max attempt cause)]

/-- The law of the budget: failures are numbered from the last update that was handled on, and each
is answered by one session that is asked for, the last of them by that with the number `max`. -/
inductive Tally (max : Nat) : List Mark → Nat → Prop where
  | nil : Tally max [] 0
  | handled {marks : List Mark} {n : Nat} (tally : Tally max marks n) :
      Tally max (marks ++ [.handled]) 0
  | reopened {marks : List Mark} {n : Nat} (tally : Tally max marks n) (left : n + 1 ≤ max)
      (cause : SessionFailure) :
      Tally max (marks ++ reaction max (n + 1) cause ++ [.opened]) (n + 1)

theorem Tally.le {max n : Nat} {marks : List Mark} (tally : Tally max marks n) : n ≤ max := by
  cases tally with
  | nil | handled => exact Nat.zero_le max
  | reopened tally left cause => exact left

namespace World

/-- Whether no failure waits for an answer and the work is not over. -/
def isCalm (w : World) : Bool :=
  match w.control with
  | .recovering _ | .backingOff _ _ | .draining _ _ | .writing (.withdraw _ _ _) _ _
  | .finished _ => false
  | _ => true

/-- How the work ends, once this is settled. -/
def outcome? (w : World) : Option Result :=
  match w.control with
  | .draining _ result | .writing (.withdraw _ _ result) _ _ | .finished result => some result
  | _ => none

end World

/-- How an agent stands to the law of the budget. -/
inductive Ledger (max : Nat) (w : World) (marks : List Mark) : Prop where
  /-- Every failure was answered. -/
  | even (calm : w.isCalm = true) (tally : Tally max marks w.failures)
  | failed {done : List Mark} {cause : SessionFailure} (stands : w.control = .recovering cause)
      (tally : Tally max done w.failures) (shown : marks = done ++ [.failed cause])
  /-- A session is going to be asked for. -/
  | waiting {done : List Mark} {n wake : Nat} (cause : SessionFailure)
      (stands : w.control = .backingOff (n + 1) wake) (counted : w.failures = n + 1)
      (left : n + 1 ≤ max) (tally : Tally max done n)
      (shown : marks = done ++ reaction max (n + 1) cause)
  /-- The budget is used up. -/
  | spent {done : List Mark} {cause : SessionFailure} (outcome : w.outcome? = some (.error cause))
      (tally : Tally max done max) (shown : marks = done ++ [.failed cause])
  /-- A shutdown was asked for. -/
  | quit {done : List Mark} (rest : List Mark) {n : Nat} (asked : w.isShutdown = true)
      (stands : w.control = .looping ∨ w.outcome? = some (.ok ())) (tally : Tally max done n)
      (last : rest = [] ∨ ∃ cause, rest = [.failed cause] ∨ rest = reaction max (n + 1) cause)
      (shown : marks = done ++ rest)

section Ledger

variable {w : World} {act : Option Act} {m : Move} {marks : List Mark} {max : Nat}

theorem marked_publication {old new : Phase} (plain : ∀ attempt, new ≠ .recovering attempt) :
    (Move.publication old new).flatMap w.marked = [] := by
  unfold Move.publication
  split
  · rfl
  · cases new with
    | recovering attempt => exact absurd rfl (plain attempt)
    | _ => simp [World.marked]

/-- What a step is to the budget of an agent for which no failure waits. -/
inductive Counts (w v : World) : List Mark → Prop where
  | nothing (calm : v.isCalm = true) (same : v.failures = w.failures) : Counts w v []
  | handled (calm : v.isCalm = true) (anew : v.failures = 0) : Counts w v [.handled]
  | failed {cause : SessionFailure} (stands : v.control = .recovering cause)
      (same : v.failures = w.failures) : Counts w v [.failed cause]
  | drained (asked : v.isShutdown = true) (outcome : v.outcome? = some (.ok ())) : Counts w v []

theorem Counts.shown {v : World} {new : List Mark} (counts : Counts w v new) (same : marks = new) :
    Counts w v marks := by
  rw [same]
  exact counts

theorem Deed.counts (deed : Deed w act m) (calm : w.isCalm = true) :
    Counts w m.world (⟨w, act, m⟩ : Beat).marks := by
  cases deed with
  | take here unasked received | rest here unasked received =>
    refine .shown (.nothing rfl rfl) ?_
    simp [Beat.marks, Beat.failure?, Beat.isHandled, World.marked, here, received]
  | lose here unasked received =>
    refine .shown (.failed rfl rfl) ?_
    simp [Beat.marks, Beat.failure?, Beat.isHandled, here, received, unasked]
  | wake here | run here | installFirst here | offer here | retry here | drop here | timeOut here
  | started here =>
    refine .shown (.nothing rfl rfl) ?_
    simp [Beat.marks, Beat.failure?, Beat.isHandled, World.marked, World.isServing, here]
  | unstarted | opened =>
    refine .shown (.nothing rfl rfl) ?_
    simp [Beat.marks, Beat.failure?, Beat.isHandled, World.marked]
  | installNext here =>
    refine .shown (.nothing rfl rfl) ?_
    simp [Beat.marks, Beat.failure?, Beat.isHandled, World.marked, marked_publication, here]
  | refresh here carried =>
    refine .shown (.nothing rfl rfl) ?_
    simp [Beat.marks, Beat.failure?, Beat.isHandled, World.marked, Update.notice?,
      Update.needsAnswer, here, carried]
  | launch here carried request | refuse here carried request =>
    refine .shown (.nothing rfl rfl) ?_
    simp [Beat.marks, Beat.failure?, Beat.isHandled, World.marked, Update.notice?,
      Update.needsAnswer, here, carried, request]
  | heed here carried =>
    refine .shown (.failed rfl rfl) ?_
    simp [Beat.marks, Beat.failure?, Beat.isHandled, World.marked, Update.notice?, here, carried]
  | @ignore u here noToken noNotice noRequest =>
    have silent := u.needsAnswer_eq_false noToken noRequest
    have plain := Update.notice?_eq_none noNotice
    refine .shown (.handled rfl rfl) ?_
    simp [Beat.marks, Beat.failure?, Beat.isHandled, World.marked, silent, plain, here]
  | answerWritten here =>
    refine .shown (.handled rfl rfl) ?_
    simp [Beat.marks, Beat.failure?, Beat.isHandled, World.marked, here]
  | answerFailed here =>
    refine .shown (.failed rfl rfl) ?_
    simp [Beat.marks, Beat.failure?, Beat.isHandled, World.marked, here]
  | @offerWritten purpose i todo message deadline o here =>
    refine .shown (.nothing rfl rfl) ?_
    cases purpose <;>
      simp [Beat.marks, Beat.failure?, Beat.isHandled, World.marked, here]
  | offerFailed here ends setback =>
    cases setback with
    | recovering failure =>
      refine .shown (.failed rfl rfl) ?_
      simp [Beat.marks, Beat.failure?, Beat.isHandled, World.marked, here]
    | _ =>
      refine .shown (.nothing rfl rfl) ?_
      simp [Beat.marks, Beat.failure?, Beat.isHandled, World.marked, here]
  | unopened here setback =>
    cases setback with
    | recovering failure =>
      refine .shown (.failed rfl rfl) ?_
      simp [Beat.marks, Beat.failure?, Beat.isHandled, World.marked, here]
    | _ =>
      refine .shown (.nothing rfl rfl) ?_
      simp [Beat.marks, Beat.failure?, Beat.isHandled, World.marked, here]
  | @awaitSpace task message here =>
    rcases task with ⟨purpose, i, todo⟩ | _ | ⟨id, todo, result⟩
    · refine .shown (.nothing rfl rfl) ?_
      cases purpose <;> simp [Beat.marks, Beat.failure?, Beat.isHandled, here]
    · refine .shown (.nothing rfl rfl) ?_
      simp [Beat.marks, Beat.failure?, Beat.isHandled, here]
    · simp [World.isCalm, here] at calm
  | drain here asked =>
    refine .shown (.drained asked rfl) ?_
    simp [Beat.marks, Beat.failure?, Beat.isHandled, marked_publication, here, asked]
  | peer | shutDown | shutDownAgain | elapse =>
    refine .shown (.nothing calm rfl) ?_
    simp [Beat.marks, Beat.failure?, Beat.isHandled, World.marked]
  | _ => simp_all [World.isCalm]

theorem Ledger.even_deed (deed : Deed w act m) (calm : w.isCalm = true)
    (tally : Tally max marks w.failures) :
    Ledger max m.world (marks ++ (⟨w, act, m⟩ : Beat).marks) := by
  generalize (⟨w, act, m⟩ : Beat).marks = new, deed.counts calm = counts
  cases counts with
  | nothing calm same =>
    rw [List.append_nil]
    exact .even calm (same ▸ tally)
  | handled calm anew => exact .even calm (anew ▸ tally.handled)
  | failed stands same => exact .failed stands (same ▸ tally) rfl
  | drained asked outcome =>
    rw [List.append_nil]
    exact .quit [] asked (.inr outcome) tally (.inl rfl) (List.append_nil marks).symm

theorem marked_recovering {attempt : Nat} (change : w.phase ≠ .recovering attempt) :
    (Move.publication w.phase (.recovering attempt)).flatMap w.marked = [.recovering attempt] := by
  simp [Move.publication, change, World.marked]

theorem Ledger.failed_deed {cause : SessionFailure} (deed : Deed w act m) (sound : w.Phased)
    (countable : max < Text.word32Max)
    (measurable : ∀ n ≤ max, w.settings.backoff.times? n ≠ none)
    (budget : w.settings.maxAttempts.toNat = max)
    (stands : w.control = .recovering cause) (tally : Tally max marks w.failures) :
    Ledger max m.world (marks ++ [.failed cause] ++ (⟨w, act, m⟩ : Beat).marks) := by
  have fresh : w.phase ≠ .recovering (w.failures + 1) := by
    simp only [World.Phased, stands] at sound
    rcases sound with running | ⟨-, counted⟩
    · simp [running]
    · simp [counted]
  have within := tally.le
  cases deed with
  | miscount here large => omega
  | @mismeasure other here small left unasked later long =>
    exact absurd long (measurable _ (by omega))
  | @giveUp other here small exhausted =>
    obtain rfl : other = cause := by simpa [stands] using here.symm
    obtain rfl : w.failures = max := by omega
    refine .spent rfl tally ?_
    simp [Beat.marks, Beat.failure?, Beat.isHandled, World.marked, marked_publication, here]
  | @desist other here small left asked =>
    refine .quit _ asked (.inl rfl) tally (.inr ⟨cause, .inl rfl⟩) ?_
    simp [Beat.marks, Beat.failure?, Beat.isHandled, here]
  | @reopen other here left unasked first =>
    obtain rfl : other = cause := by simpa [stands] using here.symm
    refine .even rfl ?_
    have tally := tally.reopened (budget ▸ left) other
    simpa [Beat.marks, Beat.failure?, Beat.isHandled, World.marked, marked_recovering fresh, here,
      World.isServing, lost, reaction, budget] using tally
  | @backOff other pause here small left unasked later length =>
    obtain rfl : other = cause := by simpa [stands] using here.symm
    refine .waiting other rfl rfl (budget ▸ left) tally ?_
    simp [Beat.marks, Beat.failure?, Beat.isHandled, World.marked, marked_recovering fresh, here,
      lost, reaction, budget]
  | peer | shutDown | shutDownAgain | elapse =>
    refine .failed stands tally ?_
    simp [Beat.marks, Beat.failure?, Beat.isHandled, World.marked]
  | _ => simp_all

theorem Ledger.waiting_deed {n wake : Nat} {cause : SessionFailure} (deed : Deed w act m)
    (stands : w.control = .backingOff (n + 1) wake) (counted : w.failures = n + 1)
    (left : n + 1 ≤ max) (tally : Tally max marks n) :
    Ledger max m.world (marks ++ reaction max (n + 1) cause ++ (⟨w, act, m⟩ : Beat).marks) := by
  cases deed with
  | quitBackOff here asked =>
    refine .quit _ asked (.inl rfl) tally (.inr ⟨cause, .inr rfl⟩) ?_
    simp [Beat.marks, Beat.failure?, Beat.isHandled, here]
  | reopenLater here | reopenAnyway here =>
    refine .even rfl ?_
    have tally := tally.reopened left cause
    rw [← counted] at tally
    simpa [Beat.marks, Beat.failure?, Beat.isHandled, World.marked, World.isServing, here, counted]
      using tally
  | peer | shutDown | shutDownAgain | elapse =>
    refine .waiting cause stands counted left tally ?_
    simp [Beat.marks, Beat.failure?, Beat.isHandled, World.marked]
  | _ => simp_all

/-- Once it is settled how the work ends nothing counts any more. -/
theorem Deed.outcome?_eq {result : Result} (deed : Deed w act m)
    (outcome : w.outcome? = some result) :
    m.world.outcome? = some result ∧ (⟨w, act, m⟩ : Beat).marks = [] := by
  cases deed with
  | withdraw here | withdrawalWritten here | withdrawalFailed here | stop here =>
    refine ⟨by simpa [World.outcome?, here] using outcome, ?_⟩
    simp [Beat.marks, Beat.failure?, Beat.isHandled, World.marked, marked_publication, here]
  | @awaitSpace task message here =>
    cases task with
    | withdraw =>
      refine ⟨by simpa [World.outcome?, here] using outcome, ?_⟩
      simp [Beat.marks, Beat.failure?, Beat.isHandled, here]
    | _ => simp [World.outcome?, here] at outcome
  | peer | shutDown | shutDownAgain | elapse =>
    refine ⟨outcome, ?_⟩
    simp [Beat.marks, Beat.failure?, Beat.isHandled, World.marked]
  | _ => simp_all [World.outcome?]

theorem Ledger.quit_deed {rest : List Mark} {n : Nat} (deed : Deed w act m)
    (asked : w.isShutdown = true) (stands : w.control = .looping) (tally : Tally max marks n)
    (last : rest = [] ∨ ∃ cause, rest = [.failed cause] ∨ rest = reaction max (n + 1) cause) :
    Ledger max m.world (marks ++ rest ++ (⟨w, act, m⟩ : Beat).marks) := by
  cases deed with
  | drain here =>
    refine .quit rest asked (.inr rfl) tally last ?_
    simp [Beat.marks, Beat.failure?, Beat.isHandled, marked_publication, here, asked]
  | peer | shutDownAgain | elapse =>
    refine .quit rest asked (.inl stands) tally last ?_
    simp [Beat.marks, Beat.failure?, Beat.isHandled, World.marked]
  | _ => simp_all

theorem Ledger.deed {settings : Settings} {functions : List Function} (ledger : Ledger max w marks)
    (sound : Sound settings functions w) (budget : settings.maxAttempts.toNat = max)
    (countable : max < Text.word32Max) (measurable : ∀ n ≤ max, settings.backoff.times? n ≠ none)
    (deed : Deed w act m) : Ledger max m.world (marks ++ (⟨w, act, m⟩ : Beat).marks) := by
  obtain rfl := sound.settings
  cases ledger with
  | even calm tally => exact Ledger.even_deed deed calm tally
  | failed stands tally shown =>
    subst shown
    exact Ledger.failed_deed deed sound.phased countable measurable budget stands tally
  | waiting cause stands counted left tally shown =>
    subst shown
    exact Ledger.waiting_deed deed stands counted left tally
  | spent outcome tally shown =>
    obtain ⟨outcome, nothing⟩ := deed.outcome?_eq outcome
    exact .spent outcome tally (by rw [nothing, List.append_nil, shown])
  | quit rest asked stands tally last shown =>
    rcases stands with looping | outcome
    · subst shown
      exact Ledger.quit_deed deed asked looping tally last
    · obtain ⟨outcome, nothing⟩ := deed.outcome?_eq outcome
      exact .quit _ (deed.isShutdown_eq asked) (.inr outcome) tally last
        (by rw [nothing, List.append_nil, shown])

/-- Asking for sessions uses up the budget of what was handled, and no more. -/
theorem Tally.opened_le {n : Nat} (tally : Tally max marks n) :
    marks.countP Mark.isOpened ≤ max * marks.countP Mark.isHandled + n := by
  induction tally with
  | nil => simp
  | @handled marks n tally ih =>
    have within := tally.le
    simp only [List.countP_append, List.countP_singleton, Mark.isOpened, Mark.isHandled]
    rw [Nat.mul_add]
    simp
    omega
  | @reopened marks n tally left cause ih =>
    simp [List.countP_append, List.countP_cons, reaction, Mark.isOpened, Mark.isHandled]
    omega

/-- What is shown of a failure that is not answered yet is no session that is asked for. -/
theorem Tally.opened_le_append {n : Nat} (rest : List Mark) (tally : Tally max marks n)
    (idle : rest.countP Mark.isOpened = 0) :
    (marks ++ rest).countP Mark.isOpened ≤ max * ((marks ++ rest).countP Mark.isHandled + 1) := by
  have within := tally.le
  have paid := tally.opened_le
  have more : max * marks.countP Mark.isHandled ≤ max * (marks ++ rest).countP Mark.isHandled :=
    Nat.mul_le_mul_left max (by simp)
  rw [List.countP_append, idle, Nat.mul_add]
  omega

theorem Ledger.opened_le (ledger : Ledger max w marks) :
    marks.countP Mark.isOpened ≤ max * (marks.countP Mark.isHandled + 1) := by
  cases ledger with
  | even calm tally => simpa using tally.opened_le_append [] rfl
  | failed stands tally shown | spent outcome tally shown
  | waiting cause stands counted left tally shown => exact shown ▸ tally.opened_le_append _ rfl
  | quit rest asked stands tally last shown =>
    subst shown
    rcases last with rfl | ⟨cause, rfl | rfl⟩
    · exact tally.opened_le_append _ rfl
    · exact tally.opened_le_append _ rfl
    · exact tally.opened_le_append _ rfl

end Ledger

end Agent

end FunctionAgent
