import FunctionAgent.Proofs.Attempts
import FunctionAgent.Proofs.Delivery
import FunctionAgent.Proofs.Windup
/-!
# What is still done after a shutdown was asked for

From the request on nothing is begun any more: no update is taken, no session is asked for, and the
executor is only asked to start what the update in hand calls for. What is under way is carried
through. An update that was taken gets its answer before any function is withdrawn, and a session
that is being opened is taken into use if the functions can be offered on it. A pause is not waited
out. A pause that is over when the shutdown is asked for may still end in the session that it was
for: of the two ends of the pause the agent takes either.
-/

set_option autoImplicit false

namespace FunctionAgent.Agent

/-- The function that the executor was asked to start. -/
def Happening.started? : Happening → Option Function
  | .starting f _ => some f
  | _ => none

/-- The functions that the executor was asked to start in some steps. -/
def startsIn (beats : List Beat) : List Function :=
  beats.flatMap fun b => b.move.happened.filterMap Happening.started?

section Steps

variable {w v : World} {act : Option Act} {m : Move} {more : List Beat}
  {losses : List SessionFailure}

theorem Deed.takes_nothing (deed : Deed w act m) (asked : w.isShutdown = true) (i : Nat) :
    takenOn i [⟨w, act, m⟩] = [] := by
  rw [takenOn, signsOn_singleton]
  cases deed with
  | take here unasked => simp [asked] at unasked
  | unopened here setback =>
    simp [Beat.signs, Beat.heard, shown_setback setback]
  | offerFailed here ends setback =>
    simp [Beat.signs, Beat.heard, World.shown, here, shown_setback setback,
      -List.flatMap_eq_nil_iff]
  | _ => simp +contextual [Beat.signs, Beat.heard, World.shown, shown_publication, *]

theorem Deed.opens_nothing (deed : Deed w act m) (asked : w.isShutdown = true)
    (calm : act ≠ some .endPause) (serving : w.isServing = true ∨ w.control = .overflowed) :
    .opening ∉ m.happened := by
  cases deed with
  | reopen here left unasked | reopenLater here unasked => simp [asked] at unasked
  | reopenAnyway => exact absurd rfl calm
  | retry here => simp [World.isServing, here] at serving
  | unopened here setback | offerFailed here ends setback => cases setback <;> simp
  | _ => simp [Move.publication]

theorem started_publication (old new : Phase) :
    (Move.publication old new).filterMap Happening.started? = [] := by
  unfold Move.publication
  split <;> rfl

/-- The executor is asked for the update in hand, which is then in hand no more. -/
theorem Deed.starts (deed : Deed w act m) (asked : w.isShutdown = true) :
    (startsIn [⟨w, act, m⟩]).length + (m.world.inHand m.world.held).length
      ≤ (w.inHand w.held).length := by
  cases deed with
  | take here unasked => simp [asked] at unasked
  | unopened here setback | offerFailed here ends setback =>
    cases setback <;>
      simp [startsIn, Happening.started?, List.filterMap_cons, World.inHand, here]
  | peer | shutDown | shutDownAgain | elapse =>
    simp [startsIn, Happening.started?, List.filterMap_cons, World.inHand]
  | _ => simp_all [startsIn, Happening.started?, List.filterMap_cons, World.inHand,
      started_publication]

theorem Windup.held_eq (windup : Windup w losses v) (leaving : v.isWithdrawing = true) :
    v.held = w.heir losses := by
  rw [← outcome?_isSome] at leaving
  cases windup with
  | working since here => simp [outcome?_of_work here] at leaving
  | leaving outcome few held => exact held
  | failed stands | turning stands | overflowed stands | dropped stands =>
    simp [World.outcome?, stands] at leaving

/-- No time passes in a pause, or after it until the functions are withdrawn. -/
theorem Windup.prompt (windup : Windup w losses v) (pausing : w.work? = some .pausing)
    (working : v.isWithdrawing = false) : v.clock = w.clock := by
  cases windup with
  | working since here unharmed failures held next still =>
    rw [pausing] at since
    exact (still (Option.some.inj since).symm).2
  | turning stands few due held still => exact still pausing
  | failed stands undecided busy | overflowed stands busy => exact absurd pausing busy
  | leaving outcome => simp [isWithdrawing_of_outcome outcome] at working
  | dropped stands undriven =>
    rcases undriven with ready | dropped
    · simp [World.work?, ready] at pausing
    · simp [World.work?, dropped] at pausing

end Steps

section Course

variable {w v : World} {more : List Beat}

theorem startsIn_append (beats more : List Beat) :
    startsIn (beats ++ more) = startsIn beats ++ startsIn more := List.flatMap_append

theorem deliveredOn_append (i : Nat) (beats more : List Beat) :
    deliveredOn i (beats ++ more) = deliveredOn i beats ++ deliveredOn i more := List.flatMap_append

theorem handledOn_append (i : Nat) (beats more : List Beat) :
    handledOn i (beats ++ more) = handledOn i beats ++ handledOn i more := List.flatMap_append

theorem Course.takes_nothing (course : Course w more v) (asked : w.isShutdown = true) (i : Nat) :
    takenOn i more = [] := by
  induction course with
  | nil => rfl
  | @snoc u more act m course step ih =>
    have last := (deed_of_step step).takes_nothing (course.isShutdown_eq asked) i
    simp only [takenOn, signsOn_append, List.filterMap_append] at ih last ⊢
    rw [ih, last]
    rfl

/-- A session is asked for only at the end of a pause. -/
theorem Course.act_of_opening (course : Course w more v) (asked : w.isShutdown = true)
    (serving : w.isServing = true) :
    ∀ b ∈ more, .opening ∈ b.move.happened → b.act = some .endPause := by
  induction course with
  | nil => exact fun _ member => absurd member List.not_mem_nil
  | @snoc u more act m course step ih =>
    obtain ⟨start, rest, -, windup⟩ := course.winds_up asked serving
    refine forall_snoc ih fun opening => ?_
    by_cases calm : act = some .endPause
    · exact calm
    · have asked := course.isShutdown_eq asked
      exact absurd opening ((deed_of_step step).opens_nothing asked calm windup.serves)

theorem Course.starts (course : Course w more v) (asked : w.isShutdown = true) :
    (startsIn more).length + (v.inHand v.held).length ≤ (w.inHand w.held).length := by
  induction course with
  | nil => simp [startsIn]
  | @snoc u more act m course step ih =>
    have last := (deed_of_step step).starts (course.isShutdown_eq asked)
    rw [startsIn_append, List.length_append]
    omega

/-- A session that was asked for is waited for. -/
theorem Course.awaits {purpose : Purpose} (course : Course w more v)
    (stands : w.control = .opening purpose) :
    v.control = .opening purpose ∨ ∃ b ∈ more, ∃ answer, b.act = some (.answerOpen answer) := by
  induction course with
  | nil => exact .inl stands
  | @snoc u more act m course step ih =>
    have last : ⟨u, act, m⟩ ∈ more ++ [⟨u, act, m⟩] := List.mem_append_right more List.mem_cons_self
    rcases ih with waiting | ⟨b, member, answered⟩
    · cases deed_of_step step with
      | opened | unopened => exact .inr ⟨_, last, _, rfl⟩
      | peer | shutDown | shutDownAgain | elapse => exact .inl waiting
      | _ => simp_all
    · exact .inr ⟨b, List.mem_append_left _ member, answered⟩

end Course

/-- The sessions that an agent `w` asks for when a shutdown was asked for, and the one on which it
withdraws its functions. -/
inductive Opens (w : World) (more : List Beat) (v : World) : Prop where
  /-- It asks for none. The functions are withdrawn on the session that was about to be taken into
  use, if this succeeds, and otherwise on the one in use. A pause is not waited out. -/
  | none (unopened : ∀ b ∈ more, .opening ∉ b.move.happened)
      (replaced : v.isWithdrawing = true → ∀ i, w.next? = some i → w.losses more = [] → v.held = i)
      (kept : v.isWithdrawing = true → w.next? = none ∨ w.losses more ≠ [] → v.held = w.held)
      (prompt : w.work? = some .pausing → v.isWithdrawing = false → v.clock = w.clock)
  /-- It asks for the one for which it made a pause, as the pause is over, and then for no other.
  The functions are withdrawn on it, if it can be taken into use, and otherwise on the one in use. -/
  | one {before after : List Beat} {b : Beat} (parts : more = before ++ b :: after)
      (past : w.isPauseOver = true) (opening : .opening ∈ b.move.happened)
      (control : b.before.control = w.control) (clock : b.before.clock = w.clock)
      (others : ∀ x ∈ before ++ after, .opening ∉ x.move.happened)
      (awaited : (∃ purpose, v.control = .opening purpose) ∨
        ∃ x ∈ after, ∃ answer, x.act = some (.answerOpen answer))
      (replaced : v.isWithdrawing = true → w.losses more = [] → v.held = b.before.sessions.length)
      (kept : v.isWithdrawing = true → w.losses more ≠ [] → v.held = w.held)

/-- What an agent does after a shutdown was asked for, from the state `w` on in which it was. -/
structure Cooperation (functions : List Function) (settings : Settings) (beats : List Beat)
    (w : World) (more : List Beat) (v : World) : Prop where
  untaken : ∀ i, takenOn i more = []
  /-- What waits on a session stays there. -/
  waiting : ∀ i, v.waiting i = w.waiting i ++ deliveredOn i more
  /-- Only the update in hand is handled. -/
  handled : ∀ i, handledOn i more ++ v.inHand i = w.inHand i
  /-- The executor is asked at most for the update in hand. -/
  starts : (startsIn more).length ≤ (w.inHand w.held).length
  opens : Opens w more v
  /-- A session that was asked for is waited for. -/
  awaited : ∀ purpose, w.control = .opening purpose →
    v.control = .opening purpose ∨ ∃ b ∈ more, ∃ answer, b.act = some (.answerOpen answer)
  /-- When the agent sets out to withdraw its functions, every update that it took has been through
  the whole of its exchange. -/
  answered : v.isWithdrawing = true →
    ∃ (exchanges : List (List Sign)) (withdrawals : List Sign) (done : List Message),
      (∀ exchange ∈ exchanges,
        Exchange (.onOffer functions) settings.dispatchTimeout exchange) ∧
      withdrawals.map Sign.message? = done.map some ∧
      done <+: (Roster.onOffer functions).announcements .offline ∧
      signsOn v.held (beats ++ more) =
        ((Roster.onOffer functions).announcements .online).map .accepted ++ exchanges.flatten
          ++ .withdrawing :: withdrawals
  /-- The agent needs nobody for coming to its end, once it is driven and has been answered, and no
  pause is over that may still end in a session. -/
  ends : v.isPauseOver = false → v.control ≠ .ready → v.control ≠ .dropped →
    (∀ purpose, v.control ≠ .opening purpose) → v.Comes fun u => u.isOver = true

section Opening

variable {w v : World} {more : List Beat} {losses : List SessionFailure}

/-- The session that is about to be taken into use is taken, unless the agent fails. -/
theorem Windup.held_of_next {i : Nat} (windup : Windup w losses v) (leaving : v.isWithdrawing = true)
    (next : w.next? = some i) (unharmed : losses = []) : v.held = i := by
  have held := windup.held_eq leaving
  rw [unharmed, World.heir, next] at held
  exact held

theorem Windup.held_of_kept (windup : Windup w losses v) (leaving : v.isWithdrawing = true)
    (other : w.next? = none ∨ losses ≠ []) : v.held = w.held := by
  have held := windup.held_eq leaving
  cases losses with
  | cons cause rest => exact held
  | nil =>
    have unreplaced : w.next? = none := other.resolve_right fun harmed => harmed rfl
    rw [World.heir, unreplaced] at held
    exact held

theorem Course.opens (course : Course w more v) (asked : w.isShutdown = true)
    (serving : w.isServing = true) : Opens w more v := by
  have opening := course.act_of_opening asked serving
  obtain ⟨u, rest, outset, windup⟩ := course.winds_up asked serving
  have same := outset.losses_eq
  cases outset with
  | here calm =>
    refine .none (fun b member asks => calm b member (opening b member asks))
      (fun leaving i => windup.held_of_next leaving) windup.held_of_kept windup.prompt
  | @reopening first rest b reopening unharmed before after =>
    obtain ⟨attempt, world⟩ := reopening.world
    have stands : b.move.world.control = .opening (.recover attempt) := by rw [world]
    have next : b.move.world.next? = some b.before.sessions.length := by
      simp [world, World.next?]
    have held : b.move.world.held = w.held := by
      rw [world]
      exact reopening.held
    obtain ⟨-, -, later⟩ := course.around
    refine .one rfl reopening.past reopening.asks reopening.control reopening.clock ?_ ?_ ?_ ?_
    · intro x member asks
      rcases List.mem_append.1 member with earlier | later
      · exact before x earlier (opening x (List.mem_append_left _ earlier) asks)
      · exact after x later
          (opening x (List.mem_append_right _ (List.mem_cons_of_mem b later)) asks)
    · exact (later.awaits stands).imp_left fun waiting => ⟨_, waiting⟩
    · rw [same] at windup
      exact fun leaving => windup.held_of_next leaving next
    · rw [same] at windup
      exact fun leaving harmed => (windup.held_of_kept leaving (.inr harmed)).trans held

end Opening

section Career

variable {settings : Settings} {functions : List Function} {entry : Entry} {beats more : List Beat}
  {w v : World}

/-- What was seen of the session on which the functions are being withdrawn. -/
theorem Career.signs_withdrawing (career : Career settings functions entry beats w)
    (leaving : w.isWithdrawing = true) :
    ∃ (exchanges : List (List Sign)) (withdrawals : List Sign) (done : List Message),
      (∀ exchange ∈ exchanges,
        Exchange (.onOffer functions) settings.dispatchTimeout exchange) ∧
      withdrawals.map Sign.message? = done.map some ∧
      done <+: (Roster.onOffer functions).announcements .offline ∧
      signsOn w.held beats =
        ((Roster.onOffer functions).announcements .online).map .accepted ++ exchanges.flatten
          ++ .withdrawing :: withdrawals := by
  have serves : w.isServing = true ∧ w.offered? = none := by
    unfold World.isWithdrawing at leaving
    split at leaving <;> simp_all [World.isServing, World.offered?]
  obtain ⟨serving, unoffered⟩ := serves
  cases career.stage w.held with
  | @withdrawing exchanges withdrawals done held leaving whole tried parts shown =>
    exact ⟨exchanges, withdrawals, done, whole, tried, ⟨_, parts⟩, shown⟩
  | unopened later => exact absurd (career.sound.standing.used serving) (Nat.not_lt.2 later)
  | offering _ held => simp [unoffered] at held
  | serving _ _ held serving working => simp [leaving] at working
  | left known shuns => exact absurd rfl (shuns.unused serving)

/-- Every agent that was asked to shut down does so in this way. -/
theorem Career.cooperates (career : Career settings functions entry beats w)
    (asked : w.isShutdown = true) (serving : w.isServing = true) (course : Course w more v) :
    Cooperation functions settings beats w more v := by
  have whole : Career settings functions entry (beats ++ more) v := career.append course
  have untaken := course.takes_nothing asked
  have taken (i : Nat) : takenOn i (beats ++ more) = takenOn i beats := by
    have last := untaken i
    simp only [takenOn] at last ⊢
    rw [signsOn_append, List.filterMap_append, last, List.append_nil]
  refine
    { untaken
      waiting := fun i => ?_
      handled := fun i => ?_
      starts := Nat.le_of_add_right_le (course.starts asked)
      opens := course.opens asked serving
      awaited := fun purpose => course.awaits
      answered := whole.signs_withdrawing
      ends := course.ends asked serving }
  · have same : takenOn i beats ++ v.waiting i
        = takenOn i beats ++ (w.waiting i ++ deliveredOn i more) := by
      rw [← taken, whole.taken_append_waiting, deliveredOn_append, ← career.taken_append_waiting,
        taken, List.append_assoc]
    exact List.append_cancel_left same
  · have same : handledOn i beats ++ (handledOn i more ++ v.inHand i)
        = handledOn i beats ++ w.inHand i := by
      rw [← List.append_assoc, ← handledOn_append, ← whole.taken_eq, taken, career.taken_eq]
    exact List.append_cancel_left same

/-- A run in which a shutdown is asked for while a session is opened in the stead of a lost one; the
session is opened, and an update comes on it. -/
def changeover : Option (List Beat × Beat × List Beat × World) :=
  (World.create .standard [default] .start).world.replayAsked
    [some (.answerOpen (.ok (.start "first" default))), none, none, none, some .run,
      some (.peer 0 (.endFeed .completed)), none, none]
    [some (.answerOpen (.ok (.start "second" default))),
      some (.peer 1 (.deliver ⟨0, 0, "", some (.token ⟨"third"⟩)⟩)), none, none, none, none, none,
      none, none]

theorem cooperates_in_changeover :
    ∃ beats w more v, Career .standard [default] .start beats w ∧ w.isShutdown = true ∧
      w.isServing = true ∧ w.next? = some 1 ∧ Course w more v ∧ v.isFinished = true ∧
      v.held = 1 ∧ v.waiting 1 = [⟨0, 0, "", some (.token ⟨"third"⟩)⟩] ∧
      acceptedOn 1 more = [.announce default .online, .announce default .offline] ∧
      Cooperation [default] .standard beats w more v := by
  have played : changeover.map (fun (_, b, more, v) =>
      ((b.move.world.isShutdown, b.move.world.isServing, b.move.world.next?),
        (v.isFinished, v.held, v.waiting 1), acceptedOn 1 more)) =
      some ((true, true, some 1), (true, 1, [⟨0, 0, "", some (.token ⟨"third"⟩)⟩]),
        [.announce default .online, .announce default .offline]) := by
    decide +kernel
  obtain ⟨⟨before, b, more, v⟩, replayed, seen⟩ := Option.map_eq_some_iff.1 played
  simp only [Prod.mk.injEq] at seen
  obtain ⟨⟨asked, serving, next⟩, ⟨finished, held, waiting⟩, accepted⟩ := seen
  obtain ⟨earlier, step, later⟩ := (Course.of_replayAsked replayed).1.around
  have career : Career .standard [default] .start (before ++ [b]) b.move.world :=
    earlier.snoc step
  exact ⟨before ++ [b], b.move.world, more, v, career, asked, serving, next, later, finished, held,
    waiting, accepted, career.cooperates asked serving later⟩

/-- A run in which a shutdown is asked for as the pause before a second attempt is over; the session
is still asked for. -/
def overduePause : Option (List Beat × Beat × List Beat × World) :=
  (World.create .standard [default] .start).world.replayAsked
    [some (.answerOpen (.ok (.start "first" default))), none, none, none, some .run,
      some (.peer 0 (.endFeed .completed)), none, none,
      some (.answerOpen (.error (.connection "refused"))), none, some (.elapse 2000)]
    [some .endPause]

/-- A run in which a shutdown is asked for while a session is opened in the stead of a lost one; the
session is opened, and the broker reads nothing from it. -/
def deafChangeover : Option (List Beat × Beat × List Beat × World) :=
  (World.create .standard [default] .start).world.replayAsked
    [some (.answerOpen (.ok (.start "first" default))), none, none, none, some .run,
      some (.peer 0 (.endFeed .completed)), none, none]
    [some (.answerOpen (.ok (.start "second" default))), some (.peer 1 (.outbound .shut)), none,
      none, none, none]

theorem opens_after_pause :
    ∃ before b more v, Career .standard [default] .start (before ++ b :: more) v ∧
      b.act = some .requestShutdown ∧ b.before.isServing = true ∧
      ∃ x ∈ more, .opening ∈ x.move.happened := by
  have played : overduePause.map (fun (_, b, more, _) => (b.before.isServing, more.any Beat.opens))
      = some (true, true) := by decide +kernel
  obtain ⟨⟨before, b, more, v⟩, replayed, seen⟩ := Option.map_eq_some_iff.1 played
  simp only [Prod.mk.injEq] at seen
  obtain ⟨serving, opened⟩ := seen
  obtain ⟨course, request⟩ := Course.of_replayAsked replayed
  obtain ⟨x, member, opens⟩ := List.any_eq_true.1 opened
  exact ⟨before, b, more, v, course, request, serving, x, member, x.opens_iff.1 opens⟩

theorem keeps_session_for_deaf_one :
    ∃ before b more v, Career .standard [default] .start (before ++ b :: more) v ∧
      b.act = some .requestShutdown ∧ b.before.next? = some 1 ∧
      (∃ x ∈ more, ∃ session, x.act = some (.answerOpen (.ok session))) ∧
      v.isWithdrawing = true ∧ v.held = 0 := by
  have played : deafChangeover.map (fun (_, b, more, v) => (b.before.next?, v.isWithdrawing, v.held,
      more.any fun x => x.answer?.any Except.isOk)) = some (some 1, true, 0, true) := by
    decide +kernel
  obtain ⟨⟨before, b, more, v⟩, replayed, seen⟩ := Option.map_eq_some_iff.1 played
  simp only [Prod.mk.injEq] at seen
  obtain ⟨next, leaving, held, answered⟩ := seen
  obtain ⟨course, request⟩ := Course.of_replayAsked replayed
  obtain ⟨x, member, opens⟩ := List.any_eq_true.1 answered
  exact ⟨before, b, more, v, course, request, next, ⟨x, member, x.isOk_answer?_iff.1 opens⟩,
    leaving, held⟩

/-- It is not so that an agent asks for no session any more once a shutdown was asked for; nor are
its functions always withdrawn on a session that it is given after that. -/
theorem may_begin_anew :
    (¬ ∀ (settings : Settings) (functions : List Function) (entry : Entry) (before : List Beat)
        (b : Beat) (more : List Beat) (v : World),
      Career settings functions entry (before ++ b :: more) v → b.act = some .requestShutdown →
        b.before.isServing = true → ∀ x ∈ more, .opening ∉ x.move.happened) ∧
    ¬ ∀ (settings : Settings) (functions : List Function) (entry : Entry) (before : List Beat)
        (b : Beat) (more : List Beat) (v : World) (i : Nat),
      Career settings functions entry (before ++ b :: more) v → b.act = some .requestShutdown →
        b.before.next? = some i →
          (∃ x ∈ more, ∃ session, x.act = some (.answerOpen (.ok session))) →
            v.isWithdrawing = true → v.held = i := by
  constructor
  · intro unopened
    obtain ⟨before, b, more, v, career, request, serving, x, member, opens⟩ := opens_after_pause
    exact unopened _ _ _ before b more v career request serving x member opens
  · intro replaced
    obtain ⟨before, b, more, v, career, request, next, opened, leaving, held⟩ :=
      keeps_session_for_deaf_one
    have other := replaced _ _ _ before b more v 1 career request next opened leaving
    simp [held] at other

end Career

end FunctionAgent.Agent
