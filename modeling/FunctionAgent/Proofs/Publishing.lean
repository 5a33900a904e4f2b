import FunctionAgent.Proofs.Withdrawal
/-!
# The phases that are published

Whoever watches an agent sees the phases that it publishes. They follow one another as `Phase.Next`
allows: a step leaves the phase as it is and shows nothing of it, or changes it by one such step and
tells of the change just then (`Tells`). What is told in a whole run is the `Story` of these
changes. A phase also says how far the work has come: an agent that publishes itself as running has
all its functions on offer on the session in use, and one that has stopped has tried to withdraw
each of them and has closed its session.
-/

set_option autoImplicit false

namespace FunctionAgent.Agent

/-- How a phase may follow another, with a budget of `max` recoveries in a row. -/
inductive Phase.Next (max : Nat) : Phase → Phase → Prop where
  | lost {attempt : Nat} (positive : 0 < attempt) (left : attempt ≤ max) :
      Next max .running (.recovering attempt)
  | again {attempt : Nat} (left : attempt + 1 ≤ max) :
      Next max (.recovering attempt) (.recovering (attempt + 1))
  | reopened (attempt : Nat) : Next max (.recovering attempt) .running
  | leaving : Next max .running .shuttingDown
  | leavingLost (attempt : Nat) : Next max (.recovering attempt) .shuttingDown
  | stopped : Next max .shuttingDown .stopped

/-- What is told of a change of the phase: the new phase, and a report of both. -/
def Phase.news (old new : Phase) : List Happening :=
  [.published new,
    .report .debug "Launcher state changed" [("from", old.render), ("to", new.render)]]

/-- Whether a happening tells of a change of the phase. -/
def Happening.tellsPhase : Happening → Bool
  | .published _ => true
  | .logged event => event.message == "Launcher state changed"
  | _ => false

/-- What some steps told of changes of the phase. -/
def tidings (beats : List Beat) : List Happening :=
  beats.flatMap fun b => b.move.happened.filter Happening.tellsPhase

/-- What is told when the phases follow one another from the first on, and the last of them. -/
inductive Story (max : Nat) : List Happening → Phase → Prop where
  | begin : Story max [] .running
  | next {tidings : List Happening} {old new : Phase} (story : Story max tidings old)
      (change : Phase.Next max old new) : Story max (tidings ++ old.news new) new

/-- What a step tells: nothing while the phase stays the same, and else the change. -/
inductive Tells (max : Nat) (b : Beat) : Prop where
  | nothing (same : b.move.world.phase = b.before.phase) (untold : tidings [b] = [])
  | change (next : Phase.Next max b.before.phase b.move.world.phase)
      (told : tidings [b] = b.before.phase.news b.move.world.phase)

/-- Whether an agent counts as running for whoever watches it. -/
def World.isRunning (w : World) : Bool := w.phase != .stopped

section Phases

variable {max : Nat} {old new : Phase} {told : List Happening}

theorem Phase.Next.ne (next : Phase.Next max old new) : old ≠ new := by
  cases next <;> simp

/-- An agent that has stopped is never anything else. -/
theorem Phase.Next.not_from_stopped : ¬Phase.Next max .stopped new := by
  intro next
  cases next

/-- The number of a recovery is within the budget. -/
theorem Phase.Next.counted {attempt : Nat} (next : Phase.Next max old (.recovering attempt)) :
    0 < attempt ∧ attempt ≤ max := by
  cases next with
  | lost positive left => exact ⟨positive, left⟩
  | again left => exact ⟨Nat.succ_pos _, left⟩

/-- The number of every recovery that is told of, or that is on its way, is within the budget. -/
theorem Story.counted (story : Story max told new) {attempt : Nat} :
    (.published (.recovering attempt) ∈ told ∨ new = .recovering attempt) →
      0 < attempt ∧ attempt ≤ max := by
  induction story with
  | begin => simp
  | @next before old new story change ih =>
    rintro (member | rfl)
    · rcases List.mem_append.1 member with earlier | last
      · exact ih (.inl earlier)
      · simp only [Phase.news, List.mem_cons, Happening.published.injEq, reduceCtorEq,
          List.not_mem_nil, or_false] at last
        subst last
        exact change.counted
    · exact change.counted

/-- It is told that the agent has stopped just if it has. -/
theorem Story.stopped_iff (story : Story max told new) :
    .published .stopped ∈ told ↔ new = .stopped := by
  induction story with
  | begin => simp
  | @next before old new story change ih =>
    have unstopped : old ≠ .stopped := by
      rintro rfl
      exact change.not_from_stopped
    rw [List.mem_append, ih]
    simp [unstopped, Phase.news, eq_comm]

end Phases

section Deeds

variable {settings : Settings} {functions : List Function} {w : World} {act : Option Act} {m : Move}

theorem tidings_append (beats more : List Beat) :
    tidings (beats ++ more) = tidings beats ++ tidings more := List.flatMap_append

theorem tidings_singleton (b : Beat) :
    tidings [b] = b.move.happened.filter Happening.tellsPhase := List.append_nil _

theorem Move.publication_of_ne {old new : Phase} (changed : old ≠ new) :
    publication old new = old.news new := if_neg changed

theorem filter_news (old new : Phase) :
    (old.news new).filter Happening.tellsPhase = old.news new := rfl

theorem setback_untold {clock : Nat} {purpose : Purpose} {failure : SessionFailure}
    {control : Control} {reports : List Happening}
    (setback : Setback settings clock purpose failure control reports) :
    reports.filter Happening.tellsPhase = [] := by
  cases setback <;> rfl

/-- A step that publishes a phase tells of the change, whatever else it reports. -/
theorem Tells.of_publication {max : Nat} {b : Beat} (before after : List Happening)
    (next : Phase.Next max b.before.phase b.move.world.phase)
    (happened : b.move.happened
      = before ++ Move.publication b.before.phase b.move.world.phase ++ after)
    (first : before.filter Happening.tellsPhase = [])
    (last : after.filter Happening.tellsPhase = []) : Tells max b := by
  refine .change next ?_
  rw [tidings_singleton, happened, List.filter_append, List.filter_append, first, last,
    Move.publication_of_ne next.ne, filter_news, List.nil_append, List.append_nil]

/-- The phase of an agent that has just lost its stream. -/
theorem next_recovering {cause : SessionFailure} (sound : Sound settings functions w)
    (here : w.control = .recovering cause)
    (left : w.failures + 1 ≤ w.settings.maxAttempts.toNat) :
    Phase.Next settings.maxAttempts.toNat w.phase (.recovering (w.failures + 1)) := by
  have phased := sound.phased
  rw [sound.settings] at left
  simp only [World.Phased, here] at phased
  rcases phased with running | ⟨-, recovering⟩
  · rw [running]
    exact .lost (Nat.succ_pos _) left
  · rw [recovering]
    exact .again left

/-- What a step tells of the phase. -/
theorem Deed.tells (deed : Deed w act m) (sound : Sound settings functions w) :
    Tells settings.maxAttempts.toNat ⟨w, act, m⟩ := by
  have phased := sound.phased
  cases deed with
  | installNext here =>
    simp only [World.Phased, here] at phased
    refine .of_publication [_] [_] ?_ rfl rfl rfl
    rw [phased.2.2]
    exact .reopened _
  | drain here =>
    simp only [World.Phased, here] at phased
    refine .of_publication [] [] ?_ (List.append_nil _).symm rfl rfl
    rcases phased with running | ⟨-, attempt, recovering⟩
    · rw [running]
      exact .leaving
    · rw [recovering]
      exact .leavingLost attempt
  | giveUp here =>
    simp only [World.Phased, here] at phased
    refine .of_publication [_] [] ?_ (List.append_nil _).symm rfl rfl
    rcases phased with running | ⟨-, recovering⟩
    · rw [running]
      exact .leaving
    · rw [recovering]
      exact .leavingLost _
  | stop here =>
    simp only [World.Phased, here] at phased
    refine .of_publication [_] [_] ?_ rfl rfl rfl
    rw [phased]
    exact .stopped
  | reopen here left =>
    exact .of_publication [] _ (next_recovering sound here left) rfl rfl rfl
  | mismeasure here small left | backOff here small left =>
    exact .of_publication [] _ (next_recovering sound here left) rfl rfl rfl
  | unopened here setback =>
    exact .nothing rfl ((tidings_singleton _).trans (setback_untold setback))
  | offerFailed here ends setback =>
    refine .nothing rfl ((tidings_singleton _).trans ?_)
    exact (List.filter_append ..).trans (setback_untold setback)
  | _ => exact .nothing rfl rfl

theorem World.isFinished_iff : w.isFinished = true ↔ ∃ result, w.control = .finished result := by
  constructor
  · intro finished
    unfold World.isFinished at finished
    split at finished
    · rename_i result here
      exact ⟨result, here⟩
    · contradiction
  · rintro ⟨result, here⟩
    simp [World.isFinished, here]

/-- An agent that has withdrawn every function has stopped and has closed its session. -/
theorem Sound.finished (sound : Sound settings functions w) (finished : w.isFinished = true) :
    w.isWithdrawing = true ∧ w.phase = .stopped ∧ (w.session w.held).isClosed = true := by
  obtain ⟨result, here⟩ := World.isFinished_iff.1 finished
  have phased := sound.phased
  have known := sound.standing.used (by simp [World.isServing, here])
  refine ⟨by simp [World.isWithdrawing, here], ?_, ?_⟩
  · simpa only [World.Phased, here] using phased
  · exact sound.standing.closed w.held known (by simp [World.open?, here])

/-- Only an agent that has withdrawn every function stops. -/
theorem Deed.stops (deed : Deed w act m) (told : .published .stopped ∈ m.happened) :
    m.world.isFinished = true := by
  cases deed with
  | stop => rfl
  | unopened here setback | offerFailed here ends setback => cases setback <;> simp at told
  | _ => simp [Move.publication] at told

/-- Whether the agent is running from a step on and was not before: it is published, or the agent is
just started. -/
def Beat.startsRunning (b : Beat) : Prop :=
  .published .running ∈ b.move.happened ∨
    b.before.control ≠ .ready ∧ b.move.world.control = .ready

/-- An agent is running when it takes a session into use on which every function was offered. -/
theorem Deed.installs (deed : Deed w act m) (starts : (⟨w, act, m⟩ : Beat).startsRunning) :
    ∃ purpose i, w.control = .offering purpose i [] ∧ m.world.held = i ∧
      (⟨w, act, m⟩ : Beat).signs i = [] := by
  cases deed with
  | installFirst here =>
    exact ⟨_, _, here, rfl, by simp [Beat.signs, Beat.heard, World.shown, here]⟩
  | installNext here =>
    refine ⟨_, _, here, rfl, ?_⟩
    simp [Beat.signs, Beat.heard, World.shown, shown_publication, here]
  | unopened here setback | offerFailed here ends setback =>
    cases setback <;> simp [Beat.startsRunning] at starts
  | peer | elapse | shutDown | shutDownAgain =>
    rcases starts with published | ⟨fresh, ready⟩
    · simp at published
    · exact absurd ready fresh
  | _ => simp [Beat.startsRunning, Move.publication] at starts

end Deeds

/-- How an agent publishes its phases. -/
structure Publishing (functions : List Function) (max : Nat) (beats : List Beat) (w : World) :
    Prop where
  /-- The phases follow one another from the first on, and every change is told as it is made. -/
  story : Story max (tidings beats) w.phase
  steps : ∀ b ∈ beats, Tells max b
  /-- The number of every recovery that is published is within the budget. -/
  counted : ∀ attempt, .published (.recovering attempt) ∈ tidings beats →
    0 < attempt ∧ attempt ≤ max
  running : w.isRunning = false ↔ .published .stopped ∈ tidings beats
  /-- An agent that has stopped is never anything else. -/
  final : ∀ before b after, beats = before ++ b :: after →
    .published .stopped ∈ b.move.happened → tidings after = [] ∧ w.isRunning = false
  /-- Before it stops the agent tries to withdraw every function and closes its session. -/
  withdrawn : ∀ before b after, beats = before ++ b :: after →
    .published .stopped ∈ b.move.happened →
      ∃ (first : List Happening) (tries : List Try),
        noticed (before ++ [b]) = first ++
          (.published .shuttingDown
            :: (tries.map fun t => .written b.move.world.held t.1 t.2)
            ++ [.closed b.move.world.held, .published .stopped]) ∧
        tries.map Prod.fst = (Roster.onOffer functions).announcements .offline ∧
        (b.move.world.session b.move.world.held).isClosed = true
  /-- Whenever the agent is published as running, the session in use has accepted every function. -/
  offered : ∀ before b after, beats = before ++ b :: after → b.startsRunning →
    acceptedOn b.move.world.held (before ++ [b]) = (Roster.onOffer functions).announcements .online

section Career

variable {settings : Settings} {functions : List Function} {entry : Entry} {beats : List Beat}
  {w v : World}

theorem Career.story (career : Career settings functions entry beats w) :
    Story settings.maxAttempts.toNat (tidings beats) w.phase := by
  refine career.told (P := fun beats w => Story _ (tidings beats) w.phase)
    (sound_create settings functions entry) (fun _ _ _ sound deed => sound.deed deed) .begin
    (fun beats v act m sound story deed => ?_)
  rw [tidings_append]
  cases deed.tells sound with
  | nothing same untold =>
    rw [untold, List.append_nil]
    exact same ▸ story
  | change next told =>
    rw [told]
    exact story.next next

/-- Nothing more is told of an agent that has stopped. -/
theorem Course.stays_stopped (course : Course w beats v) (sound : Sound settings functions w)
    (stopped : w.phase = .stopped) : tidings beats = [] ∧ v.phase = .stopped := by
  refine course.told (P := fun beats v => tidings beats = [] ∧ v.phase = .stopped) sound
    (fun _ _ _ sound deed => sound.deed deed) ⟨rfl, stopped⟩ (fun beats v act m sound ih deed => ?_)
  obtain ⟨silent, stopped⟩ := ih
  cases deed.tells sound with
  | nothing same untold =>
    refine ⟨?_, same.trans stopped⟩
    rw [tidings_append, silent, untold]
    rfl
  | change next told =>
    rw [show (⟨v, act, m⟩ : Beat).before.phase = .stopped from stopped] at next
    exact absurd next Phase.Next.not_from_stopped

/-- A session on which every function was offered has accepted them all. -/
theorem Career.accepted_whole {purpose : Purpose} {i : Nat}
    (career : Career settings functions entry beats w)
    (here : w.control = .offering purpose i []) :
    acceptedOn i beats = (Roster.onOffer functions).announcements .online := by
  have offered : w.offered? = some i := by simp [World.offered?, here]
  have none : w.remaining = [] := by simp [World.remaining, here]
  rw [← career.accepted_append_remaining offered, none, List.append_nil]

/-- What is noticed of an agent by the time at which it has withdrawn every function. -/
theorem Career.noticed_finished (career : Career settings functions entry beats w)
    (finished : w.isFinished = true) :
    ∃ (first : List Happening) (tries : List Try),
      noticed beats = first ++
        (.published .shuttingDown :: (tries.map fun t => .written w.held t.1 t.2)
          ++ [.closed w.held, .published .stopped]) ∧
      tries.map Prod.fst = (Roster.onOffer functions).announcements .offline := by
  cases career.parting with
  | working working => simp [(career.sound.finished finished).1] at working
  | @leaving before after b result tries leaving once withdrawal =>
    refine ⟨noticed before, tries, ?_, ?_⟩
    · rw [noticed_append, withdrawal.shown, finished]
      rfl
    · rw [← withdrawal.order, withdrawal.ended finished, List.append_nil]

/-- Every agent publishes its phases in this way. -/
theorem Career.publishing (career : Career settings functions entry beats w) :
    Publishing functions settings.maxAttempts.toNat beats w where
  story := career.story
  steps := by
    intro b member
    obtain ⟨before, after, rfl⟩ := List.append_of_mem member
    obtain ⟨earlier, step, -⟩ := career.around
    exact (deed_of_step step).tells (Career.sound earlier)
  counted := fun attempt member => career.story.counted (.inl member)
  running := by
    rw [career.story.stopped_iff]
    simp [World.isRunning]
  final := by
    rintro before b after rfl told
    obtain ⟨earlier, step, later⟩ := career.around
    have deed := deed_of_step step
    have sound := (Career.sound earlier).deed deed
    obtain ⟨-, stopped, -⟩ := sound.finished (deed.stops told)
    obtain ⟨silent, last⟩ := later.stays_stopped sound stopped
    exact ⟨silent, by simp [World.isRunning, last]⟩
  withdrawn := by
    rintro before b after rfl told
    obtain ⟨earlier, step, -⟩ := career.around
    have reached : Career settings functions entry (before ++ [b]) b.move.world :=
      earlier.snoc step
    have finished := (deed_of_step step).stops told
    obtain ⟨first, tries, shown, all⟩ := reached.noticed_finished finished
    exact ⟨first, tries, shown, all, (reached.sound.finished finished).2.2⟩
  offered := by
    rintro before b after rfl starts
    obtain ⟨earlier, step, -⟩ := career.around
    obtain ⟨purpose, i, here, held, unseen⟩ := (deed_of_step step).installs starts
    rw [held, acceptedOn_append, Career.accepted_whole earlier here]
    simp [acceptedOn, signsOn_singleton, unseen]

/-- A run in which the stream ends, the next session is refused and the one after it is opened, and
then a shutdown is asked for. -/
def comeback : List (Option Act) :=
  [some (.answerOpen (.ok (.start "first" default))), none, none, none, some .run,
    some (.peer 0 (.endFeed .completed)), none, none,
    some (.answerOpen (.error (.connection "refused"))), none, some (.elapse 2000), none,
    some (.answerOpen (.ok (.start "second" default))), none, none, none,
    some .requestShutdown, none, none, none, none]

theorem publishing_in_comeback :
    ∃ beats w, Career .standard [default] .start beats w ∧ w.isRunning = false ∧
      (tidings beats).filterMap (fun | .published phase => some phase | _ => none) =
        [.recovering 1, .recovering 2, .running, .shuttingDown, .stopped] ∧
      Publishing [default] 10 beats w := by
  have played : ((World.create .standard [default] .start).world.replay comeback).map
      (fun run => (run.2.isRunning,
        (tidings run.1).filterMap fun | .published phase => some phase | _ => none)) =
        some (false, [.recovering 1, .recovering 2, .running, .shuttingDown, .stopped]) := by
    decide +kernel
  obtain ⟨⟨beats, w⟩, replayed, seen⟩ := Option.map_eq_some_iff.1 played
  simp only [Prod.mk.injEq] at seen
  have career : Career .standard [default] .start beats w := .of_replay replayed
  exact ⟨beats, w, career, seen.1, seen.2, career.publishing⟩

end Career

end FunctionAgent.Agent
