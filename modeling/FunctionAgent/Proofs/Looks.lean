import FunctionAgent.Stream.Inbound
/-!
# A reading in two looks

A reading looks for a message and, where it finds none, looks for the end. One pump delivers messages
and then the end, each in one step, and may do so between the two looks of the reader
(`Meeting.step`). A reader who is told the end then knows that everything was handed out that had
come before the first look, and no more: what the pump pushed between the two looks still waits
(`Meeting.Told`). A reader who takes the end for the last word misses it.
-/

set_option autoImplicit false

namespace FunctionAgent

/-- A pump and a reader at one reading half. -/
structure Meeting (α : Type) where
  inbound : Inbound α
  /-- What the pump has still to push. -/
  toCome : List α
  /-- The end, as long as the pump has not given it. -/
  ending : Option StreamEnd
  /-- Whether the reader has found no message and has still to look for the end. -/
  isLooking : Bool

namespace Meeting

/-- Who makes the next step. -/
inductive Party where
  | pump
  | reader
  deriving DecidableEq, Repr

/-- What a step comes to. -/
inductive Moment (α : Type) where
  | pushed (a : α)
  | ended (how : StreamEnd)
  | handed (a : α)
  /-- The first look found no message. -/
  | missed
  /-- The second look. -/
  | answered (result : Except TransportFailure (Option α))

namespace Moment

variable {α : Type}

def pushed? : Moment α → Option α
  | .pushed a => some a
  | _ => none

def handed? : Moment α → Option α
  | .handed a => some a
  | _ => none

/-- Whether it is the pump that made the step. -/
def isPumps : Moment α → Bool
  | .pushed _ | .ended _ => true
  | _ => false

end Moment

section Steps

variable {α : Type}

/-- Nothing has been pushed and nothing read. -/
def start (messages : List α) (how : StreamEnd) : Meeting α := ⟨.empty, messages, some how, false⟩

/-- The pump pushes its next message, and after the last one it gives the end. -/
def pump (m : Meeting α) : List (Moment α) × Meeting α :=
  match m.toCome, m.ending with
  | a :: rest, _ => ([.pushed a], { m with inbound := m.inbound.push a, toCome := rest })
  | [], some how => ([.ended how], { m with inbound := m.inbound.finish how, ending := none })
  | [], none => ([], m)

/-- The reader makes one of its two looks. -/
def look (m : Meeting α) : List (Moment α) × Meeting α :=
  if m.isLooking then ([.answered m.inbound.verdict], { m with isLooking := false }) else
    match m.inbound.pop? with
    | some (a, left) => ([.handed a], { m with inbound := left })
    | none => ([.missed], { m with isLooking := true })

/-- One step of one of the two. -/
def step (m : Meeting α) : Party → List (Moment α) × Meeting α
  | .pump => m.pump
  | .reader => m.look

/-- Steps in the order of a schedule. -/
def run (m : Meeting α) : List Party → List (Moment α) × Meeting α
  | [] => ([], m)
  | party :: schedule =>
    let (moments, after) := m.step party
    let (more, last) := after.run schedule
    (moments ++ more, last)

end Steps

/-! ## What holds in between -/

/-- The moments of a meeting before and since a look that found no message: only the pump has made
steps since, and before it everything had been handed out. -/
structure Missed {α : Type} (moments first between : List (Moment α)) : Prop where
  split : moments = first ++ .missed :: between
  alone : ∀ moment ∈ between, moment.isPumps = true
  all : first.filterMap Moment.handed? = first.filterMap Moment.pushed?

/-- What holds of a meeting and of the moments since its start. -/
structure Met {α : Type} (messages : List α) (how : StreamEnd) (moments : List (Moment α))
    (m : Meeting α) : Prop where
  pushed : moments.filterMap Moment.pushed? ++ m.toCome = messages
  waiting : moments.filterMap Moment.handed? ++ m.inbound.queue = moments.filterMap Moment.pushed?
  /-- The end shows when the pump has given it, after its last message. -/
  ended : (m.inbound.ended = none ∧ m.ending = some how) ∨
    (m.inbound.ended = some how ∧ m.ending = none ∧ m.toCome = [])
  looking : m.isLooking = true → ∃ first between, Missed moments first between

section Keeping

variable {α : Type} {messages : List α} {how : StreamEnd} {moments : List (Moment α)}
  {m : Meeting α}

theorem Met.start (messages : List α) (how : StreamEnd) :
    Met messages how [] (start messages how) where
  pushed := rfl
  waiting := rfl
  ended := .inl ⟨rfl, rfl⟩
  looking := by
    intro looking
    contradiction

/-- The account goes on by the moments of a step. -/
theorem Met.append (met : Met messages how moments m) {new : List (Moment α)} {n : Meeting α}
    (pushed : new.filterMap Moment.pushed? ++ n.toCome = m.toCome)
    (moved : new.filterMap Moment.handed? ++ n.inbound.queue
      = m.inbound.queue ++ new.filterMap Moment.pushed?)
    (ended : (n.inbound.ended = none ∧ n.ending = some how) ∨
      (n.inbound.ended = some how ∧ n.ending = none ∧ n.toCome = []))
    (looking : n.isLooking = true → ∃ first between, Missed (moments ++ new) first between) :
    Met messages how (moments ++ new) n where
  pushed := by rw [List.filterMap_append, List.append_assoc, pushed, met.pushed]
  waiting := by
    rw [List.filterMap_append, List.filterMap_append, List.append_assoc, moved,
      ← List.append_assoc, met.waiting]
  ended := ended
  looking := looking

/-- A step of the pump lengthens the time between the two looks. -/
theorem Missed.append {first between : List (Moment α)} (missed : Missed moments first between)
    {moment : Moment α} (pumps : moment.isPumps = true) :
    Missed (moments ++ [moment]) first (between ++ [moment]) where
  split := by rw [missed.split, List.append_assoc, List.cons_append]
  alone := by
    intro next member
    rcases List.mem_append.1 member with old | new
    · exact missed.alone next old
    · rw [List.mem_singleton.1 new]
      exact pumps
  all := missed.all

theorem Met.looking_append (met : Met messages how moments m) {moment : Moment α}
    (pumps : moment.isPumps = true) (looking : m.isLooking = true) :
    ∃ first between, Missed (moments ++ [moment]) first between := by
  obtain ⟨first, between, missed⟩ := met.looking looking
  exact ⟨first, between ++ [moment], missed.append pumps⟩

theorem Met.pump (met : Met messages how moments m) :
    Met messages how (moments ++ m.pump.1) m.pump.2 := by
  obtain ⟨inbound, toCome, ending, isLooking⟩ := m
  cases toCome with
  | cons a rest =>
    apply met.append
    · rfl
    · rfl
    · rcases met.ended with ⟨unended, due⟩ | ⟨-, -, exhausted⟩
      · exact .inl ⟨unended, due⟩
      · contradiction
    · exact met.looking_append rfl
  | nil =>
    cases ending with
    | none => simpa [Meeting.pump] using met
    | some last =>
      rcases met.ended with ⟨unended, due⟩ | ⟨-, given, -⟩
      · obtain rfl : last = how := Option.some.inj due
        apply met.append
        · rfl
        · exact (List.append_nil _).symm
        · refine .inr ⟨?_, rfl, rfl⟩
          show (inbound.ended <|> some last) = some last
          rw [show inbound.ended = none from unended]
          rfl
        · exact met.looking_append rfl
      · contradiction

theorem Met.look (met : Met messages how moments m) :
    Met messages how (moments ++ m.look.1) m.look.2 := by
  obtain ⟨⟨queue, ended⟩, toCome, ending, isLooking⟩ := m
  cases isLooking with
  | true =>
    apply met.append
    · rfl
    · exact (List.append_nil _).symm
    · exact met.ended
    · intro looking
      contradiction
  | false =>
    cases queue with
    | cons a rest =>
      apply met.append
      · rfl
      · exact (List.append_nil _).symm
      · exact met.ended
      · intro looking
        contradiction
    | nil =>
      apply met.append
      · rfl
      · rfl
      · exact met.ended
      · intro _
        refine ⟨moments, [], rfl, by simp, ?_⟩
        exact (List.append_nil _).symm.trans met.waiting

theorem Met.step (met : Met messages how moments m) (party : Party) :
    Met messages how (moments ++ (m.step party).1) (m.step party).2 := by
  cases party with
  | pump => exact met.pump
  | reader => exact met.look

theorem Met.run (met : Met messages how moments m) (schedule : List Party) :
    Met messages how (moments ++ (m.run schedule).1) (m.run schedule).2 := by
  induction schedule generalizing moments m with
  | nil => simpa [Meeting.run] using met
  | cons party schedule later =>
    have next := later (met.step party)
    rw [List.append_assoc] at next
    exact next

end Keeping

/-! ## What the end tells -/

/-- What is true when a reader is told that the stream is over. -/
structure Told {α : Type} (messages : List α) (how : StreamEnd) (moments : List (Moment α))
    (m : Meeting α) (failure : TransportFailure) : Prop where
  text : failure = .streamEnded how.message
  /-- The first look of this reading missed all that the pump pushed from then on, and that is what
  still waits and what was not handed out. -/
  missed : ∃ first between, Missed moments first between ∧
    m.inbound.queue = between.filterMap Moment.pushed? ∧
    messages = moments.filterMap Moment.handed? ++ between.filterMap Moment.pushed? ∧
    (moments.filterMap Moment.handed? = messages ↔ between.filterMap Moment.pushed? = [])

section Telling

variable {α : Type} {moments first between : List (Moment α)}

theorem handed_of_pumps (pumps : ∀ moment ∈ moments, moment.isPumps = true) :
    moments.filterMap Moment.handed? = [] := by
  rw [List.filterMap_eq_nil_iff]
  intro moment member
  have pump := pumps moment member
  cases moment with
  | pushed | ended => rfl
  | handed | missed | answered => contradiction

theorem Missed.handed_eq (missed : Missed moments first between) :
    moments.filterMap Moment.handed? = first.filterMap Moment.handed? := by
  rw [missed.split, List.filterMap_append, List.filterMap_cons_none rfl,
    handed_of_pumps missed.alone, List.append_nil]

/-- What was pushed was handed out or came since the look. -/
theorem Missed.pushed_eq (missed : Missed moments first between) :
    moments.filterMap Moment.pushed?
      = moments.filterMap Moment.handed? ++ between.filterMap Moment.pushed? := by
  rw [missed.handed_eq, missed.all, missed.split, List.filterMap_append,
    List.filterMap_cons_none rfl]

end Telling

/-- Whenever the pump and the reader get to make their steps, a reader who is told the end has been
handed every message up to its first look. -/
theorem told_end {α : Type} (messages : List α) (how : StreamEnd) (schedule : List Party)
    {failure : TransportFailure}
    (ended : (((start messages how).run schedule).2.step .reader).1 = [.answered (.error failure)]) :
    Told messages how ((start messages how).run schedule).1 ((start messages how).run schedule).2
      failure := by
  have met := (Met.start messages how).run schedule
  rw [List.nil_append] at met
  generalize (start messages how).run schedule = reached at met ended
  obtain ⟨moments, ⟨⟨queue, sign⟩, toCome, ending, isLooking⟩⟩ := reached
  cases isLooking with
  | false =>
    -- The first look never ends a reading in a failure.
    cases queue with
    | nil => simp [step, look, Inbound.pop?] at ended
    | cons a rest => simp [step, look, Inbound.pop?] at ended
  | true =>
    have verdict : (Inbound.mk queue sign).verdict = .error failure := by
      simpa [step, look] using ended
    rcases met.ended with ⟨unended, -⟩ | ⟨given, -, exhausted⟩
    · obtain rfl : sign = none := unended
      contradiction
    · obtain rfl : sign = some how := given
      obtain rfl : toCome = [] := exhausted
      obtain ⟨first, between, missed⟩ := met.looking rfl
      have waiting : queue = between.filterMap Moment.pushed? := by
        have account := met.waiting
        rw [missed.pushed_eq] at account
        exact List.append_cancel_left account
      have whole : messages
          = moments.filterMap Moment.handed? ++ between.filterMap Moment.pushed? := by
        rw [← missed.pushed_eq, ← met.pushed]
        exact List.append_nil _
      refine ⟨(Except.error.inj verdict).symm, first, between, missed, waiting, whole, ?_⟩
      rw [whole]
      exact List.self_eq_append_right

/-- The first message was handed out, the second came between the two looks. -/
theorem told_end_too_early :
    (((start ['a', 'b'] .completed).run [.pump, .reader, .reader, .pump, .pump]).2.step .reader).1
        = [.answered (.error (.streamEnded "stream completed"))] ∧
      Told ['a', 'b'] .completed
        ((start ['a', 'b'] .completed).run [.pump, .reader, .reader, .pump, .pump]).1
        ((start ['a', 'b'] .completed).run [.pump, .reader, .reader, .pump, .pump]).2
        (.streamEnded "stream completed") :=
  ⟨rfl, told_end _ _ _ rfl⟩

/-- It is not so that a reader who is told the end has been handed every message: here the only one
comes between the two looks of the only reading. -/
theorem end_hides_message :
    ¬ ∀ (messages : List Char) (how : StreamEnd) (schedule : List Party)
        (failure : TransportFailure),
      (((start messages how).run schedule).2.step .reader).1 = [.answered (.error failure)] →
        ((start messages how).run schedule).1.filterMap Moment.handed? = messages := by
  intro complete
  have handed := complete ['m'] .completed [.reader, .pump, .pump]
    (.streamEnded "stream completed") rfl
  have nothing : ((start ['m'] .completed).run [.reader, .pump, .pump]).1.filterMap Moment.handed?
      = [] := rfl
  rw [nothing] at handed
  contradiction

end Meeting

end FunctionAgent
