import FunctionAgent.Proofs.Deed
/-!
# The course of a run

A course is a run with its steps kept one by one: of each the state before it, whose act it was and
the move that came of it. It is the same as a run (`run_iff_course`), but what happened can be told
together with the time and the state at which it happened. What holds at the beginning and is kept
by every deed holds after every course. To what an agent comes by itself is told by `World.Comes`.
-/

set_option autoImplicit false

namespace FunctionAgent.Agent

/-- One step of a run: a move of the agent, or an act of the others. -/
structure Beat where
  before : World
  act : Option Act
  move : Move

/-- The course of a run from a state to another. -/
inductive Course (w : World) : List Beat → World → Prop where
  | nil : Course w [] w
  | snoc {v : World} {beats : List Beat} {act : Option Act} {m : Move}
      (course : Course w beats v) (step : v.step act = some m) :
      Course w (beats ++ [⟨v, act, m⟩]) m.world

/-- How an agent is started: in a single attempt, or in up to `limit` of them. -/
inductive Entry where
  | start
  | connect (limit : Nat)
  deriving DecidableEq, Repr

/-- The purpose of the first session. -/
def Entry.purpose : Entry → Purpose
  | .start => .start
  | .connect limit => .connect limit 0

@[simp] theorem Entry.isFirst_purpose (entry : Entry) : entry.purpose.isFirst = true := by
  cases entry <;> rfl

/-- The course of an agent from its creation on. -/
abbrev Career (settings : Settings) (functions : List Function) (entry : Entry) :
    List Beat → World → Prop :=
  Course (World.create settings functions entry.purpose).world

/-- The steps taken one after the other; `none` if one of them is not possible. -/
def World.replay (w : World) : List (Option Act) → Option (List Beat × World)
  | [] => some ([], w)
  | act :: acts =>
    match w.step act with
    | none => none
    | some m => (m.world.replay acts).map fun (beats, v) => (⟨w, act, m⟩ :: beats, v)

/-- What holds of the steps so far and of one more holds of all of them. -/
theorem forall_snoc {P : Beat → Prop} {beats : List Beat} {b : Beat} (earlier : ∀ x ∈ beats, P x)
    (last : P b) : ∀ x ∈ beats ++ [b], P x :=
  List.forall_mem_append.2 ⟨earlier, List.forall_mem_singleton.2 last⟩

namespace Course

variable {w v : World} {before after beats : List Beat}

theorem append {u : World} (first : Course w before u) (second : Course u after v) :
    Course w (before ++ after) v := by
  induction second with
  | nil => simpa using first
  | snoc _ step ih => simpa using ih.snoc step

theorem split (course : Course w (before ++ after) v) :
    ∃ u, Course w before u ∧ Course u after v := by
  generalize joined : before ++ after = all at course
  induction course generalizing after with
  | nil =>
    obtain ⟨rfl, rfl⟩ := List.append_eq_nil_iff.1 joined
    exact ⟨w, .nil, .nil⟩
  | @snoc u beats act m course step ih =>
    rcases List.eq_nil_or_concat after with rfl | ⟨initial, last, rfl⟩
    · rw [List.append_nil] at joined
      exact ⟨_, joined ▸ course.snoc step, .nil⟩
    · rw [List.concat_eq_append, ← List.append_assoc] at joined
      obtain ⟨same, equal⟩ := List.append_inj' joined rfl
      obtain ⟨t, first, second⟩ := ih same
      refine ⟨t, first, ?_⟩
      rw [List.concat_eq_append, equal]
      exact second.snoc step

/-- A step inside a course: what led to it, what it was and what came after it. -/
theorem around {b : Beat} (course : Course w (before ++ b :: after) v) :
    Course w before b.before ∧ b.before.step b.act = some b.move ∧ Course b.move.world after v := by
  obtain ⟨u, first, second⟩ := course.split
  obtain ⟨t, middle, last⟩ := (show Course u ([b] ++ after) v from second).split
  generalize single : [b] = bs at middle
  cases middle with
  | nil => simp at single
  | snoc start step =>
    rw [← List.nil_append [b]] at single
    obtain ⟨none, equal⟩ := List.append_inj' single rfl
    obtain rfl := none
    generalize empty : ([] : List Beat) = bs at start
    cases start with
    | nil =>
      obtain ⟨rfl, -⟩ := List.cons.inj equal
      exact ⟨first, step, last⟩
    | snoc => simp at empty

/-- What holds at the beginning and is kept by every deed holds at the end. -/
theorem keeps {P : World → Prop} (start : P w)
    (deed : ∀ v act m, P v → Deed v act m → P m.world) (course : Course w beats v) : P v := by
  induction course with
  | nil => exact start
  | snoc _ step ih => exact deed _ _ _ ih (deed_of_step step)

/-- Induction on a course by deeds, with what is known of the states on the way. -/
theorem told {I : World → Prop} {P : List Beat → World → Prop} (start : I w)
    (kept : ∀ v act m, I v → Deed v act m → I m.world) (nil : P [] w)
    (snoc : ∀ beats v act m, I v → P beats v → Deed v act m → P (beats ++ [⟨v, act, m⟩]) m.world)
    (course : Course w beats v) : P beats v := by
  induction course with
  | nil => exact nil
  | snoc course step ih =>
    exact snoc _ _ _ _ (course.keeps start kept) ih (deed_of_step step)

theorem of_replay {acts : List (Option Act)} (played : w.replay acts = some (beats, v)) :
    Course w beats v := by
  induction acts generalizing w beats with
  | nil =>
    simp only [World.replay, Option.some.injEq, Prod.mk.injEq] at played
    obtain ⟨rfl, rfl⟩ := played
    exact .nil
  | cons act acts ih =>
    simp only [World.replay] at played
    split at played
    · contradiction
    · rename_i m step
      obtain ⟨⟨rest, u⟩, later, equal⟩ := Option.map_eq_some_iff.1 played
      simp only [Prod.mk.injEq] at equal
      obtain ⟨rfl, rfl⟩ := equal
      have first : Course w [⟨w, act, m⟩] m.world := Course.nil.snoc step
      exact first.append (ih later)

end Course

namespace World

theorem replay_append (w : World) (acts more : List (Option Act)) :
    w.replay (acts ++ more) = (w.replay acts).bind fun (beats, u) =>
      (u.replay more).map fun (rest, v) => (beats ++ rest, v) := by
  induction acts generalizing w with
  | nil => simp [replay]
  | cons act acts ih =>
    simp only [List.cons_append, replay]
    cases w.step act with
    | none => rfl
    | some m =>
      simp only [ih]
      cases m.world.replay acts with
      | none => rfl
      | some run => simp [Function.comp_def]

/-- A course is known from its acts alone. -/
theorem replay_eq_some_iff {w v : World} {acts : List (Option Act)} {beats : List Beat} :
    w.replay acts = some (beats, v) ↔ Course w beats v ∧ beats.map Beat.act = acts := by
  constructor
  · intro played
    refine ⟨.of_replay played, ?_⟩
    induction acts generalizing w beats with
    | nil => simp_all [replay]
    | cons act acts ih =>
      simp only [replay] at played
      split at played
      · contradiction
      · obtain ⟨⟨rest, u⟩, later, equal⟩ := Option.map_eq_some_iff.1 played
        obtain ⟨rfl, rfl⟩ := Prod.mk.inj equal
        rw [List.map_cons, ih later]
  · rintro ⟨course, rfl⟩
    induction course with
    | nil => rfl
    | snoc course step ih => simp [replay_append, ih, replay, step]

end World

/-- Whether the agent comes to a goal by itself and with time, without an act of the others. -/
def World.Comes (w : World) (goal : World → Prop) : Prop :=
  ∃ beats v, Course w beats v ∧
    (∀ b ∈ beats, b.act = none ∨ ∃ ms, b.act = some (.elapse ms)) ∧ goal v

namespace World

variable {w : World} {goal : World → Prop}

theorem Comes.here (reached : goal w) : w.Comes goal :=
  ⟨[], w, .nil, fun _ member => absurd member List.not_mem_nil, reached⟩

/-- Steps of the agent by itself may be preceded by one more of them. -/
theorem Comes.after {act : Option Act} {m : Move} (step : w.step act = some m)
    (alone : act = none ∨ ∃ ms, act = some (.elapse ms)) (comes : m.world.Comes goal) :
    w.Comes goal := by
  obtain ⟨beats, v, course, others, reached⟩ := comes
  refine ⟨_, v, Course.append (Course.nil.snoc step) course, ?_, reached⟩
  intro b member
  rcases List.mem_append.1 member with member | member
  · obtain rfl := List.mem_singleton.1 member
    exact alone
  · exact others b member

/-- What the agent comes to from where it has come by itself it comes to. -/
theorem Comes.trans {halfway : World → Prop} (first : w.Comes halfway)
    (next : ∀ beats v, Course w beats v → halfway v → v.Comes goal) : w.Comes goal := by
  obtain ⟨beats, v, course, alone, reached⟩ := first
  obtain ⟨more, u, further, others, goal⟩ := next beats v course reached
  refine ⟨beats ++ more, u, course.append further, ?_, goal⟩
  intro b member
  rcases List.mem_append.1 member with member | member
  · exact alone b member
  · exact others b member

/-- An agent that waits may be left to itself until its wait is over. -/
theorem Comes.wait {wake : Nat} (rests : w.proceed = none) (wakes : w.wake? = some wake)
    (later : w.clock ≤ wake) (comes : { w with clock := wake }.Comes goal) : w.Comes goal := by
  have due : w.clock + (wake - w.clock) = wake := Nat.add_sub_cancel' later
  have may : w.mayElapse (wake - w.clock) = true := by
    simp [mayElapse, isWaiting, rests, wakes, due]
  have step : w.step (some (.elapse (wake - w.clock))) = some (.stay { w with clock := wake }) := by
    simp [step, act, may, due]
  exact .after step (.inr ⟨_, rfl⟩) comes

/-- An agent that rests until its wait is over gets to this time. -/
theorem Comes.due {wake : Nat} (wakes : w.wake? = some wake) (early : w.clock ≤ wake)
    (rests : w.clock < wake → w.proceed = none) (comes : { w with clock := wake }.Comes goal) :
    w.Comes goal := by
  rcases Nat.lt_or_eq_of_le early with before | rfl
  · exact .wait (rests before) wakes early comes
  · exact comes

section Writing

variable {task : Task} {message : Message}

/-- A write that finds no space comes to its end when it has waited for its time. -/
theorem Comes.giveUp {due : Nat} (stands : w.control = .writing task message (some due))
    (full : (w.session (w.target task)).stream.outbound.write? message.toUpdate = none)
    (next : ∀ (v : World) outcome, (v.settle task message outcome).world.Comes goal) :
    w.Comes goal := by
  have gives {v : World} (stands : v.control = .writing task message (some due))
      (full : (v.session (v.target task)).stream.outbound.write? message.toUpdate = none)
      (past : due ≤ v.clock) : v.Comes goal := by
    have step : v.step none = some (v.settle task message
        (v.session (v.target task)).stream.outbound.giveUp) := by
      simp [World.step, proceed, write, stands, full, past]
    exact .after step (.inl rfl) (next _ _)
  by_cases past : due ≤ w.clock
  · exact gives stands full past
  · have rests : w.proceed = none := by simp [proceed, write, stands, full, past]
    have wakes : w.wake? = some due := by rw [wake?, stands]
    exact .wait rests wakes (by omega) (gives stands full (Nat.le_refl _))

/-- A write comes to its end whatever the broker does. -/
theorem Comes.write {deadline : Option Nat} (stands : w.control = .writing task message deadline)
    (next : ∀ (v : World) outcome, (v.settle task message outcome).world.Comes goal) :
    w.Comes goal := by
  cases written : (w.session (w.target task)).stream.outbound.write? message.toUpdate with
  | some outcome =>
    have step : w.step none = some (w.settle task message outcome) := by
      simp [World.step, proceed, World.write, stands, written]
    exact .after step (.inl rfl) (next _ _)
  | none =>
    cases deadline with
    | some due => exact .giveUp stands written next
    | none =>
      have step : w.step none = some ((Move.stay w).goto (.writing task message
          (some (w.clock + (w.session (w.target task)).stream.outbound.limit.ticks)))) := by
        simp [World.step, proceed, World.write, stands, written]
      exact .after step (.inl rfl) (.giveUp rfl written next)

end Writing

end World

/-- A run and a course are the same. -/
theorem run_iff_course {w v : World} {steps : List (Option Act)} {happened : List Happening} :
    Run w steps happened v ↔
      ∃ beats, Course w beats v ∧ beats.map Beat.act = steps ∧
        beats.flatMap (fun b => b.move.happened) = happened := by
  constructor
  · intro run
    induction run with
    | nil => exact ⟨[], .nil, rfl, rfl⟩
    | snoc _ act move ih =>
      obtain ⟨beats, course, rfl, rfl⟩ := ih
      exact ⟨_, course.snoc move, by simp, by simp⟩
  · rintro ⟨beats, course, rfl, rfl⟩
    induction course with
    | nil => exact .nil _
    | snoc _ step ih => simpa using ih.snoc _ step

end FunctionAgent.Agent
