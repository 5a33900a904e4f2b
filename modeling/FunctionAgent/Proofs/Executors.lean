import FunctionAgent.Proofs.Cooperation
import FunctionAgent.Proofs.Escalation
import FunctionAgent.Proofs.Recovery
import FunctionAgent.Proofs.Request
import Mathlib.Control.Monad.Basic
/-!
# Executors

An executor is given by what it makes of each start that it is asked for: after how long it answers,
and what, or that it never answers. Of all runs those are possible with an executor in which it does
just that (`Executor.Allows`). Answers that come after the limit make no difference to this
(`Course.allows_congr`), and with every executor the agent comes to the end of the work on an update
(`leads_of_busy`).
-/

set_option autoImplicit false

namespace FunctionAgent

/-- Answers a call by how its start went. -/
def Message.ofStart (call : Call) : Except StartFailure Unit → Message
  | .ok () => .started call
  | .error cause => .refused call (CallFailure.notStarted call.id cause).message

namespace Agent

/-! ## Executors -/

/-- What an executor makes of a start: after how many milliseconds it answers and what, if it
does. -/
abbrev Reaction := Option (Nat × Except StartFailure Unit)

/-- An executor, by its reactions to the starts that it is asked for one after the other. -/
abbrev Executor := Nat → Reaction

/-- The times at which the executor was asked for a start in some steps. -/
def startTimes (beats : List Beat) : List Nat :=
  beats.flatMap fun b => (b.move.happened.filterMap Happening.started?).map fun _ => b.before.clock

/-- Whether nobody but the agent, its executor and time has a part in a step. -/
def Beat.isOwn (b : Beat) : Bool :=
  match b.act with
  | none | some (.answerStart _) | some (.elapse _) => true
  | _ => false

namespace Executor

/-- When the executor answers the last of the starts that it was asked for at some times, and
what. -/
def due? (x : Executor) (times : List Nat) : Reaction :=
  times.getLast?.bind fun begun =>
    (x (times.length - 1)).map fun (delay, answer) => (begun + delay, answer)

/-- Whether an executor that was asked for starts at some times lets a step be: it answers the last
one at the time at which it does, and the agent does not wait for it beyond this time. -/
def Permits (x : Executor) (times : List Nat) (b : Beat) : Prop :=
  match b.act, b.before.control with
  | some (.answerStart answer), _ => x.due? times = some (b.before.clock, answer)
  | some (.elapse ms), .starting _ _ =>
    (x.due? times).all (fun (time, _) => decide (b.before.clock + ms ≤ time)) = true
  | _, _ => True

instance (x : Executor) (times : List Nat) (b : Beat) : Decidable (x.Permits times b) := by
  unfold Permits
  split <;> infer_instance

/-- Whether the steps of a run are what they are with an executor. -/
def Allows (x : Executor) : List Nat → List Beat → Prop
  | _, [] => True
  | times, b :: rest => x.Permits times b ∧ x.Allows (times ++ startTimes [b]) rest

instance decidableAllows (x : Executor) : ∀ (times : List Nat) (beats : List Beat),
    Decidable (x.Allows times beats)
  | _, [] => isTrue trivial
  | times, b :: rest =>
    have := decidableAllows x (times ++ startTimes [b]) rest
    inferInstanceAs (Decidable (_ ∧ _))

/-- The executor without the answers that come after a limit. -/
def within (x : Executor) (limit : Span) : Executor := fun n =>
  (x n).filter fun (delay, _) => decide (delay ≤ limit.ticks)

/-- A course on which nobody but the agent, the executor and time has a part. -/
structure Leads (x : Executor) (times : List Nat) (w : World) (beats : List Beat) (v : World) :
    Prop where
  course : Course w beats v
  allows : x.Allows times beats
  own : ∀ b ∈ beats, b.isOwn = true

end Executor

/-- The start in progress is the last one that was asked for, and neither its limit nor the time of
the answer to it has passed. -/
def World.Timed (x : Executor) (limit : Span) (times : List Nat) (w : World) : Prop :=
  match w.control with
  | .starting _ deadline => ∃ earlier begun, times = earlier ++ [begun] ∧
      deadline = begun + limit.ticks ∧ w.clock ≤ deadline ∧
      ∀ delay answer, x earlier.length = some (delay, answer) → w.clock ≤ begun + delay
  | _ => True

section Steps

variable {x y : Executor} {limit : Span} {times earlier : List Nat} {w v : World} {act : Option Act}
  {m : Move} {beats more : List Beat} {begun : Nat}

theorem startTimes_append (beats more : List Beat) :
    startTimes (beats ++ more) = startTimes beats ++ startTimes more := List.flatMap_append

theorem Executor.due?_concat (x : Executor) (earlier : List Nat) (begun : Nat) :
    x.due? (earlier ++ [begun]) =
      (x earlier.length).map fun (delay, answer) => (begun + delay, answer) := by
  simp [due?]

theorem Executor.allows_append :
    x.Allows times (beats ++ more) ↔
      x.Allows times beats ∧ x.Allows (times ++ startTimes beats) more := by
  induction beats generalizing times with
  | nil => simp [Allows, startTimes]
  | cons b beats ih =>
    have both : startTimes (b :: beats) = startTimes [b] ++ startTimes beats :=
      startTimes_append [b] beats
    rw [List.cons_append, Allows, Allows, ih, both, List.append_assoc, and_assoc]

theorem Executor.allows_snoc {b : Beat} :
    x.Allows times (beats ++ [b]) ↔
      x.Allows times beats ∧ x.Permits (times ++ startTimes beats) b := by
  simp [allows_append, Allows]

/-- An answer of the executor is its reaction to the start in progress, at its time. -/
theorem Executor.permits_answer {answer : Except StartFailure Unit} :
    x.Permits (earlier ++ [begun]) ⟨w, some (.answerStart answer), m⟩ ↔
      ∃ delay, x earlier.length = some (delay, answer) ∧ w.clock = begun + delay := by
  show x.due? (earlier ++ [begun]) = some (w.clock, answer) ↔ _
  rw [x.due?_concat]
  constructor
  · intro due
    obtain ⟨⟨delay, told⟩, reacts, same⟩ := Option.map_eq_some_iff.1 due
    obtain ⟨now, rfl⟩ := Prod.mk.inj same
    exact ⟨delay, reacts, now.symm⟩
  · rintro ⟨delay, reacts, now⟩
    rw [reacts, now]
    rfl

/-- The agent does not wait for the executor beyond the time of its answer. -/
theorem Executor.permits_elapse {call : Call} {deadline ms : Nat}
    (stands : w.control = .starting call deadline) :
    x.Permits (earlier ++ [begun]) ⟨w, some (.elapse ms), m⟩ ↔
      ∀ delay answer, x earlier.length = some (delay, answer) → w.clock + ms ≤ begun + delay := by
  simp only [Permits, stands, x.due?_concat]
  cases reacts : x earlier.length with
  | none => simp
  | some reaction =>
    obtain ⟨delay, answer⟩ := reaction
    simp

theorem startTimes_of_silent {b : Beat}
    (silent : b.move.happened.filterMap Happening.started? = []) : startTimes [b] = [] := by
  simp [startTimes, silent]

theorem World.timed_of_starting {call : Call} {deadline : Nat}
    (stands : w.control = .starting call deadline) :
    w.Timed x limit times ↔ ∃ earlier begun, times = earlier ++ [begun] ∧
      deadline = begun + limit.ticks ∧ w.clock ≤ deadline ∧
      ∀ delay answer, x earlier.length = some (delay, answer) → w.clock ≤ begun + delay := by
  unfold Timed
  rw [stands]

theorem Deed.timed (deed : Deed w act m) (limited : w.settings.dispatchTimeout = limit)
    (timed : w.Timed x limit times) (permits : x.Permits times ⟨w, act, m⟩) :
    m.world.Timed x limit (times ++ startTimes [⟨w, act, m⟩]) := by
  cases deed with
  | launch here =>
    refine ⟨times, w.clock, rfl, limited ▸ rfl, Nat.le_add_right _ _, ?_⟩
    intro delay answer _
    exact Nat.le_add_right _ _
  | elapse ms may =>
    rw [startTimes_of_silent rfl, List.append_nil]
    cases stands : w.control with
    | starting call deadline =>
      obtain ⟨earlier, begun, rfl, ends, -, -⟩ := (World.timed_of_starting stands).1 timed
      have wakes : w.wake? = some deadline := by rw [World.wake?, stands]
      have inTime := (Deed.elapse ms may).waits.2.1 deadline wakes
      have known := (Executor.permits_elapse stands).1 permits
      exact ⟨earlier, begun, rfl, ends, inTime, known⟩
    | _ => trivial
  | peer | shutDown | shutDownAgain =>
    rw [startTimes_of_silent rfl, List.append_nil]
    exact timed
  | unopened here setback | offerFailed here ends setback => cases setback <;> trivial
  | _ => trivial

/-- Of two executors that differ only in what comes too late each permits what the other does. -/
theorem Executor.Permits.congr (deed : Deed w act m) (timed : w.Timed x limit times)
    (same : ∀ n, x.within limit n = y.within limit n) (permits : x.Permits times ⟨w, act, m⟩) :
    y.Permits times ⟨w, act, m⟩ := by
  have agrees {n delay : Nat} {answer : Except StartFailure Unit} {a b : Executor}
      (equal : a.within limit n = b.within limit n) (reacts : a n = some (delay, answer))
      (inTime : delay ≤ limit.ticks) : b n = some (delay, answer) := by
    have kept : a.within limit n = some (delay, answer) := by simp [within, reacts, inTime]
    exact (Option.filter_eq_some_iff.1 (equal.symm.trans kept)).1
  have answers {answer : Except StartFailure Unit} {call : Call} {deadline : Nat}
      (stands : w.control = .starting call deadline)
      (permits : x.Permits times ⟨w, some (.answerStart answer), m⟩) :
      y.Permits times ⟨w, some (.answerStart answer), m⟩ := by
    obtain ⟨earlier, begun, rfl, rfl, early, -⟩ := (World.timed_of_starting stands).1 timed
    obtain ⟨delay, reacts, now⟩ := Executor.permits_answer.1 permits
    have reacts : y earlier.length = some (delay, answer) := agrees (same _) reacts (by omega)
    exact Executor.permits_answer.2 ⟨delay, reacts, now⟩
  cases deed with
  | started here => exact answers here permits
  | unstarted _ here => exact answers here permits
  | elapse ms may =>
    cases stands : w.control with
    | starting call deadline =>
      obtain ⟨earlier, begun, rfl, rfl, -, -⟩ := (World.timed_of_starting stands).1 timed
      have wakes : w.wake? = some (begun + limit.ticks) := by rw [World.wake?, stands]
      have inTime := (Deed.elapse ms may).waits.2.1 _ wakes
      apply (Executor.permits_elapse stands).2
      intro delay answer reacts
      rcases Nat.lt_or_ge limit.ticks delay with late | early
      · omega
      · exact (Executor.permits_elapse stands).1 permits delay answer
          (agrees (same _).symm reacts early)
    | _ => simp [Executor.Permits, stands]
  | _ => trivial

end Steps

/-! ## Getting on -/

section Progress

variable {x y : Executor} {limit : Span} {times earlier : List Nat} {w v u : World}
  {beats more : List Beat} {act : Option Act} {m : Move} {begun : Nat}

theorem Course.timed (course : Course w beats v) (limited : w.settings.dispatchTimeout = limit)
    (timed : w.Timed x limit times) (allows : x.Allows times beats) :
    v.Timed x limit (times ++ startTimes beats) ∧ v.settings.dispatchTimeout = limit := by
  induction course with
  | nil => exact ⟨by simpa [startTimes] using timed, limited⟩
  | snoc course step ih =>
    obtain ⟨allows, permits⟩ := Executor.allows_snoc.1 allows
    obtain ⟨timed, limited⟩ := ih allows
    have deed := deed_of_step step
    rw [startTimes_append, ← List.append_assoc]
    exact ⟨deed.timed limited timed permits, by rw [deed.settings_eq, limited]⟩

/-- Answers that come too late make no difference. -/
theorem Course.allows_congr (course : Course w beats v)
    (limited : w.settings.dispatchTimeout = limit) (timed : w.Timed x limit times)
    (same : ∀ n, x.within limit n = y.within limit n) (allows : x.Allows times beats) :
    y.Allows times beats := by
  induction course with
  | nil => trivial
  | snoc course step ih =>
    obtain ⟨allows, permits⟩ := Executor.allows_snoc.1 allows
    have timed := (course.timed limited timed allows).1
    exact Executor.allows_snoc.2 ⟨ih allows, permits.congr (deed_of_step step) timed same⟩

namespace Executor.Leads

theorem nil (x : Executor) (times : List Nat) (w : World) : x.Leads times w [] w :=
  ⟨.nil, trivial, fun _ member => absurd member List.not_mem_nil⟩

theorem append (first : x.Leads times w beats u)
    (second : x.Leads (times ++ startTimes beats) u more v) :
    x.Leads times w (beats ++ more) v where
  course := first.course.append second.course
  allows := allows_append.2 ⟨first.allows, second.allows⟩
  own b member := (List.mem_append.1 member).elim (first.own b) (second.own b)

/-- One more step of the agent, the executor or time may come first. -/
theorem after (step : w.step act = some m) (own : (⟨w, act, m⟩ : Beat).isOwn = true)
    (permits : x.Permits times ⟨w, act, m⟩)
    (leads : x.Leads (times ++ startTimes [⟨w, act, m⟩]) m.world beats v) :
    x.Leads times w (⟨w, act, m⟩ :: beats) v :=
  append ⟨Course.nil.snoc step, ⟨permits, trivial⟩, by simpa using own⟩ leads

/-- Nobody else has asked for a shutdown. -/
theorem isShutdown_eq (leads : x.Leads times w beats v) : v.isShutdown = w.isShutdown := by
  obtain ⟨course, -, own⟩ := leads
  induction course with
  | nil => rfl
  | @snoc v beats act m course step ih =>
    have last := own ⟨v, act, m⟩ (by simp)
    have unasked : isRequest act = false := by
      unfold Beat.isOwn at last
      split at last <;> simp_all [isRequest]
    rw [(deed_of_step step).isShutdown_or, unasked, Bool.or_false,
      ih fun b member => own b (List.mem_append_left _ member)]

/-- Nobody else has delivered anything. -/
theorem deliveredOn_eq (leads : x.Leads times w beats v) (i : Nat) : deliveredOn i beats = [] := by
  rw [deliveredOn, List.flatMap_eq_nil_iff]
  intro b member
  have own := leads.own b member
  unfold Beat.isOwn at own
  unfold Beat.delivered
  split <;> simp_all

end Executor.Leads

theorem Course.held_of_busy (course : Course w beats v)
    (works : ∀ b ∈ beats, b.before.isBusy = true) : v.held = w.held := by
  induction course with
  | nil => rfl
  | @snoc v beats act m course step ih =>
    have busy : v.isBusy = true := works ⟨v, act, m⟩ (by simp)
    rw [((deed_of_step step).serves busy).1,
      ih fun b member => works b (List.mem_append_left _ member)]

theorem Executor.allows_of_forall (permits : ∀ b ∈ beats, ∀ times, x.Permits times b) :
    x.Allows times beats := by
  induction beats generalizing times with
  | nil => trivial
  | cons b beats ih =>
    exact ⟨permits b List.mem_cons_self times,
      ih fun b member => permits b (List.mem_cons_of_mem _ member)⟩

/-- An agent that writes an answer does nothing else until it is free. -/
theorem Course.stays_writing (course : Course w beats v)
    (works : ∀ b ∈ beats, b.before.isBusy = true)
    (stands : ∃ message deadline, w.control = .writing .answer message deadline) :
    (v.isBusy = true → ∃ message deadline, v.control = .writing .answer message deadline) ∧
      ∀ b ∈ beats, ∃ message deadline, b.before.control = .writing .answer message deadline := by
  induction course with
  | nil => exact ⟨fun _ => stands, fun _ member => absurd member List.not_mem_nil⟩
  | @snoc v beats act m course step ih =>
    obtain ⟨still, earlier⟩ := ih fun b member => works b (List.mem_append_left _ member)
    obtain ⟨message, deadline, here⟩ := still (works ⟨v, act, m⟩ (by simp))
    constructor
    · intro busy
      cases deed_of_step step with
      | awaitSpace there =>
        obtain ⟨rfl, -⟩ : Task.answer = _ ∧ message = _ ∧ deadline = none := by
          simpa [here] using there
        exact ⟨_, _, rfl⟩
      | answerWritten | answerFailed => simp [World.isBusy] at busy
      | peer | shutDown | shutDownAgain | elapse => exact ⟨message, deadline, here⟩
      | _ => simp_all
    · intro b member
      rcases List.mem_append.1 member with member | member
      · exact earlier b member
      · exact List.mem_singleton.1 member ▸ ⟨message, deadline, here⟩

/-- An answer is written or given up without anyone's help. -/
theorem leads_of_writing (x : Executor) (times : List Nat) {message : Message}
    {deadline : Option Nat} (stands : w.control = .writing .answer message deadline) :
    ∃ beats v, x.Leads times w beats v ∧ v.isBusy = false := by
  obtain ⟨beats, v, course, alone, freed⟩ := frees_of_answering stands
  have busy : w.isBusy = true := by rw [World.isBusy, stands]
  rcases course.first_free busy with ⟨working, -⟩ | ⟨front, back, u, rfl, first, works, free⟩
  · simp [freed] at working
  have writes := (first.stays_writing works ⟨_, _, stands⟩).2
  refine ⟨front, u, ⟨first, Executor.allows_of_forall fun b member times => ?_, ?_⟩, free⟩
  · obtain ⟨message, deadline, here⟩ := writes b member
    rcases alone b (List.mem_append_left _ member) with act | ⟨ms, act⟩ <;>
      simp [Executor.Permits, act, here]
  · intro b member
    rcases alone b (List.mem_append_left _ member) with act | ⟨ms, act⟩ <;>
      simp [Beat.isOwn, act]

theorem World.control_started (w : World) (call : Call) (answer : Except StartFailure Unit) :
    (w.started call answer).world.control = .writing .answer (.ofStart call answer) none := by
  cases answer <;> rfl

/-- Time passes while the agent waits for the executor. -/
theorem leads_of_waiting {call : Call} {time : Nat}
    (stands : w.control = .starting call (begun + limit.ticks)) (later : w.clock ≤ time)
    (inTime : time ≤ begun + limit.ticks)
    (unanswered : ∀ delay answer, x earlier.length = some (delay, answer) → time ≤ begun + delay) :
    ∃ beats, x.Leads (earlier ++ [begun]) w beats { w with clock := time } ∧
      startTimes beats = [] := by
  rcases Nat.lt_or_eq_of_le later with before | rfl
  · have passed : w.clock + (time - w.clock) = time := by omega
    have may : w.mayElapse (time - w.clock) = true := by
      have early : w.clock < begun + limit.ticks := by omega
      simp [World.mayElapse, World.isWaiting, World.proceed, World.wake?, stands, passed, inTime,
        early]
    have step : w.step (some (.elapse (time - w.clock))) =
        some (.stay { w with clock := time }) := by
      simp [World.step, World.act, may, passed]
    have permits := (Executor.permits_elapse (m := .stay { w with clock := time }) stands).2
      (passed.symm ▸ unanswered)
    exact ⟨_, .after step rfl permits (.nil _ _ _), rfl⟩
  · exact ⟨[], .nil _ _ _, rfl⟩

/-- When it is known what to answer the agent gets to the end of the answer. -/
theorem leads_of_settling {message : Message} (waits : x.Leads times w beats u)
    (silent : startTimes beats = []) (step : u.step act = some m)
    (own : (⟨u, act, m⟩ : Beat).isOwn = true) (permits : x.Permits times ⟨u, act, m⟩)
    (stands : m.world.control = .writing .answer message none) :
    ∃ beats v, x.Leads times w beats v ∧ v.isBusy = false := by
  obtain ⟨writes, v, further, free⟩ :=
    leads_of_writing x (times ++ startTimes [⟨u, act, m⟩]) stands
  have answers : x.Leads (times ++ startTimes beats) u (⟨u, act, m⟩ :: writes) v := by
    rw [silent, List.append_nil]
    exact further.after step own permits
  exact ⟨_, v, waits.append answers, free⟩

/-- The wait for the executor comes to its end, with its answer or without it. -/
theorem leads_of_starting {call : Call} {deadline : Nat} (timed : w.Timed x limit times)
    (stands : w.control = .starting call deadline) :
    ∃ beats v, x.Leads times w beats v ∧ v.isBusy = false := by
  obtain ⟨earlier, begun, rfl, rfl, early, unanswered⟩ :=
    (World.timed_of_starting stands).1 timed
  by_cases inTime : ∃ delay answer, x earlier.length = some (delay, answer) ∧ delay ≤ limit.ticks
  · obtain ⟨delay, answer, reacts, inTime⟩ := inTime
    have punctual (delay' answer') (reacts' : x earlier.length = some (delay', answer')) :
        begun + delay ≤ begun + delay' := by
      obtain ⟨rfl, -⟩ : delay = delay' ∧ answer = answer' := by simpa [reacts] using reacts'
      exact Nat.le_refl _
    obtain ⟨beats, waits, silent⟩ :=
      leads_of_waiting stands (unanswered delay answer reacts) (by omega) punctual
    have step : { w with clock := begun + delay }.step (some (.answerStart answer)) =
        some ({ w with clock := begun + delay }.started call answer) := by
      simp [World.step, World.act, stands]
    exact leads_of_settling waits silent step rfl
      (Executor.permits_answer.2 ⟨delay, reacts, rfl⟩) (World.control_started _ call answer)
  · have punctual (delay answer) (reacts : x earlier.length = some (delay, answer)) :
        begun + limit.ticks ≤ begun + delay := by
      have late : ¬delay ≤ limit.ticks := fun early => inTime ⟨delay, answer, reacts, early⟩
      omega
    obtain ⟨beats, waits, silent⟩ := leads_of_waiting stands early (Nat.le_refl _) punctual
    have step : { w with clock := begun + limit.ticks }.step none =
        some ({ w with clock := begun + limit.ticks }.started call
          (.error (.timedOut w.settings.dispatchTimeout))) := by
      simp [World.step, World.proceed, stands]
    exact leads_of_settling waits silent step rfl trivial rfl

/-- An agent that is busy with an update comes to the end of the work on it. -/
theorem leads_of_busy (limited : w.settings.dispatchTimeout = limit)
    (timed : w.Timed x limit times) (busy : w.isBusy = true) :
    ∃ beats v, x.Leads times w beats v ∧ (∀ b ∈ beats, b.before.isBusy = true) ∧
      v.isBusy = false := by
  suffices comes : ∃ beats v, x.Leads times w beats v ∧ v.isBusy = false by
    obtain ⟨beats, v, ⟨course, allows, own⟩, freed⟩ := comes
    rcases course.first_free busy with ⟨working, -⟩ | ⟨front, back, u, rfl, first, works, free⟩
    · simp [freed] at working
    · have allows := (Executor.allows_append.1 allows).1
      exact ⟨front, u, ⟨first, allows, fun b member => own b (List.mem_append_left _ member)⟩,
        works, free⟩
  unfold World.isBusy at busy
  split at busy
  · rename_i u stands
    have step : w.step none = some (w.handle u) := by simp [World.step, World.proceed, stands]
    generalize w.handle u = m at step
    have deed := deed_of_step step
    have timed := deed.timed limited timed trivial
    -- What is left to do after the first step is the rest of the work.
    have further (rest : ∃ beats v, x.Leads (times ++ startTimes [⟨w, none, m⟩]) m.world beats v ∧
        v.isBusy = false) : ∃ beats v, x.Leads times w beats v ∧ v.isBusy = false := by
      obtain ⟨beats, v, leads, free⟩ := rest
      exact ⟨_, v, leads.after step rfl trivial, free⟩
    apply further
    cases deed with
    | heed | ignore => exact ⟨[], _, .nil _ _ _, rfl⟩
    | refresh | refuse => exact leads_of_writing x _ rfl
    | launch => exact leads_of_starting timed rfl
    | _ => simp_all
  · rename_i stands
    exact leads_of_starting timed stands
  · rename_i stands
    exact leads_of_writing x times stands
  · contradiction

end Progress

end Agent

end FunctionAgent
