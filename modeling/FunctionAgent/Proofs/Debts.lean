import FunctionAgent.Proofs.Escalation
/-!
# What the agent owes

An update that needs an answer puts the agent into debt until the answer to it is tried. What is
owed at the beginning of a course and what is asked in it is what is answered in it and what is owed
in the end, in this order (`Course.owed_append`): no answer is tried twice, and none is tried that
nobody asked for.
-/

set_option autoImplicit false

namespace FunctionAgent

/-- Whether a message answers an update. -/
def Message.isAnswer : Message → Bool
  | .registration _ => false
  | .answer _ _ _ | .tokenTaken _ => true

namespace Agent

/-- The update that was taken. -/
def Happening.update? : Happening → Option Update
  | .taken _ u => some u
  | _ => none

/-- What is asked by the updates that were taken in some steps. -/
def asksIn (beats : List Beat) : List (Option Payload) :=
  ((beats.flatMap fun b => b.move.happened.filterMap Happening.update?).filter
    Update.needsAnswer).map Update.payload

/-- The answers that were tried in some steps. -/
def answersIn (beats : List Beat) : List Message :=
  ((triesIn beats).map (·.2.1)).filter Message.isAnswer

/-- What is echoed in the answers that were tried in some steps. -/
def echoesIn (beats : List Beat) : List (Option Payload) :=
  (answersIn beats).map (·.toUpdate.payload)

namespace World

/-- What is asked by the update that the agent works on, if it needs an answer. -/
def owed (w : World) : List (Option Payload) :=
  match w.control with
  | .handling u => if u.needsAnswer then [u.payload] else []
  | .starting call _ => [some (.call call)]
  | .writing .answer message _ => [message.toUpdate.payload]
  | _ => []

/-- Whether what is written for an answer is one, and nothing else is. -/
def Worded (w : World) : Prop :=
  match w.control with
  | .writing .answer message _ => message.isAnswer = true
  | .writing _ message _ => message.isAnswer = false
  | _ => True

theorem owed_of_free {w : World} (free : w.isBusy = false) : w.owed = [] := by
  unfold isBusy at free
  unfold owed
  split <;> simp_all

end World

section Steps

variable {w v : World} {act : Option Act} {m : Move} {beats : List Beat}

theorem asksIn_append (beats more : List Beat) :
    asksIn (beats ++ more) = asksIn beats ++ asksIn more := by
  simp [asksIn]

theorem answersIn_append (beats more : List Beat) :
    answersIn (beats ++ more) = answersIn beats ++ answersIn more := by
  simp [answersIn, triesIn_append]

theorem echoesIn_append (beats more : List Beat) :
    echoesIn (beats ++ more) = echoesIn beats ++ echoesIn more := by
  simp [echoesIn, answersIn_append]

theorem Deed.worded (deed : Deed w act m) (worded : w.Worded) : m.world.Worded := by
  cases deed with
  | @awaitSpace task message here =>
    cases task <;> simpa [World.Worded, here] using worded
  | unopened here setback | offerFailed here ends setback => cases setback <;> trivial
  | peer | shutDown | shutDownAgain | elapse => exact worded
  | offer | withdraw | refresh | refuse | timeOut | started | unstarted => rfl
  | _ => trivial

theorem Course.worded (course : Course w beats v) (worded : w.Worded) : v.Worded :=
  course.keeps worded fun _ _ _ worded deed => deed.worded worded

theorem update?_publication (old new : Phase) :
    (Move.publication old new).filterMap Happening.update? = [] := by
  unfold Move.publication
  split <;> rfl

theorem tried?_publication (old new : Phase) :
    (Move.publication old new).filterMap Happening.tried? = [] := by
  unfold Move.publication
  split <;> rfl

/-- A step takes a debt on, pays it, or leaves it. -/
theorem Deed.owed_append (deed : Deed w act m) (worded : w.Worded) :
    w.owed ++ asksIn [⟨w, act, m⟩] = echoesIn [⟨w, act, m⟩] ++ m.world.owed := by
  have still (same : m.world.owed = w.owed)
      (untaken : m.happened.filterMap Happening.update? = [])
      (untried : m.happened.filterMap Happening.tried? = []) :
      w.owed ++ asksIn [⟨w, act, m⟩] = echoesIn [⟨w, act, m⟩] ++ m.world.owed := by
    simp [asksIn, echoesIn, answersIn, triesIn, untaken, untried, same]
  cases deed with
  | @take u here =>
    cases needs : u.needsAnswer <;>
      simp [World.owed, asksIn, echoesIn, answersIn, triesIn, Happening.update?, Happening.tried?,
        here, needs]
  | answerWritten here | answerFailed here =>
    have answers := worded
    simp only [World.Worded, here] at answers
    simp [World.owed, asksIn, echoesIn, answersIn, triesIn, Happening.update?, Happening.tried?,
      here, answers]
  | offerWritten here | withdrawalWritten here | withdrawalFailed here =>
    have announces := worded
    simp only [World.Worded, here] at announces
    simp [World.owed, asksIn, echoesIn, answersIn, triesIn, Happening.update?, Happening.tried?,
      List.filterMap_cons, here, announces]
  | offerFailed here ends setback =>
    have announces := worded
    simp only [World.Worded, here] at announces
    cases setback <;> simp [World.owed, asksIn, echoesIn, answersIn, triesIn, Happening.update?,
      Happening.tried?, List.filterMap_cons, here, announces]
  | unopened here setback => cases setback <;> exact still (by simp [World.owed, here]) rfl rfl
  | @awaitSpace task message here => exact still (by cases task <;> simp [World.owed, here]) rfl rfl
  | refresh here carried =>
    exact still (by simp [World.owed, Update.needsAnswer, Message.toUpdate, here, carried]) rfl rfl
  | refuse here carried request | launch here carried request =>
    apply still
    · simp [World.owed, Update.needsAnswer, Message.refused, Message.toUpdate, here, carried,
        request]
    · rfl
    · rfl
  | ignore here noToken noNotice noRequest =>
    have silent := Update.needsAnswer_eq_false noToken noRequest
    exact still (by simp [World.owed, here, silent]) rfl rfl
  | heed here carried =>
    exact still (by simp [World.owed, Update.needsAnswer, here, carried]) rfl rfl
  | timeOut here | started here | unstarted _ here =>
    exact still (by simp [World.owed, Message.started, Message.refused, Message.toUpdate, here])
      rfl rfl
  | peer | shutDown | shutDownAgain | elapse => exact still rfl rfl rfl
  | _ =>
    apply still
    · simp [World.owed, *]
    · simp [update?_publication, Happening.update?, List.filterMap_cons]
    · simp [tried?_publication, Happening.tried?, List.filterMap_cons]

/-- What was owed and what was asked since is what was answered since and what is owed now. -/
theorem Course.owed_append (course : Course w beats v) (worded : w.Worded) :
    w.owed ++ asksIn beats = echoesIn beats ++ v.owed := by
  induction course with
  | nil => simp [asksIn, echoesIn, answersIn, triesIn]
  | @snoc v beats act m course step ih =>
    have last := (deed_of_step step).owed_append (course.worded worded)
    calc
      w.owed ++ asksIn (beats ++ [⟨v, act, m⟩])
          = (w.owed ++ asksIn beats) ++ asksIn [⟨v, act, m⟩] := by
        rw [asksIn_append, List.append_assoc]
      _ = echoesIn beats ++ (v.owed ++ asksIn [⟨v, act, m⟩]) := by rw [ih, List.append_assoc]
      _ = echoesIn (beats ++ [⟨v, act, m⟩]) ++ m.world.owed := by
        rw [last, ← List.append_assoc, echoesIn_append]

end Steps

end Agent

end FunctionAgent
