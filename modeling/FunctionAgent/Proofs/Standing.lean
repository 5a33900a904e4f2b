import FunctionAgent.Proofs.Course
/-!
# Which session is open

Of all sessions that an agent was given at most one is open: the one on which the functions are
being offered, or else the one in use. While a session is asked for none is open. A closed session
stays closed.
-/

set_option autoImplicit false

namespace FunctionAgent

/-- Whether the agent has closed its side of a session. -/
def Session.isClosed (s : Session) : Bool := s.stream.outbound.isStopped

namespace Agent

namespace World

variable {w : World}

theorem session_onSession (w : World) (i j : Nat) (f : Session → Session) :
    (w.onSession i f).session j =
      if i = j ∧ j < w.sessions.length then f (w.session j) else w.session j := by
  simp only [session, onSession, List.getD_eq_getElem?_getD, List.getElem?_modify]
  by_cases short : j < w.sessions.length
  · by_cases same : i = j
    · simp [same, short]
    · simp [same, short]
  · simp [short]

theorem session_onSession_self {i : Nat} (short : i < w.sessions.length)
    (f : Session → Session) : (w.onSession i f).session i = f (w.session i) := by
  rw [session_onSession, if_pos ⟨rfl, short⟩]

theorem session_onSession_of_ne {i j : Nat} (different : i ≠ j) (f : Session → Session) :
    (w.onSession i f).session j = w.session j := by
  rw [session_onSession, if_neg fun both => different both.1]

/-- What a change of a session keeps of it. -/
theorem onSession_keeps {α : Type} (of : Session → α) {i j : Nat} {f : Session → Session}
    (keeps : ∀ s, of (f s) = of s) : of ((w.onSession i f).session j) = of (w.session j) := by
  rw [session_onSession]
  split
  · exact keeps _
  · rfl

/-- The session on which the functions are being offered. -/
def offered? (w : World) : Option Nat :=
  match w.control with
  | .offering _ i _ | .writing (.offer _ i _) _ _ => some i
  | _ => none

/-- Whether the agent has a session in use, be it lost or not. -/
def isServing (w : World) : Bool :=
  match w.control with
  | .opening purpose | .offering purpose _ _ | .writing (.offer purpose _ _) _ _ =>
    !purpose.isFirst
  | .retrying _ _ _ | .unstarted _ | .overflowed => false
  | _ => true

/-- The session that may be open. -/
def open? (w : World) : Option Nat :=
  match w.control with
  | .offering _ i _ | .writing (.offer _ i _) _ _ => some i
  | .opening _ | .retrying _ _ _ | .backingOff _ _ | .unstarted _ | .finished _ | .dropped => none
  | _ => some w.held

end World

/-- Which sessions there are, and which of them may be open. -/
structure Standing (w : World) : Prop where
  fresh : ∀ i, w.offered? = some i → i + 1 = w.sessions.length
  used : w.isServing = true → w.held < w.sessions.length
  apart : w.isServing = true → ∀ i, w.offered? = some i → w.held ≠ i
  closed : ∀ j < w.sessions.length, w.open? ≠ some j → (w.session j).isClosed = true

section Deeds

variable {w : World} {act : Option Act} {m : Move} {j : Nat}

/-- A session that is open is the one that may be. -/
theorem Standing.open?_eq (standing : Standing w) (known : j < w.sessions.length)
    (opened : (w.session j).isClosed = false) : w.open? = some j := by
  by_cases here : w.open? = some j
  · exact here
  · exact absurd (standing.closed j known here) (by simp [opened])

theorem isClosed_peerAct (s : Session) (act : Session.PeerAct) :
    (s.peerAct act).isClosed = s.isClosed := by
  cases act with
  | deliver u =>
    simp only [Session.peerAct, Session.isClosed, Duplex.deliver]
    split <;> rfl
  | endFeed how =>
    simp only [Session.peerAct, Session.isClosed, Duplex.endFeed]
    split <;> rfl
  | outbound act =>
    simp only [Session.peerAct, Session.isClosed, Session.withOutbound]
    cases act with
    | read =>
      simp only [Outbound.act, Outbound.read]
      split
      · rfl
      · rfl
      · rfl
      · split <;> rfl
    | shut =>
      simp only [Outbound.act, Outbound.shut]
      split <;> rfl
    | abandon => rfl

theorem isClosed_onSession {i : Nat} {f : Session → Session}
    (keeps : (w.session i).isClosed = true → (f (w.session i)).isClosed = true)
    (closed : (w.session j).isClosed = true) : ((w.onSession i f).session j).isClosed = true := by
  rw [World.session_onSession]
  split
  · rename_i both
    exact both.1 ▸ keeps (both.1 ▸ closed)
  · exact closed

theorem Deed.length_le (deed : Deed w act m) : w.sessions.length ≤ m.world.sessions.length := by
  cases deed with
  | opened => simp
  | _ => simp [World.onSession]

theorem session_congr {v : World} (same : v.sessions = w.sessions) (j : Nat) :
    v.session j = w.session j := by
  simp only [World.session, same]

theorem Deed.isClosed (deed : Deed w act m) (short : j < w.sessions.length)
    (closed : (w.session j).isClosed = true) : (m.world.session j).isClosed = true := by
  cases deed with
  | offerWritten here ends =>
    exact isClosed_onSession (fun h => ends.isStopped_eq.trans h) closed
  | answerWritten here ends =>
    exact isClosed_onSession (fun h => ends.isStopped_eq.trans h) closed
  | answerFailed here ends =>
    exact isClosed_onSession (fun h => ends.isStopped_eq.trans h) closed
  | withdrawalWritten here ends =>
    exact isClosed_onSession (fun h => ends.isStopped_eq.trans h) closed
  | withdrawalFailed here ends =>
    exact isClosed_onSession (fun h => ends.isStopped_eq.trans h) closed
  | offerFailed here ends =>
    exact isClosed_onSession (fun _ => rfl)
      (isClosed_onSession (fun h => ends.isStopped_eq.trans h) closed)
  | take | rest | lose | refresh => exact isClosed_onSession (fun h => h) closed
  | reopen | mismeasure | backOff | stop | drop => exact isClosed_onSession (fun _ => rfl) closed
  | peer i act => exact isClosed_onSession (fun h => (isClosed_peerAct _ act).trans h) closed
  | opened session =>
    have same : (w.sessions ++ [session])[j]? = w.sessions[j]? := List.getElem?_append_left short
    simpa only [World.session, List.getD_eq_getElem?_getD, same] using closed
  | _ => exact closed

theorem Standing.fresh_deed (standing : Standing w) (deed : Deed w act m) (i : Nat)
    (offered : m.world.offered? = some i) : i + 1 = m.world.sessions.length := by
  have fresh := standing.fresh
  cases deed with
  | offer here | offerWritten here =>
    simp_all [World.offered?]
  | @awaitSpace task message here =>
    cases task <;> simp_all [World.offered?]
  | peer | elapse | shutDown | shutDownAgain => simpa using fresh i offered
  | opened session here =>
    simp only [World.offered?, Option.some.injEq] at offered
    simp [← offered]
  | unopened here setback | offerFailed here ends setback =>
    cases setback <;> simp [World.offered?] at offered
  | _ => simp [World.offered?] at offered

theorem Standing.used_deed (standing : Standing w) (deed : Deed w act m)
    (serving : m.world.isServing = true) : m.world.held < m.world.sessions.length := by
  have used := standing.used
  have fresh := standing.fresh
  cases deed with
  | installFirst here | installNext here =>
    have := fresh _ (by rw [World.offered?, here])
    simp; omega
  | @awaitSpace task message here =>
    cases task <;> simp_all [World.isServing]
  | opened session here =>
    have : w.held < w.sessions.length := used (by simpa [World.isServing, here] using serving)
    simp; omega
  | unopened here setback | offerFailed here ends setback =>
    cases setback <;> simp_all [World.isServing, Purpose.isFirst]
  | peer | elapse | shutDown | shutDownAgain => simpa using used serving
  | _ => simp_all [World.isServing, Purpose.isFirst]

theorem Standing.apart_deed (standing : Standing w) (deed : Deed w act m)
    (serving : m.world.isServing = true) (i : Nat) (offered : m.world.offered? = some i) :
    m.world.held ≠ i := by
  have used := standing.used
  have apart := standing.apart
  cases deed with
  | @awaitSpace task message here =>
    cases task <;> simp_all [World.isServing, World.offered?]
  | opened session here =>
    have : w.held < w.sessions.length := used (by simpa [World.isServing, here] using serving)
    simp only [World.offered?, Option.some.injEq] at offered
    simp; omega
  | unopened here setback | offerFailed here ends setback =>
    cases setback <;> simp [World.offered?] at offered
  | offer here | offerWritten here => simp_all [World.isServing, World.offered?]
  | peer | elapse | shutDown | shutDownAgain => simpa using apart serving i offered
  | _ => simp [World.offered?] at offered

/-- Whichever session the agent gives up it has closed. -/
theorem Deed.closes (deed : Deed w act m) (short : j < w.sessions.length)
    (opened : w.open? = some j) (left : m.world.open? ≠ some j) :
    (m.world.session j).isClosed = true := by
  cases deed with
  | @awaitSpace task message here =>
    cases task <;> simp_all [World.open?]
  | offerFailed here ends setback =>
    simp only [World.open?, here, Option.some.injEq] at opened
    subst opened
    refine congrArg Session.isClosed (World.session_onSession_self (w := w.onSession _ _) ?_ _)
    simpa using short
  | reopen here | backOff here | stop here | drop here =>
    simp only [World.open?, here, Option.some.injEq] at opened
    subst opened
    exact congrArg Session.isClosed (World.session_onSession_self short _)
  | unopened here setback => simp [World.open?, here] at opened
  | peer | elapse | shutDown | shutDownAgain => exact absurd opened left
  | _ => simp_all [World.open?]

theorem Standing.closed_deed (standing : Standing w) (deed : Deed w act m)
    (short : j < m.world.sessions.length) (left : m.world.open? ≠ some j) :
    (m.world.session j).isClosed = true := by
  by_cases known : j < w.sessions.length
  · by_cases opened : w.open? = some j
    · exact deed.closes known opened left
    · exact deed.isClosed known (standing.closed j known opened)
  · cases deed with
    | opened session here =>
      simp only [List.length_append, List.length_singleton] at short
      exact absurd (congrArg some (by omega)) left
    | _ => exact absurd (by simpa using short) known

theorem Standing.deed (standing : Standing w) (deed : Deed w act m) : Standing m.world where
  fresh := standing.fresh_deed deed
  used := standing.used_deed deed
  apart := standing.apart_deed deed
  closed _ := standing.closed_deed deed

end Deeds

end Agent

end FunctionAgent
