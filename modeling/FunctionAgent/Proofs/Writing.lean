import FunctionAgent.Proofs.Stage
/-!
# Writing to a session

A message is accepted when it goes into the writing half of a session. A closed session accepts
nothing, and writing stops with the first failure, so what a session accepts is the beginning of
what was tried on it (`Steady`).
-/

set_option autoImplicit false

namespace FunctionAgent.Agent

namespace World

/-- The messages that wait on a session. -/
def queued (w : World) (i : Nat) : List Update := (w.session i).stream.outbound.queue

/-- The fault that a session keeps. -/
def latched (w : World) (i : Nat) : Option WriteFault := (w.session i).stream.outbound.latched

end World

/-- What a step writes to a session, and what this does to the session. -/
inductive Writes (w : World) (act : Option Act) (i : Nat) (v : World) : List Sign → Prop where
  | nothing {signs : List Sign} (tried : signs.filterMap Sign.message? = [])
      (latched : v.latched i = w.latched i)
      (queued : (∀ j peerAct, act ≠ some (.peer j peerAct)) → v.queued i = w.queued i) :
      Writes w act i v signs
  | accepted (message : Message) (opened : (w.session i).isClosed = false)
      (sound : w.latched i = none) (latched : v.latched i = none)
      (queued : v.queued i = w.queued i ++ [message.toUpdate]) :
      Writes w act i v [.accepted message]
  | refused (message : Message) {fault : WriteFault} (latched : v.latched i = some fault)
      (queued : v.queued i = w.queued i) : Writes w act i v [.tried message (.error fault)]

section Writing

variable {w v : World} {act : Option Act} {m : Move} {i : Nat} {message : Message}
  {deadline : Option Nat} {o : Outbound Update}

theorem writes_accepted {j : Nat} {signs : List Sign}
    (ends : (w.session j).stream.outbound.Ends message.toUpdate w.clock deadline (.ok (), o))
    (shown : signs = if j = i then [.accepted message] else [])
    (after : j = i → v.session i = (w.session i).withOutbound o)
    (other : j ≠ i → v.session i = w.session i) : Writes w act i v signs := by
  subst shown
  by_cases same : j = i
  · subst same
    obtain ⟨sound, opened, rfl⟩ := ends.taken
    rw [if_pos rfl]
    refine .accepted message opened sound ?_ ?_
    · rw [World.latched, after rfl]
      exact sound
    · rw [World.queued, after rfl]
      rfl
  · rw [if_neg same]
    refine .nothing rfl ?_ fun _ => ?_
    · rw [World.latched, other same, World.latched]
    · rw [World.queued, other same, World.queued]

theorem writes_refused {j : Nat} {signs : List Sign} {fault : WriteFault}
    (ends : (w.session j).stream.outbound.Ends message.toUpdate w.clock deadline (.error fault, o))
    (shown : signs = if j = i then [.tried message (.error fault)] else [])
    (after : j = i →
      (v.session i).stream.outbound = o ∨ (v.session i).stream.outbound = o.stop)
    (other : j ≠ i → v.session i = w.session i) : Writes w act i v signs := by
  subst shown
  by_cases same : j = i
  · subst same
    obtain ⟨-, rfl⟩ := ends.refused
    rw [if_pos rfl]
    have latched : v.latched j = some fault := by
      rw [World.latched]
      rcases after rfl with after | after <;> rw [after] <;> rfl
    have queued : v.queued j = w.queued j := by
      rw [World.queued]
      rcases after rfl with after | after <;> rw [after] <;> rfl
    exact .refused message latched queued
  · rw [if_neg same]
    refine .nothing rfl ?_ fun _ => ?_
    · rw [World.latched, other same, World.latched]
    · rw [World.queued, other same, World.queued]

/-- A step that tries nothing on a session leaves its queue and its fault as they are, unless the
broker acts. -/
theorem writes_nothing {f : Session → Session} {j : Nat} {signs : List Sign}
    (tried : signs.filterMap Sign.message? = []) (same : v.sessions = (w.onSession j f).sessions)
    (latched : ∀ s, (f s).stream.outbound.latched = s.stream.outbound.latched)
    (queued : (∀ j peerAct, act ≠ some (.peer j peerAct)) →
      ∀ s, (f s).stream.outbound.queue = s.stream.outbound.queue) :
    Writes w act i v signs := by
  refine .nothing tried ?_ fun alone => ?_
  · rw [World.latched, session_congr same]
    exact World.onSession_keeps (·.stream.outbound.latched) latched
  · rw [World.queued, session_congr same]
    exact World.onSession_keeps (·.stream.outbound.queue) (queued alone)

theorem latched_peerAct (s : Session) (act : Session.PeerAct) :
    (s.peerAct act).stream.outbound.latched = s.stream.outbound.latched := by
  cases act with
  | deliver u =>
    simp only [Session.peerAct, Duplex.deliver]
    split <;> rfl
  | endFeed how =>
    simp only [Session.peerAct, Duplex.endFeed]
    split <;> rfl
  | outbound act =>
    simp only [Session.peerAct, Session.withOutbound]
    cases act with
    | read =>
      simp only [Outbound.act, Outbound.read]
      split
      · rfl
      · rfl
      · rfl
      · split <;> rfl
    | shut =>
      simp only [Outbound.act, Outbound.shut]
      split <;> rfl
    | abandon => rfl

/-- Every step of an agent writes in this way. -/
theorem Deed.writes (deed : Deed w act m) (known : i < w.sessions.length) :
    Writes w act i m.world ((⟨w, act, m⟩ : Beat).signs i) := by
  cases deed with
  | offerWritten here ends =>
    refine writes_accepted ends ?_ (fun same => ?_) (fun other => ?_)
    · simp [Beat.signs, Beat.heard, World.shown, here]
    · exact same ▸ World.session_onSession_self (same ▸ known) _
    · exact World.session_onSession_of_ne other _
  | answerWritten here ends | withdrawalWritten here ends =>
    refine writes_accepted ends ?_ (fun same => ?_) (fun other => ?_)
    · simp [Beat.signs, Beat.heard, World.shown, here]
    · exact same ▸ World.session_onSession_self (same ▸ known) _
    · exact World.session_onSession_of_ne other _
  | @answerFailed _ _ _ o here ends | @withdrawalFailed _ _ _ _ _ _ o here ends =>
    refine writes_refused ends ?_ (fun same => .inl ?_) (fun other => ?_)
    · simp [Beat.signs, Beat.heard, World.shown, here]
    · subst same
      exact congrArg (·.stream.outbound) (World.session_onSession_self known (·.withOutbound o))
    · exact World.session_onSession_of_ne other _
  | @offerFailed _ j _ _ _ _ o _ _ here ends setback =>
    refine writes_refused ends ?_ (fun same => .inr ?_) (fun other => ?_)
    · simp [Beat.signs, Beat.heard, World.shown, here, shown_setback setback,
        -List.flatMap_eq_nil_iff]
    · subst same
      have written := World.session_onSession_self known (·.withOutbound o)
      have stopped := World.session_onSession_self (w := w.onSession j (·.withOutbound o)) (i := j)
        (by simpa using known) Session.stop
      exact (congrArg (·.stream.outbound) stopped).trans
        (congrArg (fun s : Session => s.stream.outbound.stop) written)
    · exact (World.session_onSession_of_ne other _).trans (World.session_onSession_of_ne other _)
  | opened session here =>
    have same : (w.sessions ++ [session])[i]? = w.sessions[i]? := List.getElem?_append_left known
    refine .nothing (by simp [Beat.signs, Beat.heard]) ?_ fun _ => ?_
    · simp only [World.latched, World.session, List.getD_eq_getElem?_getD, same]
    · simp only [World.queued, World.session, List.getD_eq_getElem?_getD, same]
  | take here | rest here | lose here | refresh here | reopen here | mismeasure here | backOff here
  | stop here | drop here =>
    refine writes_nothing ?_ rfl (fun _ => rfl) fun _ _ => rfl
    simp [Beat.signs, Beat.heard, World.shown, shown_publication, here]
  | peer j act =>
    refine writes_nothing (by simp [Beat.signs, Beat.heard]) rfl (latched_peerAct · act)
      fun alone => ?_
    exact absurd rfl (alone j act)
  | shutDown | shutDownAgain | elapse =>
    refine .nothing ?_ rfl fun _ => rfl
    simp [Beat.signs, Beat.heard, World.shown]
  | unopened here setback =>
    refine .nothing ?_ rfl fun _ => rfl
    simp [Beat.signs, Beat.heard, shown_setback setback]
  | _ =>
    refine .nothing ?_ rfl fun _ => rfl
    simp +contextual [Beat.signs, Beat.heard, World.shown, shown_publication, *]

/-! ## What is accepted of what is tried -/

/-- What a session accepted is the beginning of what was tried on it, and all of it as long as no
write failed. -/
structure Steady (w : World) (i : Nat) (signs : List Sign) : Prop where
  fresh : w.sessions.length ≤ i → signs = []
  order : signs.filterMap Sign.accepted? <+: signs.filterMap Sign.message?
  whole : w.latched i = none → signs.filterMap Sign.accepted? = signs.filterMap Sign.message?

theorem accepted_eq_nil {signs : List Sign} (tried : signs.filterMap Sign.message? = []) :
    signs.filterMap Sign.accepted? = [] := by
  rw [List.filterMap_eq_nil_iff] at tried ⊢
  intro sign member
  have untried := tried sign member
  cases sign with
  | tried => simp at untried
  | _ => rfl

theorem Steady.deed {signs : List Sign} (steady : Steady w i signs) (standing : Standing w)
    (deed : Deed w act m) : Steady m.world i (signs ++ (⟨w, act, m⟩ : Beat).signs i) := by
  by_cases known : i < w.sessions.length
  · have remains := Nat.lt_of_lt_of_le known deed.length_le
    generalize (⟨w, act, m⟩ : Beat).signs i = new, deed.writes known = writes
    cases writes with
    | nothing tried latched queued =>
      have accepted := accepted_eq_nil tried
      refine ⟨fun later => by omega, ?_, fun sound => ?_⟩
      · simpa [tried, accepted] using steady.order
      · simpa [tried, accepted] using steady.whole (latched ▸ sound)
    | accepted message opened sound latched queued =>
      have same := steady.whole sound
      refine ⟨fun later => by omega, ?_, fun _ => ?_⟩
      · simp [same]
      · simp [same]
    | refused message latched queued =>
      refine ⟨fun later => by omega, ?_, fun sound => ?_⟩
      · simpa [List.filterMap_cons] using steady.order.trans (List.prefix_append _ [message])
      · simp [latched] at sound
  · have later := Nat.le_of_not_lt known
    have empty := steady.fresh later
    rw [empty, deed.signs_eq_nil (shuns_of_later standing later)]
    exact ⟨fun _ => rfl, List.prefix_refl _, fun _ => rfl⟩

end Writing

end FunctionAgent.Agent
