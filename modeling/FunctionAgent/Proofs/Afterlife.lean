import FunctionAgent.Proofs.Collecting
import FunctionAgent.Proofs.Latch
import FunctionAgent.Stream.Duplex
/-!
# A stream after its end

Once a reading has told the end of a stream, this end stays for good, and every later reading tells
the same end or hands out a message that was delivered in the meantime (`Duplex.Afterlife`). There
is such a message only where the agent has stopped the stream while the peer was still sending: the
messages of the peer come in until it ends them, and neither the end that the agent set nor the
reading that told it keeps them out. Where the peer has ended its messages nothing is handed out any
more.
-/

set_option autoImplicit false

namespace FunctionAgent.Duplex

/-- What the two sides of a stream do. -/
inductive Doing (σ ρ : Type) where
  /-- A message is written while the peer does what it does at given milliseconds. -/
  | send (a : σ) (acts : List (Nat × Outbound.Act))
  | receive
  | stop
  /-- The peer acts at its end of the writing half. -/
  | peer (act : Outbound.Act)
  | deliver (a : ρ)
  | endFeed (how : StreamEnd)

/-- What is noticed at the reading half. -/
inductive Notice (ρ : Type) where
  | delivered (a : ρ)
  | received (result : Except TransportFailure (Option ρ))

namespace Notice

variable {ρ : Type}

def delivered? : Notice ρ → Option ρ
  | .delivered a => some a
  | _ => none

/-- The message that was handed out. -/
def handed? : Notice ρ → Option ρ
  | .received (.ok (some a)) => some a
  | _ => none

end Notice

section Doings

variable {σ ρ : Type}

/-- One doing. What the peer delivers after its end is not noticed. -/
def perform (d : Duplex σ ρ) : Doing σ ρ → List (Notice ρ) × Duplex σ ρ
  | .send a acts => ([], { d with outbound := (d.outbound.perform (.send a acts)).2 })
  | .receive => ([.received d.receive.1], d.receive.2)
  | .stop => ([], d.stop)
  | .peer act => ([], { d with outbound := (d.outbound.act act).2 })
  | .deliver a => (if d.isFed then [.delivered a] else [], d.deliver a)
  | .endFeed how => ([], d.endFeed how)

/-- A history of doings. -/
def run (d : Duplex σ ρ) : List (Doing σ ρ) → List (Notice ρ) × Duplex σ ρ
  | [] => ([], d)
  | doing :: doings =>
    let (notices, after) := d.perform doing
    let (more, last) := after.run doings
    (notices ++ more, last)

theorem run_cons (d : Duplex σ ρ) (doing : Doing σ ρ) (doings : List (Doing σ ρ)) :
    d.run (doing :: doings) =
      ((d.perform doing).1 ++ ((d.perform doing).2.run doings).1,
        ((d.perform doing).2.run doings).2) := rfl

end Doings

/-! ## After a reading has told the end -/

/-- What holds of a stream of which a reading has told the end, and of all that was noticed of it
since. -/
structure Afterlife {σ ρ : Type} (failure : TransportFailure) (notices : List (Notice ρ))
    (d : Duplex σ ρ) : Prop where
  /-- The end stays what it was. -/
  ended : ∃ how, d.inbound.ended = some how ∧ failure = .streamEnded how.message
  /-- What is handed out, and what waits, was delivered since, in this order. -/
  conserved : notices.filterMap Notice.handed? ++ d.inbound.queue
    = notices.filterMap Notice.delivered?
  /-- A reading that hands out nothing tells the same end. -/
  readings : ∀ result, .received result ∈ notices →
    result = .error failure ∨ ∃ a, result = .ok (some a)

section Afterlife

variable {σ ρ : Type} {failure : TransportFailure} {notices : List (Notice ρ)} {d : Duplex σ ρ}

/-- The account goes on by what a doing adds to it. -/
theorem Afterlife.append (afterlife : Afterlife failure notices d) {new : List (Notice ρ)}
    {e : Duplex σ ρ} (ended : ∀ how, d.inbound.ended = some how → e.inbound.ended = some how)
    (moved : new.filterMap Notice.handed? ++ e.inbound.queue
      = d.inbound.queue ++ new.filterMap Notice.delivered?)
    (readings : ∀ result, .received result ∈ new →
      result = .error failure ∨ ∃ a, result = .ok (some a)) :
    Afterlife failure (notices ++ new) e where
  ended := by
    obtain ⟨how, told, text⟩ := afterlife.ended
    exact ⟨how, ended how told, text⟩
  conserved := by
    rw [List.filterMap_append, List.filterMap_append, List.append_assoc, moved,
      ← List.append_assoc, afterlife.conserved]
  readings := by
    intro result member
    rcases List.mem_append.1 member with old | young
    · exact afterlife.readings result old
    · exact readings result young

/-- What leaves the reading half alone is not noticed. -/
theorem Afterlife.unnoticed (afterlife : Afterlife failure notices d) {e : Duplex σ ρ}
    (queue : e.inbound.queue = d.inbound.queue)
    (ended : ∀ how, d.inbound.ended = some how → e.inbound.ended = some how) :
    Afterlife failure (notices ++ []) e := by
  apply afterlife.append ended
  · simpa using queue
  · simp

/-- A second end does not count. -/
theorem ended_finish_of_some {i : Inbound ρ} {first : StreamEnd} (told : i.ended = some first)
    (how : StreamEnd) : (i.finish how).ended = some first := by
  rw [Inbound.ended_finish, told]
  rfl

/-- A reading hands out the oldest message, or tells the end. -/
theorem Afterlife.receive (afterlife : Afterlife failure notices d) :
    Afterlife failure (notices ++ [.received d.receive.1]) d.receive.2 := by
  obtain ⟨how, told, text⟩ := afterlife.ended
  obtain ⟨⟨queue, ended⟩, outbound, isFed⟩ := d
  obtain rfl : ended = some how := told
  cases queue with
  | nil =>
    apply afterlife.append
    · exact fun _ same => same
    · rfl
    · intro result member
      injection List.mem_singleton.1 member with same
      exact .inl (same.trans (congrArg Except.error text.symm))
  | cons a rest =>
    apply afterlife.append
    · exact fun _ same => same
    · exact (List.append_nil _).symm
    · intro result member
      injection List.mem_singleton.1 member with same
      exact .inr ⟨a, same⟩

theorem Afterlife.perform (afterlife : Afterlife failure notices d) (doing : Doing σ ρ) :
    Afterlife failure (notices ++ (d.perform doing).1) (d.perform doing).2 := by
  cases doing with
  | receive => exact afterlife.receive
  | send a acts => exact afterlife.unnoticed rfl fun _ same => same
  | peer act => exact afterlife.unnoticed rfl fun _ same => same
  | stop => exact afterlife.unnoticed rfl fun _ told => ended_finish_of_some told .completed
  | endFeed how =>
    cases fed : d.isFed with
    | false =>
      simp only [Duplex.perform, endFeed, fed]
      exact afterlife.unnoticed rfl fun _ same => same
    | true =>
      simp only [Duplex.perform, endFeed, fed]
      exact afterlife.unnoticed rfl fun _ told => ended_finish_of_some told how
  | deliver a =>
    cases fed : d.isFed with
    | false =>
      simp only [Duplex.perform, deliver, fed]
      exact afterlife.unnoticed rfl fun _ same => same
    | true =>
      simp only [Duplex.perform, deliver, fed]
      apply afterlife.append
      · exact fun _ same => same
      · rfl
      · simp

theorem Afterlife.run (afterlife : Afterlife failure notices d) (doings : List (Doing σ ρ)) :
    Afterlife failure (notices ++ (d.run doings).1) (d.run doings).2 := by
  induction doings generalizing notices d with
  | nil => simpa [Duplex.run] using afterlife
  | cons doing doings later =>
    have next := later (afterlife.perform doing)
    rw [List.append_assoc] at next
    exact next

/-- The afterlife of a stream begins when a reading tells its end. -/
theorem Afterlife.begin (told : d.receive.1 = .error failure) : Afterlife failure [] d := by
  obtain ⟨empty, how, ended, text⟩ := (SharedInbound.receive_eq_error_iff d.inbound failure).1 told
  exact ⟨⟨how, ended, text⟩, empty, by simp⟩

/-- A peer that has ended its messages delivers none. -/
theorem delivered_eq_nil (doings : List (Doing σ ρ)) (unfed : d.isFed = false) :
    (d.run doings).1.filterMap Notice.delivered? = [] := by
  induction doings generalizing d with
  | nil => rfl
  | cons doing doings later =>
    rw [run_cons, List.filterMap_append]
    cases doing with
    | deliver a =>
      have unchanged : d.perform (.deliver a) = ([], d) := by simp [perform, deliver, unfed]
      rw [unchanged]
      exact later unfed
    | endFeed how =>
      have unchanged : d.perform (.endFeed how) = ([], d) := by simp [perform, endFeed, unfed]
      rw [unchanged]
      exact later unfed
    | _ => exact later unfed

end Afterlife

/-! ## Whose end it is -/

section Ends

variable {σ ρ : Type} {d : Duplex σ ρ}

/-- In a doing after which the peer is still sending only the agent can have ended the stream. -/
theorem ended_perform {doing : Doing σ ρ} (fed : (d.perform doing).2.isFed = true) :
    d.isFed = true ∧ ((d.perform doing).2.inbound.ended = d.inbound.ended ∨
      doing = .stop ∧
        (d.perform doing).2.inbound.ended = (d.inbound.ended <|> some .completed)) := by
  cases doing with
  | stop => exact ⟨fed, .inr ⟨rfl, rfl⟩⟩
  | receive => exact ⟨fed, .inl (SharedInbound.receive_moves d.inbound).2⟩
  | send | peer => exact ⟨fed, .inl rfl⟩
  | deliver a =>
    cases sending : d.isFed with
    | false => simp [perform, deliver, sending] at fed
    | true => simp [perform, deliver, sending]
  | endFeed how =>
    cases sending : d.isFed with
    | false => simp [perform, endFeed, sending] at fed
    | true => simp [perform, endFeed, sending] at fed

/-- After a history after which the peer is still sending only the agent can have ended the
stream. -/
theorem ended_run {doings : List (Doing σ ρ)} (fed : (d.run doings).2.isFed = true) :
    d.isFed = true ∧ ((d.run doings).2.inbound.ended = d.inbound.ended ∨
      .stop ∈ doings ∧
        (d.run doings).2.inbound.ended = (d.inbound.ended <|> some .completed)) := by
  induction doings generalizing d with
  | nil => exact ⟨fed, .inl rfl⟩
  | cons doing doings later =>
    rw [run_cons] at fed ⊢
    obtain ⟨fed, rest⟩ := later (d := (d.perform doing).2) fed
    obtain ⟨fed, first⟩ := ended_perform fed
    refine ⟨fed, ?_⟩
    rcases first with same | ⟨rfl, stopped⟩
    · rw [same] at rest
      exact rest.imp_right fun stops => ⟨List.mem_cons_of_mem _ stops.1, stops.2⟩
    · refine .inr ⟨List.mem_cons_self, ?_⟩
      rcases rest with same | ⟨-, again⟩
      · exact same.trans stopped
      · rw [stopped] at again
        refine again.trans ?_
        cases d.inbound.ended <;> rfl

end Ends

/-! ## The whole of it -/

/-- What becomes of a stream of which a reading tells the end, after some doings. -/
structure Over {σ ρ : Type} (doings : List (Doing σ ρ)) (failure : TransportFailure)
    (d : Duplex σ ρ) : Prop where
  /-- Whatever follows, a reading tells the same end or hands out what was delivered since. -/
  afterlife : ∀ more, Afterlife failure (d.run more).1 (d.run more).2
  /-- Where the peer has ended its messages every reading tells the same end. -/
  final : d.isFed = false → ∀ more result, .received result ∈ (d.run more).1 →
    result = .error failure
  /-- Where the peer is still sending it was the agent that stopped the stream, and the next message
  of the peer is handed out. -/
  late : d.isFed = true → .stop ∈ doings ∧ failure = .streamEnded "stream completed" ∧
    ∀ a, (d.run [.deliver a, .receive]).1 = [.delivered a, .received (.ok (some a))]

section Over

variable {σ ρ : Type} {failure : TransportFailure}

/-- Whatever was done to a stream of which a reading tells the end, this is what becomes of it. -/
theorem over_of_told (outbound : Outbound σ) (doings : List (Doing σ ρ))
    (told : ((start outbound).run doings).2.receive.1 = .error failure) :
    Over doings failure ((start outbound).run doings).2 where
  afterlife := fun more => by simpa using (Afterlife.begin told).run more
  final := by
    intro unfed more result member
    have afterlife := (Afterlife.begin told).run more
    rcases afterlife.readings result member with same | ⟨a, handed⟩
    · exact same
    · have account := afterlife.conserved
      rw [List.nil_append, delivered_eq_nil more unfed, List.append_eq_nil_iff] at account
      have among : a ∈ (((start outbound).run doings).2.run more).1.filterMap Notice.handed? :=
        List.mem_filterMap.2 ⟨.received result, member, by rw [handed]; rfl⟩
      rw [account.1] at among
      contradiction
  late := by
    intro fed
    obtain ⟨empty, how, ended, text⟩ := (SharedInbound.receive_eq_error_iff _ _).1 told
    rcases (ended_run fed).2 with same | ⟨stops, completed⟩
    · rw [same] at ended
      contradiction
    obtain rfl : .completed = how := Option.some.inj (completed.symm.trans ended)
    refine ⟨stops, text, fun a => ?_⟩
    generalize ((start outbound).run doings).2 = d at fed empty
    obtain ⟨⟨queue, ended⟩, outbound, isFed⟩ := d
    obtain rfl : queue = [] := empty
    obtain rfl : isFed = true := fed
    rfl

end Over

/-- The agent has stopped the stream and the peer is still sending. -/
theorem over_while_sending :
    ((start (Outbound.fresh 1) : Duplex Char Char).run
        [.deliver 'a', .stop, .receive]).2.receive.1 = .error (.streamEnded "stream completed") ∧
      Over [.deliver 'a', .stop, .receive] (.streamEnded "stream completed")
        ((start (Outbound.fresh 1) : Duplex Char Char).run [.deliver 'a', .stop, .receive]).2 :=
  ⟨rfl, over_of_told _ _ rfl⟩

/-- It is not so that every reading tells the end once one has told it: here a message comes after
the agent has stopped the stream and has been told so. -/
theorem end_is_not_final :
    ¬ ∀ (outbound : Outbound Char) (doings more : List (Doing Char Char))
        (failure : TransportFailure),
      ((start outbound).run doings).2.receive.1 = .error failure →
        ∀ result, .received result ∈ (((start outbound).run doings).2.run more).1 →
          result = .error failure := by
  intro final
  have same := final (Outbound.fresh 8) [.stop] [.receive, .deliver 'm', .receive]
    (.streamEnded "stream completed") rfl (.ok (some 'm'))
    (List.mem_cons_of_mem _ (List.mem_cons_of_mem _ List.mem_cons_self))
  contradiction

end FunctionAgent.Duplex
