import FunctionAgent.Stream.Inbound
/-!
# Several parties at one reading half

A reading half has many owners, each of whom delivers, ends, stops and reads, and any number of pumps
that carry the items of a source into it, one at a time (`SharedInbound.step`). In whatever order
they take turns, what was handed out and what still waits is what was pushed, and the end is the
first sign of one.

`Collected` puts together what holds of a state and of everything that was noticed on the way to it;
a turn preserves it, and so does a run of turns.
-/

set_option autoImplicit false

namespace FunctionAgent

/-- What a source gives when it is asked for the first time, the second time, and so on; `none` where
it has run dry. -/
abbrev Source (α : Type) := Nat → Option (Except String α)

/-- What a source gives where a stream ends in some way. -/
def StreamEnd.item {α : Type} : StreamEnd → Option (Except String α)
  | .completed => none
  | .failed cause => some (.error cause)

/-- Carries the items of a source into a reading half, up to its first failure. -/
structure Pump (α : Type) where
  source : Source α
  /-- How many messages it has carried. -/
  carried : Nat
  isOver : Bool

/-- A reading half that several parties share. -/
structure SharedInbound (α : Type) where
  inbound : Inbound α
  owners : Nat
  /-- The pumps, the oldest first. -/
  pumps : List (Pump α)

namespace SharedInbound

/-- What an owner does. -/
inductive Act (α : Type) where
  /-- Shares the reading half with one more owner. -/
  | share
  | push (a : α)
  | fail (cause : String)
  | complete
  | stop
  | receive
  /-- Sets a pump to work. -/
  | attach (source : Source α)

/-- Who goes next. -/
inductive Turn (α : Type) where
  | owner (i : Nat) (act : Act α)
  | pump (i : Nat)

/-- What is noticed of a turn; what a pump does carries its number. -/
inductive Notice (α : Type) where
  | pushed (pump : Option Nat) (a : α)
  | signalled (pump : Option Nat) (how : StreamEnd)
  | received (result : Except TransportFailure (Option α))
  | attached (source : Source α)

namespace Notice

variable {α : Type}

def pushed? : Notice α → Option α
  | .pushed _ a => some a
  | _ => none

def signal? : Notice α → Option StreamEnd
  | .signalled _ how => some how
  | _ => none

/-- The message that was handed out. -/
def handed? : Notice α → Option α
  | .received (.ok (some a)) => some a
  | _ => none

def source? : Notice α → Option (Source α)
  | .attached source => some source
  | _ => none

/-- The message that a pump pushed. -/
def pushedBy? (i : Nat) : Notice α → Option α
  | .pushed pump a => if pump = some i then some a else none
  | _ => none

/-- The sign that a pump gave. -/
def signalBy? (i : Nat) : Notice α → Option StreamEnd
  | .signalled pump how => if pump = some i then some how else none
  | _ => none

end Notice

section Turns

variable {α : Type}

/-- A reading half into which nothing has come yet, with one owner. -/
def fresh : SharedInbound α := ⟨.empty, 1, []⟩

/-- A pump takes the next item of its source, unless it is over. -/
def pumped (s : SharedInbound α) (i : Nat) (p : Pump α) : List (Notice α) × SharedInbound α :=
  if p.isOver then ([], s) else
    match p.source p.carried with
    | some (.ok a) =>
      ([.pushed (some i) a],
        { s with
          inbound := s.inbound.push a, pumps := s.pumps.set i { p with carried := p.carried + 1 } })
    | some (.error cause) =>
      ([.signalled (some i) (.failed cause)],
        { s with inbound := s.inbound.fail cause, pumps := s.pumps.set i { p with isOver := true } })
    | none =>
      ([.signalled (some i) .completed],
        { s with inbound := s.inbound.complete, pumps := s.pumps.set i { p with isOver := true } })

/-- One turn; it does not matter which of the owners it is that acts. -/
def step (s : SharedInbound α) : Turn α → List (Notice α) × SharedInbound α
  | .owner _ .share => ([], { s with owners := s.owners + 1 })
  | .owner _ (.push a) => ([.pushed none a], { s with inbound := s.inbound.push a })
  | .owner _ (.fail cause) =>
    ([.signalled none (.failed cause)], { s with inbound := s.inbound.fail cause })
  | .owner _ .complete | .owner _ .stop =>
    ([.signalled none .completed], { s with inbound := s.inbound.complete })
  | .owner _ .receive =>
    ([.received s.inbound.receive.1], { s with inbound := s.inbound.receive.2 })
  | .owner _ (.attach source) =>
    ([.attached source], { s with pumps := s.pumps ++ [⟨source, 0, false⟩] })
  | .pump i =>
    match s.pumps[i]? with
    | some p => s.pumped i p
    | none => ([], s)

/-- Turns one after the other, in whatever order the parties get to act. -/
def run (s : SharedInbound α) : List (Turn α) → List (Notice α) × SharedInbound α
  | [] => ([], s)
  | turn :: turns =>
    let (notices, after) := s.step turn
    let (more, last) := after.run turns
    (notices ++ more, last)

theorem run_cons (s : SharedInbound α) (turn : Turn α) (turns : List (Turn α)) :
    s.run (turn :: turns) =
      ((s.step turn).1 ++ ((s.step turn).2.run turns).1, ((s.step turn).2.run turns).2) := rfl

theorem run_append (s : SharedInbound α) (turns more : List (Turn α)) :
    s.run (turns ++ more) =
      ((s.run turns).1 ++ ((s.run turns).2.run more).1, ((s.run turns).2.run more).2) := by
  induction turns generalizing s with
  | nil => rfl
  | cons turn turns rest =>
    rw [List.cons_append, run_cons, rest (s.step turn).2, run_cons]
    simp only [List.append_assoc]

end Turns

/-! ## What holds at every point -/

/-- How a pump stands to the messages that it pushed and the signs that it gave. -/
inductive Pumped {α : Type} : Option (Pump α) → List α → List StreamEnd → Prop where
  | unattached : Pumped none [] []
  /-- It has pushed the first items of its source, none of which is a failure. -/
  | going {p : Pump α} {given : List α} (going : p.isOver = false)
      (carried : p.carried = given.length)
      (items : ∀ k a, given[k]? = some a → p.source k = some (.ok a)) : Pumped (some p) given []
  /-- It has pushed all that stands before the first failure, or the end, of its source, and that is
  the sign that it gave. -/
  | spent {p : Pump α} {given : List α} {how : StreamEnd} (spent : p.isOver = true)
      (items : ∀ k a, given[k]? = some a → p.source k = some (.ok a))
      (last : p.source given.length = how.item) : Pumped (some p) given [how]

/-- What holds of a shared reading half and of all that was noticed since it was fresh. -/
structure Collected {α : Type} (notices : List (Notice α)) (s : SharedInbound α) : Prop where
  /-- What was handed out and what still waits is what was pushed, in its order. -/
  conserved : notices.filterMap Notice.handed? ++ s.inbound.queue = notices.filterMap Notice.pushed?
  /-- The end is the first sign of one. -/
  ended : s.inbound.ended = (notices.filterMap Notice.signal?).head?
  /-- The pumps have the sources that were attached. -/
  sources : s.pumps.map Pump.source = notices.filterMap Notice.source?
  pumps : ∀ i, Pumped s.pumps[i]? (notices.filterMap (Notice.pushedBy? i))
    (notices.filterMap (Notice.signalBy? i))

section Keeping

variable {α : Type} {notices : List (Notice α)} {s : SharedInbound α}

theorem getElem?_concat_of_ne {xs : List α} {k : Nat} (a : α) (other : k ≠ xs.length) :
    (xs ++ [a])[k]? = xs[k]? := by
  rcases Nat.lt_or_gt_of_ne other with before | behind
  · exact List.getElem?_append_left before
  · have past : (xs ++ [a]).length ≤ k := by
      rw [List.length_append, List.length_singleton]
      exact behind
    rw [List.getElem?_eq_none past, List.getElem?_eq_none (Nat.le_of_lt behind)]

theorem Pumped.push {p : Pump α} {given : List α} {signs : List StreamEnd} {a : α}
    (pumped : Pumped (some p) given signs) (going : p.isOver = false)
    (next : p.source p.carried = some (.ok a)) :
    Pumped (some { p with carried := p.carried + 1 }) (given ++ [a]) signs := by
  cases pumped with
  | spent spent => simp [going] at spent
  | going _ carried items =>
    rw [carried] at next
    refine .going going ?_ ?_
    · simp [carried]
    · intro k b known
      by_cases last : k = given.length
      · subst last
        obtain rfl : a = b := by simpa using known
        exact next
      · rw [getElem?_concat_of_ne a last] at known
        exact items k b known

theorem Pumped.finish {p : Pump α} {given : List α} {signs : List StreamEnd} {how : StreamEnd}
    (pumped : Pumped (some p) given signs) (going : p.isOver = false)
    (next : p.source p.carried = how.item) :
    Pumped (some { p with isOver := true }) given (signs ++ [how]) := by
  cases pumped with
  | spent spent => simp [going] at spent
  | going _ carried items =>
    rw [carried] at next
    exact .spent rfl items next

theorem Collected.fresh : Collected [] (fresh : SharedInbound α) where
  conserved := rfl
  ended := rfl
  sources := rfl
  pumps := fun _ => .unattached

/-- The account goes on by what a turn adds to it. -/
theorem Collected.append {new : List (Notice α)} {t : SharedInbound α}
    (collected : Collected notices s)
    (moved : new.filterMap Notice.handed? ++ t.inbound.queue
      = s.inbound.queue ++ new.filterMap Notice.pushed?)
    (ended : t.inbound.ended = s.inbound.ended.or (new.filterMap Notice.signal?).head?)
    (sources : t.pumps.map Pump.source
      = s.pumps.map Pump.source ++ new.filterMap Notice.source?)
    (pumps : ∀ i, Pumped t.pumps[i]? ((notices ++ new).filterMap (Notice.pushedBy? i))
      ((notices ++ new).filterMap (Notice.signalBy? i))) : Collected (notices ++ new) t where
  conserved := by
    rw [List.filterMap_append, List.filterMap_append, List.append_assoc, moved,
      ← List.append_assoc, collected.conserved]
  ended := by rw [List.filterMap_append, List.head?_append, ended, collected.ended]
  sources := by rw [sources, collected.sources, List.filterMap_append]
  pumps := pumps

/-- What no pump did leaves the pumps as they stand. -/
theorem Collected.pumps_append (collected : Collected notices s) {new : List (Notice α)}
    (pushed : ∀ i, new.filterMap (Notice.pushedBy? i) = [])
    (signs : ∀ i, new.filterMap (Notice.signalBy? i) = []) (i : Nat) :
    Pumped s.pumps[i]? ((notices ++ new).filterMap (Notice.pushedBy? i))
      ((notices ++ new).filterMap (Notice.signalBy? i)) := by
  rw [List.filterMap_append, List.filterMap_append, pushed, signs, List.append_nil,
    List.append_nil]
  exact collected.pumps i

/-- What one pump does leaves the other pumps as they stand. -/
theorem Collected.pumps_set (collected : Collected notices s) {j : Nat} {p q : Pump α}
    (here : s.pumps[j]? = some p) {new : List (Notice α)}
    (pushed : ∀ i, i ≠ j → new.filterMap (Notice.pushedBy? i) = [])
    (signs : ∀ i, i ≠ j → new.filterMap (Notice.signalBy? i) = [])
    (moved : Pumped (some q) ((notices ++ new).filterMap (Notice.pushedBy? j))
      ((notices ++ new).filterMap (Notice.signalBy? j))) (i : Nat) :
    Pumped (s.pumps.set j q)[i]? ((notices ++ new).filterMap (Notice.pushedBy? i))
      ((notices ++ new).filterMap (Notice.signalBy? i)) := by
  by_cases same : i = j
  · subst same
    obtain ⟨known, -⟩ := List.getElem?_eq_some_iff.1 here
    rw [List.getElem?_set_self known]
    exact moved
  · rw [List.getElem?_set_ne (Ne.symm same), List.filterMap_append, List.filterMap_append,
      pushed i same, signs i same, List.append_nil, List.append_nil]
    exact collected.pumps i

/-- A pump keeps its source. -/
theorem sources_set {pumps : List (Pump α)} {j : Nat} {p : Pump α} (q : Pump α)
    (here : pumps[j]? = some p) (same : q.source = p.source) :
    (pumps.set j q).map Pump.source = pumps.map Pump.source := by
  obtain ⟨known, rfl⟩ := List.getElem?_eq_some_iff.1 here
  have known : j < (pumps.map Pump.source).length := by simpa using known
  have kept : (pumps.map Pump.source)[j] = q.source := by rw [List.getElem_map, same]
  rw [List.map_set, ← kept, List.set_getElem_self]

/-- A pump carries the next item. -/
theorem Collected.pumped (collected : Collected notices s) {i : Nat} {p : Pump α}
    (here : s.pumps[i]? = some p) :
    Collected (notices ++ (s.pumped i p).1) (s.pumped i p).2 := by
  have pump := collected.pumps i
  rw [here] at pump
  unfold SharedInbound.pumped
  by_cases spent : p.isOver = true
  · simpa [spent] using collected
  · have going : p.isOver = false := by simpa using spent
    -- A pump that gives a sign is over from then on.
    have finished : ∀ how : StreamEnd, p.source p.carried = how.item →
        Collected (notices ++ [.signalled (some i) how])
          { s with
            inbound := s.inbound.finish how, pumps := s.pumps.set i { p with isOver := true } } := by
      intro how next
      apply collected.append
      · exact (List.append_nil _).symm
      · exact Option.orElse_eq_or
      · exact (sources_set { p with isOver := true } here rfl).trans (List.append_nil _).symm
      · refine collected.pumps_set here (fun j _ => rfl) (fun j other => ?_) ?_
        · simp [Notice.signalBy?, Ne.symm other]
        · have moved := pump.finish going next
          simpa [Notice.signalBy?, Notice.pushedBy?, List.filterMap_cons] using moved
    cases next : p.source p.carried with
    | none => simpa [going, next, Inbound.complete] using finished .completed next
    | some item =>
      cases item with
      | error cause => simpa [going, next, Inbound.fail] using finished (.failed cause) next
      | ok a =>
        rw [if_neg spent]
        apply collected.append
        · rfl
        · exact Option.or_none.symm
        · exact (sources_set { p with carried := p.carried + 1 } here rfl).trans
            (List.append_nil _).symm
        · refine collected.pumps_set here (fun j other => ?_) (fun j _ => rfl) ?_
          · simp [Notice.pushedBy?, Ne.symm other]
          · have moved := pump.push going next
            simpa [Notice.signalBy?, Notice.pushedBy?, List.filterMap_cons] using moved

/-- Reading moves the oldest message out of the queue, if there is one, and leaves the end alone. -/
theorem receive_moves (i : Inbound α) :
    [Notice.received i.receive.1].filterMap Notice.handed? ++ i.receive.2.queue = i.queue ∧
      i.receive.2.ended = i.ended := by
  obtain ⟨queue, ended⟩ := i
  cases queue with
  | cons a rest => exact ⟨rfl, rfl⟩
  | nil =>
    cases ended with
    | none => exact ⟨rfl, rfl⟩
    | some how => exact ⟨rfl, rfl⟩

/-- A new pump has carried nothing. -/
theorem Collected.attached (collected : Collected notices s) (source : Source α) (i : Nat) :
    Pumped (s.pumps ++ [⟨source, 0, false⟩])[i]? (notices.filterMap (Notice.pushedBy? i))
      (notices.filterMap (Notice.signalBy? i)) := by
  have before := collected.pumps i
  by_cases new : i = s.pumps.length
  · subst new
    rw [List.getElem?_eq_none (Nat.le_refl _)] at before
    rw [List.getElem?_concat_length]
    generalize notices.filterMap (Notice.pushedBy? s.pumps.length) = given at before
    generalize notices.filterMap (Notice.signalBy? s.pumps.length) = signs at before
    cases before with
    | unattached => exact .going rfl rfl (by simp)
  · rw [getElem?_concat_of_ne _ new]
    exact before

/-- Every turn keeps the account. -/
theorem Collected.step (collected : Collected notices s) (turn : Turn α) :
    Collected (notices ++ (s.step turn).1) (s.step turn).2 := by
  -- An owner who gives a sign of the end.
  have finished : ∀ how : StreamEnd, Collected (notices ++ [.signalled none how])
      { s with inbound := s.inbound.finish how } := by
    intro how
    apply collected.append
    · exact (List.append_nil _).symm
    · exact Option.orElse_eq_or
    · exact (List.append_nil _).symm
    · exact collected.pumps_append (fun _ => rfl) fun _ => rfl
  cases turn with
  | pump i =>
    unfold SharedInbound.step
    cases here : s.pumps[i]? with
    | none => simpa [here] using collected
    | some p => simpa [here] using collected.pumped here
  | owner i act =>
    cases act with
    | share =>
      rw [SharedInbound.step, List.append_nil]
      exact ⟨collected.conserved, collected.ended, collected.sources, collected.pumps⟩
    | push a =>
      apply collected.append
      · rfl
      · exact Option.or_none.symm
      · exact (List.append_nil _).symm
      · exact collected.pumps_append (fun _ => rfl) fun _ => rfl
    | fail cause => exact finished (.failed cause)
    | complete | stop => exact finished .completed
    | receive =>
      obtain ⟨moved, ended⟩ := receive_moves s.inbound
      apply collected.append
      · exact moved.trans (List.append_nil _).symm
      · exact ended.trans Option.or_none.symm
      · exact (List.append_nil _).symm
      · exact collected.pumps_append (fun _ => rfl) fun _ => rfl
    | attach source =>
      apply collected.append
      · exact (List.append_nil _).symm
      · exact Option.or_none.symm
      · exact List.map_append
      · intro j
        rw [List.filterMap_append, List.filterMap_append]
        simpa [SharedInbound.step, Notice.pushedBy?, Notice.signalBy?, List.filterMap_cons]
          using collected.attached source j

theorem Collected.run (collected : Collected notices s) (turns : List (Turn α)) :
    Collected (notices ++ (s.run turns).1) (s.run turns).2 := by
  induction turns generalizing notices s with
  | nil => simpa [SharedInbound.run] using collected
  | cons turn turns later =>
    have next := later (collected.step turn)
    rw [List.append_assoc] at next
    exact next

/-! ## What a reading shows -/

theorem receive_eq_error_iff (i : Inbound α) (failure : TransportFailure) :
    i.receive.1 = .error failure ↔
      i.queue = [] ∧ ∃ how, i.ended = some how ∧ failure = .streamEnded how.message := by
  obtain ⟨queue, ended⟩ := i
  cases queue with
  | cons a rest => simp [Inbound.receive, Inbound.pop?]
  | nil =>
    cases ended with
    | none => simp [Inbound.receive, Inbound.pop?, Inbound.verdict]
    | some how => simp [Inbound.receive, Inbound.pop?, Inbound.verdict, eq_comm]

theorem receive_eq_none_iff (i : Inbound α) :
    i.receive.1 = .ok none ↔ i.queue = [] ∧ i.ended = none := by
  obtain ⟨queue, ended⟩ := i
  cases queue with
  | cons a rest => simp [Inbound.receive, Inbound.pop?]
  | nil =>
    cases ended with
    | none => simp [Inbound.receive, Inbound.pop?, Inbound.verdict]
    | some how => simp [Inbound.receive, Inbound.pop?, Inbound.verdict]

/-! ## A pump that is left alone -/

/-- A pump that is over does nothing any more. -/
theorem run_over {i : Nat} {p : Pump α} (here : s.pumps[i]? = some p) (spent : p.isOver = true)
    (turns : Nat) : (s.run (.replicate turns (.pump i))).2 = s := by
  have idle : s.step (.pump i) = ([], s) := by simp [SharedInbound.step, here, pumped, spent]
  induction turns with
  | zero => rfl
  | succ turns rest =>
    rw [List.replicate_succ, run_cons, idle]
    exact rest

theorem inbound_run_over {i : Nat} {p : Pump α} (known : i < s.pumps.length) (inbound : Inbound α)
    (turns : Nat) :
    (SharedInbound.run
      { s with inbound := inbound, pumps := s.pumps.set i { p with isOver := true } }
      (.replicate turns (.pump i))).2.inbound = inbound :=
  congrArg SharedInbound.inbound (run_over (List.getElem?_set_self known) rfl turns)

/-- A pump that is given turns enough does what a source does that is fed at once. -/
theorem run_pump {i : Nat} {p : Pump α} {items : List (Except String α)}
    (here : s.pumps[i]? = some p) (going : p.isOver = false)
    (ahead : ∀ k, p.source (p.carried + k) = items[k]?) (extra : Nat) :
    (s.run (.replicate (items.length + 1 + extra) (.pump i))).2.inbound = s.inbound.feed items := by
  obtain ⟨known, -⟩ := List.getElem?_eq_some_iff.1 here
  have next : p.source p.carried = items[0]? := ahead 0
  induction items generalizing s p with
  | nil =>
    have turn : s.step (.pump i) = ([.signalled (some i) .completed],
        { s with
          inbound := s.inbound.complete, pumps := s.pumps.set i { p with isOver := true } }) := by
      simp [SharedInbound.step, here, pumped, going, next]
    rw [List.length_nil, Nat.zero_add, Nat.add_comm, List.replicate_succ, run_cons, turn]
    exact inbound_run_over known s.inbound.complete extra
  | cons item items later =>
    rw [List.length_cons, Nat.add_right_comm, List.replicate_succ, run_cons]
    cases item with
    | error cause =>
      have turn : s.step (.pump i) = ([.signalled (some i) (.failed cause)],
          { s with
            inbound := s.inbound.fail cause
            pumps := s.pumps.set i { p with isOver := true } }) := by
        simp [SharedInbound.step, here, pumped, going, next]
      rw [turn]
      exact inbound_run_over known (s.inbound.fail cause) (items.length + 1 + extra)
    | ok a =>
      have turn : s.step (.pump i) = ([.pushed (some i) a],
          { s with
            inbound := s.inbound.push a
            pumps := s.pumps.set i { p with carried := p.carried + 1 } }) := by
        simp [SharedInbound.step, here, pumped, going, next]
      have rest : ∀ k, p.source (p.carried + 1 + k) = items[k]? := by
        intro k
        rw [Nat.add_assoc, Nat.add_comm 1 k]
        exact ahead (k + 1)
      rw [turn]
      exact later (p := { p with carried := p.carried + 1 }) (List.getElem?_set_self known) going rest
        (by simpa using known) (rest 0)

/-! ## Every order of turns -/

/-- What holds of a reading half that was fresh, after any turns of its owners and its pumps. -/
structure Orderly {α : Type} (turns : List (Turn α)) (notices : List (Notice α))
    (s : SharedInbound α) : Prop extends Collected notices s where
  /-- The end stays what it is, whatever turns follow. -/
  settled : ∀ how more, s.inbound.ended = some how →
    (fresh.run (turns ++ more)).2.inbound.ended = some how
  /-- Reading fails just where nothing waits and a sign of the end was given, and it tells the first
  of them. -/
  failing : ∀ failure, s.inbound.receive.1 = .error failure ↔ s.inbound.queue = [] ∧
    ∃ how, (notices.filterMap Notice.signal?).head? = some how ∧
      failure = .streamEnded how.message
  /-- Reading shows nothing just where nothing waits and no sign of the end was given. -/
  waiting : s.inbound.receive.1 = .ok none ↔
    s.inbound.queue = [] ∧ notices.filterMap Notice.signal? = []
  /-- A pump that nobody disturbs feeds the reading half with the items of its source. -/
  feeding : ∀ (items : List (Except String α)) (extra : Nat),
    ((s.step (.owner 0 (.attach (items[·]?)))).2.run
      (.replicate (items.length + 1 + extra) (.pump s.pumps.length))).2.inbound
      = s.inbound.feed items

/-- Whoever acts and in whatever order, nothing is lost, doubled or moved, and the first sign of the
end is the one that counts. -/
theorem orderly (turns : List (Turn α)) :
    Orderly turns (fresh.run turns).1 (fresh.run turns).2 := by
  have collected : Collected (fresh.run turns).1 (fresh.run turns).2 := by
    have whole := Collected.fresh.run turns
    rwa [List.nil_append] at whole
  refine ⟨collected, ?_, ?_, ?_, ?_⟩
  · intro how more ended
    have later := (collected.run more).ended
    rw [List.filterMap_append, List.head?_append, ← collected.ended, ended] at later
    rw [run_append]
    exact later
  · intro failure
    rw [receive_eq_error_iff, collected.ended]
  · rw [receive_eq_none_iff, collected.ended, List.head?_eq_none_iff]
  · intro items extra
    generalize (fresh.run turns).2 = s
    apply run_pump (s := (s.step (.owner 0 (.attach (items[·]?)))).2)
    · exact List.getElem?_concat_length
    · rfl
    · intro k
      rw [Nat.zero_add]

/-- The owner ends the stream while the pump still carries: what it pushed is handed out, then the
owner's end shows and not the failure of the source. -/
example :
    (fresh.run [.owner 0 (.attach (#[.ok 'a', .ok 'b', .error "reset", .ok 'c'][·]?)), .pump 0,
      .owner 0 .stop, .pump 0, .pump 0, .pump 0, .owner 0 .receive, .owner 0 .receive,
      .owner 0 .receive]).1.filterMap (fun notice => match notice with
        | .received result => some result
        | _ => none)
      = [.ok (some 'a'), .ok (some 'b'), .error (.streamEnded "stream completed")] := rfl

end Keeping

end SharedInbound

end FunctionAgent
