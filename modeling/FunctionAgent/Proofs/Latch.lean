import FunctionAgent.Proofs.Deed
/-!
# What a writing half keeps its word on

The writer writes and stops, the peer reads, shuts its end or goes away, each at any time and also
while a write waits for space (`Doing`, `perform`). Whatever the two of them do, the messages that
got into the queue are those whose write succeeded, in the order of the writes, and the first fault
is the last: it stays latched and is the outcome of every later write (`Latched`).

The facts about a stretch of doings are put together in `Faithful`, which composes, so that it is
shown for one act, one stop and one write, and a whole history follows by induction.
-/

set_option autoImplicit false

namespace FunctionAgent.Outbound

/-- What the two ends of a stream do. -/
inductive Doing (α : Type) where
  /-- A message is written while the peer does what it does at given milliseconds. -/
  | send (a : α) (acts : List (Nat × Act))
  | stop
  | peer (act : Act)

/-- What comes of it. -/
inductive Incident (α : Type) where
  | sent (a : α) (result : Except WriteFault Unit)
  | stopped
  | read (reading : Reading α)
  | shut
  /-- The peer went away with what it had not read. -/
  | abandoned (lost : List α)

namespace Incident

variable {α : Type}

/-- The message that the peer got. -/
def received? : Incident α → Option α
  | .read (.received a) => some a
  | _ => none

/-- The messages that nobody can get any more. -/
def lost : Incident α → List α
  | .abandoned lost => lost
  | _ => []

/-- The message whose write succeeded. -/
def accepted? : Incident α → Option α
  | .sent a (.ok ()) => some a
  | _ => none

/-- The outcome of a write. -/
def result? : Incident α → Option (Except WriteFault Unit)
  | .sent _ result => some result
  | _ => none

end Incident

section Doings

variable {α : Type}

/-- What comes of an act of the peer. -/
def noticed (o : Outbound α) : Act → Incident α
  | .read => .read o.read.1
  | .shut => .shut
  | .abandon => .abandoned o.queue

/-- The peer acts several times. -/
def suffer (o : Outbound α) : List Act → List (Incident α) × Outbound α
  | [] => ([], o)
  | act :: acts =>
    let (incidents, after) := (o.act act).2.suffer acts
    (o.noticed act :: incidents, after)

/-- One doing. What the peer does at a later time than the end of a write follows it. -/
def perform (o : Outbound α) : Doing α → List (Incident α) × Outbound α
  | .send a acts =>
    let sent := o.send a acts
    let meanwhile := acts.take (acts.length - sent.later.length)
    let (later, after) := sent.after.suffer (sent.later.map Prod.snd)
    ((o.suffer (meanwhile.map Prod.snd)).1 ++ .sent a sent.result :: later, after)
  | .stop => ([.stopped], o.stop)
  | .peer act => o.suffer [act]

/-- A history of doings. -/
def performAll (o : Outbound α) : List (Doing α) → List (Incident α) × Outbound α
  | [] => ([], o)
  | doing :: doings =>
    let (incidents, after) := o.perform doing
    let (more, last) := after.performAll doings
    (incidents ++ more, last)

end Doings

/-! ## The latch -/

/-- The outcomes of successive writes, between what is latched before and what is latched after
them. -/
inductive Latched :
    Option WriteFault → List (Except WriteFault Unit) → Option WriteFault → Prop where
  /-- Every write succeeds. -/
  | sound (n : Nat) : Latched none (.replicate n (.ok ())) none
  /-- The first failure is repeated by every later write. -/
  | failed (n m : Nat) (fault : WriteFault) :
      Latched none (.replicate n (.ok ()) ++ .replicate (m + 1) (.error fault)) (some fault)
  /-- A fault of old is repeated by every write. -/
  | kept (n : Nat) (fault : WriteFault) :
      Latched (some fault) (.replicate n (.error fault)) (some fault)

namespace Latched

variable {before between after : Option WriteFault} {results more : List (Except WriteFault Unit)}
  {fault : WriteFault}

theorem refl (latched : Option WriteFault) : Latched latched [] latched := by
  cases latched with
  | none => exact .sound 0
  | some fault => exact .kept 0 fault

theorem trans (first : Latched before results between) (next : Latched between more after) :
    Latched before (results ++ more) after := by
  cases first with
  | sound n =>
    cases next with
    | sound m =>
      rw [List.replicate_append_replicate]
      exact .sound (n + m)
    | failed k m fault =>
      rw [← List.append_assoc, List.replicate_append_replicate]
      exact .failed (n + k) m fault
  | failed n m fault =>
    cases next with
    | kept k =>
      rw [List.append_assoc, List.replicate_append_replicate, Nat.add_right_comm]
      exact .failed n (m + k) fault
  | kept n fault =>
    cases next with
    | kept m =>
      rw [List.replicate_append_replicate]
      exact .kept (n + m) fault

/-- Without a write the latch stays as it is. -/
theorem eq_of_nil (untried : Latched before [] after) : after = before := by
  generalize none : ([] : List (Except WriteFault Unit)) = results at untried
  cases untried with
  | sound n => rfl
  | failed n m fault => simp at none
  | kept n fault => rfl

/-- The first of several writes, and the others. -/
theorem uncons {result : Except WriteFault Unit}
    (latched : Latched before (result :: results) after) :
    (result = .ok () ∧ before = none ∧ Latched none results after) ∨
      ∃ fault, result = .error fault ∧ Latched (some fault) results after := by
  generalize whole : result :: results = all at latched
  cases latched with
  | sound n =>
    cases n with
    | zero => contradiction
    | succ n =>
      obtain ⟨rfl, rfl⟩ := List.cons.inj whole
      exact .inl ⟨rfl, rfl, .sound n⟩
  | failed n m fault =>
    cases n with
    | zero =>
      obtain ⟨rfl, rfl⟩ := List.cons.inj whole
      exact .inr ⟨fault, rfl, .kept m fault⟩
    | succ n =>
      obtain ⟨rfl, rfl⟩ := List.cons.inj whole
      exact .inl ⟨rfl, rfl, .failed n m fault⟩
  | kept n fault =>
    cases n with
    | zero => contradiction
    | succ n =>
      obtain ⟨rfl, rfl⟩ := List.cons.inj whole
      exact .inr ⟨fault, rfl, .kept n fault⟩

/-- One write that succeeds. -/
theorem accepted : Latched none [.ok ()] none := .sound 1

/-- One write that fails, for the first time or again. -/
theorem refused (same : before = none ∨ before = some fault) :
    Latched before [.error fault] (some fault) := by
  rcases same with rfl | rfl
  · exact .failed 0 0 fault
  · exact .kept 1 fault

end Latched

/-! ## What a stretch of doings keeps -/

/-- What holds between two states of a writing half and the incidents between them. -/
structure Faithful {α : Type} (o : Outbound α) (incidents : List (Incident α)) (v : Outbound α) :
    Prop where
  /-- What the peer got, what was lost and what waits is what waited and what was accepted. -/
  conserved : incidents.filterMap Incident.received? ++ incidents.flatMap Incident.lost ++ v.queue
    = o.queue ++ incidents.filterMap Incident.accepted?
  /-- Nothing is lost unless the peer goes away. -/
  saved : v.peer ≠ .gone → incidents.flatMap Incident.lost = []
  /-- A peer that is gone stays away, gets nothing and is written nothing. -/
  deserted : o.peer = .gone → v.peer = .gone ∧ incidents.filterMap Incident.received? = [] ∧
    incidents.filterMap Incident.accepted? = []
  latched : Latched o.latched (incidents.filterMap Incident.result?) v.latched
  /-- A closed stream stays closed, and it is the writer who closes it. -/
  stopped : o.isStopped = true → v.isStopped = true
  /-- The size of the queue and the limit of a write stay what they are. -/
  framed : v.capacity = o.capacity ∧ v.limit = o.limit

namespace Faithful

variable {α : Type} {o u v : Outbound α} {before after : List (Incident α)}

theorem refl (o : Outbound α) : Faithful o [] o where
  conserved := by simp
  saved := fun _ => rfl
  deserted := fun gone => ⟨gone, rfl, rfl⟩
  latched := .refl o.latched
  stopped := id
  framed := ⟨rfl, rfl⟩

/-- Two stretches make one. What was lost in the first stands behind what the peer gets in the
second, but one of the two is nothing: messages are lost to a peer that is gone for good. -/
theorem trans (first : Faithful o before u) (next : Faithful u after v) :
    Faithful o (before ++ after) v where
  conserved := by
    simp only [List.filterMap_append, List.flatMap_append]
    have swapped : before.flatMap Incident.lost ++ after.filterMap Incident.received?
        = after.filterMap Incident.received? ++ before.flatMap Incident.lost := by
      by_cases gone : u.peer = .gone
      · rw [(next.deserted gone).2.1]
        simp
      · rw [first.saved gone]
        simp
    calc before.filterMap Incident.received? ++ after.filterMap Incident.received?
            ++ (before.flatMap Incident.lost ++ after.flatMap Incident.lost) ++ v.queue
        = before.filterMap Incident.received?
            ++ (after.filterMap Incident.received? ++ before.flatMap Incident.lost)
            ++ after.flatMap Incident.lost ++ v.queue := by simp only [List.append_assoc]
      _ = before.filterMap Incident.received? ++ before.flatMap Incident.lost
            ++ (after.filterMap Incident.received? ++ after.flatMap Incident.lost ++ v.queue) := by
          rw [← swapped]
          simp only [List.append_assoc]
      _ = (before.filterMap Incident.received? ++ before.flatMap Incident.lost ++ u.queue)
            ++ after.filterMap Incident.accepted? := by
          rw [next.conserved]
          simp only [List.append_assoc]
      _ = o.queue
            ++ (before.filterMap Incident.accepted? ++ after.filterMap Incident.accepted?) := by
          rw [first.conserved, List.append_assoc]
  saved := by
    intro present
    have still : u.peer ≠ .gone := fun gone => present (next.deserted gone).1
    rw [List.flatMap_append, first.saved still, next.saved present, List.append_nil]
  deserted := by
    intro gone
    obtain ⟨gone, received, accepted⟩ := first.deserted gone
    obtain ⟨gone, receivedLater, acceptedLater⟩ := next.deserted gone
    refine ⟨gone, ?_, ?_⟩
    · rw [List.filterMap_append, received, receivedLater, List.append_nil]
    · rw [List.filterMap_append, accepted, acceptedLater, List.append_nil]
  latched := by
    rw [List.filterMap_append]
    exact first.latched.trans next.latched
  stopped := fun closed => next.stopped (first.stopped closed)
  framed := ⟨next.framed.1.trans first.framed.1, next.framed.2.trans first.framed.2⟩

/-- An incident that is neither a write nor moves a message. -/
theorem quiet {incident : Incident α} (received : incident.received? = none)
    (lost : incident.lost = []) (accepted : incident.accepted? = none)
    (untried : incident.result? = none) (queue : v.queue = o.queue)
    (deserted : o.peer = .gone → v.peer = .gone) (latched : v.latched = o.latched)
    (stopped : o.isStopped = true → v.isStopped = true)
    (framed : v.capacity = o.capacity ∧ v.limit = o.limit) : Faithful o [incident] v where
  conserved := by simp [received, lost, accepted, queue]
  saved := fun _ => by simp [lost]
  deserted := fun gone => ⟨deserted gone, by simp [received], by simp [accepted]⟩
  latched := by
    rw [latched, List.filterMap_cons_none untried]
    exact .refl o.latched
  stopped := stopped
  framed := framed

/-- Stopping closes the stream and does nothing else. -/
theorem stop (o : Outbound α) : Faithful o [.stopped] o.stop :=
  quiet rfl rfl rfl rfl rfl id rfl (fun _ => rfl) ⟨rfl, rfl⟩

end Faithful

section Steps

variable {α : Type} {o v : Outbound α} {a : α} {clock : Nat} {deadline : Option Nat}

/-- A message is taken only while the peer reads. -/
theorem Ends.reading (ends : o.Ends a clock deadline (.ok (), v)) : o.peer = .reading := by
  cases ends with
  | atOnce settled =>
    have attempt := o.attempt a
    rw [settled] at attempt
    cases attempt with
    | taken _ _ reading => exact reading

/-- The end of a write. -/
theorem Faithful.ends {result : Except WriteFault Unit}
    (ends : o.Ends a clock deadline (result, v)) : Faithful o [.sent a result] v := by
  cases result with
  | ok =>
    obtain ⟨sound, opened, rfl⟩ := ends.taken
    have reading := ends.reading
    constructor
    · rfl
    · exact fun _ => rfl
    · intro gone
      rw [reading] at gone
      contradiction
    · show Latched o.latched [.ok ()] o.latched
      rw [sound]
      exact .accepted
    · exact id
    · exact ⟨rfl, rfl⟩
  | error fault =>
    obtain ⟨same, rfl⟩ := ends.refused
    constructor
    · exact (List.append_nil o.queue).symm
    · exact fun _ => rfl
    · exact fun gone => ⟨gone, rfl, rfl⟩
    · exact .refused same
    · exact id
    · exact ⟨rfl, rfl⟩

/-- A message that is read leaves the front of the queue. -/
theorem Faithful.read (o : Outbound α) : Faithful o [.read o.read.1] o.read.2 := by
  unfold Outbound.read
  split
  · exact quiet rfl rfl rfl rfl rfl id rfl id ⟨rfl, rfl⟩
  · rename_i a rest queued present
    constructor
    · show a :: rest = o.queue ++ []
      rw [queued, List.append_nil]
    · exact fun _ => rfl
    · exact fun gone => (present gone).elim
    · exact .refl o.latched
    · exact id
    · exact ⟨rfl, rfl⟩
  · exact quiet rfl rfl rfl rfl rfl id rfl id ⟨rfl, rfl⟩
  · split
    · exact quiet rfl rfl rfl rfl rfl id rfl id ⟨rfl, rfl⟩
    · exact quiet rfl rfl rfl rfl rfl id rfl id ⟨rfl, rfl⟩

/-- An act of the peer. -/
theorem Faithful.act (o : Outbound α) (act : Act) : Faithful o [o.noticed act] (o.act act).2 := by
  cases act with
  | read => exact .read o
  | shut =>
    show Faithful o [.shut] o.shut
    unfold Outbound.shut
    split
    · rename_i reading
      refine quiet rfl rfl rfl rfl rfl (fun gone => ?_) rfl id ⟨rfl, rfl⟩
      rw [reading] at gone
      contradiction
    · exact quiet rfl rfl rfl rfl rfl id rfl id ⟨rfl, rfl⟩
  | abandon =>
    show Faithful o [.abandoned o.queue] o.abandon
    constructor
    · simp [abandon, Incident.lost, List.filterMap_cons, Incident.received?, Incident.accepted?]
    · exact fun present => absurd rfl present
    · exact fun _ => ⟨rfl, rfl, rfl⟩
    · exact .refl o.latched
    · exact id
    · exact ⟨rfl, rfl⟩

theorem Faithful.suffer (o : Outbound α) (acts : List Act) :
    Faithful o (o.suffer acts).1 (o.suffer acts).2 := by
  induction acts generalizing o with
  | nil => exact .refl o
  | cons act acts later => exact (Faithful.act o act).trans (later (o.act act).2)

end Steps

/-! ## A write that waits -/

/-- The peer acts while a write waits for space, from one state to another. -/
inductive Waits {α : Type} (a : α) : Outbound α → List (Nat × Act) → Outbound α → Prop where
  | ended (o : Outbound α) : Waits a o [] o
  | act {o v : Outbound α} {time : Nat} {act : Act} {acts : List (Nat × Act)}
      (full : o.write? a = none) (inTime : time < o.limit.ticks)
      (rest : Waits a (o.act act).2 acts v) : Waits a o ((time, act) :: acts) v

/-- How a write comes to its end in the state that it waited for. -/
structure Settles {α : Type} (a : α) (v : Outbound α) (sent : Sent α) : Prop where
  ends : v.Ends a sent.elapsed (some v.limit.ticks) (sent.result, sent.after)
  /-- A write is given up at its limit and not before, whatever the peer does from then on. -/
  due : v.write? a = none →
    sent.elapsed = v.limit.ticks ∧ ∀ next ∈ sent.later.head?, v.limit.ticks ≤ next.1

section Waiting

variable {α : Type} {a : α} {o v : Outbound α} {acts : List (Nat × Act)}

theorem Waits.eq_suffer (waits : Waits a o acts v) : v = (o.suffer (acts.map Prod.snd)).2 := by
  induction waits with
  | ended => rfl
  | act _ _ _ same => exact same

theorem Waits.latched_eq (waits : Waits a o acts v) : v.latched = o.latched := by
  induction waits with
  | ended => rfl
  | @act o v time act acts full inTime rest same =>
    have untouched := (Faithful.act o act).latched
    rw [List.filterMap_cons_none (by cases act <;> rfl)] at untouched
    exact same.trans untouched.eq_of_nil

theorem settles_atOnce {outcome : Written α} (now : Nat) (later : List (Nat × Act))
    (settled : o.write? a = some outcome) :
    Settles a o ⟨outcome.1, outcome.2, now, [], later⟩ where
  ends := .atOnce settled
  due := by simp [settled]

theorem settles_givenUp (later : List (Nat × Act)) (full : o.write? a = none)
    (late : ∀ next ∈ later.head?, o.limit.ticks ≤ next.1) :
    Settles a o ⟨o.giveUp.1, o.giveUp.2, o.limit.ticks, [], later⟩ where
  ends := .givenUp full (Nat.le_refl _)
  due := fun _ => ⟨rfl, late⟩

/-- A write waits while the peer acts, and then it ends. -/
theorem sendFrom_settles (now : Nat) (o : Outbound α) (a : α) (acts : List (Nat × Act)) :
    ∃ during v, acts = during ++ (sendFrom now o a acts).later ∧ Waits a o during v ∧
      Settles a v (sendFrom now o a acts) := by
  induction acts generalizing now o with
  | nil =>
    cases settled : o.write? a with
    | some outcome =>
      refine ⟨[], o, ?_, .ended o, ?_⟩
      · simp [sendFrom, settled]
      · simpa [sendFrom, settled] using settles_atOnce now [] settled
    | none =>
      refine ⟨[], o, ?_, .ended o, ?_⟩
      · simp [sendFrom, settled]
      · simpa [sendFrom, settled] using settles_givenUp [] settled (by simp)
  | cons first acts later =>
    obtain ⟨time, act⟩ := first
    cases settled : o.write? a with
    | some outcome =>
      refine ⟨[], o, ?_, .ended o, ?_⟩
      · simp [sendFrom, settled]
      · simpa [sendFrom, settled] using settles_atOnce now ((time, act) :: acts) settled
    | none =>
      by_cases inTime : time < o.limit.ticks
      · obtain ⟨during, v, split, waits, settles⟩ := later time (o.act act).2
        refine ⟨(time, act) :: during, v, ?_, .act settled inTime waits, ?_⟩
        · simpa [sendFrom, settled, inTime] using split
        · simp only [sendFrom, settled, inTime, if_true]
          exact ⟨settles.ends, settles.due⟩
      · have late : ∀ next ∈ ((time, act) :: acts).head?, o.limit.ticks ≤ next.1 := by
          intro next first
          obtain rfl : (time, act) = next := by simpa using first
          exact Nat.le_of_not_lt inTime
        refine ⟨[], o, ?_, .ended o, ?_⟩
        · simp [sendFrom, settled, inTime]
        · simpa [sendFrom, settled, inTime] using settles_givenUp _ settled late

/-- A write with all that the peer does meanwhile and afterwards. -/
theorem Faithful.send (o : Outbound α) (a : α) (acts : List (Nat × Act)) :
    Faithful o (o.perform (.send a acts)).1 (o.perform (.send a acts)).2 := by
  obtain ⟨during, v, split, waits, settles⟩ := sendFrom_settles 0 o a acts
  have meanwhile : acts.take (acts.length - (o.send a acts).later.length) = during := by
    show acts.take (acts.length - (sendFrom 0 o a acts).later.length) = during
    generalize (sendFrom 0 o a acts).later = later at split
    simp [split]
  have waited : Faithful o (o.suffer (during.map Prod.snd)).1 v := by
    rw [waits.eq_suffer]
    exact .suffer o _
  have ended : Faithful v [.sent a (o.send a acts).result] (o.send a acts).after :=
    .ends settles.ends
  have followed := Faithful.suffer (o.send a acts).after ((o.send a acts).later.map Prod.snd)
  simp only [perform, meanwhile]
  exact waited.trans (ended.trans followed)

/-! ## Histories -/

theorem Faithful.perform (o : Outbound α) (doing : Doing α) :
    Faithful o (o.perform doing).1 (o.perform doing).2 := by
  cases doing with
  | send a acts => exact .send o a acts
  | stop => exact .stop o
  | peer act => exact .suffer o [act]

theorem Faithful.performAll (o : Outbound α) (doings : List (Doing α)) :
    Faithful o (o.performAll doings).1 (o.performAll doings).2 := by
  induction doings generalizing o with
  | nil => exact .refl o
  | cons doing doings later => exact (Faithful.perform o doing).trans (later (o.perform doing).2)

/-- Why a write fails that finds no fault latched, by the state that it ends in. -/
inductive Cause (v : Outbound α) (sent : Sent α) : WriteFault → Prop where
  | stopped (closed : v.isStopped = true) : Cause v sent .stopped
  | closedByPeer (opened : v.isStopped = false) (left : v.peer ≠ .reading) :
      Cause v sent .closedByPeer
  | stalled (opened : v.isStopped = false) (reading : v.peer = .reading)
      (full : v.capacity ≤ v.queue.length) (due : sent.elapsed = v.limit.ticks)
      (late : ∀ next ∈ sent.later.head?, v.limit.ticks ≤ next.1) : Cause v sent (.stalled v.limit)

/-- A write that ends in failure does so for a fault of old or for a cause. -/
theorem Settles.cause {sent : Sent α} {fault : WriteFault} (settles : Settles a v sent)
    (failed : sent.result = .error fault) : v.latched = some fault ∨ Cause v sent fault := by
  obtain ⟨result, after, elapsed, readings, later⟩ := sent
  obtain rfl : result = .error fault := failed
  have attempt := v.attempt a
  cases settles.ends with
  | givenUp waits =>
    obtain ⟨due, late⟩ := settles.due waits
    rw [waits] at attempt
    cases attempt with
    | full _ opened reading full => exact .inr (.stalled opened reading full due late)
  | atOnce settled =>
    rw [settled] at attempt
    cases attempt with
    | latched latched => exact .inl latched
    | stopped _ closed => exact .inr (.stopped closed)
    | closedByPeer _ opened left => exact .inr (.closedByPeer opened left)

/-- Everything that waits in a closed stream can still be read, and then the peer learns the end. -/
theorem suffer_reads (o : Outbound α) (closed : o.isStopped = true) (present : o.peer ≠ .gone)
    (extra : Nat) :
    (o.suffer (.replicate (o.queue.length + extra) .read)).1
      = (o.queue.map fun a => .read (.received a)) ++ .replicate extra (.read .finished) := by
  obtain ⟨capacity, queue, peer, isStopped, latched, limit⟩ := o
  obtain rfl : isStopped = true := closed
  induction queue with
  | nil =>
    have finished : (Outbound.mk capacity ([] : List α) peer true latched limit).read
        = (.finished, ⟨capacity, [], peer, true, latched, limit⟩) := by
      cases peer with
      | gone => contradiction
      | reading | shut => rfl
    rw [List.length_nil, Nat.zero_add, List.map_nil, List.nil_append]
    induction extra with
    | zero => rfl
    | succ extra more =>
      rw [List.replicate_succ, List.replicate_succ, suffer, act, noticed, finished]
      exact congrArg _ more
  | cons a queue rest =>
    have received : (Outbound.mk capacity (a :: queue) peer true latched limit).read
        = (.received a, ⟨capacity, queue, peer, true, latched, limit⟩) := by
      cases peer with
      | gone => contradiction
      | reading | shut => rfl
    rw [List.length_cons, Nat.add_right_comm, List.replicate_succ, suffer, act, noticed, received]
    exact congrArg _ (rest present)

/-- What holds after every history of a writing half. -/
structure Reliable (o : Outbound α) (incidents : List (Incident α)) (v : Outbound α) : Prop
    extends Faithful o incidents v where
  /-- The next write fails for the fault that is latched, or nothing is latched and it waits, as long
  as there is no space, until the stream turns out to be closed, or its time is over. -/
  reasoned : ∀ (a : α) (acts : List (Nat × Act)) (fault : WriteFault),
    (v.send a acts).result = .error fault →
    v.latched = some fault ∨ v.latched = none ∧
      ∃ during u, acts = during ++ (v.send a acts).later ∧ Waits a v during u ∧
        Cause u (v.send a acts) fault
  /-- Stopping once is stopping for good and does not touch the latch. -/
  halting : v.stop.isStopped = true ∧ v.stop.stop = v.stop ∧ v.stop.latched = v.latched
  /-- What waits when the stream is closed can be read. -/
  readable : v.peer ≠ .gone → ∀ extra,
    (v.stop.suffer (.replicate (v.queue.length + extra) .read)).1
      = (v.queue.map fun a => .read (.received a)) ++ .replicate extra (.read .finished)

/-- Every history of a writing half is a reliable one, whatever it starts from. -/
theorem reliable (o : Outbound α) (doings : List (Doing α)) :
    Reliable o (o.performAll doings).1 (o.performAll doings).2 where
  toFaithful := .performAll o doings
  reasoned := by
    generalize (o.performAll doings).2 = v
    intro a acts fault failed
    obtain ⟨during, u, split, waits, settles⟩ := sendFrom_settles 0 v a acts
    have ends := settles.ends
    rw [show (sendFrom 0 v a acts).result = .error fault from failed] at ends
    rw [← waits.latched_eq]
    rcases ends.refused.1 with sound | latched
    · rcases settles.cause failed with latched | cause
      · exact .inl latched
      · exact .inr ⟨sound, during, u, split, waits, cause⟩
    · exact .inl latched
  halting := ⟨rfl, rfl, rfl⟩
  readable := fun present => suffer_reads (o.performAll doings).2.stop rfl present

/-- The second write waits until the peer reads, the third in vain; that the peer reads again does
not help the fourth. -/
example :
    (((fresh 1).withLimit (.ofSeconds 1)).performAll
      [.send 'a' [], .send 'b' [(400, .read)], .send 'c' [], .peer .read, .send 'd' []]).1.filterMap
        Incident.result?
      = [.ok (), .ok (), .error (.stalled (.ofSeconds 1)), .error (.stalled (.ofSeconds 1))] := rfl

end Waiting

end FunctionAgent.Outbound
