import FunctionAgent.Proofs.Descent
/-!
# An agent stops when its broker is finite

An endless run goes on for ever: again and again the agent does something, or time passes. A broker
is finite if it answers whenever it is asked for a session, if every stream is over at some time and
if only so many updates are delivered. An agent that is driven stops with such a broker, though
nobody asks for a shutdown, the executor never answers and nobody reads what the agent writes.

Once the last update was delivered the rank of the states never rises, and every step of the agent
lowers it, so that from some step on the agent does nothing any more (`Endless.settles`). It does
not wait for anything either, since time goes on. So it has finished.
-/

set_option autoImplicit false

namespace FunctionAgent.Agent

/-- A run that goes on for ever. -/
structure Endless (w : World) (run : Nat → Beat) : Prop where
  starts : (run 0).before = w
  steps : ∀ n, (run n).before.step (run n).act = some (run n).move
  follows : ∀ n, (run (n + 1)).before = (run n).move.world
  /-- Again and again the agent does something, or time passes. -/
  proceeds : ∀ n, ∃ k, n ≤ k ∧
    ((run k).act = none ∨ ∃ ms, 0 < ms ∧ (run k).act = some (.elapse ms))

/-- A broker that comes to its end. -/
structure FiniteBroker (run : Nat → Beat) : Prop where
  /-- Whenever a session is asked for it comes, or is refused. -/
  answers : ∀ n purpose, (run n).before.control = .opening purpose →
    ∃ k answer, n ≤ k ∧ (run k).act = some (.answerOpen answer)
  /-- The stream of every session is over at some time. -/
  ends : ∀ i, ∃ time, ∀ n, i < (run n).before.sessions.length → time ≤ (run n).before.clock →
    ((run n).before.session i).stream.inbound.ended ≠ none
  /-- Some update is the last one. -/
  delivers : ∃ last, ∀ n, last ≤ n → ∀ i, (run n).delivered i = []

/-! ## Runs without interference -/

/-- What an agent does that is left alone, or else a millisecond that passes. -/
def World.onward (w : World) : Beat :=
  match w.proceed with
  | some m => ⟨w, none, m⟩
  | none => ⟨w, some (.elapse 1), .stay { w with clock := w.clock + 1 }⟩

/-- The run of an agent that is left alone. -/
def World.alone (w : World) : Nat → Beat
  | 0 => w.onward
  | n + 1 => w.onward.move.world.alone n

/-- One step, and then a run without an end. -/
def Beat.ahead (b : Beat) (run : Nat → Beat) : Nat → Beat
  | 0 => b
  | n + 1 => run n

/-- Some steps, after which the agent is left alone. -/
def leftAlone (beats : List Beat) (v : World) : Nat → Beat := beats.foldr Beat.ahead v.alone

section Alone

variable {w v : World} {beats : List Beat} {b : Beat} {run : Nat → Beat}

/-- An agent whose time has come does something. -/
theorem World.proceed_ne_none (wakes : w.wake? = some w.clock) : w.proceed ≠ none := by
  cases here : w.control with
  | writing task message deadline =>
    obtain rfl : deadline = some w.clock := by simpa [wake?, here] using wakes
    simp only [proceed, write, here]
    split <;> simp_all
  | retrying | starting | resting => simp_all [wake?, proceed]
  | backingOff attempt wake =>
    obtain rfl : wake = w.clock := by simpa [wake?, here] using wakes
    cases asked : w.isShutdown <;> simp [proceed, here, asked]
  | _ => simp [wake?, here] at wakes

@[simp] theorem World.before_onward (w : World) : w.onward.before = w := by
  unfold onward
  split <;> rfl

theorem World.act_onward (w : World) : w.onward.act = none ∨ w.onward.act = some (.elapse 1) := by
  unfold onward
  split
  · exact .inl rfl
  · exact .inr rfl

/-- No agent gets stuck: it does something, or time may pass. -/
theorem World.IsEarly.onward (early : w.IsEarly) :
    w.step w.onward.act = some w.onward.move := by
  unfold World.onward
  split
  · rename_i m move
    exact move
  · rename_i waits
    have may : w.mayElapse 1 = true := by
      cases wakes : w.wake? with
      | none => simp [World.mayElapse, World.isWaiting, waits, wakes]
      | some wake =>
        have now : w.clock ≠ wake := fun same => World.proceed_ne_none (same ▸ wakes) waits
        have := early wake wakes
        simp [World.mayElapse, World.isWaiting, waits, wakes]
        omega
    simp [World.step, World.act, may]

theorem World.IsEarly.alone (early : w.IsEarly) : Endless w w.alone where
  starts := w.before_onward
  steps n := by
    induction n generalizing w with
    | zero =>
      show w.onward.before.step _ = _
      rw [World.before_onward]
      exact early.onward
    | succ n ih => exact ih ((deed_of_step early.onward).isEarly early)
  follows n := by
    induction n generalizing w with
    | zero => exact World.before_onward _
    | succ n ih => exact ih ((deed_of_step early.onward).isEarly early)
  proceeds n := by
    refine ⟨n, Nat.le_refl n, ?_⟩
    induction n generalizing w with
    | zero => exact w.act_onward.imp_right fun elapses => ⟨1, Nat.one_pos, elapses⟩
    | succ n ih => exact ih ((deed_of_step early.onward).isEarly early)

theorem Endless.cons (step : b.before.step b.act = some b.move)
    (endless : Endless b.move.world run) : Endless b.before (b.ahead run) where
  starts := rfl
  steps
    | 0 => step
    | n + 1 => endless.steps n
  follows
    | 0 => endless.starts
    | n + 1 => endless.follows n
  proceeds n := by
    obtain ⟨k, later, goes⟩ := endless.proceeds n
    exact ⟨k + 1, by omega, goes⟩

theorem Course.eq_of_nil (course : Course w [] v) : v = w := by
  generalize none : [] = beats at course
  cases course with
  | nil => rfl
  | snoc => simp at none

/-- Every run goes on for ever if the agent is left alone. -/
theorem Course.endless (course : Course w beats v) (early : v.IsEarly) :
    Endless w (leftAlone beats v) := by
  induction beats generalizing w with
  | nil => exact course.eq_of_nil ▸ early.alone
  | cons b rest ih =>
    obtain ⟨none, step, later⟩ := @Course.around w v [] rest b course
    exact none.eq_of_nil ▸ .cons step (ih later)

/-- What holds of some steps and of those of an agent that is left alone holds of all of them. -/
theorem forall_leftAlone {P : Beat → Prop} (first : ∀ b ∈ beats, P b) (alone : ∀ n, P (v.alone n))
    (n : Nat) : P (leftAlone beats v n) := by
  induction beats generalizing n with
  | nil => exact alone n
  | cons b rest ih =>
    cases n with
    | zero => exact first b List.mem_cons_self
    | succ n => exact ih (fun b member => first b (List.mem_cons_of_mem _ member)) n

theorem exists_leftAlone (member : b ∈ beats) : ∃ n, leftAlone beats v n = b := by
  induction beats with
  | nil => cases member
  | cons c rest ih =>
    rcases List.mem_cons.1 member with rfl | member
    · exact ⟨0, rfl⟩
    · obtain ⟨n, equal⟩ := ih member
      exact ⟨n + 1, equal⟩

theorem leftAlone_add (n : Nat) : leftAlone beats v (beats.length + n) = v.alone n := by
  induction beats with
  | nil => rw [List.length_nil, Nat.zero_add]; rfl
  | cons b rest ih =>
    rw [List.length_cons, Nat.add_right_comm]
    exact ih

/-- When an agent has finished nothing but time passes. -/
theorem World.alone_of_isFinished (finished : w.isFinished = true) (n : Nat) :
    w.alone n = ⟨{ w with clock := w.clock + n }, some (.elapse 1),
      .stay { w with clock := w.clock + (n + 1) }⟩ := by
  have idles {w : World} (finished : w.isFinished = true) :
      w.onward = ⟨w, some (.elapse 1), .stay { w with clock := w.clock + 1 }⟩ := by
    obtain ⟨result, here⟩ := isFinished_iff.1 finished
    simp [onward, proceed, here]
  induction n generalizing w with
  | zero => exact idles finished
  | succ n ih =>
    have later : isFinished { w with clock := w.clock + 1 } = true := finished
    rw [alone, idles finished]
    exact (ih later).trans (by simp [Nat.add_assoc, Nat.add_comm 1])

/-- A broker is finite that answers at once until the agent has finished and every stream is
over. -/
theorem FiniteBroker.leftAlone (finished : v.isFinished = true)
    (punctual : ∀ b ∈ beats, b.before.clock ≤ v.clock)
    (answers : ∀ b ∈ beats, ∀ purpose, b.before.control = .opening purpose →
      ∃ answer, b.act = some (.answerOpen answer))
    (ends : ∀ i < v.sessions.length, (v.session i).stream.inbound.ended ≠ none) :
    FiniteBroker (leftAlone beats v) where
  answers n purpose asks := by
    have answered := forall_leftAlone (n := n) answers fun k purpose asks => by
      rw [World.alone_of_isFinished finished] at asks
      have asks : v.control = .opening purpose := asks
      simp [World.isFinished, asks] at finished
    obtain ⟨answer, answers⟩ := answered purpose asks
    exact ⟨n, answer, Nat.le_refl _, answers⟩
  ends i := by
    refine ⟨v.clock + 1, forall_leftAlone (P := fun b => i < b.before.sessions.length →
      v.clock + 1 ≤ b.before.clock → (b.before.session i).stream.inbound.ended ≠ none)
      (fun b member _ late => ?_) fun n => ?_⟩
    · have := punctual b member
      omega
    · rw [World.alone_of_isFinished finished]
      exact fun known _ => ends i known
  delivers := by
    refine ⟨beats.length, fun n later i => ?_⟩
    obtain ⟨k, rfl⟩ := Nat.exists_eq_add_of_le later
    rw [leftAlone_add, World.alone_of_isFinished finished]
    rfl

end Alone

/-! ## How an agent comes to its end -/

section Waiting

variable {w : World} {act : Option Act} {m : Move}

/-- An agent that is driven has a session in use. -/
theorem World.isServing_of_isDriven (driven : w.isDriven = true) (sane : w.control ≠ .overflowed) :
    w.isServing = true := by
  unfold World.isDriven at driven
  unfold World.isServing
  split at driven <;> simp_all

/-- An agent that can do nothing and waits for no time waits for a session, or has finished. -/
theorem World.waits_or_isFinished (driven : w.isDriven = true) (sane : w.control ≠ .overflowed)
    (waits : w.proceed = none) (timeless : w.wake? = none) :
    (∃ purpose, w.control = .opening purpose) ∨ w.isFinished = true := by
  cases here : w.control with
  | opening purpose => exact .inl ⟨purpose, rfl⟩
  | finished => exact .inr (by simp [World.isFinished, here])
  | writing task message deadline =>
    obtain rfl : deadline = none := by simpa [World.wake?, here] using timeless
    simp only [World.proceed, World.write, here] at waits
    split at waits <;> simp_all
  | offering purpose i todo | draining todo => cases todo <;> simp [World.proceed, here] at waits
  | overflowed => exact absurd here sane
  | retrying | ready | unstarted | dropped => simp [World.isDriven, here] at driven
  | starting | resting | backingOff => simp [World.wake?, here] at timeless
  | looping | handling | recovering => simp [World.proceed, here] at waits

theorem Deed.clock_le (deed : Deed w act m) : w.clock ≤ m.world.clock := by
  cases deed with
  | elapse ms => exact Nat.le_add_right _ _
  | _ => exact Nat.le_refl _

theorem Deed.stays_finished {result : Result} (deed : Deed w act m)
    (finished : w.control = .finished result) : m.world.control = .finished result := by
  cases deed with
  | peer | shutDown | shutDownAgain | elapse => exact finished
  | _ => simp_all

theorem Deed.drives (deed : Deed w (some .run) m) : m.world.isDriven = true := by
  cases deed with
  | run => rfl

/-- An answer takes the agent on from where it has asked for a session. -/
theorem Deed.answered {answer : Except SessionFailure Session}
    (deed : Deed w (some (.answerOpen answer)) m) : m.world.control ≠ w.control := by
  cases deed with
  | opened session here => simp [here]
  | unopened here setback => cases setback <;> simp [here]

end Waiting

namespace Endless

variable {w : World} {run : Nat → Beat} {expiry : Nat → Nat} {start last : Nat}

theorem deed (endless : Endless w run) (n : Nat) :
    Deed (run n).before (run n).act (run n).move :=
  deed_of_step (endless.steps n)

theorem course (endless : Endless w run) (n : Nat) :
    Course w ((List.range n).map run) (run n).before := by
  induction n with
  | zero => exact endless.starts ▸ .nil
  | succ n ih =>
    rw [List.range_succ, List.map_append, endless.follows n]
    exact ih.snoc (endless.steps n)

/-- What every deed keeps holds from where it holds for the first time. -/
theorem keeps {P : World → Prop} (endless : Endless w run) (holds : P (run start).before)
    (deed : ∀ v act m, P v → Deed v act m → P m.world) (n : Nat) (later : start ≤ n) :
    P (run n).before := by
  induction n, later using Nat.le_induction with
  | base => exact holds
  | succ n _ ih => exact endless.follows n ▸ deed _ _ _ ih (endless.deed n)

/-- A rank cannot fall for ever: at some time the agent has done its last step. -/
theorem settles (endless : Endless w run)
    (descends : ∀ n, start ≤ n → Descent expiry (run n).before (run n).act (run n).move) :
    ∃ last, start ≤ last ∧ ∀ n, last ≤ n →
      (run n).act ≠ none ∧ (run (n + 1)).before.control = (run n).before.control := by
  obtain ⟨_, ⟨last, later, rfl⟩, least⟩ := wellFounded_lt.has_min
    {r | ∃ n, start ≤ n ∧ (run n).before.rank expiry = r} ⟨_, start, Nat.le_refl _, rfl⟩
  have never (n : Nat) (further : last ≤ n) :
      ¬(run n).before.rank expiry < (run last).before.rank expiry :=
    least _ ⟨n, Nat.le_trans later further, rfl⟩
  have sunk (n : Nat) (further : last ≤ n) :
      (run n).before.rank expiry ≤ (run last).before.rank expiry := by
    induction n, further using Nat.le_induction with
    | base => exact le_refl _
    | succ n further ih =>
      rw [endless.follows n]
      rcases (descends n (Nat.le_trans later further)).rank with less | ⟨same, -⟩
      · exact less.le.trans ih
      · exact same.trans ih
  refine ⟨last, later, fun n further => ?_⟩
  rw [endless.follows n]
  rcases (descends n (Nat.le_trans later further)).rank with less | ⟨-, others, still⟩
  · rw [← endless.follows n] at less
    exact absurd (less.trans_le (sunk n further)) (never (n + 1) (Nat.le_succ_of_le further))
  · exact ⟨others, still⟩

/-- Where the agent does nothing time goes on and on. -/
theorem time_passes (endless : Endless w run)
    (others : ∀ n, last ≤ n → (run n).act ≠ none) (time : Nat) :
    ∃ n, last ≤ n ∧ time ≤ (run n).before.clock := by
  induction time with
  | zero => exact ⟨last, Nat.le_refl _, Nat.zero_le _⟩
  | succ time ih =>
    obtain ⟨n, later, passed⟩ := ih
    obtain ⟨k, further, own | ⟨ms, some, elapses⟩⟩ := endless.proceeds n
    · exact absurd own (others k (Nat.le_trans later further))
    · have still : time ≤ (run k).before.clock :=
        endless.keeps (P := fun v => time ≤ v.clock) passed
          (fun _ _ _ before deed => Nat.le_trans before deed.clock_le) k further
      have step := endless.deed k
      rw [elapses] at step
      refine ⟨k + 1, by omega, ?_⟩
      rw [endless.follows k, step.waits.2.2]
      show time + 1 ≤ (run k).before.clock + ms
      omega

/-- An agent that does nothing any more has finished, if it is answered. -/
theorem isFinished (endless : Endless w run) (broker : FiniteBroker run)
    (driven : (run last).before.isDriven = true) (early : (run last).before.IsEarly)
    (sane : ∀ n, (run n).before.control ≠ .overflowed)
    (settled : ∀ n, last ≤ n →
      (run n).act ≠ none ∧ (run (n + 1)).before.control = (run n).before.control) :
    (run last).before.isFinished = true := by
  have others (n : Nat) (later : last ≤ n) := (settled n later).1
  have still (n : Nat) (later : last ≤ n) :
      (run n).before.control = (run last).before.control := by
    induction n, later using Nat.le_induction with
    | base => rfl
    | succ n later ih => exact (settled n later).2.trans ih
  have timeless : (run last).before.wake? = none := by
    cases wakes : (run last).before.wake? with
    | none => rfl
    | some wake =>
      obtain ⟨n, later, passed⟩ := endless.time_passes others (wake + 1)
      have early : (run n).before.IsEarly :=
        endless.keeps early (fun _ _ _ early deed => deed.isEarly early) n later
      have same : (run n).before.wake? = some wake := by
        rw [← wakes, World.wake?, World.wake?, still n later]
      have := early wake same
      omega
  obtain ⟨k, later, own | ⟨ms, some, elapses⟩⟩ := endless.proceeds last
  · exact absurd own (others k later)
  have step := endless.deed k
  rw [elapses] at step
  have driven : (run k).before.isDriven = true :=
    endless.keeps driven (fun _ _ _ driven deed => deed.isDriven driven) k later
  have same : (run k).before.wake? = none := by
    rw [← timeless, World.wake?, World.wake?, still k later]
  rcases World.waits_or_isFinished driven (sane k) step.waits.1 same with ⟨purpose, asks⟩ | finished
  · obtain ⟨j, answer, further, answers⟩ := broker.answers k purpose asks
    have step := endless.deed j
    rw [answers] at step
    have stays := (settled j (Nat.le_trans later further)).2
    rw [endless.follows j] at stays
    exact absurd stays step.answered
  · rwa [World.isFinished, ← still k later]

end Endless

section Career

variable {settings : Settings} {functions : List Function} {entry : Entry} {run : Nat → Beat}

/-- With a finite broker an agent that is driven stops. -/
theorem Endless.terminates
    (endless : Endless (World.create settings functions entry.purpose).world run)
    (broker : FiniteBroker run) (driven : ∃ n, (run n).act = some .run)
    (pace : 0 < settings.pollInterval.nanos)
    (sane : ∀ n, (run n).before.control ≠ .overflowed) :
    ∃ last result, ∀ n, last ≤ n → (run n).before.control = .finished result ∧
      (run n).before.phase = .stopped ∧ (run n).act ≠ none := by
  have career (n : Nat) : Career settings functions entry _ (run n).before := endless.course n
  obtain ⟨begun, runs⟩ := driven
  obtain ⟨final, delivered⟩ := broker.delivers
  choose expiry ends using broker.ends
  have driven (n : Nat) (later : begun + 1 ≤ n) : (run n).before.isDriven = true := by
    refine endless.keeps ?_ (fun _ _ _ driven deed => deed.isDriven driven) n later
    have step := endless.deed begun
    rw [runs] at step
    rw [endless.follows begun]
    exact step.drives
  have descends (n : Nat) (later : max final (begun + 1) ≤ n) :
      Descent expiry (run n).before (run n).act (run n).move := by
    have sound := (career n).sound
    have driven := driven n (by omega)
    refine (endless.deed n).descends driven sound.standing (career n).bounded
      (delivered n (by omega)) (endless.follows n ▸ sane (n + 1)) (sound.settings ▸ pace) ?_
    exact ends _ n (sound.standing.used (World.isServing_of_isDriven driven (sane n)))
  obtain ⟨last, later, settled⟩ := endless.settles descends
  have finished := endless.isFinished broker (driven last (by omega)) (career last).isEarly sane
    settled
  obtain ⟨result, here⟩ := World.isFinished_iff.1 finished
  refine ⟨last, result, fun n further => ?_⟩
  have here : (run n).before.control = .finished result :=
    endless.keeps here (fun _ _ _ here deed => deed.stays_finished here) n further
  exact ⟨here, ((career n).sound.finished (World.isFinished_iff.2 ⟨_, here⟩)).2.1,
    (settled n further).1⟩

end Career

/-- The usual settings, but for a single recovery. -/
def singleRecovery : Settings := { Settings.standard with maxAttempts := 1 }

/-- A run in which nobody helps: the broker reads nothing, the executor does not answer, the second
stream ends at once, and no shutdown is asked for. -/
def desertion : List (Option Act) :=
  let narrow : Duplex Update Update := .start (Outbound.fresh 1)
  let call : Call := ⟨"00000000000000000000000000000000", []⟩
  [some (.answerOpen (.ok (.start "first" narrow))), none, none, none, some .run, none,
    some (.elapse 1000), none, some (.peer 0 (.deliver ⟨1, 1, "", some (.call call)⟩)), none, none,
    some (.elapse 5000), none, none, some (.elapse 5000), none, none,
    some (.answerOpen (.ok (.start "second" narrow))), none, none, none,
    some (.peer 1 (.endFeed .completed)), none, none, none, none, some (.elapse 5000), none, none]

/-- Whether a session that is asked for in a step is answered there. -/
def Beat.isPrompt (b : Beat) : Bool :=
  match b.before.control, b.act with
  | .opening _, some (.answerOpen _) => true
  | .opening _, _ => false
  | _, _ => true

theorem Beat.isPrompt_iff {b : Beat} :
    b.isPrompt = true ↔ ∀ purpose, b.before.control = .opening purpose →
      ∃ answer, b.act = some (.answerOpen answer) := by
  unfold isPrompt
  split <;> simp_all

theorem terminates_in_desertion :
    0 < singleRecovery.pollInterval.nanos ∧ ∃ run,
      Endless (World.create singleRecovery [default] Entry.start.purpose).world run ∧
      FiniteBroker run ∧ (∃ n, (run n).act = some .run) ∧
      (∀ n, (run n).before.control ≠ .overflowed) ∧
      (∀ n, (run n).before.isShutdown = false) ∧
      ∃ last result, ∀ n, last ≤ n → (run n).before.control = .finished result ∧
        (run n).before.phase = .stopped ∧ (run n).act ≠ none := by
  have pace : 0 < singleRecovery.pollInterval.nanos := by decide
  have played : ((World.create singleRecovery [default] .start).world.replay desertion).map
      (fun run => (run.2.isFinished && !run.2.isShutdown && run.1.all Beat.isPrompt
        && run.1.all (fun b => !b.before.isOverflowed && !b.before.isShutdown
          && b.before.clock ≤ run.2.clock)
        && (List.range run.2.sessions.length).all fun i =>
            (run.2.session i).stream.inbound.ended.isSome)) = some true := by decide +kernel
  obtain ⟨⟨beats, v⟩, replayed, seen⟩ := Option.map_eq_some_iff.1 played
  simp only [Bool.and_eq_true, List.all_eq_true, Bool.not_eq_true', decide_eq_true_eq,
    List.mem_range] at seen
  obtain ⟨⟨⟨⟨finished, unasked⟩, prompt⟩, going⟩, ended⟩ := seen
  obtain ⟨course, acts⟩ := World.replay_eq_some_iff.1 replayed
  have career : Career singleRecovery [default] .start beats v := course
  have endless : Endless (World.create singleRecovery [default] Entry.start.purpose).world
      (leftAlone beats v) := course.endless career.isEarly
  have broker : FiniteBroker (leftAlone beats v) :=
    .leftAlone finished (fun b member => (going b member).2)
      (fun b member => Beat.isPrompt_iff.1 (prompt b member))
      fun i known => Option.isSome_iff_ne_none.1 (ended i known)
  have driven : ∃ n, (leftAlone beats v n).act = some .run := by
    have member : some Act.run ∈ beats.map Beat.act := acts ▸ by simp [desertion]
    obtain ⟨b, member, act⟩ := List.mem_map.1 member
    obtain ⟨n, equal⟩ := exists_leftAlone (v := v) member
    exact ⟨n, equal ▸ act⟩
  have sane (n : Nat) : (leftAlone beats v n).before.control ≠ .overflowed := by
    refine forall_leftAlone (P := fun b => b.before.control ≠ .overflowed) ?_ (fun n => ?_) n
    · intro b member stuck
      simpa [World.isOverflowed_iff.2 stuck] using (going b member).1.1
    · obtain ⟨result, here⟩ := World.isFinished_iff.1 finished
      simp [World.alone_of_isFinished finished, here]
  have alone (n : Nat) : (leftAlone beats v n).before.isShutdown = false := by
    refine forall_leftAlone (P := fun b => b.before.isShutdown = false)
      (fun b member => (going b member).1.2) (fun n => ?_) n
    rw [World.alone_of_isFinished finished]
    exact unasked
  exact ⟨pace, _, endless, broker, driven, sane, alone,
    endless.terminates broker driven pace sane⟩

end FunctionAgent.Agent
