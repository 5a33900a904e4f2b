import FunctionAgent.Proofs.Delivery
import FunctionAgent.Proofs.Recovery
import Mathlib.Algebra.Order.BigOperators.Group.Finset
import Mathlib.Data.Prod.Lex
/-!
# What is left to an agent

An agent that is driven lives on four stocks: the updates that wait and the one that it is busy with
(`load`), the failures that its budget still allows (`spare`), the messages that are left to write
until it has stopped (`distance`), and the time until the stream that it holds is over (`patience`).
Each of its own steps draws on one of them and adds to later ones only; an update that is delivered
is all that adds to the first (`Deed.descends`). The stocks in this order are the rank of a state.
-/

set_option autoImplicit false

namespace FunctionAgent

theorem Session.ended_of_nothing {s : Session} (nothing : s.receive.1 = .ok none) :
    s.stream.inbound.ended = none := by
  obtain ⟨bearer, ⟨⟨queue, ended⟩, outbound, isFed⟩⟩ := s
  cases queue with
  | cons => cases nothing
  | nil =>
    cases ended with
    | none => rfl
    | some how => cases nothing

@[simp] theorem Roster.length_mark (roster : Roster) (id : Uuid) (state : Lifecycle) :
    (roster.mark id state).length = roster.length := by
  simp [Roster.mark]

namespace Agent

/-- Whether the agent was started and somebody drives it. -/
def World.isDriven (w : World) : Bool :=
  match w.control with
  | .opening purpose | .offering purpose _ _ | .writing (.offer purpose _ _) _ _ =>
    !purpose.isFirst
  | .retrying _ _ _ | .ready | .unstarted _ | .dropped => false
  | _ => true

/-- How many steps a write is from its end; it may have to wait for space. -/
def stepsToWrite : Option Nat → Nat
  | none => 3
  | some _ => 2

theorem two_le_stepsToWrite (deadline : Option Nat) : 2 ≤ stepsToWrite deadline := by
  cases deadline <;> simp [stepsToWrite]

namespace World

/-- How many updates wait on all sessions together. -/
def backlog (w : World) : Nat := ∑ i ∈ Finset.range w.sessions.length, (w.waiting i).length

/-- How much of the updates is left to do: one that waits has to be taken and handled. -/
def load (w : World) : Nat := 2 * w.backlog + w.isBusy.toNat

/-- How many failures it takes to exceed the budget. -/
def spare (w : World) : Nat := w.settings.maxAttempts.toNat + 1 - w.failures

/-- How far the agent is from its end if no update comes and no stream is lost any more. Every
function is still to be withdrawn then. -/
def distance (w : World) : Nat :=
  let leaving := 3 * w.roster.length + 2
  match w.control with
  | .draining todo _ => 3 * todo.length + 1
  | .writing (.withdraw _ todo _) _ deadline => 3 * todo.length + stepsToWrite deadline
  | .recovering _ => leaving
  | .looping | .resting _ => leaving + 1
  | .writing .answer _ deadline => leaving + 1 + stepsToWrite deadline
  | .starting _ _ => leaving + 5
  | .handling _ => leaving + 6
  | .offering _ _ todo => leaving + 1 + (3 * todo.length + 1)
  | .writing (.offer _ _ todo) _ deadline =>
    leaving + 1 + (3 * todo.length + stepsToWrite deadline)
  | .opening _ => leaving + 1 + (3 * w.roster.length + 2)
  | .backingOff _ _ => leaving + 1 + (3 * w.roster.length + 3)
  | .retrying _ _ _ | .ready | .finished _ | .unstarted _ | .dropped | .overflowed => 0

/-- How long the agent may go on looking for an update in vain, if each stream has its expiry. -/
def patience (w : World) (expiry : Nat → Nat) : Nat :=
  match w.control with
  | .looping => if w.isShutdown then 0 else 2 * (expiry w.held - w.clock)
  | .resting wake => if w.isShutdown then 1 else 2 * (expiry w.held - wake) + 1
  | _ => 0

/-- The stocks of an agent in the order in which they are drawn on. -/
def rank (w : World) (expiry : Nat → Nat) : ℕ ×ₗ ℕ ×ₗ ℕ ×ₗ ℕ :=
  toLex (w.load, toLex (w.spare, toLex (w.distance, w.patience expiry)))

end World

/-- On which stock a step draws. -/
inductive Descent (expiry : Nat → Nat) (w : World) (act : Option Act) (m : Move) : Prop where
  | relieved (less : m.world.load < w.load)
  | failed (load : m.world.load ≤ w.load) (less : m.world.spare < w.spare)
  | nearer (load : m.world.load ≤ w.load) (spare : m.world.spare = w.spare)
      (less : m.world.distance < w.distance)
  | looked (load : m.world.load ≤ w.load) (spare : m.world.spare = w.spare)
      (distance : m.world.distance = w.distance)
      (less : m.world.patience expiry < w.patience expiry)
  /-- The agent has not moved. -/
  | idle (load : m.world.load ≤ w.load) (spare : m.world.spare = w.spare)
      (distance : m.world.distance = w.distance)
      (patience : m.world.patience expiry ≤ w.patience expiry) (others : act ≠ none)
      (still : m.world.control = w.control)

section Stocks

variable {w : World} {act : Option Act} {m : Move} {expiry : Nat → Nat}

/-- A step of the agent lowers its rank, and a step of the others does not raise it. -/
theorem Descent.rank (descent : Descent expiry w act m) :
    m.world.rank expiry < w.rank expiry ∨
      m.world.rank expiry ≤ w.rank expiry ∧ act ≠ none ∧ m.world.control = w.control := by
  cases descent with
  | idle load spare distance patience others still =>
    refine .inr ⟨?_, others, still⟩
    simp only [World.rank, Prod.Lex.toLex_le_toLex]
    omega
  | _ =>
    refine .inl ?_
    simp only [World.rank, Prod.Lex.toLex_lt_toLex]
    omega

theorem Deed.isDriven (deed : Deed w act m) (driven : w.isDriven = true) :
    m.world.isDriven = true := by
  cases deed with
  | offerFailed here ends setback | unopened here setback =>
    cases setback <;> simp_all [World.isDriven, Purpose.isFirst]
  | @awaitSpace task message here => cases task <;> simp_all [World.isDriven]
  | peer | shutDown | shutDownAgain | elapse => exact driven
  | _ => simp_all [World.isDriven, Purpose.isFirst]

/-! ## Updates -/

theorem World.waiting_of_length_le {i : Nat} (unknown : w.sessions.length ≤ i) :
    w.waiting i = [] := by
  rw [waiting, session, List.getD_eq_getElem?_getD, List.getElem?_eq_none unknown]
  rfl

/-- Nothing waits on a session that does not exist. -/
theorem World.backlog_eq {n : Nat} (all : w.sessions.length ≤ n) :
    w.backlog = ∑ i ∈ Finset.range n, (w.waiting i).length := by
  refine Finset.sum_subset (Finset.range_subset_range.2 all) fun i _ unknown => ?_
  rw [World.waiting_of_length_le (by simpa using unknown), List.length_nil]

theorem Deed.waiting_le (deed : Deed w act m) (standing : Standing w)
    (undelivered : ∀ i, (⟨w, act, m⟩ : Beat).delivered i = []) (i : Nat) :
    (m.world.waiting i).length ≤ (w.waiting i).length := by
  have passes := congrArg List.length (deed.waiting standing (i := i))
  simp only [undelivered, List.append_nil, List.length_append] at passes
  omega

theorem Deed.backlog_le (deed : Deed w act m) (standing : Standing w)
    (undelivered : ∀ i, (⟨w, act, m⟩ : Beat).delivered i = []) : m.world.backlog ≤ w.backlog := by
  rw [World.backlog_eq deed.length_le]
  exact Finset.sum_le_sum fun i _ => deed.waiting_le standing undelivered i

/-- An update that is taken waits no longer. -/
theorem Deed.backlog_lt {u : Update} (deed : Deed w none m) (standing : Standing w)
    (serving : w.isServing = true)
    (taken : Sign.took u ∈ (⟨w, none, m⟩ : Beat).signs w.held) : m.world.backlog < w.backlog := by
  have undelivered (i : Nat) : (⟨w, none, m⟩ : Beat).delivered i = [] := rfl
  rw [World.backlog_eq deed.length_le]
  have known : w.held < m.world.sessions.length :=
    Nat.lt_of_lt_of_le (standing.used serving) deed.length_le
  refine Finset.sum_lt_sum (fun i _ => deed.waiting_le standing undelivered i)
    ⟨w.held, Finset.mem_range.2 known, ?_⟩
  have passes := congrArg List.length (deed.waiting standing (i := w.held))
  simp only [undelivered, List.append_nil, List.length_append] at passes
  have some : 0 < (((⟨w, none, m⟩ : Beat).signs w.held).filterMap Sign.taken?).length :=
    List.length_pos_of_mem (List.mem_filterMap.2 ⟨_, taken, rfl⟩)
  omega

theorem Deed.load_le (deed : Deed w act m) (standing : Standing w)
    (undelivered : ∀ i, (⟨w, act, m⟩ : Beat).delivered i = []) : m.world.load ≤ w.load := by
  have backlog := deed.backlog_le standing undelivered
  by_cases busy : m.world.isBusy = true ∧ w.isBusy = false
  · -- An agent gets busy only with an update that it takes.
    have relieved : m.world.backlog < w.backlog := by
      cases deed with
      | @take u here unasked received =>
        refine (Deed.take here unasked received).backlog_lt (u := u) standing ?_ ?_
        · simp [World.isServing, here]
        · simp [Beat.signs, Beat.heard, World.shown, here]
      | @awaitSpace task message here => cases task <;> simp_all [World.isBusy]
      | offerFailed here ends setback | unopened here setback =>
        cases setback <;> simp_all [World.isBusy]
      | peer | shutDown | shutDownAgain | elapse => simp_all [World.isBusy]
      | _ => simp_all [World.isBusy]
    have := m.world.isBusy.toNat_le
    unfold World.load
    omega
  · have : m.world.isBusy.toNat ≤ w.isBusy.toNat := by
      cases after : m.world.isBusy <;> cases before : w.isBusy <;> simp_all
    unfold World.load
    omega

/-- What is left of the updates gets less when the agent gets busy or has done with an update. -/
theorem Deed.load_lt (deed : Deed w act m) (standing : Standing w)
    (undelivered : ∀ i, (⟨w, act, m⟩ : Beat).delivered i = [])
    (changed : m.world.isBusy ≠ w.isBusy) : m.world.load < w.load := by
  have load := deed.load_le standing undelivered
  unfold World.load at *
  cases after : m.world.isBusy <;> cases before : w.isBusy <;> simp_all <;> omega

/-! ## Failures -/

/-- As long as the work goes on there is a failure to spare, and one that is counted is spent. -/
theorem World.Bounded.spare_lt {v : World} (bounded : w.Bounded) (going : w.isWithdrawing = false)
    (sane : w.control ≠ .overflowed) (same : v.settings = w.settings)
    (counted : v.failures = w.failures + 1) : v.spare < w.spare := by
  have within := bounded.within going sane
  unfold World.spare
  rw [same, counted]
  omega

/-! ## The way to the end -/

/-- Neither time nor a shutdown adds to the patience of an agent. -/
theorem World.patience_le {v : World} (still : v.control = w.control) (held : v.held = w.held)
    (later : w.clock ≤ v.clock) (asked : w.isShutdown = true → v.isShutdown = true) :
    v.patience expiry ≤ w.patience expiry := by
  unfold World.patience
  rw [still, held]
  cases before : w.isShutdown with
  | true => simp [asked before]
  | false =>
    simp only [Bool.false_eq_true, if_false]
    split
    · split <;> omega
    · split <;> omega
    · exact Nat.le_refl 0

/-- Everything that an agent does draws on one of its stocks, as long as nothing is delivered. -/
theorem Deed.descends (deed : Deed w act m) (driven : w.isDriven = true) (standing : Standing w)
    (bounded : w.Bounded) (undelivered : ∀ i, (⟨w, act, m⟩ : Beat).delivered i = [])
    (sane : m.world.control ≠ .overflowed) (pace : 0 < w.settings.pollInterval.nanos)
    (ends : expiry w.held ≤ w.clock → w.current.stream.inbound.ended ≠ none) :
    Descent expiry w act m := by
  have load := deed.load_le standing undelivered
  have relieved := deed.load_lt standing undelivered
  have fails := bounded.spare_lt (v := m.world)
  cases deed with
  -- An update is taken, or is done with.
  | take here | answerWritten here | answerFailed here | heed here | ignore here =>
    exact .relieved (relieved (by simp [World.isBusy, here]))
  -- A failure is counted.
  | giveUp here | desist here | reopen here | backOff here =>
    exact .failed load (fails (by simp [World.isWithdrawing, here]) (by simp [here]) rfl rfl)
  -- The agent goes on with its messages.
  | @awaitSpace task message here =>
    refine .nearer load rfl ?_
    cases task <;> simp [World.distance, stepsToWrite, here]
  | @offerWritten _ _ _ _ deadline _ here | @withdrawalWritten _ _ _ _ deadline _ here
  | @withdrawalFailed _ _ _ _ deadline _ _ here =>
    refine .nearer load rfl ?_
    simp only [World.distance, here, World.roster_onSession]
    have written := two_le_stepsToWrite deadline
    omega
  | offerFailed here ends setback | unopened here setback =>
    cases setback with
    | recovering =>
      refine .nearer load rfl ?_
      simp only [World.distance, here, World.roster_onSession]
      omega
    | _ => simp [World.isDriven, Purpose.isFirst, here] at driven
  | installNext here | offer here | drain here | lose here | refresh here | refuse here
  | launch here | timeOut here | started here | unstarted cause here | quitBackOff here
  | reopenLater here | reopenAnyway here | opened session here | withdraw here | stop here =>
    refine .nearer load rfl ?_
    simp only [World.distance, stepsToWrite, here, World.roster_onSession, Roster.length_mark,
      List.length_cons, List.length_nil]
    omega
  -- The agent looks for an update in vain, which it does only as long as the stream is not over.
  | rest here unasked nothing =>
    refine .looked load rfl (by simp [World.distance, here]) ?_
    have left : w.clock < expiry w.held :=
      Nat.lt_of_not_le fun late => ends late (Session.ended_of_nothing nothing)
    have pause := w.settings.pollInterval.ticks_least
    simp only [World.patience, here, World.isShutdown_onSession, unasked, Bool.false_eq_true,
      if_false, World.held_onSession]
    omega
  | @wake wake here due =>
    refine .looked load rfl (by simp [World.distance, here]) ?_
    cases asked : w.isShutdown with
    | true => simp [World.patience, here, asked]
    | false =>
      have late : wake ≤ w.clock := by simpa [asked] using due
      simp only [World.patience, here, asked, Bool.false_eq_true, if_false]
      omega
  -- Others act.
  | peer | shutDown | shutDownAgain =>
    exact .idle load rfl rfl (World.patience_le rfl rfl (Nat.le_refl _) (by simp)) (by simp) rfl
  | elapse ms =>
    exact .idle load rfl rfl (World.patience_le rfl rfl (Nat.le_add_right _ _) id) (by simp) rfl
  -- This is over once the agent is driven.
  | installFirst here first => simp [World.isDriven, here, first] at driven
  | retry here | run here | drop here => simp [World.isDriven, here] at driven
  | miscount | mismeasure => exact absurd rfl sane

end Stocks

end Agent

end FunctionAgent
