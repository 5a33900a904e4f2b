import FunctionAgent.Proofs.Course
/-!
# The functions on offer

An agent never forgets or invents a function: what it holds differs from the roster it was built
with in nothing but the states of the functions (`Offered.same`). The states follow the work. On a
fresh session the functions become online one after the other, at work all of them are, and in the
end they become offline one after the other.
-/

set_option autoImplicit false

namespace FunctionAgent

namespace Roster

/-- The roster with every function in one state. -/
def inState (roster : Roster) (state : Lifecycle) : Roster := roster.map (·.withState state)

/-- Whether two rosters differ in nothing but the states of the functions. -/
def Same (r s : Roster) : Prop := r.inState .unspecified = s.inState .unspecified

/-- Whether every function is in some state. -/
def AllIn (state : Lifecycle) (roster : Roster) : Prop := ∀ f ∈ roster, f.state = state

variable {r s : Roster} {state : Lifecycle}

theorem inState_inState (r : Roster) (first second : Lifecycle) :
    (r.inState first).inState second = r.inState second := by
  simp [inState, Function.withState, Function.comp_def]

theorem Same.inState (same : Same r s) (state : Lifecycle) : r.inState state = s.inState state := by
  have := congrArg (Roster.inState · state) same
  simpa [inState_inState] using this

theorem Same.trans {t : Roster} (first : Same r s) (second : Same s t) : Same r t :=
  Eq.trans first second

theorem AllIn.inState_eq (all : AllIn state r) : r.inState state = r := by
  refine (List.map_congr_left fun f member => ?_).trans (List.map_id _)
  have inState := all f member
  cases f
  simp only [Function.withState, ← inState, id]

theorem Same.eq_inState (same : Same r s) (all : AllIn state r) : r = s.inState state := by
  rw [← same.inState state, all.inState_eq]

theorem same_mark (r : Roster) (id : Uuid) (state : Lifecycle) : Same (r.mark id state) r := by
  simp only [Same, Roster.inState, mark, List.map_map]
  refine List.map_congr_left fun f _ => ?_
  simp only [Function.comp_apply]
  split <;> rfl

theorem Same.map_id (same : Same r s) : r.map Function.id = s.map Function.id := by
  have := congrArg (List.map Function.id) same
  simpa [Roster.inState, Function.comp_def] using this

theorem Same.isSorted (same : Same r s) (sorted : IsSorted s) : IsSorted r := by
  have ids : (s.map Function.id).Pairwise (· < ·) := List.pairwise_map.2 sorted
  exact List.pairwise_map.1 (same.map_id ▸ ids)

/-- In a sorted roster the identifier of a function marks this one only. -/
theorem mark_middle {done todo : Roster} {f : Function} (sorted : IsSorted (done ++ f :: todo))
    (state : Lifecycle) :
    (done ++ f :: todo).mark f.id state = done ++ f.withState state :: todo := by
  obtain ⟨-, later, before⟩ := List.pairwise_append.1 sorted
  have others (part : Roster) (different : ∀ g ∈ part, g.id ≠ f.id) : part.mark f.id state = part :=
    (List.map_congr_left fun g member => if_neg (different g member)).trans (List.map_id _)
  have first : done.mark f.id state = done := others done fun g member equal =>
    Uuid.lt_irrefl f.id (equal ▸ before g member f List.mem_cons_self)
  have last : todo.mark f.id state = todo := others todo fun g member equal =>
    Uuid.lt_irrefl f.id (equal ▸ (List.pairwise_cons.1 later).1 g member)
  simp only [mark] at first last
  rw [mark, List.map_append, List.map_cons, if_pos rfl, first, last]

theorem allIn_append : AllIn state (r ++ s) ↔ AllIn state r ∧ AllIn state s := by
  simp [AllIn, or_imp, forall_and]

theorem allIn_cons {f : Function} : AllIn state (f :: r) ↔ f.state = state ∧ AllIn state r := by
  simp [AllIn]

/-- The functions of an agent at work. -/
def onOffer (functions : List Function) : Roster := (ofList functions).inState .online

theorem isSorted_onOffer (functions : List Function) : IsSorted (onOffer functions) := by
  have same : Same (onOffer functions) (ofList functions) := inState_inState _ _ _
  exact same.isSorted (isSorted_ofList functions)

end Roster

namespace Agent

/-- Which functions are in which state, by the point of the work. -/
def World.Listed (w : World) : Prop :=
  match w.control with
  | .offering purpose _ todo | .writing (.offer purpose _ todo) _ _ =>
    ∃ done, w.roster = done ++ todo ∧ Roster.AllIn .online done ∧
      (purpose.isFirst = false → Roster.AllIn .online todo)
  | .draining todo _ | .writing (.withdraw _ todo _) _ _ =>
    ∃ done, w.roster = done ++ todo ∧ Roster.AllIn .offline done ∧ Roster.AllIn .online todo
  | .finished _ => Roster.AllIn .offline w.roster
  | .opening purpose => purpose.isFirst = false → Roster.AllIn .online w.roster
  | .retrying _ _ _ | .unstarted _ | .overflowed => True
  | _ => Roster.AllIn .online w.roster

/-- The functions of an agent that was built with `functions`. -/
structure Offered (functions : List Function) (w : World) : Prop where
  same : Roster.Same w.roster (.ofList functions)
  listed : w.Listed

variable {functions : List Function} {w : World} {act : Option Act} {m : Move}

theorem Offered.isSorted (offered : Offered functions w) : Roster.IsSorted w.roster :=
  offered.same.isSorted (Roster.isSorted_ofList functions)

theorem Offered.same_onOffer (offered : Offered functions w) :
    Roster.Same w.roster (.onOffer functions) := by
  rw [Roster.Same, Roster.onOffer, Roster.inState_inState]
  exact offered.same

/-- An agent that offers all its functions is at work. -/
theorem Offered.eq_onOffer (offered : Offered functions w) (all : Roster.AllIn .online w.roster) :
    w.roster = .onOffer functions :=
  offered.same.eq_inState all

theorem Deed.same_roster (deed : Deed w act m) : Roster.Same m.world.roster w.roster := by
  cases deed with
  | offer | withdraw => exact Roster.same_mark _ _ _
  | _ => rfl

theorem listed_setback {purpose : Purpose} {failure : SessionFailure} {control : Control}
    {reports : List Happening}
    (setback : Setback w.settings w.clock purpose failure control reports)
    (online : purpose.isFirst = false → Roster.AllIn .online m.world.roster)
    (next : m.world.control = control) : m.world.Listed := by
  cases setback with
  | recovering => simpa [World.Listed, next] using online rfl
  | _ => simp [World.Listed, next]

/-- Announcing the next function changes the state of this one. -/
theorem listed_mark {done todo : Roster} {f : Function} {state : Lifecycle}
    (sorted : Roster.IsSorted w.roster) (parts : w.roster = done ++ f :: todo)
    (all : Roster.AllIn state done) :
    ∃ done, w.roster.mark f.id state = done ++ todo ∧ Roster.AllIn state done := by
  refine ⟨done ++ [f.withState state], ?_, ?_⟩
  · rw [parts, Roster.mark_middle (parts ▸ sorted), List.append_assoc, List.singleton_append]
  · exact Roster.allIn_append.2 ⟨all, Roster.allIn_cons.2 ⟨rfl, by simp [Roster.AllIn]⟩⟩

theorem Offered.deed (offered : Offered functions w) (deed : Deed w act m) :
    Offered functions m.world := by
  refine ⟨deed.same_roster.trans offered.same, ?_⟩
  have sorted := offered.isSorted
  have listed := offered.listed
  cases deed with
  | installFirst here first =>
    simp only [World.Listed, here] at listed
    obtain ⟨done, parts, online, -⟩ := listed
    simpa [World.Listed, parts] using online
  | installNext here =>
    simp only [World.Listed, here] at listed
    obtain ⟨done, parts, online, -⟩ := listed
    simpa [World.Listed, parts] using online
  | offer here =>
    simp only [World.Listed, here] at listed
    obtain ⟨done, parts, online, rest⟩ := listed
    obtain ⟨done', parts', online'⟩ := listed_mark sorted parts online
    exact ⟨done', parts', online', fun later => (Roster.allIn_cons.1 (rest later)).2⟩
  | offerFailed here ends setback =>
    simp only [World.Listed, here] at listed
    obtain ⟨done, parts, online, rest⟩ := listed
    refine listed_setback setback (fun later => ?_) rfl
    exact parts ▸ Roster.allIn_append.2 ⟨online, rest later⟩
  | drain here =>
    simp only [World.Listed, here] at listed
    exact ⟨[], rfl, by simp [Roster.AllIn], listed⟩
  | giveUp here =>
    simp only [World.Listed, here] at listed
    exact ⟨[], rfl, by simp [Roster.AllIn], listed⟩
  | withdraw here =>
    simp only [World.Listed, here] at listed
    obtain ⟨done, parts, offline, rest⟩ := listed
    obtain ⟨done', parts', offline'⟩ := listed_mark sorted parts offline
    exact ⟨done', parts', offline', (Roster.allIn_cons.1 rest).2⟩
  | stop here =>
    simp only [World.Listed, here] at listed
    obtain ⟨done, parts, offline, -⟩ := listed
    simpa [World.Listed, World.onSession, parts] using offline
  | @opened purpose session here =>
    simp only [World.Listed, here] at listed
    exact ⟨[], rfl, by simp [Roster.AllIn], listed⟩
  | unopened here setback =>
    simp only [World.Listed, here] at listed
    exact listed_setback setback listed rfl
  | @awaitSpace task message here =>
    cases task <;> simpa [World.Listed, here] using listed
  | retry => simp [World.Listed, Purpose.isFirst]
  | miscount | mismeasure => trivial
  | peer | shutDown | shutDownAgain | elapse => exact listed
  | _ => simp_all [World.Listed, World.onSession]

end Agent

end FunctionAgent
