import FunctionAgent.Catalog.Mode
import FunctionAgent.Broker.Update
/-!
# Functions on offer

A function is a catalog entry under its identifier, together with the state in which it was last
announced. The registration record that the broker gets is computed from these, so it never differs
from the description.

A roster holds the functions of one agent, at most one for each identifier, in ascending order of
the identifiers. Of several functions with one identifier a roster keeps the last. The main statement
is that a roster is in order, whatever functions it was built from.
-/

set_option autoImplicit false

namespace FunctionAgent

/-- What the catalog says about a function. -/
structure Description where
  name : String
  signature : String
  description : String
  version : String
  author : Option String
  /-- The kind of executor that runs the function. -/
  executor : String
  /-- The runtime that the executor is asked to use. -/
  runtime : String
  mode : Mode
  deriving DecidableEq, Repr, Inhabited

/-- A function on offer. -/
structure Function where
  id : Uuid
  description : Description
  state : Lifecycle
  deriving DecidableEq, Inhabited

namespace Function

/-- A function that has not been announced yet. -/
def new (id : Uuid) (description : Description) : Function := ⟨id, description, .unspecified⟩

/-- The record that announces a function in a given state. -/
def registrationAs (f : Function) (state : Lifecycle) : Registration where
  id := f.id.render
  name := f.description.name
  signature := f.description.signature
  version := f.description.version
  description := f.description.description
  state := state.number

/-- The record that announces a function in its own state. -/
def registration (f : Function) : Registration := f.registrationAs f.state

/-- The function in another state. -/
def withState (f : Function) (state : Lifecycle) : Function := { f with state }

@[simp] theorem id_withState (f : Function) (s : Lifecycle) : (f.withState s).id = f.id := rfl

@[simp] theorem description_withState (f : Function) (s : Lifecycle) :
    (f.withState s).description = f.description := rfl

@[simp] theorem state_withState (f : Function) (s : Lifecycle) : (f.withState s).state = s := rfl

end Function

/-- The functions of an agent, in strictly ascending order of their identifiers. -/
abbrev Roster := List Function

namespace Roster

/-- Puts a function in its place, in the stead of one with the same identifier. -/
def insert (f : Function) : Roster → Roster
  | [] => [f]
  | g :: rest =>
    if f.id < g.id then f :: g :: rest
    else if f.id = g.id then f :: rest
    else g :: insert f rest

/-- The roster of some functions; of several with one identifier the last counts. -/
def ofList (fs : List Function) : Roster := fs.foldl (fun roster f => insert f roster) []

/-- Whether the identifiers ascend strictly. -/
def IsSorted (roster : Roster) : Prop := roster.Pairwise fun f g => f.id < g.id

theorem mem_insert {f g : Function} {roster : Roster} (h : g ∈ insert f roster) :
    g = f ∨ g ∈ roster := by
  fun_induction insert f roster with
  | case1 => exact .inl (List.mem_singleton.mp h)
  | case2 k rest _ => exact List.mem_cons.mp h
  | case3 k rest _ _ =>
    rcases List.mem_cons.mp h with h | h
    · exact .inl h
    · exact .inr (List.mem_cons_of_mem _ h)
  | case4 k rest _ _ ih =>
    rcases List.mem_cons.mp h with h | h
    · exact .inr (h ▸ List.mem_cons_self)
    · exact (ih h).imp_right (List.mem_cons_of_mem _)

/-- Inserting a function keeps a roster in order. -/
theorem isSorted_insert (f : Function) {roster : Roster} (h : IsSorted roster) :
    IsSorted (insert f roster) := by
  fun_induction insert f roster with
  | case1 => exact List.pairwise_singleton _ _
  | case2 k rest before =>
    refine List.pairwise_cons.mpr ⟨?_, h⟩
    intro g hg
    rcases List.mem_cons.mp hg with rfl | hg
    · exact before
    · exact Uuid.lt_trans before ((List.pairwise_cons.mp h).1 g hg)
  | case3 k rest _ same =>
    obtain ⟨first, others⟩ := List.pairwise_cons.mp h
    exact List.pairwise_cons.mpr ⟨fun g hg => same ▸ first g hg, others⟩
  | case4 k rest notBefore notSame ih =>
    obtain ⟨first, others⟩ := List.pairwise_cons.mp h
    refine List.pairwise_cons.mpr ⟨?_, ih others⟩
    intro g hg
    rcases mem_insert hg with rfl | hg
    · rcases Uuid.lt_or_eq_or_lt g.id k.id with before | same | behind
      · exact absurd before notBefore
      · exact absurd same notSame
      · exact behind
    · exact first g hg

/-- A roster that is built from any functions is in order. -/
theorem isSorted_ofList (fs : List Function) : IsSorted (ofList fs) := by
  have step (roster : Roster) (h : IsSorted roster) :
      IsSorted (fs.foldl (fun roster f => insert f roster) roster) := by
    induction fs generalizing roster with
    | nil => exact h
    | cons f rest ih => exact ih _ (isSorted_insert f h)
  exact step [] List.Pairwise.nil

/-- The function with an identifier. -/
def find? (roster : Roster) (id : Uuid) : Option Function := List.find? (fun f => f.id == id) roster

/-- The function that a text names, in any accepted spelling. -/
def resolve? (roster : Roster) (id : String) : Option Function := (Uuid.parse? id).bind roster.find?

/-- The roster with the state of one function changed. -/
def mark (roster : Roster) (id : Uuid) (state : Lifecycle) : Roster :=
  roster.map fun f => if f.id = id then f.withState state else f

end Roster

end FunctionAgent
