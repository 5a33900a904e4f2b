import FunctionAgent.Proofs.Recognition
/-!
# The members of an object

An object is told by its members in their order: the text of each name, and what the value behind it
stands for. What a value may stand for is a parameter (`Pairs`), and if no value stands for two
things, then no text is two objects (`IsObject.unique`).
-/

set_option autoImplicit false

namespace FunctionAgent.Json

variable {isFirst : Bool} {c d : Char} {cs key left rest : List Char}

/-! ## One way to read what stands between values -/

theorem Blanks.unique (blanks : Blanks cs (c :: left)) (again : Blanks cs (d :: rest))
    (visible : isBlank c = false) (seen : isBlank d = false) : c :: left = d :: rest :=
  (blanks.reach visible).symm.trans (again.reach seen)

theorem Gap.unique (gap : Gap isFirst cs (c :: left)) (again : Gap isFirst cs (d :: rest))
    (visible : isBlank c = false) (seen : isBlank d = false) : c :: left = d :: rest := by
  cases gap with
  | first blanks =>
    cases again with
    | first others => exact blanks.unique others visible seen
  | comma before behind =>
    cases again with
    | comma others further =>
      obtain ⟨-, rfl⟩ := List.cons.inj (before.unique others (by decide) (by decide))
      exact behind.unique further visible seen

/-- In front of a name no object is closed. -/
theorem Gap.not_closed (gap : Gap isFirst cs ('"' :: key)) : ¬Blanks cs ('\x7d' :: rest) := by
  intro closed
  cases gap with
  | first blanks =>
    have same := blanks.unique closed (by decide) (by decide)
    simp at same
  | comma before =>
    have same := before.unique closed (by decide) (by decide)
    simp at same

/-! ## Objects -/

section Objects

variable {α : Type} {Stands : α → (cs rest : List Char) → Prop}
  {pairs other : List (List Char × α)}

/-- The members of an object with its closing bracket, as they stand in it. -/
inductive Pairs (Stands : α → (cs rest : List Char) → Prop) : (isFirst : Bool) →
    (cs : List Char) → (pairs : List (List Char × α)) → (rest : List Char) → Prop where
  | close {isFirst : Bool} {cs rest : List Char} (blanks : Blanks cs ('\x7d' :: rest)) :
      Pairs Stands isFirst cs [] rest
  | member {isFirst : Bool} {a : α} {pairs : List (List Char × α)}
      {name cs key behind start left rest : List Char} (gap : Gap isFirst cs ('"' :: key))
      (label : Inside name key behind) (colon : Blanks behind (':' :: start))
      (stands : Stands a start left) (others : Pairs Stands false left pairs rest) :
      Pairs Stands isFirst cs ((name, a) :: pairs) rest

/-- Whether a text is an object with these members and nothing around it but blanks. -/
inductive IsObject (Stands : α → (cs rest : List Char) → Prop) (cs : List Char)
    (pairs : List (List Char × α)) : Prop where
  | document {start left : List Char} (before : Blanks cs ('\x7b' :: start))
      (inside : Pairs Stands true start pairs left) (behind : Blanks left []) :
      IsObject Stands cs pairs

/-- Whether a value stands for one thing only. -/
def Sole (Stands : α → (cs rest : List Char) → Prop) : Prop :=
  ∀ ⦃a b cs rest left⦄, Stands a cs rest → Stands b cs left → a = b ∧ rest = left

theorem Pairs.unique (sole : Sole Stands) (stand : Pairs Stands isFirst cs pairs rest)
    (again : Pairs Stands isFirst cs other left) : pairs = other ∧ rest = left := by
  induction stand generalizing other left with
  | close blanks =>
    cases again with
    | close others =>
      obtain ⟨-, rfl⟩ := List.cons.inj (blanks.unique others (by decide) (by decide))
      exact ⟨rfl, rfl⟩
    | member gap => exact absurd blanks gap.not_closed
  | member gap label colon stands _ ih =>
    cases again with
    | close blanks => exact absurd blanks gap.not_closed
    | member gap' label' colon' stands' others =>
      obtain ⟨-, rfl⟩ := List.cons.inj (gap.unique gap' (by decide) (by decide))
      obtain ⟨rfl, rfl⟩ :=
        Prod.mk.inj (Except.ok.inj (label.text_eq.symm.trans label'.text_eq))
      obtain ⟨-, rfl⟩ := List.cons.inj (colon.unique colon' (by decide) (by decide))
      obtain ⟨rfl, rfl⟩ := sole stands stands'
      obtain ⟨rfl, rfl⟩ := ih others
      exact ⟨rfl, rfl⟩

/-- A text is an object in one way only. -/
theorem IsObject.unique (sole : Sole Stands) (holds : IsObject Stands cs pairs)
    (again : IsObject Stands cs other) : pairs = other := by
  obtain ⟨before, inside, -⟩ := holds
  obtain ⟨before', inside', -⟩ := again
  obtain ⟨-, rfl⟩ := List.cons.inj (before.unique before' (by decide) (by decide))
  exact (inside.unique sole inside').1

end Objects

end FunctionAgent.Json
