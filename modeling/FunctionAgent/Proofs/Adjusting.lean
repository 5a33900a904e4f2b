import FunctionAgent.Proofs.Authority
/-!
# Settings after any changes

Settings have three parts that are changed apart from each other: the encryption with the scheme of
the address, how the channel is kept alive, and how long connecting may take. Whatever the changes
are, each part is as the last change of it says (`Adjusted`), one change more being the step of the
induction. However often the scheme is replaced, what stands behind it stays, so that changes of
different parts can be made in any order.
-/

set_option autoImplicit false

namespace FunctionAgent.ChannelSettings

open FunctionAgent.Text

/-- The parts of settings that are changed apart from each other. -/
inductive Part where
  | encryption
  | keepAlive
  | connectTimeout
  deriving DecidableEq, Repr

namespace Change

/-- The part that is changed. -/
def part : Change → Part
  | encrypt | leaveOpen => .encryption
  | keepAlive _ | noKeepAlive => .keepAlive
  | connectTimeout _ => .connectTimeout

/-- What a change says about leaving the channel open. -/
def open? : Change → Option Bool
  | encrypt => some false
  | leaveOpen => some true
  | _ => none

/-- What a change says about keeping the channel alive. -/
def keepAlive? : Change → Option (Option KeepAlive)
  | keepAlive k => some (some k)
  | noKeepAlive => some none
  | _ => none

/-- What a change says about the time for connecting. -/
def connectTimeout? : Change → Option Span
  | connectTimeout timeout => some timeout
  | _ => none

end Change

section Last

variable {α : Type} {view : Change → Option α} {changes others : List Change}

/-- What the last of some changes says that says anything. -/
def last? (view : Change → Option α) (changes : List Change) : Option α :=
  (changes.filterMap view).getLast?

theorem last?_concat (view : Change → Option α) (changes : List Change) (change : Change) :
    last? view (changes ++ [change]) = (view change).or (last? view changes) := by
  rw [last?, List.filterMap_append]
  cases said : view change with
  | none =>
    rw [List.filterMap_cons_none said, List.filterMap_nil, List.append_nil, Option.none_or]
    rfl
  | some a =>
    rw [List.filterMap_cons_some said, List.filterMap_nil, List.getLast?_concat, Option.some_or]

/-- What is said about one part is said by the changes of this part. -/
theorem last?_filter {p : Part} (only : ∀ change a, view change = some a → change.part = p)
    (changes : List Change) : last? view (changes.filter (·.part = p)) = last? view changes := by
  have spoken : (fun change : Change => if change.part = p then view change else none) = view := by
    funext change
    cases said : view change with
    | none => exact ite_self none
    | some a => exact if_pos (only change a said)
  rw [last?, List.filterMap_filter]
  simp only [decide_eq_true_eq, spoken]
  rfl

end Last

variable {start c d : ChannelSettings} {rest : List Char} {changes others : List Change}

/-! ## One change -/

theorem isEncrypted_apply (c : ChannelSettings) (change : Change) :
    (c.apply change).isEncrypted = (change.open?.map not).getD c.isEncrypted := by
  cases change <;> rfl

theorem address_apply_of_none {change : Change} (silent : change.open? = none) :
    (c.apply change).address = c.address := by
  cases change with
  | encrypt | leaveOpen => cases silent
  | _ => rfl

theorem address_apply_of_some {change : Change} {insecure : Bool} {rest : List Char}
    (said : change.open? = some insecure) (cut : Cut c.address.toList rest) :
    (c.apply change).address.toList = schemeFor insecure ++ rest := by
  rw [← remainder_eq_iff.2 cut]
  cases change with
  | encrypt | leaveOpen =>
    obtain rfl := Option.some.inj said
    exact String.toList_ofList
  | _ => cases said

theorem keepAlive_apply (c : ChannelSettings) (change : Change) :
    (c.apply change).keepAlive = change.keepAlive?.getD c.keepAlive := by
  cases change <;> rfl

theorem connectTimeout_apply (c : ChannelSettings) (change : Change) :
    (c.apply change).connectTimeout = change.connectTimeout?.or c.connectTimeout := by
  cases change <;> rfl

/-! ## Any number of changes -/

/-- What some changes make of settings whose address says `rest` behind its scheme. -/
structure Adjusted (start : ChannelSettings) (rest : List Char) (changes : List Change)
    (c : ChannelSettings) : Prop where
  untouched (silent : last? Change.open? changes = none) :
    c.address = start.address ∧ c.isEncrypted = start.isEncrypted
  chosen {insecure : Bool} (said : last? Change.open? changes = some insecure) :
    c.address.toList = schemeFor insecure ++ rest ∧ c.isEncrypted = !insecure
  cut : Cut c.address.toList rest
  keepAlive : c.keepAlive = (last? Change.keepAlive? changes).getD start.keepAlive
  connectTimeout : c.connectTimeout = (last? Change.connectTimeout? changes).or start.connectTimeout

theorem Adjusted.refl (cut : Cut start.address.toList rest) : Adjusted start rest [] start where
  untouched _ := ⟨rfl, rfl⟩
  chosen said := nomatch said
  cut := cut
  keepAlive := rfl
  connectTimeout := rfl

/-- One change more. -/
theorem Adjusted.step (adjusted : Adjusted start rest changes c) (change : Change) :
    Adjusted start rest (changes ++ [change]) (c.apply change) := by
  constructor
  case untouched =>
    intro silent
    rw [last?_concat, Option.or_eq_none_iff] at silent
    obtain ⟨here, before⟩ := silent
    rw [address_apply_of_none here, isEncrypted_apply, here]
    exact adjusted.untouched before
  case chosen =>
    intro insecure said
    rw [last?_concat, Option.or_eq_some_iff] at said
    rcases said with here | ⟨here, before⟩
    · rw [address_apply_of_some here adjusted.cut, isEncrypted_apply, here]
      exact ⟨rfl, rfl⟩
    · rw [address_apply_of_none here, isEncrypted_apply, here]
      exact adjusted.chosen before
  case cut =>
    cases here : change.open? with
    | none =>
      rw [address_apply_of_none here]
      exact adjusted.cut
    | some insecure =>
      rw [address_apply_of_some here adjusted.cut, ← remainder_eq_iff, remainder_schemeFor]
  case keepAlive => rw [keepAlive_apply, adjusted.keepAlive, last?_concat, Option.getD_or]
  case connectTimeout =>
    rw [connectTimeout_apply, adjusted.connectTimeout, last?_concat, Option.or_assoc]

theorem Adjusted.run (adjusted : Adjusted start rest changes c) (more : List Change) :
    Adjusted start rest (changes ++ more) (more.foldl apply c) := by
  induction more generalizing changes c with
  | nil =>
    rw [List.append_nil]
    exact adjusted
  | cons change more ih =>
    rw [List.append_cons]
    exact ih (adjusted.step change)

theorem adjusted_foldl (start : ChannelSettings) (changes : List Change) :
    Adjusted start (remainder start.address.toList) changes (changes.foldl apply start) :=
  (Adjusted.refl (remainder_eq_iff.1 rfl)).run changes

/-- Nothing about the settings is left open. -/
theorem Adjusted.unique (adjusted : Adjusted start rest changes c)
    (also : Adjusted start rest others d)
    (choice : last? Change.open? changes = last? Change.open? others)
    (keepAlive : last? Change.keepAlive? changes = last? Change.keepAlive? others)
    (connectTimeout : last? Change.connectTimeout? changes = last? Change.connectTimeout? others) :
    c = d := by
  have encryption : c.address = d.address ∧ c.isEncrypted = d.isEncrypted := by
    cases said : last? Change.open? changes with
    | none =>
      obtain ⟨address, flag⟩ := adjusted.untouched said
      obtain ⟨address', flag'⟩ := also.untouched (choice.symm.trans said)
      exact ⟨address.trans address'.symm, flag.trans flag'.symm⟩
    | some insecure =>
      obtain ⟨address, flag⟩ := adjusted.chosen said
      obtain ⟨address', flag'⟩ := also.chosen (choice.symm.trans said)
      exact ⟨String.toList_inj.1 (address.trans address'.symm), flag.trans flag'.symm⟩
  have alive : c.keepAlive = d.keepAlive := by
    rw [adjusted.keepAlive, also.keepAlive, keepAlive]
  have time : c.connectTimeout = d.connectTimeout := by
    rw [adjusted.connectTimeout, also.connectTimeout, connectTimeout]
  obtain ⟨_, _, _, _⟩ := c
  obtain ⟨_, _, _, _⟩ := d
  obtain ⟨rfl, rfl⟩ := encryption
  obtain rfl := alive
  obtain rfl := time
  rfl

/-- Only the order of the changes of one part matters. -/
theorem foldl_apply_congr
    (same : ∀ p, changes.filter (·.part = p) = others.filter (·.part = p)) :
    changes.foldl apply start = others.foldl apply start := by
  have word {α : Type} {view : Change → Option α} {p : Part}
      (only : ∀ change a, view change = some a → change.part = p) :
      last? view changes = last? view others := by
    rw [← last?_filter only changes, same, last?_filter only others]
  refine (adjusted_foldl start changes).unique (adjusted_foldl start others) ?_ ?_ ?_
  · refine word (p := .encryption) fun change _ said => ?_
    cases change <;> first | rfl | cases said
  · refine word (p := .keepAlive) fun change _ said => ?_
    cases change <;> first | rfl | cases said
  · refine word (p := .connectTimeout) fun change _ said => ?_
    cases change <;> first | rfl | cases said

/-- Changes of different parts commute. -/
theorem apply_comm {change other : Change} (apart : change.part ≠ other.part) :
    (c.apply change).apply other = (c.apply other).apply change := by
  have same (p : Part) :
      [change, other].filter (·.part = p) = [other, change].filter (·.part = p) := by
    by_cases first : change.part = p
    · have second : ¬other.part = p := fun also => apart (first.trans also.symm)
      simp [first, second]
    · by_cases second : other.part = p <;> simp [first, second]
  exact foldl_apply_congr same

/-- Whatever changes are made to the settings for an address, one and the same text stands behind
the scheme, namely what is behind the first separator of the address, or all of it if there is none.
Changes of different parts do not interfere, wherever they stand. -/
theorem composes (address : String) :
    (∃ rest, Cut (trimmed address.toList) rest ∧ ∀ changes,
      Adjusted (new address) rest changes (changes.foldl apply (new address))) ∧
    (∀ (c : ChannelSettings) (change other : Change), change.part ≠ other.part →
      (c.apply change).apply other = (c.apply other).apply change) ∧
    ∀ (c : ChannelSettings) (changes others : List Change),
      (∀ p, changes.filter (·.part = p) = others.filter (·.part = p)) →
        changes.foldl apply c = others.foldl apply c := by
  refine ⟨⟨remainder (trimmed address.toList), remainder_eq_iff.1 rfl, fun changes => ?_⟩, ?_, ?_⟩
  · have trimming : (new address).address.toList = trimmed address.toList := String.toList_ofList
    rw [← trimming]
    exact adjusted_foldl (new address) changes
  · intro c change other apart
    exact apply_comm apart
  · intro c changes others same
    exact foldl_apply_congr same

/-- A scheme in capitals is replaced, and a separator further on stays. -/
theorem composes_upper_case :
    let start := new " HTTP://a://b"
    let changes : List Change := [.encrypt, .noKeepAlive, .leaveOpen, .encrypt]
    (changes.foldl apply start).address.toList = "https://a://b".toList ∧
      (changes.foldl apply start).isEncrypted = true ∧
      (changes.foldl apply start).keepAlive = none ∧
      Change.encrypt.part ≠ Change.noKeepAlive.part ∧
      (start.apply .encrypt).apply .noKeepAlive = (start.apply .noKeepAlive).apply .encrypt := by
  intro start changes
  obtain ⟨⟨rest, cut, adjusted⟩, commute, -⟩ := composes " HTTP://a://b"
  obtain rfl : "a://b".toList = rest := remainder_eq_iff.2 cut
  obtain ⟨address, encrypted⟩ := (adjusted changes).chosen rfl
  exact ⟨address, encrypted, (adjusted changes).keepAlive, by decide,
    commute start .encrypt .noKeepAlive (by decide)⟩

end FunctionAgent.ChannelSettings
