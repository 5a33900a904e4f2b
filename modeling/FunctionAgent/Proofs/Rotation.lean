import FunctionAgent.Proofs.Credentials
/-!
# A token that several holders refresh

A slot is reached through its holders, and sharing makes one more holder of the same slot. Whoever
of them writes a token, all of them stamp this one from then on, and the holders of other slots
notice nothing of it (`Keyring.rotates`). Which holders share a slot is told by the history alone
(`Keyring.kin`), and so is the token that counts (`Keyring.latest`); `Aligned` relates both to the
slots, and every act keeps it.

A call is stamped in place, or handed over and given back. Both come to the same.
-/

set_option autoImplicit false

namespace FunctionAgent

/-- The headers of other names. -/
def Headers.others (h : Headers) (name : String) : Headers := h.filter fun (n, _) => n != name

theorem Headers.others_set (h : Headers) (name : String) (value : List UInt8) :
    (h.set name value).others name = h.others name := by
  simp [others, set, List.filter_filter]

namespace Bearer

/-- Stamps a call in place; a token that no header can hold leaves the call as it is. -/
def stamp (b : Bearer) (h : Headers) : Except Status Unit × Headers :=
  match b with
  | none => (.ok (), h)
  | some token =>
    match headerValue? (scheme ++ token) with
    | none => (.error invalid, h)
    | some bytes => (.ok (), h.set header bytes)

/-- A call that is handed over is given back as it would be stamped in place. -/
theorem apply_eq_stamp (b : Bearer) (h : Headers) :
    b.apply h = (b.stamp h).1.map fun _ => (b.stamp h).2 := by
  cases b with
  | none => rfl
  | some token =>
    cases fit : headerValue? (scheme ++ token) <;> simp [apply, value, stamp, fit, Except.map]

end Bearer

/-- Slots with their holders, and the calls that are prepared. -/
structure Keyring where
  slots : List SharedBearer
  /-- The number of the slot that each holder holds. -/
  holders : List Nat
  calls : List Headers

namespace Keyring

inductive Act where
  /-- Makes an empty slot with one holder. -/
  | found
  /-- Makes one more holder of the slot of a holder. -/
  | share (holder : Nat)
  | write (holder : Nat) (token : String)
  | read (holder : Nat)
  /-- Prepares a call. -/
  | draft (headers : Headers)
  /-- Stamps a prepared call in place. -/
  | stamp (holder call : Nat)
  /-- Stamps a call that is handed over and given back. -/
  | pass (holder : Nat) (headers : Headers)
  deriving DecidableEq, Repr

/-- What there is to be seen of an act. -/
inductive Outcome where
  | nothing
  | seen (seen : SharedBearer.Seen)
  | stamped (result : Except Status Unit)

/-- The slot of a holder, with its number. -/
def find? (s : Keyring) (holder : Nat) : Option (Nat × SharedBearer) :=
  (s.holders[holder]?).bind fun i => (s.slots[i]?).map (i, ·)

/-- A holder does something with its slot. -/
def use (s : Keyring) (holder : Nat) (act : SharedBearer.Act) : Outcome × Keyring :=
  match s.find? holder with
  | none => (.nothing, s)
  | some (i, b) =>
    (.seen (b.step holder act).1, { s with slots := s.slots.set i (b.step holder act).2 })

/-- The slots after an act. -/
def step (s : Keyring) : Act → Outcome × Keyring
  | .found =>
    (.nothing, { s with slots := s.slots ++ [⟨none, 1⟩], holders := s.holders ++ [s.slots.length] })
  | .share holder =>
    let (outcome, t) := s.use holder .share
    (outcome, { t with holders := t.holders ++ (t.holders[holder]?).toList })
  | .write holder token => s.use holder (.write token)
  | .read holder => s.use holder .read
  | .pass holder headers => s.use holder (.apply headers)
  | .draft headers => (.nothing, { s with calls := s.calls ++ [headers] })
  | .stamp holder call =>
    match s.find? holder, s.calls[call]? with
    | some (_, b), some headers =>
      (.stamped (b.slot.stamp headers).1,
        { s with calls := s.calls.set call (b.slot.stamp headers).2 })
    | _, _ => (.nothing, s)

/-- What has become of no slots at all after some acts, the latest of which stands first. -/
def after : List Act → Keyring
  | [] => ⟨[], [], []⟩
  | act :: earlier => ((after earlier).step act).2

/-! ## What the history tells -/

/-- How many slots were made by some acts, the latest of which stands first. -/
def founded : List Act → Nat
  | [] => 0
  | .found :: earlier => founded earlier + 1
  | _ :: earlier => founded earlier

/-- The slot of each holder, counted in the order in which they were made. -/
def kin : List Act → List Nat
  | [] => []
  | .found :: earlier => kin earlier ++ [founded earlier]
  | .share holder :: earlier => kin earlier ++ ((kin earlier)[holder]?).toList
  | _ :: earlier => kin earlier

/-- The token that was written last by any holder of a slot. -/
def latest (slot : Nat) : List Act → Bearer
  | [] => none
  | .write holder token :: earlier =>
    if (kin earlier)[holder]? = some slot then some token else latest slot earlier
  | _ :: earlier => latest slot earlier

/-- How the slots stand to the history. -/
structure Aligned (acts : List Act) (s : Keyring) : Prop where
  holders : s.holders = kin acts
  slots : ∀ i, s.slots[i]?.map SharedBearer.slot =
    if i < founded acts then some (latest i acts) else none

section Acts

variable {acts : List Act} {s : Keyring} {p i : Nat} {b : SharedBearer}

theorem lt_of_mem_kin (member : i ∈ kin acts) : i < founded acts := by
  fun_induction kin acts with
  | case1 => contradiction
  | case2 earlier ih =>
    rcases List.mem_append.1 member with old | new
    · exact Nat.lt_succ_of_lt (ih old)
    · exact List.mem_singleton.1 new ▸ Nat.lt_succ_self _
  | case3 holder earlier ih =>
    rcases List.mem_append.1 member with old | new
    · exact ih old
    · exact ih (List.mem_of_getElem? (Option.mem_toList.1 new))
  | case4 act earlier notFound notShare ih =>
    cases act with
    | found => exact absurd rfl notFound
    | _ => exact ih member

/-- Nothing was written yet to a slot that is not made yet. -/
theorem latest_eq_none (unmade : founded acts ≤ i) : latest i acts = none := by
  fun_induction latest i acts with
  | case1 => rfl
  | case2 holder token earlier held =>
    have := lt_of_mem_kin (List.mem_of_getElem? held)
    exact absurd this (Nat.not_lt.2 unmade)
  | case3 holder token earlier other ih => exact ih unmade
  | case4 act earlier notWrite ih =>
    cases act with
    | found => exact ih (Nat.le_of_succ_le unmade)
    | _ => exact ih unmade

theorem use_of_unheld {act : SharedBearer.Act} (unheld : s.holders[p]? = none) :
    s.use p act = (.nothing, s) := by
  simp [use, find?, unheld]

theorem use_of_held {act : SharedBearer.Act} (held : s.holders[p]? = some i)
    (slot : s.slots[i]? = some b) :
    s.use p act = (.seen (b.step p act).1, { s with slots := s.slots.set i (b.step p act).2 }) := by
  simp [use, find?, held, slot]

/-- A holder holds a slot, and the token in it is the one that was written last. -/
theorem Aligned.held (aligned : Aligned acts s) (kind : (kin acts)[p]? = some i) :
    s.holders[p]? = some i ∧ ∃ b, s.slots[i]? = some b ∧ b.slot = latest i acts := by
  refine ⟨aligned.holders ▸ kind, ?_⟩
  have made := aligned.slots i
  rw [if_pos (lt_of_mem_kin (List.mem_of_getElem? kind))] at made
  exact Option.map_eq_some_iff.1 made

/-- What a holder does with its slot is seen in this slot and in no other. -/
theorem slots_use (act : SharedBearer.Act) (j : Nat) (aligned : Aligned acts s) :
    (s.use p act).2.slots[j]?.map SharedBearer.slot =
      if (kin acts)[p]? = some j then (s.slots[j]?).map fun b => (b.step p act).2.slot
      else (s.slots[j]?).map SharedBearer.slot := by
  cases held : s.holders[p]? with
  | none =>
    rw [use_of_unheld held, ← aligned.holders, held, if_neg nofun]
  | some i =>
    have kind : (kin acts)[p]? = some i := aligned.holders ▸ held
    obtain ⟨-, b, slot, -⟩ := aligned.held kind
    rw [use_of_held held slot, kind]
    by_cases same : i = j
    · subst same
      simp [slot, List.getElem?_set_self']
    · rw [if_neg (fun h => same (Option.some.inj h)), List.getElem?_set_ne same]

@[simp] theorem holders_use (act : SharedBearer.Act) : (s.use p act).2.holders = s.holders := by
  unfold use
  split <;> rfl

/-- An act that writes nothing leaves every token as it is. -/
theorem slots_use_of_unwritten {act : SharedBearer.Act} (aligned : Aligned acts s)
    (unwritten : ∀ b : SharedBearer, (b.step p act).2.slot = b.slot) (j : Nat) :
    (s.use p act).2.slots[j]?.map SharedBearer.slot = s.slots[j]?.map SharedBearer.slot := by
  rw [slots_use act j aligned]
  simp only [unwritten, ite_self]

theorem stamp_eq (h : Nat) : ∃ calls, (s.step (.stamp p h)).2 = { s with calls := calls } := by
  simp only [step]
  split
  · exact ⟨_, rfl⟩
  · exact ⟨s.calls, rfl⟩

theorem Aligned.size (aligned : Aligned acts s) : s.slots.length = founded acts := by
  rcases Nat.lt_trichotomy s.slots.length (founded acts) with short | same | beyond
  · have := aligned.slots s.slots.length
    rw [if_pos short, List.getElem?_eq_none (Nat.le_refl _)] at this
    contradiction
  · exact same
  · have := aligned.slots (founded acts)
    rw [if_neg (Nat.lt_irrefl _), List.getElem?_eq_getElem beyond] at this
    contradiction

/-- Every act keeps the slots to the history. -/
theorem Aligned.step (aligned : Aligned acts s) (act : Act) :
    Aligned (act :: acts) (s.step act).2 := by
  cases act with
  | found =>
    have size := aligned.size
    refine ⟨by simp [Keyring.step, kin, aligned.holders, size], fun i => ?_⟩
    show (s.slots ++ [_])[i]?.map _ = if i < founded acts + 1 then some (latest i acts) else none
    rcases Nat.lt_trichotomy i (founded acts) with below | rfl | above
    · rw [List.getElem?_append_left (by omega), aligned.slots i, if_pos below, if_pos (by omega)]
    · rw [List.getElem?_append_right (by omega), if_pos (by omega), size, Nat.sub_self,
        latest_eq_none (Nat.le_refl _)]
      rfl
    · rw [if_neg (by omega), List.getElem?_eq_none (by simp; omega)]
      rfl
  | share holder =>
    refine ⟨by simp [Keyring.step, kin, aligned.holders], fun i => ?_⟩
    exact (slots_use_of_unwritten aligned (fun _ => rfl) i).trans (aligned.slots i)
  | write holder token =>
    refine ⟨(holders_use _).trans aligned.holders, fun i => ?_⟩
    show (s.use holder (.write token)).2.slots[i]?.map _ = if i < founded acts then some
      (if (kin acts)[holder]? = some i then some token else latest i acts) else none
    rw [slots_use _ i aligned]
    by_cases here : (kin acts)[holder]? = some i
    · obtain ⟨-, b, slot, -⟩ := aligned.held here
      rw [if_pos here, if_pos here, slot, if_pos (lt_of_mem_kin (List.mem_of_getElem? here))]
      rfl
    · rw [if_neg here, if_neg here, aligned.slots i]
  | read holder | pass holder headers =>
    refine ⟨(holders_use _).trans aligned.holders, fun i => ?_⟩
    exact (slots_use_of_unwritten aligned (fun _ => rfl) i).trans (aligned.slots i)
  | draft headers => exact ⟨aligned.holders, aligned.slots⟩
  | stamp holder call =>
    obtain ⟨calls, same⟩ := @stamp_eq s holder call
    rw [same]
    exact ⟨aligned.holders, aligned.slots⟩

/-- The slots stand to the history as they should after whatever acts. -/
theorem aligned_after (acts : List Act) : Aligned acts (after acts) := by
  induction acts with
  | nil => exact ⟨rfl, fun i => by simp [after, founded]⟩
  | cons act earlier ih => exact ih.step act

end Acts

/-! ## What is stamped -/

/-- How a holder stamps calls that have the headers `h`, with `result`, so that they have the
headers `h'`: the prepared ones, each of which is changed alone, and one that is handed over. -/
structure Stamps (s : Keyring) (p : Nat) (h : Headers) (result : Except Status Unit)
    (h' : Headers) : Prop where
  inPlace : ∀ c, s.calls[c]? = some h →
    s.step (.stamp p c) = (.stamped result, { s with calls := s.calls.set c h' })
  passed : s.step (.pass p h) = (.seen (.applied (result.map fun _ => h')), s)

/-- What all holders of a slot keep to after some acts, whoever of them wrote a token. -/
structure Rotation (acts : List Act) (p i : Nat) : Prop where
  shows : (after acts).step (.read p) = (.seen (.token (latest i acts)), after acts)
  /-- As long as nobody wrote a token, calls stay as they are. -/
  unset : latest i acts = none → ∀ h, Stamps (after acts) p h (.ok ()) h
  /-- A token that a header can hold is the only one that a call carries then. -/
  stamped : ∀ token, latest i acts = some token →
    (Wire.utf8 (Bearer.scheme ++ token)).all isHeaderByte → ∀ h, ∃ h',
      Stamps (after acts) p h (.ok ()) h' ∧
      h'.values Bearer.header = [Wire.utf8 (Bearer.scheme ++ token)] ∧
      h'.others Bearer.header = h.others Bearer.header
  /-- Another token fails, and calls stay as they are. -/
  refused : ∀ token, latest i acts = some token →
    ¬(Wire.utf8 (Bearer.scheme ++ token)).all isHeaderByte → ∀ h, ∃ status : Status,
      status.code = .internal ∧ Stamps (after acts) p h (.error status) h
  /-- The token that was written last does not stand in the way of the next one. -/
  renewed : ∀ q token, (kin acts)[q]? = some i →
    (Wire.utf8 (Bearer.scheme ++ token)).all isHeaderByte → ∀ h, ∃ h',
      Stamps (after (.write q token :: acts)) p h (.ok ()) h' ∧
      h'.values Bearer.header = [Wire.utf8 (Bearer.scheme ++ token)] ∧
      h'.others Bearer.header = h.others Bearer.header

section Stamps

variable {acts : List Act} {p i : Nat} {token : String}

/-- A look at a slot leaves all slots as they are. -/
theorem use_eq {act : SharedBearer.Act} {s : Keyring} {b : SharedBearer}
    (held : s.holders[p]? = some i) (slot : s.slots[i]? = some b) (kept : (b.step p act).2 = b) :
    s.use p act = (.seen (b.step p act).1, s) := by
  obtain ⟨bound, rfl⟩ := List.getElem?_eq_some_iff.1 slot
  rw [use_of_held held slot, kept, List.set_getElem_self]

/-- Whoever stamps a call stamps the token that was written last. -/
theorem stamps (kind : (kin acts)[p]? = some i) (h : Headers) :
    Stamps (after acts) p h ((latest i acts).stamp h).1 ((latest i acts).stamp h).2 := by
  obtain ⟨held, b, slot, written⟩ := (aligned_after acts).held kind
  constructor
  · intro c drafted
    simp [step, find?, held, slot, drafted, written]
  · rw [← Bearer.apply_eq_stamp, ← written]
    exact use_eq held slot rfl

theorem stamp_of_fit (fit : (Wire.utf8 (Bearer.scheme ++ token)).all isHeaderByte) (h : Headers) :
    Bearer.stamp (some token) h =
      (.ok (), h.set Bearer.header (Wire.utf8 (Bearer.scheme ++ token))) := by
  simp [Bearer.stamp, headerValue?, fit]

theorem stamp_of_unfit (unfit : ¬(Wire.utf8 (Bearer.scheme ++ token)).all isHeaderByte)
    (h : Headers) : Bearer.stamp (some token) h = (.error Bearer.invalid, h) := by
  simp [Bearer.stamp, headerValue?, unfit]

/-- A call carries the token alone, and nothing else of it has changed. -/
theorem stamps_of_fit (kind : (kin acts)[p]? = some i) (written : latest i acts = some token)
    (fit : (Wire.utf8 (Bearer.scheme ++ token)).all isHeaderByte) (h : Headers) :
    ∃ h', Stamps (after acts) p h (.ok ()) h' ∧
      h'.values Bearer.header = [Wire.utf8 (Bearer.scheme ++ token)] ∧
      h'.others Bearer.header = h.others Bearer.header := by
  have stamped := stamps kind h
  rw [written, stamp_of_fit fit] at stamped
  exact ⟨_, stamped, Headers.values_set .., Headers.others_set ..⟩

end Stamps

/-- Whatever the holders of some slots do, and in whatever order, each of them stamps the token that
was written last by any holder of the same slot. -/
theorem rotates (acts : List Act) (p i : Nat) (kind : (kin acts)[p]? = some i) :
    Rotation acts p i where
  shows := by
    obtain ⟨held, b, slot, written⟩ := (aligned_after acts).held kind
    rw [← written]
    exact use_eq held slot rfl
  unset unwritten h := by
    have stamped := stamps kind h
    rwa [unwritten] at stamped
  stamped token written fit h := stamps_of_fit kind written fit h
  refused token written unfit h := by
    have stamped := stamps kind h
    rw [written, stamp_of_unfit unfit] at stamped
    exact ⟨Bearer.invalid, rfl, stamped⟩
  renewed q token kind' fit h := by
    have written : latest i (.write q token :: acts) = some token := if_pos kind'
    exact @stamps_of_fit (.write q token :: acts) p i token kind written fit h

/-- A holder was shared with, wrote a token that no header can hold, and then one that a header
can hold; the slot was made with another one beside it. -/
def refreshed : List Act :=
  [.write 1 "fresh", .write 1 "to\nken", .write 2 "other", .found, .share 0, .draft [], .found]

theorem rotates_when_refreshed :
    (kin refreshed)[0]? = some 0 ∧ latest 0 refreshed = some "fresh" ∧ Rotation refreshed 0 0 := by
  refine ⟨by decide, ?_, rotates refreshed 0 0 (by decide)⟩
  decide +kernel

end Keyring

end FunctionAgent
