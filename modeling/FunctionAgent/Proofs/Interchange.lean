import FunctionAgent.Agent.Rehearsal
import FunctionAgent.Proofs.Identifiers
import Mathlib.Data.List.Induction
import Mathlib.Data.List.Nodup
/-!
# Lists of functions that make the same agent

An agent is built from a list of functions, but all that it keeps of the list is a roster, and the
roster holds for each identifier the last function that has it (`Roster.find?_ofList`). A roster is
in order, so it is known from what it finds, and two lists that agree in the last function of each
identifier make the same roster and therefore the same agent. On each session a function is offered
once, as the last one with its identifier describes it.
-/

set_option autoImplicit false

namespace FunctionAgent

namespace Roster

/-- The last of some functions that has an identifier. -/
def last? (fs : List Function) (id : Uuid) : Option Function :=
  (fs.filter fun f => f.id == id).getLast?

variable {r s : Roster} {fs gs : List Function}

theorem last?_concat (fs : List Function) (f : Function) (id : Uuid) :
    last? (fs ++ [f]) id = if f.id = id then some f else last? fs id := by
  by_cases named : f.id = id
  · simp [last?, named]
  · simp [last?, named]

theorem find?_insert (f : Function) (r : Roster) (id : Uuid) :
    (insert f r).find? id = if f.id = id then some f else r.find? id := by
  simp only [find?]
  fun_induction insert f r with
  | case1 => by_cases named : f.id = id <;> simp [named]
  | case2 g rest before => by_cases named : f.id = id <;> simp [named]
  | case3 g rest notBefore same =>
    by_cases named : f.id = id
    · simp [named]
    · simp [named, ← same]
  | case4 g rest notBefore different ih =>
    by_cases other : g.id = id
    · simp [other, other ▸ different]
    · simp [other, ih]

/-- A roster finds the last function with an identifier. -/
theorem find?_ofList (fs : List Function) (id : Uuid) : (ofList fs).find? id = last? fs id := by
  induction fs using List.reverseRecOn with
  | nil => rfl
  | append_singleton fs f ih =>
    have grown : ofList (fs ++ [f]) = insert f (ofList fs) := List.foldl_concat ..
    rw [grown, find?_insert, last?_concat, ih]

theorem mem_ofList_iff {f : Function} : f ∈ ofList fs ↔ last? fs f.id = some f := by
  rw [← find?_ofList]
  constructor
  · exact find?_of_mem (isSorted_ofList fs)
  · intro found
    exact (mem_of_find? found).1

theorem nodup_of_isSorted (sorted : IsSorted r) : r.Nodup := by
  apply List.Pairwise.imp _ sorted
  rintro f g before rfl
  exact Uuid.lt_irrefl f.id before

/-- Rosters that find the same functions are the same. -/
theorem eq_of_find?_eq (first : IsSorted r) (second : IsSorted s)
    (same : ∀ id, r.find? id = s.find? id) : r = s := by
  have known {r s : Roster} (sorted : IsSorted r) (same : ∀ id, r.find? id = s.find? id)
      {f : Function} (member : f ∈ r) : f ∈ s := by
    have found := find?_of_mem sorted member
    rw [same] at found
    exact (mem_of_find? found).1
  have perm : r.Perm s := by
    apply (List.perm_ext_iff_of_nodup (nodup_of_isSorted first) (nodup_of_isSorted second)).2
    intro f
    constructor
    · exact known first same
    · exact known second fun id => (same id).symm
  apply perm.eq_of_pairwise _ first second
  intro f g _ _ before after
  exact absurd (Uuid.lt_trans before after) (Uuid.lt_irrefl f.id)

theorem ofList_eq_iff : ofList fs = ofList gs ↔ ∀ id, last? fs id = last? gs id := by
  constructor
  · intro same id
    rw [← find?_ofList, same, find?_ofList]
  · intro same
    apply eq_of_find?_eq (isSorted_ofList fs) (isSorted_ofList gs)
    intro id
    rw [find?_ofList, find?_ofList, same]

/-- Functions with different identifiers may stand in any order. -/
theorem last?_of_perm (perm : fs.Perm gs) (distinct : (fs.map Function.id).Nodup) (id : Uuid) :
    last? fs id = last? gs id := by
  have single (fs : List Function) (distinct : (fs.map Function.id).Nodup) :
      (fs.filter fun f => f.id == id).length ≤ 1 := by
    have few := List.nodup_iff_count_le_one.1 distinct id
    rwa [List.count_eq_countP, List.countP_map, List.countP_eq_length_filter] at few
  have same := perm.filter fun f => f.id == id
  have few := single fs distinct
  unfold last?
  generalize (fs.filter fun f => f.id == id) = named at same few
  match named, few with
  | [], _ => rw [same.nil_eq]
  | [f], _ => rw [List.singleton_perm.1 same]

/-- The functions of a roster with an identifier: the one that is found, if any. -/
theorem filter_id_eq (sorted : IsSorted r) (id : Uuid) :
    (r.filter fun f => f.id == id) = (r.find? id).toList := by
  induction r with
  | nil => rfl
  | cons f r ih =>
    obtain ⟨first, sorted⟩ := List.pairwise_cons.1 sorted
    by_cases named : f.id = id
    · have others : (r.filter fun g => g.id == id) = [] := by
        apply List.filter_eq_nil_iff.2
        intro g member
        have before := first g member
        rw [named] at before
        simp only [beq_iff_eq]
        intro same
        exact Uuid.lt_irrefl id (same ▸ before)
      simp [Roster.find?, named, others]
    · simpa [Roster.find?, named] using ih sorted

end Roster

/-- Whether a message offers the function with an identifier. -/
def Message.offers (id : Uuid) : Message → Bool
  | .registration record => record.id == id.render && record.state == Lifecycle.online.number
  | _ => false

theorem Message.offers_announce (id : Uuid) (f : Function) (state : Lifecycle) :
    (Message.announce f state).offers id = (f.id == id && state == .online) := by
  have named : (f.id.render == id.render) = (f.id == id) := by
    by_cases same : f.id = id
    · simp [same]
    · have apart : f.id.render ≠ id.render := fun equal => same (Uuid.render_injective equal)
      simp [same, apart]
  have online : (state.number == Lifecycle.online.number) = (state == .online) := by
    cases state <;> rfl
  simp [announce, offers, Function.registrationAs, named, online]

theorem Message.offers_of_response {id : Uuid} {message : Message}
    (response : message.toUpdate.kind = UpdateKind.response.number) :
    message.offers id = false := by
  cases message with
  | registration record =>
    have request : UpdateKind.request.number = UpdateKind.response.number := response
    exact absurd request (by decide)
  | answer | tokenTaken => rfl

namespace Agent

/-- The offers of the function with an identifier among the messages that were tried. -/
def offersOf (id : Uuid) (signs : List Sign) : List Message :=
  (signs.filterMap Sign.message?).filter (Message.offers id)

/-- The offer of the last of some functions with an identifier. -/
def lastOffer (functions : List Function) (id : Uuid) : List Message :=
  (Roster.last? functions id).toList.map (Message.announce · .online)

section Offers

variable {functions : List Function} {limit : Span} {busy : Bool} {signs : List Sign} {id : Uuid}
  {exchanges : List (List Sign)} {roster : Roster}

theorem offersOf_append (id : Uuid) (signs more : List Sign) :
    offersOf id (signs ++ more) = offersOf id signs ++ offersOf id more := by
  simp [offersOf]

/-- A roster is announced with one offer for each identifier. -/
theorem filter_offers (functions : List Function) (id : Uuid) :
    ((Roster.onOffer functions).announcements .online).filter (Message.offers id) =
      lastOffer functions id := by
  have listed : (Roster.onOffer functions).announcements .online =
      (Roster.ofList functions).map (Message.announce · .online) := by
    simp only [Roster.onOffer, Roster.inState, Roster.announcements, List.map_map]
    rfl
  have offer : Message.offers id ∘ (Message.announce · .online) = fun f => f.id == id := by
    funext f
    simp [Message.offers_announce]
  rw [listed, List.filter_map, offer, Roster.filter_id_eq (Roster.isSorted_ofList functions),
    Roster.find?_ofList, lastOffer]

theorem offersOf_accepted (messages : List Message) :
    offersOf id (messages.map Sign.accepted) = messages.filter (Message.offers id) := by
  rw [offersOf, filterMap_accepted fun _ => rfl]

theorem offersOf_responses
    (responses : ∀ answer ∈ signs.filterMap Sign.message?,
      answer.toUpdate.kind = UpdateKind.response.number) : offersOf id signs = [] := by
  apply List.filter_eq_nil_iff.2
  intro answer member
  simp [Message.offers_of_response (responses answer member)]

/-- No function is offered where the functions are withdrawn. -/
theorem offersOf_withdrawals {withdrawals : List Sign} {done todo : List Message}
    (tried : withdrawals.map Sign.message? = done.map some)
    (parts : done ++ todo = roster.announcements .offline) :
    offersOf id (.withdrawing :: withdrawals) = [] := by
  have said : (Sign.withdrawing :: withdrawals).filterMap Sign.message? = done := by
    rw [List.filterMap_cons_none rfl]
    exact filterMap_eq_of_map tried
  rw [offersOf, said]
  apply List.filter_eq_nil_iff.2
  intro message member
  have listed : message ∈ roster.announcements .offline := parts ▸ List.mem_append_left todo member
  obtain ⟨f, -, rfl⟩ := List.mem_map.1 listed
  simp [Message.offers_announce]

/-- No function is offered in an exchange, complete or not. -/
theorem offersOf_unfinished {part : List Sign}
    (pending : part ≠ [] → ∃ rest, Exchange roster limit (part ++ rest)) :
    offersOf id part = [] := by
  by_cases empty : part = []
  · rw [empty]
    rfl
  · obtain ⟨rest, exchange⟩ := pending empty
    apply offersOf_responses
    intro answer member
    apply exchange.responses
    rw [List.filterMap_append]
    exact List.mem_append_left _ member

/-- Behind the announcement of the functions none is offered again. -/
theorem offersOf_served {tail : List Sign}
    (whole : ∀ exchange ∈ exchanges, Exchange roster limit exchange)
    (none : offersOf id tail = []) :
    offersOf id (((Roster.onOffer functions).announcements .online).map .accepted
      ++ exchanges.flatten ++ tail) = lastOffer functions id := by
  have exchanged : offersOf id exchanges.flatten = [] :=
    offersOf_responses (responses_flatten whole)
  rw [offersOf_append, offersOf_append, offersOf_accepted, filter_offers, exchanged, none,
    List.append_nil, List.append_nil]

/-- On a session each function is offered at most once. -/
theorem Transcript.offersOf_prefix
    (transcript : Transcript (.onOffer functions) limit busy signs) (id : Uuid) :
    offersOf id signs <+: lastOffer functions id := by
  have begun {done todo : List Message}
      (parts : done ++ todo = (Roster.onOffer functions).announcements .online) :
      done.filter (Message.offers id) <+: lastOffer functions id := by
    have part : done <+: (Roster.onOffer functions).announcements .online := ⟨todo, parts⟩
    exact filter_offers functions id ▸ part.filter _
  cases transcript with
  | offering parts =>
    rw [offersOf_accepted]
    exact begun parts
  | @abandoned done todo message parts fault =>
    have last : offersOf id [Sign.tried message (.error fault)] =
        [message].filter (Message.offers id) := rfl
    rw [offersOf_append, offersOf_accepted, last, ← List.filter_append]
    exact begun (by simpa using parts)
  | serving rest whole pending =>
    rewrite [offersOf_served whole (offersOf_unfinished fun begun => ⟨rest, (pending begun).2⟩)]
    exact List.prefix_rfl
  | withdrawing whole tried parts =>
    rewrite [offersOf_served whole (offersOf_withdrawals tried parts)]
    exact List.prefix_rfl

/-- On the session in use each function has been offered. -/
theorem Career.offersOf_eq {settings : Settings} {entry : Entry} {beats : List Beat} {w : World}
    (career : Career settings functions entry beats w) (serves : w.isServing = true) (id : Uuid) :
    offersOf id (signsOn w.held beats) = lastOffer functions id := by
  have standing := career.sound.standing
  cases career.stage w.held with
  | unopened later => exact absurd (standing.used serves) (Nat.not_lt.2 later)
  | offering done here => exact absurd rfl (standing.apart serves w.held here)
  | left known shuns => exact absurd rfl (shuns.unused serves)
  | withdrawing withdrawals done here leaving whole tried parts shown =>
    rw [shown, offersOf_served whole (offersOf_withdrawals tried parts)]
  | serving exchanges part here serving working whole unfinished shown =>
    have exchange (begun) := (unfinished.exchange begun).2
    rw [shown, offersOf_served whole (offersOf_unfinished exchange)]

end Offers

/-- Whether nobody can tell an agent that is built from some functions from one that is built from
some others. -/
structure Interchangeable (fs gs : List Function) : Prop where
  begun : ∀ settings purpose,
    (World.create settings fs purpose).happened = (World.create settings gs purpose).happened
  /-- Whatever is done to them, and in whatever order, the two go through the same steps, with all
  that they write, start and publish, and come to the same end. -/
  played : ∀ settings (entry : Entry) acts,
    (World.create settings fs entry.purpose).world.replay acts =
      (World.create settings gs entry.purpose).world.replay acts
  /-- Against every script they are seen to do the same at the same times. -/
  rehearsed : ∀ script : Script,
    Script.rehearse { script with functions := fs } =
      Script.rehearse { script with functions := gs }

/-- Each function is offered once, as the last one with its identifier. -/
structure OfferedOnce (functions : List Function) (beats : List Beat) (w : World) : Prop where
  once : ∀ i id, offersOf id (signsOn i beats) <+: lastOffer functions id
  all : w.isServing = true → ∀ id, offersOf id (signsOn w.held beats) = lastOffer functions id

section Interchange

variable {fs gs : List Function}

/-- An agent keeps nothing of its functions but their roster. -/
theorem Interchangeable.of_ofList (same : Roster.ofList fs = Roster.ofList gs) :
    Interchangeable fs gs := by
  have created (settings : Settings) (purpose : Purpose) :
      World.create settings fs purpose = World.create settings gs purpose := by
    unfold World.create
    rw [same]
  constructor
  · intro settings purpose
    rw [created]
  · intro settings entry acts
    rw [created]
  · intro script
    have started : Rehearsal.start { script with functions := fs } =
        Rehearsal.start { script with functions := gs } := by
      unfold Rehearsal.start
      rw [created]
    unfold Script.rehearse
    rw [started]
    rfl

/-- The order of the functions does not matter, and neither do those that are not the last ones with
their identifiers. -/
theorem disregards_order (same : ∀ id, Roster.last? fs id = Roster.last? gs id) :
    Interchangeable fs gs ∧
      (∀ hs, fs.Perm hs → (fs.map Function.id).Nodup → Interchangeable fs hs) ∧
      ∀ settings entry beats w, Career settings fs entry beats w → OfferedOnce fs beats w := by
  refine ⟨.of_ofList (Roster.ofList_eq_iff.2 same), ?_, ?_⟩
  · intro hs perm distinct
    apply Interchangeable.of_ofList
    exact Roster.ofList_eq_iff.2 (Roster.last?_of_perm perm distinct)
  · intro settings entry beats w career
    constructor
    · intro i id
      exact (career.stage i).transcript.offersOf_prefix id
    · intro serves id
      exact career.offersOf_eq serves id

/-- An outdated function, one with another identifier, and what replaces the first. -/
def revised : List Function :=
  [default, lettered, .new .nil { (default : Description) with name := "revised" }]

theorem disregards_order_of_revised :
    (∀ id, Roster.last? revised id = Roster.last? (revised.drop 1).reverse id) ∧
      Interchangeable revised (revised.drop 1).reverse ∧
      ∃ beats w, Career .standard revised .start beats w ∧ w.isServing = true ∧
        (offersOf .nil (signsOn w.held beats)).map Message.render =
          ["registration of revised (00000000-0000-0000-0000-000000000000) as Online"] ∧
        OfferedOnce revised beats w := by
  have same : ∀ id, Roster.last? revised id = Roster.last? (revised.drop 1).reverse id :=
    Roster.ofList_eq_iff.1 (by decide +kernel)
  have ordered := disregards_order same
  have played : ((World.create .standard revised .start).world.replay
      [some (.answerOpen (.ok (.start "first" default))), none, none, none, none, none]).map
        (fun run => (run.2.isServing,
          (offersOf .nil (signsOn run.2.held run.1)).map Message.render)) =
      some (true,
        ["registration of revised (00000000-0000-0000-0000-000000000000) as Online"]) := by
    decide +kernel
  obtain ⟨⟨beats, w⟩, replayed, seen⟩ := Option.map_eq_some_iff.1 played
  obtain ⟨serves, offered⟩ := Prod.mk.inj seen
  have career : Career .standard revised .start beats w := .of_replay replayed
  exact ⟨same, ordered.1, beats, w, career, serves, offered,
    ordered.2.2 .standard .start beats w career⟩

end Interchange

end Agent

end FunctionAgent
