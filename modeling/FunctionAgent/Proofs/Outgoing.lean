import FunctionAgent.Proofs.Writing
/-!
# What a session accepts

What a session accepts is the beginning of what was tried on it: the functions, then answers to
updates of the same session, then the withdrawal of the functions. Before a session is asked for
every earlier one is closed, so of all sessions at most one is open.
-/

set_option autoImplicit false

namespace FunctionAgent.Agent

/-- What a session accepts: announcements of the functions, then answers to what was taken from the
session, in the order in which it was taken, then the withdrawal of the functions if the agent set
out to withdraw them on this session. -/
inductive Said (roster : Roster) (signs : List Sign) : List Message → Prop where
  | offering {offers : List Message} (part : offers <+: roster.announcements .online) :
      Said roster signs offers
  | answering {answers : List Message}
      (responses : ∀ answer ∈ answers, answer.toUpdate.kind = UpdateKind.response.number)
      (echoes : answers.map (·.toUpdate.payload) <+: asks signs) :
      Said roster signs (roster.announcements .online ++ answers)
  | withdrawing {answers withdrawals : List Message}
      (responses : ∀ answer ∈ answers, answer.toUpdate.kind = UpdateKind.response.number)
      (echoes : answers.map (·.toUpdate.payload) = asks signs) (leaving : .withdrawing ∈ signs)
      (part : withdrawals <+: roster.announcements .offline) :
      Said roster signs (roster.announcements .online ++ answers ++ withdrawals)

section Form

variable {α : Type} {roster : Roster} {limit : Span} {signs : List Sign}
  {exchanges : List (List Sign)}

/-- The beginning of two lists ends in the first or in the second of them. -/
theorem prefix_append_cases {l a b : List α} (part : l <+: a ++ b) :
    l <+: a ∨ ∃ t, t <+: b ∧ l = a ++ t := by
  rcases List.prefix_or_prefix_of_prefix part (List.prefix_append a b) with short | long
  · exact .inl short
  · obtain ⟨t, rfl⟩ := long
    exact .inr ⟨t, (List.prefix_append_right_inj a).1 part, rfl⟩

theorem echoes_flatten (whole : ∀ exchange ∈ exchanges, Exchange roster limit exchange) :
    echoes exchanges.flatten = asks exchanges.flatten := by
  induction exchanges with
  | nil => rfl
  | cons first rest ih =>
    rw [List.flatten_cons, echoes_append, asks_append,
      (whole first List.mem_cons_self).echoes_eq,
      ih fun exchange member => whole exchange (List.mem_cons_of_mem _ member)]

theorem responses_flatten (whole : ∀ exchange ∈ exchanges, Exchange roster limit exchange) :
    ∀ answer ∈ exchanges.flatten.filterMap Sign.message?,
      answer.toUpdate.kind = UpdateKind.response.number := by
  intro answer member
  obtain ⟨sign, shown, said⟩ := List.mem_filterMap.1 member
  obtain ⟨exchange, among, inside⟩ := List.mem_flatten.1 shown
  exact (whole exchange among).responses answer (List.mem_filterMap.2 ⟨sign, inside, said⟩)

/-- An exchange that has not come to its end echoes nothing but what was asked. -/
theorem echoes_unfinished {begun rest : List Sign} (some : begun ≠ [])
    (exchange : Exchange roster limit (begun ++ rest)) : echoes begun <+: asks begun := by
  obtain ⟨u, tail, shape, untaken⟩ := exchange.begins
  have last : rest.filterMap Sign.taken? = [] := by
    obtain ⟨sign, part, rfl⟩ := List.exists_cons_of_ne_nil some
    obtain ⟨-, rfl⟩ := List.cons.inj shape
    exact (List.append_eq_nil_iff.1 ((List.filterMap_append ..).symm.trans untaken)).2
  have asked : asks rest = [] := by rw [asks, last]; rfl
  have same := exchange.echoes_eq
  rw [echoes_append, asks_append, asked, List.append_nil] at same
  exact ⟨echoes rest, same⟩

theorem filterMap_accepted {f : Sign → Option Message}
    (keeps : ∀ message, f (.accepted message) = message) (messages : List Message) :
    (messages.map Sign.accepted).filterMap f = messages := by
  rw [List.filterMap_map, show f ∘ Sign.accepted = some from funext keeps, List.filterMap_some]

theorem asks_accepted (messages : List Message) : asks (messages.map Sign.accepted) = [] := by
  induction messages with
  | nil => rfl
  | cons message rest ih => exact ih

/-- Signs that are nothing but tries ask for nothing. -/
theorem asks_eq_nil {done : List Message} (tried : signs.map Sign.message? = done.map some) :
    asks signs = [] := by
  have untaken : signs.filterMap Sign.taken? = [] := by
    rw [List.filterMap_eq_nil_iff]
    intro sign member
    have listed : sign.message? ∈ done.map some := tried ▸ List.mem_map_of_mem member
    obtain ⟨message, -, same⟩ := List.mem_map.1 listed
    cases sign with
    | took => simp at same
    | _ => rfl
  rw [asks, untaken]
  rfl

theorem filterMap_eq_of_map {done : List Message}
    (tried : signs.map Sign.message? = done.map some) :
    signs.filterMap Sign.message? = done := by
  have same := congrArg (List.filterMap id) tried
  rwa [List.filterMap_map, List.filterMap_map, Function.id_comp, Function.id_comp,
    List.filterMap_some] at same

/-- What is accepted of a transcript has its form. -/
theorem Transcript.said {busy : Bool} {accepted : List Message}
    (transcript : Transcript roster limit busy signs)
    (order : accepted <+: signs.filterMap Sign.message?) : Said roster signs accepted := by
  cases transcript with
  | @offering done todo parts =>
    rw [filterMap_accepted fun _ => rfl] at order
    exact .offering (order.trans ⟨todo, parts⟩)
  | @abandoned done todo message parts fault =>
    rw [List.filterMap_append, filterMap_accepted fun _ => rfl] at order
    exact .offering (order.trans ⟨todo, by rw [← parts]; simp⟩)
  | @serving exchanges unfinished rest whole pending =>
    rw [List.append_assoc, List.filterMap_append, filterMap_accepted fun _ => rfl] at order
    rcases prefix_append_cases order with short | ⟨answers, part, rfl⟩
    · exact .offering short
    refine .answering (fun answer member => ?_) ?_
    · have among := part.subset member
      rw [List.filterMap_append, List.mem_append] at among
      rcases among with ended | begun
      · exact responses_flatten whole answer ended
      · have some : unfinished ≠ [] := by rintro rfl; simp at begun
        refine (pending some).2.responses answer ?_
        rw [List.filterMap_append]
        exact List.mem_append_left _ begun
    · have listed : answers.map (·.toUpdate.payload) <+: echoes (exchanges.flatten ++ unfinished) :=
        part.map _
      refine listed.trans ?_
      rw [asks_append, asks_append, asks_accepted, echoes_append, echoes_flatten whole]
      by_cases empty : unfinished = []
      · subst empty
        exact List.prefix_refl _
      · exact (List.prefix_append_right_inj _).2 (echoes_unfinished empty (pending empty).2)
  | @withdrawing exchanges withdrawals done todo whole tried parts =>
    have asked : asks ((roster.announcements .online).map .accepted ++ exchanges.flatten
        ++ .withdrawing :: withdrawals) = echoes exchanges.flatten := by
      rw [asks_append, asks_append, asks_accepted, echoes_flatten whole]
      exact (congrArg (_ ++ ·) (asks_eq_nil tried)).trans (List.append_nil _)
    have last : withdrawals.filterMap Sign.message? = done := filterMap_eq_of_map tried
    have last : (Sign.withdrawing :: withdrawals).filterMap Sign.message? = done := last
    rw [List.append_assoc, List.filterMap_append, List.filterMap_append,
      filterMap_accepted fun _ => rfl, last] at order
    rcases prefix_append_cases order with short | ⟨said, part, rfl⟩
    · exact .offering short
    rcases prefix_append_cases part with short | ⟨withdrawn, rest, rfl⟩
    · refine .answering (fun answer member => ?_) ?_
      · exact responses_flatten whole answer (short.subset member)
      · exact asked ▸ short.map _
    · rw [← List.append_assoc]
      exact .withdrawing (responses_flatten whole) asked.symm (by simp)
        (rest.trans ⟨todo, parts⟩)

end Form

/-! ## Along a course -/

section Course

variable {w v : World} {beats : List Beat} {i : Nat}

/-- The agent never turns to a session again that it has left. -/
theorem Course.shows_nothing (course : Course w beats v) (known : i < w.sessions.length)
    (shuns : w.Shuns i) : signsOn i beats = [] ∧ i < v.sessions.length ∧ v.Shuns i := by
  induction course with
  | nil => exact ⟨rfl, known, shuns⟩
  | snoc course step ih =>
    obtain ⟨nothing, known, shuns⟩ := ih
    have deed := deed_of_step step
    refine ⟨?_, Nat.lt_of_lt_of_le known deed.length_le, deed.shuns known shuns⟩
    rw [signsOn_snoc, nothing]
    exact deed.signs_eq_nil shuns

theorem Deed.accepts_nothing {act : Option Act} {m : Move} (deed : Deed w act m)
    (known : i < w.sessions.length) (closed : (w.session i).isClosed = true) :
    acceptedOn i [⟨w, act, m⟩] = [] := by
  rw [acceptedOn, signsOn_singleton]
  generalize (⟨w, act, m⟩ : Beat).signs i = signs, deed.writes known = writes
  cases writes with
  | nothing tried => exact accepted_eq_nil tried
  | accepted message opened => simp [opened] at closed
  | refused => rfl

/-- What a session accepts is put into its queue, and nothing else is. -/
theorem Deed.queued_eq {act : Option Act} {m : Move} (deed : Deed w act m)
    (alone : ∀ j peerAct, act ≠ some (.peer j peerAct)) (known : i < w.sessions.length) :
    m.world.queued i = w.queued i ++ (acceptedOn i [⟨w, act, m⟩]).map Message.toUpdate := by
  rw [acceptedOn, signsOn_singleton]
  generalize (⟨w, act, m⟩ : Beat).signs i = signs, deed.writes known = writes
  cases writes with
  | nothing tried latched queued => simp [accepted_eq_nil tried, queued alone]
  | accepted message opened sound latched queued => simpa using queued
  | refused message latched queued => simpa [List.filterMap_cons] using queued

/-- A closed session accepts nothing any more. -/
theorem Course.accepts_nothing (course : Course w beats v) (known : i < w.sessions.length)
    (closed : (w.session i).isClosed = true) : acceptedOn i beats = [] := by
  suffices all : acceptedOn i beats = [] ∧ i < v.sessions.length ∧ (v.session i).isClosed = true
    from all.1
  induction course with
  | nil => exact ⟨rfl, known, closed⟩
  | snoc course step ih =>
    obtain ⟨nothing, known, closed⟩ := ih
    have deed := deed_of_step step
    refine ⟨?_, Nat.lt_of_lt_of_le known deed.length_le, deed.isClosed known closed⟩
    rw [acceptedOn_append, nothing, deed.accepts_nothing known closed]
    rfl

/-- Before a session is asked for every earlier one is closed. -/
theorem Deed.closes_all {act : Option Act} {m : Move} (deed : Deed w act m) (standing : Standing w)
    (opens : .opening ∈ m.happened) (known : i < w.sessions.length) :
    (m.world.session i).isClosed = true := by
  refine (standing.deed deed).closed i (Nat.lt_of_lt_of_le known deed.length_le) ?_
  cases deed with
  | retry | reopen | reopenLater | reopenAnyway => simp [World.open?]
  | unopened here setback | offerFailed here ends setback => cases setback <;> simp at opens
  | _ => simp [Move.publication] at opens

end Course

/-- What an agent puts into the writing halves of its sessions. -/
structure Outgoing (functions : List Function) (beats : List Beat) (w : World) : Prop where
  /-- The functions stand in strictly ascending order. -/
  sorted : Roster.IsSorted (.onOffer functions)
  said : ∀ i, Said (.onOffer functions) (signsOn i beats) (acceptedOn i beats)
  /-- What is accepted goes into the queue of the session, and nothing else does. -/
  queued : ∀ b ∈ beats, (∀ j act, b.act ≠ some (.peer j act)) →
    ∀ i < b.before.sessions.length,
      b.move.world.queued i = b.before.queued i ++ (acceptedOn i [b]).map Message.toUpdate
  /-- A session on which a function could not be offered is closed and left for good. -/
  abandoned : ∀ before b after, beats = before ++ b :: after →
    ∀ purpose i todo message deadline fault,
      b.before.control = .writing (.offer purpose i todo) message deadline →
      .written i message (.error fault) ∈ b.move.happened →
        (b.move.world.session i).isClosed = true ∧
        acceptedOn i beats <+: (Roster.onOffer functions).announcements .online ∧
        acceptedOn i beats ≠ (Roster.onOffer functions).announcements .online ∧
        signsOn i after = [] ∧ w.Shuns i
  /-- Nothing is accepted on a closed session. -/
  closed : ∀ before b after, beats = before ++ b :: after →
    ∀ i < b.before.sessions.length, (b.before.session i).isClosed = true →
      acceptedOn i (b :: after) = []
  /-- When a session is asked for every earlier one is closed. -/
  replaced : ∀ before b after, beats = before ++ b :: after → .opening ∈ b.move.happened →
    ∀ i < b.before.sessions.length,
      (b.move.world.session i).isClosed = true ∧ acceptedOn i after = []
  single : ∀ i < w.sessions.length, ∀ j < w.sessions.length,
    (w.session i).isClosed = false → (w.session j).isClosed = false → i = j
  /-- In the end every session is closed. -/
  ended : ((∃ result, w.control = .finished result) ∨ (∃ failure, w.control = .unstarted failure) ∨
      w.control = .dropped) → ∀ i < w.sessions.length, (w.session i).isClosed = true

section Career

variable {settings : Settings} {functions : List Function} {entry : Entry} {beats : List Beat}
  {w : World}

theorem Career.steady (career : Career settings functions entry beats w) (i : Nat) :
    Steady w i (signsOn i beats) := by
  refine career.told (P := fun beats w => Steady w i (signsOn i beats))
    (sound_create settings functions entry) (fun _ _ _ sound deed => sound.deed deed)
    ⟨fun _ => rfl, List.prefix_refl _, fun _ => rfl⟩ (fun beats v act m sound steady deed => ?_)
  rw [signsOn_snoc]
  exact steady.deed sound.standing deed

theorem Career.said (career : Career settings functions entry beats w) (i : Nat) :
    Said (.onOffer functions) (signsOn i beats) (acceptedOn i beats) :=
  (career.stage i).transcript.said (career.steady i).order

/-- A session on which the functions are being offered has accepted all but those that are still to
be announced. -/
theorem Career.accepted_append_remaining {i : Nat}
    (career : Career settings functions entry beats w) (offered : w.offered? = some i) :
    acceptedOn i beats ++ w.remaining = (Roster.onOffer functions).announcements .online := by
  have standing := career.sound.standing
  have working : w.isWithdrawing = false := by
    unfold World.offered? at offered
    split at offered <;> simp_all [World.isWithdrawing]
  cases career.stage i with
  | offering done here parts shown =>
    rw [acceptedOn, shown, filterMap_accepted fun _ => rfl]
    exact parts
  | unopened later =>
    have := standing.fresh i offered
    omega
  | serving _ _ here serving => exact absurd here (standing.apart serving i offered)
  | withdrawing _ _ here leaving => simp [working] at leaving
  | left _ shuns => exact absurd offered shuns.unoffered

/-- A session on which a function is being offered has accepted the functions before this one. -/
theorem Career.accepted_offering {purpose : Purpose} {todo : List Function} {message : Message}
    {deadline : Option Nat} {i : Nat} (career : Career settings functions entry beats w)
    (stands : w.control = .writing (.offer purpose i todo) message deadline) :
    acceptedOn i beats <+: (Roster.onOffer functions).announcements .online ∧
      acceptedOn i beats ≠ (Roster.onOffer functions).announcements .online := by
  have offered : w.offered? = some i := by simp [World.offered?, stands]
  have parts := Career.accepted_append_remaining career offered
  constructor
  · exact ⟨w.remaining, parts⟩
  · intro all
    rw [all, World.remaining, stands] at parts
    simp at parts

theorem Career.abandoned {before after : List Beat} {b : Beat} {purpose : Purpose} {i : Nat}
    {todo : List Function} {message : Message} {deadline : Option Nat} {fault : WriteFault}
    (career : Career settings functions entry (before ++ b :: after) w)
    (stands : b.before.control = .writing (.offer purpose i todo) message deadline)
    (written : .written i message (.error fault) ∈ b.move.happened) :
    (b.move.world.session i).isClosed = true ∧
      acceptedOn i (before ++ b :: after) <+: (Roster.onOffer functions).announcements .online ∧
      acceptedOn i (before ++ b :: after) ≠ (Roster.onOffer functions).announcements .online ∧
      signsOn i after = [] ∧ w.Shuns i := by
  obtain ⟨earlier, step, later⟩ := career.around
  have deed := deed_of_step step
  have standing := (Career.sound earlier).standing
  obtain ⟨closed, shown, shuns⟩ := deed.abandons standing stands written
  have offered : b.before.offered? = some i := by simp [World.offered?, stands]
  have known : i < b.before.sessions.length := by
    have := standing.fresh i offered
    omega
  obtain ⟨nothing, -, shuns⟩ :=
    later.shows_nothing (Nat.lt_of_lt_of_le known deed.length_le) shuns
  have accepted : acceptedOn i (before ++ b :: after) = acceptedOn i before := by
    have refused : acceptedOn i [b] = [] := by
      rw [acceptedOn, signsOn_singleton, shown]
      rfl
    have silent : acceptedOn i after = [] := by rw [acceptedOn, nothing]; rfl
    rw [acceptedOn_append, ← List.singleton_append, acceptedOn_append, refused, silent]
    exact List.append_nil _
  obtain ⟨part, less⟩ := Career.accepted_offering earlier stands
  exact ⟨closed, accepted ▸ part, accepted ▸ less, nothing, shuns⟩

/-- Of every agent the messages are accepted in this form and order. -/
theorem Career.outgoing (career : Career settings functions entry beats w) :
    Outgoing functions beats w where
  sorted := Roster.isSorted_onOffer functions
  said := career.said
  queued := by
    rintro ⟨before, act, move⟩ member alone i known
    obtain ⟨earlier, later, rfl⟩ := List.append_of_mem member
    obtain ⟨-, step, -⟩ := career.around
    exact (deed_of_step step).queued_eq alone known
  abandoned := by
    rintro before b after rfl purpose i todo message deadline fault stands written
    exact Career.abandoned career stands written
  closed := by
    rintro before b after rfl i known closed
    obtain ⟨-, step, later⟩ := career.around
    have first : Course b.before [b] b.move.world := Course.nil.snoc step
    exact (first.append later).accepts_nothing known closed
  replaced := by
    rintro before b after rfl opens i known
    obtain ⟨earlier, step, later⟩ := career.around
    have deed := deed_of_step step
    have closed := deed.closes_all (Career.sound earlier).standing opens known
    exact ⟨closed, later.accepts_nothing (Nat.lt_of_lt_of_le known deed.length_le) closed⟩
  single := by
    intro i known j other opened opened'
    have standing := career.sound.standing
    have here := standing.open?_eq known opened
    rw [standing.open?_eq other opened'] at here
    exact (Option.some.inj here).symm
  ended := by
    rintro finished i known
    refine career.sound.standing.closed i known ?_
    rcases finished with ⟨result, stands⟩ | ⟨failure, stands⟩ | stands
    · simp [World.open?, stands]
    · simp [World.open?, stands]
    · simp [World.open?, stands]

/-- A run with two functions: the first stream ends, the broker does not read on the second session
so that only one function can be offered there, and a shutdown is asked for on the third. -/
def relay : List (Option Act) :=
  let narrow : Duplex Update Update := .start (.fresh 1)
  [some (.answerOpen (.ok (.start "first" default))), none, none, none, none, none, some .run,
    some (.peer 0 (.endFeed .completed)), none, none,
    some (.answerOpen (.ok (.start "second" narrow))), none, none, none, none,
    some (.elapse 5000), none, none, some (.elapse 2000), none,
    some (.answerOpen (.ok (.start "third" default))), none, none, none, none, none,
    some (.peer 2 (.deliver ⟨1, 0, "", some (.call ⟨"nobody", []⟩)⟩)), none, none, none,
    some .requestShutdown, none, none, none, none, none, none]

theorem outgoing_of_relay :
    let second : Function := { (default : Function) with id := ⟨1 :: List.replicate 31 0, rfl⟩ }
    ∃ beats w, Career .standard [second, default] .start beats w ∧
      acceptedOn 0 beats = [.announce default .online, .announce second .online] ∧
      acceptedOn 1 beats = [.announce default .online] ∧
      acceptedOn 2 beats =
        [.announce default .online, .announce second .online,
          .refused ⟨"nobody", []⟩ "function nobody is not offered by this launcher",
          .announce default .offline, .announce second .offline] ∧
      Outgoing [second, default] beats w := by
  intro second
  have played : ((World.create .standard [second, default] .start).world.replay relay).map
      (fun run => (acceptedOn 0 run.1, acceptedOn 1 run.1, acceptedOn 2 run.1)) = some
        ([.announce default .online, .announce second .online], [.announce default .online],
          [.announce default .online, .announce second .online,
            .refused ⟨"nobody", []⟩ "function nobody is not offered by this launcher",
            .announce default .offline, .announce second .offline]) := by decide +kernel
  obtain ⟨⟨beats, w⟩, replayed, accepted⟩ := Option.map_eq_some_iff.1 played
  simp only [Prod.mk.injEq] at accepted
  have career : Career .standard [second, default] .start beats w := .of_replay replayed
  exact ⟨beats, w, career, accepted.1, accepted.2.1, accepted.2.2, career.outgoing⟩

end Career

end FunctionAgent.Agent
