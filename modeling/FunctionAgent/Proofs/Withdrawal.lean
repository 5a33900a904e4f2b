import FunctionAgent.Proofs.Budget
import FunctionAgent.Proofs.Latch
import FunctionAgent.Proofs.Outgoing
/-!
# The withdrawal of the functions

However the work of an agent ends, it sets out once to withdraw its functions. From there on nothing
but the writes of the withdrawal is noticed: each function is announced as offline, one after the
other and whatever became of the writes before, then the session is closed and the agent has stopped
(`Withdrawal`). A step of an agent that withdraws its functions is one of three (`Retreat`).

The functions themselves are never lost or changed but for their states, which are online from the
start of the agent until it sets out to withdraw them, and offline in the end.
-/

set_option autoImplicit false

namespace FunctionAgent

open Outbound (Latched)

/-- All of a function, and of the record that announces it, but the state. -/
def Function.fixed (f : Function) : Uuid × Description × Registration :=
  (f.id, f.description, { f.registration with state := 0 })

namespace Roster

variable {r s : Roster}

theorem Same.map_fixed (same : Same r s) : r.map Function.fixed = s.map Function.fixed := by
  have fixed (roster : Roster) :
      (roster.inState .unspecified).map Function.fixed = roster.map Function.fixed := by
    rw [Roster.inState, List.map_map]
    rfl
  rw [← fixed r, same, fixed s]

/-- In a sorted roster every function is found under its identifier. -/
theorem find?_of_mem (sorted : IsSorted r) {f : Function} (member : f ∈ r) :
    r.find? f.id = some f := by
  induction r with
  | nil => contradiction
  | cons g r later =>
    obtain ⟨first, sorted⟩ := List.pairwise_cons.1 sorted
    rcases List.mem_cons.1 member with rfl | member
    · simp [Roster.find?]
    · have different : g.id ≠ f.id := by
        intro same
        exact Uuid.lt_irrefl f.id (same ▸ first f member)
      have found := later sorted member
      simpa [Roster.find?, different] using found

end Roster

/-! ## Tries and what was accepted of them -/

/-- A message that was written, with what became of it. -/
abbrev Try := Message × Except WriteFault Unit

/-- The message of a try that succeeded. -/
def Try.accepted? : Try → Option Message
  | (message, .ok ()) => some message
  | _ => none

section Tries

variable {before after : Option WriteFault} {tries : List Try}

/-- Where a fault was latched before, nothing is accepted. -/
theorem accepted_of_latched {fault : WriteFault}
    (latched : Latched (some fault) (tries.map Prod.snd) after) :
    tries.filterMap Try.accepted? = [] := by
  induction tries generalizing fault with
  | nil => rfl
  | cons t tries later =>
    obtain ⟨message, result⟩ := t
    rcases latched.uncons with ⟨-, sound, -⟩ | ⟨fault, refused, rest⟩
    · contradiction
    · obtain rfl : result = .error fault := refused
      rw [List.filterMap_cons_none rfl]
      exact later rest

/-- What is accepted is the beginning of what is tried. -/
theorem accepted_part (latched : Latched before (tries.map Prod.snd) after) :
    tries.filterMap Try.accepted? <+: tries.map Prod.fst := by
  induction tries generalizing before with
  | nil => exact List.prefix_refl []
  | cons t tries later =>
    obtain ⟨message, result⟩ := t
    rcases latched.uncons with ⟨taken, -, rest⟩ | ⟨fault, refused, rest⟩
    · obtain rfl : result = .ok () := taken
      show message :: tries.filterMap Try.accepted? <+: message :: tries.map Prod.fst
      rw [List.cons_prefix_cons]
      exact ⟨rfl, later rest⟩
    · obtain rfl : result = .error fault := refused
      rw [List.filterMap_cons_none rfl, accepted_of_latched rest]
      exact List.nil_prefix

theorem accepted_of_ok (succeeded : ∀ t ∈ tries, t.2 = .ok ()) :
    tries.filterMap Try.accepted? = tries.map Prod.fst := by
  induction tries with
  | nil => rfl
  | cons t tries later =>
    obtain ⟨message, result⟩ := t
    obtain rfl : result = .ok () := succeeded _ List.mem_cons_self
    have others := later fun t member => succeeded t (List.mem_cons_of_mem _ member)
    exact congrArg (message :: ·) others

end Tries

namespace Agent

/-! ## What is noticed -/

/-- Whether a happening is a mere report. -/
def Happening.isReport : Happening → Bool
  | .logged _ => true
  | _ => false

/-- The message that a session accepted. -/
def Happening.acceptedOn? (i : Nat) : Happening → Option Message
  | .written j message (.ok ()) => if j = i then some message else none
  | _ => none

/-- What happened in some steps, the reports apart. -/
def noticed (beats : List Beat) : List Happening :=
  beats.flatMap fun b => b.move.happened.filter (!·.isReport)

theorem noticed_append (beats more : List Beat) :
    noticed (beats ++ more) = noticed beats ++ noticed more := List.flatMap_append

theorem noticed_singleton (b : Beat) :
    noticed [b] = b.move.happened.filter (!·.isReport) := List.append_nil _

theorem noticed_cons (b : Beat) (beats : List Beat) :
    noticed (b :: beats) = noticed [b] ++ noticed beats := noticed_append [b] beats

theorem accepted_shown (w : World) (i : Nat) (h : Happening) :
    (w.shown i h).filterMap Sign.accepted? = (h.acceptedOn? i).toList := by
  cases h with
  | written j message result =>
    by_cases here : j = i
    · cases result with
      | ok => simp [World.shown, Happening.acceptedOn?, here]
      | error => simp [World.shown, Happening.acceptedOn?, List.filterMap_cons, here]
    · cases result with
      | ok => simp [World.shown, Happening.acceptedOn?, here]
      | error => simp [World.shown, Happening.acceptedOn?, here]
  | published phase =>
    cases phase with
    | shuttingDown =>
      simp only [World.shown]
      split <;> rfl
    | running | recovering | stopped => rfl
  | taken | refreshed | starting =>
    simp only [World.shown]
    split <;> rfl
  | opening | closed | logged => rfl

theorem accepted_happened (w : World) (i : Nat) (happened : List Happening) :
    (happened.flatMap (w.shown i)).filterMap Sign.accepted?
      = happened.filterMap (Happening.acceptedOn? i) := by
  induction happened with
  | nil => rfl
  | cons h happened later =>
    rw [List.flatMap_cons, List.filterMap_append, accepted_shown, later, List.filterMap_cons]
    cases h.acceptedOn? i with
    | none => rfl
    | some message => rfl

/-- What a session accepts can be told from what is noticed. -/
theorem acceptedOn_eq_noticed (i : Nat) (beats : List Beat) :
    acceptedOn i beats = (noticed beats).filterMap (Happening.acceptedOn? i) := by
  induction beats with
  | nil => rfl
  | cons b beats later =>
    have unheard : (if b.before.held = i then b.heard else []).filterMap Sign.accepted? = [] := by
      split
      · unfold Beat.heard
        split
        · split <;> rfl
        · rfl
        · rfl
      · rfl
    have first : acceptedOn i [b] = (noticed [b]).filterMap (Happening.acceptedOn? i) := by
      have plain : (b.move.happened.filter (!·.isReport)).filterMap (Happening.acceptedOn? i)
          = b.move.happened.filterMap (Happening.acceptedOn? i) := by
        rw [List.filterMap_filter]
        refine congrArg (List.filterMap · b.move.happened) (funext fun h => ?_)
        cases h <;> rfl
      rw [acceptedOn, signsOn_singleton, Beat.signs, List.filterMap_append, unheard,
        accepted_happened, noticed_singleton, plain]
      rfl
    have whole := acceptedOn_append i [b] beats
    rw [List.singleton_append] at whole
    rw [whole, noticed_cons, List.filterMap_append, first, later]

theorem noticed_publication {old new : Phase} (changed : old ≠ new) :
    (Move.publication old new).filter (!·.isReport) = [.published new] := by
  rw [Move.publication, if_neg changed]
  rfl

/-! ## Steps of an agent that withdraws its functions -/

/-- Whether the work of an agent is over. -/
def World.isFinished (w : World) : Bool :=
  match w.control with
  | .finished _ => true
  | _ => false

/-- Whether the agent sets out to withdraw its functions in a step. -/
def Beat.setsOut (b : Beat) : Bool := !b.before.isWithdrawing && b.move.world.isWithdrawing

/-- Why an agent sets out to withdraw its functions, and what its work results in. -/
inductive Reason (w : World) : Result → Prop where
  /-- A shutdown was asked for. -/
  | asked (here : w.control = .looping) (asked : w.isShutdown = true) : Reason w (.ok ())
  /-- The budget of recoveries is used up. -/
  | exhausted {cause : SessionFailure} (here : w.control = .recovering cause)
      (exhausted : w.settings.maxAttempts.toNat < w.failures + 1) : Reason w (.error cause)

/-- A step in which an agent sets out to withdraw its functions. -/
structure Departure (b : Beat) (result : Result) : Prop where
  reason : Reason b.before result
  outcome : b.move.world.outcome? = some result
  held : b.move.world.held = b.before.held
  sessions : b.move.world.sessions = b.before.sessions
  control : b.move.world.control = .draining b.before.roster result
  shown : b.before.phase ≠ .shuttingDown → noticed [b] = [.published .shuttingDown]

/-- What a step of an agent that withdraws its functions comes to. -/
inductive Retreat (w : World) (b : Beat) : Prop where
  | idle (unnoticed : noticed [b] = []) (remaining : b.move.world.remaining = w.remaining)
      (latched : b.move.world.latched w.held = w.latched w.held)
      (finished : b.move.world.isFinished = w.isFinished)
  | tried (t : Try) (unfinished : w.isFinished = false)
      (shown : noticed [b] = [.written w.held t.1 t.2])
      (remaining : w.remaining = t.1 :: b.move.world.remaining)
      (latched : Latched (w.latched w.held) [t.2] (b.move.world.latched w.held))
      (still : b.move.world.isFinished = false)
  | stopped (unfinished : w.isFinished = false)
      (shown : noticed [b] = [.closed w.held, .published .stopped])
      (all : w.remaining = []) (remaining : b.move.world.remaining = [])
      (latched : b.move.world.latched w.held = w.latched w.held)
      (finished : b.move.world.isFinished = true)

section Deeds

variable {settings : Settings} {functions : List Function} {w : World} {act : Option Act} {m : Move}

/-- An agent sets out to withdraw its functions for a reason. -/
theorem Deed.departs (deed : Deed w act m) (working : w.isWithdrawing = false)
    (leaving : m.world.isWithdrawing = true) : ∃ result, Departure ⟨w, act, m⟩ result := by
  cases deed with
  | drain here asked =>
    refine ⟨_, .asked here asked, rfl, rfl, rfl, rfl, fun changed => ?_⟩
    exact (noticed_singleton _).trans (noticed_publication changed)
  | giveUp here small exhausted =>
    refine ⟨_, .exhausted here exhausted, rfl, rfl, rfl, rfl, fun changed => ?_⟩
    exact (noticed_singleton _).trans (noticed_publication changed)
  | @awaitSpace task message here =>
    cases task <;> simp_all [World.isWithdrawing]
  | offerFailed here ends setback | unopened here setback =>
    cases setback <;> simp [World.isWithdrawing] at leaving
  | peer | shutDown | shutDownAgain | elapse =>
    simp_all [World.isWithdrawing, World.onSession]
  | withdraw here | withdrawalWritten here | withdrawalFailed here | stop here =>
    simp [World.isWithdrawing, here] at working
  | _ => simp [World.isWithdrawing] at leaving

/-- The outcome of a write on the session in use is latched there. -/
theorem latched_written {message : Message} {deadline : Option Nat}
    {result : Except WriteFault Unit} {o : Outbound Update} (known : w.held < w.sessions.length)
    (ends : w.current.stream.outbound.Ends message.toUpdate w.clock deadline (result, o)) :
    Latched (w.latched w.held) [result] ((w.onSession w.held (·.withOutbound o)).latched w.held) := by
  have after : ((w.onSession w.held (·.withOutbound o)).session w.held) =
      (w.session w.held).withOutbound o := World.session_onSession_self known _
  rw [World.latched, World.latched, after]
  exact (Outbound.Faithful.ends ends).latched

theorem Deed.retreat (deed : Deed w act m) (leaving : w.isWithdrawing = true)
    (standing : Standing w) (phased : w.Phased) : Retreat w ⟨w, act, m⟩ := by
  cases deed with
  | @awaitSpace task message here =>
    cases task with
    | withdraw id todo result =>
      refine .idle rfl ?_ rfl ?_
      · simp [World.remaining, here]
      · simp [World.isFinished, here]
    | offer | answer => simp [World.isWithdrawing, here] at leaving
  | @withdrawalWritten id todo result message deadline o here ends =>
    have known := standing.used (by simp [World.isServing, here])
    refine .tried (message, .ok ()) ?_ ?_ ?_ (latched_written known ends) rfl
    · simp [World.isFinished, here]
    · rfl
    · simp [World.remaining, here]
  | @withdrawalFailed id todo result message deadline fault o here ends =>
    have known := standing.used (by simp [World.isServing, here])
    refine .tried (message, .error fault) ?_ ?_ ?_ (latched_written known ends) rfl
    · simp [World.isFinished, here]
    · rfl
    · simp [World.remaining, here]
  | withdraw here =>
    refine .idle rfl ?_ rfl ?_
    · simp [World.remaining, here]
    · simp [World.isFinished, here]
  | stop here =>
    have leaving : w.phase ≠ .stopped := by
      simp only [World.Phased, here] at phased
      simp [phased]
    refine .stopped ?_ ?_ ?_ rfl ?_ rfl
    · simp [World.isFinished, here]
    · show (Happening.closed w.held :: Move.publication w.phase .stopped ++ [_]).filter _ ++ [] = _
      rw [List.append_nil, List.filter_append, List.filter_cons_of_pos rfl,
        noticed_publication leaving]
      rfl
    · simp [World.remaining, here]
    · exact World.onSession_keeps (·.stream.outbound.latched) fun _ => rfl
  | peer i act =>
    refine .idle rfl rfl ?_ rfl
    exact World.onSession_keeps (·.stream.outbound.latched) (latched_peerAct · act)
  | shutDown => exact .idle rfl rfl rfl rfl
  | shutDownAgain => exact .idle rfl rfl rfl rfl
  | elapse => exact .idle rfl rfl rfl rfl
  | _ => simp_all [World.isWithdrawing]

/-- A withdrawal is never broken off, and it stays on its session. -/
theorem Deed.still_leaving (deed : Deed w act m) (leaving : w.isWithdrawing = true) :
    m.world.isWithdrawing = true ∧ m.world.held = w.held := by
  cases deed with
  | @awaitSpace task message here =>
    cases task <;> simp_all [World.isWithdrawing]
  | withdrawalWritten | withdrawalFailed | withdraw | stop => exact ⟨rfl, rfl⟩
  | peer | shutDown | shutDownAgain | elapse => exact ⟨leaving, rfl⟩
  | _ => simp_all [World.isWithdrawing]

end Deeds

/-! ## The whole withdrawal -/

/-- How the functions were withdrawn, as far as this has come: `b` is the step in which the agent set
out to do it, `after` are the steps from then on, and `tries` is what was written. -/
structure Withdrawal (functions : List Function) (b : Beat) (after : List Beat) (result : Result)
    (tries : List Try) (w : World) : Prop where
  setsOut : b.setsOut = true
  reason : Reason b.before result
  outcome : w.outcome? = some result
  held : w.held = b.before.held
  /-- What was tried is the beginning of what is to be announced, and the rest is still to come. -/
  order : tries.map Prod.fst ++ w.remaining = (Roster.onOffer functions).announcements .offline
  /-- The writes are all that is noticed until the end, which comes after the last of them. -/
  shown : noticed (b :: after) =
    .published .shuttingDown :: (tries.map fun t => .written w.held t.1 t.2)
      ++ (if w.isFinished then [.closed w.held, .published .stopped] else [])
  ended : w.isFinished = true → w.remaining = []
  latched : Latched (b.before.latched w.held) (tries.map Prod.snd) (w.latched w.held)

/-- Whether the agent is still at work, or how it withdrew its functions. -/
inductive Parting (functions : List Function) (w : World) : List Beat → Prop where
  | working {beats : List Beat} (working : w.isWithdrawing = false)
      (stayed : beats.countP Beat.setsOut = 0) : Parting functions w beats
  | leaving {before after : List Beat} {b : Beat} {result : Result} {tries : List Try}
      (leaving : w.isWithdrawing = true)
      (once : (before ++ b :: after).countP Beat.setsOut = 1)
      (withdrawal : Withdrawal functions b after result tries w) :
      Parting functions w (before ++ b :: after)

section Withdrawing

variable {settings : Settings} {functions : List Function} {w : World} {act : Option Act} {m : Move}
  {beats : List Beat}

/-- The step in which the agent sets out. -/
theorem Withdrawal.begin {b : Beat} {result : Result} (sound : Sound settings functions b.before)
    (setsOut : b.setsOut = true) (departure : Departure b result) :
    Withdrawal functions b [] result [] b.move.world where
  setsOut := setsOut
  reason := departure.reason
  outcome := departure.outcome
  held := departure.held
  order := by
    rw [World.remaining, departure.control]
    exact sound.offered.same_onOffer.announcements_eq .offline
  shown := by
    have changed : b.before.phase ≠ .shuttingDown := by
      have phased := sound.phased
      intro leaving
      cases departure.reason with
      | asked here => simp [World.Phased, here, leaving] at phased
      | exhausted here => simp [World.Phased, here, leaving] at phased
    rw [departure.shown changed, World.isFinished, departure.control]
    rfl
  ended := by
    intro finished
    simp [World.isFinished, departure.control] at finished
  latched := by
    have same : b.move.world.latched b.move.world.held = b.before.latched b.move.world.held := by
      rw [World.latched, session_congr departure.sessions, World.latched]
    rw [same]
    exact .refl _

/-- The withdrawal goes on by what a step tries and shows. -/
theorem Withdrawal.append {b : Beat} {after : List Beat} {result : Result} {tries more : List Try}
    (withdrawal : Withdrawal functions b after result tries w)
    (outcome : m.world.outcome? = some result) (held : m.world.held = w.held)
    (order : more.map Prod.fst ++ m.world.remaining = w.remaining)
    (shown : (if w.isFinished then [.closed w.held, .published .stopped] else [])
        ++ noticed [⟨w, act, m⟩]
      = (more.map fun t => .written w.held t.1 t.2)
        ++ (if m.world.isFinished then [.closed w.held, .published .stopped] else []))
    (ended : m.world.isFinished = true → m.world.remaining = [])
    (latched : Latched (w.latched w.held) (more.map Prod.snd) (m.world.latched w.held)) :
    Withdrawal functions b (after ++ [⟨w, act, m⟩]) result (tries ++ more) m.world where
  setsOut := withdrawal.setsOut
  reason := withdrawal.reason
  outcome := outcome
  held := held.trans withdrawal.held
  order := by rw [List.map_append, List.append_assoc, order, withdrawal.order]
  shown := by
    have longer : noticed (b :: (after ++ [⟨w, act, m⟩]))
        = noticed (b :: after) ++ noticed [⟨w, act, m⟩] := noticed_append (b :: after) _
    rw [longer, withdrawal.shown, List.append_assoc, shown, held, List.map_append,
      List.cons_append, List.cons_append, List.append_assoc]
  ended := ended
  latched := by
    rw [List.map_append, held]
    exact withdrawal.latched.trans latched

/-- A step of the withdrawal. -/
theorem Withdrawal.deed {b : Beat} {after : List Beat} {result : Result} {tries : List Try}
    (withdrawal : Withdrawal functions b after result tries w) (leaving : w.isWithdrawing = true)
    (sound : Sound settings functions w) (deed : Deed w act m) :
    ∃ more, Withdrawal functions b (after ++ [⟨w, act, m⟩]) result (tries ++ more) m.world := by
  obtain ⟨-, held⟩ := deed.still_leaving leaving
  have outcome := (deed.outcome?_eq withdrawal.outcome).1
  cases deed.retreat leaving sound.standing sound.phased with
  | idle unnoticed remaining latched finished =>
    refine ⟨[], withdrawal.append outcome held remaining ?_ ?_ ?_⟩
    · rw [unnoticed, finished, List.append_nil]
      rfl
    · rw [finished, remaining]
      exact withdrawal.ended
    · rw [latched]
      exact .refl _
  | tried t unfinished shown remaining latched still =>
    refine ⟨[t], withdrawal.append outcome held remaining.symm ?_ ?_ latched⟩
    · rw [shown, unfinished, still]
      rfl
    · intro finished
      rw [still] at finished
      contradiction
  | stopped unfinished shown all remaining latched finished =>
    refine ⟨[], withdrawal.append outcome held ?_ ?_ (fun _ => remaining) ?_⟩
    · rw [remaining, all]
      rfl
    · rw [shown, unfinished, finished]
      rfl
    · rw [latched]
      exact .refl _

theorem Parting.deed (parting : Parting functions w beats) (sound : Sound settings functions w)
    (deed : Deed w act m) : Parting functions m.world (beats ++ [⟨w, act, m⟩]) := by
  cases parting with
  | working working stayed =>
    cases leaving : m.world.isWithdrawing with
    | false =>
      refine .working leaving ?_
      rw [List.countP_append, stayed]
      simp [Beat.setsOut, leaving]
    | true =>
      obtain ⟨result, departure⟩ := deed.departs working leaving
      have setsOut : (⟨w, act, m⟩ : Beat).setsOut = true := by
        simp [Beat.setsOut, working, leaving]
      refine .leaving leaving ?_ (.begin sound setsOut departure)
      rw [List.countP_append, stayed]
      simp [setsOut]
  | @leaving before after b result tries leaving once withdrawal =>
    obtain ⟨more, further⟩ := withdrawal.deed leaving sound deed
    rw [List.append_assoc, List.cons_append]
    refine .leaving (deed.still_leaving leaving).1 ?_ further
    have longer : before ++ b :: (after ++ [⟨w, act, m⟩])
        = (before ++ b :: after) ++ [⟨w, act, m⟩] := by simp
    rw [longer, List.countP_append, once]
    simp [Beat.setsOut, leaving]

theorem Career.parting {entry : Entry} (career : Career settings functions entry beats w) :
    Parting functions w beats := by
  refine career.told (P := fun beats w => Parting functions w beats)
    (sound_create settings functions entry) (fun _ _ _ sound deed => sound.deed deed)
    (.working rfl rfl) (fun beats v act m sound parting deed => ?_)
  exact parting.deed sound deed

end Withdrawing

/-! ## The states of the functions -/

section States

variable {settings : Settings} {functions : List Function} {w : World} {act : Option Act} {m : Move}
  {beats : List Beat}

theorem Roster.AllIn.mark {r : Roster} {state : Lifecycle} (all : Roster.AllIn state r) (id : Uuid) :
    Roster.AllIn state (r.mark id state) := by
  intro f member
  obtain ⟨g, among, rfl⟩ := List.mem_map.1 member
  split
  · rfl
  · exact all g among

/-- Until the agent withdraws its functions, what is online stays online. -/
theorem Deed.online (deed : Deed w act m) (online : Roster.AllIn .online w.roster)
    (working : w.isWithdrawing = false) : Roster.AllIn .online m.world.roster := by
  cases deed with
  | offer here => exact Roster.AllIn.mark online _
  | withdraw here => simp [World.isWithdrawing, here] at working
  | _ => exact online

/-- From its start until it sets out to withdraw them, an agent has all its functions online. -/
theorem Career.online {entry : Entry} (career : Career settings functions entry beats w)
    (started : ∃ b ∈ beats, b.move.world.control = .ready) (working : w.isWithdrawing = false) :
    Roster.AllIn .online w.roster := by
  revert started working
  refine career.told (P := fun beats w => (∃ b ∈ beats, b.move.world.control = .ready) →
      w.isWithdrawing = false → Roster.AllIn .online w.roster)
    (sound_create settings functions entry) (fun _ _ _ sound deed => sound.deed deed)
    (by simp) ?_
  intro beats v act m sound online deed started working
  have before : v.isWithdrawing = false := by
    cases leaving : v.isWithdrawing with
    | false => rfl
    | true =>
      rw [(deed.still_leaving leaving).1] at working
      contradiction
  obtain ⟨b, member, ready⟩ := started
  rcases List.mem_append.1 member with earlier | last
  · exact deed.online (online ⟨b, earlier, ready⟩ before) before
  · obtain rfl := List.mem_singleton.1 last
    have listed := (sound.deed deed).offered.listed
    simpa only [World.Listed, show m.world.control = .ready from ready] using listed

end States

/-! ## The end of the work -/

/-- What the session in use accepts of a withdrawal. -/
structure Admitted (functions : List Function) (b : Beat) (after : List Beat) (tries : List Try)
    (w : World) : Prop where
  tried : acceptedOn w.held (b :: after) = tries.filterMap Try.accepted?
  part : acceptedOn w.held (b :: after) <+: (Roster.onOffer functions).announcements .offline
  /-- A session that was closed before accepts nothing. -/
  none : (b.before.session w.held).isClosed = true → acceptedOn w.held (b :: after) = []
  /-- If every write succeeds, then everything is accepted in the end. -/
  whole : w.isFinished = true → (∀ t ∈ tries, t.2 = .ok ()) →
    acceptedOn w.held (b :: after) = (Roster.onOffer functions).announcements .offline

/-- What becomes of the functions of an agent. -/
structure Retirement (functions : List Function) (beats : List Beat) (w : World) : Prop where
  /-- The functions and their records are those that the agent was built with, the states apart. -/
  kept : w.roster.map Function.fixed = (Roster.ofList functions).map Function.fixed
  /-- Each function stands under its identifier, which its record spells. -/
  named : ∀ f ∈ w.roster,
    w.roster.find? f.id = some f ∧ Uuid.parse? f.registration.id = some f.id
  /-- The functions stand in strictly ascending order. -/
  sorted : Roster.IsSorted w.roster ∧ Roster.IsSorted (.onOffer functions)
  online : (∃ b ∈ beats, b.move.world.control = .ready) → w.isWithdrawing = false →
    Roster.AllIn .online w.roster
  /-- No agent sets out to withdraw its functions twice, and none comes to its end without it. -/
  once : beats.countP Beat.setsOut = if w.isWithdrawing then 1 else 0
  withdrawn : w.isWithdrawing = true → ∃ before b after result tries,
    beats = before ++ b :: after ∧ Withdrawal functions b after result tries w ∧
      Admitted functions b after tries w
  /-- A withdrawal that has begun comes to its end without the help of others. -/
  finishes : ∀ result, w.outcome? = some result → w.Comes fun v => v.control = .finished result
  ended : ∀ result, w.control = .finished result →
    Roster.AllIn .offline w.roster ∧ w.phase = .stopped ∧ (w.session w.held).isClosed = true

section Career

variable {settings : Settings} {functions : List Function} {entry : Entry} {beats : List Beat}
  {w : World}

theorem Withdrawal.accepted {b : Beat} {after : List Beat} {result : Result} {tries : List Try}
    (withdrawal : Withdrawal functions b after result tries w) :
    acceptedOn w.held (b :: after) = tries.filterMap Try.accepted? := by
  have ending : (if w.isFinished then [.closed w.held, .published .stopped] else []).filterMap
      (Happening.acceptedOn? w.held) = [] := by
    split <;> rfl
  have same : (Happening.acceptedOn? w.held ∘ fun t : Try => .written w.held t.1 t.2)
      = Try.accepted? := by
    funext ⟨message, result⟩
    cases result with
    | ok => exact if_pos rfl
    | error => rfl
  rw [acceptedOn_eq_noticed, withdrawal.shown, List.filterMap_append, ending, List.append_nil,
    List.filterMap_cons_none rfl, List.filterMap_map, same]

theorem Withdrawal.admitted {before after : List Beat} {b : Beat} {result : Result}
    {tries : List Try} (withdrawal : Withdrawal functions b after result tries w)
    (career : Career settings functions entry (before ++ b :: after) w) :
    Admitted functions b after tries w where
  tried := withdrawal.accepted
  part := by
    rw [withdrawal.accepted]
    exact (accepted_part withdrawal.latched).trans ⟨w.remaining, withdrawal.order⟩
  none := by
    intro closed
    obtain ⟨earlier, step, later⟩ := career.around
    have first : Course b.before [b] b.move.world := Course.nil.snoc step
    have serving : b.before.isServing = true := by
      cases withdrawal.reason with
      | asked here => simp [World.isServing, here]
      | exhausted here => simp [World.isServing, here]
    have known := (Career.sound earlier).standing.used serving
    rw [withdrawal.held] at closed ⊢
    exact (first.append later).accepts_nothing known closed
  whole := by
    intro finished succeeded
    rw [withdrawal.accepted, accepted_of_ok succeeded, ← withdrawal.order,
      withdrawal.ended finished, List.append_nil]

/-- Of every agent, however its work ends, the functions are withdrawn in this way. -/
theorem Career.retirement (career : Career settings functions entry beats w) :
    Retirement functions beats w where
  kept := career.sound.offered.same.map_fixed
  named := by
    intro f member
    have found := Roster.find?_of_mem career.sound.offered.isSorted member
    exact ⟨found, Uuid.parse?_render f.id⟩
  sorted := ⟨career.sound.offered.isSorted, Roster.isSorted_onOffer functions⟩
  online := career.online
  once := by
    cases career.parting with
    | working working stayed => rw [stayed, working]; rfl
    | leaving leaving once => rw [once, leaving]; rfl
  withdrawn := by
    intro leaving
    cases career.parting with
    | working working =>
      rw [working] at leaving
      contradiction
    | leaving _ _ withdrawal =>
      exact ⟨_, _, _, _, _, rfl, withdrawal, withdrawal.admitted career⟩
  finishes := fun result outcome => Agent.finishes outcome
  ended := by
    intro result stands
    obtain ⟨-, offered, standing, phased⟩ := career.sound
    have known := standing.used (by simp [World.isServing, stands])
    refine ⟨?_, ?_, standing.closed w.held known ?_⟩
    · simpa only [World.Listed, stands] using offered.listed
    · simpa only [World.Phased, stands] using phased
    · simp [World.open?, stands]

/-- A run with two functions and a session that takes three messages: a shutdown is asked for, and
of the two withdrawals the second finds no space until its time is over. -/
def curfew : List (Option Act) :=
  let narrow : Duplex Update Update := .start (.fresh 3)
  [some (.answerOpen (.ok (.start "only" narrow))), none, none, none, none, none, some .run,
    some .requestShutdown, none, none, none, none, none, some (.elapse 5000), none, none]

theorem retirement_in_curfew :
    let second : Function := { (default : Function) with id := ⟨1 :: List.replicate 31 0, rfl⟩ }
    ∃ beats w, Career .standard [second, default] .start beats w ∧ w.isFinished = true ∧
      w.latched 0 = some (.stalled Outbound.defaultLimit) ∧
      acceptedOn 0 beats =
        [.announce default .online, .announce second .online, .announce default .offline] ∧
      Retirement [second, default] beats w := by
  intro second
  have played : ((World.create .standard [second, default] .start).world.replay curfew).map
      (fun run => (run.2.isFinished, run.2.latched 0, acceptedOn 0 run.1)) = some
        (true, some (.stalled Outbound.defaultLimit),
          [.announce default .online, .announce second .online, .announce default .offline]) := by
    decide +kernel
  obtain ⟨⟨beats, w⟩, replayed, ended⟩ := Option.map_eq_some_iff.1 played
  simp only [Prod.mk.injEq] at ended
  have career : Career .standard [second, default] .start beats w := .of_replay replayed
  exact ⟨beats, w, career, ended.1, ended.2.1, ended.2.2, career.retirement⟩

end Career

end Agent

end FunctionAgent
