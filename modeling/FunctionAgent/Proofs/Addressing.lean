import FunctionAgent.Proofs.Answer
import FunctionAgent.Proofs.Identifiers
/-!
# Which function a call starts

A call names its function by a text. If the text spells the identifier of a function on offer, in
whatever way, the executor is asked to start this function and no other; if it does not, nothing is
started, and the answer says so. Either way the answer shows the text as it came (`Addressed`). That
this holds of every call on every session is read off the transcripts of the sessions.
-/

set_option autoImplicit false

namespace FunctionAgent

section Resolving

variable {roster : Roster} {f : Function}

/-- A function is found by the identifier under which it was registered. -/
theorem Roster.resolve?_registrationAs (sorted : Roster.IsSorted roster) (member : f ∈ roster)
    (state : Lifecycle) : roster.resolve? (f.registrationAs state).id = some f := by
  apply (Roster.resolve?_eq_some_iff sorted).2
  refine ⟨member, ?_⟩
  simpa [Function.registrationAs, Uuid.render] using f.id.spelled_chars

/-- Two spellings name the same function just if they are spellings of the same bytes. -/
theorem Roster.resolve?_iff_bytes (sorted : Roster.IsSorted roster) {u v : Uuid} {s t : String}
    (first : u.Spelled s.toList) (second : v.Spelled t.toList)
    (resolved : roster.resolve? s = some f) :
    roster.resolve? t = some f ↔ u.bytes = v.bytes := by
  obtain ⟨member, spelled⟩ := (Roster.resolve?_eq_some_iff sorted).1 resolved
  obtain rfl := first.unique spelled
  rw [Roster.resolve?_eq_some_iff sorted, Uuid.bytes_inj]
  constructor
  · rintro ⟨-, again⟩
    exact again.unique second
  · rintro rfl
    exact ⟨member, second⟩

end Resolving

namespace Agent

/-- What a call leads to, by the text with which it names its function. -/
structure Addressed (roster : Roster) (call : Call) (signs : List Sign) : Prop where
  /-- The executor is asked to start the function and nothing else, and the call is echoed in the
  answer. -/
  named : ∀ f ∈ roster, f.id.Spelled call.id.toList → ∃ begun ended answer message result,
    signs = [.asked begun f call.sessionInfo, .heard ended answer, .tried message result] ∧
      message.toUpdate.payload = some (.call call)
  unnamed : (∀ f ∈ roster, ¬f.id.Spelled call.id.toList) → ∃ message result,
    signs = [.tried message result] ∧ message.toUpdate =
      { kind := UpdateKind.response.number
        response := Verdict.failed.number
        description := "Function " ++ call.id ++ " could not be started: "
          ++ ("function " ++ call.id ++ " is not offered by this launcher")
        payload := some (.call call) }

/-- How the calls on a session find their functions. While the agent is busy, the signs of the last
call need not be complete. -/
structure Addressing (roster : Roster) (busy : Bool) (signs : List Sign) : Prop where
  addressed : ∀ before u after call, signs = before ++ .took u :: after →
    u.payload = some (.call call) → UpdateKind.ofNumber u.kind = .request →
    ∃ rest, Addressed roster call rest ∧ (rest <+: after ∨ busy = true ∧ after <+: rest)
  /-- Whatever was announced is found by the identifier in its record. -/
  registered : ∀ record result, .tried (.registration record) result ∈ signs →
    ∃ f ∈ roster, ∃ state, record = f.registrationAs state ∧ roster.resolve? record.id = some f
  /-- Two spellings name the same function just if they are spellings of the same bytes. -/
  alike : ∀ (u v : Uuid) (s t : String) f, u.Spelled s.toList → v.Spelled t.toList →
    roster.resolve? s = some f → (roster.resolve? t = some f ↔ u.bytes = v.bytes)

section Signs

variable {roster : Roster} {limit : Span} {busy : Bool} {u : Update} {signs : List Sign}

theorem Exchange.addressed {call : Call} {rest : List Sign} (sorted : Roster.IsSorted roster)
    (exchange : Exchange roster limit (.took u :: rest)) (carried : u.payload = some (.call call))
    (request : UpdateKind.ofNumber u.kind = .request) : Addressed roster call rest := by
  have named {f g : Function} (known : roster.resolve? call.id = some g)
      (member : f ∈ roster) (spelled : f.id.Spelled call.id.toList) : g = f := by
    have resolved := (Roster.resolve?_eq_some_iff sorted).2 ⟨member, spelled⟩
    exact Option.some.inj (known.symm.trans resolved)
  have listed {g : Function} (known : roster.resolve? call.id = some g)
      (unnamed : ∀ f ∈ roster, ¬f.id.Spelled call.id.toList) : False := by
    obtain ⟨member, spelled⟩ := (Roster.resolve?_eq_some_iff sorted).1 known
    exact unnamed g member spelled
  cases exchange with
  | token carries => simp [carried] at carries
  | silent needless => simp [Update.needsAnswer, carried, request] at needless
  | @unknown _ other carries _ unknown result =>
    obtain rfl : call = other := by simpa [carried] using carries
    constructor
    · intro f member spelled
      exact absurd spelled ((Roster.resolve?_eq_none_iff sorted).1 unknown f member)
    · intro _
      exact ⟨_, result, rfl, rfl⟩
  | @started _ other g begun ended carries _ known order inTime result =>
    obtain rfl : call = other := by simpa [carried] using carries
    constructor
    · intro f member spelled
      obtain rfl := named known member spelled
      exact ⟨begun, ended, some (.ok ()), _, result, rfl, rfl⟩
    · intro unnamed
      exact (listed known unnamed).elim
  | @unstarted _ other g begun ended carries _ known order inTime cause result =>
    obtain rfl : call = other := by simpa [carried] using carries
    constructor
    · intro f member spelled
      obtain rfl := named known member spelled
      exact ⟨begun, ended, some (.error cause), _, result, rfl, rfl⟩
    · intro unnamed
      exact (listed known unnamed).elim
  | @timedOut _ other g begun carries _ known result =>
    obtain rfl : call = other := by simpa [carried] using carries
    constructor
    · intro f member spelled
      obtain rfl := named known member spelled
      exact ⟨begun, begun + limit.ticks, none, _, result, rfl, rfl⟩
    · intro unnamed
      exact (listed known unnamed).elim

/-- What is tried in an exchange is an answer. -/
theorem Exchange.registers_nothing {record : Registration} {result : Except WriteFault Unit}
    (exchange : Exchange roster limit signs) : .tried (.registration record) result ∉ signs := by
  cases exchange <;> simp [Message.started, Message.refused]

/-- What is registered on a session is an announcement. -/
theorem Transcript.announced {record : Registration} {result : Except WriteFault Unit}
    (transcript : Transcript roster limit busy signs)
    (member : .tried (.registration record) result ∈ signs) :
    ∃ f ∈ roster, ∃ state, record = f.registrationAs state := by
  have announced {state : Lifecycle} {done todo : List Message}
      (parts : done ++ todo = roster.announcements state) (among : .registration record ∈ done) :
      ∃ f ∈ roster, ∃ state, record = f.registrationAs state := by
    have listed : .registration record ∈ roster.announcements state :=
      parts ▸ List.mem_append_left todo among
    obtain ⟨f, known, same⟩ := List.mem_map.1 listed
    exact ⟨f, known, state, (Message.registration.inj same).symm⟩
  have accepted {messages : List Message}
      (among : .tried (.registration record) result ∈ messages.map Sign.accepted) :
      .registration record ∈ messages := by
    obtain ⟨message, listed, same⟩ := List.mem_map.1 among
    obtain ⟨rfl, -⟩ := Sign.tried.inj same
    exact listed
  have exchanged {exchanges : List (List Sign)}
      (whole : ∀ exchange ∈ exchanges, Exchange roster limit exchange) :
      .tried (.registration record) result ∉ exchanges.flatten := by
    intro among
    obtain ⟨exchange, listed, inside⟩ := List.mem_flatten.1 among
    exact (whole exchange listed).registers_nothing inside
  cases transcript with
  | offering parts => exact announced parts (accepted member)
  | @abandoned done todo message parts fault =>
    rcases List.mem_append.1 member with early | last
    · exact announced parts (accepted early)
    · obtain ⟨rfl, -⟩ := Sign.tried.inj (List.mem_singleton.1 last)
      have extended : (done ++ [.registration record]) ++ todo = roster.announcements .online := by
        simpa using parts
      exact announced extended (List.mem_append_right done List.mem_cons_self)
  | @serving exchanges unfinished rest whole pending =>
    rcases List.mem_append.1 member with early | last
    · rcases List.mem_append.1 early with offered | inside
      · exact announced (List.append_nil _) (accepted offered)
      · exact absurd inside (exchanged whole)
    · have exchange := (pending (List.ne_nil_of_mem last)).2
      exact absurd (List.mem_append_left rest last) exchange.registers_nothing
  | @withdrawing exchanges withdrawals done todo whole tried parts =>
    rcases List.mem_append.1 member with early | last
    · rcases List.mem_append.1 early with offered | inside
      · exact announced (List.append_nil _) (accepted offered)
      · exact absurd inside (exchanged whole)
    · have among : Sign.tried (.registration record) result ∈ withdrawals := by simpa using last
      have listed : some (Message.registration record) ∈ done.map some :=
        tried ▸ List.mem_map.2 ⟨_, among, rfl⟩
      exact announced parts (by simpa using listed)

end Signs

variable {settings : Settings} {functions : List Function} {entry : Entry} {beats : List Beat}
  {w : World}

/-- A call starts the function whose identifier it spells, or is told that there is none. -/
theorem Career.resolves (career : Career settings functions entry beats w) (i : Nat) :
    Addressing (.onOffer functions) (w.held == i && w.isBusy) (signsOn i beats) ∧
      w.Comes fun v => v.isBusy = false := by
  have sorted := Roster.isSorted_onOffer functions
  have transcript := (career.stage i).transcript
  refine ⟨⟨?_, ?_, ?_⟩, ?_⟩
  · intro before u after call taken carried request
    obtain ⟨rest, exchange, follows⟩ := transcript.exchange taken
    exact ⟨rest, exchange.addressed sorted carried request, follows⟩
  · intro record result tried
    obtain ⟨f, member, state, rfl⟩ := transcript.announced tried
    exact ⟨f, member, state, rfl, Roster.resolve?_registrationAs sorted member state⟩
  · intro u v s t f first second resolved
    exact Roster.resolve?_iff_bytes sorted first second resolved
  · cases busy : w.isBusy with
    | true => exact frees_of_busy busy
    | false => exact .here busy

/-- A run with a call that spells the identifier behind the scheme of a URN, in capitals, and one
that spells it but for a hyphen. -/
def spellings : List (Option Act) :=
  let call (id : String) : Option Act :=
    some (.peer 0 (.deliver ⟨1, 0, "", some (.call ⟨id, [7]⟩)⟩))
  [some (.answerOpen (.ok (.start "first" default))), none, none, none, some .run,
    call "Urn:UUID:AAAAAAAA-aaaa-AAAA-aaaa-AAAAAAAAAAAA",
    call "aaaaaaaaa-aaa-aaaa-aaaa-aaaaaaaaaaaa", none, none, some (.answerStart (.ok ())), none,
    none, none, none]

theorem resolves_spellings :
    ∃ beats w, Career .standard [lettered] .start beats w ∧
      ((signsOn 0 beats).filterMap Sign.message?).map (·.toUpdate.description) =
        ["", "Function Urn:UUID:AAAAAAAA-aaaa-AAAA-aaaa-AAAAAAAAAAAA has been started successfully",
          "Function aaaaaaaaa-aaa-aaaa-aaaa-aaaaaaaaaaaa could not be started: " ++
            "function aaaaaaaaa-aaa-aaaa-aaaa-aaaaaaaaaaaa is not offered by this launcher"] ∧
      Addressing (.onOffer [lettered]) (w.held == 0 && w.isBusy) (signsOn 0 beats) := by
  have played : ((World.create .standard [lettered] .start).world.replay spellings).map
      (fun run => ((signsOn 0 run.1).filterMap Sign.message?).map (·.toUpdate.description)) = some
        ["", "Function Urn:UUID:AAAAAAAA-aaaa-AAAA-aaaa-AAAAAAAAAAAA has been started successfully",
          "Function aaaaaaaaa-aaa-aaaa-aaaa-aaaaaaaaaaaa could not be started: " ++
            "function aaaaaaaaa-aaa-aaaa-aaaa-aaaaaaaaaaaa is not offered by this launcher"] := by
    decide +kernel
  obtain ⟨⟨beats, w⟩, replayed, said⟩ := Option.map_eq_some_iff.1 played
  have career : Career .standard [lettered] .start beats w := .of_replay replayed
  exact ⟨beats, w, career, said, (career.resolves 0).1⟩

end Agent

end FunctionAgent
