import FunctionAgent.Proofs.Record
/-!
# Requests to shut down

Whoever has a handle of the agent may ask it to shut down, as often as he likes. Only the first
request counts: a run is the same, step by step, when the others are left out (`World.replay_once`),
but for the report that each of them makes.

A request is not made at one stroke. A handle announces it, which is reported, and then makes it,
and what others do with their handles may come in between. The agent sees nothing of this but that
the first request has been made (`Shared`).
-/

set_option autoImplicit false

namespace FunctionAgent.Agent

/-- Whether a step is a request to shut down. -/
def isRequest : Option Act → Bool
  | some .requestShutdown => true
  | _ => false

/-- Steps without the requests to shut down that come after the first. -/
def once (asked : Bool) : List (Option Act) → List (Option Act)
  | [] => []
  | act :: acts =>
    if asked && isRequest act then once asked acts else act :: once (asked || isRequest act) acts

/-- Whether a step does more than to ask again for a shutdown that was asked for. -/
def Beat.matters (b : Beat) : Bool := !(b.before.isShutdown && isRequest b.act)

/-- What the first request reports. -/
def heeded : Event := ⟨.agent, .info, "Shutdown requested", []⟩

/-- What any further request reports. -/
def repeated : Event := ⟨.agent, .debug, "Shutdown already requested", []⟩

/-- What some requests report. -/
def announcements : Nat → List Event
  | 0 => []
  | n + 1 => heeded :: List.replicate n repeated

/-- The report of a request to shut down. -/
def Happening.request? : Happening → Option Event
  | .logged event => if event = heeded ∨ event = repeated then some event else none
  | _ => none

/-- What requests to shut down report. -/
def requestsOf (records : List Record) : List Event := records.filterMap (·.happening.request?)

/-- What is recorded besides the requests to shut down. -/
def workOf (records : List Record) : List Record := records.filter (·.happening.request?.isNone)

/-- How a run in which a shutdown is asked for some times, and the request made some times, compares
with the one in which it is made once at most. -/
structure Alike (asked made : Nat) (all alone : List Record) : Prop where
  work : workOf all = workOf alone
  taken : all.filterMap Record.taken? = alone.filterMap Record.taken?
  starts : all.filterMap Record.start? = alone.filterMap Record.start?
  openings : all.filterMap Record.opening? = alone.filterMap Record.opening?
  written : all.filterMap Record.written? = alone.filterMap Record.written?
  phases : all.filterMap Record.phase? = alone.filterMap Record.phase?
  /-- The first request is reported as such, and every further one. -/
  reports : requestsOf all = announcements asked
  single : requestsOf alone = announcements (min made 1)

section Steps

variable {w v : World} {act : Option Act} {m : Move} {settings : Settings}

theorem Deed.isShutdown_or (deed : Deed w act m) :
    m.world.isShutdown = (w.isShutdown || isRequest act) := by
  cases deed <;> simp_all [isRequest]

theorem Deed.eq_of_repeated (deed : Deed w act m) (again : w.isShutdown && isRequest act) :
    act = some .requestShutdown ∧ m = ⟨w, [.logged repeated]⟩ := by
  cases deed with
  | shutDownAgain => exact ⟨rfl, rfl⟩
  | _ => simp_all [isRequest]

theorem request?_publication (old new : Phase) :
    (Move.publication old new).filterMap Happening.request? = [] := by
  unfold Move.publication
  split
  · rfl
  · simp [Happening.request?, heeded, repeated]

theorem request?_setback {clock : Nat} {purpose : Purpose} {failure : SessionFailure}
    {control : Control} {reports : List Happening}
    (setback : Setback settings clock purpose failure control reports) :
    reports.filterMap Happening.request? = [] := by
  cases setback <;> simp [Happening.request?, heeded, repeated]

/-- Only a request reports one. -/
theorem Deed.request? (deed : Deed w act m) :
    m.happened.filterMap Happening.request? =
      if isRequest act then [if w.isShutdown then repeated else heeded] else [] := by
  cases deed with
  | shutDown unasked => simp [isRequest, Happening.request?, heeded, unasked]
  | shutDownAgain asked => simp [isRequest, Happening.request?, repeated, asked]
  | unopened here setback => simpa [isRequest] using request?_setback setback
  | offerFailed here ends setback =>
    simpa [isRequest, Happening.request?, List.filterMap_cons] using request?_setback setback
  | _ => simp [isRequest, Happening.request?, List.filterMap_cons, request?_publication, heeded,
      repeated]

end Steps

section Single

variable {w v : World} {beats : List Beat} {acts : List (Option Act)}

/-- Leaving out the requests after the first leaves out their steps, and changes no other step. -/
theorem World.replay_once (w : World) (acts : List (Option Act)) :
    w.replay (once w.isShutdown acts) =
      (w.replay acts).map fun (beats, v) => (beats.filter Beat.matters, v) := by
  induction acts generalizing w with
  | nil => rfl
  | cons act acts ih =>
    cases again : w.isShutdown && isRequest act with
    | true =>
      have step : w.step act = some ⟨w, [.logged repeated]⟩ := by
        cases stepped : w.step act with
        | none => cases act with
          | none => simp [isRequest] at again
          | some act => cases act <;> simp_all [isRequest, World.step, World.act]
        | some m =>
          obtain ⟨-, rfl⟩ := (deed_of_step stepped).eq_of_repeated again
          rfl
      have left : ¬(⟨w, act, ⟨w, [.logged repeated]⟩⟩ : Beat).matters = true := by
        simp [Beat.matters, again]
      simp only [once, again, if_true, replay, step, ih]
      cases w.replay acts with
      | none => rfl
      | some run => simp only [Option.map_some, List.filter_cons_of_neg left]
    | false =>
      cases step : w.step act with
      | none => simp [once, again, replay, step]
      | some m =>
        have asked := (deed_of_step step).isShutdown_or
        have kept : (⟨w, act, m⟩ : Beat).matters = true := by simp [Beat.matters, again]
        simp only [once, again, Bool.false_eq_true, if_false, replay, step, ← asked, ih]
        cases m.world.replay acts with
        | none => rfl
        | some run => simp only [Option.map_some, List.filter_cons_of_pos kept]

theorem Course.repeats (course : Course w beats v) :
    ∀ b ∈ beats, b.matters = false → b.move.happened = [.logged repeated] := by
  intro b member idle
  obtain ⟨before, after, rfl⟩ := List.append_of_mem member
  obtain ⟨-, step, -⟩ := course.around
  obtain ⟨-, move⟩ := (deed_of_step step).eq_of_repeated (by simpa [Beat.matters] using idle)
  rw [move]

theorem workOf_append (records more : List Record) :
    workOf (records ++ more) = workOf records ++ workOf more := List.filter_append ..

theorem requestsOf_append (records more : List Record) :
    requestsOf (records ++ more) = requestsOf records ++ requestsOf more :=
  List.filterMap_append ..

theorem requestsOf_records (b : Beat) :
    requestsOf b.records = b.move.happened.filterMap Happening.request? := by
  rw [requestsOf, Beat.records, List.filterMap_map]
  rfl

theorem workOf_matters
    (repeats : ∀ b ∈ beats, b.matters = false → b.move.happened = [.logged repeated]) :
    workOf (recordsOf (beats.filter Beat.matters)) = workOf (recordsOf beats) := by
  induction beats with
  | nil => rfl
  | cons b beats ih =>
    have further := ih fun b' member => repeats b' (List.mem_cons_of_mem b member)
    cases matters : b.matters with
    | true =>
      rw [List.filter_cons_of_pos matters, recordsOf_cons, recordsOf_cons, workOf_append,
        workOf_append, further]
    | false =>
      have idle : workOf b.records = [] := by
        simp [workOf, Beat.records, repeats b List.mem_cons_self matters, Happening.request?]
      rw [List.filter_cons_of_neg (by simp [matters]), recordsOf_cons, workOf_append, idle, further,
        List.nil_append]

theorem announcements_succ (n : Nat) :
    announcements (n + 1) = announcements n ++ [if n = 0 then heeded else repeated] := by
  cases n with
  | zero => rfl
  | succ n => simp [announcements, List.replicate_succ']

/-- How often a shutdown is asked for in some steps. -/
def requestCount (acts : List (Option Act)) : Nat := acts.countP isRequest

theorem requestCount_append (acts more : List (Option Act)) :
    requestCount (acts ++ more) = requestCount acts + requestCount more := List.countP_append

theorem requestCount_singleton (act : Option Act) :
    requestCount [act] = if isRequest act then 1 else 0 := List.countP_singleton

/-- The first request of a run is reported as such, and every further one. -/
theorem Course.requests (course : Course w beats v) (unasked : w.isShutdown = false) :
    requestsOf (recordsOf beats) = announcements (requestCount (beats.map Beat.act)) ∧
      v.isShutdown = (requestCount (beats.map Beat.act) != 0) := by
  induction course with
  | nil => exact ⟨rfl, unasked⟩
  | @snoc u beats act m course step ih =>
    obtain ⟨reports, asked⟩ := ih
    have deed := deed_of_step step
    rw [List.map_append, List.map_singleton, requestCount_append, requestCount_singleton,
      recordsOf_append, requestsOf_append, recordsOf_singleton, requestsOf_records, deed.request?,
      deed.isShutdown_or, reports, asked]
    generalize requestCount (beats.map Beat.act) = n
    cases isRequest act with
    | false => simp
    | true => simp [announcements_succ]

theorem filterMap_workOf {β : Type} {view : Record → Option β}
    (blind : ∀ r, r.happening.request?.isNone = false → view r = none) (records : List Record) :
    (workOf records).filterMap view = records.filterMap view := by
  have same : (fun r : Record => if r.happening.request?.isNone then view r else none) = view := by
    funext r
    cases request : r.happening.request?.isNone with
    | true => rfl
    | false => exact (blind r request).symm
  rw [workOf, List.filterMap_filter, same]

theorem Alike.of_work {asked made : Nat} {all alone : List Record}
    (work : workOf all = workOf alone) (reports : requestsOf all = announcements asked)
    (single : requestsOf alone = announcements (min made 1)) : Alike asked made all alone := by
  have same {β : Type} {view : Record → Option β}
      (blind : ∀ r, r.happening.request?.isNone = false → view r = none) :
      all.filterMap view = alone.filterMap view := by
    rw [← filterMap_workOf blind all, work, filterMap_workOf blind alone]
  refine ⟨work, same ?_, same ?_, same ?_, same ?_, same ?_, reports, single⟩
  all_goals
    rintro ⟨time, happening⟩ request
    cases happening with
    | logged event => rfl
    | _ => simp [Happening.request?] at request

theorem requestCount_once (asked : Bool) (acts : List (Option Act)) :
    requestCount (once asked acts) = if asked then 0 else min (requestCount acts) 1 := by
  induction acts generalizing asked with
  | nil => cases asked <;> rfl
  | cons act acts ih =>
    cases asked with
    | true => cases request : isRequest act <;> simp_all [once, requestCount]
    | false => cases request : isRequest act <;> simp_all [once, requestCount]

end Single

/-! ## Handles

The calls through the handles of an agent are numbered. Each has two halves, and between them may
come whatever the agent and others do, and the halves of other calls. -/

/-- An agent with what is known of the calls through its handles. -/
structure Shared where
  world : World
  /-- The calls that have announced the request. -/
  announced : List Nat
  /-- The calls that have made it. -/
  made : List Nat

/-- What comes next of an agent and its handles. -/
inductive Turn where
  | announce (call : Nat)
  | make (call : Nat)
  /-- A step with no request in it. -/
  | step (act : Option Act)

/-- The step of the agent in a turn. -/
def Turn.act? : Turn → Option (Option Act)
  | .announce _ => none
  | .make _ => some (some .requestShutdown)
  | .step act => some act

namespace Shared

def start (w : World) : Shared := ⟨w, [], []⟩

/-- The state after a turn and what is recorded of it, if it is possible. -/
def turn (s : Shared) : Turn → Option (List Record × Shared)
  | .announce call =>
    if call ∈ s.announced then none
    else some ([⟨s.world.clock, .logged (if s.announced.length = 0 then heeded else repeated)⟩],
      { s with announced := s.announced ++ [call] })
  | .make call =>
    if call ∈ s.announced ∧ call ∉ s.made then
      some ([], { s with world := { s.world with isShutdown := true }, made := s.made ++ [call] })
    else none
  | .step act =>
    if isRequest act then none
    else (s.world.step act).map fun m =>
      (m.happened.map (⟨s.world.clock, ·⟩), { s with world := m.world })

/-- Turns taken one after the other; `none` if one of them is not possible. -/
def play (s : Shared) : List Turn → Option (List Record × Shared)
  | [] => some ([], s)
  | t :: turns =>
    match s.turn t with
    | none => none
    | some (records, next) => (next.play turns).map fun (more, last) => (records ++ more, last)

variable {s next last : Shared} {t : Turn} {turns : List Turn} {records : List Record}

theorem acts_cons (t : Turn) (turns : List Turn) :
    (t :: turns).filterMap Turn.act? = t.act?.toList ++ turns.filterMap Turn.act? := by
  cases t <;> rfl

/-- Making a request is all that the agent sees of a call. -/
theorem step_requestShutdown (w : World) :
    ∃ m, w.step (some .requestShutdown) = some m ∧ m.world = { w with isShutdown := true } ∧
      workOf (⟨w, some .requestShutdown, m⟩ : Beat).records = [] := by
  refine ⟨w.requestShutdown, rfl, ?_, ?_⟩
  · unfold World.requestShutdown
    split
    · rename_i asked
      simp [← asked]
    · rfl
  · unfold World.requestShutdown
    split <;> rfl

/-- A turn is a step of the agent or nothing to it, and records the same work. -/
theorem turn_replays (turned : s.turn t = some (records, next)) :
    ∃ beats, s.world.replay t.act?.toList = some (beats, next.world) ∧
      workOf records = workOf (recordsOf beats) := by
  cases t with
  | announce call =>
    simp only [turn, Option.ite_none_left_eq_some, Option.some.injEq, Prod.mk.injEq] at turned
    obtain ⟨-, rfl, rfl⟩ := turned
    refine ⟨[], rfl, ?_⟩
    split <;> rfl
  | make call =>
    simp only [turn, Option.ite_none_right_eq_some, Option.some.injEq, Prod.mk.injEq] at turned
    obtain ⟨-, rfl, rfl⟩ := turned
    obtain ⟨m, step, world, idle⟩ := step_requestShutdown s.world
    refine ⟨[⟨s.world, some .requestShutdown, m⟩], by simp [Turn.act?, World.replay, step, world],
      ?_⟩
    rw [recordsOf_singleton, idle]
    rfl
  | step act =>
    simp only [turn, Option.ite_none_left_eq_some, Option.map_eq_some_iff, Prod.mk.injEq] at turned
    obtain ⟨-, m, step, rfl, rfl⟩ := turned
    refine ⟨[⟨s.world, act, m⟩], by simp [Turn.act?, World.replay, step], ?_⟩
    rw [recordsOf_singleton]
    rfl

theorem play_replays (played : s.play turns = some (records, last)) :
    ∃ beats, s.world.replay (turns.filterMap Turn.act?) = some (beats, last.world) ∧
      workOf records = workOf (recordsOf beats) := by
  induction turns generalizing s records with
  | nil =>
    obtain ⟨rfl, rfl⟩ := Prod.mk.inj (Option.some.inj played)
    exact ⟨[], rfl, rfl⟩
  | cons t turns ih =>
    simp only [play] at played
    split at played
    · contradiction
    · rename_i first next turned
      obtain ⟨⟨more, end_⟩, later, equal⟩ := Option.map_eq_some_iff.1 played
      obtain ⟨rfl, rfl⟩ := Prod.mk.inj equal
      obtain ⟨beats, step, work⟩ := turn_replays turned
      obtain ⟨rest, replayed, further⟩ := ih later
      refine ⟨beats ++ rest, ?_, ?_⟩
      · simp [acts_cons, World.replay_append, step, replayed]
      · rw [workOf_append, recordsOf_append, workOf_append, work, further]

/-- What is counted of the calls in a turn. -/
theorem turn_counts (turned : s.turn t = some (records, next)) :
    announcements s.announced.length ++ requestsOf records = announcements next.announced.length ∧
      s.made.length + requestCount t.act?.toList = next.made.length := by
  cases t with
  | announce call =>
    simp only [turn, Option.ite_none_left_eq_some, Option.some.injEq, Prod.mk.injEq] at turned
    obtain ⟨-, rfl, rfl⟩ := turned
    refine ⟨?_, rfl⟩
    rw [List.length_append, List.length_singleton, announcements_succ]
    split <;> rfl
  | make call =>
    simp only [turn, Option.ite_none_right_eq_some, Option.some.injEq, Prod.mk.injEq] at turned
    obtain ⟨-, rfl, rfl⟩ := turned
    exact ⟨List.append_nil _, by simp [requestCount, Turn.act?, isRequest]⟩
  | step act =>
    simp only [turn, Option.ite_none_left_eq_some, Option.map_eq_some_iff, Prod.mk.injEq] at turned
    obtain ⟨other, m, step, rfl, rfl⟩ := turned
    have none : requestsOf (⟨s.world, act, m⟩ : Beat).records = [] := by
      rw [requestsOf_records, (deed_of_step step).request?]
      simp [other]
    refine ⟨?_, by simp [requestCount, Turn.act?, other]⟩
    exact (congrArg (announcements s.announced.length ++ ·) none).trans (List.append_nil _)

theorem play_counts (played : s.play turns = some (records, last)) :
    announcements s.announced.length ++ requestsOf records = announcements last.announced.length ∧
      s.made.length + requestCount (turns.filterMap Turn.act?) = last.made.length := by
  induction turns generalizing s records with
  | nil =>
    obtain ⟨rfl, rfl⟩ := Prod.mk.inj (Option.some.inj played)
    exact ⟨List.append_nil _, rfl⟩
  | cons t turns ih =>
    simp only [play] at played
    split at played
    · contradiction
    · rename_i first next turned
      obtain ⟨⟨more, end_⟩, later, equal⟩ := Option.map_eq_some_iff.1 played
      obtain ⟨rfl, rfl⟩ := Prod.mk.inj equal
      obtain ⟨reports, count⟩ := turn_counts turned
      obtain ⟨further, counts⟩ := ih later
      refine ⟨?_, ?_⟩
      · rw [requestsOf_append, ← List.append_assoc, reports, further]
      · rw [acts_cons, requestCount_append, ← Nat.add_assoc, count, counts]

end Shared

/-- How an agent takes requests to shut down. -/
structure Heeding (w : World) : Prop where
  /-- A run is possible just if it is with the first request alone. -/
  possible : ∀ acts, (w.replay acts).isSome = (w.replay (once false acts)).isSome
  /-- Then nothing differs but what the requests report. -/
  same : ∀ acts all v alone u, w.replay acts = some (all, v) →
    w.replay (once false acts) = some (alone, u) →
      u = v ∧ alone = all.filter Beat.matters ∧
        Alike (requestCount acts) (requestCount acts) (recordsOf all) (recordsOf alone)
  /-- The calls through the handles of the agent amount to one request, made by the first of them
  that makes it. -/
  shared : ∀ turns records s, (Shared.start w).play turns = some (records, s) → ∃ alone,
    w.replay (once false (turns.filterMap Turn.act?)) = some (alone, s.world) ∧
      Alike s.announced.length s.made.length records (recordsOf alone)

section Career

variable {w v u : World} {acts : List (Option Act)} {all alone : List Beat}

theorem World.alone_of_all (unasked : w.isShutdown = false)
    (played : w.replay acts = some (all, v)) :
    w.replay (once false acts) = some (all.filter Beat.matters, v) := by
  have both := w.replay_once acts
  rw [unasked, played] at both
  exact both

theorem Alike.of_replay {asked : Nat} {records : List Record} (unasked : w.isShutdown = false)
    (played : w.replay acts = some (all, v)) (work : workOf records = workOf (recordsOf all))
    (reports : requestsOf records = announcements asked) :
    Alike asked (requestCount acts) records (recordsOf (all.filter Beat.matters)) := by
  obtain ⟨course, -⟩ := World.replay_eq_some_iff.1 played
  obtain ⟨single, made⟩ := World.replay_eq_some_iff.1 (World.alone_of_all unasked played)
  refine .of_work (work.trans (workOf_matters course.repeats).symm) reports ?_
  rw [(single.requests unasked).1, made, requestCount_once]
  rfl

/-- Of all requests to shut down only the first counts, and the others are merely reported. -/
theorem Career.heeds_once (settings : Settings) (functions : List Function) (entry : Entry) :
    Heeding (World.create settings functions entry.purpose).world := by
  have unasked : (World.create settings functions entry.purpose).world.isShutdown = false := rfl
  generalize (World.create settings functions entry.purpose).world = w at unasked
  refine ⟨fun acts => ?_, fun acts all v alone u played single => ?_,
    fun turns records s played => ?_⟩
  · have both := w.replay_once acts
    rw [unasked] at both
    rw [both, Option.isSome_map]
  · obtain ⟨course, made⟩ := World.replay_eq_some_iff.1 played
    obtain ⟨rfl, rfl⟩ := Prod.mk.inj
      (Option.some.inj ((World.alone_of_all unasked played).symm.trans single))
    have reports := (course.requests unasked).1
    rw [made] at reports
    exact ⟨rfl, rfl, .of_replay unasked played rfl reports⟩
  · obtain ⟨beats, replayed, work⟩ := Shared.play_replays played
    obtain ⟨reports, count⟩ := Shared.play_counts played
    refine ⟨_, World.alone_of_all unasked replayed, ?_⟩
    have made : requestCount (turns.filterMap Turn.act?) = s.made.length := by
      simpa [Shared.start] using count
    exact made ▸ Alike.of_replay unasked replayed work reports

/-- Two calls through handles that cross: the one that announces the request later makes it, and the
other one makes it when the agent has stopped. -/
def crossingCalls : List Turn :=
  [.step (some (.answerOpen (.ok (.start "first" default)))), .step none, .step none, .step none,
    .step (some .run), .step none, .announce 0, .announce 1, .make 1, .step none, .step none,
    .step none, .step none, .step none, .make 0]

theorem heeds_once_in_crossing_calls :
    let w := (World.create .standard [default] .start).world
    ∃ records s alone, (Shared.start w).play crossingCalls = some (records, s) ∧
      requestsOf records = [heeded, repeated] ∧ s.made = [1, 0] ∧
      w.replay (once false (crossingCalls.filterMap Turn.act?)) = some (alone, s.world) ∧
      Alike 2 2 records (recordsOf alone) := by
  intro w
  have played : ((Shared.start w).play crossingCalls).map (fun run =>
      (requestsOf run.1, run.2.announced, run.2.made))
        = some ([heeded, repeated], [0, 1], [1, 0]) := by decide +kernel
  obtain ⟨⟨records, s⟩, shared, seen⟩ := Option.map_eq_some_iff.1 played
  simp only [Prod.mk.injEq] at seen
  obtain ⟨reports, announced, made⟩ := seen
  obtain ⟨alone, replayed, alike⟩ :=
    (Career.heeds_once .standard [default] .start).shared crossingCalls records s shared
  rw [announced, made] at alike
  exact ⟨records, s, alone, shared, reports, made, replayed, alike⟩

end Career

end FunctionAgent.Agent
