import FunctionAgent.Proofs.Offer
import FunctionAgent.Proofs.Standing
/-!
# The phase by the point of the work

Each point of the work has its phase: an agent at work is running, one that replaces a lost session
is recovering with the number that counts the failures so far, one that withdraws its functions is
shutting down, and one that has finished has stopped. With the functions on offer and the sessions
this makes up what holds in every state of an agent (`Sound`).
-/

set_option autoImplicit false

namespace FunctionAgent.Agent

/-- The phase, and how far the failures are counted, by the point of the work. -/
def World.Phased (w : World) : Prop :=
  match w.control with
  | .draining _ _ | .writing (.withdraw _ _ _) _ _ => w.phase = .shuttingDown
  | .finished _ => w.phase = .stopped
  | .opening (.recover attempt) | .offering (.recover attempt) _ _
  | .writing (.offer (.recover attempt) _ _) _ _ | .backingOff attempt _ =>
    attempt = w.failures ∧ 0 < attempt ∧ w.phase = .recovering attempt
  | .recovering _ => w.phase = .running ∨ 0 < w.failures ∧ w.phase = .recovering w.failures
  | .looping => w.phase = .running ∨ w.isShutdown = true ∧ ∃ attempt, w.phase = .recovering attempt
  | .overflowed => True
  | _ => w.phase = .running

/-- Whether the functions are being withdrawn, or have been. -/
def World.isWithdrawing (w : World) : Bool :=
  match w.control with
  | .draining _ _ | .writing (.withdraw _ _ _) _ _ | .finished _ => true
  | _ => false

variable {settings : Settings} {functions : List Function} {w : World} {act : Option Act} {m : Move}

theorem Deed.settings_eq (deed : Deed w act m) : m.world.settings = w.settings := by
  cases deed <;> rfl

/-- A shutdown is never taken back. -/
theorem Deed.isShutdown_eq (deed : Deed w act m) (asked : w.isShutdown = true) :
    m.world.isShutdown = true := by
  cases deed with
  | shutDown => rfl
  | _ => exact asked

theorem phased_setback {purpose : Purpose} {failure : SessionFailure} {control : Control}
    {reports : List Happening}
    (setback : Setback w.settings w.clock purpose failure control reports)
    (first : purpose.isFirst = true → m.world.phase = .running)
    (later : ∀ attempt, purpose = .recover attempt →
      attempt = m.world.failures ∧ 0 < attempt ∧ m.world.phase = .recovering attempt)
    (next : m.world.control = control) : m.world.Phased := by
  cases setback with
  | recovering =>
    obtain ⟨counted, positive, phase⟩ := later _ rfl
    simp only [World.Phased, next]
    exact .inr ⟨counted ▸ positive, counted ▸ phase⟩
  | uncountable | unmeasurable => simp [World.Phased, next]
  | start | unstarted | retrying => simpa [World.Phased, next] using first rfl

theorem Deed.phased (deed : Deed w act m) (phased : w.Phased) : m.world.Phased := by
  cases deed with
  | @installFirst purpose i here first =>
    cases purpose with
    | start | connect => simpa [World.Phased, here] using phased
    | recover => simp [Purpose.isFirst] at first
  | @offer purpose i f todo here | @offerWritten purpose i todo message deadline o here ends =>
    cases purpose <;> simpa [World.Phased, here] using phased
  | @offerFailed purpose i todo message deadline fault o control reports here ends setback =>
    refine phased_setback setback (fun first => ?_) (fun attempt equal => ?_) rfl
    · cases purpose with
      | start | connect => simpa [World.Phased, here] using phased
      | recover => simp [Purpose.isFirst] at first
    · subst equal
      simpa [World.Phased, here] using phased
  | @unopened purpose failure control reports here setback =>
    refine phased_setback setback (fun first => ?_) (fun attempt equal => ?_) rfl
    · cases purpose with
      | start | connect => simpa [World.Phased, here] using phased
      | recover => simp [Purpose.isFirst] at first
    · subst equal
      simpa [World.Phased, here] using phased
  | @opened purpose session here =>
    cases purpose <;> simpa [World.Phased, here] using phased
  | @awaitSpace task message here =>
    cases task with
    | answer | withdraw => simpa [World.Phased, here] using phased
    | offer purpose => cases purpose <;> simpa [World.Phased, here] using phased
  | shutDown unasked =>
    simp only [World.Phased] at phased ⊢
    generalize w.control = control at phased ⊢
    split at phased
    all_goals first
      | exact phased
      | exact phased.imp_right fun recovering => ⟨trivial, recovering.2⟩
  | desist here small left asked =>
    simp only [World.Phased, here] at phased ⊢
    exact phased.imp_right fun recovering => ⟨asked, _, recovering.2⟩
  | reopenLater here | reopenAnyway here => simpa [World.Phased, here] using phased
  | peer | elapse | shutDownAgain => exact phased
  | _ => simp_all [World.Phased]

/-- What holds in every state of an agent. -/
structure Sound (settings : Settings) (functions : List Function) (w : World) : Prop where
  settings : w.settings = settings
  offered : Offered functions w
  standing : Standing w
  phased : w.Phased

theorem Sound.deed (sound : Sound settings functions w) (deed : Deed w act m) :
    Sound settings functions m.world where
  settings := deed.settings_eq.trans sound.settings
  offered := sound.offered.deed deed
  standing := sound.standing.deed deed
  phased := deed.phased sound.phased

theorem sound_create (settings : Settings) (functions : List Function) (entry : Entry) :
    Sound settings functions (World.create settings functions entry.purpose).world where
  settings := rfl
  offered := ⟨rfl, by simp [World.create, World.Listed]⟩
  standing :=
    { fresh := by simp [World.create, World.offered?]
      used := by simp [World.create, World.isServing]
      apart := by simp [World.create, World.isServing]
      closed := by simp [World.create] }
  phased := by cases entry <;> simp [World.create, World.Phased, Entry.purpose]

theorem Career.sound {entry : Entry} {beats : List Beat}
    (career : Career settings functions entry beats w) : Sound settings functions w :=
  career.keeps (sound_create settings functions entry) fun _ _ _ sound deed => sound.deed deed

end FunctionAgent.Agent
