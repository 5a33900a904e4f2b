import FunctionAgent.Proofs.Course
/-!
# Records of a run

A record is something that happened, with its time. The records of a run tell what was taken, asked
of the executor and for a session, written, published and reported in it, each in its order.
-/

set_option autoImplicit false

namespace FunctionAgent.Agent

/-- Something that happened, with its time in milliseconds of the clock. -/
structure Record where
  time : Nat
  happening : Happening

namespace Record

/-- An update that was taken, with its session. -/
def taken? : Record → Option (Nat × Nat × Update)
  | ⟨time, .taken i u⟩ => some (time, i, u)
  | _ => none

/-- A function that the executor was asked to start, with the session information. -/
def start? : Record → Option (Nat × Function × List UInt8)
  | ⟨time, .starting f info⟩ => some (time, f, info)
  | _ => none

/-- The time at which a session was asked for. -/
def opening? : Record → Option Nat
  | ⟨time, .opening⟩ => some time
  | _ => none

/-- A message that was written to a session, or could not be. -/
def written? : Record → Option (Nat × Nat × Message × Except WriteFault Unit)
  | ⟨time, .written i message result⟩ => some (time, i, message, result)
  | _ => none

def phase? : Record → Option (Nat × Phase)
  | ⟨time, .published phase⟩ => some (time, phase)
  | _ => none

def event? : Record → Option (Nat × Event)
  | ⟨time, .logged event⟩ => some (time, event)
  | _ => none

end Record

def Beat.records (b : Beat) : List Record := b.move.happened.map (⟨b.before.clock, ·⟩)

/-- The records of some steps. -/
def recordsOf (beats : List Beat) : List Record := beats.flatMap Beat.records

theorem recordsOf_cons (b : Beat) (beats : List Beat) :
    recordsOf (b :: beats) = b.records ++ recordsOf beats := List.flatMap_cons

theorem recordsOf_append (beats more : List Beat) :
    recordsOf (beats ++ more) = recordsOf beats ++ recordsOf more := List.flatMap_append

theorem recordsOf_singleton (b : Beat) : recordsOf [b] = b.records := List.flatMap_singleton ..

end FunctionAgent.Agent
