import FunctionAgent.Broker.Message
import FunctionAgent.Proofs.Merging
import FunctionAgent.Wire.Messages
/-!
# Every message reads back

Each message of the protocol reads back from its encoded form, whatever is in it: texts of any
characters, negative and unknown numbers, a payload of nothing but zero values, or none. So two
messages of one type are never encoded alike, and as an update tells which message of the agent it
carries (`Message.ofUpdate?`), neither are two messages of the agent.
-/

set_option autoImplicit false

namespace FunctionAgent

namespace Wire

/-- What was encoded reads back, and nothing else is encoded in the same way. More bytes than a
number of 64 bits can count there are in no input. -/
structure Faithful {M : Type} (encode : M → Bytes) (decode : Bytes → Except Fault M) : Prop where
  back : ∀ m, (encode m).length < sizeLimit → decode (encode m) = .ok m
  injective : ∀ m n, (encode m).length < sizeLimit → encode m = encode n → m = n

theorem Faithful.of_back {M : Type} {encode : M → Bytes} {decode : Bytes → Except Fault M}
    (back : ∀ m, (encode m).length < sizeLimit → decode (encode m) = .ok m) :
    Faithful encode decode where
  back := back
  injective m n small same := by
    have first := back m small
    have second := back n (same ▸ small)
    rw [same] at first
    exact Except.ok.inj (first.symm.trans second)

theorem Schema.Lawful.faithful {M : Type} {s : Schema M} (lawful : s.Lawful) (whole : s.Whole) :
    Faithful s.encode s.decode :=
  .of_back fun _ small => Schema.decode_encode lawful whole small

theorem lawful_empty : empty.Lawful := by
  constructor
  all_goals simp [empty]

theorem lawful_credentials : credentials.Lawful := by
  constructor
  all_goals simp [credentials, Schema.field?, Field.isZero, Field.put]

theorem lawful_token : token.Lawful := by
  constructor
  all_goals simp [token, Schema.field?, Field.isZero, Field.put]

theorem lawful_call : call.Lawful := by
  constructor
  all_goals simp [call, Schema.field?, Field.isZero, Field.put]

theorem lawful_registration : registration.Lawful := by
  constructor
  all_goals simp [registration, Schema.field?, Field.isZero, Field.put]

theorem lawful_reconnect : reconnect.Lawful := by
  constructor
  all_goals simp [reconnect, Schema.field?, Field.isZero, Field.put]

theorem lawful_signature : signature.Lawful := by
  constructor
  all_goals simp [signature, Schema.field?, Field.isZero, Field.put]

theorem lawful_envelope : envelope.Lawful := by
  constructor
  all_goals simp [envelope, Schema.field?, Field.isZero, Field.put]

/-! ## The payload of an update -/

namespace Payload

/-- A payload that was merged into the one at hand: of the same kind, it goes on with the fields of
that one, and of another kind it takes its place. -/
def merged (p : Payload) (current : Option Payload) : Payload :=
  match p, current with
  | .call c, some (.call d) => .call (call.merged c d)
  | .registration r, some (.registration d) => .registration (registration.merged r d)
  | .token t, some (.token d) => .token (token.merged t d)
  | .reconnect n, some (.reconnect d) => .reconnect (reconnect.merged n d)
  | p, _ => p

/-- Bytes that are read as the fields of a payload. -/
def Reads (depth : Nat) (p : Payload) (body : Bytes) : Prop :=
  match p with
  | .call c => Merges (call.mergeField depth) body (call.merged c)
  | .registration r => Merges (registration.mergeField depth) body (registration.merged r)
  | .token t => Merges (token.mergeField depth) body (token.merged t)
  | .reconnect n => Merges (reconnect.mergeField depth) body (reconnect.merged n)

theorem reads_body {p : Payload} (small : (body p).length < sizeLimit) (depth : Nat) :
    Reads depth p (body p) := by
  cases p with
  | call c => exact Schema.merges lawful_call small depth
  | registration r => exact Schema.merges lawful_registration small depth
  | token t => exact Schema.merges lawful_token small depth
  | reconnect n => exact Schema.merges lawful_reconnect small depth

section Nested

variable {depth : Nat} {body : Bytes}

/-- A nested message is read into the one that it goes on with, and becomes a payload. -/
theorem read_nested {M : Type} {s : Schema M} {f : M → M}
    (reads : Merges (s.mergeField depth) body f) (small : body.length < sizeLimit)
    (wrap : M → Payload) (start : M) (rest : Bytes) :
    (s.mergeNested depth .lengthDelimited start (encodeDelimited body ++ rest)).map
      (fun r => (wrap r.1, r.2)) = .ok (wrap (f start), rest) := by
  rw [Schema.mergeNested_of_merges reads small]
  rfl

/-- The payload behind its key is merged into the one at hand. -/
theorem merge?_of_reads {p : Payload} (reads : Reads depth p body) (small : body.length < sizeLimit)
    (current : Option Payload) (rest : Bytes) :
    merge? depth (number p) .lengthDelimited current (encodeDelimited body ++ rest)
      = some (.ok (merged p current, rest)) := by
  cases p with
  | call c =>
    have whole : call.merged c call.blank = c := lawful_call.merged_blank c
    have read := read_nested reads small .call
    refine congrArg some ((read _ rest).trans ?_)
    rcases current with _ | (d | d | d | d) <;> simp [merged, whole]
  | registration r =>
    have whole : registration.merged r registration.blank = r := lawful_registration.merged_blank r
    have read := read_nested reads small .registration
    refine congrArg some ((read _ rest).trans ?_)
    rcases current with _ | (d | d | d | d) <;> simp [merged, whole]
  | token t =>
    have whole : token.merged t token.blank = t := lawful_token.merged_blank t
    have read := read_nested reads small .token
    refine congrArg some ((read _ rest).trans ?_)
    rcases current with _ | (d | d | d | d) <;> simp [merged, whole]
  | reconnect n =>
    have whole : reconnect.merged n reconnect.blank = n := lawful_reconnect.merged_blank n
    have read := read_nested reads small .reconnect
    refine congrArg some ((read _ rest).trans ?_)
    rcases current with _ | (d | d | d | d) <;> simp [merged, whole]

end Nested

theorem number_bounds (p : Payload) : 0 < number p ∧ number p < 536_870_912 := by
  cases p <;> simp [number]

end Payload

namespace Update

/-- An update that was merged into another one. -/
def merged (u acc : Update) : Update :=
  let fields := envelope.merged u acc
  match u.payload with
  | some p => { fields with payload := some (Payload.merged p fields.payload) }
  | none => fields

/-- A simple field is read as the schema has it. -/
theorem mergeField_of_mem {f : Field Update} (member : f ∈ envelope.fields) {kind : WireType}
    {acc : Update} {after : Update × Bytes} {bytes rest : Bytes}
    (key : readKey bytes = .ok (f.number, kind, rest)) (merge : f.merge kind acc rest = .ok after) :
    mergeField acc bytes = .ok after := by
  have plain : Payload.merge? (depthLimit - 1) f.number kind acc.payload rest = none := by
    have number : f.number = 1 ∨ f.number = 2 ∨ f.number = 3 := by
      simp only [envelope, List.mem_cons, List.not_mem_nil, or_false] at member
      rcases member with rfl | rfl | rfl
      all_goals simp
    rcases number with same | same | same
    all_goals
      rw [same]
      rfl
  rw [mergeField, key]
  simp only [plain]
  exact Schema.mergeValue_of_mem lawful_envelope member merge

theorem merges_fields {u : Update} (small : (envelope.encode u).length < sizeLimit) :
    Merges mergeField (envelope.encode u) (envelope.merged u) :=
  Schema.merges_encode lawful_envelope small fun _ member _ _ _ _ _ key merge =>
    mergeField_of_mem member key merge

theorem merges_payload {p : Payload} {body : Bytes} (reads : Payload.Reads (depthLimit - 1) p body)
    (small : body.length < sizeLimit) :
    Merges mergeField (encodeKey (Payload.number p) .lengthDelimited ++ encodeDelimited body)
      fun u => { u with payload := some (Payload.merged p u.payload) } := by
  have bounds := Payload.number_bounds p
  refine .of_step ?_ fun u rest => ?_
  · intro none
    exact Varint.encode_ne_nil _ (List.append_eq_nil_iff.1 none).1
  · rw [List.append_assoc, mergeField, readKey_encodeKey bounds.1 bounds.2]
    simp only [Payload.merge?_of_reads reads small]

/-- An encoded update is merged into the one at hand. -/
theorem merges_encode {u : Update} (small : (encode u).length < sizeLimit) :
    Merges mergeField (encode u) (merged u) := by
  rw [encode, List.length_append] at small
  have fields := merges_fields (u := u) (by omega)
  cases carried : u.payload with
  | none =>
    have effect : merged u = envelope.merged u := by
      funext acc
      rw [merged, carried]
    rw [encode, effect, carried, List.append_nil]
    exact fields
  | some p =>
    have short : (Payload.body p).length < sizeLimit := by
      simp only [carried, Payload.encode, encodeDelimited, List.length_append] at small
      omega
    have effect : merged u = (fun v => { v with payload := some (Payload.merged p v.payload) })
        ∘ envelope.merged u := by
      funext acc
      rw [merged, carried]
      rfl
    rw [encode, effect, carried]
    exact fields.append (merges_payload (Payload.reads_body short _) short)

theorem merged_blank (u : Update) : merged u envelope.blank = u := by
  have fields : envelope.merged u envelope.blank = { u with payload := none } :=
    lawful_envelope.merged_blank u
  obtain ⟨kind, response, description, payload⟩ := u
  rw [merged, fields]
  cases payload with
  | none => rfl
  | some p => cases p <;> rfl

/-- What a whole input has the effect of, it has on the zero values. -/
theorem decode_of_merges {bytes : Bytes} {f : Update → Update} (reads : Merges mergeField bytes f) :
    decode bytes = .ok (f envelope.blank) := by
  have read := reads.upTo envelope.blank [] (Nat.le_refl _)
  rw [List.append_nil] at read
  rw [decode, show (0 : Nat) = ([] : Bytes).length from rfl, read]
  rfl

theorem decode_encode {u : Update} (small : (encode u).length < sizeLimit) :
    decode (encode u) = .ok u := by
  rw [decode_of_merges (merges_encode small), merged_blank]

end Update

end Wire

namespace Message

/-- The message of the agent that an update carries. -/
def ofUpdate? (u : Update) : Option Message :=
  match u.payload, Verdict.ofNumber u.response with
  | some (.registration record), _ => some (.registration record)
  | some (.call call), .success => some (.answer call .success u.description)
  | some (.call call), .failed => some (.answer call .failed u.description)
  | some (.token token), _ => some (.tokenTaken token)
  | _, _ => none

theorem ofUpdate?_toUpdate (m : Message) : ofUpdate? m.toUpdate = some m := by
  cases m with
  | registration record => rfl
  | answer call outcome description => cases outcome <;> rfl
  | tokenTaken token => rfl

end Message

namespace Wire

/-- Every message of the protocol reads back, and an update reads back as the message of the agent
that it was made for. -/
theorem reads_back :
    Faithful empty.encode empty.decode ∧
      Faithful credentials.encode credentials.decode ∧
      Faithful token.encode token.decode ∧
      Faithful call.encode call.decode ∧
      Faithful registration.encode registration.decode ∧
      Faithful reconnect.encode reconnect.decode ∧
      Faithful signature.encode signature.decode ∧
      Faithful Update.encode Update.decode ∧
      (∀ m : Message, (Update.encode m.toUpdate).length < sizeLimit →
        ∃ u, Update.decode (Update.encode m.toUpdate) = .ok u ∧ Message.ofUpdate? u = some m) ∧
      ∀ m n : Message, (Update.encode m.toUpdate).length < sizeLimit → m ≠ n →
        Update.encode m.toUpdate ≠ Update.encode n.toUpdate := by
  have update : Faithful Update.encode Update.decode :=
    .of_back fun _ small => Update.decode_encode small
  refine ⟨lawful_empty.faithful fun _ => rfl, lawful_credentials.faithful fun _ => rfl,
    lawful_token.faithful fun _ => rfl, lawful_call.faithful fun _ => rfl,
    lawful_registration.faithful fun _ => rfl, lawful_reconnect.faithful fun _ => rfl,
    lawful_signature.faithful fun _ => rfl, update, ?_, ?_⟩
  · intro m small
    exact ⟨m.toUpdate, update.back _ small, m.ofUpdate?_toUpdate⟩
  · intro m n small different same
    have carried := congrArg Message.ofUpdate? (update.injective _ _ small same)
    rw [Message.ofUpdate?_toUpdate, Message.ofUpdate?_toUpdate] at carried
    exact different (Option.some.inj carried)

/-- An unknown negative number and a payload of nothing but zero values read back. -/
theorem reads_back_zeros :
    let u : FunctionAgent.Update := ⟨-7, 0, "", some (.token ⟨""⟩)⟩
    (Update.encode u).length < sizeLimit ∧ Update.decode (Update.encode u) = .ok u := by
  have small : (Update.encode ⟨-7, 0, "", some (.token ⟨""⟩)⟩).length < sizeLimit := by decide
  obtain ⟨-, -, -, -, -, -, -, update, -⟩ := reads_back
  exact ⟨small, update.back _ small⟩

end Wire

end FunctionAgent
