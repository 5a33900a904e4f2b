import FunctionAgent.Proofs.RoundTrip
/-!
# What other encoders may write

Two encoded updates behind each other are read as one, in which the later values count (`join`),
and the payloads join if they are of one kind. Fields with numbers that a message does not use
(`Stray`) may stand in front of, between and behind its own fields (`Mixed`), with their numbers
spelled in any way that fits in ten bytes (`Varint.Written`). They are skipped, in the envelope as
in the payload, so that an update with strays in it is read as without them.
-/

set_option autoImplicit false

namespace FunctionAgent

namespace Wire

/-! ## Numbers in any spelling -/

namespace Varint

/-- Some bytes spell a number in groups of seven bits, the lowest first. The highest groups may be
zero. -/
inductive Spells : (n : Nat) → Bytes → Prop where
  | last {b : UInt8} (low : b.toNat < 128) : Spells b.toNat [b]
  | more {b : UInt8} {n : Nat} {bytes : Bytes} (high : 128 ≤ b.toNat) (others : Spells n bytes) :
    Spells (b.toNat - 128 + 128 * n) (b :: bytes)

/-- Some bytes are a number of 64 bits. -/
structure Written (n : Nat) (bytes : Bytes) : Prop where
  spells : Spells n bytes
  short : bytes.length ≤ 10
  small : n < sizeLimit

variable {n : Nat} {bytes : Bytes}

theorem Spells.decodeWithin_eq (spells : Spells n bytes) {more : Nat}
    (short : bytes.length ≤ more + 1) (small : n < 2 * Nat.pow 128 more) (rest : Bytes) :
    decodeWithin more (bytes ++ rest) = some (n, rest) := by
  induction spells generalizing more with
  | @last b low =>
    cases more with
    | zero =>
      have bit : b.toNat < 2 := by simpa using small
      exact if_pos bit
    | succ more => exact if_pos low
  | @more b n bytes high others ih =>
    cases more with
    | zero =>
      -- One byte is left, and `others` takes one at least.
      cases others <;> simp at short
    | succ more =>
      have wider : Nat.pow 128 (more + 1) = Nat.pow 128 more * 128 := rfl
      have inner : n < 2 * Nat.pow 128 more := by omega
      rw [List.length_cons] at short
      have read := ih (by omega) inner
      rw [List.cons_append, decodeWithin, if_neg (by omega), read]
      rfl

theorem Spells.of_decodeWithin {more : Nat} (read : decodeWithin more bytes = some (n, [])) :
    Spells n bytes ∧ bytes.length ≤ more + 1 ∧ n < 2 * Nat.pow 128 more := by
  induction more generalizing n bytes with
  | zero =>
    cases bytes with
    | nil => cases read
    | cons b bytes =>
      rw [decodeWithin] at read
      split at read
      · rename_i bit
        obtain ⟨rfl, rfl⟩ := Prod.mk.inj (Option.some.inj read)
        exact ⟨.last (by omega), Nat.le_refl _, by simpa using bit⟩
      · cases read
  | succ more ih =>
    have wider : Nat.pow 128 (more + 1) = Nat.pow 128 more * 128 := rfl
    have positive : 0 < Nat.pow 128 more := Nat.pow_pos (by decide)
    cases bytes with
    | nil => cases read
    | cons b bytes =>
      rw [decodeWithin] at read
      split at read
      · rename_i low
        obtain ⟨rfl, rfl⟩ := Prod.mk.inj (Option.some.inj read)
        exact ⟨.last low, by simp, by omega⟩
      · obtain ⟨⟨m, after⟩, others, parts⟩ := Option.map_eq_some_iff.1 read
        obtain ⟨rfl, rfl⟩ := Prod.mk.inj parts
        obtain ⟨spells, short, small⟩ := ih others
        have bound := b.toNat_lt
        exact ⟨.more (by omega) spells, Nat.succ_le_succ short, by omega⟩

/-- The reader takes just what is written for a number. -/
theorem written_iff : Written n bytes ↔ decode bytes = some (n, []) := by
  constructor
  · rintro ⟨spells, short, small⟩
    have read := spells.decodeWithin_eq short (by simpa [sizeLimit] using small) []
    rwa [List.append_nil] at read
  · intro read
    obtain ⟨spells, short, small⟩ := Spells.of_decodeWithin read
    exact ⟨spells, short, by simpa [sizeLimit] using small⟩

theorem Written.readVarint_eq (written : Written n bytes) (rest : Bytes) :
    readVarint (bytes ++ rest) = .ok (n, rest) := by
  have read : decode (bytes ++ rest) = some (n, rest) :=
    written.spells.decodeWithin_eq written.short (by simpa [sizeLimit] using written.small) rest
  rw [readVarint, read]

theorem Written.ne_nil (written : Written n bytes) : bytes ≠ [] := by
  rintro rfl
  cases written.spells

end Varint

/-! ## Fields that are not known -/

/-- Some bytes are the value of a field with a wire type. -/
inductive IsValue : WireType → Bytes → Prop where
  | varint {n : Nat} {bytes : Bytes} (written : Varint.Written n bytes) : IsValue .varint bytes
  | sixtyFourBit {bytes : Bytes} (size : bytes.length = 8) : IsValue .sixtyFourBit bytes
  | thirtyTwoBit {bytes : Bytes} (size : bytes.length = 4) : IsValue .thirtyTwoBit bytes
  | lengthDelimited {length bytes : Bytes} (written : Varint.Written bytes.length length) :
    IsValue .lengthDelimited (length ++ bytes)

/-- Some bytes are a field of which the number is not used. -/
inductive Stray (used : List Nat) : Bytes → Prop where
  | mk {number : Nat} {kind : WireType} {key value : Bytes} (positive : 0 < number)
    (small : number < 536_870_912) (unused : number ∉ used)
    (written : Varint.Written (8 * number + kind.number) key) (isValue : IsValue kind value) :
    Stray used (key ++ value)

theorem IsValue.skipField_eq {kind : WireType} {value : Bytes} (isValue : IsValue kind value)
    (depth number : Nat) (rest : Bytes) :
    skipField (depth + 1) kind number (value ++ rest) = .ok rest := by
  cases isValue with
  | varint written =>
    rw [skipField, written.readVarint_eq]
    rfl
  | sixtyFourBit size | thirtyTwoBit size =>
    rw [skipField, takeBytes_append size]
    rfl
  | @lengthDelimited length bytes written =>
    have read : readDelimited (length ++ (bytes ++ rest)) = .ok (bytes, rest) := by
      rw [readDelimited, written.readVarint_eq]
      exact takeBytes_append rfl rest
    rw [skipField, List.append_assoc, read]
    rfl

variable {M : Type} {step : M → Bytes → Except Fault (M × Bytes)} {used : List Nat}
  {chunk bytes : Bytes}

/-- A field that is not known has no effect, by any step that skips it. -/
theorem Stray.merges (stray : Stray used chunk) (depth : Nat)
    (skips : ∀ number kind m bytes rest after, number ∉ used →
      readKey bytes = .ok (number, kind, rest) →
      skipField (depth + 1) kind number rest = .ok after → step m bytes = .ok (m, after)) :
    Merges step chunk id := by
  obtain ⟨positive, small, unused, written, isValue⟩ := stray
  refine .of_step ?_ fun m rest => ?_
  · intro none
    exact written.ne_nil (List.append_eq_nil_iff.1 none).1
  · rw [List.append_assoc]
    exact skips _ _ m _ _ rest unused
      (readKey_of_readVarint positive small (written.readVarint_eq _)) (isValue.skipField_eq ..)

/-! ## Messages with strays -/

namespace Schema

variable {s : Schema M} {m : M}

/-- The numbers that a message uses. -/
def numbers (s : Schema M) : List Nat := s.fields.map (·.number)

/-- Some bytes are the fields of a message, with strays between them. -/
def Written (s : Schema M) (m : M) : Bytes → Prop :=
  Mixed (Stray s.numbers) (fun f chunk => chunk = f.encode m) s.fields

theorem written_encode (s : Schema M) (m : M) : s.Written m (s.encode m) :=
  Mixed.flatMap fun _ _ => rfl

theorem field?_of_unused {number : Nat} (unused : number ∉ s.numbers) : s.field? number = none := by
  rw [field?, List.find?_eq_none]
  intro f member same
  exact unused (List.mem_map.2 ⟨f, member, beq_iff_eq.1 same⟩)

theorem mergeValue_of_unused {number : Nat} (unused : number ∉ s.numbers) {depth : Nat}
    {kind : WireType} {rest after : Bytes} (skip : skipField depth kind number rest = .ok after) :
    s.mergeValue depth number kind m rest = .ok (m, after) := by
  rw [mergeValue, field?_of_unused unused]
  simp only [skip]

theorem Written.merges (written : s.Written m bytes) (lawful : s.Lawful)
    (small : bytes.length < sizeLimit) (depth : Nat) :
    Merges (s.mergeField (depth + 1)) bytes (s.merged m) := by
  refine merges_mixed lawful written small ?_ fun chunk stray => ?_
  · intro f member kind acc after bytes rest key merge
    exact mergeField_of_mem lawful member key merge
  · refine stray.merges depth fun number kind m bytes rest after unused key skip => ?_
    rw [mergeField, key]
    exact mergeValue_of_unused unused skip

end Schema

end Wire

/-! ## What counts of two messages -/

/-- The later of two values, unless it is zero. -/
def later {α : Type} [DecidableEq α] (zero first second : α) : α :=
  if second = zero then first else second

/-- One call with what counts of two. -/
def Call.join (c d : Call) : Call := ⟨later "" c.id d.id, later [] c.sessionInfo d.sessionInfo⟩

/-- One registration with what counts of two. -/
def Registration.join (r s : Registration) : Registration where
  id := later "" r.id s.id
  name := later "" r.name s.name
  signature := later "" r.signature s.signature
  version := later "" r.version s.version
  description := later "" r.description s.description
  state := later 0 r.state s.state

/-- One token with what counts of two. -/
def Token.join (t v : Token) : Token := ⟨later "" t.value v.value⟩

/-- One reconnect notice with what counts of two. -/
def Reconnect.join (n k : Reconnect) : Reconnect := ⟨later 0 n.seconds k.seconds⟩

/-- Payloads of one kind join, and of two kinds the later one counts. -/
def Payload.join : Payload → Payload → Payload
  | .call c, .call d => .call (c.join d)
  | .registration r, .registration s => .registration (r.join s)
  | .token t, .token v => .token (t.join v)
  | .reconnect n, .reconnect k => .reconnect (n.join k)
  | _, p => p

/-- One update with what counts of two. -/
def Update.join (u v : Update) : Update where
  kind := later 0 u.kind v.kind
  response := later 0 u.response v.response
  description := later "" u.description v.description
  payload :=
    match u.payload, v.payload with
    | p, none => p
    | none, some q => some q
    | some p, some q => some (p.join q)

namespace Wire

namespace Field

variable {M : Type} {number : Nat} {label : String} {m acc : M}

theorem merged_text {get : M → String} {set : String → M → M} (own : set (get acc) acc = acc) :
    merged ⟨number, label, .text get set⟩ m acc = set (later "" (get acc) (get m)) acc := by
  by_cases zero : get m = "" <;> simp [merged, isZero, put, later, zero, own]

theorem merged_blob {get : M → Bytes} {set : Bytes → M → M} (own : set (get acc) acc = acc) :
    merged ⟨number, label, .blob get set⟩ m acc = set (later [] (get acc) (get m)) acc := by
  by_cases zero : get m = [] <;> simp [merged, isZero, put, later, zero, own]

theorem merged_number {get : M → Int32} {set : Int32 → M → M} (own : set (get acc) acc = acc) :
    merged ⟨number, label, .number get set⟩ m acc = set (later 0 (get acc) (get m)) acc := by
  by_cases zero : get m = 0 <;> simp [merged, isZero, put, later, zero, own]

end Field

theorem merged_call (c d : Call) : call.merged d c = c.join d := by
  simp [Schema.merged, call, Field.merged_text, Field.merged_blob, Call.join]

theorem merged_registration (r s : Registration) : registration.merged s r = r.join s := by
  simp [Schema.merged, registration, Field.merged_text, Field.merged_number, Registration.join]

theorem merged_token (t v : Token) : token.merged v t = t.join v := by
  simp [Schema.merged, token, Field.merged_text, Token.join]

theorem merged_reconnect (n k : Reconnect) : reconnect.merged k n = n.join k := by
  simp [Schema.merged, reconnect, Field.merged_number, Reconnect.join]

theorem merged_envelope (u v : Update) : envelope.merged v u =
    { u.join v with payload := u.payload } := by
  simp [Schema.merged, envelope, Field.merged_text, Field.merged_number, Update.join]

/-! ## Updates -/

namespace Payload

variable {p : Payload} {body : Bytes}

/-- The numbers of the fields that hold a payload. -/
def numbers : List Nat := [10, 11, 12, 13]

/-- Some bytes are the fields of a payload, with strays between them. -/
def Written : Payload → Bytes → Prop
  | .call c => call.Written c
  | .registration r => registration.Written r
  | .token t => token.Written t
  | .reconnect n => reconnect.Written n

/-- Some bytes are the field of a payload. The length is that of all that stands in it. -/
def Carries (p : Payload) (chunk : Bytes) : Prop :=
  ∃ body, Written p body ∧
    chunk = encodeKey (number p) .lengthDelimited ++ encodeDelimited body

theorem carries_encode (p : Payload) : Carries p (encode p) := by
  refine ⟨body p, ?_, rfl⟩
  cases p <;> exact Schema.written_encode _ _

theorem Written.reads (written : Written p body) (small : body.length < sizeLimit) (depth : Nat) :
    Reads (depth + 1) p body := by
  cases p with
  | call c => exact Schema.Written.merges written lawful_call small depth
  | registration r => exact Schema.Written.merges written lawful_registration small depth
  | token t => exact Schema.Written.merges written lawful_token small depth
  | reconnect n => exact Schema.Written.merges written lawful_reconnect small depth

theorem merge?_of_unused {number : Nat} (unused : number ∉ numbers) (depth : Nat) (kind : WireType)
    (current : Option Payload) (bytes : Bytes) :
    merge? depth number kind current bytes = none := by
  unfold merge?
  split
  all_goals first | rfl | exact absurd (by decide) unused

theorem merged_some (p q : Payload) : merged q (some p) = p.join q := by
  cases p <;> cases q <;>
    simp [merged, Payload.join, merged_call, merged_registration, merged_token, merged_reconnect]

end Payload

namespace Update

variable {u v : Update} {bytes more chunk : Bytes}

/-- The numbers that an update uses. -/
def numbers : List Nat := envelope.numbers ++ Payload.numbers

/-- Some bytes are the fields of an update and its payload, with strays between them. -/
inductive Written (u : Update) : Bytes → Prop where
  | mk {front back : Bytes}
    (fields : Mixed (Stray numbers) (fun f chunk => chunk = f.encode u) envelope.fields front)
    (payload : Mixed (Stray numbers) Payload.Carries u.payload.toList back) :
    Written u (front ++ back)

theorem written_encode (u : Update) : Written u (encode u) := by
  refine .mk (Mixed.flatMap fun _ _ => rfl) ?_
  cases u.payload with
  | none => exact .nil
  | some p =>
    have alone : Mixed (Stray numbers) Payload.Carries [p] (Payload.encode p ++ []) :=
      .part (Payload.carries_encode p) .nil
    rwa [List.append_nil] at alone

theorem merges_stray (stray : Stray numbers chunk) : Merges mergeField chunk id := by
  refine stray.merges (depthLimit - 1) fun number kind m bytes rest after unused key skip => ?_
  obtain ⟨simple, noPayload⟩ := not_or.1 (mt List.mem_append.2 unused)
  rw [mergeField, key]
  simp only [Payload.merge?_of_unused noPayload]
  exact Schema.mergeValue_of_unused simple skip

theorem merged_eq_join (u v : Update) : merged v u = u.join v := by
  rw [merged, merged_envelope]
  cases carried : v.payload with
  | none => simp [Update.join, carried]
  | some q =>
    cases held : u.payload with
    | none => cases q <;> simp [Update.join, carried, held, Payload.merged]
    | some p => simp [Update.join, carried, held, Payload.merged_some]

/-- What an update was made of has the effect of joining it to the one at hand. -/
theorem Written.merges (written : Written u bytes) (small : bytes.length < sizeLimit) :
    Merges mergeField bytes fun acc => acc.join u := by
  obtain @⟨front, back, fields, payload⟩ := written
  rw [List.length_append] at small
  have first : Merges mergeField front (envelope.merged u) := by
    refine Schema.merges_mixed lawful_envelope fields (by omega) ?_ fun _ stray =>
      merges_stray stray
    intro f member kind acc after bytes rest key merge
    exact mergeField_of_mem member key merge
  have second : Merges mergeField back fun v => u.payload.toList.foldl
      (fun v p => { v with payload := some (Payload.merged p v.payload) }) v := by
    refine payload.merges (by omega) ?_ fun chunk stray => merges_stray stray
    rintro p - _ ⟨body, filled, rfl⟩ short
    rw [encodeDelimited, List.length_append, List.length_append] at short
    exact merges_payload (filled.reads (by omega) _) (by omega)
  have effect : (fun acc : Update => acc.join u) =
      (fun v : Update => u.payload.toList.foldl
        (fun v p => { v with payload := some (Payload.merged p v.payload) }) v)
      ∘ envelope.merged u := by
    funext acc
    rw [← merged_eq_join, merged]
    cases u.payload <;> rfl
  rw [effect]
  exact first.append second

theorem blank_join (u : Update) : envelope.blank.join u = u := by
  rw [← merged_eq_join, merged_blank]

theorem decode_written (written : Written u bytes) (small : bytes.length < sizeLimit) :
    decode bytes = .ok u := by
  rw [decode_of_merges (written.merges small), blank_join]

theorem decode_append (first : Written u bytes) (second : Written v more)
    (small : bytes.length < sizeLimit) (small' : more.length < sizeLimit) :
    decode (bytes ++ more) = .ok (u.join v) := by
  rw [decode_of_merges ((first.merges small).append (second.merges small')), Function.comp_apply,
    blank_join]

/-- Encoded updates behind each other are read as what counts of them. An encoded update with strays
in it is read as without them, alone and behind another one. -/
theorem tolerates :
    (∀ u v : Update, (encode u).length < sizeLimit → (encode v).length < sizeLimit →
      decode (encode u ++ encode v) = .ok (u.join v)) ∧
    (∀ (u : Update) (bytes : Bytes), Written u bytes → bytes.length < sizeLimit →
      decode bytes = .ok u ∧
        ((encode u).length < sizeLimit → decode bytes = decode (encode u))) ∧
    ∀ (u v : Update) (bytes more : Bytes), Written u bytes → Written v more →
      bytes.length < sizeLimit → more.length < sizeLimit →
        decode (bytes ++ more) = .ok (u.join v) := by
  refine ⟨fun u v small small' => ?_, fun u bytes written small => ?_, ?_⟩
  · exact decode_append (written_encode u) (written_encode v) small small'
  · refine ⟨decode_written written small, fun small' => ?_⟩
    rw [decode_written written small, decode_encode small']
  · intro u v bytes more first second small small'
    exact decode_append first second small small'

/-- A field of four bytes with its number spelled in one byte too many, in front of a negative kind,
and a zero in two bytes behind the text of a token. -/
theorem tolerates_spellings :
    let u : Update := ⟨-7, 0, "", some (.token ⟨"t"⟩)⟩
    let v : Update := ⟨0, 2, "", some (.token ⟨""⟩)⟩
    let bytes : Bytes := [0x9d, 0x86, 0x00, 1, 2, 3, 4,
      0x08, 0xf9, 0xff, 0xff, 0xff, 0xff, 0xff, 0xff, 0xff, 0xff, 0x01,
      0x62, 0x06, 0x0a, 0x01, 0x74, 0x78, 0x80, 0x00]
    Written u bytes ∧ decode bytes = .ok u ∧
      decode (encode u ++ encode v) = .ok ⟨-7, 2, "", some (.token ⟨"t"⟩)⟩ ∧
      decode (bytes ++ encode v) = .ok ⟨-7, 2, "", some (.token ⟨"t"⟩)⟩ := by
  intro u v bytes
  have key : Varint.Written (8 * 99 + WireType.thirtyTwoBit.number) [0x9d, 0x86, 0x00] :=
    Varint.written_iff.2 (by decide)
  have four : Stray numbers ([0x9d, 0x86, 0x00] ++ [1, 2, 3, 4]) :=
    .mk (by decide) (by decide) (by decide) key (.thirtyTwoBit rfl)
  have key' : Varint.Written (8 * 15 + WireType.varint.number) [0x78] :=
    Varint.written_iff.2 (by decide)
  have zero : Varint.Written 0 [0x80, 0x00] := Varint.written_iff.2 (by decide)
  have two : Stray token.numbers ([0x78] ++ [0x80, 0x00]) :=
    .mk (by decide) (by decide) (by decide) key' (.varint zero)
  have fields : Mixed (Stray numbers) (fun f chunk => chunk = f.encode u) envelope.fields _ :=
    .stray four (.part rfl (.part rfl (.part rfl .nil)))
  have filled : Payload.Written (.token ⟨"t"⟩) _ := .part rfl (.stray two .nil)
  have payload : Mixed (Stray numbers) Payload.Carries u.payload.toList _ :=
    .part ⟨_, filled, rfl⟩ .nil
  have written : Written u bytes := by
    refine cast (congrArg (Written u) ?_) (Written.mk fields payload)
    decide
  have small : bytes.length < sizeLimit := by decide
  have small₁ : (encode u).length < sizeLimit := by decide
  have small₂ : (encode v).length < sizeLimit := by decide
  obtain ⟨append, alone, both⟩ := tolerates
  exact ⟨written, (alone u bytes written small).1, append u v small₁ small₂,
    both u v bytes _ written (written_encode v) small small₂⟩

end Update

end Wire

end FunctionAgent
