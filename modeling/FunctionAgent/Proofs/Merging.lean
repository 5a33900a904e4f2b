import FunctionAgent.Wire.Schema
/-!
# What reading an encoded message does

Reading merges: a field that was written replaces the value at hand, and one that was left out,
being zero, leaves it as it is (`Schema.merged`). `Merges step chunk f` says that reading a chunk
of bytes has the effect `f` on the message at hand, wherever the chunk stands; it holds of an
encoded field, and from there of the fields of a message one after the other, also with chunks
between them that have no effect (`Mixed`). A length is written as a number of 64 bits, so all this
is about values whose encoded form is shorter than that.
-/

set_option autoImplicit false

namespace FunctionAgent.Wire

/-- Lengths are numbers of 64 bits. -/
def sizeLimit : Nat := 18_446_744_073_709_551_616

theorem ofWord_wordOf (n : Int32) : ofWord (wordOf n) = n := by
  have low := n.le_toInt
  have high := n.toInt_lt
  apply Int32.toInt_inj.1
  rw [ofWord, Int32.toInt_ofNat', wordOf, Int.toNat_of_nonneg (by omega), Int.bmod_def]
  simp only [Int32.size]
  omega

theorem ofUtf8?_utf8 (s : String) : ofUtf8? (utf8 s) = some s := by
  have bytes : (utf8 s).toByteArray = s.toUTF8 := by
    apply ByteArray.ext
    simp [utf8]
  have valid : s.toUTF8.IsValidUTF8 := s.isValidUTF8
  rw [ofUtf8?, bytes, String.fromUTF8?, dif_pos valid]
  rfl

section Reading

variable {n number : Nat} {kind : WireType} {bytes rest : Bytes}

theorem readVarint_encode (small : n < sizeLimit) (rest : Bytes) :
    readVarint (Varint.encode n ++ rest) = .ok (n, rest) := by
  rw [readVarint, Varint.decode_encode rest small]

/-- Bytes that are read as the number of a key are read as this key. -/
theorem readKey_of_readVarint (positive : 0 < number) (small : number < 536_870_912)
    (read : readVarint bytes = .ok (8 * number + kind.number, rest)) :
    readKey bytes = .ok (number, kind, rest) := by
  have low : kind.number < 8 := by cases kind <;> decide
  have key : 8 * number + kind.number < 4_294_967_296 := by omega
  have type : (8 * number + kind.number) % 8 = kind.number := by omega
  have field : (8 * number + kind.number) / 8 = number := by omega
  simp only [readKey, read, type, field, WireType.ofNumber?_number]
  rw [if_neg (by omega), if_neg (by omega)]

theorem readKey_encodeKey (positive : 0 < number) (small : number < 536_870_912)
    (kind : WireType) (rest : Bytes) :
    readKey (encodeKey number kind ++ rest) = .ok (number, kind, rest) := by
  have low : kind.number < 8 := by cases kind <;> decide
  have wide : 8 * number + kind.number < sizeLimit := by
    rw [sizeLimit]
    omega
  exact readKey_of_readVarint positive small (readVarint_encode wide rest)

theorem takeBytes_append (size : bytes.length = n) (rest : Bytes) :
    takeBytes n (bytes ++ rest) = .ok (bytes, rest) := by
  have enough : ¬(bytes ++ rest).length < n := by
    rw [List.length_append]
    omega
  rw [takeBytes, if_neg enough, ← size, List.take_left, List.drop_left]

theorem readDelimited_encodeDelimited (small : bytes.length < sizeLimit) (rest : Bytes) :
    readDelimited (encodeDelimited bytes ++ rest) = .ok (bytes, rest) := by
  rw [encodeDelimited, List.append_assoc, readDelimited, readVarint_encode small]
  exact takeBytes_append rfl rest

end Reading

/-! ## Chunks of bytes with an effect -/

section Merges

variable {M : Type} {step : M → Bytes → Except Fault (M × Bytes)} {chunk more : Bytes} {f g : M → M}

/-- Reading a chunk has an effect on the message at hand, whatever stands behind the chunk. -/
def Merges (step : M → Bytes → Except Fault (M × Bytes)) (chunk : Bytes) (f : M → M) : Prop :=
  ∀ (limit fuel : Nat) (m : M) (rest : Bytes), limit ≤ rest.length →
    (chunk ++ rest).length ≤ limit + fuel →
    ∃ left, rest.length ≤ limit + left ∧
      mergeUntil step limit fuel m (chunk ++ rest) = mergeUntil step limit left (f m) rest

theorem Merges.nil (step : M → Bytes → Except Fault (M × Bytes)) : Merges step [] id :=
  fun _ fuel _ _ _ enough => ⟨fuel, enough, rfl⟩

theorem Merges.append (first : Merges step chunk f) (second : Merges step more g) :
    Merges step (chunk ++ more) (g ∘ f) := by
  intro limit fuel m rest short enough
  rw [List.append_assoc] at enough ⊢
  have inside : limit ≤ (more ++ rest).length := by
    rw [List.length_append]
    omega
  obtain ⟨left, enough, here⟩ := first limit fuel m (more ++ rest) inside enough
  obtain ⟨left', enough', there⟩ := second limit left (f m) rest short enough
  exact ⟨left', enough', here.trans there⟩

/-- A chunk that is read in one step. -/
theorem Merges.of_step (some : chunk ≠ [])
    (taken : ∀ m rest, step m (chunk ++ rest) = .ok (f m, rest)) : Merges step chunk f := by
  intro limit fuel m rest short enough
  have size : 0 < chunk.length := List.length_pos_iff.2 some
  rw [List.length_append] at enough
  cases fuel with
  | zero => omega
  | succ fuel =>
    refine ⟨fuel, by omega, ?_⟩
    have inside : limit < (chunk ++ rest).length := by
      rw [List.length_append]
      omega
    rw [mergeUntil, if_pos inside]
    simp only [taken]

/-- A chunk that stands in front of the limit is read to its end and no further. -/
theorem Merges.upTo (merges : Merges step chunk f) (m : M) (rest : Bytes) {fuel : Nat}
    (enough : chunk.length ≤ fuel) :
    mergeUntil step rest.length fuel m (chunk ++ rest) = .ok (f m, rest) := by
  have size : (chunk ++ rest).length ≤ rest.length + fuel := by
    rw [List.length_append]
    omega
  obtain ⟨left, -, same⟩ := merges rest.length fuel m rest (Nat.le_refl _) size
  rw [same]
  cases left with
  | zero => rw [mergeUntil, if_pos rfl]
  | succ left => rw [mergeUntil, if_neg (Nat.lt_irrefl _), if_pos rfl]

end Merges

/-! ## Parts with strays between them -/

section Mixed

variable {M α : Type} {step : M → Bytes → Except Fault (M × Bytes)} {stray : Bytes → Prop}
  {writes : α → Bytes → Prop} {parts : List α} {bytes : Bytes}

/-- Some parts are written one after the other, with strays between them. -/
inductive Mixed (stray : Bytes → Prop) (writes : α → Bytes → Prop) : List α → Bytes → Prop where
  | nil : Mixed stray writes [] []
  | part {a : α} {parts : List α} {chunk bytes : Bytes} (written : writes a chunk)
    (others : Mixed stray writes parts bytes) : Mixed stray writes (a :: parts) (chunk ++ bytes)
  | stray {parts : List α} {chunk bytes : Bytes} (here : stray chunk)
    (others : Mixed stray writes parts bytes) : Mixed stray writes parts (chunk ++ bytes)

/-- The parts have their effects one after the other, and the strays have none. -/
theorem Mixed.merges {effect : α → M → M} (mixed : Mixed stray writes parts bytes)
    (small : bytes.length < sizeLimit)
    (each : ∀ a ∈ parts, ∀ chunk, writes a chunk → chunk.length < sizeLimit →
      Merges step chunk (effect a))
    (skips : ∀ chunk, stray chunk → Merges step chunk id) :
    Merges step bytes fun m => parts.foldl (fun m a => effect a m) m := by
  induction mixed with
  | nil => exact .nil step
  | @part a parts chunk bytes written _ ih =>
    rw [List.length_append] at small
    have first := each a List.mem_cons_self chunk written (by omega)
    exact first.append (ih (by omega) fun b member => each b (List.mem_cons_of_mem a member))
  | stray here _ ih =>
    rw [List.length_append] at small
    exact (skips _ here).append (ih (by omega) each)

/-- Without strays the parts stand side by side. -/
theorem Mixed.flatMap {write : α → Bytes} (written : ∀ a ∈ parts, writes a (write a)) :
    Mixed stray writes parts (parts.flatMap write) := by
  induction parts with
  | nil => exact .nil
  | cons a parts ih =>
    rw [List.flatMap_cons]
    exact .part (written a List.mem_cons_self)
      (ih fun b member => written b (List.mem_cons_of_mem a member))

end Mixed

/-! ## Fields -/

namespace Field

variable {M : Type} {f : Field M} {m : M}

/-- Whether the field has the zero value of its kind. -/
def isZero (f : Field M) (m : M) : Bool :=
  match f.slot with
  | .text get _ => get m == ""
  | .blob get _ => get m == []
  | .number get _ => get m == 0

/-- The message `acc` with the value that the field has in `m`. -/
def put (f : Field M) (m acc : M) : M :=
  match f.slot with
  | .text get set => set (get m) acc
  | .blob get set => set (get m) acc
  | .number get set => set (get m) acc

/-- The message `acc` after the field of `m` was merged into it. -/
def merged (f : Field M) (m acc : M) : M := if f.isZero m then acc else f.put m acc

/-- Of two messages in which a field is zero it does not matter which one it is taken from. -/
theorem put_of_isZero {n : M} (first : f.isZero m = true) (second : f.isZero n = true) (acc : M) :
    f.put m acc = f.put n acc := by
  obtain ⟨number, label, slot⟩ := f
  cases slot with
  | text get set | blob get set | number get set =>
    exact congrArg (set · acc) ((beq_iff_eq.1 first).trans (beq_iff_eq.1 second).symm)

theorem encode_of_isZero (zero : f.isZero m = true) : f.encode m = [] := by
  obtain ⟨number, label, slot⟩ := f
  cases slot with
  | text get set | blob get set | number get set => exact if_pos (beq_iff_eq.1 zero)

/-- The wire type of a field. -/
def kind (f : Field M) : WireType :=
  match f.slot with
  | .text _ _ | .blob _ _ => .lengthDelimited
  | .number _ _ => .varint

/-- A field that is written is a key and a value that reads back. -/
theorem encode_of_not_isZero (some : f.isZero m = false) (small : (f.encode m).length < sizeLimit) :
    ∃ value, f.encode m = encodeKey f.number f.kind ++ value ∧
      ∀ acc rest, f.merge f.kind acc (value ++ rest) = .ok (f.put m acc, rest) := by
  obtain ⟨number, label, slot⟩ := f
  cases slot with
  | text get set =>
    have written : encode ⟨number, label, .text get set⟩ m
        = encodeKey number .lengthDelimited ++ encodeDelimited (utf8 (get m)) :=
      if_neg (beq_eq_false_iff_ne.1 some)
    rw [written, encodeDelimited, List.length_append, List.length_append] at small
    refine ⟨_, written, fun acc rest => ?_⟩
    have short : (utf8 (get m)).length < sizeLimit := by omega
    have read := readDelimited_encodeDelimited short rest
    simp [merge, put, kind, expect, read, ofUtf8?_utf8, bind, Except.bind]
  | blob get set =>
    have written : encode ⟨number, label, .blob get set⟩ m
        = encodeKey number .lengthDelimited ++ encodeDelimited (get m) :=
      if_neg (beq_eq_false_iff_ne.1 some)
    rw [written, encodeDelimited, List.length_append, List.length_append] at small
    refine ⟨_, written, fun acc rest => ?_⟩
    have short : (get m).length < sizeLimit := by omega
    have read := readDelimited_encodeDelimited short rest
    simp [merge, put, kind, expect, read, bind, Except.bind]
  | number get set =>
    have written : encode ⟨number, label, .number get set⟩ m
        = encodeKey number .varint ++ Varint.encode (wordOf (get m)) :=
      if_neg (beq_eq_false_iff_ne.1 some)
    refine ⟨_, written, fun acc rest => ?_⟩
    have read := readVarint_encode (wordOf_lt (get m)) rest
    simp [merge, put, kind, expect, read, ofWord_wordOf, bind, Except.bind]

end Field

/-! ## Messages of simple fields -/

namespace Schema

variable {M : Type} {s : Schema M} {m : M}

/-- The message `acc` after `m` was merged into it: what `m` leaves at zero stays. -/
def merged (s : Schema M) (m acc : M) : M := s.fields.foldl (fun acc f => f.merged m acc) acc

/-- What is asked of the fields of a schema. -/
structure Lawful (s : Schema M) : Prop where
  numbers : ∀ f ∈ s.fields, 0 < f.number ∧ f.number < 536_870_912
  /-- No two fields share a number. -/
  found : ∀ f ∈ s.fields, s.field? f.number = some f
  blank : ∀ f ∈ s.fields, f.isZero s.blank = true
  own : ∀ f ∈ s.fields, ∀ m, f.put m m = m
  /-- A field does not touch those behind it. -/
  apart : s.fields.Pairwise fun f g => ∀ m acc, g.isZero (f.put m acc) = g.isZero acc

/-- The fields of a message are all there is to it. -/
def Whole (s : Schema M) : Prop := ∀ m, s.fields.foldl (fun acc f => f.put m acc) s.blank = m

/-- Merging into zero fields puts every field. -/
theorem foldl_merged {fields : List (Field M)} {acc : M}
    (own : ∀ f ∈ fields, ∀ m, f.put m m = m)
    (apart : fields.Pairwise fun f g => ∀ m acc, g.isZero (f.put m acc) = g.isZero acc)
    (blank : ∀ f ∈ fields, f.isZero acc = true) (m : M) :
    fields.foldl (fun acc f => f.merged m acc) acc
      = fields.foldl (fun acc f => f.put m acc) acc := by
  induction fields generalizing acc with
  | nil => rfl
  | cons f rest ih =>
    obtain ⟨first, others⟩ := List.pairwise_cons.1 apart
    have here : f.merged m acc = f.put m acc := by
      unfold Field.merged
      split
      · rename_i none
        have same := Field.put_of_isZero none (blank f List.mem_cons_self) acc
        exact (same.trans (own f List.mem_cons_self acc)).symm
      · rfl
    rw [List.foldl_cons, List.foldl_cons, here]
    -- The fields behind this one are still zero, since it does not touch them.
    refine ih (fun g member => own g (List.mem_cons_of_mem _ member)) others fun g member => ?_
    rw [first g member]
    exact blank g (List.mem_cons_of_mem _ member)

theorem Lawful.merged_blank (lawful : s.Lawful) (m : M) :
    s.merged m s.blank = s.fields.foldl (fun acc f => f.put m acc) s.blank :=
  foldl_merged lawful.own lawful.apart lawful.blank m

/-- One field of a message merges, by any step that reads this field as the schema does. -/
theorem merges_field {f : Field M} {step : M → Bytes → Except Fault (M × Bytes)}
    (number : 0 < f.number ∧ f.number < 536_870_912) (small : (f.encode m).length < sizeLimit)
    (reads : ∀ kind acc after bytes rest, readKey bytes = .ok (f.number, kind, rest) →
      f.merge kind acc rest = .ok after → step acc bytes = .ok after) :
    Merges step (f.encode m) (f.merged m) := by
  cases zero : f.isZero m with
  | true =>
    have same : f.merged m = id := by
      funext acc
      rw [Field.merged, if_pos zero]
      rfl
    rw [Field.encode_of_isZero zero, same]
    exact .nil step
  | false =>
    have same : f.merged m = f.put m := by
      funext acc
      rw [Field.merged, zero]
      rfl
    obtain ⟨value, written, back⟩ := Field.encode_of_not_isZero zero small
    rw [written, same]
    refine .of_step ?_ fun acc rest => ?_
    · intro none
      exact Varint.encode_ne_nil _ (List.append_eq_nil_iff.1 none).1
    · rw [List.append_assoc]
      exact reads _ _ _ _ _ (readKey_encodeKey number.1 number.2 _ _) (back acc rest)

/-- The fields of a message merge, by any step that reads them as the schema does and skips what
stands between them. -/
theorem merges_mixed {step : M → Bytes → Except Fault (M × Bytes)} {stray : Bytes → Prop}
    {bytes : Bytes} (lawful : s.Lawful)
    (mixed : Mixed stray (fun f chunk => chunk = f.encode m) s.fields bytes)
    (small : bytes.length < sizeLimit)
    (reads : ∀ f ∈ s.fields, ∀ kind acc after bytes rest,
      readKey bytes = .ok (f.number, kind, rest) → f.merge kind acc rest = .ok after →
        step acc bytes = .ok after)
    (skips : ∀ chunk, stray chunk → Merges step chunk id) :
    Merges step bytes (s.merged m) := by
  refine mixed.merges small ?_ skips
  rintro f member _ rfl short
  exact merges_field (lawful.numbers f member) short (reads f member)

/-- An encoded message merges, by any step that reads its fields as the schema does. -/
theorem merges_encode {step : M → Bytes → Except Fault (M × Bytes)} (lawful : s.Lawful)
    (small : (s.encode m).length < sizeLimit)
    (reads : ∀ f ∈ s.fields, ∀ kind acc after bytes rest,
      readKey bytes = .ok (f.number, kind, rest) → f.merge kind acc rest = .ok after →
        step acc bytes = .ok after) :
    Merges step (s.encode m) (s.merged m) := by
  have alone : Mixed (fun _ => False) (fun f chunk => chunk = f.encode m) s.fields (s.encode m) :=
    .flatMap fun _ _ => rfl
  exact merges_mixed lawful alone small reads fun _ none => none.elim

theorem mergeValue_of_mem {f : Field M} (lawful : s.Lawful) (member : f ∈ s.fields)
    {depth : Nat} {kind : WireType} {acc : M} {bytes : Bytes} {after : M × Bytes}
    (merge : f.merge kind acc bytes = .ok after) :
    s.mergeValue depth f.number kind acc bytes = .ok after := by
  rw [mergeValue, lawful.found f member]
  simp only [merge]

theorem mergeField_of_mem {f : Field M} (lawful : s.Lawful) (member : f ∈ s.fields)
    {depth : Nat} {kind : WireType} {acc : M} {bytes rest : Bytes} {after : M × Bytes}
    (key : readKey bytes = .ok (f.number, kind, rest)) (merge : f.merge kind acc rest = .ok after) :
    s.mergeField depth acc bytes = .ok after := by
  rw [mergeField, key]
  exact mergeValue_of_mem lawful member merge

theorem merges (lawful : s.Lawful) (small : (s.encode m).length < sizeLimit) (depth : Nat) :
    Merges (s.mergeField depth) (s.encode m) (s.merged m) :=
  merges_encode lawful small fun _ member _ _ _ _ _ key merge =>
    mergeField_of_mem lawful member key merge

/-- What is read as fields is read behind its length too. -/
theorem mergeNested_of_merges {depth : Nat} {body : Bytes} {f : M → M}
    (reads : Merges (s.mergeField depth) body f) (small : body.length < sizeLimit) (acc : M)
    (rest : Bytes) :
    s.mergeNested depth .lengthDelimited acc (encodeDelimited body ++ rest)
      = .ok (f acc, rest) := by
  have size : (body ++ rest).length = body.length + rest.length := List.length_append
  rw [mergeNested, encodeDelimited, List.append_assoc, readVarint_encode small]
  simp only [expect, if_pos]
  have left : (body ++ rest).length - body.length = rest.length := by omega
  rw [if_neg (by omega), left]
  exact reads.upTo acc rest (by omega)

/-- What a whole input has the effect of, it has on the zero values. -/
theorem decode_of_merges {bytes : Bytes} {f : M → M}
    (reads : Merges (s.mergeField depthLimit) bytes f) : s.decode bytes = .ok (f s.blank) := by
  have read := reads.upTo s.blank [] (Nat.le_refl _)
  rw [List.append_nil] at read
  rw [decode, show (0 : Nat) = ([] : Bytes).length from rfl, read]
  rfl

/-- A message reads back. -/
theorem decode_encode (lawful : s.Lawful) (whole : s.Whole)
    (small : (s.encode m).length < sizeLimit) : s.decode (s.encode m) = .ok m := by
  rw [decode_of_merges (merges lawful small depthLimit), lawful.merged_blank, whole]

end Schema

end FunctionAgent.Wire
