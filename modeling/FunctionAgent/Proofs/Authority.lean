import FunctionAgent.Channel.Address
import FunctionAgent.Proofs.Encryption
import FunctionAgent.Proofs.Starting
/-!
# Whom a host names

A host names an authority. By the grammar of addresses the scheme in front of it, if there is one,
is a letter with letters, digits, `+`, `-` and `.` behind it, up to a separator (`HasScheme`).
Settings are made by looking for the first separator, wherever it stands (`Cut`). The two agree on
a host that begins with a scheme and on one without any separator, and there the address names whom
the host names. A host without a scheme that holds a separator further on is cut there, and its
authority is lost.
-/

set_option autoImplicit false

namespace FunctionAgent

open FunctionAgent.Text

namespace Address

/-- The bytes that the reader of addresses takes for the authority. -/
def Names (bytes authority : List UInt8) : Prop :=
  ∃ n rest, scheme? bytes = some n ∧ bytes.drop (n + separator.length) = authority ++ rest ∧
    Authority.empty.rest? (authority ++ rest) = some rest

/-- An authority ends at the first delimiter. -/
theorem Authority.rest?_eq {a : Authority} {bytes rest : List UInt8}
    (read : a.rest? bytes = some rest) : rest = bytes.dropWhile fun b => !isDelimiter b := by
  induction bytes generalizing a with
  | nil =>
    rw [Authority.rest?] at read
    split at read
    · exact (Option.some.inj read).symm
    · cases read
  | cons b bytes ih =>
    rw [Authority.rest?] at read
    split at read
    · rename_i delimiter
      rw [List.dropWhile_cons_of_neg (by simp [delimiter])]
      split at read
      · exact (Option.some.inj read).symm
      · cases read
    · rename_i inside
      obtain ⟨next, -, later⟩ := Option.bind_eq_some_iff.1 read
      rw [List.dropWhile_cons_of_pos (by simp [inside])]
      exact ih later

/-- A valid address that begins with a scheme names what stands behind it, up to a delimiter. -/
theorem names_of_isValidBytes {bytes : List UInt8} {n : Nat} (valid : isValidBytes bytes = true)
    (start : bytes.head? = some 0x68) (scheme : scheme? bytes = some n) :
    Names bytes ((bytes.drop (n + separator.length)).takeWhile fun b => !isDelimiter b) := by
  have mark {b : UInt8} (other : some b ≠ some 0x68) : bytes ≠ [b] := by
    rintro rfl
    exact other start
  have noSlash : bytes ≠ ascii "/" := mark (by decide)
  have noStar : bytes ≠ ascii "*" := mark (by decide)
  have absolute : bytes.head? ≠ some 0x2f := by
    rw [start]
    decide
  simp only [isValidBytes, noSlash, noStar, absolute, scheme] at valid
  cases read : Authority.empty.rest? (bytes.drop (n + separator.length)) with
  | none => simp [read] at valid
  | some rest =>
    have whole := List.takeWhile_append_dropWhile (p := fun b => !isDelimiter b)
      (l := bytes.drop (n + separator.length))
    rw [← Authority.rest?_eq read] at whole
    exact ⟨n, rest, scheme, whole.symm, whole.symm ▸ read⟩

end Address

namespace ChannelSettings

variable {address front rest scheme : List Char}

/-! ## The first separator -/

/-- What is left of an address behind its first separator, or all of it if it holds none. -/
inductive Cut : (address rest : List Char) → Prop where
  | whole {address : List Char} (none : ¬separator <:+: address) : Cut address address
  | behind {front rest : List Char} (first : ¬separator <:+: front ++ separator.dropLast) :
    Cut (front ++ separator ++ rest) rest

theorem separator_length : separator.length = 3 := rfl

theorem take_eq_separator_iff :
    address.take separator.length = separator ↔ separator <+: address := by
  rw [List.prefix_iff_eq_take, eq_comm]

theorem behindScheme?_cons (c : Char) (cs : List Char) : behindScheme? (c :: cs) =
    if separator <+: c :: cs then some ((c :: cs).drop separator.length) else behindScheme? cs := by
  simp only [behindScheme?, take_eq_separator_iff]

theorem behindScheme?_eq_none_iff : behindScheme? address = none ↔ ¬separator <:+: address := by
  induction address with
  | nil => exact iff_of_true rfl (by decide)
  | cons c cs ih =>
    rw [behindScheme?_cons, List.infix_cons_iff, not_or]
    split
    · rename_i here
      exact iff_of_false (by simp) fun none => none.1 here
    · rename_i later
      rw [ih]
      exact (and_iff_right later).symm

theorem behindScheme?_first (first : ¬separator <:+: front ++ separator.dropLast) :
    behindScheme? (front ++ separator ++ rest) = some rest := by
  induction front with
  | nil => rfl
  | cons c front ih =>
    have later : ¬separator <:+: front ++ separator.dropLast := fun inside =>
      first (List.infix_cons_iff.2 (.inr inside))
    have notHere : ¬separator <+: c :: (front ++ separator ++ rest) := by
      intro here
      -- It would end in front of the last character of the separator behind `front`.
      have parts : c :: (front ++ separator ++ rest)
          = (c :: front ++ separator.dropLast) ++ '/' :: rest := by simp [separator]
      have short : separator.length ≤ (c :: front ++ separator.dropLast).length := by
        simp [separator]
      rw [parts] at here
      exact first (List.prefix_of_prefix_length_le here (List.prefix_append _ _) short).isInfix
    rw [List.cons_append, List.cons_append, behindScheme?_cons, if_neg notHere]
    exact ih later

/-- What stands behind a separator, stands behind the first one. -/
theorem exists_first (found : behindScheme? address = some rest) : ∃ front,
    ¬separator <:+: front ++ separator.dropLast ∧ address = front ++ separator ++ rest := by
  induction address with
  | nil => cases found
  | cons c cs ih =>
    rw [behindScheme?_cons] at found
    split at found
    · rename_i here
      obtain ⟨more, parts⟩ := here
      obtain rfl := Option.some.inj found
      refine ⟨[], by decide, ?_⟩
      rw [← parts, List.drop_left, List.nil_append]
    · rename_i notHere
      obtain ⟨front, first, parts⟩ := ih found
      refine ⟨c :: front, ?_, by rw [parts]; rfl⟩
      rw [List.cons_append, List.infix_cons_iff]
      rintro (here | later)
      · refine notHere (here.trans ?_)
        rw [parts]
        exact ⟨'/' :: rest, by simp [separator]⟩
      · exact first later

theorem remainder_eq_iff : remainder address = rest ↔ Cut address rest := by
  constructor
  · rintro rfl
    unfold remainder
    cases found : behindScheme? address with
    | none => exact .whole (behindScheme?_eq_none_iff.1 found)
    | some rest =>
      obtain ⟨front, first, parts⟩ := exists_first found
      rw [parts]
      exact .behind first
  · intro cut
    cases cut with
    | whole none =>
      rw [remainder, behindScheme?_eq_none_iff.2 none]
      rfl
    | behind first =>
      rw [remainder, behindScheme?_first first]
      rfl

/-- An address is left whole just if it holds no separator. -/
theorem remainder_eq_self_iff : remainder address = address ↔ ¬separator <:+: address := by
  rw [← behindScheme?_eq_none_iff, remainder]
  cases found : behindScheme? address with
  | none => exact iff_of_true rfl rfl
  | some rest =>
    obtain ⟨front, -, parts⟩ := exists_first found
    refine iff_of_false (fun same => ?_) (Option.some_ne_none _)
    have size := congrArg List.length (parts.symm.trans same.symm)
    simp only [Option.getD_some, List.length_append, separator_length] at size
    omega

/-! ## Schemes -/

/-- A character of a scheme behind its first letter. -/
def isSchemeChar (c : Char) : Bool := c.isAlphanum || c == '+' || c == '-' || c == '.'

/-- Whether some characters are a scheme. -/
def isScheme : List Char → Bool
  | [] => false
  | c :: cs => c.isAlpha && cs.all isSchemeChar

/-- Whether an address begins with a scheme and a separator. -/
def HasScheme (address : List Char) : Prop :=
  ∃ scheme rest, isScheme scheme = true ∧ address = scheme ++ separator ++ rest

theorem isSchemeChar_of_mem (valid : isScheme scheme = true) {c : Char} (member : c ∈ scheme) :
    isSchemeChar c = true := by
  cases scheme with
  | nil => cases valid
  | cons d others =>
    obtain ⟨letter, all⟩ := (Bool.and_eq_true_iff).1 valid
    rcases List.mem_cons.1 member with rfl | later
    · simp [isSchemeChar, Char.isAlphanum, letter]
    · exact List.all_eq_true.1 all c later

/-- The characters of a scheme are in front of the separator, and no others. -/
theorem span_scheme (valid : isScheme scheme = true) (rest : List Char) :
    (scheme ++ separator ++ rest).takeWhile isSchemeChar = scheme ∧
      (scheme ++ separator ++ rest).dropWhile isSchemeChar = separator ++ rest := by
  have inside : ∀ c ∈ scheme, isSchemeChar c = true := fun c => isSchemeChar_of_mem valid
  rw [List.append_assoc, List.takeWhile_append_of_pos inside, List.dropWhile_append_of_pos inside]
  exact ⟨List.append_nil scheme, rfl⟩

theorem hasScheme_iff : HasScheme address ↔ isScheme (address.takeWhile isSchemeChar) = true ∧
    separator <+: address.dropWhile isSchemeChar := by
  constructor
  · rintro ⟨scheme, rest, valid, rfl⟩
    obtain ⟨front, behind⟩ := span_scheme valid rest
    rw [front, behind]
    exact ⟨valid, List.prefix_append _ _⟩
  · rintro ⟨valid, rest, behind⟩
    refine ⟨_, rest, valid, ?_⟩
    rw [List.append_assoc, behind, List.takeWhile_append_dropWhile]

instance (address : List Char) : Decidable (HasScheme address) :=
  decidable_of_iff _ hasScheme_iff.symm

/-- An address without the scheme that it begins with. -/
def body (address : List Char) : List Char :=
  if HasScheme address then (address.dropWhile isSchemeChar).drop separator.length else address

/-- A character at which an authority ends. -/
def isDelimiter (c : Char) : Bool := c == '/' || c == '?' || c == '#'

/-- Whom an address names. -/
def authority (address : List Char) : List Char := (body address).takeWhile fun c => !isDelimiter c

theorem body_scheme (valid : isScheme scheme = true) (rest : List Char) :
    body (scheme ++ separator ++ rest) = rest := by
  rw [body, if_pos ⟨scheme, rest, valid, rfl⟩, (span_scheme valid rest).2, List.drop_left]

/-- No separator begins within a scheme. -/
theorem not_infix_scheme (valid : isScheme scheme = true) :
    ¬separator <:+: scheme ++ separator.dropLast := by
  have inside : ∀ c ∈ scheme, isSchemeChar c = true := fun c => isSchemeChar_of_mem valid
  clear valid
  induction scheme with
  | nil => decide
  | cons c others ih =>
    rw [List.cons_append, List.infix_cons_iff]
    rintro (here | later)
    · have colon := inside c List.mem_cons_self
      obtain rfl : ':' = c := (List.cons_prefix_cons.1 here).1
      cases colon
    · exact ih (fun d member => inside d (List.mem_cons_of_mem c member)) later

/-- What is left of an address is what stands behind its scheme just if it has one, or else holds no
separator. -/
theorem remainder_eq_body_iff :
    remainder address = body address ↔ HasScheme address ∨ ¬separator <:+: address := by
  by_cases has : HasScheme address
  · refine iff_of_true ?_ (.inl has)
    obtain ⟨scheme, rest, valid, rfl⟩ := has
    rw [body_scheme valid, remainder_eq_iff]
    exact .behind (not_infix_scheme valid)
  · rw [body, if_neg has, remainder_eq_self_iff]
    exact (or_iff_right has).symm

theorem isScheme_schemeFor (insecure : Bool) :
    ∃ scheme, isScheme scheme = true ∧ schemeFor insecure = scheme ++ separator := by
  cases insecure
  · exact ⟨"https".toList, by decide, by decide⟩
  · exact ⟨"http".toList, by decide, by decide⟩

theorem body_schemeFor (insecure : Bool) (rest : List Char) :
    body (schemeFor insecure ++ rest) = rest := by
  obtain ⟨scheme, valid, parts⟩ := isScheme_schemeFor insecure
  rw [parts, body_scheme valid]

/-! ## The authority as it is read from the bytes -/

theorem isDelimiter_cases {c : Char} (delimiter : isDelimiter c = true) :
    c = '/' ∨ c = '?' ∨ c = '#' := by
  simpa [isDelimiter, or_assoc] using delimiter

/-- A character is a delimiter just if a byte of it is. -/
theorem all_isDelimiter (c : Char) :
    ((String.utf8EncodeChar c).all fun b => !Address.isDelimiter b) = !isDelimiter c := by
  by_cases ascii : c.toNat ≤ 0x7f
  · have all : ∀ n ≤ 0x7f, ((String.utf8EncodeChar (Char.ofNat n)).all
        fun b => !Address.isDelimiter b) = !isDelimiter (Char.ofNat n) := by decide +kernel
    have found := all c.toNat ascii
    rwa [Char.ofNat_toNat] at found
  · have free : isDelimiter c = false := by
      rw [Bool.eq_false_iff]
      intro delimiter
      rcases isDelimiter_cases delimiter with rfl | rfl | rfl <;> exact ascii (by decide)
    have high : ∀ n < 0x100, 0x80 ≤ n → Address.isDelimiter (UInt8.ofNat n) = false := by
      decide +kernel
    rw [free, Bool.not_false, List.all_eq_true]
    intro b member
    have none := high b.toNat b.toNat_lt (le_of_mem_utf8EncodeChar ascii member)
    rw [UInt8.ofNat_toNat] at none
    rw [none, Bool.not_false]

/-- Up to a delimiter the bytes of a text are those of its characters up to one. -/
theorem takeWhile_isDelimiter (cs : List Char) :
    (cs.flatMap String.utf8EncodeChar).takeWhile (fun b => !Address.isDelimiter b)
      = (cs.takeWhile fun c => !isDelimiter c).flatMap String.utf8EncodeChar := by
  induction cs with
  | nil => rfl
  | cons c cs ih =>
    have bytes := all_isDelimiter c
    rw [List.flatMap_cons]
    cases delimiter : isDelimiter c with
    | false =>
      rw [delimiter, Bool.not_false, List.all_eq_true] at bytes
      rw [List.takeWhile_append_of_pos bytes, ih, List.takeWhile_cons_of_pos (by simp [delimiter]),
        List.flatMap_cons]
    | true =>
      rw [List.takeWhile_cons_of_neg (by simp [delimiter])]
      rcases isDelimiter_cases delimiter with rfl | rfl | rfl <;> rfl

theorem scheme?_schemeFor (insecure : Bool) (bytes : List UInt8) :
    Address.scheme? ((schemeFor insecure).flatMap String.utf8EncodeChar ++ bytes)
      = some ((schemeFor insecure).length - separator.length) := by
  have long : 3 < ((schemeFor insecure).flatMap String.utf8EncodeChar ++ bytes).length := by
    rw [List.length_append]
    exact Nat.lt_add_right _ (by cases insecure <;> decide)
  unfold Address.scheme?
  cases insecure
  case false => exact if_pos (And.intro long rfl)
  case true => exact if_pos (And.intro long rfl)

/-- The reader of addresses finds whom a valid address with a chosen scheme names. -/
theorem names_schemeFor {insecure : Bool} (rest : List Char)
    (valid : Address.isValid (.ofList (schemeFor insecure ++ rest)) = true) :
    Address.Names (Wire.utf8 (.ofList (schemeFor insecure ++ rest)))
      (Wire.utf8 (.ofList (authority (schemeFor insecure ++ rest)))) := by
  have bytes : Wire.utf8 (.ofList (schemeFor insecure ++ rest)) =
      (schemeFor insecure).flatMap String.utf8EncodeChar
        ++ rest.flatMap String.utf8EncodeChar := by
    rw [Wire.utf8_eq, String.toList_ofList, List.flatMap_append]
  rw [Address.isValid, bytes] at valid
  rw [bytes, Wire.utf8_eq, String.toList_ofList, authority, body_schemeFor,
    ← takeWhile_isDelimiter]
  have named := Address.names_of_isValidBytes valid (by cases insecure <;> rfl)
    (scheme?_schemeFor insecure _)
  have behind : ((schemeFor insecure).flatMap String.utf8EncodeChar
      ++ rest.flatMap String.utf8EncodeChar).drop
        ((schemeFor insecure).length - separator.length + Address.separator.length)
      = rest.flatMap String.utf8EncodeChar := by
    cases insecure <;> rfl
  rwa [behind] at named

/-! ## The address that is made for a host -/

/-- What becomes of a host. -/
structure Normalised (host : List Char) (insecure : Bool) (address : List Char) : Prop where
  /-- Of a host with a scheme, the scheme is replaced and nothing else. -/
  replaced {scheme rest : List Char} (valid : isScheme scheme = true)
    (parts : host = scheme ++ separator ++ rest) : address = schemeFor insecure ++ rest
  /-- A host without one keeps its text just if no separator is in it. -/
  kept_iff (bare : ¬HasScheme host) : address = schemeFor insecure ++ host ↔ ¬separator <:+: host
  /-- Whatever stands in front of the first separator is lost. -/
  lost {front rest : List Char} (first : ¬separator <:+: front ++ separator.dropLast)
    (parts : host = front ++ separator ++ rest) : address = schemeFor insecure ++ rest
  /-- If that is a scheme, or nothing, the address names whom the host names. -/
  authority_eq (sound : HasScheme host ∨ ¬separator <:+: host) : authority address = authority host
  /-- So does the reader of addresses, if the address is valid. -/
  reached (sound : HasScheme host ∨ ¬separator <:+: host)
    (valid : Address.isValid (.ofList address) = true) :
    Address.Names (Wire.utf8 (.ofList address)) (Wire.utf8 (.ofList (authority host)))

/-- A host is reached as it is written, unless a separator stands in it that ends no scheme. -/
theorem keeps_authority (host : String) (insecure : Bool) :
    Normalised (trimmed host.toList) insecure (forHost host insecure).address.toList := by
  have address : (forHost host insecure).address.toList
      = schemeFor insecure ++ remainder (trimmed host.toList) := by
    rw [forHost_eq]
    exact String.toList_ofList
  rw [address]
  have named (sound : HasScheme (trimmed host.toList) ∨ ¬separator <:+: trimmed host.toList) :
      authority (schemeFor insecure ++ remainder (trimmed host.toList))
        = authority (trimmed host.toList) := by
    rw [authority, body_schemeFor, remainder_eq_body_iff.2 sound, authority]
  constructor
  case replaced =>
    intro scheme rest valid parts
    rw [parts, remainder_eq_iff.2 (.behind (not_infix_scheme valid))]
  case kept_iff =>
    intro bare
    rw [List.append_cancel_left_eq, remainder_eq_self_iff]
  case lost =>
    intro front rest first parts
    rw [parts, remainder_eq_iff.2 (.behind first)]
  case authority_eq => exact named
  case reached =>
    intro sound valid
    rw [← named sound]
    exact names_schemeFor _ valid

/-- A separator in the query takes the channel to another broker. -/
theorem leads_elsewhere :
    let host := "broker.local/?next=http://other.local"
    ¬HasScheme (trimmed host.toList) ∧
      (forHost host false).address = "https://other.local" ∧
      (forHost host false).address ≠ "https://" ++ host ∧
      authority host.toList = "broker.local".toList ∧
      authority (forHost host false).address.toList = "other.local".toList := by
  decide

end ChannelSettings

end FunctionAgent
