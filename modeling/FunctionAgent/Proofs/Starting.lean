import FunctionAgent.Executor.StartRequest
import FunctionAgent.Proofs.Composing
import FunctionAgent.Proofs.Credentials
import FunctionAgent.Proofs.Encoding
import FunctionAgent.Proofs.Objects
/-!
# How a function is started

The one request that starts a function carries its identifier, its runtime and the session
information unchanged (`StartRequest.Carries`). The body is an object of two texts, none of which
needs an escape: an identifier is printed with digits and hyphens, and Base64 has no special
characters. A runtime stands in a header, where no control may stand except the tabulator
(`Barred`). What comes of the request depends on the answer alone.
-/

set_option autoImplicit false

namespace FunctionAgent

open FunctionAgent.Json FunctionAgent.Text

/-! ## Texts in a header -/

/-- A character that no header can hold. -/
def Barred (c : Char) : Prop := c.toNat < 0x20 ∧ c ≠ '\t' ∨ c.toNat = 0x7f

instance (c : Char) : Decidable (Barred c) := inferInstanceAs (Decidable (_ ∨ _))

theorem Wire.utf8_eq (s : String) : Wire.utf8 s = s.toList.flatMap String.utf8EncodeChar := by
  rw [Wire.utf8, String.toUTF8, ← String.utf8Encode_toList, List.utf8Encode]
  simp

theorem isHeaderByte_of_le {b : UInt8} (high : 0x80 ≤ b.toNat) : isHeaderByte b = true := by
  have all : ∀ n < 0x100, 0x80 ≤ n → isHeaderByte (UInt8.ofNat n) = true := by decide +kernel
  have holds := all b.toNat b.toNat_lt high
  rwa [UInt8.ofNat_toNat] at holds

/-- Beyond ASCII a character has no bytes but high ones. -/
theorem le_of_mem_utf8EncodeChar {c : Char} {b : UInt8} (beyond : ¬c.toNat ≤ 0x7f)
    (member : b ∈ String.utf8EncodeChar c) : 0x80 ≤ b.toNat := by
  have above : ¬c.val.toNat ≤ 127 := beyond
  simp only [String.utf8EncodeChar, if_neg above] at member
  split at member
  · simp only [List.mem_cons, List.not_mem_nil, or_false] at member
    rcases member with rfl | rfl <;> rw [UInt8.toNat_ofNat'] <;> omega
  split at member
  · simp only [List.mem_cons, List.not_mem_nil, or_false] at member
    rcases member with rfl | rfl | rfl <;> rw [UInt8.toNat_ofNat'] <;> omega
  · simp only [List.mem_cons, List.not_mem_nil, or_false] at member
    rcases member with rfl | rfl | rfl | rfl <;> rw [UInt8.toNat_ofNat'] <;> omega

/-- A character may stand in a header just if its bytes may. -/
theorem all_isHeaderByte_iff (c : Char) :
    (String.utf8EncodeChar c).all isHeaderByte = true ↔ ¬Barred c := by
  by_cases ascii : c.toNat ≤ 0x7f
  · have all : ∀ n ≤ 0x7f, (String.utf8EncodeChar (Char.ofNat n)).all isHeaderByte = true ↔
        ¬Barred (Char.ofNat n) := by decide +kernel
    have found := all c.toNat ascii
    rwa [Char.ofNat_toNat] at found
  · have free : ¬Barred c := by
      rintro (⟨low, -⟩ | delete) <;> omega
    have high : (String.utf8EncodeChar c).all isHeaderByte = true := by
      rw [List.all_eq_true]
      intro b member
      exact isHeaderByte_of_le (le_of_mem_utf8EncodeChar ascii member)
    exact iff_of_true high free

theorem headerValue?_eq_none_iff {s : String} :
    headerValue? s = none ↔ ∃ c ∈ s.toList, Barred c := by
  have fits : (Wire.utf8 s).all isHeaderByte = true ↔ ∀ c ∈ s.toList, ¬Barred c := by
    rw [Wire.utf8_eq, List.all_flatMap, List.all_eq_true]
    simp only [all_isHeaderByte_iff]
  unfold headerValue?
  split
  · rename_i fit
    simpa using fits.1 fit
  · rename_i unfit
    rw [fits] at unfit
    simpa using unfit

/-! ## The body -/

/-- Whether a value is a text. -/
def IsText (s cs rest : List Char) : Prop := ∃ inner, Blanks cs ('"' :: inner) ∧ Inside s inner rest

theorem sole_isText : Sole IsText := by
  rintro s t cs rest left ⟨inner, blanks, inside⟩ ⟨other, blanks', inside'⟩
  obtain ⟨-, rfl⟩ := List.cons.inj (blanks.unique blanks' (by decide) (by decide))
  exact Prod.mk.inj (Except.ok.inj (inside.text_eq.symm.trans inside'.text_eq))

/-- An object of texts is a value. -/
theorem valid_of_pairs {isFirst : Bool} {cs rest : List Char}
    {pairs : List (List Char × List Char)} (stand : Pairs IsText isFirst cs pairs rest) :
    Valid (.items .object isFirst) cs rest := by
  induction stand with
  | close blanks => exact .close blanks
  | member gap label colon stands _ ih =>
    obtain ⟨inner, blanks, inside⟩ := stands
    exact .item gap (.object label.unread colon) blanks (.text inside.unread) ih

theorem isPlain_encode (info : List UInt8) : (Base64.encode info).all isPlain = true := by
  have digits : Base64.alphabet.all isPlain = true := by decide
  rw [List.all_eq_true]
  intro c member
  rcases (Base64.spells_encode info).mem member with rfl | ⟨n, worth⟩
  · decide
  · exact List.all_eq_true.1 digits c (List.mem_of_getElem? worth)

namespace StartRequest

variable {host : String} {f g : Function} {info other : List UInt8} {r s : StartRequest}

/-- The members of the body of a request. -/
def members (f : Function) (info : List UInt8) : List (List Char × List Char) :=
  [("uuid".toList, f.id.render.toList), ("session_info".toList, (Base64.render info).toList)]

theorem pairs_bodyOf (f : Function) (info : List UInt8) :
    ∃ start, (bodyOf f info).toList = '\x7b' :: start ∧
      Pairs IsText true start (members f info) [] := by
  refine ⟨'"' :: ("uuid".toList ++ '"' :: ':' :: '"' :: (f.id.chars ++ '"' :: ',' :: '"' ::
    ("session_info".toList ++ '"' :: ':' :: '"' :: (Base64.encode info ++ ['"', '\x7d'])))), ?_, ?_⟩
  · simp [bodyOf, Uuid.render, Base64.render]
  · simp only [members, Uuid.render, Base64.render, String.toList_ofList]
    refine .member (.first .none) (.itself (by decide)) .none
      ⟨_, .none, .itself f.id.isPlain_chars⟩ ?_
    refine .member (.comma .none .none) (.itself (by decide)) .none
      ⟨_, .none, .itself (isPlain_encode info)⟩ ?_
    exact .close .none

theorem isObject_bodyOf_iff {pairs : List (List Char × List Char)} :
    IsObject IsText (bodyOf f info).toList pairs ↔ pairs = members f info := by
  obtain ⟨start, opened, inside⟩ := pairs_bodyOf f info
  have whole : IsObject IsText (bodyOf f info).toList (members f info) := by
    rw [opened]
    exact .document .none inside .none
  constructor
  · intro holds
    exact holds.unique sole_isText whole
  · rintro rfl
    exact whole

theorem valid_bodyOf (f : Function) (info : List UInt8) :
    Valid .value (bodyOf f info).toList [] := by
  obtain ⟨start, opened, inside⟩ := pairs_bodyOf f info
  rw [opened]
  exact .bracket (b := .object) (valid_of_pairs inside)

/-- Different functions and different session information have different members. -/
theorem members_injective (same : members f info = members g other) :
    f.id = g.id ∧ info = other := by
  simp only [members, List.cons.injEq, Prod.mk.injEq, true_and, and_true, String.toList_inj] at same
  obtain ⟨printed, encoded⟩ := same
  exact ⟨Uuid.render_injective printed, Base64.render_injective encoded⟩

/-- A request that carries a function and the session information as they are. -/
structure Carries (r : StartRequest) (host : String) (f : Function) (info : List UInt8) : Prop where
  method : r.method = "POST"
  address : r.address = addressOf host f
  runtime : r.headers.values runtimeHeader = [Wire.utf8 f.description.runtime]
  content : r.headers.values contentHeader.1 = [contentHeader.2]
  value : Valid .value r.body.toList []
  /-- The body is an object with these members and no others. -/
  object (pairs : List (List Char × List Char)) :
    IsObject IsText r.body.toList pairs ↔ pairs = members f info
  /-- The session information is written in Base64, and is read back from there. -/
  encoded : Base64.Spells info (Base64.render info).toList
  decoded : Base64.read? (Base64.render info) = some info

theorem of_eq_error_iff {failure : StartFailure} : of host f info = .error failure ↔
    (∃ c ∈ f.description.runtime.toList, Barred c) ∧ failure = .request builderFault := by
  rw [← headerValue?_eq_none_iff, of]
  cases headerValue? f.description.runtime with
  | none => simp [eq_comm]
  | some runtime => simp

theorem carries_of (made : of host f info = .ok r) : r.Carries host f info := by
  unfold of at made
  split at made
  · rename_i runtime fit
    obtain rfl := Except.ok.inj made
    obtain rfl := Handshake.eq_of_headerValue? fit
    constructor
    · rfl
    · rfl
    · rfl
    · rfl
    · exact valid_bodyOf f info
    · exact fun pairs => isObject_bodyOf_iff
    · rw [Base64.render, String.toList_ofList]
      exact Base64.spells_encode info
    · exact Base64.read?_render info
  · contradiction

theorem isSuccess_iff {status : Nat} : isSuccess status = true ↔ 200 ≤ status ∧ status < 300 := by
  simp [isSuccess]

/-- An answer is taken for a success just if its status says so, and else for a refusal. -/
theorem outcome_eq_ok_iff {answer : StartAnswer} : outcome answer = .ok () ↔
    ∃ status body, answer = .answered status body ∧ 200 ≤ status ∧ status < 300 := by
  cases answer with
  | answered status body =>
    simp only [outcome, StartAnswer.answered.injEq]
    split
    · rename_i success
      exact iff_of_true rfl ⟨status, body, ⟨rfl, rfl⟩, isSuccess_iff.1 success⟩
    · rename_i other
      refine iff_of_false (by simp) ?_
      rintro ⟨_, _, ⟨rfl, rfl⟩, success⟩
      exact other (isSuccess_iff.2 success)
  | lost | unreached => simp [outcome]

theorem outcome_eq_rejected_iff {answer : StartAnswer} {status : Nat} {text : String} :
    outcome answer = .error (.rejected status text) ↔
      ∃ body : Option String, answer = .answered status body ∧
        ¬(200 ≤ status ∧ status < 300) ∧ text = body.getD "" := by
  cases answer with
  | answered code body =>
    simp only [outcome, StartAnswer.answered.injEq, ← isSuccess_iff]
    split
    · rename_i success
      refine iff_of_false (by simp) ?_
      rintro ⟨_, ⟨rfl, rfl⟩, other, -⟩
      exact other success
    · rename_i other
      constructor
      · intro same
        obtain ⟨rfl, rfl⟩ := StartFailure.rejected.inj (Except.error.inj same)
        exact ⟨body, ⟨rfl, rfl⟩, other, rfl⟩
      · rintro ⟨_, ⟨rfl, rfl⟩, -, rfl⟩
        rfl
  | lost | unreached => simp [outcome]

end StartRequest

namespace Backend

open StartRequest

/-- How a function is started. -/
structure Starts (backend : Backend) (host : String) (f : Function) (info : List UInt8) :
    Prop where
  /-- What is sent is the request for this function. -/
  sent {r : StartRequest} (sent : (backend.start host f info).1 = some r) : r.Carries host f info
  /-- No two starts have one body unless function and session information are the same. -/
  distinct {r s : StartRequest} {backend' : Backend} {host' : String} {g : Function}
    {other : List UInt8} (here : (backend.start host f info).1 = some r)
    (there : (backend'.start host' g other).1 = some s) (same : r.body = s.body) :
    f.id = g.id ∧ info = other
  /-- A runtime that no header can hold is not sent. -/
  unfit (unfit : ∃ c ∈ f.description.runtime.toList, Barred c) :
    backend.start host f info = (none, .error (.request builderFault))
  /-- With any other runtime there is one request, of which the backend makes what it will. -/
  fit (fit : ∀ c ∈ f.description.runtime.toList, ¬Barred c) :
    ∃ r : StartRequest, r.Carries host f info ∧ backend.start host f info =
      (if (backend r).hasArrived then some r else none, outcome (backend r))
  /-- The function counts as started just if there is an answer of success, whatever its body. -/
  started : (backend.start host f info).2 = .ok () ↔
    ∃ r status body, (backend.start host f info).1 = some r ∧
      backend r = .answered status body ∧ 200 ≤ status ∧ status < 300
  /-- With any other answer the start is rejected with the status and the body of the answer. -/
  rejected (status : Nat) (text : String) :
    (backend.start host f info).2 = .error (.rejected status text) ↔
      ∃ r body, (backend.start host f info).1 = some r ∧ backend r = .answered status body ∧
        ¬(200 ≤ status ∧ status < 300) ∧ text = body.getD ""

variable {backend : Backend} {host : String} {f : Function} {info : List UInt8} {r : StartRequest}
  {status : Nat} {body : Option String}

/-- Without a request there is no answer. -/
theorem start_of_error {failure : StartFailure} (none : of host f info = .error failure) :
    backend.start host f info = (.none, .error failure) := by
  rw [start, none]

theorem start_of_ok (made : of host f info = .ok r) : backend.start host f info =
    (if (backend r).hasArrived then some r else none, outcome (backend r)) := by
  rw [start, made]

theorem start_fst_eq_some_iff : (backend.start host f info).1 = some r ↔
    of host f info = .ok r ∧ (backend r).hasArrived = true := by
  cases made : of host f info with
  | error failure => simp [start_of_error made]
  | ok s =>
    simp only [start_of_ok made, Option.ite_none_right_eq_some, Option.some.injEq, Except.ok.injEq]
    constructor
    · rintro ⟨arrived, rfl⟩
      exact ⟨rfl, arrived⟩
    · rintro ⟨rfl, arrived⟩
      exact ⟨arrived, rfl⟩

/-- The outcome is that of the answer, unless there is no request. -/
theorem of_start_snd {result : Except StartFailure Unit}
    (told : (backend.start host f info).2 = result) :
    result = .error (.request builderFault) ∨
      ∃ r, of host f info = .ok r ∧ outcome (backend r) = result := by
  cases made : of host f info with
  | error failure =>
    obtain ⟨-, rfl⟩ := of_eq_error_iff.1 made
    rw [start_of_error made] at told
    exact .inl told.symm
  | ok r =>
    rw [start_of_ok made] at told
    exact .inr ⟨r, rfl, told⟩

/-- A request that is answered has arrived. -/
theorem sent_of_answered (made : of host f info = .ok r)
    (answer : backend r = .answered status body) : (backend.start host f info).1 = some r := by
  refine start_fst_eq_some_iff.2 ⟨made, ?_⟩
  rw [answer]
  rfl

/-- What is sent for a function carries it and the session information unchanged, and what comes of
it is told by the answer of the backend. -/
theorem starts_unchanged (backend : Backend) (host : String) (f : Function) (info : List UInt8) :
    backend.Starts host f info where
  sent sent := carries_of (start_fst_eq_some_iff.1 sent).1
  distinct {r s backend' host' g other} here there same := by
    have object := ((carries_of (start_fst_eq_some_iff.1 here).1).object _).2 rfl
    rw [same] at object
    exact members_injective (((carries_of (start_fst_eq_some_iff.1 there).1).object _).1 object)
  unfit unfit := start_of_error (of_eq_error_iff.2 ⟨unfit, rfl⟩)
  fit fit := by
    cases made : of host f info with
    | error failure =>
      obtain ⟨⟨c, member, barred⟩, -⟩ := of_eq_error_iff.1 made
      exact absurd barred (fit c member)
    | ok r => exact ⟨r, carries_of made, start_of_ok made⟩
  started := by
    constructor
    · intro told
      rcases of_start_snd told with never | ⟨r, made, ok⟩
      · contradiction
      · obtain ⟨status, body, answer, success⟩ := outcome_eq_ok_iff.1 ok
        exact ⟨r, status, body, sent_of_answered made answer, answer, success⟩
    · rintro ⟨r, status, body, sent, answer, success⟩
      rw [start_of_ok (start_fst_eq_some_iff.1 sent).1]
      exact outcome_eq_ok_iff.2 ⟨status, body, answer, success⟩
  rejected status text := by
    constructor
    · intro told
      rcases of_start_snd told with never | ⟨r, made, refused⟩
      · simp at never
      · obtain ⟨body, answer, other, same⟩ := outcome_eq_rejected_iff.1 refused
        exact ⟨r, body, sent_of_answered made answer, answer, other, same⟩
    · rintro ⟨r, body, sent, answer, other, same⟩
      rw [start_of_ok (start_fst_eq_some_iff.1 sent).1]
      exact outcome_eq_rejected_iff.2 ⟨body, answer, other, same⟩

/-- A backend that answers with a redirection, and a runtime with a line break in it. -/
example :
    let d : Description := ⟨"n", "s", "", "", none, "python", "4", .stable⟩
    let backend : Backend := fun _ => .answered 302 (some "moved")
    (backend.start "http://h//" (.new .nil d) [0xff, 0xee]).2 = .error (.rejected 302 "moved") ∧
      (backend.start "http://h//" (.new .nil { d with runtime := "4\n" }) []).1 = none := by
  intro d backend
  exact ⟨rfl, rfl⟩

end Backend

end FunctionAgent
