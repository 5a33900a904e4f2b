import FunctionAgent.Broker.Account
/-!
# The channel of an account

A host may carry a scheme of its own, blanks at its ends, or several separators. Of its address only
what stands behind the first separator counts (`remainder`); the scheme in front of it is chosen by
the account alone. So a channel is encrypted unless the account says otherwise, its address shows
it, and an address that was made for one choice can be made over for the other.
-/

set_option autoImplicit false

namespace FunctionAgent

open FunctionAgent.Text

namespace ChannelSettings

/-- The scheme that goes with a choice. -/
def schemeFor : Bool → List Char
  | true => plainScheme
  | false => secureScheme

/-- What an address says apart from its scheme. -/
def remainder (address : List Char) : List Char := (behindScheme? address).getD address

theorem behindScheme?_suffix {address rest : List Char}
    (found : behindScheme? address = some rest) : rest <:+ address := by
  induction address with
  | nil => simp [behindScheme?] at found
  | cons c cs ih =>
    rw [behindScheme?] at found
    split at found
    · obtain rfl := Option.some.inj found
      exact List.drop_suffix _ _
    · exact (ih found).trans (List.suffix_cons c cs)

theorem remainder_suffix (address : List Char) : remainder address <:+ address := by
  unfold remainder
  cases found : behindScheme? address with
  | none => exact List.suffix_rfl
  | some rest => exact behindScheme?_suffix found

/-- The first separator behind a chosen scheme is that of the scheme itself. -/
theorem behindScheme?_schemeFor (insecure : Bool) (rest : List Char) :
    behindScheme? (schemeFor insecure ++ rest) = some rest := by
  cases insecure <;> rfl

@[simp] theorem remainder_schemeFor (insecure : Bool) (rest : List Char) :
    remainder (schemeFor insecure ++ rest) = rest := by
  rw [remainder, behindScheme?_schemeFor]
  rfl

theorem head?_schemeFor (insecure : Bool) (rest : List Char) :
    (schemeFor insecure ++ rest).head? = some 'h' := by
  cases insecure <;> rfl

theorem getLast?_schemeFor (insecure : Bool) : (schemeFor insecure).getLast? = some '/' := by
  cases insecure <;> decide

/-- No scheme is the beginning of the other one with something behind it. -/
theorem prefix_schemeFor_iff (chosen insecure : Bool) (rest : List Char) :
    schemeFor chosen <+: schemeFor insecure ++ rest ↔ insecure = chosen := by
  constructor
  · rintro ⟨more, same⟩
    have fifth : (schemeFor chosen ++ more)[4]? = (schemeFor insecure ++ rest)[4]? := by rw [same]
    have colon : (schemeFor chosen)[4]? = (schemeFor insecure)[4]? := by
      rwa [List.getElem?_append_left (by cases chosen <;> decide),
        List.getElem?_append_left (by cases insecure <;> decide)] at fifth
    revert colon
    cases chosen <;> cases insecure <;> decide
  · intro same
    rw [same]
    exact List.prefix_append _ _

/-- A chosen scheme and what stands behind it in a trimmed address are trimmed. -/
theorem trimmed_schemeFor (insecure : Bool) (host : List Char) :
    trimmed (schemeFor insecure ++ remainder (trimmed host))
      = schemeFor insecure ++ remainder (trimmed host) := by
  apply trimmed_eq_self
  · intro c first
    rw [head?_schemeFor] at first
    obtain rfl := Option.some.inj first
    decide
  · intro c last
    obtain ⟨front, parts⟩ := remainder_suffix (trimmed host)
    rw [List.getLast?_append, getLast?_schemeFor] at last
    cases ends : (remainder (trimmed host)).getLast? with
    | none =>
      obtain rfl : '/' = c := by simpa [ends] using last
      decide
    | some d =>
      have same : d = c := by simpa [ends] using last
      have kept : (trimmed host).getLast? = some d := by
        rw [← parts, List.getLast?_append, ends]
        rfl
      exact getLast?_trimmed (same ▸ kept)

/-- What a trimmed address comes to with a choice. -/
theorem chosen_new {address : List Char} (ends : trimmed address = address) (insecure : Bool) :
    (if insecure then (new (.ofList address)).withoutEncryption
      else (new (.ofList address)).withEncryption) =
      ⟨.ofList (schemeFor insecure ++ remainder address), !insecure, some .standard,
        some (.ofSeconds 30)⟩ := by
  have same : trim (String.ofList address) = String.ofList address := by
    rw [trim, String.toList_ofList, ends]
  cases insecure <;>
    simp [new, same, withEncryption, withoutEncryption, withScheme, remainder, schemeFor]

/-- What a host comes to with a choice. -/
theorem forHost_eq (host : String) (insecure : Bool) :
    forHost host insecure =
      ⟨.ofList (schemeFor insecure ++ remainder (trimmed host.toList)), !insecure, some .standard,
        some (.ofSeconds 30)⟩ := by
  have bare : (trim host).toList = trimmed host.toList := String.toList_ofList
  have scheme : (if insecure then plainScheme else secureScheme) = schemeFor insecure := by
    cases insecure <;> rfl
  simp only [forHost, bare, scheme]
  cases found : behindScheme? (trimmed host.toList) with
  | some rest => exact chosen_new (trimmed_trimmed _) insecure
  | none =>
    have whole : remainder (trimmed host.toList) = trimmed host.toList := by
      rw [remainder, found]
      rfl
    have ends := trimmed_schemeFor insecure host.toList
    rw [whole] at ends
    have settled := chosen_new ends insecure
    rw [remainder_schemeFor] at settled
    rw [whole]
    exact settled

/-- Making an address over for another choice is the same as making it for that choice. -/
theorem forHost_forHost (host : String) (first second : Bool) :
    forHost (forHost host first).address second = forHost host second := by
  have address : (forHost host first).address.toList
      = schemeFor first ++ remainder (trimmed host.toList) := by
    rw [forHost_eq]
    exact String.toList_ofList
  rw [forHost_eq _ second, address, trimmed_schemeFor, remainder_schemeFor, ← forHost_eq]

end ChannelSettings

namespace Account

/-- What a change says about leaving the channel open. -/
def Change.insecure? : Change → Option Bool
  | insecure chosen => some chosen
  | _ => none

/-- How the channel of an account is kept. -/
structure Guarded (a : Account) : Prop where
  encrypted : a.channel.isEncrypted = !a.insecure
  address : a.endpoint = a.channel.address
  secure : ChannelSettings.secureScheme <+: a.endpoint.toList ↔ a.insecure = false
  plain : ChannelSettings.plainScheme <+: a.endpoint.toList ↔ a.insecure = true

theorem endpoint_eq (a : Account) :
    a.endpoint.toList = ChannelSettings.schemeFor a.insecure
      ++ ChannelSettings.remainder (trimmed a.host.toList) := by
  rw [endpoint, channel, ChannelSettings.forHost_eq]
  exact String.toList_ofList

theorem guarded (a : Account) : a.Guarded where
  encrypted := by rw [channel, ChannelSettings.forHost_eq]; rfl
  address := rfl
  secure := by
    rw [endpoint_eq]
    exact ChannelSettings.prefix_schemeFor_iff false _ _
  plain := by
    rw [endpoint_eq]
    exact ChannelSettings.prefix_schemeFor_iff true _ _

/-- Whether an account leaves its channel open was said by the last change that spoke of it. -/
theorem insecure_foldl (a : Account) (changes : List Change) :
    (changes.foldl apply a).insecure
      = (changes.filterMap Change.insecure?).getLast?.getD a.insecure := by
  induction changes generalizing a with
  | nil => rfl
  | cons change rest ih =>
    rw [List.foldl_cons, ih]
    cases change with
    | insecure chosen =>
      have said : Change.insecure? (.insecure chosen) = some chosen := rfl
      rw [List.filterMap_cons_some said, List.getLast?_cons]
      rfl
    | _ => rfl

/-- Whatever is changed about an account, and in whatever order, its channel is encrypted unless the
last word on it was to leave it open, and its address has the scheme that goes with this. An address
that was made for one choice can be made over for any other. -/
theorem keeps_guard (start : Account) (changes : List Change) :
    (changes.foldl apply start).Guarded ∧
      (changes.foldl apply start).insecure
        = (changes.filterMap Change.insecure?).getLast?.getD start.insecure ∧
      ∀ host first second,
        ChannelSettings.forHost (ChannelSettings.forHost host first).address second
          = ChannelSettings.forHost host second :=
  ⟨guarded _, insecure_foldl start changes, ChannelSettings.forHost_forHost⟩

/-- Only the first of several separators ends a scheme. -/
example : (ChannelSettings.forHost " HTTPS://a://b\t" true).address = "http://a://b" := by decide

end Account

end FunctionAgent
