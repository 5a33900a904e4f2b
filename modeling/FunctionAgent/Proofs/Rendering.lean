import FunctionAgent.Catalog.Document
import FunctionAgent.Proofs.Describing
/-!
# How a catalog may be written

A catalog may be written in many ways: with any blanks, any spelling of identifiers and texts, and
each entry in its own form (`Rendering`). However it is written, the functions that are read are
those that were meant, in the order of their identifiers (`parse_of_rendering`).
-/

set_option autoImplicit false

namespace FunctionAgent

namespace Roster

theorem perm_insert {f : Function} {roster : Roster} (fresh : ∀ g ∈ roster, f.id ≠ g.id) :
    (insert f roster).Perm (f :: roster) := by
  induction roster with
  | nil => exact .refl _
  | cons g rest ih =>
    unfold insert
    split
    · exact .refl _
    · split
      · rename_i same
        exact absurd same (fresh g List.mem_cons_self)
      · have later := ih fun h member => fresh h (List.mem_cons_of_mem _ member)
        exact (later.cons g).trans (.swap f g rest)

theorem perm_foldl_insert {fs : List Function} (distinct : (fs.map Function.id).Nodup)
    {roster : Roster} (apart : ∀ f ∈ fs, ∀ g ∈ roster, f.id ≠ g.id) :
    (fs.foldl (fun roster f => insert f roster) roster).Perm (roster ++ fs) := by
  induction fs generalizing roster with
  | nil => simp
  | cons f rest ih =>
    obtain ⟨first, others⟩ := List.nodup_cons.1 distinct
    have later : ∀ h ∈ rest, ∀ g ∈ insert f roster, h.id ≠ g.id := by
      intro h member g inserted
      rcases mem_insert inserted with rfl | earlier
      · intro same
        exact first (same ▸ List.mem_map_of_mem member)
      · exact apart h (List.mem_cons_of_mem _ member) g earlier
    have inserted := (perm_insert (apart f List.mem_cons_self)).append_right rest
    exact (ih others later).trans (inserted.trans List.perm_middle.symm)

/-- A roster of functions with different identifiers holds just these. -/
theorem perm_ofList {fs : List Function} (distinct : (fs.map Function.id).Nodup) :
    (ofList fs).Perm fs :=
  perm_foldl_insert distinct fun _ _ _ member => absurd member List.not_mem_nil

end Roster

namespace Catalog

open FunctionAgent.Json

/-- The items of a catalog with its closing bracket. -/
inductive Items : List (Uuid × Description) → (isFirst : Bool) → (cs rest : List Char) → Prop where
  | close {isFirst : Bool} {cs rest : List Char} (blanks : Blanks cs ('\x7d' :: rest)) :
      Items [] isFirst cs rest
  | item {id : Uuid} {d : Description} {pairs : List (Uuid × Description)} {isFirst : Bool}
      {name cs key behind blank start left rest : List Char} (gap : Gap isFirst cs ('"' :: key))
      (label : Inside name key behind) (spelled : id.Spelled name)
      (colon : Blanks behind (':' :: blank)) (blanks : Blanks blank start)
      (entry : Entry d start left) (items : Items pairs false left rest) :
      Items ((id, d) :: pairs) isFirst cs rest

/-- A text that writes a catalog out. -/
inductive Rendering (pairs : List (Uuid × Description)) : List Char → Prop where
  | document {cs start left : List Char} (before : Blanks cs ('\x7b' :: start))
      (items : Items pairs true start left) (behind : Blanks left []) : Rendering pairs cs

/-- The functions of a catalog as they are read. -/
structure Listing (pairs : List (Uuid × Description)) (functions : List Function) : Prop where
  /-- The identifiers ascend strictly. -/
  sorted : Roster.IsSorted functions
  listed : (functions.map fun f => (f.id, f.description)).Perm pairs
  unannounced : ∀ f ∈ functions, f.state = .unspecified
  /-- The record of a function mirrors its description. -/
  registered : ∀ f ∈ functions, f.registration =
    { id := f.id.render, name := f.description.name, signature := f.description.signature,
      version := f.description.version, description := f.description.description,
      state := Lifecycle.unspecified.number }

variable {pairs seen : List (Uuid × Description)} {isFirst : Bool} {cs rest : List Char}

theorem readItemsFrom_of_close (closed : itemStep isFirst cs = .ok (none, rest)) :
    readItemsFrom seen isFirst cs = .ok (seen.reverse, rest) := by
  rw [readItemsFrom]
  split <;> simp_all

theorem readItemsFrom_of_item {item : Uuid × Description}
    (found : itemStep isFirst cs = .ok (some item, rest)) :
    readItemsFrom seen isFirst cs = readItemsFrom (item :: seen) false rest := by
  rw [readItemsFrom]
  split <;> simp_all

/-- The items are read one after the other. -/
theorem Items.read (items : Items pairs isFirst cs rest) :
    readItemsFrom seen isFirst cs = .ok (seen.reverse ++ pairs, rest) := by
  induction items generalizing seen with
  | @close isFirst cs rest blanks =>
    have found : next (.full modeDepth) .object isFirst cs = .ok (.closed rest) :=
      next_closed blanks
    rw [readItemsFrom_of_close (by simp [itemStep, found]; rfl), List.append_nil]
  | @item id d pairs isFirst name cs key behind blank start left rest gap label spelled colon blanks
      entry items ih =>
    have found : next (.full modeDepth) .object isFirst cs = .ok (.item ('"' :: key)) :=
      next_item gap (by decide) (by decide)
    have step : itemStep isFirst cs = .ok (some (id, d), left) := by
      simp [itemStep, found, Json.key, label.text_eq, spelled.read, colon_eq colon,
        entry.read blanks]
    rw [readItemsFrom_of_item step, ih]
    simp

theorem Rendering.read (rendering : Rendering pairs cs) : Catalog.document cs = .ok pairs := by
  cases rendering with
  | @document start left before items behind =>
    have skipped := before.reach (by decide)
    have nothing : skipBlanks left = [] := behind.skip
    have read : readItemsFrom [] true start = .ok (pairs, left) := items.read
    simp [Catalog.document, skipped, read, nothing]

/-- Every mode is at least the lowest one. -/
theorem filter_undefined (functions : List Function) :
    functions.filter (isSelected .undefined) = functions := by
  refine List.filter_eq_self.2 fun f _ => ?_
  exact decide_eq_true (Nat.zero_le f.description.mode.label)

/-- Every way to write a catalog is read as this catalog. -/
theorem parse_of_rendering {text : String} (distinct : (pairs.map Prod.fst).Nodup)
    (rendering : Rendering pairs text.toList) :
    ∃ functions, parse text .undefined = .ok functions ∧ Listing pairs functions := by
  let fresh : List Function := pairs.map fun pair => .new pair.1 pair.2
  have ids : fresh.map Function.id = pairs.map Prod.fst := by
    simp [fresh, Function.comp_def, Function.new]
  have perm : (Roster.ofList fresh).Perm fresh := Roster.perm_ofList (ids ▸ distinct)
  have new (f : Function) (member : f ∈ Roster.ofList fresh) : f.state = .unspecified := by
    obtain ⟨pair, -, rfl⟩ := List.mem_map.1 (perm.mem_iff.1 member)
    rfl
  refine ⟨Roster.ofList fresh, ?_, ?_⟩
  · simp [parse, roster, rendering.read, fresh, Except.map, filter_undefined]
  · refine ⟨Roster.isSorted_ofList fresh, ?_, new, fun f member => ?_⟩
    · have listed := perm.map fun f => (f.id, f.description)
      simpa [fresh, Function.comp_def, Function.new] using listed
    · rw [Function.registration, new f member]
      rfl

/-- A catalog with an entry of each form: a list without its mode, and an object with an escape, a
field of another name and the name of a mode in small letters. -/
def sample (first second : Uuid) : String :=
  "\x7b\"" ++ (first.render ++ ("\":" ++ ("[\"n\",\"s\",\"\",\"\",null,\"e\",\"r\"]" ++ (",\"" ++
    (second.render ++ ("\":" ++ ("\x7b\"x\":[\x7b\x7d,0],\"name\":\"\\u006e\",\"signature\":\"s\"," ++
      ("\"runtime\":\"r\",\"executor\":\"e\",\"mode\":\"stable\"\x7d" ++ "\x7d"))))))))

theorem parse_of_rendering_sample :
    let plain : Description := ⟨"n", "s", "", "", none, "e", "r", .undefined⟩
    let stable : Description := { plain with mode := .stable }
    let first : Uuid := ⟨List.replicate 32 1, by decide⟩
    (([(first, plain), (.nil, stable)] : List (Uuid × Description)).map Prod.fst).Nodup ∧
      Rendering [(first, plain), (.nil, stable)] (sample first .nil).toList ∧
      ∃ functions, parse (sample first .nil) .undefined = .ok functions ∧
        Listing [(first, plain), (.nil, stable)] functions := by
  intro plain stable first
  have list (rest : List Char) :
      Entry plain ("[\"n\",\"s\",\"\",\"\",null,\"e\",\"r\"]".toList ++ rest) rest := by
    refine .list (.field (.first .none) (.text (s := "n") rfl (.itself (by decide))) ?_)
    refine .field (.comma .none .none) (.text (s := "s") rfl (.itself (by decide))) ?_
    refine .field (.comma .none .none) (.text (s := "") rfl .close) ?_
    refine .field (.comma .none .none) (.text (s := "") rfl .close) ?_
    refine .field (.comma .none .none) (.noAuthor rfl) ?_
    refine .field (.comma .none .none) (.text (s := "e") rfl (.itself (by decide))) ?_
    refine .field (.comma .none .none) (.text (s := "r") rfl (.itself (by decide))) ?_
    exact .short rfl .none
  have object (rest : List Char) :
      Entry stable ("\x7b\"x\":[\x7b\x7d,0],\"name\":\"\\u006e\",\"signature\":\"s\",".toList ++
        ("\"runtime\":\"r\",\"executor\":\"e\",\"mode\":\"stable\"\x7d".toList ++ rest)) rest := by
    have unknown : ∀ field : Field, field.label.toList ≠ ['x'] := by
      intro field
      cases field <;> decide
    have escape (rest : List Char) : CodeUnit 'n'.toNat ('0' :: '0' :: '6' :: 'e' :: rest) rest :=
      .digits (a := 0) (b := 0) (c := 6) (d := 14) (.inl rfl) (.inl rfl) (.inl rfl) (.inl rfl)
    have named : stable.mode.Named "stable".toList := by
      unfold Mode.Named
      decide
    refine .object (.other unknown (.first .none) (.itself (by decide)) .none .none
      (.bracket (b := .list) (.item (.first .none) .list .none (.bracket (b := .object)
        (.close .none)) (.item (.comma .none .none) .list .none
          (.number (.plain (.parts .zero .absent .absent))) (.close .none)))) ?_)
    refine .field (show Field.name ∉ [] by decide) (.comma .none .none) (.itself (by decide))
      .none .none (.text (s := "n") rfl (.unit (escape _) .close)) ?_
    refine .field (show Field.signature ∉ _ by decide) (.comma .none .none) (.itself (by decide))
      .none .none (.text (s := "s") rfl (.itself (by decide))) ?_
    refine .field (show Field.runtime ∉ _ by decide) (.comma .none .none) (.itself (by decide))
      .none .none (.text (s := "r") rfl (.itself (by decide))) ?_
    refine .field (show Field.executor ∉ _ by decide) (.comma .none .none) (.itself (by decide))
      .none .none (.text (s := "e") rfl (.itself (by decide))) ?_
    refine .field (show Field.mode ∉ _ by decide) (.comma .none .none) (.itself (by decide))
      .none .none (.modeName named (.itself (by decide))) (.close ?_ .none)
    intro field missing
    cases field <;> simp_all [IsDefault, plain, stable]
  have distinct : ([(first, plain), (.nil, stable)].map Prod.fst).Nodup := by decide
  have rendering : Rendering [(first, plain), (.nil, stable)] (sample first .nil).toList := by
    simp only [sample, String.toList_append, Uuid.render, String.toList_ofList]
    refine .document .none (.item (.first .none) (.itself ?_) first.spelled_chars .none .none
      (list _) (.item (.comma .none .none) (.itself ?_) Uuid.nil.spelled_chars .none .none
        (object _) (.close .none))) .none
    · decide
    · decide
  exact ⟨distinct, rendering, parse_of_rendering distinct rendering⟩

end Catalog

end FunctionAgent
