import FunctionAgent.Proofs.Keys
import FunctionAgent.Proofs.Place
import FunctionAgent.Proofs.Starting
/-!
# Where a start request is addressed to

The address of a start request is the host, without the slashes at its end, and a path to the
function behind it. The kind of the executor is put into this path as it is. Two functions have one
address only if they agree in it and in the identifier (`Routes.address_eq_iff`). But read as an
address (`Place.read`) it names the path of the function below the place of the host just if the
host has neither a query nor a fragment and the kind of the executor is a name: a text that can be a
segment, and no dots (`Routes.read_iff`).
-/

set_option autoImplicit false

namespace FunctionAgent

namespace StartRequest

open FunctionAgent.Text FunctionAgent.Place

/-- What stands behind the host and a slash in the address of a function. -/
def pathText (f : Function) : List Char :=
  f.description.executor.toList ++ "/function/".toList ++ f.id.render.toList

/-- The path of a function. -/
def route (f : Function) : List (List Char) :=
  [f.description.executor.toList, "function".toList, f.id.render.toList]

/-- How the address of a function is made, and what it names. Which authorities there are is left
open. -/
structure Routes (accepts : List Char → Bool) (host : String) (f : Function) : Prop where
  /-- A catalog may hold the function, whatever its executor is. -/
  held : ∃ text, Catalog.parse text .undefined = .ok [.new f.id f.description]
  /-- The address begins with the host, of which nothing but slashes is left off at the end. -/
  stripped : ∃ n, host.toList = bareHost host ++ List.replicate n '/'
  bare : (bareHost host).getLast? ≠ some '/'
  address : (addressOf host f).toList = bareHost host ++ '/' :: pathText f
  /-- An address is that of one executor and one identifier. -/
  address_eq_iff (g : Function) : addressOf host f = addressOf host g ↔
    f.description.executor = g.description.executor ∧ f.id = g.id
  /-- Where the host names a place, the address names the path of the function below it, and nothing
  behind this, just if the host has no query and no fragment and the executor is a name. -/
  read_iff {base : Place} : read accepts (bareHost host ++ ['/']) = some base →
    (read accepts (addressOf host f).toList =
        some { base with path := base.path.dropLast ++ route f } ↔
      base.query = none ∧ base.fragment = none ∧
        IsSegment f.description.executor.toList ∧ ¬IsDots f.description.executor.toList)
  /-- Behind a query or a fragment of the host the address names no other path, whatever the
  function is. -/
  aside {base : Place} : read accepts (bareHost host ++ ['/']) = some base →
    base.query ≠ none ∨ base.fragment ≠ none →
    ∃ place, read accepts (addressOf host f).toList = some place ∧ place.path = base.path

variable {accepts : List Char → Bool} {host : String} {f g : Function} {base : Place}
  {path : List (List Char)} {tail : List Char} {c : Char}

theorem mem_intercalate (member : c ∈ ['/'].intercalate path) : c = '/' ∨ ∃ s ∈ path, c ∈ s := by
  induction path with
  | nil => simp at member
  | cons first path ih =>
    cases path with
    | nil => exact .inr ⟨first, List.mem_cons_self, by simpa using member⟩
    | cons second path =>
      simp only [List.intercalate_cons_cons, List.append_assoc, List.mem_append,
        List.mem_singleton] at member
      rcases member with here | slash | behind
      · exact .inr ⟨first, List.mem_cons_self, here⟩
      · exact .inl slash
      · exact (ih behind).imp_right fun ⟨s, there, inside⟩ =>
          ⟨s, List.mem_cons_of_mem first there, inside⟩

theorem length_render (id : Uuid) : id.render.toList.length = 36 := by
  rw [Uuid.render, String.toList_ofList, Uuid.length_chars]

theorem pathText_eq (f : Function) : pathText f = ['/'].intercalate (route f) := by
  simp [pathText, route, List.intercalate]

theorem isSegment_of_mem_route (segment : IsSegment f.description.executor.toList)
    {s : List Char} (member : s ∈ route f) : IsSegment s := by
  simp only [route, List.mem_cons, List.not_mem_nil, or_false] at member
  rcases member with rfl | rfl | rfl
  · exact segment
  · have all : "function".toList.all (fun c => !isEnd c && !isVoid c) = true := rfl
    intro c inside
    simpa using List.all_eq_true.1 all c inside
  · intro c inside
    have digits : ∀ d, isEnd (Hex.digit d) = false ∧ isVoid (Hex.digit d) = false := by decide
    rw [Uuid.render, String.toList_ofList] at inside
    rcases f.id.mem_chars inside with rfl | ⟨d, rfl⟩
    · decide
    · exact digits d

theorem bareHost_append (host : String) :
    ∃ n, host.toList = bareHost host ++ List.replicate n '/' := by
  have slashes : ∀ c ∈ host.toList.reverse.takeWhile (· == '/'), c = '/' := by
    intro c member
    simpa using List.mem_takeWhile_imp member
  refine ⟨(host.toList.reverse.takeWhile (· == '/')).length, ?_⟩
  rw [bareHost, ← List.reverse_replicate, ← List.eq_replicate_of_mem slashes, ← List.reverse_append,
    List.takeWhile_append_dropWhile, List.reverse_reverse]

theorem getLast?_bareHost (host : String) : (bareHost host).getLast? ≠ some '/' := by
  rw [bareHost, List.getLast?_reverse, ← List.find?_not_eq_head?_dropWhile]
  intro found
  simpa using List.find?_some found

theorem toList_addressOf (host : String) (f : Function) :
    (addressOf host f).toList = bareHost host ++ '/' :: pathText f := by
  simp [addressOf, pathText]

theorem addressOf_eq_iff : addressOf host f = addressOf host g ↔
    f.description.executor = g.description.executor ∧ f.id = g.id := by
  rw [← String.toList_inj, toList_addressOf, toList_addressOf, List.append_cancel_left_eq,
    List.cons.injEq, pathText, pathText]
  constructor
  · rintro ⟨-, same⟩
    -- The identifiers are of one length, so the executors end at the same place.
    have count := (length_render f.id).trans (length_render g.id).symm
    obtain ⟨front, printed⟩ := List.append_inj' same count
    refine ⟨String.toList_inj.1 (List.append_cancel_right front), ?_⟩
    exact Uuid.render_injective (String.toList_inj.1 printed)
  · rintro ⟨executor, id⟩
    rw [executor, id]
    exact ⟨rfl, rfl⟩

/-- What an address ends in is no blank. -/
theorem getLast?_pathText : ∀ c ∈ (pathText f).getLast?, isTrimmed c = false := by
  intro c last
  have digits : ∀ d, isTrimmed (Hex.digit d) = false := by decide
  have count := length_render f.id
  have inside : c ∈ f.id.render.toList := by
    rw [pathText, List.getLast?_append] at last
    cases ending : f.id.render.toList.getLast? with
    | none =>
      rw [List.getLast?_eq_none_iff] at ending
      simp [ending] at count
    | some d =>
      rw [ending] at last
      obtain rfl := Option.some.inj last
      exact List.mem_of_getLast? ending
  rw [Uuid.render, String.toList_ofList] at inside
  rcases f.id.mem_chars inside with rfl | ⟨d, rfl⟩
  · decide
  · exact digits d

/-- In the path of a function with a plain executor nothing is left out, and it goes to the end. -/
theorem unmarked_of_mem (segment : IsSegment f.description.executor.toList)
    (member : c ∈ pathText f) : isVoid c = false ∧ c ≠ '#' ∧ c ≠ '?' := by
  rw [pathText_eq] at member
  rcases mem_intercalate member with rfl | ⟨s, there, inside⟩
  · decide
  · obtain ⟨ends, void⟩ := isSegment_of_mem_route segment there c inside
    simp only [isEnd, Bool.or_eq_false_iff, beq_eq_false_iff_ne] at ends
    exact ⟨void, ends.2, ends.1.2⟩

theorem unmarked_pathText (segment : IsSegment f.description.executor.toList) :
    '#' ∉ pathText f ∧ '?' ∉ pathText f :=
  ⟨fun inside => (unmarked_of_mem segment inside).2.1 rfl,
    fun inside => (unmarked_of_mem segment inside).2.2 rfl⟩

/-- The path of a function is gone to its end unless it starts with dots. -/
theorem resolve_route_iff : resolve path (route f) = path ++ route f ↔
    ¬IsDots f.description.executor.toList := by
  have count := length_render f.id
  have word : ¬IsDots "function".toList := not_isDots_of_lt (by decide)
  have id : ¬IsDots f.id.render.toList := not_isDots_of_lt (by omega)
  have goes : resolve path (route f) =
      step path f.description.executor.toList ++ ["function".toList, f.id.render.toList] := by
    rw [route, resolve, resolve, resolve_name id, step_of_name word, List.append_assoc]
    rfl
  rw [goes]
  constructor
  · intro whole dots
    have short := length_step_le path dots
    have same := congrArg List.length whole
    simp [route] at same
    omega
  · intro name
    rw [step_of_name name, route, List.append_assoc]
    rfl

/-- What a plain executor is put into is read as the path of the function. -/
theorem path_of_isSegment (scheme authority : List Char) (noHash : '#' ∉ tail)
    (noQuestion : '?' ∉ tail) (segment : IsSegment f.description.executor.toList) : ∃ path,
      (ofTail scheme authority (tail ++ ['/'])).path = path ++ [[]] ∧
      (ofTail scheme authority (tail ++ '/' :: pathText f)).path = resolve path (route f) := by
  obtain ⟨path, goes⟩ := path_ofTail scheme authority noHash noQuestion
  refine ⟨path, goes [], ?_⟩
  obtain ⟨hash, question⟩ := unmarked_pathText segment
  have whole : (['/'].intercalate (route f)).splitOnP isSlash = route f :=
    splitOnP_intercalate (by simp [route]) fun s member => isSegment_of_mem_route segment member
  rw [goes, takeWhile_eq_self hash, takeWhile_eq_self question, pathText_eq, whole]

theorem filter_pathText (segment : IsSegment f.description.executor.toList) :
    (pathText f).filter (!isVoid ·) = pathText f := by
  rw [List.filter_eq_self]
  intro c inside
  simp [(unmarked_of_mem segment inside).1]

/-- A catalog of one function is read as this function, whatever its description is. -/
theorem parse_composed (id : Uuid) (d : Description) :
    Catalog.parse (Catalog.composed [(id, d)]) .undefined = .ok [.new id d] := by
  rw [Catalog.parse_undefined]
  exact Catalog.roster_eq_ok_iff.2 ⟨_, (Catalog.rendering_composed _).read, rfl⟩

/-- What an address is read as behind a host that names a place. -/
theorem read_addressOf (f : Function) (named : read accepts (bareHost host ++ ['/']) = some base) :
    ∃ scheme authority tail, base = ofTail scheme authority (tail ++ ['/']) ∧
      read accepts (addressOf host f).toList =
        some (ofTail scheme authority (tail ++ '/' :: (pathText f).filter (!isVoid ·))) := by
  obtain ⟨tail, goes⟩ := read_behind named
  have here := goes [] (by simp)
  rw [named] at here
  refine ⟨base.scheme, base.authority, tail, Option.some.inj here, ?_⟩
  rw [toList_addressOf]
  exact goes _ getLast?_pathText

/-- Below a place with no query and no fragment the address names the path of the function just if
its executor is a name. -/
theorem read_addressOf_iff (named : read accepts (bareHost host ++ ['/']) = some base)
    (noQuery : base.query = none) (noFragment : base.fragment = none) :
    read accepts (addressOf host f).toList =
        some { base with path := base.path.dropLast ++ route f } ↔
      IsSegment f.description.executor.toList ∧ ¬IsDots f.description.executor.toList := by
  obtain ⟨scheme, authority, tail, rfl, goes⟩ := read_addressOf f named
  obtain ⟨noHash, noQuestion⟩ : '#' ∉ tail ∧ '?' ∉ tail := by
    simpa using (ofTail_open_iff scheme authority _).1 ⟨noQuery, noFragment⟩
  constructor
  · intro same
    have segment : IsSegment f.description.executor.toList :=
      isSegment_of_mem_read same (List.mem_append_right _ List.mem_cons_self)
    obtain ⟨above, first, below⟩ := path_of_isSegment scheme authority noHash noQuestion segment
    rw [goes, filter_pathText segment] at same
    have paths := congrArg Place.path (Option.some.inj same)
    rw [below, first, List.dropLast_concat] at paths
    exact ⟨segment, resolve_route_iff.1 paths⟩
  · rintro ⟨segment, name⟩
    obtain ⟨above, first, below⟩ := path_of_isSegment scheme authority noHash noQuestion segment
    obtain ⟨pathHash, pathQuestion⟩ := unmarked_pathText segment
    have hash : '#' ∉ tail ++ '/' :: pathText f := by simp [noHash, pathHash]
    have question : '?' ∉ tail ++ '/' :: pathText f := by simp [noQuestion, pathQuestion]
    rw [goes, filter_pathText segment, ofTail_eq scheme authority hash question, below,
      resolve_route_iff.2 name, first, List.dropLast_concat, noQuery, noFragment]
    rfl

/-- Behind a query or a fragment an address names no other path. -/
theorem path_addressOf (f : Function) (named : read accepts (bareHost host ++ ['/']) = some base)
    (marked : base.query ≠ none ∨ base.fragment ≠ none) :
    ∃ place, read accepts (addressOf host f).toList = some place ∧ place.path = base.path := by
  obtain ⟨scheme, authority, tail, rfl, goes⟩ := read_addressOf f named
  have inside : '#' ∈ tail ∨ '?' ∈ tail := by
    by_contra missing
    have plain := (ofTail_open_iff scheme authority (tail ++ ['/'])).2
      (by simpa using not_or.1 missing)
    exact marked.elim (fun query => query plain.1) fun fragment => fragment plain.2
  refine ⟨_, goes, ?_⟩
  rw [path_ofTail_of_marked scheme authority _ inside,
    path_ofTail_of_marked scheme authority ['/'] inside]

/-- The kind of the executor decides which path the address of a function names. -/
theorem routes_by_executor (accepts : List Char → Bool) (host : String) (f : Function) :
    Routes accepts host f where
  held := ⟨_, parse_composed f.id f.description⟩
  stripped := bareHost_append host
  bare := getLast?_bareHost host
  address := toList_addressOf host f
  address_eq_iff g := addressOf_eq_iff
  read_iff {base} named := by
    by_cases plain : base.query = none ∧ base.fragment = none
    · rw [read_addressOf_iff named plain.1 plain.2]
      simp [plain]
    · have marked : base.query ≠ none ∨ base.fragment ≠ none := not_and_or.1 plain
      obtain ⟨place, goes, stays⟩ := path_addressOf f named marked
      refine iff_of_false (fun whole => ?_) fun ⟨query, fragment, _⟩ => plain ⟨query, fragment⟩
      -- The path of the place is not longer than that of the host.
      rw [goes] at whole
      have paths := congrArg (·.path.length) (Option.some.inj whole)
      simp [stays, route] at paths
      omega
  aside named marked := path_addressOf f named marked

/-- Executors of a catalog with which the address names something else than the path of the
function: by a slash or a backslash, in a query or a fragment, above the path of the host, with a tab
left out, and with no host but the executor. -/
theorem routes_elsewhere :
    let host := "http://executor.local/"
    let d (executor : String) : Description := ⟨"n", "s", "", "", none, executor, "r", .stable⟩
    let named (host executor : String) : Option Place :=
      read (fun _ => true) (addressOf host (.new .nil (d executor))).toList
    let path (names : List String) : Option (List (List Char)) := some (names.map String.toList)
    let id := "00000000-0000-0000-0000-000000000000"
    Catalog.parse (Catalog.composed [(.nil, d "a/b")]) .undefined = .ok [.new .nil (d "a/b")] ∧
      addressOf host (.new .nil (d "a/b")) =
        "http://executor.local/a/b/function/00000000-0000-0000-0000-000000000000" ∧
      (named host "a/b").map Place.path = path ["a", "b", "function", id] ∧
      (named host "a\\b").map Place.path = path ["a", "b", "function", id] ∧
      (named host "a?b").bind Place.query = some ("b/function/" ++ id).toList ∧
      (named host "a#b").bind Place.fragment = some ("b/function/" ++ id).toList ∧
      (named "http://executor.local/api" "..").map Place.path = path ["function", id] ∧
      (named "http://executor.local/api" "%2E.").map Place.path = path ["function", id] ∧
      (named host "a\tb").map Place.path = path ["ab", "function", id] ∧
      (named "http://" "other.local").map Place.authority = some "other.local".toList := by
  intro host d named path id
  refine ⟨parse_composed .nil (d "a/b"), ?_, ?_, ?_, ?_, ?_, ?_, ?_, ?_, ?_⟩ <;> decide +kernel

end StartRequest

end FunctionAgent
