import ApiClient.Proofs.Document.References
import Mathlib.Tactic.ByContra

/-! Pointers by their segments. A lookup asks whether a pointer leads into a shelf, and
then takes its last segment for the name of a component. Segments before that one are not
looked at, so that a pointer to something within a component, or to nothing at all, can
lead to another component. -/

namespace ApiClient

/-! ## Routes -/

/-- The segments of a pointer from the root of a shelf on. The last one is a name. -/
structure Route where
  further : List Text
  name : Text
  further_plain : ∀ segment ∈ further, CodePoint.char '/' ∉ segment
  name_plain : CodePoint.char '/' ∉ name

namespace Route

def text (route : Route) : Text :=
  Text.unsplit '/' (route.further ++ [route.name])

/-- The route that is a name and nothing else. -/
def direct (name : Text) (plain : CodePoint.char '/' ∉ name) : Route :=
  ⟨[], name, nofun, plain⟩

private theorem text_cons (segment : Text) (further : List Text) (name : Text) :
    Text.unsplit (CodePoint.char '/') (segment :: further ++ [name]) =
      segment ++ CodePoint.char '/' :: Text.unsplit (CodePoint.char '/') (further ++ [name]) := by
  cases further <;> rfl

/-- Every text is a route. -/
theorem exists_text_eq (text : Text) : ∃ route : Route, route.text = text := by
  have parts := Text.split_ne_nil (· == CodePoint.char '/') text
  have plain {segment : Text} (member : segment ∈ Text.split (· == CodePoint.char '/') text) :
      CodePoint.char '/' ∉ segment := by
    intro slash
    simpa using Text.not_separates_of_mem_split member slash
  have split := List.dropLast_concat_getLast parts
  refine ⟨⟨_, _, fun segment member => plain ((List.dropLast_sublist _).subset member),
    plain (List.getLast_mem parts)⟩, ?_⟩
  rw [Route.text, split, Text.unsplit_split]

private theorem componentName_append_text (base : Text) (route : Route) :
    componentName (base ++ .char '/' :: route.text) = route.name := by
  obtain ⟨further, name, further_plain, name_plain⟩ := route
  rw [componentName, Text.afterLast_append_cons, Route.text]
  induction further with
  | nil => exact Text.afterLast_of_not_mem name_plain
  | cons segment further induction =>
      obtain ⟨_, others⟩ := List.forall_mem_cons.mp further_plain
      rw [text_cons, Text.afterLast_append_cons]
      exact induction others

end Route

/-! ## Lookups -/

section

variable {α : Type}

/-- The component of a name. -/
def Shelf.named (shelf : Shelf α) (name : Text) : Except ReferenceFault (OrReference α) :=
  match findNamed name shelf.parts with
  | some part => .ok part
  | none => .error .unknown

/-- The root of a shelf ends with a slash, so that a name follows it. -/
def Shelf.IsRooted (shelf : Shelf α) : Prop :=
  ∃ base, shelf.root = base ++ ("/" : Text)

/-- The lookups of a shelf go by the last segments of pointers. -/
structure Shelf.GoesByLastSegments (shelf : Shelf α) : Prop where
  /-- The name of a component stands last in every pointer that leads to it. -/
  found : ∀ pointer part, shelf.lookup pointer = .ok part ↔
    ∃ route : Route, pointer = shelf.root ++ route.text ∧
      findNamed route.name shelf.parts = some part
  unknown : ∀ pointer, shelf.lookup pointer = .error .unknown ↔
    ∃ route : Route, pointer = shelf.root ++ route.text ∧ findNamed route.name shelf.parts = none
  misplaced : ∀ pointer expected, shelf.lookup pointer = .error (.misplaced expected) ↔
    ¬ shelf.root <+: pointer ∧ expected = shelf.root
  /-- A name alone leads to the component of that name or to none. -/
  direct : ∀ name part, CodePoint.char '/' ∉ name →
    (shelf.lookup (shelf.root ++ name) = .ok part ↔ findNamed name shelf.parts = some part)
  /-- Segments before the last one make no difference. -/
  further : ∀ route : Route,
    shelf.lookup (shelf.root ++ route.text) = shelf.lookup (shelf.root ++ route.name)

private theorem Shelf.lookup_append_text {shelf : Shelf α} (rooted : shelf.IsRooted)
    (route : Route) :
    shelf.lookup (shelf.root ++ route.text) = shelf.named route.name := by
  obtain ⟨base, isRoot⟩ := rooted
  have name : componentName (shelf.root ++ route.text) = route.name := by
    rw [isRoot, List.append_assoc]
    exact route.componentName_append_text base
  have leads : shelf.root.isPrefixOf (shelf.root ++ route.text) :=
    List.isPrefixOf_iff_prefix.mpr (List.prefix_append _ _)
  rw [Shelf.lookup, if_pos leads, name]
  rfl

private theorem Shelf.lookup_of_outside {shelf : Shelf α} {pointer : Text}
    (outside : ¬ shelf.root <+: pointer) :
    shelf.lookup pointer = .error (.misplaced shelf.root) := by
  rw [Shelf.lookup, if_neg (mt List.isPrefixOf_iff_prefix.mp outside)]

/-- Either a pointer leads into a shelf along a route, or it does not. -/
theorem Shelf.exists_route_or_outside (shelf : Shelf α) (pointer : Text) :
    (∃ route : Route, pointer = shelf.root ++ route.text) ∨ ¬ shelf.root <+: pointer := by
  by_cases leads : shelf.root <+: pointer
  · obtain ⟨rest, rfl⟩ := leads
    obtain ⟨route, rfl⟩ := Route.exists_text_eq rest
    exact .inl ⟨route, rfl⟩
  · exact .inr leads

private theorem Shelf.lookup_eq_iff {shelf : Shelf α} (rooted : shelf.IsRooted) {pointer : Text}
    {outcome : Except ReferenceFault (OrReference α)} :
    shelf.lookup pointer = outcome ↔
      (∃ route : Route, pointer = shelf.root ++ route.text ∧ shelf.named route.name = outcome) ∨
      ¬ shelf.root <+: pointer ∧ .error (.misplaced shelf.root) = outcome := by
  constructor
  · rintro rfl
    rcases shelf.exists_route_or_outside pointer with ⟨route, rfl⟩ | outside
    · exact .inl ⟨route, rfl, (lookup_append_text rooted route).symm⟩
    · exact .inr ⟨outside, (lookup_of_outside outside).symm⟩
  · rintro (⟨route, rfl, rfl⟩ | ⟨outside, rfl⟩)
    · exact lookup_append_text rooted route
    · exact lookup_of_outside outside

private theorem Shelf.named_eq_ok_iff {shelf : Shelf α} {name : Text} {part : OrReference α} :
    shelf.named name = .ok part ↔ findNamed name shelf.parts = some part := by
  rw [named]
  cases findNamed name shelf.parts <;> simp

private theorem Shelf.named_eq_error_iff {shelf : Shelf α} {name : Text} {fault : ReferenceFault} :
    shelf.named name = .error fault ↔ findNamed name shelf.parts = none ∧ fault = .unknown := by
  rw [named]
  cases findNamed name shelf.parts <;> simp [eq_comm]

private theorem Shelf.goesByLastSegments {shelf : Shelf α} (rooted : shelf.IsRooted) :
    shelf.GoesByLastSegments where
  found pointer part := by
    rw [lookup_eq_iff rooted, or_iff_left (fun outside => nomatch outside.2)]
    simp only [named_eq_ok_iff]
  unknown pointer := by
    rw [lookup_eq_iff rooted, or_iff_left (fun outside => nomatch outside.2)]
    simp only [named_eq_error_iff, and_true]
  misplaced pointer expected := by
    rw [lookup_eq_iff rooted, or_iff_right]
    · simp [eq_comm]
    · rintro ⟨route, _, fails⟩
      exact nomatch (named_eq_error_iff.mp fails).2
  direct name part plain := by
    have alone := lookup_append_text rooted (Route.direct name plain)
    exact alone ▸ named_eq_ok_iff
  further route :=
    (lookup_append_text rooted route).trans
      (lookup_append_text rooted (Route.direct route.name route.name_plain)).symm

end

/-- In every document a pointer leads to the component that its last segment names, whatever other
segments stand between that one and the root. Just where there are none it leads to what it says. -/
theorem Document.lookups_lastSegments (document : Document) :
    document.parameterShelf.GoesByLastSegments ∧ document.requestBodyShelf.GoesByLastSegments :=
  ⟨Shelf.goesByLastSegments ⟨"#/components/parameters", rfl⟩,
    Shelf.goesByLastSegments ⟨"#/components/requestBodies", rfl⟩⟩

/-- A document with one parameter to share. -/
def sharedPage : Document where
  components :=
    some { parameters := some [("Page", .direct { name := "page", location := "query" })] }

/-- A pointer to a part of a component that there is not leads to another component. -/
theorem Document.lookup_passes_segment : ∃ part,
    sharedPage.parameterShelf.lookup "#/components/parameters/Missing/Page" = .ok part ∧
    ∀ name part, findNamed name sharedPage.parameterShelf.parts = some part →
      ("#/components/parameters/Missing/Page" : Text) ≠ sharedPage.parameterShelf.root ++ name := by
  refine ⟨_, rfl, fun name part named same => ?_⟩
  have only : name = "Page" := by
    by_contra other
    change (if ("Page" : Text) = name then _ else none) = _ at named
    rw [if_neg (Ne.symm other)] at named
    cases named
  rw [only] at same
  exact absurd same (by decide)

end ApiClient
