import ApiClient.Proofs.Api.Grouping

/-! Methods that give way to others. A class holds one method for an operation id, so
that a later one takes the place of an earlier one, and there is a warning each time.
The method that gives way is that of another endpoint, unless two tags of one
endpoint lead to the same class. -/

namespace ApiClient

/-! ## Tags in their places -/

/-- A tag of an endpoint, and the place that the endpoint has in a list. -/
structure PlacedTag where
  index : Nat
  endpoint : Endpoint
  tag : Text

/-- The tags of endpoints that stand in a list from a place on. -/
def placedTagsFrom (index : Nat) : List Endpoint → List PlacedTag
  | [] => []
  | endpoint :: rest => endpoint.tags.map (⟨index, endpoint, ·⟩) ++ placedTagsFrom (index + 1) rest

def placedTags (endpoints : List Endpoint) : List PlacedTag :=
  placedTagsFrom 0 endpoints

namespace PlacedTag

def tagging (placed : PlacedTag) : Endpoint × Text :=
  (placed.endpoint, placed.tag)

def operationId (placed : PlacedTag) : Text :=
  placed.endpoint.operationId

section

variable (space : Text)

/-- The name of the class to which a tag leads. -/
def className (placed : PlacedTag) : Text :=
  classNameFor space placed.tag

/-- There is one place for the methods of two tags. -/
def meets (placed other : PlacedTag) : Bool :=
  other.className space == placed.className space && other.operationId == placed.operationId

/-- The tag whose method stands, after some tags, where that of a further one is put. -/
def holder? (before : List PlacedTag) (placed : PlacedTag) : Option PlacedTag :=
  (before.filter (placed.meets space)).getLast?

end

def duplicateWarning (placed : PlacedTag) : LogEntry :=
  ⟨.warning, "Duplicate operationId " ++ shown placed.operationId ++
    " in tag " ++ shown placed.tag ++
    ", keeping " ++ Text.uppercased placed.endpoint.method ++ " " ++ placed.endpoint.path⟩

end PlacedTag

/-- A tag whose method gives way, and the one whose method takes its place. -/
structure Replacement where
  old : PlacedTag
  new : PlacedTag

def replacementsAfter (space : Text) (before : List PlacedTag) : List PlacedTag → List Replacement
  | [] => []
  | placed :: rest =>
    (placed.holder? space before).toList.map (⟨·, placed⟩) ++
      replacementsAfter space (before ++ [placed]) rest

/-- The replacements while methods are gathered, in their order. -/
def replacements (space : Text) (endpoints : List Endpoint) : List Replacement :=
  replacementsAfter space [] (placedTags endpoints)

def isDuplicateWarning (entry : LogEntry) : Bool :=
  (Text.ofString "Duplicate operationId ").isPrefixOf entry.message

/-- The text of the method that a class holds for an operation id. -/
def heldText (classes : List ApiClass) (name operationId : Text) : Option Text :=
  (classes.find? (·.name == name)).bind fun apiClass =>
    (apiClass.methods.find? (·.1 == operationId)).map (·.2)

/-! ## Places -/

section

variable {endpoints : List Endpoint}

private theorem map_tagging_placedTagsFrom (index : Nat) (endpoints : List Endpoint) :
    (placedTagsFrom index endpoints).map PlacedTag.tagging = taggings endpoints := by
  induction endpoints generalizing index with
  | nil => rfl
  | cons endpoint rest induction =>
      have own : (endpoint.tags.map (PlacedTag.mk index endpoint)).map PlacedTag.tagging =
          endpoint.tags.map (endpoint, ·) := List.map_map
      rw [placedTagsFrom, List.map_append, induction, own]
      rfl

theorem mem_placedTagsFrom {index : Nat} {placed : PlacedTag}
    (member : placed ∈ placedTagsFrom index endpoints) :
    index ≤ placed.index ∧ endpoints[placed.index - index]? = some placed.endpoint := by
  induction endpoints generalizing index with
  | nil => cases member
  | cons endpoint rest induction =>
      rcases List.mem_append.mp member with own | later
      · obtain ⟨tag, _, rfl⟩ := List.mem_map.mp own
        simp
      · obtain ⟨above, found⟩ := induction later
        obtain ⟨more, same⟩ := Nat.exists_eq_add_of_le above
        have further : placed.index - index = more + 1 := by omega
        have rest : placed.index - (index + 1) = more := by omega
        rw [rest] at found
        rw [further, List.getElem?_cons_succ]
        exact ⟨by omega, found⟩

private theorem endpoint_eq_of_index_eq {placed other : PlacedTag}
    (member : placed ∈ placedTags endpoints) (alsoMember : other ∈ placedTags endpoints)
    (same : placed.index = other.index) :
    placed.endpoint = other.endpoint := by
  have found := (mem_placedTagsFrom member).2
  have alsoFound := (mem_placedTagsFrom alsoMember).2
  rw [same] at found
  exact Option.some.inj (found.symm.trans alsoFound)

/-- Tags stand in the order of their endpoints. -/
theorem pairwise_placedTagsFrom (index : Nat) (endpoints : List Endpoint) :
    (placedTagsFrom index endpoints).Pairwise (·.index ≤ ·.index) := by
  induction endpoints generalizing index with
  | nil => exact .nil
  | cons endpoint rest induction =>
      refine List.pairwise_append.mpr ⟨?_, induction _, ?_⟩
      · exact List.pairwise_map.mpr (List.pairwise_of_forall fun _ _ => Nat.le_refl _)
      · rintro _ own other later
        obtain ⟨tag, _, rfl⟩ := List.mem_map.mp own
        exact Nat.le_of_succ_le (mem_placedTagsFrom later).1

/-- Where the tags of every endpoint lead to different classes, so do two tags in one place. -/
theorem pairwise_className (space : Text) (index : Nat)
    (apart : ∀ endpoint ∈ endpoints, (endpoint.tags.map (classNameFor space)).Nodup) :
    (placedTagsFrom index endpoints).Pairwise fun placed other =>
      placed.index = other.index → placed.className space ≠ other.className space := by
  induction endpoints generalizing index with
  | nil => exact .nil
  | cons endpoint rest induction =>
      obtain ⟨first, others⟩ := List.forall_mem_cons.mp apart
      refine List.pairwise_append.mpr ⟨?_, induction _ others, ?_⟩
      · refine List.pairwise_map.mpr ((List.pairwise_map.mp first).imp ?_)
        exact fun different _ => different
      · rintro _ own other later same
        obtain ⟨tag, _, rfl⟩ := List.mem_map.mp own
        have above := (mem_placedTagsFrom later).1
        rw [← same] at above
        exact absurd above (Nat.not_succ_le_self index)

end

/-! ## Methods that are held -/

section

variable {space : Text}

/-- One more tag holds a place if it meets it, and else changes nothing. -/
theorem holder?_append_singleton (before : List PlacedTag) (placed next : PlacedTag) :
    placed.holder? space (before ++ [next]) =
      if placed.meets space next then some next else placed.holder? space before := by
  rw [PlacedTag.holder?, PlacedTag.holder?, List.filter_append]
  by_cases meets : placed.meets space next <;> simp [meets]

private theorem holder?_concat (before : List PlacedTag) (placed : PlacedTag) :
    placed.holder? space (before ++ [placed]) = some placed := by
  have itself : placed.meets space placed := by simp [PlacedTag.meets]
  rw [holder?_append_singleton, if_pos itself]

/-- The tags of a class by their endpoints, and of these the last one with an operation id. -/
theorem endpoint_holder? (space : Text) (before : List PlacedTag) (placed : PlacedTag) :
    (placed.holder? space before).map (·.endpoint) =
      lastWith
        ((taggingsOf space (placed.className space) (before.map PlacedTag.tagging)).map (·.1))
        placed.operationId := by
  have same : before.filter (placed.meets space) = (before.filter
      fun other => other.className space == placed.className space).filter
        fun other => other.operationId == placed.operationId := by
    rw [List.filter_filter]
    exact List.filter_congr fun other _ => Bool.and_comm _ _
  rw [PlacedTag.holder?, same, lastWith, taggingsOf, List.filter_map, List.filter_map,
    List.filter_map, List.map_map, List.getLast?_map]
  rfl

private theorem find?_map_key {α β : Type} [BEq α] [LawfulBEq α] {image : α → β} {key : β → α}
    (keyed : ∀ item, key (image item) = item) (items : List α) (item : α) :
    (items.map image).find? (key · == item) = if item ∈ items then some (image item) else none := by
  induction items with
  | nil => rfl
  | cons other rest induction =>
      rw [List.map_cons]
      by_cases same : other = item
      · rw [List.find?_cons_of_pos (by simp [keyed, same]), same, if_pos List.mem_cons_self]
      · rw [List.find?_cons_of_neg (by simp [keyed, same]), induction]
        simp [Ne.symm same]

private theorem mem_operationIds_iff {endpoints : List Endpoint} {operationId : Text} :
    operationId ∈ operationIds endpoints ↔ (lastWith endpoints operationId).isSome := by
  constructor
  · intro member
    exact Option.isSome_iff_exists.mpr (exists_lastWith member)
  · intro found
    obtain ⟨endpoint, last⟩ := Option.isSome_iff_exists.mp found
    obtain ⟨among, same⟩ := List.mem_filter.mp (List.mem_of_getLast? last)
    exact List.mem_eraseDups.mpr (List.mem_map.mpr ⟨endpoint, among, eq_of_beq same⟩)

private theorem find?_methods_classOf (name : Text) (taggings : List (Endpoint × Text))
    (operationId : Text) :
    ((classOf name taggings).methods.find? (·.1 == operationId)).map (·.2) =
      (lastWith (taggings.map (·.1)) operationId).map Endpoint.methodText := by
  rw [classOf_methods, find?_map_key fun _ => rfl]
  cases last : lastWith (taggings.map (·.1)) operationId with
  | none =>
      have missing : operationId ∉ operationIds (taggings.map (·.1)) := by
        simp [mem_operationIds_iff, last]
      rw [if_neg missing]
      rfl
  | some endpoint =>
      have present : operationId ∈ operationIds (taggings.map (·.1)) := by
        simp [mem_operationIds_iff, last]
      rw [if_pos present, lastText, last]
      rfl

private theorem any_methods_classOf (name : Text) (taggings : List (Endpoint × Text))
    (operationId : Text) :
    (classOf name taggings).methods.any (·.1 == operationId) =
      (lastWith (taggings.map (·.1)) operationId).isSome := by
  have found := congrArg Option.isSome (find?_methods_classOf name taggings operationId)
  rw [Option.isSome_map, Option.isSome_map] at found
  rw [← found, Bool.eq_iff_iff, List.find?_isSome, List.any_eq_true]

/-- A class holds the method of the last endpoint with the operation id that has a tag for the
class. -/
theorem heldText_classesOf (taggings : List (Endpoint × Text)) (name operationId : Text) :
    heldText (classesOf space taggings) name operationId =
      (lastWith ((taggingsOf space name taggings).map (·.1)) operationId).map
        Endpoint.methodText := by
  rw [heldText, classesOf, find?_map_key fun name => classOf_name name _]
  by_cases member : name ∈ (taggings.map (classNameFor space ·.2)).eraseDups
  · rw [if_pos member]
    exact find?_methods_classOf name _ operationId
  · rw [if_neg member, taggingsOf_of_not_mem space member]
    rfl

private theorem heldText_gather (before : List PlacedTag) (placed : PlacedTag) :
    heldText (gather space (before.map PlacedTag.tagging) []).1 (placed.className space)
        placed.operationId =
      (placed.holder? space before).map (·.endpoint.methodText) := by
  have gathered : (gather space (before.map PlacedTag.tagging) []).1 =
      classesOf space (before.map PlacedTag.tagging) :=
    gather_classesOf space [] _
  rw [gathered, heldText_classesOf, ← endpoint_holder?, Option.map_map]
  rfl

/-! ## Warnings -/

private theorem filter_mergeWarning (apiClass : ApiClass) (tag : Text) :
    (apiClass.mergeWarning tag).filter isDuplicateWarning = [] := by
  rw [ApiClass.mergeWarning]
  split
  · rfl
  · split <;> rfl

private theorem addMethod_map_log (name : Text) (endpoint : Endpoint) (tag : Text)
    {names : List Text} {content : Text → ApiClass} (named : ∀ name, (content name).name = name) :
    (addMethod name endpoint tag (names.map content)).2 =
      if name ∈ names then
        (content name).mergeWarning tag ++ (content name).duplicateWarning endpoint tag
      else [] := by
  induction names with
  | nil => rfl
  | cons other rest induction =>
      rw [List.map_cons, addMethod, named]
      by_cases same : other = name
      · rw [if_pos same, same, if_pos List.mem_cons_self]
      · rw [if_neg same]
        refine induction.trans ?_
        simp [Ne.symm same]

/-- A tag leaves one warning if its method takes the place of another, and none otherwise. -/
theorem duplicateWarnings_addMethod (space : Text) (before : List PlacedTag) (placed : PlacedTag) :
    (addMethod (placed.className space) placed.endpoint placed.tag
        (classesOf space (before.map PlacedTag.tagging))).2.filter isDuplicateWarning =
      (placed.holder? space before).toList.map fun _ => placed.duplicateWarning := by
  have held := endpoint_holder? space before placed
  rw [classesOf, addMethod_map_log _ _ _ fun name => classOf_name name _]
  split
  · rw [List.filter_append, filter_mergeWarning, List.nil_append, ApiClass.duplicateWarning,
      any_methods_classOf]
    change List.filter _ (if (lastWith _ placed.operationId).isSome then _ else _) = _
    rw [← held]
    cases placed.holder? space before <;> rfl
  · rename_i missing
    rw [taggingsOf_of_not_mem space missing] at held
    have nothing : placed.holder? space before = none := Option.map_eq_none_iff.mp held
    rw [nothing]
    rfl

private theorem duplicateWarnings_gather (space : Text) (before rest : List PlacedTag) :
    (gather space (rest.map PlacedTag.tagging)
        (classesOf space (before.map PlacedTag.tagging))).2.filter isDuplicateWarning =
      (replacementsAfter space before rest).map (·.new.duplicateWarning) := by
  induction rest generalizing before with
  | nil => rfl
  | cons placed rest induction =>
      have step :=
        addMethod_classesOf space (before.map PlacedTag.tagging) placed.endpoint placed.tag
      have own := duplicateWarnings_addMethod space before placed
      have later := induction (before ++ [placed])
      have gathered : before.map PlacedTag.tagging ++ [(placed.endpoint, placed.tag)] =
          (before ++ [placed]).map PlacedTag.tagging := by
        rw [List.map_append]
        rfl
      rw [gathered] at step
      rw [← step] at later
      rw [replacementsAfter, List.map_append, List.map_map]
      exact (List.filter_append _ _).trans (congrArg₂ (· ++ ·) own later)

/-! ## Replacements -/

theorem mem_replacementsAfter_iff {before rest : List PlacedTag} {replacement : Replacement} :
    replacement ∈ replacementsAfter space before rest ↔
      ∃ middle after, rest = middle ++ replacement.new :: after ∧
        replacement.new.holder? space (before ++ middle) = some replacement.old := by
  induction rest generalizing before with
  | nil => simp [replacementsAfter]
  | cons placed rest induction =>
      rw [replacementsAfter, List.mem_append, induction]
      constructor
      · rintro (here | ⟨middle, after, rfl, held⟩)
        · obtain ⟨old, held, rfl⟩ := List.mem_map.mp here
          exact ⟨[], rest, rfl, by simpa using held⟩
        · exact ⟨placed :: middle, after, rfl, by simpa using held⟩
      · rintro ⟨middle, after, split, held⟩
        cases middle with
        | nil =>
            obtain ⟨rfl, rfl⟩ := List.cons.inj split
            exact .inl (List.mem_map.mpr ⟨_, by simpa using held, rfl⟩)
        | cons other middle =>
            obtain ⟨rfl, rfl⟩ := List.cons.inj split
            exact .inr ⟨middle, after, rfl, by simpa using held⟩

private theorem mem_of_holder? {before : List PlacedTag} {placed old : PlacedTag}
    (held : placed.holder? space before = some old) : old ∈ before ∧ placed.meets space old :=
  List.mem_filter.mp (List.mem_of_getLast? held)

private theorem holder?_of_meets {placed other : PlacedTag} (meets : placed.meets space other)
    (before : List PlacedTag) : other.holder? space before = placed.holder? space before := by
  have alike := Bool.and_eq_true_iff.mp meets
  have sameClass : other.className space = placed.className space := eq_of_beq alike.1
  have sameOperation : other.operationId = placed.operationId := eq_of_beq alike.2
  have same : other.meets space = placed.meets space := by
    funext another
    rw [PlacedTag.meets, PlacedTag.meets, sameClass, sameOperation]
  rw [PlacedTag.holder?, PlacedTag.holder?, same]

/-- In an order, the last of some items comes after each of them. -/
theorem rel_getLast? {α : Type} {related : α → α → Prop} (reflexive : ∀ item, related item item)
    {items : List α} (ordered : items.Pairwise related) {last item : α}
    (isLast : items.getLast? = some last) (member : item ∈ items) : related item last := by
  obtain ⟨before, rfl⟩ := List.getLast?_eq_some_iff.mp isLast
  rcases List.mem_append.mp member with early | final
  · exact (List.pairwise_append.mp ordered).2.2 item early last (List.mem_singleton_self last)
  · rw [List.mem_singleton.mp final]
    exact reflexive last

/-- A method gives way to one of the same endpoint if an earlier tag of the
endpoint leads to the class. -/
theorem index_old_eq_iff {endpoints : List Endpoint} {before after : List PlacedTag}
    {new old : PlacedTag} (split : placedTags endpoints = before ++ new :: after)
    (held : new.holder? space before = some old) :
    old.index = new.index ↔
      ∃ other ∈ before, other.index = new.index ∧ other.className space = new.className space := by
  have ordered := pairwise_placedTagsFrom 0 endpoints
  rw [← placedTags, split] at ordered
  obtain ⟨early, _, apart⟩ := List.pairwise_append.mp ordered
  obtain ⟨among, meets⟩ := mem_of_holder? held
  constructor
  · intro same
    have sameClass := (Bool.and_eq_true_iff.mp meets).1
    exact ⟨old, among, same, eq_of_beq sameClass⟩
  · rintro ⟨other, alsoAmong, same, sameClass⟩
    have inPlaces {placed : PlacedTag} (member : placed ∈ before ++ new :: after) :
        placed ∈ placedTags endpoints := split ▸ member
    have sameEndpoint : other.endpoint = new.endpoint :=
      endpoint_eq_of_index_eq (inPlaces (List.mem_append_left _ alsoAmong))
        (inPlaces (List.mem_append_right _ List.mem_cons_self)) same
    have alsoMeets : other ∈ before.filter (new.meets space) := by
      refine List.mem_filter.mpr ⟨alsoAmong, ?_⟩
      simp [PlacedTag.meets, PlacedTag.operationId, sameClass, sameEndpoint]
    have ordered : (before.filter (new.meets space)).Pairwise fun placed later =>
        placed.index ≤ later.index := early.filter _
    have notLast : other.index ≤ old.index :=
      rel_getLast? (fun placed => Nat.le_refl placed.index) ordered held alsoMeets
    have notLater : old.index ≤ new.index := apart old among new List.mem_cons_self
    omega

/-- A method stays until one takes its place. -/
theorem holder?_or_replaced {before : List PlacedTag} {placed old : PlacedTag}
    (rest : List PlacedTag) (held : placed.holder? space before = some old) :
    (∃ last, placed.holder? space (before ++ rest) = some last ∧ last.index = old.index) ∨
      ∃ replacement ∈ replacementsAfter space before rest,
        replacement.old.index = old.index ∧ replacement.new.index ≠ old.index ∧
          placed.meets space replacement.new := by
  induction rest generalizing before old with
  | nil => exact .inl ⟨old, by rwa [List.append_nil], rfl⟩
  | cons next rest induction =>
      have goesOn {now : PlacedTag} (held : placed.holder? space (before ++ [next]) = some now)
          (same : now.index = old.index) :
          (∃ last, placed.holder? space (before ++ next :: rest) = some last ∧
              last.index = old.index) ∨
            ∃ replacement ∈ replacementsAfter space before (next :: rest),
              replacement.old.index = old.index ∧ replacement.new.index ≠ old.index ∧
                placed.meets space replacement.new := by
        rcases induction held with ⟨last, found, alike⟩ | ⟨replacement, member, alike, other, meets⟩
        · rw [List.append_assoc] at found
          exact .inl ⟨last, found, alike.trans same⟩
        · rw [same] at alike other
          exact .inr ⟨replacement, List.mem_append_right _ member, alike, other, meets⟩
      have later : placed.holder? space (before ++ [next]) =
          if placed.meets space next then some next else some old :=
        held ▸ holder?_append_singleton before placed next
      by_cases meets : placed.meets space next
      · rw [if_pos meets] at later
        by_cases same : next.index = old.index
        · exact goesOn later same
        · have givesWay : next.holder? space before = some old :=
            (holder?_of_meets meets before).trans held
          refine .inr ⟨⟨old, next⟩, List.mem_append_left _ ?_, rfl, same, meets⟩
          simp [givesWay]
      · rw [if_neg meets] at later
        exact goesOn later rfl

/-- A method is there at the end if none takes its place. -/
theorem lasts_or_replaced {endpoints : List Endpoint} {placed : PlacedTag}
    (member : placed ∈ placedTags endpoints) :
    (∃ last, placed.holder? space (placedTags endpoints) = some last ∧ last.index = placed.index) ∨
      ∃ replacement ∈ replacements space endpoints,
        replacement.old.index = placed.index ∧ replacement.new.index ≠ placed.index ∧
          placed.meets space replacement.new := by
  obtain ⟨before, after, split⟩ := List.append_of_mem member
  have sides : placedTags endpoints = (before ++ [placed]) ++ after := by
    rw [split, List.append_assoc]
    rfl
  rw [replacements, sides]
  rcases holder?_or_replaced after (holder?_concat before placed) with
    stays | ⟨replacement, among, isOld, isOther, meets⟩
  · exact .inl stays
  · obtain ⟨middle, later, rest, held⟩ := mem_replacementsAfter_iff.mp among
    refine .inr ⟨replacement,
      mem_replacementsAfter_iff.mpr ⟨before ++ placed :: middle, later, ?_, ?_⟩, isOld, isOther,
      meets⟩
    · rw [rest, List.append_assoc, List.append_assoc]
      rfl
    · rw [List.append_assoc] at held
      exact held

/-- Where the tags of every endpoint lead to different classes, each method gives way
to one of another endpoint. -/
theorem index_old_ne {endpoints : List Endpoint}
    (apart : ∀ endpoint ∈ endpoints, (endpoint.tags.map (classNameFor space)).Nodup)
    {replacement : Replacement} (member : replacement ∈ replacements space endpoints) :
    replacement.old.index ≠ replacement.new.index := by
  obtain ⟨before, after, split, held⟩ := mem_replacementsAfter_iff.mp member
  intro same
  obtain ⟨other, early, sameIndex, sameClass⟩ := (index_old_eq_iff split held).mp same
  have different := pairwise_className space 0 apart
  rw [← placedTags, split] at different
  have apart := (List.pairwise_append.mp different).2.2
  exact apart other early replacement.new List.mem_cons_self sameIndex sameClass

/-! ## All duplicates -/

/-- What the warnings tell of the methods that give way. -/
structure WarnsOfReplacements (space : Text) (endpoints : List Endpoint) (log : List LogEntry) :
    Prop where
  tags : (placedTags endpoints).map PlacedTag.tagging = taggings endpoints
  places : ∀ placed ∈ placedTags endpoints, endpoints[placed.index]? = some placed.endpoint
  /-- There is a warning for each replacement and no other one, in order. -/
  warned : log.filter isDuplicateWarning =
    (replacements space endpoints).map (·.new.duplicateWarning)
  /-- A replacement is a tag that finds a method where its own one is put. -/
  replaced : ∀ replacement, replacement ∈ replacements space endpoints ↔
    ∃ before after, placedTags endpoints = before ++ replacement.new :: after ∧
      replacement.new.holder? space before = some replacement.old
  /-- The method that is there is that of the holder. -/
  held : ∀ before (placed : PlacedTag),
    heldText (gather space (before.map PlacedTag.tagging) []).1 (placed.className space)
        placed.operationId =
      (placed.holder? space before).map (·.endpoint.methodText)
  /-- It belongs to the same endpoint just if an earlier tag of this endpoint leads to the class. -/
  own : ∀ before new after old, placedTags endpoints = before ++ new :: after →
    new.holder? space before = some old →
      (old.index = new.index ↔
        ∃ other ∈ before, other.index = new.index ∧ other.className space = new.className space)
  /-- No method is lost without a warning for another endpoint. -/
  kept : ∀ placed ∈ placedTags endpoints,
    (∃ last, placed.holder? space (placedTags endpoints) = some last ∧ last.index = placed.index) ∨
      ∃ replacement ∈ replacements space endpoints,
        replacement.old.index = placed.index ∧ replacement.new.index ≠ placed.index ∧
          placed.meets space replacement.new
  /-- With tags that lead to different classes, every warning is about two endpoints. -/
  distinct : (∀ endpoint ∈ endpoints, (endpoint.tags.map (classNameFor space)).Nodup) →
    ∀ replacement ∈ replacements space endpoints, replacement.old.index ≠ replacement.new.index

theorem renderApi_warnsOfReplacements {ε : Type} (imports : ApiImports)
    (endpoints : List Endpoint) :
    WarnsOfReplacements imports.space endpoints
      (renderApi imports endpoints : Logged ε Text).log where
  tags := map_tagging_placedTagsFrom 0 endpoints
  places _ member := (mem_placedTagsFrom member).2
  warned := by
    have all := duplicateWarnings_gather imports.space [] (placedTags endpoints)
    rw [placedTags, map_tagging_placedTagsFrom] at all
    exact all
  replaced _ := mem_replacementsAfter_iff
  held := heldText_gather
  own _ _ _ _ := index_old_eq_iff
  kept _ := lasts_or_replaced
  distinct apart _ := index_old_ne apart

end

/-- An endpoint that has one tag twice. -/
def repeatsTag : Endpoint where
  path := "/ping"
  method := "get"
  operationId := "ping"
  tags := ["misc", "misc"]

/-- There is a warning though no method of another endpoint is there. -/
theorem renderApi_warnsOfItself :
    (renderApi {} [repeatsTag] : Logged Empty Text).log =
        [⟨.warning, "Duplicate operationId 'ping' in tag 'misc', keeping GET /ping"⟩] ∧
      ∀ replacement ∈ replacements "Models" [repeatsTag],
        replacement.old.index = replacement.new.index := by
  decide +kernel

end ApiClient
