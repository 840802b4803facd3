import ApiClient.Api.Module
import Mathlib.Data.List.Induction
import Mathlib.Data.List.Nodup

/-! The classes of the methods as a grouping. What is gathered step by step, with classes and
methods that are changed in place, can be said at once: the order is that of first occurrences,
and the content that of last ones. -/

namespace ApiClient

/-! ## What stands where -/

/-- The names that the module imports. -/
def importedNames (space : Text) : List Text :=
  ["Request", space]

/-- The name of the group of a tag: the class name that the tag makes, with a suffix exactly if this
is the name of an import. -/
def groupName (space tag : Text) : Text :=
  if (importedNames space).contains (className tag) then className tag ++ "Api" else className tag

/-- The names of the classes, in the order in which tags first lead to them. -/
def classNames (space : Text) (endpoints : List Endpoint) : List Text :=
  (endpoints.flatMap fun endpoint => endpoint.tags.map (groupName space)).eraseDups

/-- The endpoints with a tag that leads to a class. -/
def classMembers (space name : Text) (endpoints : List Endpoint) : List Endpoint :=
  endpoints.filter fun endpoint => endpoint.tags.any (groupName space · == name)

def operationIds (endpoints : List Endpoint) : List Text :=
  (endpoints.map (·.operationId)).eraseDups

/-- The last endpoint with an operation id. -/
def lastWith (endpoints : List Endpoint) (operationId : Text) : Option Endpoint :=
  (endpoints.filter (·.operationId == operationId)).getLast?

/-- A class of a name with methods of given texts. -/
def classText (name : Text) (methods : List Text) : Text :=
  "export class " ++ name ++ " \x7b\n" ++ indented (joined "\n\n" methods) ++ "\n\x7d"

/-- The class that the module gives to a tag is its group. -/
theorem classNameFor_eq_groupName : classNameFor = groupName := by
  funext space tag
  have imported : (importedNames space).contains (className tag) ↔
      className tag = "Request" ∨ className tag = space := by
    simp [importedNames]
  rw [classNameFor, groupName]
  by_cases taken : className tag = "Request" ∨ className tag = space
  · rw [if_pos (imported.mpr taken)]
    exact if_pos taken
  · rw [if_neg (mt imported.mp taken)]
    exact if_neg taken

/-! ## First occurrences -/

section

variable {α β : Type} [BEq α] [LawfulBEq α]

/-- A name at the end of names, unless it is there already. -/
def addLast (item : α) (items : List α) : List α :=
  if items.contains item then items else items ++ [item]

private theorem addLast_cons_self (item : α) (items : List α) :
    addLast item (item :: items) = item :: items := by
  simp [addLast]

private theorem addLast_cons_of_ne {item other : α} (ne : other ≠ item) (items : List α) :
    addLast item (other :: items) = other :: addLast item items := by
  unfold addLast
  by_cases member : item ∈ items
  · simp [member]
  · simp [member, Ne.symm ne]

theorem eraseDups_concat (items : List α) (item : α) :
    (items ++ [item]).eraseDups = addLast item items.eraseDups := by
  rw [List.eraseDups_append, addLast]
  by_cases member : item ∈ items
  · simp [member, List.removeAll]
  · simp [member, List.removeAll, List.eraseDups_cons]

private theorem mem_addLast (item : α) (items : List α) : item ∈ addLast item items := by
  unfold addLast
  split
  · rename_i member
    exact List.contains_iff_mem.mp member
  · exact List.mem_append_right _ (List.mem_singleton_self item)

private theorem addLast_of_mem {item : α} {items : List α} (member : item ∈ items) :
    addLast item items = items :=
  if_pos (List.contains_iff_mem.mpr member)

private theorem eraseDups_append_replicate (items : List α) (item : α) (more : Nat) :
    (items ++ List.replicate (more + 1) item).eraseDups = addLast item items.eraseDups := by
  induction more with
  | zero => exact eraseDups_concat items item
  | succ more induction =>
      rw [List.replicate_succ', ← List.append_assoc, eraseDups_concat, induction,
        addLast_of_mem (mem_addLast item _)]

private theorem nodup_addLast {items : List α} (nodup : items.Nodup) (item : α) :
    (addLast item items).Nodup := by
  unfold addLast
  split
  · exact nodup
  · rename_i missing
    simp only [List.contains_iff_mem] at missing
    have apart : List.Disjoint items [item] := by simpa using missing
    exact nodup.append (List.nodup_singleton item) apart

private theorem nodup_eraseDups (items : List α) : items.eraseDups.Nodup := by
  induction items using List.reverseRecOn with
  | nil => exact List.nodup_nil
  | append_singleton items item induction =>
      rw [eraseDups_concat]
      exact nodup_addLast induction item

end

/-! ## Methods -/

/-- Methods that stand by distinct operation ids are changed, or added to, by putting one more. -/
theorem putMethod_map (operationId text : Text) {ids : List Text} (nodup : ids.Nodup)
    (value : Text → Text) :
    putMethod operationId text (ids.map fun id => (id, value id)) =
      (addLast operationId ids).map fun id =>
        (id, if id = operationId then text else value id) := by
  induction ids with
  | nil => simp [putMethod, addLast]
  | cons id rest induction =>
      have ⟨apart, others⟩ := List.nodup_cons.mp nodup
      rw [List.map_cons, putMethod]
      by_cases same : id = operationId
      · subst same
        have unchanged : rest.map (fun other => (other, value other)) =
            rest.map fun other => (other, if other = id then text else value other) := by
          apply List.map_congr_left
          intro other member
          have ne : other ≠ id := fun equal => apart (equal ▸ member)
          rw [if_neg ne]
        rw [if_pos rfl, addLast_cons_self, List.map_cons, if_pos rfl, unchanged]
      · rw [if_neg same, addLast_cons_of_ne same, List.map_cons, if_neg same, induction others]

private theorem operationIds_concat (endpoints : List Endpoint) (endpoint : Endpoint) :
    operationIds (endpoints ++ [endpoint]) =
      addLast endpoint.operationId (operationIds endpoints) := by
  rw [operationIds, List.map_append, List.map_cons, List.map_nil, eraseDups_concat]
  rfl

private theorem lastWith_concat (endpoints : List Endpoint) (endpoint : Endpoint)
    (operationId : Text) :
    lastWith (endpoints ++ [endpoint]) operationId =
      if operationId = endpoint.operationId then some endpoint
      else lastWith endpoints operationId := by
  unfold lastWith
  rw [List.filter_append]
  split
  · rename_i same
    simp [same]
  · rename_i other
    simp [Ne.symm other]

/-- The text of the method for an operation id, where there is one. -/
def lastText (endpoints : List Endpoint) (operationId : Text) : Text :=
  ((lastWith endpoints operationId).map Endpoint.methodText).getD []

private theorem lastText_concat (endpoints : List Endpoint) (endpoint : Endpoint)
    (operationId : Text) :
    lastText (endpoints ++ [endpoint]) operationId =
      if operationId = endpoint.operationId then endpoint.methodText
      else lastText endpoints operationId := by
  unfold lastText
  rw [lastWith_concat]
  split <;> rfl

/-- A class as it is after some taggings were added to it. -/
def classOf (name : Text) (taggings : List (Endpoint × Text)) : ApiClass :=
  taggings.foldl (fun apiClass tagging => apiClass.withMethod tagging.1 tagging.2)
    (ApiClass.mk name [] [])

theorem classOf_concat (name : Text) (taggings : List (Endpoint × Text)) (endpoint : Endpoint)
    (tag : Text) :
    classOf name (taggings ++ [(endpoint, tag)]) =
      (classOf name taggings).withMethod endpoint tag := by
  rw [classOf, List.foldl_append]
  rfl

theorem classOf_name (name : Text) (taggings : List (Endpoint × Text)) :
    (classOf name taggings).name = name := by
  induction taggings using List.reverseRecOn with
  | nil => rfl
  | append_singleton taggings tagging induction =>
      rw [classOf_concat]
      exact induction

theorem classOf_methods (name : Text) (taggings : List (Endpoint × Text)) :
    (classOf name taggings).methods = (operationIds (taggings.map (·.1))).map fun id =>
      (id, lastText (taggings.map (·.1)) id) := by
  induction taggings using List.reverseRecOn with
  | nil => rfl
  | append_singleton taggings tagging induction =>
      obtain ⟨endpoint, tag⟩ := tagging
      have nodup : (operationIds (taggings.map (·.1))).Nodup := nodup_eraseDups _
      rw [classOf_concat, ApiClass.withMethod]
      dsimp only
      rw [induction, putMethod_map _ _ nodup, List.map_append, List.map_cons, List.map_nil,
        operationIds_concat]
      simp only [lastText_concat]

/-! ## Classes -/

/-- Classes that stand by distinct names are changed, or added to, by adding one more method. The
class of a name that is missing counts as one without methods. -/
theorem addMethod_map (name : Text) (endpoint : Endpoint) (tag : Text) {names : List Text}
    (nodup : names.Nodup) (content : Text → ApiClass) (named : ∀ name, (content name).name = name)
    (missing : name ∉ names → content name = ⟨name, [], []⟩) :
    (addMethod name endpoint tag (names.map content)).1 =
      (addLast name names).map fun other =>
        if other = name then (content other).withMethod endpoint tag else content other := by
  induction names with
  | nil =>
      have empty := missing List.not_mem_nil
      simp [addMethod, addLast, empty]
  | cons other rest induction =>
      have ⟨apart, others⟩ := List.nodup_cons.mp nodup
      rw [List.map_cons, addMethod, named]
      by_cases same : other = name
      · subst same
        have unchanged : rest.map content = rest.map fun another =>
            if another = other then (content another).withMethod endpoint tag
            else content another := by
          apply List.map_congr_left
          intro another member
          have ne : another ≠ other := fun equal => apart (equal ▸ member)
          rw [if_neg ne]
        rw [if_pos rfl, addLast_cons_self, List.map_cons, if_pos rfl, unchanged]
      · have later := induction others fun absent =>
          missing fun member => (List.mem_cons.mp member).elim (Ne.symm same) absent
        rw [if_neg same, addLast_cons_of_ne same, List.map_cons, if_neg same]
        exact congrArg (content other :: ·) later

section

variable (space : Text)

/-- The taggings that lead to a class. -/
def taggingsOf (name : Text) (taggings : List (Endpoint × Text)) : List (Endpoint × Text) :=
  taggings.filter (classNameFor space ·.2 == name)

/-- The classes after some taggings. -/
def classesOf (taggings : List (Endpoint × Text)) : List ApiClass :=
  (taggings.map (classNameFor space ·.2)).eraseDups.map fun name =>
    classOf name (taggingsOf space name taggings)

private theorem taggingsOf_concat (name : Text) (taggings : List (Endpoint × Text))
    (endpoint : Endpoint) (tag : Text) :
    taggingsOf space name (taggings ++ [(endpoint, tag)]) =
      if name = classNameFor space tag then taggingsOf space name taggings ++ [(endpoint, tag)]
      else taggingsOf space name taggings := by
  unfold taggingsOf
  rw [List.filter_append]
  split
  · rename_i same
    simp [same]
  · rename_i other
    simp [Ne.symm other]

theorem taggingsOf_of_not_mem {name : Text} {taggings : List (Endpoint × Text)}
    (missing : name ∉ (taggings.map (classNameFor space ·.2)).eraseDups) :
    taggingsOf space name taggings = [] := by
  apply List.filter_eq_nil_iff.mpr
  intro tagging member same
  apply missing
  rw [List.mem_eraseDups, ← beq_iff_eq.mp same]
  exact List.mem_map_of_mem member

theorem addMethod_classesOf (taggings : List (Endpoint × Text)) (endpoint : Endpoint) (tag : Text) :
    (addMethod (classNameFor space tag) endpoint tag (classesOf space taggings)).1 =
      classesOf space (taggings ++ [(endpoint, tag)]) := by
  let content (name : Text) : ApiClass := classOf name (taggingsOf space name taggings)
  have named (name : Text) : (content name).name = name := classOf_name name _
  have missing : classNameFor space tag ∉ (taggings.map (classNameFor space ·.2)).eraseDups →
      content (classNameFor space tag) = ⟨classNameFor space tag, [], []⟩ := by
    intro missing
    dsimp only [content]
    rw [taggingsOf_of_not_mem space missing]
    rfl
  have step := addMethod_map (classNameFor space tag) endpoint tag (nodup_eraseDups _) content named
    missing
  rw [classesOf, classesOf, List.map_append, List.map_cons, List.map_nil, eraseDups_concat]
  refine step.trans (List.map_congr_left fun name _ => ?_)
  rw [taggingsOf_concat]
  split
  · exact (classOf_concat name _ endpoint tag).symm
  · rfl

theorem gather_classesOf (before taggings : List (Endpoint × Text)) :
    (gather space taggings (classesOf space before)).1 = classesOf space (before ++ taggings) := by
  induction taggings generalizing before with
  | nil => rw [List.append_nil]; rfl
  | cons tagging rest induction =>
      obtain ⟨endpoint, tag⟩ := tagging
      have step := addMethod_classesOf space before endpoint tag
      have later := induction (before ++ [(endpoint, tag)])
      rw [← step, List.append_assoc] at later
      exact later

/-! ## Members

A tagging stands for its endpoint, and an endpoint with several tags of one class counts once. -/

/-- Items as often as they are counted. -/
def repeated {α : Type} (count : α → Nat) (items : List α) : List α :=
  items.flatMap fun item => List.replicate (count item) item

section

variable {α : Type} (count : α → Nat)

private theorem repeated_concat (items : List α) (item : α) :
    repeated count (items ++ [item]) =
      repeated count items ++ List.replicate (count item) item := by
  simp [repeated]

private theorem eraseDups_map_repeated {β : Type} [BEq β] [LawfulBEq β] (image : α → β)
    (items : List α) :
    ((repeated count items).map image).eraseDups =
      ((items.filter (0 < count ·)).map image).eraseDups := by
  induction items using List.reverseRecOn with
  | nil => rfl
  | append_singleton items item induction =>
      rw [repeated_concat, List.filter_append, List.map_append, List.map_append, List.map_replicate]
      cases times : count item with
      | zero => simpa [times] using induction
      | succ more =>
          rw [eraseDups_append_replicate, induction, ← eraseDups_concat]
          simp [times]

private theorem getLast?_filter_repeated (property : α → Bool) (items : List α) :
    ((repeated count items).filter property).getLast? =
      ((items.filter (0 < count ·)).filter property).getLast? := by
  induction items using List.reverseRecOn with
  | nil => rfl
  | append_singleton items item induction =>
      rw [repeated_concat, List.filter_append, List.filter_append, List.filter_append,
        List.getLast?_append, List.getLast?_append, induction]
      congr 1
      cases times : count item with
      | zero => simp [times]
      | succ more => by_cases holds : property item <;> simp [times, holds, List.getLast?_replicate]

end

private theorem map_taggingsOf (name : Text) (endpoints : List Endpoint) :
    (taggingsOf space name (taggings endpoints)).map (·.1) =
      repeated (fun endpoint => endpoint.tags.countP (classNameFor space · == name)) endpoints := by
  induction endpoints with
  | nil => rfl
  | cons endpoint rest induction =>
      have own : ((endpoint.tags.map (endpoint, ·)).filter (classNameFor space ·.2 == name)).map
          (·.1) =
            List.replicate (endpoint.tags.countP (classNameFor space · == name)) endpoint := by
        rw [List.filter_map, List.map_map, List.countP_eq_length_filter]
        exact List.map_const' ..
      rw [taggings, List.flatMap_cons, taggingsOf, List.filter_append, List.map_append, own,
        repeated, List.flatMap_cons]
      exact congrArg (List.replicate _ endpoint ++ ·) induction

private theorem filter_countP (name : Text) (endpoints : List Endpoint) :
    endpoints.filter (fun endpoint =>
        decide (0 < endpoint.tags.countP (classNameFor space · == name))) =
      classMembers space name endpoints := by
  apply List.filter_congr
  intro endpoint _
  rw [classNameFor_eq_groupName, Bool.eq_iff_iff, decide_eq_true_eq, List.countP_pos_iff,
    List.any_eq_true]

/-- The operation ids of a class, and what stands for each of them, told by its members. -/
theorem operationIds_taggingsOf (name : Text) (endpoints : List Endpoint) :
    operationIds ((taggingsOf space name (taggings endpoints)).map (·.1)) =
      operationIds (classMembers space name endpoints) := by
  rw [map_taggingsOf, operationIds, eraseDups_map_repeated, filter_countP]
  rfl

private theorem lastWith_taggingsOf (name operationId : Text) (endpoints : List Endpoint) :
    lastWith ((taggingsOf space name (taggings endpoints)).map (·.1)) operationId =
      lastWith (classMembers space name endpoints) operationId := by
  rw [map_taggingsOf, lastWith, getLast?_filter_repeated, filter_countP]
  rfl

end

/-! ## The module -/

theorem exists_lastWith {endpoints : List Endpoint} {operationId : Text}
    (member : operationId ∈ operationIds endpoints) :
    ∃ endpoint, lastWith endpoints operationId = some endpoint := by
  obtain ⟨endpoint, inEndpoints, same⟩ := List.mem_map.mp (List.mem_eraseDups.mp member)
  have found : endpoint ∈ endpoints.filter (·.operationId == operationId) :=
    List.mem_filter.mpr ⟨inEndpoints, beq_iff_eq.mpr same⟩
  exact ⟨_, List.getLast?_eq_some_getLast (List.ne_nil_of_mem found)⟩

private theorem map_some_lastText {endpoints : List Endpoint} {ids : List Text}
    (known : ∀ id ∈ ids, id ∈ operationIds endpoints) :
    (ids.map (lastText endpoints)).map some =
      ids.map fun id => (lastWith endpoints id).map Endpoint.methodText := by
  rw [List.map_map]
  apply List.map_congr_left
  intro id member
  obtain ⟨endpoint, found⟩ := exists_lastWith (known id member)
  rw [Function.comp_apply, lastText, found]
  rfl

theorem map_name_classesOf (space : Text) (endpoints : List Endpoint) :
    (classesOf space (taggings endpoints)).map (·.name) = classNames space endpoints := by
  have names : (taggings endpoints).map (classNameFor space ·.2) =
      endpoints.flatMap fun endpoint => endpoint.tags.map (classNameFor space) := by
    rw [taggings, List.map_flatMap]
    simp [Function.comp_def]
  rw [classesOf, List.map_map, names]
  simp [Function.comp_def, classOf_name, classNames, classNameFor_eq_groupName]

private theorem map_some_methods (space : Text) {endpoints : List Endpoint} {apiClass : ApiClass}
    (member : apiClass ∈ classesOf space (taggings endpoints)) :
    (apiClass.methods.map (·.2)).map some =
      (operationIds (classMembers space apiClass.name endpoints)).map fun id =>
        (lastWith (classMembers space apiClass.name endpoints) id).map Endpoint.methodText := by
  obtain ⟨name, _, rfl⟩ := List.mem_map.mp member
  have texts : (classOf name (taggingsOf space name (taggings endpoints))).methods.map (·.2) =
      (operationIds ((taggingsOf space name (taggings endpoints)).map (·.1))).map
        (lastText ((taggingsOf space name (taggings endpoints)).map (·.1))) := by
    rw [classOf_methods, List.map_map]
    rfl
  rw [classOf_name, texts, map_some_lastText fun _ known => known, operationIds_taggingsOf]
  simp only [lastWith_taggingsOf]

/-- The module of the methods is a grouping of the endpoints by the classes of their tags, and of
those in a class by their operation ids. Of the endpoints with one operation id the last one is
kept. -/
theorem renderApi_grouped {ε : Type} (imports : ApiImports) (endpoints : List Endpoint) :
    ∃ blocks : List (Text × List Text),
      (renderApi imports endpoints : Logged ε Text).outcome =
        .ok (joined "\n\n" (imports.text :: blocks.map fun block => classText block.1 block.2) ++
          "\n") ∧
      blocks.map (·.1) = classNames imports.space endpoints ∧
      ∀ block ∈ blocks, block.2.map some =
        (operationIds (classMembers imports.space block.1 endpoints)).map fun id =>
          (lastWith (classMembers imports.space block.1 endpoints) id).map Endpoint.methodText := by
  let classes := classesOf imports.space (taggings endpoints)
  have gathered : (gather imports.space (taggings endpoints) []).1 = classes :=
    gather_classesOf imports.space [] (taggings endpoints)
  refine ⟨classes.map fun apiClass => (apiClass.name, apiClass.methods.map (·.2)), ?_, ?_, ?_⟩
  · rw [List.map_map]
    change Except.ok (joined "\n\n" (imports.text :: List.map ApiClass.text
      (gather imports.space (taggings endpoints) []).1) ++ "\n") = _
    rw [gathered]
    rfl
  · rw [List.map_map]
    exact map_name_classesOf imports.space endpoints
  · intro block member
    obtain ⟨apiClass, inClasses, rfl⟩ := List.mem_map.mp member
    exact map_some_methods imports.space inClasses

end ApiClient
