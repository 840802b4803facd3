import ApiClient.Proofs.Api.Grouping

/-! Names of classes beside the names that their module imports. A longer name is
given to a class that would hide one of these, and is not looked at again: it can be
the name of the namespace. -/

namespace ApiClient

section

variable {space tag : Text}

private theorem append_suffix_ne_request (name : Text) :
    name ++ Text.ofString "Api" ≠ Text.ofString "Request" := by
  intro same
  have last := congrArg List.getLast? same
  rw [List.getLast?_append] at last
  exact absurd (Option.some.inj last) (by decide)

private theorem classNameFor_ne_request (space tag : Text) :
    classNameFor space tag ≠ "Request" := by
  rw [classNameFor]
  split
  · exact append_suffix_ne_request _
  · rename_i free
    exact fun same => free (.inl same)

/-- A class has the name of the namespace in one case alone: the namespace is the longer name of a
class that would hide the builder of requests. -/
theorem classNameFor_eq_space_iff :
    classNameFor space tag = space ↔ space = "RequestApi" ∧ className tag = "Request" := by
  rw [classNameFor]
  constructor
  · intro same
    split at same
    · rename_i taken
      rcases taken with request | own
      · rw [request] at same
        exact ⟨same.symm, request⟩
      · rw [own] at same
        exact absurd (List.append_right_eq_self.mp same) (by decide)
    · rename_i free
      exact absurd (.inr same) free
  · rintro ⟨rfl, request⟩
    rw [request]
    rfl

theorem mem_classNames_iff {endpoints : List Endpoint} {name : Text} :
    name ∈ classNames space endpoints ↔
      ∃ endpoint ∈ endpoints, ∃ tag ∈ endpoint.tags, classNameFor space tag = name := by
  simp [classNames, classNameFor_eq_groupName, List.mem_eraseDups]

end

/-- The classes that the module of the methods declares are those of the tags, none of which is
called as the builder of requests is. One is called as the namespace is just where the namespace
is `RequestApi` and there is a tag that would be the class `Request`. -/
theorem renderApi_hides_iff {ε : Type} (imports : ApiImports) (endpoints : List Endpoint) :
    ∃ classes : List ApiClass,
      (renderApi imports endpoints : Logged ε Text).outcome =
        .ok (joined "\n\n" (imports.text :: classes.map ApiClass.text) ++ "\n") ∧
      classes.map ApiClass.name = classNames imports.space endpoints ∧
      Text.ofString "Request" ∉ classes.map ApiClass.name ∧
      (imports.space ∈ classes.map ApiClass.name ↔ imports.space = "RequestApi" ∧
        ∃ endpoint ∈ endpoints, ∃ tag ∈ endpoint.tags, className tag = "Request") := by
  let classes := classesOf imports.space (taggings endpoints)
  have gathered : (gather imports.space (taggings endpoints) []).1 = classes :=
    gather_classesOf imports.space [] (taggings endpoints)
  have names : classes.map ApiClass.name = classNames imports.space endpoints :=
    map_name_classesOf imports.space endpoints
  refine ⟨classes, ?_, names, ?_, ?_⟩
  · rw [← gathered]
    rfl
  · rw [names, mem_classNames_iff]
    rintro ⟨endpoint, _, tag, _, same⟩
    exact classNameFor_ne_request imports.space tag same
  · rw [names, mem_classNames_iff]
    simp only [classNameFor_eq_space_iff]
    constructor
    · rintro ⟨endpoint, member, tag, tagged, longer, request⟩
      exact ⟨longer, endpoint, member, tag, tagged, request⟩
    · rintro ⟨longer, endpoint, member, tag, tagged, request⟩
      exact ⟨endpoint, member, tag, tagged, longer, request⟩

/-- An endpoint whose tag would be the class `Request`. -/
def requestTagged : Endpoint where
  operationId := "a"
  method := "get"
  path := "/a"
  tags := ["Request"]

/-- Beside a namespace that is called as the class of that tag, the class hides the namespace. -/
theorem renderApi_hidesSpace :
    (renderApi { space := "RequestApi" } [requestTagged] : Logged Empty Text).outcome.toOption =
      some (Text.ofString "import \x7b Request \x7d from './request';\n" ++
        "import * as RequestApi from './models';" ++ "\n\n" ++
        ("export class RequestApi \x7b\n" ++ indented requestTagged.methodText ++ "\n\x7d") ++
        "\n") := by
  have longer : classNameFor "RequestApi" "Request" = Text.ofString "RequestApi" :=
    classNameFor_eq_space_iff.mpr ⟨rfl, by decide⟩
  have gathered : gather "RequestApi" (taggings [requestTagged]) [] =
      ([⟨"RequestApi", ["Request"], [("a", requestTagged.methodText)]⟩], []) := by
    change gather "RequestApi" [(requestTagged, "Request")] [] = _
    rw [gather, longer]
    rfl
  have imports : ApiImports.text { space := "RequestApi" } =
      Text.ofString "import \x7b Request \x7d from './request';\n" ++
        "import * as RequestApi from './models';" := by decide +kernel
  have heading : Text.ofString "export class " ++ "RequestApi" ++ " \x7b\n" =
      "export class RequestApi \x7b\n" := by decide
  rw [renderApi, gathered]
  refine congrArg some ?_
  change ApiImports.text { space := "RequestApi" } ++ "\n\n" ++
    (Text.ofString "export class " ++ "RequestApi" ++ " \x7b\n" ++
      indented requestTagged.methodText ++ "\n\x7d") ++ "\n" = _
  rw [imports, heading]

end ApiClient
