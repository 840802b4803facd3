import ApiClient.Api.Module
import ApiClient.Proofs.Code.Methods

/-! The module of the methods with and without descriptions. Classes are gathered by tags and
operation ids, so two lists of endpoints that are alike lead to classes that are alike, step by
step. -/

namespace ApiClient.Code

/-- An endpoint whose method can be written, and another one like it. -/
structure AlikeWritable (left right : Endpoint) : Prop where
  alike : AlikeEndpoints left right
  names : Endpoint.HasPlainNames left

structure AlikeMethods (left right : Text × Text) : Prop where
  operationId : left.1 = right.1
  text : Similar left.2 right.2

structure AlikeClasses (left right : ApiClass) : Prop where
  plain : IsPlain left.name
  name : left.name = right.name
  tags : left.tags = right.tags
  methods : List.Forall₂ AlikeMethods left.methods right.methods

/-! ## Gathering -/

private theorem alike_putMethod (operationId : Text) {text other : Text}
    (similar : Similar text other) {left right : List (Text × Text)}
    (methods : List.Forall₂ AlikeMethods left right) :
    List.Forall₂ AlikeMethods (putMethod operationId text left)
      (putMethod operationId other right) := by
  induction methods with
  | nil => exact .cons ⟨rfl, similar⟩ .nil
  | @cons first second rest others head tail induction =>
      obtain ⟨id, old⟩ := first
      obtain ⟨_, new⟩ := second
      obtain rfl := head.operationId
      rw [putMethod, putMethod]
      split
      · exact .cons ⟨rfl, similar⟩ tail
      · exact .cons head induction

private theorem alike_withMethod {left right : ApiClass} (classes : AlikeClasses left right)
    {endpoint other : Endpoint} (writable : AlikeWritable endpoint other) (tag : Text) :
    AlikeClasses (left.withMethod endpoint tag) (right.withMethod other tag) where
  plain := classes.plain
  name := classes.name
  tags := by
    rw [ApiClass.withMethod, ApiClass.withMethod, classes.tags]
  methods := by
    rw [ApiClass.withMethod, ApiClass.withMethod, ← writable.alike.operationId]
    exact alike_putMethod _ (similar_methodText writable.alike writable.names) classes.methods

private theorem alike_addMethod {name : Text} (plain : IsPlain name) {endpoint other : Endpoint}
    (writable : AlikeWritable endpoint other) (tag : Text) {left right : List ApiClass}
    (classes : List.Forall₂ AlikeClasses left right) :
    List.Forall₂ AlikeClasses (addMethod name endpoint tag left).1
      (addMethod name other tag right).1 := by
  induction classes with
  | nil => exact .cons (alike_withMethod ⟨plain, rfl, rfl, .nil⟩ writable tag) .nil
  | @cons first second rest others head tail induction =>
      rw [addMethod, addMethod, ← head.name]
      split
      · exact .cons (alike_withMethod head writable tag) tail
      · exact .cons head induction

private theorem alike_gather (space : Text) {taggings others : List (Endpoint × Text)}
    (alike : List.Forall₂ (fun tagging other => AlikeWritable tagging.1 other.1 ∧
      tagging.2 = other.2) taggings others)
    {left right : List ApiClass} (classes : List.Forall₂ AlikeClasses left right) :
    List.Forall₂ AlikeClasses (gather space taggings left).1 (gather space others right).1 := by
  induction alike generalizing left right with
  | nil => exact classes
  | @cons first second rest others head tail induction =>
      obtain ⟨endpoint, tag⟩ := first
      obtain ⟨other, _⟩ := second
      obtain ⟨writable, rfl⟩ := head
      exact induction (alike_addMethod (isPlain_classNameFor space tag) writable tag classes)

private theorem alike_taggings {endpoints others : List Endpoint}
    (alike : List.Forall₂ AlikeWritable endpoints others) :
    List.Forall₂ (fun tagging other => AlikeWritable tagging.1 other.1 ∧ tagging.2 = other.2)
      (taggings endpoints) (taggings others) := by
  induction alike with
  | nil => exact .nil
  | @cons first second rest others head tail induction =>
      rw [taggings, taggings, List.flatMap_cons, List.flatMap_cons, ← head.alike.tags]
      refine List.rel_append ?_ induction
      refine List.rel_map (fun tag _ (same : tag = _) => ⟨head, same⟩) ?_
      exact List.forall₂_same.mpr fun _ _ => rfl

/-! ## Text -/

private theorem similar_classText {left right : ApiClass} (classes : AlikeClasses left right) :
    Similar left.text right.text := by
  have methods : List.Forall₂ Similar (left.methods.map (·.2)) (right.methods.map (·.2)) :=
    List.rel_map (fun _ _ method => method.text) classes.methods
  have opening : Reads [] [.curly] ("export class " ++ left.name ++ " \x7b\n") :=
    (Reads.append (fun _ => rfl) classes.plain.balanced).append fun _ => rfl
  unfold ApiClass.text
  rw [← classes.name]
  exact (similar_indented (similar_joined (fun _ => rfl) methods)).enclosed opening fun _ => rfl

private theorem balanced_importsText {imports : ApiImports} (plain : IsPlain imports.space) :
    Balanced imports.text := by
  have request : Balanced ("import \x7b Request \x7d from " ++ quoted imports.request) :=
    Reads.append (fun _ => rfl) (balanced_quoted _)
  have between : Balanced ";\nimport * as " := fun _ => rfl
  have source : Balanced " from " := fun _ => rfl
  have semicolon : Balanced ";" := fun _ => rfl
  have space := (request.append between).append plain.balanced
  exact ((space.append source).append (balanced_quoted _)).append semicolon

theorem agree_renderApi {imports : ApiImports} (plain : IsPlain imports.space)
    {endpoints others : List Endpoint} (alike : List.Forall₂ AlikeWritable endpoints others) :
    Agree Similar (renderApi imports endpoints : Logged ε Text).outcome
      (renderApi imports others : Logged ε Text).outcome := by
  have classes := alike_gather imports.space (alike_taggings alike) .nil
  have texts := List.rel_map (fun _ _ apiClass => similar_classText apiClass) classes
  have parts : List.Forall₂ Similar
      (imports.text :: (gather imports.space (taggings endpoints) []).1.map ApiClass.text)
      (imports.text :: (gather imports.space (taggings others) []).1.map ApiClass.text) :=
    .cons (balanced_importsText plain).alike texts
  have lineEnd : Balanced "\n" := fun _ => rfl
  exact .success ((similar_joined (fun _ => rfl) parts).append_reads lineEnd)

end ApiClient.Code
