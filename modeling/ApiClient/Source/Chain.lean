import ApiClient.Log
import ApiClient.Source.Declaration

/-! Chains of declarers. A schema is offered to the declarers in their order until one of them
answers; the rest are not asked. What was asked is part of the result, also when a declarer
fails. -/

namespace ApiClient

structure Chain (ε : Type) where
  declarers : List (Declarer ε) := []

namespace Chain

/-- A declarer registered later is asked later. -/
def register (chain : Chain ε) (declarer : Declarer ε) : Chain ε :=
  ⟨chain.declarers ++ [declarer]⟩

/-- How many declarers were asked, and what came of it. -/
structure Dispatch (ε : Type) where
  asked : Nat
  answer : Except ε (Option Text)

def dispatch (name : Text) (node : Node) : List (Declarer ε) → Dispatch ε
  | [] => ⟨0, .ok none⟩
  | declarer :: rest =>
    match declarer name node with
    | .ok none =>
      let later := dispatch name node rest
      ⟨later.asked + 1, later.answer⟩
    | answer => ⟨1, answer⟩

def renderOne (chain : Chain ε) (name : Text) (node : Node) : Dispatch ε :=
  dispatch name node chain.declarers

/-- The calls made, as positions in the chain with the name of the schema offered, the messages,
and the declarations. -/
structure Rendering (ε : Type) where
  calls : List (Nat × Text)
  log : List LogEntry
  declarations : Except ε (List Text)

def skipped (name : Text) : LogEntry :=
  ⟨.debug, "No declaration produced for schema " ++ shown name⟩

def renderEach (chain : Chain ε) : List (Text × Node) → Rendering ε
  | [] => ⟨[], [], .ok []⟩
  | (name, node) :: rest =>
    let dispatch := chain.renderOne name node
    let calls := (List.range dispatch.asked).map fun position => (position, name)
    match dispatch.answer with
    | .error failure => ⟨calls, [], .error failure⟩
    | .ok none =>
      let later := renderEach chain rest
      ⟨calls ++ later.calls, skipped name :: later.log, later.declarations⟩
    | .ok (some declaration) =>
      let later := renderEach chain rest
      ⟨calls ++ later.calls, later.log, (declaration :: ·) <$> later.declarations⟩

/-- Declarations stand apart by a blank line. -/
def Rendering.text (rendering : Rendering ε) : Logged ε Text :=
  ⟨rendering.log, joined "\n\n" <$> rendering.declarations⟩

def render (chain : Chain ε) (schemas : List (Text × Node)) : Logged ε Text :=
  (chain.renderEach schemas).text

end Chain

/-- The module that declares the schemas of a document. -/
def renderModels (schemas : List (Text × Node)) : Logged Unwritable Text := do
  let text ← (Chain.mk defaultDeclarers).render schemas
  return if text.isEmpty then "" else text ++ "\n"

end ApiClient
