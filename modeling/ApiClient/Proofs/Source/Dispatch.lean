import ApiClient.Proofs.Source.Chain
import Mathlib.Data.List.Nodup

/-! What a chain asks. For every schema its declarers are asked in order, each of them
once, up to the first one that does not pass. A run asks for the schemas one after the
other, up to the first call that fails, and what it leaves behind is told by the answers
to the calls that it makes. -/

namespace ApiClient

/-! ## Runs that stop -/

/-- The items up to the first one at which a run stops, which is the last one. -/
def through {α : Type} (stops : α → Bool) (items : List α) : List α :=
  items.takeWhile (!stops ·) ++ (items.find? stops).toList

section

variable {α : Type} {stops : α → Bool} {first : List α}

theorem through_append_of_forall (passes : ∀ item ∈ first, stops item = false) (rest : List α) :
    through stops (first ++ rest) = first ++ through stops rest := by
  have goesOn : ∀ item ∈ first, (!stops item) = true := by simpa using passes
  have none : first.find? stops = none := by simpa [List.find?_eq_none] using passes
  rw [through, List.takeWhile_append_of_pos goesOn, List.find?_append, none, List.append_assoc]
  rfl

private theorem through_append_cons (passes : ∀ item ∈ first, stops item = false) {last : α}
    (ends : stops last = true) (rest : List α) :
    through stops (first ++ last :: rest) = first ++ [last] := by
  rw [through_append_of_forall passes, through, List.takeWhile_cons_of_neg (by simp [ends]),
    List.find?_cons_of_pos ends]
  rfl

private theorem through_eq_self (passes : ∀ item ∈ first, stops item = false) :
    through stops first = first := by
  simpa [through] using through_append_of_forall passes []

private theorem prefix_through (stops : α → Bool) (items : List α) :
    through stops items <+: items := by
  by_cases passes : ∀ item ∈ items, stops item = false
  · exact ⟨[], by rw [List.append_nil, through_eq_self passes]⟩
  · have stopped : ∃ item ∈ items, stops item = true := by simpa using passes
    obtain ⟨last, found⟩ := Option.isSome_iff_exists.mp (List.find?_isSome.mpr stopped)
    obtain ⟨ends, before, rest, rfl, passed⟩ := List.find?_eq_some_iff_append.mp found
    rw [through_append_cons (by simpa using passed) ends]
    exact ⟨rest, by simp⟩

end

namespace Chain

variable {ε : Type}

/-! ## Answers -/

/-- Whether a declarer passes, so that the next one is asked. -/
def passes : Except ε (Option Text) → Bool
  | .ok none => true
  | _ => false

theorem passes_iff {answer : Except ε (Option Text)} : passes answer ↔ answer = .ok none := by
  match answer with
  | .ok none => exact iff_of_true rfl rfl
  | .ok (some _) => exact iff_of_false Bool.false_ne_true nofun
  | .error _ => exact iff_of_false Bool.false_ne_true nofun

def failure? : Except ε (Option Text) → Option ε
  | .error failure => some failure
  | .ok _ => none

def declaration? : Except ε (Option Text) → Option Text
  | .ok answer => answer
  | .error _ => none

/-! ## Calls -/

/-- A declarer that is asked for a schema. -/
structure Call where
  position : Nat
  name : Text
  node : Node

def Call.label (call : Call) : Nat × Text :=
  (call.position, call.name)

section

variable (chain : Chain ε)

/-- What the declarer of a call answers. -/
def answerTo (call : Call) : Except ε (Option Text) :=
  match chain.declarers[call.position]? with
  | some declarer => declarer call.name call.node
  | none => .ok none

def fails (call : Call) : Bool :=
  (failure? (chain.answerTo call)).isSome

/-- The calls for a schema. A declarer is asked if all those before it pass. -/
def callsFor (schema : Text × Node) : List Call :=
  ((List.range chain.declarers.length).filter fun position =>
    (chain.declarers.take position).all fun declarer => passes (declarer schema.1 schema.2)).map
      (⟨·, schema.1, schema.2⟩)

/-- The calls for schemas, as if none of them could fail. -/
def trace (schemas : List (Text × Node)) : List Call :=
  schemas.flatMap chain.callsFor

/-- The calls that are made: none after one that fails. -/
def callsMade (schemas : List (Text × Node)) : List Call :=
  through chain.fails (chain.trace schemas)

/-- A declarer that is asked for a schema fails. -/
def failsFor (schema : Text × Node) : Bool :=
  (chain.callsFor schema).any chain.fails

/-- No declarer has an answer for a schema. -/
def leavesOut (schema : Text × Node) : Bool :=
  chain.declarers.all fun declarer => passes (declarer schema.1 schema.2)

end

/-! ## One schema -/

section

variable {name : Text} {node : Node}

/-- Either all declarers pass, or the first one that does not has the last word. -/
theorem dispatch_cases (name : Text) (node : Node) (declarers : List (Declarer ε)) :
    ((∀ declarer ∈ declarers, passes (declarer name node)) ∧
      dispatch name node declarers = ⟨declarers.length, .ok none⟩) ∨
    ∃ before declarer after, declarers = before ++ declarer :: after ∧
      (∀ declarer ∈ before, passes (declarer name node)) ∧ passes (declarer name node) = false ∧
      dispatch name node declarers = ⟨before.length + 1, declarer name node⟩ := by
  induction declarers with
  | nil => exact .inl ⟨nofun, rfl⟩
  | cons declarer rest induction =>
      rw [dispatch]
      split
      · rename_i answer
        have first := passes_iff.mpr answer
        rcases induction with ⟨all, result⟩ | ⟨before, last, after, rfl, all, decides, result⟩
        · exact .inl ⟨List.forall_mem_cons.mpr ⟨first, all⟩, by rw [result]; rfl⟩
        · refine .inr ⟨declarer :: before, last, after, rfl, ?_, decides, by rw [result]; rfl⟩
          exact List.forall_mem_cons.mpr ⟨first, all⟩
      · rename_i decides
        have last := Bool.eq_false_iff.mpr (mt passes_iff.mp decides)
        exact .inr ⟨[], declarer, rest, rfl, nofun, last, rfl⟩

/-- A later list of declarers is asked where all of an earlier one pass. -/
theorem dispatch_append (name : Text) (node : Node) (first second : List (Declarer ε)) :
    dispatch name node (first ++ second) =
      if passes (dispatch name node first).answer then
        ⟨(dispatch name node first).asked + (dispatch name node second).asked,
          (dispatch name node second).answer⟩
      else dispatch name node first := by
  induction first with
  | nil => simp [dispatch, passes]
  | cons declarer first induction =>
      rw [List.cons_append, dispatch, dispatch]
      split
      · rw [induction]
        dsimp only
        split
        · simp only [Dispatch.mk.injEq, and_true]
          omega
        · rfl
      · rename_i decides
        rw [if_neg (mt passes_iff.mp decides)]

end

/-! ## Calls for one schema -/

section

variable (chain : Chain ε) (schema : Text × Node)

/-- Of the declarers of a chain the first ones are asked. -/
theorem callsFor_eq : chain.callsFor schema =
    (List.range (chain.renderOne schema.1 schema.2).asked).map (⟨·, schema.1, schema.2⟩) := by
  obtain ⟨name, node⟩ := schema
  rw [callsFor, renderOne]
  congr 1
  obtain ⟨declarers⟩ := chain
  rcases dispatch_cases name node declarers with
    ⟨all, result⟩ | ⟨before, declarer, after, rfl, all, decides, result⟩
  · rw [result, List.filter_eq_self]
    intro position _
    exact List.all_eq_true.mpr fun declarer member => all declarer (List.mem_of_mem_take member)
  · have length : (before ++ declarer :: after).length = before.length + 1 + after.length := by
      simp only [List.length_append, List.length_cons]
      omega
    dsimp only
    rw [result, length, List.range_add, List.filter_append, List.filter_eq_self.mpr,
      List.filter_eq_nil_iff.mpr, List.append_nil]
    · rintro _ later
      obtain ⟨further, _, rfl⟩ := List.mem_map.mp later
      have past : before.length + 1 + further - before.length = further + 1 := by omega
      have among : declarer ∈ (before ++ declarer :: after).take (before.length + 1 + further) := by
        rw [List.take_append, past, List.take_succ_cons]
        exact List.mem_append_right _ List.mem_cons_self
      intro allPass
      exact Bool.eq_false_iff.mp decides (List.all_eq_true.mp allPass declarer among)
    · intro position early
      have reached : position ≤ before.length := Nat.le_of_lt_succ (List.mem_range.mp early)
      rw [List.take_append_of_le_length reached]
      exact List.all_eq_true.mpr fun declarer member => all declarer (List.mem_of_mem_take member)

/-- Either all calls for a schema pass, or the last one alone does not. -/
theorem callsFor_cases :
    ((∀ call ∈ chain.callsFor schema, chain.answerTo call = .ok none) ∧
      (chain.renderOne schema.1 schema.2).answer = .ok none ∧ chain.leavesOut schema) ∨
    ∃ before last, chain.callsFor schema = before ++ [last] ∧
      (∀ call ∈ before, chain.answerTo call = .ok none) ∧
      chain.answerTo last = (chain.renderOne schema.1 schema.2).answer ∧
      (chain.renderOne schema.1 schema.2).answer ≠ .ok none ∧ chain.leavesOut schema = false := by
  rw [callsFor_eq, renderOne]
  obtain ⟨name, node⟩ := schema
  rcases dispatch_cases name node chain.declarers with
    ⟨all, result⟩ | ⟨before, declarer, after, split, all, decides, result⟩
  · refine .inl ⟨?_, by rw [result], List.all_eq_true.mpr all⟩
    rw [result]
    intro call member
    obtain ⟨position, inRange, rfl⟩ := List.mem_map.mp member
    have inside := List.mem_range.mp inRange
    rw [answerTo, List.getElem?_eq_getElem inside]
    exact passes_iff.mp (all _ (List.getElem_mem inside))
  · rw [result]
    refine .inr ⟨(List.range before.length).map (⟨·, name, node⟩), ⟨before.length, name, node⟩,
      ?_, ?_, ?_, mt passes_iff.mpr (Bool.eq_false_iff.mp decides), ?_⟩
    · rw [List.range_succ, List.map_append]
      rfl
    · intro call member
      obtain ⟨position, inRange, rfl⟩ := List.mem_map.mp member
      have inside := List.mem_range.mp inRange
      rw [answerTo, split, List.getElem?_append_left inside, List.getElem?_eq_getElem inside]
      exact passes_iff.mp (all _ (List.getElem_mem inside))
    · rw [answerTo, split]
      simp
    · rw [leavesOut, split]
      simp [decides]

end

/-! ## Runs -/

section

variable {chain : Chain ε}

private theorem fails_of_passes {call : Call} (passed : chain.answerTo call = .ok none) :
    chain.fails call = false := by
  rw [fails, passed]
  rfl

private theorem findSome?_callsFor (schema : Text × Node) :
    (chain.callsFor schema).findSome? (failure? <| chain.answerTo ·) =
      failure? (chain.renderOne schema.1 schema.2).answer := by
  rcases chain.callsFor_cases schema with
    ⟨all, answer, -⟩ | ⟨before, last, calls, all, answer, -, -⟩
  · rw [answer, failure?, List.findSome?_eq_none_iff]
    intro call member
    rw [all call member]
    rfl
  · have none : before.findSome? (failure? <| chain.answerTo ·) = none := by
      rw [List.findSome?_eq_none_iff]
      intro call member
      rw [all call member]
      rfl
    rw [calls, List.findSome?_append, none, ← answer]
    exact List.findSome?_singleton

private theorem filterMap_callsFor (schema : Text × Node) :
    (chain.callsFor schema).filterMap (declaration? <| chain.answerTo ·) =
      (declaration? (chain.renderOne schema.1 schema.2).answer).toList := by
  rcases chain.callsFor_cases schema with
    ⟨all, answer, -⟩ | ⟨before, last, calls, all, answer, -, -⟩
  · rw [answer, declaration?, Option.toList_none, List.filterMap_eq_nil_iff]
    intro call member
    rw [all call member]
    rfl
  · have none : before.filterMap (declaration? <| chain.answerTo ·) = [] := by
      rw [List.filterMap_eq_nil_iff]
      intro call member
      rw [all call member]
      rfl
    rw [calls, List.filterMap_append, none, ← answer]
    cases declared : declaration? (chain.answerTo last) <;> simp [declared]

theorem failsFor_eq (schema : Text × Node) :
    chain.failsFor schema = (failure? (chain.renderOne schema.1 schema.2).answer).isSome := by
  rw [← findSome?_callsFor, List.isSome_findSome?]
  rfl

private theorem leavesOut_eq (schema : Text × Node) :
    chain.leavesOut schema = passes (chain.renderOne schema.1 schema.2).answer := by
  rcases chain.callsFor_cases schema with ⟨-, answer, all⟩ | ⟨_, _, _, -, -, decides, answered⟩
  · rw [all, answer]
    rfl
  · rw [answered, Bool.eq_false_iff.mpr (mt passes_iff.mp decides)]

theorem trace_cons (schema : Text × Node) (rest : List (Text × Node)) :
    chain.trace (schema :: rest) = chain.callsFor schema ++ chain.trace rest :=
  List.flatMap_cons

/-- The calls for a schema are made before those for the schemas after it, which are made
unless one of them fails. -/
theorem callsMade_cons (schema : Text × Node) (rest : List (Text × Node)) :
    chain.callsMade (schema :: rest) =
      chain.callsFor schema ++ if chain.failsFor schema then [] else chain.callsMade rest := by
  rw [callsMade, trace_cons, failsFor_eq]
  rcases chain.callsFor_cases schema with
    ⟨all, answer, -⟩ | ⟨before, last, calls, all, answer, -, -⟩
  · rw [answer, through_append_of_forall fun call member => fails_of_passes (all call member)]
    rfl
  · have early : ∀ call ∈ before, chain.fails call = false :=
      fun call member => fails_of_passes (all call member)
    rw [calls, List.append_assoc, ← answer, List.append_assoc]
    change through chain.fails (before ++ last :: chain.trace rest) =
      before ++ last :: if chain.fails last then [] else chain.callsMade rest
    cases ends : chain.fails last with
    | true => rw [through_append_cons early ends, if_pos rfl]
    | false =>
        have none : ∀ call ∈ before ++ [last], chain.fails call = false := by
          simpa [or_imp, forall_and] using ⟨early, ends⟩
        rw [if_neg Bool.false_ne_true, List.append_cons, through_append_of_forall none, ← callsMade,
          List.append_assoc]
        rfl

private theorem label_callsFor (schema : Text × Node) :
    (chain.callsFor schema).map Call.label =
      (List.range (chain.renderOne schema.1 schema.2).asked).map (·, schema.1) := by
  rw [callsFor_eq, List.map_map]
  rfl

private theorem renderEach_calls (schemas : List (Text × Node)) :
    (chain.renderEach schemas).calls = (chain.callsMade schemas).map Call.label := by
  induction schemas with
  | nil => rfl
  | cons schema rest induction =>
      rw [callsMade_cons, List.map_append, label_callsFor, apply_ite (List.map Call.label),
        ← induction, failsFor_eq]
      obtain ⟨name, node⟩ := schema
      rw [renderEach]
      cases (chain.renderOne name node).answer with
      | error failure => exact (List.append_nil _).symm
      | ok answer => cases answer <;> rfl

private theorem renderEach_log (schemas : List (Text × Node)) :
    (chain.renderEach schemas).log =
      ((schemas.takeWhile (!chain.failsFor ·)).filter chain.leavesOut).map (skipped ·.1) := by
  induction schemas with
  | nil => rfl
  | cons schema rest induction =>
      rw [List.takeWhile_cons, failsFor_eq]
      have unanswered := chain.leavesOut_eq schema
      obtain ⟨name, node⟩ := schema
      rw [renderEach]
      generalize (chain.renderOne name node).answer = answer at unanswered ⊢
      cases answer with
      | error failure => rfl
      | ok answer => cases answer <;> simp [failure?, unanswered, passes, induction]

/-- The outcome of calls that are made one after the other: the first failure, or else what they
declare. -/
def outcomeOf (answers : List (Except ε (Option Text))) : Except ε (List Text) :=
  match answers.findSome? failure? with
  | some failure => .error failure
  | none => .ok (answers.filterMap declaration?)

private theorem renderEach_declarations (schemas : List (Text × Node)) :
    (chain.renderEach schemas).declarations =
      outcomeOf ((chain.trace schemas).map chain.answerTo) := by
  induction schemas with
  | nil => rfl
  | cons schema rest induction =>
      have ofFailure := chain.findSome?_callsFor schema
      have ofDeclaration := chain.filterMap_callsFor schema
      rw [declarations_renderEach_cons, induction, trace_cons, outcomeOf, outcomeOf]
      simp only [List.findSome?_map, List.filterMap_map, List.findSome?_append,
        List.filterMap_append, Function.comp_def, ofFailure, ofDeclaration]
      cases (chain.renderOne schema.1 schema.2).answer with
      | error failure => rfl
      | ok answer =>
          cases (chain.trace rest).findSome? (failure? <| chain.answerTo ·) <;> rfl

/-! ### Calls alone matter -/

private theorem dispatch_congr {name : Text} {node : Node} {declarers others : List (Declarer ε)}
    (length : others.length = declarers.length)
    (alike : ∀ position < (dispatch name node declarers).asked,
      answerTo ⟨others⟩ ⟨position, name, node⟩ = answerTo ⟨declarers⟩ ⟨position, name, node⟩) :
    dispatch name node others = dispatch name node declarers := by
  induction declarers generalizing others with
  | nil =>
      obtain rfl := List.length_eq_zero_iff.mp length
      rfl
  | cons declarer rest induction =>
      obtain ⟨other, more, rfl⟩ := List.exists_cons_of_length_eq_add_one length
      have someAsked : 0 < (dispatch name node (declarer :: rest)).asked := by
        rw [dispatch]
        split <;> exact Nat.succ_pos _
      have same : other name node = declarer name node := alike 0 someAsked
      rw [dispatch] at alike
      rw [dispatch, dispatch, same]
      split
      · rename_i answer
        rw [answer] at alike
        have later : dispatch name node more = dispatch name node rest :=
          induction (Nat.succ.inj length) fun position asked =>
            alike (position + 1) (Nat.succ_lt_succ asked)
        rw [later]
      · rfl

/-- Declarers that answer alike to the calls that are made cannot be told apart. -/
theorem renderEach_congr {other : Chain ε} {schemas : List (Text × Node)}
    (length : other.declarers.length = chain.declarers.length)
    (alike : ∀ call ∈ chain.callsMade schemas, other.answerTo call = chain.answerTo call) :
    other.renderEach schemas = chain.renderEach schemas := by
  induction schemas with
  | nil => rfl
  | cons schema rest induction =>
      rw [callsMade_cons] at alike
      have same : other.renderOne schema.1 schema.2 = chain.renderOne schema.1 schema.2 := by
        refine dispatch_congr length fun position asked => ?_
        refine alike _ (List.mem_append_left _ ?_)
        rw [callsFor_eq]
        exact List.mem_map_of_mem (List.mem_range.mpr asked)
      have later (succeeds : chain.failsFor schema = false) :
          other.renderEach rest = chain.renderEach rest := by
        rw [succeeds] at alike
        exact induction fun call made => alike call (List.mem_append_right _ made)
      rw [failsFor_eq] at later
      obtain ⟨name, node⟩ := schema
      rw [renderEach, renderEach, same]
      generalize (chain.renderOne name node).answer = answer at later ⊢
      cases answer with
      | error failure => rfl
      | ok answer => rw [later rfl]

private theorem name_mem_of_mem_trace {schemas : List (Text × Node)} {label : Nat × Text}
    (member : label ∈ (chain.trace schemas).map Call.label) : label.2 ∈ schemas.map (·.1) := by
  obtain ⟨call, traced, rfl⟩ := List.mem_map.mp member
  obtain ⟨schema, among, called⟩ := List.mem_flatMap.mp traced
  obtain ⟨position, _, rfl⟩ := List.mem_map.mp called
  exact List.mem_map_of_mem among

private theorem nodup_trace {schemas : List (Text × Node)} (distinct : (schemas.map (·.1)).Nodup) :
    ((chain.trace schemas).map Call.label).Nodup := by
  induction schemas with
  | nil => exact List.nodup_nil
  | cons schema rest induction =>
      obtain ⟨new, others⟩ := List.nodup_cons.mp distinct
      rw [trace_cons, List.map_append, label_callsFor]
      have own : ((List.range (chain.renderOne schema.1 schema.2).asked).map
          (·, schema.1)).Nodup :=
        List.nodup_range.map fun _ _ same => (Prod.mk.inj same).1
      refine own.append (induction others) fun label ofSchema ofRest => new ?_
      obtain ⟨_, _, rfl⟩ := List.mem_map.mp ofSchema
      exact name_mem_of_mem_trace ofRest

/-- Where no name is given twice, no declarer is asked twice for one name. -/
theorem nodup_callsMade {schemas : List (Text × Node)} (distinct : (schemas.map (·.1)).Nodup) :
    ((chain.callsMade schemas).map Call.label).Nodup :=
  ((prefix_through _ _).map _).sublist.nodup (nodup_trace distinct)

end

/-! ## Sessions -/

/-- What is done with a chain. -/
inductive Step (ε : Type) where
  | register (declarer : Declarer ε)
  | render (schemas : List (Text × Node))

/-- What the runs of a session leave behind, and the chain at its end. -/
def session (chain : Chain ε) : List (Step ε) → List (Rendering ε) × Chain ε
  | [] => ([], chain)
  | .register declarer :: rest => session (chain.register declarer) rest
  | .render schemas :: rest =>
    let (renderings, last) := session chain rest
    (chain.renderEach schemas :: renderings, last)

/-- The declarers that are registered in a session. -/
def registered : List (Step ε) → List (Declarer ε)
  | [] => []
  | .register declarer :: rest => declarer :: registered rest
  | .render _ :: rest => registered rest

private theorem session_append (declarers : List (Declarer ε)) (before after : List (Step ε)) :
    session ⟨declarers⟩ (before ++ after) =
      ((session ⟨declarers⟩ before).1 ++ (session ⟨declarers ++ registered before⟩ after).1,
        (session ⟨declarers ++ registered before⟩ after).2) := by
  induction before generalizing declarers with
  | nil => simp [session, registered]
  | cons step before induction =>
      cases step with
      | register declarer =>
          have later := induction (declarers ++ [declarer])
          rwa [List.append_assoc] at later
      | render schemas =>
          rw [List.cons_append, session, induction]
          rfl

private theorem session_last (declarers : List (Declarer ε)) (steps : List (Step ε)) :
    (session ⟨declarers⟩ steps).2 = ⟨declarers ++ registered steps⟩ := by
  have whole := session_append declarers steps []
  rw [List.append_nil] at whole
  rw [whole]
  rfl

/-! ## What a run leaves behind -/

/-- The calls that a run makes, each of them once, and the messages and declarations
that come of the answers. -/
structure IsTraced (chain : Chain ε) (schemas : List (Text × Node)) : Prop where
  calls : (chain.renderEach schemas).calls = (chain.callsMade schemas).map Call.label
  once : (schemas.map (·.1)).Nodup → (chain.renderEach schemas).calls.Nodup
  log : (chain.render schemas).log =
    ((schemas.takeWhile (!chain.failsFor ·)).filter chain.leavesOut).map (skipped ·.1)
  outcome : (chain.render schemas).outcome =
    joined "\n\n" <$> outcomeOf ((chain.trace schemas).map chain.answerTo)
  /-- Nothing else is asked: all other answers could be different. -/
  others : ∀ other : Chain ε, other.declarers.length = chain.declarers.length →
    (∀ call ∈ chain.callsMade schemas, other.answerTo call = chain.answerTo call) →
      other.renderEach schemas = chain.renderEach schemas

private theorem isTraced (chain : Chain ε) (schemas : List (Text × Node)) :
    chain.IsTraced schemas where
  calls := renderEach_calls schemas
  once distinct := renderEach_calls schemas ▸ nodup_callsMade distinct
  log := renderEach_log schemas
  outcome := congrArg (joined "\n\n" <$> ·) (renderEach_declarations schemas)
  others _ := renderEach_congr

/-- A run asks the declarers of the chain, and those registered since, as they are at that time.
The schemas are offered to them in order until one does not pass, and a failure ends the run and
leaves the chain as it is. Declarers that follow others are asked where these have no answer. -/
theorem session_traced :
    (∀ (initial : List (Declarer ε)) (before after : List (Step ε)) (schemas : List (Text × Node)),
      (session ⟨initial⟩ (before ++ .render schemas :: after)).1 =
        (session ⟨initial⟩ before).1 ++
          (Chain.mk (initial ++ registered before)).renderEach schemas ::
            (session ⟨initial ++ registered before⟩ after).1 ∧
      (session ⟨initial⟩ (before ++ .render schemas :: after)).2 =
        ⟨initial ++ registered before ++ registered after⟩) ∧
    (∀ (chain : Chain ε) (schemas : List (Text × Node)), chain.IsTraced schemas) ∧
    ∀ (first second : List (Declarer ε)) (name : Text) (node : Node),
      (Chain.mk (first ++ second)).renderOne name node =
        if passes ((Chain.mk first).renderOne name node).answer then
          ⟨((Chain.mk first).renderOne name node).asked +
              ((Chain.mk second).renderOne name node).asked,
            ((Chain.mk second).renderOne name node).answer⟩
        else (Chain.mk first).renderOne name node := by
  refine ⟨fun initial before after schemas => ?_, isTraced,
    fun first second name node => dispatch_append name node first second⟩
  rw [session_append, session, session_last]
  exact ⟨rfl, rfl⟩

/-- One declarer passes, one has an empty declaration, and one fails. -/
def mixedDeclarers : List (Declarer Unit) := [
  fun _ _ => .ok none,
  fun name _ => .ok (if name = "B" then some "" else none),
  fun name _ => if name = "C" then .error () else .ok none]

/-- The same declarers, except that the one that passes does not pass a schema for which it is
not asked. -/
def alikeDeclarers : List (Declarer Unit) :=
  (fun name _ => if name = "D" then .error () else .ok none) :: mixedDeclarers.tail

def namedSchemas : List (Text × Node) :=
  [("A", .reference "A"), ("B", .reference "B"), ("C", .reference "C"), ("D", .reference "D")]

def mixedCalls : List Call := [
  ⟨0, "A", .reference "A"⟩, ⟨1, "A", .reference "A"⟩, ⟨2, "A", .reference "A"⟩,
  ⟨0, "B", .reference "B"⟩, ⟨1, "B", .reference "B"⟩,
  ⟨0, "C", .reference "C"⟩, ⟨1, "C", .reference "C"⟩, ⟨2, "C", .reference "C"⟩]

theorem session_traced_mixedDeclarers :
    (namedSchemas.map (·.1)).Nodup ∧
    ((Chain.mk mixedDeclarers).renderEach namedSchemas).calls = mixedCalls.map Call.label ∧
    ((Chain.mk mixedDeclarers).renderEach namedSchemas).calls.Nodup ∧
    ((Chain.mk mixedDeclarers).render namedSchemas).log = [skipped "A"] ∧
    ((Chain.mk mixedDeclarers).render namedSchemas).outcome = .error () ∧
    (Chain.mk alikeDeclarers).renderEach namedSchemas =
      (Chain.mk mixedDeclarers).renderEach namedSchemas := by
  have traced := session_traced.2.1 (Chain.mk mixedDeclarers) namedSchemas
  have distinct : (namedSchemas.map (·.1)).Nodup := by decide
  have made : (Chain.mk mixedDeclarers).callsMade namedSchemas = mixedCalls := rfl
  have alike : ∀ call ∈ mixedCalls,
      answerTo ⟨alikeDeclarers⟩ call = answerTo ⟨mixedDeclarers⟩ call := by
    simp only [mixedCalls, List.forall_mem_cons]
    exact ⟨rfl, rfl, rfl, rfl, rfl, rfl, rfl, rfl, nofun⟩
  exact ⟨distinct, made ▸ traced.calls, traced.once distinct, traced.log, traced.outcome,
    traced.others ⟨alikeDeclarers⟩ rfl (made ▸ alike)⟩

end Chain

end ApiClient
