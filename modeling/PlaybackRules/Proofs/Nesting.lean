import Mathlib.Data.List.Induction
import PlaybackRules.Evaluation.RuleSet
import PlaybackRules.Proofs.Verdict

/-!
# Nested trace scopes

Scopes are opened and closed like brackets.  Each is made where it opens, and the one that opened
last closes first, whether its body came to an end or failed.  `Nesting` runs such steps on the
trace state, with the scopes that are open beside it.  The current identifier and the one in log
records stay in step (`Nesting.inStep_run`), and steps that close all that they open leave both as
they were (`Nesting.run_balanced`).  Between the step that opens a scope and the one that closes it
there are only such steps (`Nesting.Reached.leave`), so what was there before the scope is restored
(`TraceScope.restores_nested`).
-/

namespace PlaybackRules

/-! ## The two copies of the identifier -/

namespace TraceState

/-- Log records carry the current identifier, and none exactly when that is empty. -/
def InStep (state : TraceState) : Prop :=
  state.bound = if state.current.isEmpty then none else some state.current

/-- Two states have the same identifiers, the current one and the one in log records.  How many have
been made may differ. -/
structure SameIds (state other : TraceState) : Prop where
  current_eq : state.current = other.current
  bound_eq : state.bound = other.bound

theorem SameIds.refl (state : TraceState) : state.SameIds state := ⟨rfl, rfl⟩

theorem SameIds.trans {first second third : TraceState} (h : first.SameIds second)
    (h' : second.SameIds third) : first.SameIds third :=
  ⟨h.current_eq.trans h'.current_eq, h.bound_eq.trans h'.bound_eq⟩

theorem SameIds.inStep {state other : TraceState} (h : state.SameIds other)
    (hother : other.InStep) : state.InStep := by
  unfold InStep at hother ⊢
  rw [h.current_eq, h.bound_eq, hother]

/-- States that are in step have the same identifiers as soon as the current one is the same. -/
theorem InStep.sameIds {state other : TraceState} (h : state.InStep) (hother : other.InStep)
    (hcurrent : state.current = other.current) : state.SameIds other := by
  unfold InStep at h hother
  refine ⟨hcurrent, ?_⟩
  rw [h, hother, hcurrent]

theorem inStep_set (state : TraceState) {id : TraceId} (h : id.isEmpty = false) :
    (state.set id).InStep := by
  show some id = if id.isEmpty then none else some id
  rw [if_neg (ne_true_of_eq_false h)]

theorem inStep_clear (state : TraceState) : state.clear.InStep := rfl

end TraceState

/-! ## One scope -/

namespace TraceScope

variable (state : TraceState)

theorem sameIds_make (id : Option String) : (make state id).2.SameIds state := by
  unfold make
  split
  · exact .refl state
  · split
    · exact ⟨rfl, rfl⟩
    · exact .refl state

/-- A scope always has an identifier. -/
theorem isEmpty_make (id : Option String) : (make state id).1.id.isEmpty = false := by
  unfold make
  split
  · next text htext =>
      have hne : text ≠ "" := by simpa using (Option.filter_eq_some_iff.1 htext).2
      simpa [TraceId.isEmpty, TraceId.empty] using hne
  · split
    · rfl
    · next h => exact eq_false_of_ne_true h

/-- A scope without an identifier of its own takes the current one, if there is one. -/
theorem id_make_of_current {id : Option String} (hid : id.getD "" = "")
    (hcurrent : state.current.isEmpty = false) : (make state id).1.id = state.current := by
  have hnone : id.filter (· != "") = none := by
    cases id with
    | none => rfl
    | some text => simpa using hid
  unfold make
  rw [hnone]
  simp [hcurrent]

/-- A scope with an identifier of its own takes that one. -/
theorem id_make_of_given {text : String} (h : text ≠ "") :
    (make state (some text)).1.id = .given text := by
  have hsome : (some text).filter (· != "") = some text := by simpa using h
  unfold make
  rw [hsome]

/-- A scope that opened on a state makes the identifier of that state the current one again when it
closes. -/
theorem current_exit {scope : TraceScope} {before : TraceState}
    (hprevious : scope.previous = before.current) :
    (scope.exit state).current = before.current := by
  unfold exit
  rw [hprevious]
  split
  · next hempty =>
      have hcurrent : before.current = .empty := by simpa [TraceId.isEmpty] using hempty
      exact hcurrent.symm
  · rfl

theorem inStep_exit (scope : TraceScope) : (scope.exit state).InStep := by
  unfold exit
  split
  · exact state.inStep_clear
  · next h => exact state.inStep_set (eq_false_of_ne_true h)

/-- What the closing scope makes current is in log records too, so that state is restored. -/
theorem sameIds_exit {scope : TraceScope} {before : TraceState}
    (hprevious : scope.previous = before.current) (hbefore : before.InStep) :
    (scope.exit state).SameIds before :=
  (inStep_exit state scope).sameIds hbefore (current_exit state hprevious)

end TraceScope

/-! ## Open scopes -/

/-- A step of a program that works in trace scopes. -/
inductive ScopeStep where
  /-- A scope is made, with an identifier of its own or without, and opened. -/
  | enter (id : Option String)
  /-- The body of the scope opened last ends, or fails, and the scope is closed. -/
  | leave (ending : Except Failure Unit)

/-- The trace state, and the scopes that are open, the last one first. -/
structure Nesting where
  state : TraceState
  opened : List TraceScope := []

namespace Nesting

/-- Makes a scope and opens it. -/
def enter (nesting : Nesting) (id : Option String) : Nesting :=
  let (scope, made) := TraceScope.make nesting.state id
  let (scope, inside) := scope.enter made
  { state := inside, opened := scope :: nesting.opened }

/-- Takes a step, unless it closes a scope where none is open. -/
def step (nesting : Nesting) : ScopeStep → Option Nesting
  | .enter id => some (nesting.enter id)
  | .leave _ =>
    match nesting.opened with
    | [] => none
    | scope :: opened => some { state := scope.exit nesting.state, opened }

/-- Takes steps one after another. -/
def run (nesting : Nesting) (steps : List ScopeStep) : Option Nesting :=
  steps.foldlM step nesting

/-- Steps that close all scopes which they open, and no others. -/
inductive Balanced : List ScopeStep → Prop where
  | nil : Balanced []
  | scope (id : Option String) {inner : List ScopeStep} (ending : Except Failure Unit)
      {rest : List ScopeStep} (hinner : Balanced inner) (hrest : Balanced rest) :
      Balanced (.enter id :: (inner ++ .leave ending :: rest))

theorem Balanced.append {first second : List ScopeStep} (h : Balanced first)
    (h' : Balanced second) : Balanced (first ++ second) := by
  induction h with
  | nil => exact h'
  | scope id ending hinner _ _ ih =>
      rw [List.cons_append, List.append_assoc, List.cons_append]
      exact .scope id ending hinner ih

/-! ### Runs -/

variable {nesting : Nesting}

theorem run_cons (step : ScopeStep) (steps : List ScopeStep) :
    nesting.run (step :: steps) = (nesting.step step).bind fun next => next.run steps := rfl

theorem run_append (first second : List ScopeStep) :
    nesting.run (first ++ second) = (nesting.run first).bind fun next => next.run second :=
  List.foldlM_append

theorem run_singleton (step : ScopeStep) : nesting.run [step] = nesting.step step :=
  Option.bind_fun_some _

theorem inStep_enter (id : Option String) : (nesting.enter id).state.InStep :=
  TraceState.inStep_set _ (TraceScope.isEmpty_make nesting.state id)

theorem inStep_step {step : ScopeStep} {after : Nesting} (h : nesting.step step = some after) :
    after.state.InStep := by
  cases step with
  | enter id =>
      cases h
      exact nesting.inStep_enter id
  | leave ending =>
      unfold Nesting.step at h
      cases hopened : nesting.opened with
      | nil =>
          rw [hopened] at h
          cases h
      | cons scope opened =>
          rw [hopened] at h
          cases h
          exact TraceScope.inStep_exit nesting.state scope

/-- The identifier in log records is the current one all along. -/
theorem inStep_run : ∀ {steps : List ScopeStep} {nesting after : Nesting},
    nesting.state.InStep → nesting.run steps = some after → after.state.InStep
  | [], _, _, h, hrun => by
      cases hrun
      exact h
  | _ :: _, _, _, _, hrun => by
      rw [run_cons, Option.bind_eq_some_iff] at hrun
      obtain ⟨next, hstep, hrun⟩ := hrun
      exact inStep_run (inStep_step hstep) hrun

/-- What the enclosing scope restores when it closes is what was there before it opened. -/
theorem leave_enter (id : Option String) (ending : Except Failure Unit) (inside : TraceState)
    (h : nesting.state.InStep) :
    ∃ state, ({ state := inside, opened := (nesting.enter id).opened } : Nesting).step
        (.leave ending) = some { state, opened := nesting.opened } ∧
      state.SameIds nesting.state := by
  have hmade := TraceScope.sameIds_make nesting.state id
  exact ⟨_, rfl, TraceScope.sameIds_exit inside hmade.current_eq h⟩

/-- Steps that close what they open succeed, and leave the identifiers and the open scopes as they
were. -/
theorem run_balanced {steps : List ScopeStep} (h : Balanced steps) :
    ∀ nesting : Nesting, nesting.state.InStep →
      ∃ state, nesting.run steps = some { state, opened := nesting.opened } ∧
        state.SameIds nesting.state := by
  induction h with
  | nil => exact fun nesting _ => ⟨nesting.state, rfl, .refl nesting.state⟩
  | @scope id inner ending rest _ _ ihinner ihrest =>
      intro nesting h
      obtain ⟨inside, hinner, -⟩ := ihinner (nesting.enter id) (nesting.inStep_enter id)
      obtain ⟨outside, hleave, hrestored⟩ := nesting.leave_enter id ending inside h
      let closed : Nesting := { state := outside, opened := nesting.opened }
      obtain ⟨after, hrest, hafter⟩ := ihrest closed (hrestored.inStep h)
      refine ⟨after, ?_, hafter.trans hrestored⟩
      rw [run_cons]
      show (nesting.enter id).run (inner ++ .leave ending :: rest) = _
      rw [run_append, hinner, Option.bind_some, run_cons, hleave, Option.bind_some]
      exact hrest

/-! ### Scopes that are open -/

/-- How a run came to the scopes that are open: each opened after steps that balance, and only such
steps have followed within it. -/
inductive Reached (start : TraceState) : List ScopeStep → Nesting → Prop where
  | outermost {steps : List ScopeStep} {nesting : Nesting} (h : Balanced steps)
      (hrun : ({ state := start } : Nesting).run steps = some nesting) : Reached start steps nesting
  | inside {outer inner : List ScopeStep} {entered nesting : Nesting} (id : Option String)
      (houter : Reached start outer entered) (h : Balanced inner)
      (hrun : (entered.enter id).run inner = some nesting) :
      Reached start (outer ++ .enter id :: inner) nesting

variable {start : TraceState}

theorem Reached.run_eq {steps : List ScopeStep} (h : Reached start steps nesting) :
    ({ state := start } : Nesting).run steps = some nesting := by
  induction h with
  | outermost _ hrun => exact hrun
  | inside id _ _ hrun ih =>
      rw [run_append, ih, Option.bind_some, run_cons]
      exact hrun

/-- Appended steps that balance stay within the scope that is open. -/
theorem Reached.append {outer steps : List ScopeStep} {after : Nesting}
    (h : Reached start outer nesting) (hsteps : Balanced steps)
    (hrun : nesting.run steps = some after) : Reached start (outer ++ steps) after := by
  cases h with
  | outermost h houter =>
      refine .outermost (h.append hsteps) ?_
      rw [run_append, houter, Option.bind_some, hrun]
  | inside id houter h hinner =>
      rw [List.append_assoc, List.cons_append]
      refine .inside id houter (h.append hsteps) ?_
      rw [run_append, hinner, Option.bind_some, hrun]

/-- A scope that closes is the one that opened at the end of some outer run, and restores the
identifiers that it found there. -/
theorem Reached.leave (hstart : start.InStep) {steps : List ScopeStep}
    (h : Reached start steps nesting) {ending : Except Failure Unit} {after : Nesting}
    (hleave : nesting.step (.leave ending) = some after) :
    ∃ outer id inner entered, steps = outer ++ .enter id :: inner ∧ Balanced inner ∧
      Reached start outer entered ∧ after.opened = entered.opened ∧
      after.state.SameIds entered.state := by
  cases h with
  | outermost h hrun =>
      obtain ⟨state, hbalanced, -⟩ := run_balanced h { state := start } hstart
      rw [hbalanced] at hrun
      cases hrun
      cases hleave
  | @inside outer inner entered _ id houter h hrun =>
      have hentered : entered.state.InStep := inStep_run hstart houter.run_eq
      obtain ⟨state, hbalanced, -⟩ := run_balanced h (entered.enter id) (entered.inStep_enter id)
      rw [hbalanced] at hrun
      cases hrun
      obtain ⟨outside, hclosed, hrestored⟩ := entered.leave_enter id ending state hentered
      rw [hclosed] at hleave
      cases hleave
      exact ⟨outer, id, inner, entered, rfl, h, houter, rfl, hrestored⟩

theorem Reached.step (hstart : start.InStep) {steps : List ScopeStep}
    (h : Reached start steps nesting) {step : ScopeStep} {after : Nesting}
    (hstep : nesting.step step = some after) : Reached start (steps ++ [step]) after := by
  cases step with
  | enter id =>
      cases hstep
      exact .inside id h .nil rfl
  | leave ending =>
      obtain ⟨outer, id, inner, entered, rfl, hinner, houter, -, -⟩ := h.leave hstart hstep
      have hscope : Balanced (.enter id :: (inner ++ [.leave ending])) :=
        .scope id ending hinner .nil
      have hrun : entered.run (.enter id :: (inner ++ [.leave ending])) = some after := by
        have hwhole := h.run_eq
        rw [run_append, houter.run_eq, Option.bind_some] at hwhole
        rw [← List.cons_append, run_append, hwhole, Option.bind_some, run_singleton, hstep]
      rw [List.append_assoc]
      exact houter.append hscope hrun

theorem reached_run (hstart : start.InStep) {steps : List ScopeStep} :
    ∀ {nesting : Nesting}, ({ state := start } : Nesting).run steps = some nesting →
      Reached start steps nesting := by
  induction steps using List.reverseRecOn with
  | nil => exact fun hrun => .outermost .nil hrun
  | append_singleton steps step ih =>
      intro nesting hrun
      rw [run_append, Option.bind_eq_some_iff] at hrun
      obtain ⟨before, hbefore, hstep⟩ := hrun
      rw [run_singleton] at hstep
      exact (ih hbefore).step hstart hstep

end Nesting

/-! ## Passes over rules -/

/-- A pass is one scope: the trace state after it is the one after the scope has closed. -/
theorem Engine.run_evaluateRules (engine : Engine) (config : Configuration) (mode : Mode)
    (context : Context) (rules : List Rule) (trace : TraceState) :
    ({ state := trace } : Nesting).run [.enter none, .leave (.ok ())] =
      some { state := (engine.evaluateRules config mode context rules trace).trace } := rfl

/-- A pass restores the identifiers of its caller. -/
theorem Engine.sameIds_evaluateRules (engine : Engine) (config : Configuration) (mode : Mode)
    (context : Context) (rules : List Rule) {trace : TraceState} (h : trace.InStep) :
    (engine.evaluateRules config mode context rules trace).trace.SameIds trace := by
  have hscope : Nesting.Balanced [.enter none, .leave (.ok ())] := .scope none (.ok ()) .nil .nil
  obtain ⟨state, hrun, hrestored⟩ := Nesting.run_balanced hscope { state := trace } h
  rw [engine.run_evaluateRules config mode context rules trace] at hrun
  cases hrun
  exact hrestored

/-- The current identifier is restored in any case. -/
theorem Engine.current_evaluateRules (engine : Engine) (config : Configuration) (mode : Mode)
    (context : Context) (rules : List Rule) (trace : TraceState) :
    (engine.evaluateRules config mode context rules trace).trace.current = trace.current := by
  have hmade := TraceScope.sameIds_make trace none
  exact TraceScope.current_exit _ hmade.current_eq

/-- Every event of a pass carries the identifier of its scope. -/
theorem Engine.trace_of_mem_evaluateRules (engine : Engine) (config : Configuration) (mode : Mode)
    (context : Context) (rules : List Rule) (trace : TraceState) {stamped : Stamped}
    (h : stamped ∈ (engine.evaluateRules config mode context rules trace).events) :
    stamped.trace = some (TraceScope.make trace none).1.id := by
  obtain ⟨event, -, rfl⟩ := List.mem_map.1 h
  rfl

/-- However trace scopes are nested and their bodies end, log records carry the current identifier
all along; a scope that closes restores what was there before the step that opened it; and a scope
without an identifier of its own keeps the current one, while any other sets its own.  So a pass
over rules leaves the trace state of its caller as it was, and all that is logged in it carries one
identifier, the caller's if there was one. -/
theorem TraceScope.restores_nested (start : TraceState) (h : start.InStep) :
    (∀ steps nesting, ({ state := start } : Nesting).run steps = some nesting →
      nesting.state.InStep ∧
      (∀ ending after, nesting.step (.leave ending) = some after →
        ∃ outer id inner entered, steps = outer ++ .enter id :: inner ∧ Nesting.Balanced inner ∧
          ({ state := start } : Nesting).run outer = some entered ∧
          after.opened = entered.opened ∧ after.state.SameIds entered.state) ∧
      (∀ id, id.getD "" = "" → nesting.state.current.isEmpty = false →
        (nesting.enter id).state.current = nesting.state.current) ∧
      ∀ text, text ≠ "" → (nesting.enter (some text)).state.current = .given text) ∧
    ∀ (engine : Engine) config mode context rules,
      let pass := engine.evaluateRules config mode context rules start
      pass.trace.SameIds start ∧
      ∃ id : TraceId, id.isEmpty = false ∧ (start.current.isEmpty = false → id = start.current) ∧
        ∀ stamped ∈ pass.events, stamped.trace = some id := by
  refine ⟨fun steps nesting hrun => ⟨Nesting.inStep_run h hrun, ?_, ?_, ?_⟩,
    fun engine config mode context rules => ⟨?_, ?_⟩⟩
  · intro ending after hleave
    obtain ⟨outer, id, inner, entered, hsteps, hinner, houter, hopened, hrestored⟩ :=
      (Nesting.reached_run h hrun).leave h hleave
    exact ⟨outer, id, inner, entered, hsteps, hinner, houter.run_eq, hopened, hrestored⟩
  · intro id hid hcurrent
    exact TraceScope.id_make_of_current nesting.state hid hcurrent
  · intro text htext
    exact TraceScope.id_make_of_given nesting.state htext
  · exact engine.sameIds_evaluateRules config mode context rules h
  · refine ⟨(TraceScope.make start none).1.id, TraceScope.isEmpty_make start none,
      TraceScope.id_make_of_current start rfl, fun stamped hstamped => ?_⟩
    exact engine.trace_of_mem_evaluateRules config mode context rules start hstamped

/-- A request has set its identifier.  Within a scope that keeps it, the body of another scope
fails; and a pass over one rule starts from the request. -/
theorem TraceScope.restores_nested_failing :
    let request : TraceId := .given "request"
    let start : TraceState := { current := request, bound := some request }
    let steps : List ScopeStep := [.enter none, .enter (some "repair"), .leave (.error .noRule)]
    let rules : List Rule := [{ id := "free", name := "Free" }]
    let pass := ({} : Engine).evaluateRules (.ok {}) .async .lone rules start
    start.InStep ∧
      (∃ nesting, ({ state := start } : Nesting).run steps = some nesting ∧ nesting.state.InStep ∧
        nesting.state.current = request) ∧
      pass.trace.SameIds start ∧ ∀ stamped ∈ pass.events, stamped.trace = some request := by
  intro request start steps rules pass
  have hstart : start.InStep := rfl
  obtain ⟨hnested, hpass⟩ := TraceScope.restores_nested start hstart
  obtain ⟨hrestored, id, -, hid, hstamped⟩ := hpass {} (.ok {}) .async .lone rules
  rw [hid rfl] at hstamped
  exact ⟨hstart, ⟨_, rfl, (hnested steps _ rfl).1, rfl⟩, hrestored, hstamped⟩

end PlaybackRules
