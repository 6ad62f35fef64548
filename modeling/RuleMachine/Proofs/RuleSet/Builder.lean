import Mathlib.Data.List.Induction
import RuleMachine.RuleSet.Compile
import RuleMachine.Proofs.Split
/-!
# Docs waiting in a builder

A builder is driven by calls: `doc`, `transition`, `bypass`, `declare`, `declarations` and
`options` (`Builder.Method`), then `build`. Each call does a few things one after another
(`Builder.Act`): it leaves a doc, adds a declaration, or sets the options, and a batch of
declarations adds them one by one. Read so, the law of the waiting doc needs no state: a
declaration keeps its own doc, or takes the last doc left since the declaration before it was
added (`Builder.waiting`), or has none. A doc is therefore used up by the next declaration even
when that one keeps its own, never documents two declarations, and one left after the last
declaration documents nothing.

The builder is proved to hold what its acts leave (`Builder.Collected`): one act keeps that
(`Builder.Collected.snoc`), so every run of calls does, and the builder hands the compiler the
declarations so documented, in call order (`Builder.build_hands_declarations_in_order`).
-/

namespace RuleMachine

namespace Declaration

@[simp] theorem doc?_withDoc (d : Declaration) (text : String) :
    (d.withDoc text).doc? = some text := by
  cases d <;> rfl

@[simp] theorem withDoc_withDoc (d : Declaration) (s t : String) :
    (d.withDoc s).withDoc t = d.withDoc t := by
  cases d <;> rfl

end Declaration

namespace Builder

/-- A call made on a builder before it is built. -/
inductive Method where
  | doc (text : String)
  | transition (d : TransitionDecl)
  | bypass (d : BypassDecl)
  | declare (d : Declaration)
  | declarations (ds : List Declaration)
  | options (o : CompileOptions)

/-- The builder after a call. -/
def call (b : Builder) : Method → Builder
  | .doc text => b.doc text
  | .transition d => b.transition d
  | .bypass d => b.bypass d
  | .declare d => b.declare d
  | .declarations ds => b.declareAll ds
  | .options o => b.withOptions o

/-- The builder of `id` after the calls, in order. -/
def afterCalls (id : RuleSetId) (calls : List Method) : Builder := calls.foldl call (new id)

/-- One thing a call does: leave a doc, add a declaration, or set the options. -/
inductive Act where
  | doc (text : String)
  | add (d : Declaration)
  | options (o : CompileOptions)

namespace Act

def doc? : Act → Option String
  | .doc text => some text
  | _ => none

def added? : Act → Option Declaration
  | .add d => some d
  | _ => none

def options? : Act → Option CompileOptions
  | .options o => some o
  | _ => none

def isAdd (a : Act) : Bool := a.added?.isSome

end Act

/-- What a call does, in order: a batch of declarations adds them one by one. -/
def Method.acts : Method → List Act
  | .doc text => [.doc text]
  | .transition d => [.add (.transition d)]
  | .bypass d => [.add (.bypass d)]
  | .declare d => [.add d]
  | .declarations ds => ds.map .add
  | .options o => [.options o]

/-- The declarations added, in order. -/
def added (acts : List Act) : List Declaration := acts.filterMap Act.added?

/-- The doc waiting after the acts: the last doc left since the last declaration was added. -/
def waiting (acts : List Act) : Option String :=
  (acts.reverse.takeWhile (!·.isAdd)).findSome? Act.doc?

/-- The options set last, the defaults when none were. -/
def optionsSet (acts : List Act) : CompileOptions :=
  ((acts.filterMap Act.options?).getLast?).getD {}

/-- The builder after one act. -/
def act (b : Builder) : Act → Builder
  | .doc text => b.doc text
  | .add d => b.declare d
  | .options o => b.withOptions o

@[simp] theorem act_doc (b : Builder) (text : String) :
    b.act (.doc text) = { b with pendingDoc := some text } := rfl

@[simp] theorem act_options (b : Builder) (o : CompileOptions) :
    b.act (.options o) = { b with options := o } := rfl

@[simp] theorem act_add (b : Builder) (d : Declaration) : b.act (.add d) = b.declare d := rfl

@[simp] theorem id_declare (b : Builder) (d : Declaration) : (b.declare d).id = b.id := rfl

@[simp] theorem options_declare (b : Builder) (d : Declaration) :
    (b.declare d).options = b.options := rfl

@[simp] theorem pendingDoc_declare (b : Builder) (d : Declaration) :
    (b.declare d).pendingDoc = none := rfl

/-- A call does its acts one after another. -/
theorem call_eq_foldl_acts (b : Builder) (c : Method) : b.call c = c.acts.foldl act b := by
  cases c with
  | declarations ds => simp [call, Method.acts, declareAll, List.foldl_map, act]
  | _ => rfl

theorem afterCalls_eq_foldl_acts (id : RuleSetId) (calls : List Method) :
    afterCalls id calls = (calls.flatMap Method.acts).foldl act (new id) := by
  rw [afterCalls]
  generalize new id = b
  induction calls generalizing b with
  | nil => rfl
  | cons c rest ih =>
    rw [List.foldl_cons, List.flatMap_cons, List.foldl_append, ← call_eq_foldl_acts, ih]

section Acts

variable {acts pre post : List Act} {a : Act} {d : Declaration}

@[simp] theorem added_append_singleton (acts : List Act) (a : Act) :
    added (acts ++ [a]) = added acts ++ a.added?.toList := by
  cases a <;> simp [added, Act.added?]

@[simp] theorem optionsSet_append_singleton (acts : List Act) (a : Act) :
    optionsSet (acts ++ [a]) = (a.options?).getD (optionsSet acts) := by
  cases a <;> simp [optionsSet, Act.options?]

/-- A declaration added ends the wait: no doc is waiting after it. -/
@[simp] theorem waiting_append_add (acts : List Act) (d : Declaration) :
    waiting (acts ++ [.add d]) = none := by
  simp [waiting, Act.isAdd, Act.added?]

/-- The doc just left is the one waiting. -/
@[simp] theorem waiting_append_doc (acts : List Act) (text : String) :
    waiting (acts ++ [.doc text]) = some text := by
  simp [waiting, Act.isAdd, Act.added?, Act.doc?, List.findSome?_cons]

/-- Setting options leaves the waiting doc waiting. -/
@[simp] theorem waiting_append_options (acts : List Act) (o : CompileOptions) :
    waiting (acts ++ [.options o]) = waiting acts := by
  simp [waiting, Act.isAdd, Act.added?, Act.doc?, List.findSome?_cons]

/-- An act that adds nothing splits no new declaration off the acts before it. -/
theorem split_of_append_not_add (ha : a.isAdd = false) (h : acts ++ [a] = pre ++ .add d :: post) :
    ∃ post', acts = pre ++ .add d :: post' := by
  rcases append_singleton_eq_append_cons.mp h with ⟨-, rfl, -⟩ | ⟨post', hacts, -⟩
  · simp [Act.isAdd, Act.added?] at ha
  · exact ⟨post', hacts⟩

end Acts

/-- A builder holds what the acts leave: the options set last, the doc still waiting, and the
added declarations in order, each documented by its own doc or else by the doc waiting when it
was added, and otherwise unchanged. -/
structure Collected (id : RuleSetId) (acts : List Act) (b : Builder) : Prop where
  id : b.id = id
  options : b.options = optionsSet acts
  pending : b.pendingDoc = waiting acts
  length : b.declarations.length = (added acts).length
  documented : ∀ pre d post, acts = pre ++ .add d :: post →
    ∃ d', b.declarations[(added pre).length]? = some d' ∧
      d'.doc? = d.doc?.or (waiting pre) ∧ ∀ t, d'.withDoc t = d.withDoc t

theorem collected_new (id : RuleSetId) : Collected id [] (new id) :=
  ⟨rfl, rfl, rfl, rfl, fun pre d post h => by simp at h⟩

/-- A declaration added with a doc waiting keeps its own doc or takes the waiting one, and is
otherwise unchanged. -/
theorem documented_declare (b : Builder) (d : Declaration) :
    ∃ d', (b.declare d).declarations = b.declarations ++ [d'] ∧
      d'.doc? = d.doc?.or b.pendingDoc ∧ ∀ t, d'.withDoc t = d.withDoc t := by
  refine ⟨_, rfl, ?_⟩
  cases b.pendingDoc <;> cases hd : d.doc? <;> simp [hd]

/-- One act keeps a builder holding what the acts leave. -/
theorem Collected.snoc {id : RuleSetId} {acts : List Act} {b : Builder} (h : Collected id acts b)
    (a : Act) : Collected id (acts ++ [a]) (b.act a) := by
  cases a with
  | doc text =>
    refine ⟨h.id, by simpa [Act.options?] using h.options, by simp,
      by simpa [Act.added?] using h.length, fun pre d post hsplit => ?_⟩
    obtain ⟨post', hacts⟩ := split_of_append_not_add (by rfl) hsplit
    exact h.documented pre d post' hacts
  | options o =>
    refine ⟨h.id, by simp [Act.options?], by simpa using h.pending,
      by simpa [Act.added?] using h.length, fun pre d post hsplit => ?_⟩
    obtain ⟨post', hacts⟩ := split_of_append_not_add (by rfl) hsplit
    exact h.documented pre d post' hacts
  | add d =>
    obtain ⟨d', hdecls, hdoc, hsame⟩ := documented_declare b d
    refine ⟨h.id, by simpa [Act.options?] using h.options, by simp,
      by simp [hdecls, h.length, Act.added?], fun pre e post hsplit => ?_⟩
    rcases append_singleton_eq_append_cons.mp hsplit with ⟨rfl, he, rfl⟩ | ⟨post', rfl, rfl⟩
    · cases he
      refine ⟨d', ?_, by rw [hdoc, h.pending], hsame⟩
      simp [hdecls, ← h.length]
    · obtain ⟨e', he', hdoc', hsame'⟩ := h.documented pre e post' rfl
      refine ⟨e', ?_, hdoc', hsame'⟩
      have hlt : (added pre).length < b.declarations.length := by
        rw [h.length]
        simp [added, Act.added?]
      rw [act_add, hdecls, List.getElem?_append_left hlt]
      exact he'

/-- Acts done one after another from a new builder leave it holding what they leave. -/
theorem collected_foldl_act (id : RuleSetId) (acts : List Act) :
    Collected id acts (acts.foldl act (new id)) := by
  induction acts using List.reverseRecOn with
  | nil => exact collected_new id
  | append_singleton acts a ih =>
    rw [List.foldl_append, List.foldl_cons, List.foldl_nil]
    exact ih.snoc a

/-- A builder hands the compiler the declarations added by its calls, in call order and a batch
in its own order, with the options set last. Each declaration keeps its own doc when it has one,
else takes the last doc left since the declaration before it was added, else has none; it is
otherwise the declaration added. A doc left after the last declaration is still waiting when
the builder is built, and is handed to no declaration. -/
theorem build_hands_declarations_in_order (id : RuleSetId) (calls : List Method) :
    (afterCalls id calls).build =
        RuleSet.compile id (afterCalls id calls).declarations
          (optionsSet (calls.flatMap Method.acts)) ∧
    (afterCalls id calls).declarations.length = (added (calls.flatMap Method.acts)).length ∧
    (∀ pre d post, calls.flatMap Method.acts = pre ++ .add d :: post →
      ∃ d', (afterCalls id calls).declarations[(added pre).length]? = some d' ∧
        d'.doc? = d.doc?.or (waiting pre) ∧ ∀ t, d'.withDoc t = d.withDoc t) ∧
    (afterCalls id calls).pendingDoc = waiting (calls.flatMap Method.acts) := by
  have h := collected_foldl_act id (calls.flatMap Method.acts)
  rw [← afterCalls_eq_foldl_acts] at h
  refine ⟨?_, h.length, h.documented, h.pending⟩
  rw [build, h.id, h.options]

/-- The lock's calls: a doc, a bypass with its own doc, a doc, two transitions, and a doc left
at the end. -/
def lockCalls : List Method :=
  [.doc "outer",
    .bypass { event := some "c", body := some (.next "locked" none), doc := some "inner" },
    .doc "first digit",
    .declarations [Declaration.simple "locked" "one" "one"],
    .transition
      { state := some "one", event := some (.named "two"), body := some (.next "two" none) },
    .doc "unused"]

/-- The bypass keeps its own doc and uses up `outer`; the first transition takes `first digit`,
the second takes nothing, and `unused` is still waiting when the builder is built. -/
theorem lock_docs_attach_once :
    (∃ d, (afterCalls "lock" lockCalls).declarations[0]? = some d ∧ d.doc? = some "inner") ∧
    (∃ d, (afterCalls "lock" lockCalls).declarations[1]? = some d ∧ d.doc? = some "first digit") ∧
    (∃ d, (afterCalls "lock" lockCalls).declarations[2]? = some d ∧ d.doc? = none) ∧
    (afterCalls "lock" lockCalls).pendingDoc = some "unused" := by
  obtain ⟨-, -, hdoc, hpending⟩ := build_hands_declarations_in_order "lock" lockCalls
  obtain ⟨d0, h0, hdoc0, -⟩ := hdoc [.doc "outer"] _ _ rfl
  obtain ⟨d1, h1, hdoc1, -⟩ := hdoc [.doc "outer", .add _, .doc "first digit"] _ _ rfl
  obtain ⟨d2, h2, hdoc2, -⟩ := hdoc [.doc "outer", .add _, .doc "first digit", .add _] _ _ rfl
  exact ⟨⟨d0, h0, hdoc0⟩, ⟨d1, h1, hdoc1⟩, ⟨d2, h2, hdoc2⟩, hpending⟩

end Builder

end RuleMachine
