import RuleMachine.Proofs.Plan.Names
/-!
# Moving a value to another state

`Subject.withStateName` moves a value to a state in three ways: a record writes its state field,
a changeset stages it, and a plan drops its `newState` steps and ends with one that renames its
input. All three obey the same laws (`Subject.withStateName_laws`):

* moving twice is moving once, to the second state (`Subject.withStateName_withStateName`), since
  a write or a staged change of one field replaces the one before (`Json.Members.insert_insert`)
  and a plan's earlier rename is dropped with its other `newState` steps;
* the governing rule-sets stay (`Subject.ruleSets_withStateName`);
* a record or a changeset then reads the new state, and keeps everything else: the record its
  kind and other fields (`Json.Members.filter_insert`), the changeset its record, its other staged
  changes and its errors; a record already in a state is left as it is by a move to it
  (`Record.withStateName_of_stateName`), its fields being an object's members, kept sorted
  (`Json.Members.Sorted`);
* a plan still reads the state of its first `input` step (`Subject.inputStateName_withStateName`),
  keeps its other steps in order, and ends with its one `newState` step.
-/

namespace RuleMachine

namespace Json.Members

/-- A second write of a key replaces the first. -/
theorem insert_insert (key : String) (a b : Json) (ms : Members) :
    insert key b (insert key a ms) = insert key b ms := by
  induction ms with
  | nil => simp [insert]
  | cons p rest ih =>
    obtain ⟨k, v⟩ := p
    unfold insert
    by_cases hlt : key < k
    · simp [hlt, insert]
    · by_cases heq : key = k
      · simp [heq, insert]
      · simp [hlt, heq, insert, ih]

/-- A write of a key leaves the members of every other key as they were. -/
theorem filter_insert (key : String) (value : Json) (ms : Members) :
    (insert key value ms).filter (·.1 != key) = ms.filter (·.1 != key) := by
  induction ms with
  | nil => simp [insert]
  | cons p rest ih =>
    obtain ⟨k, v⟩ := p
    unfold insert
    by_cases hlt : key < k
    · simp [hlt]
    · by_cases heq : key = k
      · subst heq
        simp
      · -- the write goes further down, past a member of another key
        have hne : (k != key) = true := bne_iff_ne.mpr (Ne.symm heq)
        simp only [hlt, heq, if_false, List.filter_cons, hne, if_true, ih]

/-- Writing the value a key already has changes nothing in sorted members. -/
theorem insert_of_get? {ms : Members} (hs : Sorted ms) {key : String} {value : Json}
    (h : get? key ms = some value) : insert key value ms = ms := by
  induction ms with
  | nil => simp [get?] at h
  | cons p rest ih =>
    obtain ⟨k, v⟩ := p
    have hhead := List.pairwise_cons.mp hs
    unfold insert
    by_cases heq : k = key
    · subst heq
      simp only [get?, if_true, Option.some.injEq] at h
      subst h
      simp
    · simp only [get?, heq, if_false] at h
      -- the key is further down, so it is above `k`
      have hgt : k < key := hhead.1 (key, value) (mem_of_get? h)
      have hnlt : ¬ key < k := fun hlt => String.lt_asymm hgt hlt
      simp [hnlt, Ne.symm heq, ih hhead.2 h]

end Json.Members

namespace Record

/-- Moving a record twice is moving it once, to the second state. -/
theorem withStateName_withStateName (r : Record) (a b : StateName) :
    (r.withStateName a).withStateName b = r.withStateName b :=
  Record.ext rfl (Json.Members.insert_insert _ _ _ _)

/-- Moving a record leaves every field but its state field as it was. -/
theorem filter_fields_withStateName (r : Record) (name : StateName) :
    (r.withStateName name).fields.filter (·.1 != r.kind.stateField) =
      r.fields.filter (·.1 != r.kind.stateField) :=
  Json.Members.filter_insert _ _ _

/-- A record is left as it is by a move to the state it is in. -/
theorem withStateName_of_stateName {r : Record} (hs : Json.Members.Sorted r.fields)
    {name : StateName} (h : r.stateName = .ok name) : r.withStateName name = r := by
  -- the state field holds the name as a string
  have hfield : r.get? r.kind.stateField = some (.string name) := by
    unfold stateName RecordKind.readState at h
    split at h
    · cases h
      assumption
    · cases h
    · cases h
  exact Record.ext rfl (Json.Members.insert_of_get? hs hfield)

end Record

namespace Changeset

/-- Staging a state twice is staging the second. -/
theorem withStateName_withStateName (c : Changeset) (a b : StateName) :
    (c.withStateName a).withStateName b = c.withStateName b :=
  Changeset.ext rfl (Json.Members.insert_insert _ _ _ _) rfl

/-- Staging a state leaves every other staged change as it was. -/
theorem filter_changes_withStateName (c : Changeset) (name : StateName) :
    (c.withStateName name).changes.filter (·.1 != c.data.kind.stateField) =
      c.changes.filter (·.1 != c.data.kind.stateField) :=
  Json.Members.filter_insert _ _ _

end Changeset

namespace Plan

/-- Moving a plan twice is moving it once, to the second state: the first rename is dropped with
the other `newState` steps. -/
theorem withStateName_withStateName (p : Plan) (a b : StateName) :
    (p.withStateName a).withStateName b = p.withStateName b := by
  simp only [withStateName, without, push, List.filter_append, List.filter_filter]
  simp

/-- Moving a plan keeps its steps other than `newState` steps, in order. -/
theorem filter_steps_withStateName (p : Plan) (name : StateName) :
    (p.withStateName name).steps.filter (·.1 != newStateStep) = p.steps.filter (·.1 != newStateStep) := by
  rw [steps_withStateName, List.filter_append, List.filter_filter]
  simp

end Plan

namespace Subject

/-- Dropping `newState` steps and adding one at the end leaves the first `input` step first. -/
theorem inputStateName_withStateName (steps : List (String × Step)) (name : StateName) :
    inputStateName ((Plan.mk steps).withStateName name).steps = inputStateName steps ∧
      inputRuleSets ((Plan.mk steps).withStateName name).steps = inputRuleSets steps := by
  have hne := Plan.newStateStep_ne_inputStep
  rw [Plan.steps_withStateName]
  induction steps with
  | nil => simp [inputStateName, inputRuleSets, hne]
  | cons x rest ih =>
    obtain ⟨n, step⟩ := x
    by_cases hn : n = newStateStep
    · -- a dropped step is not an input step
      subst hn
      simpa [inputStateName, inputRuleSets, hne] using ih
    · by_cases hi : n = inputStep
      · simp [hi, Ne.symm hne, inputStateName, inputRuleSets]
      · simpa [List.filter_cons, hn, hi, inputStateName, inputRuleSets] using ih

/-- Moving a value twice is moving it once, to the second state. -/
theorem withStateName_withStateName (v : Subject) (a b : StateName) :
    (v.withStateName a).withStateName b = v.withStateName b := by
  cases v with
  | record r => exact congrArg record (r.withStateName_withStateName a b)
  | changeset c => exact congrArg changeset (c.withStateName_withStateName a b)
  | plan steps => exact congrArg ofPlan ((Plan.mk steps).withStateName_withStateName a b)

/-- Moving a value keeps the rule-sets that govern it. -/
theorem ruleSets_withStateName (v : Subject) (name : StateName) :
    (v.withStateName name).ruleSets = v.ruleSets := by
  cases v with
  | record r => rfl
  | changeset c => rfl
  | plan steps => exact (inputStateName_withStateName steps name).2

/-- Moving a value to `a` then `b` is moving it to `b`, and the governing rule-sets stay. A
record or a changeset reads `a`; a record keeps its kind and its other fields, and a record already
in a state is left as it is by a move to it; a changeset keeps its record, its errors and its
other staged changes. A plan still reads the state of its input, keeps its other steps in order,
and ends with its one `newState` step, the rename of its input to `a`. -/
theorem withStateName_laws (v : Subject) (a b : StateName) :
    (v.withStateName a).withStateName b = v.withStateName b ∧
    (v.withStateName a).ruleSets = v.ruleSets ∧
    (∀ r : Record, v = .record r →
      (v.withStateName a).stateName = .ok a ∧ (r.withStateName a).kind = r.kind ∧
      (r.withStateName a).fields.filter (·.1 != r.kind.stateField) =
        r.fields.filter (·.1 != r.kind.stateField) ∧
      ∀ n, Json.Members.Sorted r.fields → r.stateName = .ok n → r.withStateName n = r) ∧
    (∀ c : Changeset, v = .changeset c →
      (v.withStateName a).stateName = .ok a ∧ (c.withStateName a).data = c.data ∧
      (c.withStateName a).errors = c.errors ∧
      (c.withStateName a).changes.filter (·.1 != c.data.kind.stateField) =
        c.changes.filter (·.1 != c.data.kind.stateField)) ∧
    (∀ steps, v = .plan steps →
      (v.withStateName a).stateName = v.stateName ∧
      ∃ q : Plan, v.withStateName a = ofPlan q ∧
        q.steps.filter (·.1 != newStateStep) = steps.filter (·.1 != newStateStep) ∧
        q.steps.filter (·.1 == newStateStep) = [(newStateStep, .rename inputStep a)] ∧
        q.steps.getLast? = some (newStateStep, .rename inputStep a)) := by
  refine ⟨withStateName_withStateName v a b, ruleSets_withStateName v a, ?_, ?_, ?_⟩
  · rintro r rfl
    exact ⟨Record.stateName_withStateName r a, rfl, r.filter_fields_withStateName a,
      fun n hs h => Record.withStateName_of_stateName hs h⟩
  · rintro c rfl
    exact ⟨Changeset.stateName_withStateName c a, rfl, rfl, c.filter_changes_withStateName a⟩
  · rintro steps rfl
    refine ⟨(inputStateName_withStateName steps a).1, _, rfl,
      (Plan.mk steps).filter_steps_withStateName a, Plan.filter_newState_withStateName _ a, ?_⟩
    rw [Plan.steps_withStateName]
    exact List.getLast?_concat

end Subject

namespace Ticket

/-- Tickets, governed by no rule-set, with their state in `state`. -/
def kind : RecordKind := ⟨"ticket", "state", []⟩

/-- An open ticket owned by Ann. -/
def opened : Record := ⟨kind, [("owner", .string "ann"), ("state", .string "open")], by decide⟩

end Ticket

theorem opened_ticket_withStateName_laws :
    Json.Members.Sorted Ticket.opened.fields ∧ Ticket.opened.stateName = .ok "open" ∧
    ((Subject.record Ticket.opened).withStateName "closed").withStateName "open" =
      (Subject.record Ticket.opened).withStateName "open" ∧
    ((Subject.record Ticket.opened).withStateName "closed").ruleSets =
      (Subject.record Ticket.opened).ruleSets ∧
    (∀ r : Record, Subject.record Ticket.opened = .record r →
      ((Subject.record Ticket.opened).withStateName "closed").stateName = .ok "closed" ∧
      (r.withStateName "closed").kind = r.kind ∧
      (r.withStateName "closed").fields.filter (·.1 != r.kind.stateField) =
        r.fields.filter (·.1 != r.kind.stateField) ∧
      ∀ n, Json.Members.Sorted r.fields → r.stateName = .ok n → r.withStateName n = r) ∧
    (∀ c : Changeset, Subject.record Ticket.opened = .changeset c →
      ((Subject.record Ticket.opened).withStateName "closed").stateName = .ok "closed" ∧
      (c.withStateName "closed").data = c.data ∧ (c.withStateName "closed").errors = c.errors ∧
      (c.withStateName "closed").changes.filter (·.1 != c.data.kind.stateField) =
        c.changes.filter (·.1 != c.data.kind.stateField)) ∧
    (∀ steps, Subject.record Ticket.opened = .plan steps →
      ((Subject.record Ticket.opened).withStateName "closed").stateName =
        (Subject.record Ticket.opened).stateName ∧
      ∃ q : Plan, (Subject.record Ticket.opened).withStateName "closed" = Subject.ofPlan q ∧
        q.steps.filter (·.1 != newStateStep) = steps.filter (·.1 != newStateStep) ∧
        q.steps.filter (·.1 == newStateStep) = [(newStateStep, .rename inputStep "closed")] ∧
        q.steps.getLast? = some (newStateStep, .rename inputStep "closed")) :=
  ⟨by decide, rfl, Subject.withStateName_laws (.record Ticket.opened) "closed" "open"⟩

end RuleMachine
