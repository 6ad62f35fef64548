import Mathlib.Logic.Relation
import RuleMachine.Proofs.Graph.Reach
import RuleMachine.Proofs.RuleSet.Compile
import RuleMachine.Proofs.Plan.Adapt
/-!
# Transitions lead where their table says

A compiled table records, for each transition, the states its body can lead to. Dispatch runs
that body, so the table is only an honest map of the machine if every transition dispatch takes
ends in one of the recorded states. This holds for rule-sets compiled under `reject` from
declarations that leave every destination to the analysis (`RuleSet.CompiledUnannotated`):

* the row dispatch finds is the owner's row for the key, and the owner stored the body it runs
  under the same key, analysed from the key's state (`RuleSet.compile_analysed`);
* the analysis succeeded under `reject`, so the reply names a state it found
  (`Body.eval_landsIn_of_walk`);
* a kept value must still be in the dispatched state, a moved record or changeset reads its new
  state, and a plan answer ends by renaming its input to the new state
  (`dispatch_transition_lands`).

Along a run of such steps, each new state is a successor, in the merged table's graph, of the
state before it, so every state of the run is reachable from the first
(`governed_run_reachable`).
-/

namespace RuleMachine

/-- A rule-set compiled under `reject` from declarations that leave every destination to the
analysis. -/
def RuleSet.CompiledUnannotated (rs : RuleSet) : Prop :=
  ∃ id decls, (∀ d ∈ decls, d.namesDestinations = false) ∧
    RuleSet.compile id decls { unrecognizedArms := .reject } = .ok rs

theorem RuleSet.CompiledUnannotated.analysed {rs : RuleSet} (h : rs.CompiledUnannotated) :
    rs.Analysed := by
  obtain ⟨id, decls, hd, hc⟩ := h
  exact compile_analysed hc hd

/-- The owner of a row of the merged table is one of the rule-sets, and has the row. -/
theorem mem_of_lastRow {R : List RuleSet} {k : Key} {o : RuleSet} {row : Row}
    (h : lastRow R k = some (o, row)) : o ∈ R ∧ SortedMap.get? k o.table = some row := by
  obtain ⟨o', ho', hrow⟩ := List.exists_of_findSome?_eq_some h
  obtain ⟨row', hrow', hpair⟩ := Option.map_eq_some_iff.mp hrow
  cases hpair
  exact ⟨List.mem_reverse.mp ho', hrow'⟩

namespace Merged

theorem mem_table_of_transition? {m : Merged} {k : Key} {o : RuleSet} {row : Row}
    (h : m.transition? k = some (o, row)) : (k, row) ∈ m.table := by
  unfold transition? at h
  split at h
  · rename_i owner howner
    obtain ⟨row', hrow', hpair⟩ := Option.map_eq_some_iff.mp h
    cases hpair
    apply List.mem_filterMap.mpr
    exact ⟨(k, o), SortedMap.mem_of_get?_eq_some howner, by simp [hrow']⟩
  · cases h

/-- The destinations of a row found in the merged table are successors of its state in the
merged graph. -/
theorem mem_successors_of_transition? {m : Merged} {s : StateName} {ev : Event} {o : RuleSet}
    {row : Row} (h : m.transition? ⟨s, ev⟩ = some (o, row)) {d : StateName}
    (hd : d ∈ row.destinations) : d ∈ m.graph.successors s :=
  Table.mem_successors_graph (mem_table_of_transition? h) hd

/-- A transition handler is the row of its key in the merged table, in the resolved state. -/
theorem resolve_eq_transition {m : Merged} {s s' : StateName} {e : EventName} {o : RuleSet}
    {ev : Event} {ds : List StateName} (h : m.resolve s e = some (.transition o s' ev ds)) :
    s' = s ∧ ∃ row, m.transition? ⟨s, ev⟩ = some (o, row) ∧ ds = row.destinations := by
  unfold resolve at h
  split at h
  · rename_i owner row hrow
    cases h
    exact ⟨rfl, row, hrow, rfl⟩
  · split at h
    · rename_i owner row hrow
      cases h
      exact ⟨rfl, row, hrow, rfl⟩
    · obtain ⟨owner, -, hbyp⟩ := Option.map_eq_some_iff.mp h
      cases hbyp

end Merged

/-- A transition a value resolves to is the row of its key in the merged table of the value's
rule-sets, from the value's state. -/
theorem Subject.transition_row_of_resolve {cat : Catalog} {v : Subject} {s s' : StateName}
    {e : EventName} {o : RuleSet} {ev : Event} {ds : List StateName} (hs : v.stateName = .ok s)
    (hh : v.resolve cat e = .ok (some (.transition o s' ev ds))) :
    s' = s ∧ ∃ row, (Merged.ofRuleSets (cat.resolve v.ruleSets)).transition? ⟨s, ev⟩ = some (o, row) ∧
      ds = row.destinations :=
  Merged.resolve_eq_transition (Subject.merged_resolve hs hh)

/-- A changeset with errors is handed back unchanged. -/
theorem dispatch_of_isInvalidChangeset {cat : Catalog} {v : Subject} {e : EventName}
    {params : Json} (h : v.isInvalidChangeset = true) : dispatch cat v e params = .ok v := by
  simp [dispatch, dispatchNoted, h]

/-- A value whose state cannot be read is refused. -/
theorem dispatch_of_stateName_error {cat : Catalog} {v : Subject} {e : EventName}
    {params : Json} (hvalid : v.isInvalidChangeset = false) {err : AccessError}
    (h : v.stateName = .error err) : dispatch cat v e params = .refused (.unreadable err) := by
  simp [dispatch, dispatchNoted, hvalid, h]

/-- A transition dispatched on a value governed by rule-sets whose rows are analysed from their
bodies ends where the row says: a record or changeset that can be read is in one of the row's
destinations, and a plan answer ends by renaming its input to one of them. -/
theorem dispatch_transition_lands {cat : Catalog} {v : Subject} {e : EventName} {params : Json}
    (hR : ∀ rs ∈ cat.resolve v.ruleSets, rs.Analysed) {s s' : StateName}
    (hs : v.stateName = .ok s) (hvalid : v.isInvalidChangeset = false) {o : RuleSet} {ev : Event}
    {ds : List StateName} (hh : v.resolve cat e = .ok (some (.transition o s' ev ds)))
    {w : Subject} (hw : dispatch cat v e params = .ok w) :
    (∀ t, w.isPlan = false → w.stateName = .ok t → t ∈ ds) ∧
      (∀ t steps, (Handler.transition o s' ev ds).answer v e params = some (.next t (.plan steps)) →
        ∃ q, w = Subject.ofPlan q ∧
          q.steps.getLast? = some (newStateStep, .rename inputStep t) ∧ t ∈ ds) := by
  obtain ⟨rfl, row, hrow, rfl⟩ := Subject.transition_row_of_resolve hs hh
  -- the row is the owner's, and the owner analysed the body it stores under the same key
  rw [Merged.transition?_ofRuleSets] at hrow
  obtain ⟨ho, hrow'⟩ := mem_of_lastRow hrow
  obtain ⟨b, site, hb, hwalk⟩ := hR o ho ⟨s', ev⟩ row hrow'
  have hlands : ∀ r, (Handler.transition o s' ev row.destinations).answer v e params = some r →
      r.LandsIn s' row.destinations := by
    intro r hr
    simp only [Handler.answer, Handler.body?, hb, Option.bind_some] at hr
    exact Body.eval_landsIn_of_walk b hwalk r hr
  rw [dispatch_eq_settle hvalid hs hh] at hw
  rcases Reply.settle_eq_ok hw with ⟨kept, hkept, rfl, hnow⟩ | ⟨name, steps, q, hnext, hq, rfl⟩ |
      ⟨name, moved, hnext, hmoved, rfl⟩
  · -- a kept value that can be read is still in the dispatched state, which the body can keep
    have hin : s' ∈ row.destinations := hlands _ hkept
    refine ⟨fun t _ ht => hnow t ht ▸ hin, fun t steps' hnext => ?_⟩
    rw [hkept] at hnext
    cases hnext
  · have hin : name ∈ row.destinations := hlands _ hnext
    refine ⟨fun t hplan _ => (by cases hplan), fun t steps' hnext' => ?_⟩
    rw [hnext] at hnext'
    cases hnext'
    exact ⟨q, rfl, Plan.adapt_getLast? hq, hin⟩
  · have hin : name ∈ row.destinations := hlands _ hnext
    refine ⟨fun t _ ht => ?_, fun t steps' hnext' => ?_⟩
    · rw [Subject.stateName_withStateName hmoved name] at ht
      cases ht
      exact hin
    · rw [hnext] at hnext'
      cases hnext'
      cases hmoved

/-- One step of a run that the rule-sets `R` govern: a dispatch that succeeds into a record or a
changeset governed by `R`, either handled by a transition or handing a changeset with errors
back. -/
inductive GovernedStep (cat : Catalog) (R : List RuleSet) : Subject → Subject → Prop
  | step {v w : Subject} (e : EventName) (params : Json)
      (hv : cat.resolve v.ruleSets = R) (hw : cat.resolve w.ruleSets = R) (hrec : w.isPlan = false)
      (hd : dispatch cat v e params = .ok w)
      (hby : v.isInvalidChangeset = true ∨
        ∃ h, v.resolve cat e = .ok (some h) ∧ h.isTransition = true) :
      GovernedStep cat R v w

/-- A governed step keeps every state that can be read within the states reachable from `s₀`. -/
theorem GovernedStep.reachable {cat : Catalog} {R : List RuleSet}
    (hR : ∀ rs ∈ R, rs.Analysed) {v w : Subject} (hstep : GovernedStep cat R v w) {s₀ : StateName}
    (hv : ∀ t, v.stateName = .ok t → t ∈ (Merged.ofRuleSets R).reachableFrom s₀) :
    ∀ t, w.stateName = .ok t → t ∈ (Merged.ofRuleSets R).reachableFrom s₀ := by
  obtain ⟨e, params, hgv, -, hrec, hd, hby⟩ := hstep
  cases hvalid : v.isInvalidChangeset with
  | true =>
    rw [dispatch_of_isInvalidChangeset hvalid] at hd
    cases hd
    exact hv
  | false =>
    obtain ⟨h, hh, htr⟩ := hby.resolve_left (by simp [hvalid])
    cases hsv : v.stateName with
    | error err =>
      rw [dispatch_of_stateName_error hvalid hsv] at hd
      cases hd
    | ok sv =>
      cases h with
      | bypass o ev => cases htr
      | transition o s' ev ds =>
        intro t ht
        have hlands := (dispatch_transition_lands (hgv ▸ hR) hsv hvalid hh hd).1 t hrec ht
        -- the destinations of the transition are successors of the state it left
        obtain ⟨-, row, hrow, rfl⟩ := Subject.transition_row_of_resolve hsv hh
        rw [hgv] at hrow
        exact Graph.reach_closed (hv sv hsv) (Merged.mem_successors_of_transition? hrow hlands)

/-- Along a governed run from a value in state `s₀`, every state that can be read is reachable
from `s₀` in the merged table. -/
theorem governed_run_reachable {cat : Catalog} {R : List RuleSet}
    (hR : ∀ rs ∈ R, rs.Analysed) {v₀ v : Subject} {s₀ : StateName} (hs₀ : v₀.stateName = .ok s₀)
    (hrun : Relation.ReflTransGen (GovernedStep cat R) v₀ v) :
    ∀ t, v.stateName = .ok t → t ∈ (Merged.ofRuleSets R).reachableFrom s₀ := by
  induction hrun with
  | refl =>
    intro t ht
    rw [hs₀] at ht
    cases ht
    exact Graph.start_mem_reach _ _
  | tail _ hstep ih => exact hstep.reachable hR ih

/-- Transitions of rule-sets compiled under `reject` without declared destinations lead only
where their rows say: a record or changeset that can be read is in the row's destinations, and
a plan answer ends by renaming its input to one of them; so along every run of such transitions
(or of changesets with errors handed back) every state that can be read is reachable from the
first in the merged table. -/
theorem transitions_stay_within_destinations (cat : Catalog) (R : List RuleSet)
    (hR : ∀ rs ∈ R, rs.CompiledUnannotated) :
    (∀ (v : Subject) (e : EventName) (params : Json) (s s' : StateName) (o : RuleSet) (ev : Event)
        (ds : List StateName) (w : Subject),
      cat.resolve v.ruleSets = R → v.stateName = .ok s → v.isInvalidChangeset = false →
      v.resolve cat e = .ok (some (.transition o s' ev ds)) → dispatch cat v e params = .ok w →
      (∀ t, w.isPlan = false → w.stateName = .ok t → t ∈ ds) ∧
        (∀ t steps,
          (Handler.transition o s' ev ds).answer v e params = some (.next t (.plan steps)) →
          ∃ q, w = Subject.ofPlan q ∧
            q.steps.getLast? = some (newStateStep, .rename inputStep t) ∧ t ∈ ds)) ∧
    (∀ (v₀ v : Subject) (s₀ t : StateName), v₀.stateName = .ok s₀ →
      Relation.ReflTransGen (GovernedStep cat R) v₀ v → v.stateName = .ok t →
      t ∈ (Merged.ofRuleSets R).reachableFrom s₀) := by
  have hA : ∀ rs ∈ R, rs.Analysed := fun rs hrs => (hR rs hrs).analysed
  refine ⟨fun v e params s s' o ev ds w hgov hs hvalid hh hw => ?_,
    fun v₀ v s₀ t hs₀ hrun ht => governed_run_reachable hA hs₀ hrun t ht⟩
  exact dispatch_transition_lands (hgov ▸ hA) hs hvalid hh hw

namespace Lamp

/-- A lamp that `flip` switches between `off` and `on`. -/
def declarations : List Declaration :=
  [Declaration.simple "off" "flip" "on", Declaration.simple "on" "flip" "off"]

/-- The lamp's rule-set, compiled under `reject`. -/
def rules : RuleSet :=
  match RuleSet.compile "lamp" declarations { unrecognizedArms := .reject } with
  | .ok rs => rs
  | .error _ => RuleSet.empty "lamp"

end Lamp

theorem lamp_transitions_stay_within_destinations :
    (∀ rs ∈ [Lamp.rules], rs.CompiledUnannotated) ∧
    (∀ (v : Subject) (e : EventName) (params : Json) (s s' : StateName) (o : RuleSet) (ev : Event)
        (ds : List StateName) (w : Subject),
      Catalog.resolve [Lamp.rules] v.ruleSets = [Lamp.rules] → v.stateName = .ok s →
      v.isInvalidChangeset = false →
      v.resolve [Lamp.rules] e = .ok (some (.transition o s' ev ds)) →
      dispatch [Lamp.rules] v e params = .ok w →
      (∀ t, w.isPlan = false → w.stateName = .ok t → t ∈ ds) ∧
        (∀ t steps,
          (Handler.transition o s' ev ds).answer v e params = some (.next t (.plan steps)) →
          ∃ q, w = Subject.ofPlan q ∧
            q.steps.getLast? = some (newStateStep, .rename inputStep t) ∧ t ∈ ds)) ∧
    (∀ (v₀ v : Subject) (s₀ t : StateName), v₀.stateName = .ok s₀ →
      Relation.ReflTransGen (GovernedStep [Lamp.rules] [Lamp.rules]) v₀ v → v.stateName = .ok t →
      t ∈ (Merged.ofRuleSets [Lamp.rules]).reachableFrom s₀) := by
  have hcompiled : ∀ rs ∈ [Lamp.rules], rs.CompiledUnannotated := by
    intro rs hrs
    rw [List.mem_singleton] at hrs
    subst hrs
    exact ⟨"lamp", Lamp.declarations, by decide, rfl⟩
  exact ⟨hcompiled, transitions_stay_within_destinations [Lamp.rules] [Lamp.rules] hcompiled⟩

end RuleMachine
