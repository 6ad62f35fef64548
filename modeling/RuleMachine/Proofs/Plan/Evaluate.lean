import Mathlib.Data.List.Induction
import RuleMachine.Proofs.Plan.Names
import RuleMachine.Proofs.Sorted.Canonical
import RuleMachine.Proofs.Split
/-!
# Evaluating a plan step by step

`Plan.evaluate` runs the steps in order, each over the outputs of the steps before it, and
collects the outputs by name. What it computes is said here without the loop: outputs `outs`
are those of the steps (`Plan.Evaluated`) when the step names are distinct, the keys of `outs`
are the names, and every step, run over `outs` cut down to the names of the steps before it,
gives its own entry of `outs`. A run that cannot finish stops at its first step that repeats an
earlier name or fails over the outputs before it (`Plan.StopsWith`).

Both are proved by adding one step at the end: the outputs of the longer list are those of the
shorter one with the new step's output written in, under a name that was free
(`Plan.evaluated_snoc_iff`). The evaluator does the same one step more
(`Plan.evaluateFrom_singleton_eq_ok_iff`), so it gives outputs exactly when they are the steps'
outputs (`Plan.evaluateFrom_eq_ok_iff`) and fails exactly where a step stops it
(`Plan.evaluateFrom_eq_error_iff`). What a held value and a rename output, and how a rename
fails, are read off the outputs of the steps before it.
-/

namespace RuleMachine

namespace Except

variable {ε α β : Type} {x : Except ε α} {f : α → Except ε β}

/-- A chained computation succeeds when the first part does and the rest succeeds on its
result. -/
theorem bind_eq_ok_iff {b : β} : x.bind f = .ok b ↔ ∃ a, x = .ok a ∧ f a = .ok b := by
  cases x <;> simp [Except.bind]

/-- A chained computation fails with the first part's error, or with the rest's error on the
first part's result. -/
theorem bind_eq_error_iff {e : ε} :
    x.bind f = .error e ↔ x = .error e ∨ ∃ a, x = .ok a ∧ f a = .error e := by
  cases x <;> simp [Except.bind]

end Except

namespace Plan

/-- `outs` is what the steps give when each runs over the outputs of the steps before it: the
names are distinct, `outs` is a sorted map whose keys are the names, and each step, run over
`outs` cut down to the names before it, gives its own entry. -/
structure Evaluated (steps : List (String × Step)) (outs : Outputs) : Prop where
  nodup : (steps.map (·.1)).Nodup
  sorted : SortedMap.Sorted outs
  keys : (outs.map Prod.fst).Perm (steps.map (·.1))
  output : ∀ pre name step post, steps = pre ++ (name, step) :: post →
    ∃ o, SortedMap.get? name outs = some o ∧
      step.output name (SortedMap.restrict (pre.map (·.1)) outs) = .ok o

theorem evaluated_nil_iff {outs : Outputs} : Evaluated [] outs ↔ outs = [] := by
  constructor
  · intro h
    simpa using h.keys
  · rintro rfl
    exact ⟨List.nodup_nil, List.Pairwise.nil, List.Perm.refl _, fun pre _ _ _ h => by simp at h⟩

/-- A name has an output exactly when one of the steps has it. -/
theorem Evaluated.contains_eq {steps : List (String × Step)} {outs : Outputs}
    (h : Evaluated steps outs) (name : String) :
    SortedMap.contains name outs = decide (name ∈ steps.map (·.1)) := by
  rw [Bool.eq_iff_iff, decide_eq_true_iff, SortedMap.contains,
    SortedMap.get?_isSome_iff_mem_keys]
  exact h.keys.mem_iff

section Snoc

variable {pre : List (String × Step)} {name : String} {step : Step} {outs : Outputs}

theorem nodup_names_snoc :
    ((pre ++ [(name, step)]).map (·.1)).Nodup ↔
      (pre.map (·.1)).Nodup ∧ name ∉ pre.map (·.1) := by
  simp only [List.map_append, List.map_cons, List.map_nil]
  rw [(List.perm_append_singleton _ _).nodup_iff, List.nodup_cons, and_comm]

/-- Of the names of steps followed by one more, those among the earlier names are the earlier
names, when the last is not one of them. -/
theorem filter_names_snoc (hname : name ∉ pre.map (·.1)) :
    ((pre ++ [(name, step)]).map (·.1)).filter (· ∈ pre.map (·.1)) = pre.map (·.1) := by
  rw [List.map_append, List.filter_append, List.filter_eq_self.mpr (fun a ha => by simpa using ha)]
  simp [hname]

/-- The outputs of all the steps, cut down to the names before the last step, are the outputs of
the steps before it. -/
theorem Evaluated.restrict_init (h : Evaluated (pre ++ [(name, step)]) outs) :
    Evaluated pre (SortedMap.restrict (pre.map (·.1)) outs) := by
  obtain ⟨hpre, hname⟩ := nodup_names_snoc.mp h.nodup
  refine ⟨hpre, h.sorted.restrict _, ?_, fun pre' n' s' post' hsplit => ?_⟩
  · have hkeys := h.keys.filter (· ∈ pre.map (·.1))
    rw [filter_names_snoc hname] at hkeys
    rwa [SortedMap.keys_restrict]
  · obtain ⟨o', hget', hout'⟩ :=
      h.output pre' n' s' (post' ++ [(name, step)]) (by simp [hsplit])
    have hn' : n' ∈ pre.map (·.1) := by simp [hsplit]
    refine ⟨o', by rw [SortedMap.get?_restrict, if_pos hn', hget'], ?_⟩
    -- the names before `n'` are among the names before the last step
    have hsub : ∀ k ∈ pre'.map (·.1), k ∈ pre.map (·.1) := fun k hk => by
      rw [hsplit, List.map_append]
      exact List.mem_append_left _ hk
    rw [SortedMap.restrict_restrict hsub]
    exact hout'

/-- The outputs of all the steps are those of the steps before the last with the last one's
output written in. -/
theorem Evaluated.eq_insert_restrict (h : Evaluated (pre ++ [(name, step)]) outs) {o : Output}
    (hget : SortedMap.get? name outs = some o) :
    outs = SortedMap.insert name o (SortedMap.restrict (pre.map (·.1)) outs) := by
  refine SortedMap.eq_of_get?_eq h.sorted ((h.sorted.restrict _).insert name o) fun k => ?_
  rw [SortedMap.get?_insert, SortedMap.get?_restrict]
  by_cases hk : k = name
  · rw [if_pos hk, hk, hget]
  · rw [if_neg hk]
    split
    · rfl
    · -- a key that names no step reads nothing
      rename_i hkpre
      have hkeys : k ∉ outs.map Prod.fst := by
        rw [h.keys.mem_iff]
        simp_all
      simpa [← SortedMap.get?_isSome_iff_mem_keys] using hkeys

/-- A step added after steps that gave `acc`, under a fresh name, gives the outputs with its own
written in. -/
theorem Evaluated.snoc {acc : Outputs} (hacc : Evaluated pre acc) (hname : name ∉ pre.map (·.1))
    {o : Output} (hout : step.output name acc = .ok o) :
    Evaluated (pre ++ [(name, step)]) (SortedMap.insert name o acc) := by
  have hsub : ∀ k ∈ acc.map Prod.fst, k ∈ pre.map (·.1) := fun k hk => hacc.keys.mem_iff.mp hk
  refine ⟨nodup_names_snoc.mpr ⟨hacc.nodup, hname⟩, hacc.sorted.insert name o, ?_,
    fun pre' n' s' post' hsplit => ?_⟩
  · refine (SortedMap.perm_keys_insert (fun hn => hname (hsub name hn)) o).trans ?_
    rw [List.map_append]
    exact (hacc.keys.cons name).trans (List.perm_append_singleton _ _).symm
  · rcases append_singleton_eq_append_cons.mp hsplit with ⟨rfl, hx, rfl⟩ | ⟨r', rfl, rfl⟩
    · -- the new step runs over the outputs of the steps before it
      cases hx
      refine ⟨o, by simp [SortedMap.get?_insert], ?_⟩
      rw [SortedMap.restrict_insert_of_not_mem hname, SortedMap.restrict_eq_self hsub]
      exact hout
    · obtain ⟨o', hget', hout'⟩ := hacc.output pre' n' s' r' rfl
      have hn' : n' ≠ name := by
        rintro rfl
        exact hname (by simp)
      refine ⟨o', by rw [SortedMap.get?_insert, if_neg hn', hget'], ?_⟩
      have hname' : name ∉ pre'.map (·.1) := fun hn => hname (by
        rw [List.map_append]
        exact List.mem_append_left _ hn)
      rw [SortedMap.restrict_insert_of_not_mem hname']
      exact hout'

/-- One step more: the outputs of the longer list are those of the shorter one with the new
step's output written under its name, which was not taken. -/
theorem evaluated_snoc_iff :
    Evaluated (pre ++ [(name, step)]) outs ↔
      ∃ acc o, Evaluated pre acc ∧ name ∉ pre.map (·.1) ∧ step.output name acc = .ok o ∧
        outs = SortedMap.insert name o acc := by
  constructor
  · intro h
    obtain ⟨o, hget, hout⟩ := h.output pre name step [] rfl
    exact ⟨_, o, h.restrict_init, (nodup_names_snoc.mp h.nodup).2, hout, h.eq_insert_restrict hget⟩
  · rintro ⟨acc, o, hacc, hname, hout, rfl⟩
    exact hacc.snoc hname hout

end Snoc

/-- One step run over outputs `acc` gives outputs exactly when its name has none yet and it
runs; the new outputs are `acc` with its own written in. -/
theorem evaluateFrom_singleton_eq_ok_iff {name : String} {step : Step} {acc outs : Outputs} :
    evaluateFrom [(name, step)] acc = .ok outs ↔
      SortedMap.contains name acc = false ∧
        ∃ o, step.output name acc = .ok o ∧ outs = SortedMap.insert name o acc := by
  simp only [evaluateFrom]
  cases SortedMap.contains name acc with
  | true => simp
  | false => cases step.output name acc <;> simp [eq_comm]

/-- One step run over outputs `acc` fails exactly when its name has an output already, or when
it fails over `acc`. -/
theorem evaluateFrom_singleton_eq_error_iff {name : String} {step : Step} {acc : Outputs}
    {e : PlanError} :
    evaluateFrom [(name, step)] acc = .error e ↔
      SortedMap.contains name acc = true ∧ e = .duplicateStep name ∨
        SortedMap.contains name acc = false ∧ step.output name acc = .error e := by
  simp only [evaluateFrom]
  cases SortedMap.contains name acc with
  | true => simp [eq_comm]
  | false => cases step.output name acc <;> simp

/-- Steps run to their end exactly when their names are distinct and each gives its output over
the outputs of the steps before it. -/
theorem evaluateFrom_eq_ok_iff (steps : List (String × Step)) (outs : Outputs) :
    evaluateFrom steps [] = .ok outs ↔ Evaluated steps outs := by
  induction steps using List.reverseRecOn generalizing outs with
  | nil =>
    rw [evaluated_nil_iff]
    exact ⟨fun h => (Except.ok.inj h).symm, fun h => h ▸ rfl⟩
  | append_singleton pre x ih =>
    obtain ⟨name, step⟩ := x
    rw [evaluateFrom_append, Except.bind_eq_ok_iff, evaluated_snoc_iff]
    constructor
    · rintro ⟨acc, hpre, hstep⟩
      have hacc := (ih acc).mp hpre
      obtain ⟨hfree, o, hout, rfl⟩ := evaluateFrom_singleton_eq_ok_iff.mp hstep
      rw [hacc.contains_eq, decide_eq_false_iff_not] at hfree
      exact ⟨acc, o, hacc, hfree, hout, rfl⟩
    · rintro ⟨acc, o, hacc, hname, hout, rfl⟩
      refine ⟨acc, (ih acc).mpr hacc, evaluateFrom_singleton_eq_ok_iff.mpr ⟨?_, o, hout, rfl⟩⟩
      rwa [hacc.contains_eq, decide_eq_false_iff_not]

/-- The run of the steps stops with `e` at its first step that cannot run: the steps before it
give `acc`, and it repeats one of their names or fails over their outputs. -/
def StopsWith (steps : List (String × Step)) (e : PlanError) : Prop :=
  ∃ pre name step post acc, steps = pre ++ (name, step) :: post ∧ Evaluated pre acc ∧
    (name ∈ pre.map (·.1) ∧ e = .duplicateStep name ∨
      name ∉ pre.map (·.1) ∧ step.output name acc = .error e)

theorem not_stopsWith_nil (e : PlanError) : ¬ StopsWith [] e := by
  rintro ⟨pre, name, step, post, acc, hsplit, -⟩
  simp at hsplit

/-- A run of steps followed by one more stops where the run of the first steps stops, or, when
they all run, at the last step. -/
theorem stopsWith_snoc_iff {pre : List (String × Step)} {name : String} {step : Step}
    {e : PlanError} :
    StopsWith (pre ++ [(name, step)]) e ↔ StopsWith pre e ∨
      ∃ acc, Evaluated pre acc ∧ (name ∈ pre.map (·.1) ∧ e = .duplicateStep name ∨
        name ∉ pre.map (·.1) ∧ step.output name acc = .error e) := by
  constructor
  · rintro ⟨pre', n', s', post', acc, hsplit, hacc, hstop⟩
    rcases append_singleton_eq_append_cons.mp hsplit with ⟨rfl, hx, rfl⟩ | ⟨r', rfl, rfl⟩
    · cases hx
      exact .inr ⟨acc, hacc, hstop⟩
    · exact .inl ⟨pre', n', s', r', acc, rfl, hacc, hstop⟩
  · rintro (⟨pre', n', s', post', acc, rfl, hacc, hstop⟩ | ⟨acc, hacc, hstop⟩)
    · exact ⟨pre', n', s', post' ++ [(name, step)], acc, by simp, hacc, hstop⟩
    · exact ⟨pre, name, step, [], acc, rfl, hacc, hstop⟩

/-- Steps fail exactly with the error of the first step that repeats an earlier name or fails
over the outputs of the steps before it. -/
theorem evaluateFrom_eq_error_iff (steps : List (String × Step)) (e : PlanError) :
    evaluateFrom steps [] = .error e ↔ StopsWith steps e := by
  induction steps using List.reverseRecOn generalizing e with
  | nil => exact ⟨fun h => (nomatch h), fun h => absurd h (not_stopsWith_nil e)⟩
  | append_singleton pre x ih =>
    obtain ⟨name, step⟩ := x
    rw [evaluateFrom_append, Except.bind_eq_error_iff, stopsWith_snoc_iff, ih]
    -- when the first steps all run, the last one stops the run exactly as it stops alone
    refine or_congr_right (exists_congr fun acc => ?_)
    rw [evaluateFrom_eq_ok_iff]
    refine and_congr_right fun hacc => ?_
    rw [evaluateFrom_singleton_eq_error_iff, hacc.contains_eq, decide_eq_true_iff,
      decide_eq_false_iff_not]

section Outputs

variable {steps pre post : List (String × Step)} {outs : Outputs} {name : String}

/-- A step that holds a value outputs that value. -/
theorem Evaluated.get?_of_value (h : Evaluated steps outs) {v : Output}
    (hsplit : steps = pre ++ (name, .value v) :: post) : SortedMap.get? name outs = some v := by
  obtain ⟨o, hget, hout⟩ := h.output pre name _ post hsplit
  cases hout
  exact hget

/-- A rename outputs the value of the earlier step it names, moved to its target. -/
theorem Evaluated.get?_of_rename (h : Evaluated steps outs) {source : String} {t : StateName}
    (hsplit : steps = pre ++ (name, .rename source t) :: post) :
    ∃ x, source ∈ pre.map (·.1) ∧ SortedMap.get? source outs = some (.state x) ∧
      SortedMap.get? name outs = some (.state (x.withStateName t)) := by
  obtain ⟨o, hget, hout⟩ := h.output pre name _ post hsplit
  simp only [Step.output, SortedMap.get?_restrict] at hout
  by_cases hs : source ∈ pre.map (·.1)
  · rw [if_pos hs] at hout
    cases hsrc : SortedMap.get? source outs with
    | none => rw [hsrc] at hout; cases hout
    | some o' =>
      rw [hsrc] at hout
      cases o' with
      | data j => cases hout
      | state x =>
        cases hout
        exact ⟨x, hs, rfl, hget⟩
  · rw [if_neg hs] at hout
    cases hout

/-- A rename whose source names no earlier step fails with `missingOutput`. -/
theorem output_rename_of_not_mem {acc : Outputs} (hacc : Evaluated pre acc) {source : String}
    (hs : source ∉ pre.map (·.1)) (t : StateName) :
    (Step.rename source t).output name acc = .error (.missingOutput name source) := by
  have hnone : SortedMap.get? source acc = none := by
    rw [← Option.not_isSome_iff_eq_none, SortedMap.get?_isSome_iff_mem_keys, hacc.keys.mem_iff]
    exact hs
  simp [Step.output, hnone]

/-- A rename whose source holds data fails with `notAState`. -/
theorem output_rename_of_data {acc : Outputs} {source : String} {j : Json}
    (hj : SortedMap.get? source acc = some (.data j)) (t : StateName) :
    (Step.rename source t).output name acc = .error (.notAState name source) := by
  simp [Step.output, hj]

end Outputs

/-- Steps added after a plan that fails never run: the plan fails the same way. -/
theorem evaluate_append_of_error {p : Plan} {e : PlanError} (h : p.evaluate = .error e)
    (later : List (String × Step)) : (Plan.mk (p.steps ++ later)).evaluate = .error e := by
  unfold evaluate at h ⊢
  rw [evaluateFrom_append, h]
  rfl

/-- Evaluating a plan runs its steps in order, each over the outputs of the steps before it.
It gives outputs exactly when the step names are distinct and every step runs (`Evaluated`):
the outputs then have the step names as keys, a held value is its own output and a rename
outputs the value of the earlier step it names, moved to its target. Otherwise it fails with
the error of the first step that repeats an earlier name or fails (`StopsWith`), a rename
failing with `missingOutput` when its source names no earlier step and with `notAState` when
that step gave data, and steps after it do not change the answer. Joining two plans gives the
steps of both in order when the added names are fresh, and otherwise fails at the first added
name that repeats one. -/
theorem evaluate_runs_steps_in_order (p a b : Plan) :
    (∀ outs, p.evaluate = .ok outs ↔ Evaluated p.steps outs) ∧
    (∀ outs, p.evaluate = .ok outs →
      (∀ pre name v post, p.steps = pre ++ (name, .value v) :: post →
        SortedMap.get? name outs = some v) ∧
      (∀ pre name source t post, p.steps = pre ++ (name, .rename source t) :: post →
        ∃ x, source ∈ pre.map (·.1) ∧ SortedMap.get? source outs = some (.state x) ∧
          SortedMap.get? name outs = some (.state (x.withStateName t)))) ∧
    (∀ e, p.evaluate = .error e ↔ StopsWith p.steps e) ∧
    (∀ pre name source t post acc, p.steps = pre ++ (name, .rename source t) :: post →
      Evaluated pre acc → name ∉ pre.map (·.1) →
        (source ∉ pre.map (·.1) → p.evaluate = .error (.missingOutput name source)) ∧
        (∀ j, SortedMap.get? source acc = some (.data j) →
          p.evaluate = .error (.notAState name source))) ∧
    (∀ e later, p.evaluate = .error e → (Plan.mk (p.steps ++ later)).evaluate = .error e) ∧
    (∀ j, a.append b = .ok j ↔ Fresh a.names b.names ∧ j.steps = a.steps ++ b.steps) ∧
    (∀ e, a.append b = .error e ↔ ∃ n, e = .duplicateStep n ∧ FirstClash a.names b.names n) := by
  have hok := evaluateFrom_eq_ok_iff p.steps
  have herr := evaluateFrom_eq_error_iff p.steps
  refine ⟨hok, fun outs hev => ?_, herr, ?_, fun e later h => evaluate_append_of_error h later,
    fun j => append_eq_ok_iff, fun e => append_eq_error_iff⟩
  · have h := (hok outs).mp hev
    exact ⟨fun pre name v post hsplit => h.get?_of_value hsplit,
      fun pre name source t post hsplit => h.get?_of_rename hsplit⟩
  · intro pre name source t post acc hsplit hacc hname
    -- the rename is the first step that cannot run
    refine ⟨fun hs => (herr _).mpr ⟨pre, name, _, post, acc, hsplit, hacc, .inr ⟨hname, ?_⟩⟩,
      fun j hj => (herr _).mpr ⟨pre, name, _, post, acc, hsplit, hacc, .inr ⟨hname, ?_⟩⟩⟩
    · exact output_rename_of_not_mem hacc hs t
    · exact output_rename_of_data hj t

/-- The order held as the input and moved to `paid`. -/
def Checkout.movePending : Plan :=
  ⟨[(inputStep, .value (.state Checkout.pending)), (newStateStep, .rename inputStep "paid")]⟩

/-- The order moved to `paid` evaluates to the order and its move, which are the outputs of its
two steps; a plan naming `charge` twice stops at the second. -/
theorem moved_order_runs_and_double_charge_stops :
    Checkout.movePending.evaluate =
        .ok [(inputStep, .state Checkout.pending),
          (newStateStep, .state (Checkout.pending.withStateName "paid"))] ∧
      Evaluated Checkout.movePending.steps
        [(inputStep, .state Checkout.pending),
          (newStateStep, .state (Checkout.pending.withStateName "paid"))] ∧
      Checkout.doubleCharge.evaluate = .error (.duplicateStep "charge") ∧
      StopsWith Checkout.doubleCharge.steps (.duplicateStep "charge") :=
  ⟨rfl, ((evaluate_runs_steps_in_order Checkout.movePending Checkout.movePending
      Checkout.movePending).1 _).mp rfl, rfl,
    ((evaluate_runs_steps_in_order Checkout.doubleCharge Checkout.doubleCharge
      Checkout.doubleCharge).2.2.1 _).mp rfl⟩

end Plan

end RuleMachine
