import RuleMachine.Plan.Evaluate
import RuleMachine.RuleSet.Compile
import RuleMachine.Proofs.Dispatch.Resolve
import RuleMachine.Proofs.Changeset.Apply
/-!
# Where a plan answer leads

A handler that moves a value to a state `t` may answer with a plan. Dispatch then gives a plan
that ends with the step `newState` renaming `input` to `t` (`Plan.adapt_getLast?`), and whose
input is (`Plan.composedInput`): the handler plan's own input when it has one; otherwise the input
of the dispatched value when that is a plan; otherwise the dispatched value itself
(`Plan.input?_adapt`).

Running a plan that ends by renaming its input evaluates the input step to the input and the last
step to the input moved to `t` (`Plan.evaluate_of_getLast?_rename`). The input moved to `t` reads
as `t` when it is a record or a changeset; a plan moved to `t` still reads the state of its own
input, so a plan whose input is itself a plan does not end in `t`. The composed plan reports the
state and the rule-sets of its input before it is run (`Plan.stateName_ofPlan_of_input?`).
-/

namespace RuleMachine

namespace Plan

/-- The state-bearing value a step holds, if it holds one. -/
def heldState? : Step → Option Subject
  | .value (.state s) => some s
  | _ => none

/-- The value a plan composed by `adapt` starts from: the returned plan's own input when it has
one, else the input of the dispatched value when that is a plan, else the value itself. -/
def composedInput (value : Subject) (returned : Plan) : Option Subject :=
  match returned.input? with
  | some u => some u
  | none =>
    match value with
    | .plan steps => (Plan.mk steps).input?
    | other => some other

theorem input?_eq_bind (p : Plan) : p.input? = (p.step? inputStep).bind heldState? := by
  unfold input?
  cases p.step? inputStep with
  | none => rfl
  | some st => rcases st with ⟨_ | _⟩ | _ | _ <;> rfl

theorem step?_append (ps qs : List (String × Step)) (n : String) :
    (Plan.mk (ps ++ qs)).step? n = ((Plan.mk ps).step? n).or ((Plan.mk qs).step? n) := by
  simp only [step?, List.find?_append]
  cases ps.find? (·.1 == n) <;> rfl

theorem input?_append (ps qs : List (String × Step)) :
    (Plan.mk (ps ++ qs)).input? =
      match (Plan.mk ps).step? inputStep with
      | some _ => (Plan.mk ps).input?
      | none => (Plan.mk qs).input? := by
  rw [input?_eq_bind, input?_eq_bind, input?_eq_bind, step?_append]
  cases (Plan.mk ps).step? inputStep <;> rfl

theorem step?_without (p : Plan) {m n : String} (hmn : m ≠ n) :
    (p.without m).step? n = p.step? n := by
  simp only [step?, without, List.find?_filter]
  congr 2
  funext x
  by_cases hx : x.1 = n
  · simp [hx, Ne.symm hmn]
  · simp [hx]

/-- A plan's steps appended one by one are its steps after the first's. -/
theorem append_eq_ok {p q j : Plan} (h : p.append q = .ok j) : j.steps = p.steps ++ q.steps := by
  obtain ⟨qs⟩ := q
  unfold append at h
  induction qs generalizing p with
  | nil => cases h; simp
  | cons x rest ih =>
    obtain ⟨name, step⟩ := x
    simp only [List.foldlM_cons] at h
    split at h
    · cases h
    · rw [ih h]
      simp [push]

/-- The input of a plan is what its first `input` step holds, and the plan reads its state and
rule-sets from it. -/
theorem stateName_ofPlan_of_input? {p : Plan} {u : Subject} (h : p.input? = some u) :
    (Subject.ofPlan p).stateName = u.stateName ∧ (Subject.ofPlan p).ruleSets = u.ruleSets := by
  obtain ⟨ps⟩ := p
  simp only [Subject.ofPlan, Subject.stateName, Subject.ruleSets]
  rw [input?_eq_bind] at h
  induction ps with
  | nil => simp [step?] at h
  | cons x rest ih =>
    obtain ⟨name, step⟩ := x
    by_cases hn : name = inputStep
    · subst hn
      simp only [step?, List.find?_cons, beq_self_eq_true, Option.map_some, Option.bind_some] at h
      rcases step with ⟨_ | _⟩ | _ | _ <;> simp_all [heldState?, Subject.inputStateName,
        Subject.inputRuleSets, Step.heldStateName, Step.heldRuleSets, Output.heldStateName,
        Output.heldRuleSets]
    · have hrest : (Plan.mk rest).step? inputStep = (Plan.mk ((name, step) :: rest)).step? inputStep := by
        simp [step?, hn]
      rw [← hrest] at h
      simpa [Subject.inputStateName, Subject.inputRuleSets, hn] using ih h

/-- A plan whose state can be read has an input in that state. -/
theorem input?_of_inputStateName {ps : List (String × Step)} {s : StateName}
    (h : Subject.inputStateName ps = .ok s) : ∃ u, (Plan.mk ps).input? = some u := by
  rw [input?_eq_bind]
  induction ps with
  | nil => simp [Subject.inputStateName] at h
  | cons x rest ih =>
    obtain ⟨name, step⟩ := x
    by_cases hn : name = inputStep
    · subst hn
      simp only [Subject.inputStateName, if_true] at h
      rcases step with ⟨u | _⟩ | _ | _ <;>
        simp_all [Step.heldStateName, Output.heldStateName, step?, heldState?]
    · simp only [Subject.inputStateName, hn, if_false] at h
      simpa [step?, List.find?_cons, hn] using ih h

theorem newStateStep_ne_inputStep : newStateStep ≠ inputStep := by decide

/-- The head `adapt` puts before the returned plan's steps: a plan value without its `newState`
steps, any other value as the `input` step. -/
def adaptHead : Subject → Plan
  | .plan steps => (Plan.mk steps).without newStateStep
  | other => Plan.empty.push inputStep (.value (.state other))

theorem adapt_eq (value : Subject) (returned : Plan) (target : StateName) :
    adapt value returned target =
      if returned.input?.isSome then .ok (returned.withStateName target)
      else
        match (adaptHead value).append returned with
        | .error e => .error e
        | .ok joined => joined.append (Plan.empty.push newStateStep (.rename inputStep target)) := by
  cases value <;> rfl

/-- A composed plan is the returned plan retargeted, when it has its own input, and otherwise
the head, the returned steps and the final rename, in that order. -/
theorem adapt_eq_ok {value : Subject} {returned q : Plan} {target : StateName}
    (h : adapt value returned target = .ok q) :
    (returned.input?.isSome ∧ q = returned.withStateName target) ∨
      (returned.input? = none ∧ q.steps = (adaptHead value).steps ++ returned.steps ++
        [(newStateStep, .rename inputStep target)]) := by
  rw [adapt_eq] at h
  split at h
  · rename_i hsome
    cases h
    exact Or.inl ⟨hsome, rfl⟩
  · rename_i hnone
    split at h
    · cases h
    · rename_i joined hjoined
      refine Or.inr ⟨Option.not_isSome_iff_eq_none.mp hnone, ?_⟩
      rw [append_eq_ok h, append_eq_ok hjoined]
      rfl

/-- A composed plan ends by renaming its input to the target. -/
theorem adapt_getLast? {value : Subject} {returned q : Plan} {target : StateName}
    (h : adapt value returned target = .ok q) :
    q.steps.getLast? = some (newStateStep, .rename inputStep target) := by
  rcases adapt_eq_ok h with ⟨-, rfl⟩ | ⟨-, hq⟩
  · exact List.getLast?_concat
  · rw [hq]
    exact List.getLast?_concat

/-- Retargeting a plan keeps its input. -/
theorem input?_withStateName (p : Plan) (target : StateName) :
    (p.withStateName target).input? = p.input? := by
  have hne := newStateStep_ne_inputStep
  simp only [withStateName, push]
  rw [input?_append, step?_without p hne]
  cases hst : p.step? inputStep with
  | none =>
    show (Plan.mk [(newStateStep, .rename inputStep target)]).input? = p.input?
    rw [input?_eq_bind, input?_eq_bind, hst]
    simp [step?, hne]
  | some st =>
    show (Plan.mk (p.without newStateStep).steps).input? = p.input?
    rw [input?_eq_bind, input?_eq_bind]
    exact congrArg (·.bind heldState?) (step?_without p hne)

/-- The input of a composed plan is the returned plan's own, else the plan value's, else the
value itself. -/
theorem input?_adapt {value : Subject} {returned q : Plan} {target : StateName}
    (h : adapt value returned target = .ok q) : q.input? = composedInput value returned := by
  have hne := newStateStep_ne_inputStep
  -- the final rename is not an input step
  have htail : (Plan.mk [(newStateStep, .rename inputStep target)]).step? inputStep = none := by
    simp [step?, hne]
  rcases adapt_eq_ok h with ⟨hsome, rfl⟩ | ⟨hnone, hq⟩
  · rw [input?_withStateName]
    unfold composedInput
    split <;> simp_all
  · obtain ⟨qs⟩ := q
    simp only at hq
    subst hq
    rw [List.append_assoc, input?_append]
    unfold composedInput
    rw [hnone]
    cases value with
    | plan vs =>
      simp only [adaptHead]
      rw [step?_without _ hne]
      cases hv : (Plan.mk vs).step? inputStep with
      | some st =>
        show (Plan.mk ((Plan.mk vs).without newStateStep).steps).input? = (Plan.mk vs).input?
        rw [input?_eq_bind, input?_eq_bind]
        exact congrArg (·.bind heldState?) (step?_without _ hne)
      | none =>
        show (Plan.mk (returned.steps ++ [(newStateStep, .rename inputStep target)])).input? = _
        rw [input?_append]
        have hvnone : (Plan.mk vs).input? = none := by rw [input?_eq_bind, hv]; rfl
        rw [hvnone]
        split
        · exact hnone
        · rw [input?_eq_bind, htail]; rfl
    | record r => rfl
    | changeset c => rfl

/-- A value whose state can be read composes with every returned plan: a plan value that can be
read has an input. -/
theorem exists_composedInput {value : Subject} {s : StateName} (hs : value.stateName = .ok s)
    (returned : Plan) : ∃ u, composedInput value returned = some u := by
  unfold composedInput
  split
  · rename_i u hu
    exact ⟨u, rfl⟩
  · cases value with
    | plan vs => exact input?_of_inputStateName hs
    | record r => exact ⟨_, rfl⟩
    | changeset c => exact ⟨_, rfl⟩

/-- A returned plan with no input of its own starts from the record or changeset dispatched. -/
theorem composedInput_of_input?_eq_none {value : Subject} (hv : value.isPlan = false)
    {returned : Plan} (hnone : returned.input? = none) :
    composedInput value returned = some value := by
  unfold composedInput
  rw [hnone]
  cases value with
  | plan vs => cases hv
  | record r => rfl
  | changeset c => rfl

/-- Before a record or a changeset, `adapt` puts the value itself as the `input` step. -/
theorem adaptHead_of_isPlan_eq_false {value : Subject} (hv : value.isPlan = false) :
    adaptHead value = Plan.empty.push inputStep (.value (.state value)) := by
  cases value with
  | plan vs => cases hv
  | record r => rfl
  | changeset c => rfl

/-- A step list whose first step of a name holds a value outputs that value under the name. -/
theorem get?_evaluateFrom_of_get? {ps : List (String × Step)} {outs outs' : Outputs}
    (h : evaluateFrom ps outs = .ok outs') {n : String} {o : Output}
    (hn : SortedMap.get? n outs = some o) : SortedMap.get? n outs' = some o := by
  induction ps generalizing outs with
  | nil => cases h; exact hn
  | cons x rest ih =>
    obtain ⟨m, step⟩ := x
    simp only [evaluateFrom] at h
    split at h
    · cases h
    · rename_i hfresh
      split at h
      · cases h
      · rename_i o' _
        apply ih h
        -- the step's name was not taken, so it is not `n`
        have hmn : n ≠ m := by
          rintro rfl
          simp [SortedMap.contains, hn] at hfresh
        rw [SortedMap.get?_insert, if_neg hmn, hn]

theorem evaluateFrom_append (ps qs : List (String × Step)) (outs : Outputs) :
    evaluateFrom (ps ++ qs) outs = (evaluateFrom ps outs).bind (evaluateFrom qs) := by
  induction ps generalizing outs with
  | nil => rfl
  | cons x rest ih =>
    obtain ⟨m, step⟩ := x
    simp only [List.cons_append, evaluateFrom]
    split
    · rfl
    · split
      · rfl
      · exact ih _

/-- The first step of a name that holds a value, run where the name has no output yet, outputs
that value. -/
theorem get?_evaluateFrom_first {ps : List (String × Step)} {n : String} {o : Output}
    (hstep : (Plan.mk ps).step? n = some (.value o)) {outs outs' : Outputs}
    (hn : SortedMap.get? n outs = none) (h : evaluateFrom ps outs = .ok outs') :
    SortedMap.get? n outs' = some o := by
  induction ps generalizing outs with
  | nil => simp [step?] at hstep
  | cons x rest ih =>
    obtain ⟨m, step⟩ := x
    simp only [evaluateFrom] at h
    split at h
    · cases h
    · split at h
      · cases h
      · rename_i o' hout
        by_cases hmn : m = n
        · subst hmn
          simp only [step?, List.find?_cons, beq_self_eq_true, Option.map_some,
            Option.some.injEq] at hstep
          subst hstep
          simp only [Step.output, Except.ok.injEq] at hout
          subst hout
          exact get?_evaluateFrom_of_get? h (by simp [SortedMap.get?_insert])
        · have hrest : (Plan.mk rest).step? n = some (.value o) := by
            simpa [step?, hmn] using hstep
          exact ih hrest (by rw [SortedMap.get?_insert, if_neg (Ne.symm hmn), hn]) h

/-- A plan that ends by renaming its input to `t` evaluates its input step to the input and
ends in the input moved to `t`. -/
theorem evaluate_of_getLast?_rename {q : Plan} {t : StateName}
    (hlast : q.steps.getLast? = some (newStateStep, .rename inputStep t)) {u : Subject}
    (hin : q.input? = some u) {outs : Outputs} (hev : q.evaluate = .ok outs) :
    SortedMap.get? inputStep outs = some (.state u) ∧ finalState outs = some (u.withStateName t) := by
  have hne := newStateStep_ne_inputStep
  obtain ⟨pre, hpre⟩ := List.getLast?_eq_some_iff.mp hlast
  obtain ⟨qs⟩ := q
  simp only at hpre
  subst hpre
  -- the input step is found before the final rename
  have hstep : (Plan.mk pre).step? inputStep = some (.value (.state u)) := by
    rw [input?_eq_bind, step?_append] at hin
    have htail : (Plan.mk [(newStateStep, Step.rename inputStep t)]).step? inputStep = none := by
      simp [step?, hne]
    rw [htail, Option.or_none] at hin
    cases hs : (Plan.mk pre).step? inputStep with
    | none => simp [hs] at hin
    | some st =>
      rw [hs, Option.bind_some] at hin
      rcases st with ⟨_ | _⟩ | _ | _ <;> simp_all [heldState?]
  unfold evaluate at hev
  rw [evaluateFrom_append] at hev
  cases hmid : evaluateFrom pre [] with
  | error e => simp [hmid] at hev; cases hev
  | ok mid =>
    rw [hmid] at hev
    have hinput : SortedMap.get? inputStep mid = some (.state u) :=
      get?_evaluateFrom_first hstep rfl hmid
    simp only [Except.bind, evaluateFrom, Step.output, hinput] at hev
    split at hev
    · cases hev
    · cases hev
      refine ⟨?_, ?_⟩
      · rw [SortedMap.get?_insert, if_neg (Ne.symm hne), hinput]
      · simp [finalState, SortedMap.get?_insert]

end Plan

/-- A record moved to a state reads that state. -/
theorem Record.stateName_withStateName (r : Record) (name : StateName) :
    (r.withStateName name).stateName = .ok name := by
  show r.kind.readState ((r.withField r.kind.stateField (.string name)).get? r.kind.stateField) = _
  rw [get?_withField, if_pos rfl]
  rfl

/-- A record or a changeset moved to a state reads that state. -/
theorem Subject.stateName_withStateName {v : Subject} (hv : v.isPlan = false)
    (name : StateName) : (v.withStateName name).stateName = .ok name := by
  cases v with
  | record r => exact Record.stateName_withStateName r name
  | changeset c => exact Changeset.stateName_withStateName c name
  | plan steps => cases hv

/-- A handler that moves a value to `t` with a plan makes dispatch give a plan that ends by
renaming its input to `t`, its input `u` composed from the handler's plan and the value. Running
that plan outputs `u` for `input` and ends in `u` moved to `t`, which reads `t` when `u` is a
record or a changeset; before it runs, the plan reports `u`'s state and rule-sets. When the
handler's plan has no input of its own and the value is a record or a changeset, the plan starts
with the value itself as `input`, so `u` is the value. -/
theorem dispatch_plan_answer_moves_input (cat : Catalog) (v : Subject) (e : EventName)
    (params : Json) {s : StateName} (hs : v.stateName = .ok s)
    (hvalid : v.isInvalidChangeset = false) {h : Handler} (hh : v.resolve cat e = .ok (some h))
    {t : StateName} {steps : List (String × Step)}
    (hanswer : h.answer v e params = some (.next t (.plan steps)))
    {w : Subject} (hw : dispatch cat v e params = .ok w) :
    ∃ q u, w = Subject.ofPlan q ∧ q.steps.getLast? = some (newStateStep, .rename inputStep t) ∧
      q.input? = some u ∧ Plan.composedInput v ⟨steps⟩ = some u ∧
      (∀ outs, q.evaluate = .ok outs →
        SortedMap.get? inputStep outs = some (.state u) ∧
          Plan.finalState outs = some (u.withStateName t)) ∧
      (u.isPlan = false → (u.withStateName t).stateName = .ok t) ∧
      w.stateName = u.stateName ∧ w.ruleSets = u.ruleSets ∧
      ((Plan.mk steps).input? = none → v.isPlan = false →
        q.steps.head? = some (inputStep, .value (.state v)) ∧ u = v) := by
  rw [dispatch_eq_settle hvalid hs hh, hanswer] at hw
  obtain ⟨q, hq, rfl⟩ := Reply.settle_plan_eq_ok hw
  obtain ⟨u, hu⟩ := Plan.exists_composedInput hs ⟨steps⟩
  have hin : q.input? = some u := (Plan.input?_adapt hq).trans hu
  have hlast := Plan.adapt_getLast? hq
  obtain ⟨hstate, hrules⟩ := Plan.stateName_ofPlan_of_input? hin
  refine ⟨q, u, rfl, hlast, hin, hu, fun outs hev => Plan.evaluate_of_getLast?_rename hlast hin hev,
    fun hu' => Subject.stateName_withStateName hu' t, hstate, hrules, ?_⟩
  intro hnone hv
  rcases Plan.adapt_eq_ok hq with ⟨hsome, -⟩ | ⟨-, hsteps⟩
  · rw [hnone] at hsome
    cases hsome
  · have hvu := Plan.composedInput_of_input?_eq_none hv hnone
    refine ⟨?_, Option.some.inj (hu.symm.trans hvu)⟩
    rw [hsteps, Plan.adaptHead_of_isPlan_eq_false hv]
    rfl

namespace Checkout

/-- Orders, governed by the `checkout` rule-set in slot `0`, with their state in `state`. -/
def orderKind : RecordKind := ⟨"order", "state", [⟨0, "checkout"⟩]⟩

/-- An order waiting for payment. -/
def pending : Subject := .record ⟨orderKind, [("state", .string "pending")], by decide⟩

/-- A plan whose only step holds the value as its input. -/
def wrapInput (x : Subject) : Subject := .plan [(inputStep, .value (.state x))]

/-- The steps a charge answers with. -/
def chargeSteps : List (String × Step) := [("charge", .value (.data (.string "25")))]

/-- Checkout: `charge` moves a pending order to `paid` with a plan of its own steps, `pay` with a
plan whose input is a plan holding the order. -/
def rules : RuleSet :=
  RuleSet.assemble "checkout"
    [.transition ⟨"pending", .named "charge"⟩ (.next "paid" (some fun _ => .plan chargeSteps))
      ["paid"] none,
     .transition ⟨"pending", .named "pay"⟩
      (.next "paid" (some fun c => wrapInput (wrapInput c.subject))) ["paid"] none]

/-- The handler of `charge` in `pending`. -/
def chargeHandler : Handler := .transition rules "pending" (.named "charge") ["paid"]

/-- The order once charged: a plan from the order through the charge to `paid`. -/
def charged : Subject :=
  .plan ((inputStep, .value (.state pending)) :: chargeSteps ++
    [(newStateStep, .rename inputStep "paid")])

end Checkout

theorem pending_charge_plan_moves_order :
    Checkout.pending.stateName = .ok "pending" ∧ Checkout.pending.isInvalidChangeset = false ∧
      Checkout.pending.resolve [Checkout.rules] "charge" = .ok (some Checkout.chargeHandler) ∧
      Checkout.chargeHandler.answer Checkout.pending "charge" .null =
        some (.next "paid" (.plan Checkout.chargeSteps)) ∧
      dispatch [Checkout.rules] Checkout.pending "charge" .null = .ok Checkout.charged ∧
      ∃ q u, Checkout.charged = Subject.ofPlan q ∧
        q.steps.getLast? = some (newStateStep, .rename inputStep "paid") ∧
        q.input? = some u ∧ Plan.composedInput Checkout.pending ⟨Checkout.chargeSteps⟩ = some u ∧
        (∀ outs, q.evaluate = .ok outs →
          SortedMap.get? inputStep outs = some (.state u) ∧
            Plan.finalState outs = some (u.withStateName "paid")) ∧
        (u.isPlan = false → (u.withStateName "paid").stateName = .ok "paid") ∧
        Checkout.charged.stateName = u.stateName ∧ Checkout.charged.ruleSets = u.ruleSets ∧
        ((Plan.mk Checkout.chargeSteps).input? = none → Checkout.pending.isPlan = false →
          q.steps.head? = some (inputStep, .value (.state Checkout.pending)) ∧
            u = Checkout.pending) :=
  ⟨rfl, rfl, rfl, rfl, rfl,
    dispatch_plan_answer_moves_input [Checkout.rules] Checkout.pending "charge" .null rfl rfl rfl rfl
      rfl⟩

/-- A handler whose plan holds a plan as its input makes the composed plan end in that inner
plan moved to `paid`, which still reads `pending`. -/
theorem nested_plan_answer_misses_target :
    ∃ q, dispatch [Checkout.rules] Checkout.pending "pay" .null = .ok (.plan q) ∧
      ¬ ∀ outs, (Plan.mk q).evaluate = .ok outs →
        ∃ w, Plan.finalState outs = some w ∧ w.stateName = .ok "paid" := by
  refine ⟨_, rfl, fun hall => ?_⟩
  obtain ⟨w, hw, hstate⟩ := hall _ rfl
  cases hw
  have hread : (Except.ok "paid" : Except AccessError StateName) = .ok "pending" :=
    hstate.symm.trans rfl
  exact absurd (Except.ok.inj hread) (by decide)

end RuleMachine
