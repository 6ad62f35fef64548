import RuleMachine.Proofs.Plan.Adapt
/-!
# Step names of joined and composed plans

Steps are found by name, so a plan is well made when its step names are pairwise distinct.
Joining plans keeps that: `Plan.append` succeeds exactly when the names it adds are fresh, that
is distinct among themselves and from the names already there (`Plan.Fresh`), and then holds the
steps of both in order; otherwise it fails with the first added name that repeats an earlier one
(`Plan.FirstClash`). See `Plan.append_eq_ok_iff` and `Plan.append_eq_error_iff`.

When the returned plan has no input of its own, `adapt` joins the head, the returned steps and
the final rename as one join (`Plan.adapt_of_input?_eq_none`), so it fails exactly at the first
returned name that clashes with the head or an earlier returned name, or failing that at a
`newState` step of the returned plan; and what it composes has distinct names, an input, and one
`newState` step, its last (`Plan.adapt_step_names`). A returned plan that has an input is only
moved to the target: its other steps are kept as they are, and a name repeated among them stays
repeated (`Plan.adapt_keeps_repeated_steps`).
-/

namespace RuleMachine

namespace Plan

/-- The names of the steps, in order. -/
def names (p : Plan) : List String := p.steps.map (·.1)

/-- Names `new` added after `old` repeat nothing: they are distinct, and none is among `old`. -/
def Fresh (old new : List String) : Prop := new.Nodup ∧ ∀ x ∈ new, x ∉ old

/-- `n` is the first name of `new` that repeats a name of `old` or an earlier name of `new`. -/
def FirstClash (old new : List String) (n : String) : Prop :=
  ∃ pre post, new = pre ++ n :: post ∧ Fresh old pre ∧ n ∈ old ++ pre

section Names

variable {old new : List String} {x n : String}

theorem fresh_nil (old : List String) : Fresh old [] :=
  ⟨List.nodup_nil, fun _ h => absurd h List.not_mem_nil⟩

/-- A name added first is fresh when it is not among the old ones, and the rest has then to be
fresh after it too. -/
theorem fresh_cons : Fresh old (x :: new) ↔ x ∉ old ∧ Fresh (old ++ [x]) new := by
  simp only [Fresh, List.nodup_cons, List.mem_cons, List.mem_append, forall_eq_or_imp]
  grind

/-- Names followed by one more are fresh when the names are and the last is neither among them
nor among the old ones. -/
theorem fresh_append_singleton : Fresh old (new ++ [x]) ↔ Fresh old new ∧ x ∉ new ∧ x ∉ old := by
  simp only [Fresh, List.nodup_append, List.mem_append, List.mem_singleton]
  grind

theorem not_firstClash_nil : ¬ FirstClash old [] n := by
  rintro ⟨pre, post, h, -⟩
  simp at h

/-- The first clash of names added one after another is the first name, when it is among the
old ones, or else the first clash of the rest after it. -/
theorem firstClash_cons :
    FirstClash old (x :: new) n ↔ (x ∈ old ∧ n = x) ∨ (x ∉ old ∧ FirstClash (old ++ [x]) new n) := by
  constructor
  · rintro ⟨pre, post, h, hfresh, hn⟩
    cases pre with
    | nil =>
      simp only [List.nil_append, List.cons.injEq] at h
      obtain ⟨rfl, -⟩ := h
      exact .inl ⟨by simpa using hn, rfl⟩
    | cons y pre =>
      simp only [List.cons_append, List.cons.injEq] at h
      obtain ⟨rfl, rfl⟩ := h
      obtain ⟨hxold, hfresh'⟩ := fresh_cons.mp hfresh
      exact .inr ⟨hxold, pre, post, rfl, hfresh', by simpa using hn⟩
  · rintro (⟨hx, rfl⟩ | ⟨hxold, pre, post, rfl, hfresh, hn⟩)
    · exact ⟨[], new, rfl, fresh_nil old, by simpa using hx⟩
    · exact ⟨x :: pre, post, rfl, fresh_cons.mpr ⟨hxold, hfresh⟩, by simpa using hn⟩

/-- The first clash among names followed by one more is the first clash among the names or,
when they are fresh, the last name if it repeats one. -/
theorem firstClash_append_singleton :
    FirstClash old (new ++ [x]) n ↔ FirstClash old new n ∨ (Fresh old new ∧ n = x ∧ x ∈ old ++ new) := by
  induction new generalizing old with
  | nil =>
    rw [List.nil_append, firstClash_cons]
    simp [not_firstClash_nil, fresh_nil, and_comm]
  | cons y rest ih =>
    rw [List.cons_append, firstClash_cons, firstClash_cons, ih, fresh_cons]
    by_cases hy : y ∈ old <;> simp [hy]

/-- A first clash is a name that then occurs twice. -/
theorem two_le_count_of_firstClash (h : FirstClash old new n) : 2 ≤ (old ++ new).count n := by
  obtain ⟨pre, post, rfl, -, hn⟩ := h
  have hpos : 0 < (old ++ pre).count n := List.count_pos_iff.mpr hn
  rw [← List.append_assoc, List.count_append, List.count_cons_self]
  omega

/-- Fresh names after distinct ones leave all distinct. -/
theorem Fresh.nodup_append (hold : old.Nodup) (h : Fresh old new) : (old ++ new).Nodup :=
  List.nodup_append.mpr ⟨hold, h.1, fun _ ha b hb hab => h.2 b hb (hab ▸ ha)⟩

end Names

@[simp] theorem names_mk (steps : List (String × Step)) : (Plan.mk steps).names = steps.map (·.1) :=
  rfl

@[simp] theorem names_push (p : Plan) (name : String) (step : Step) :
    (p.push name step).names = p.names ++ [name] := by
  simp [push, names]

theorem contains_eq_true_iff (p : Plan) (name : String) :
    p.contains name = true ↔ name ∈ p.names := by
  simp [contains, names]

/-- One step of a join: the step is added unless its name is taken. -/
private def joinStep (acc : Plan) (x : String × Step) : Except PlanError Plan :=
  if acc.contains x.1 then .error (.duplicateStep x.1) else .ok (acc.push x.1 x.2)

private theorem append_eq_foldlM (p q : Plan) : p.append q = q.steps.foldlM joinStep p := rfl

private theorem foldlM_joinStep_cons (p : Plan) (x : String × Step) (rest : List (String × Step)) :
    (x :: rest).foldlM joinStep p =
      if x.1 ∈ p.names then .error (.duplicateStep x.1) else rest.foldlM joinStep (p.push x.1 x.2) := by
  rw [List.foldlM_cons, joinStep]
  by_cases hx : x.1 ∈ p.names
  · rw [if_pos ((contains_eq_true_iff p x.1).mpr hx), if_pos hx]
    rfl
  · rw [if_neg (fun h => hx ((contains_eq_true_iff p x.1).mp h)), if_neg hx]
    rfl

private theorem foldlM_joinStep_eq_ok_iff :
    ∀ (qs : List (String × Step)) (p j : Plan),
      qs.foldlM joinStep p = .ok j ↔ Fresh p.names (qs.map (·.1)) ∧ j.steps = p.steps ++ qs
  | [], p, j => by
    obtain ⟨js⟩ := j
    obtain ⟨ps⟩ := p
    simp only [List.foldlM_nil, List.map_nil, List.append_nil]
    exact ⟨fun h => ⟨fresh_nil _, by cases h; rfl⟩, fun ⟨_, h⟩ => by cases h; rfl⟩
  | x :: rest, p, j => by
    rw [foldlM_joinStep_cons, List.map_cons, fresh_cons]
    split
    · rename_i hx
      -- the name is taken: joining fails, and the added names are not fresh
      exact ⟨fun h => (by cases h), fun ⟨⟨hx', _⟩, _⟩ => absurd hx hx'⟩
    · rename_i hx
      rw [foldlM_joinStep_eq_ok_iff rest, names_push]
      simp [hx, push]

private theorem foldlM_joinStep_eq_error_iff :
    ∀ (qs : List (String × Step)) (p : Plan) (e : PlanError),
      qs.foldlM joinStep p = .error e ↔
        ∃ n, e = .duplicateStep n ∧ FirstClash p.names (qs.map (·.1)) n
  | [], p, e => by
    simp only [List.foldlM_nil, List.map_nil]
    exact ⟨fun h => (by cases h), fun ⟨_, _, hn⟩ => absurd hn not_firstClash_nil⟩
  | x :: rest, p, e => by
    rw [foldlM_joinStep_cons, List.map_cons]
    split
    · rename_i hx
      simp [firstClash_cons, hx, eq_comm]
    · rename_i hx
      rw [foldlM_joinStep_eq_error_iff rest, names_push]
      simp [firstClash_cons, hx]

/-- Joining adds the steps one by one; it succeeds exactly when the names added are fresh, and
then holds the steps of both plans in order. -/
theorem append_eq_ok_iff {p q j : Plan} :
    p.append q = .ok j ↔ Fresh p.names q.names ∧ j.steps = p.steps ++ q.steps := by
  rw [append_eq_foldlM]
  exact foldlM_joinStep_eq_ok_iff q.steps p j

/-- Joining fails exactly with the first added name that repeats an earlier one. -/
theorem append_eq_error_iff {p q : Plan} {e : PlanError} :
    p.append q = .error e ↔ ∃ n, e = .duplicateStep n ∧ FirstClash p.names q.names n := by
  rw [append_eq_foldlM]
  exact foldlM_joinStep_eq_error_iff q.steps p e

theorem append_append_steps (p : Plan) (qs rs : List (String × Step)) :
    p.append ⟨qs ++ rs⟩ = (p.append ⟨qs⟩).bind fun j => j.append ⟨rs⟩ := by
  rw [append_eq_foldlM, append_eq_foldlM, List.foldlM_append]
  rfl

theorem names_append_singleton (r : Plan) (x : String × Step) :
    (Plan.mk (r.steps ++ [x])).names = r.names ++ [x.1] := by
  simp [names]

/-- With no input of its own, the returned plan is joined with the head and the final rename in
one join. -/
theorem adapt_of_input?_eq_none {value : Subject} {returned : Plan} {target : StateName}
    (h : returned.input? = none) :
    adapt value returned target =
      (adaptHead value).append ⟨returned.steps ++ [(newStateStep, .rename inputStep target)]⟩ := by
  obtain ⟨rs⟩ := returned
  rw [adapt_eq, if_neg (by simp [h]), append_append_steps]
  cases (adaptHead value).append ⟨rs⟩ <;> rfl

/-- A returned plan with an input of its own is only moved to the target. -/
theorem adapt_of_input?_isSome {value : Subject} {returned : Plan} {target : StateName}
    (h : returned.input?.isSome) : adapt value returned target = .ok (returned.withStateName target) := by
  rw [adapt_eq, if_pos h]

/-- The head never holds a `newState` step: a plan value's are dropped. -/
theorem newStateStep_not_mem_names_adaptHead (value : Subject) :
    newStateStep ∉ (adaptHead value).names := by
  cases value with
  | plan steps => simp [adaptHead, without, names]
  | record r => simp [adaptHead, empty, push, names, newStateStep_ne_inputStep]
  | changeset c => simp [adaptHead, empty, push, names, newStateStep_ne_inputStep]

/-- The head has distinct names when a plan value has. -/
theorem nodup_names_adaptHead {value : Subject}
    (hv : ∀ steps, value = .plan steps → (Plan.mk steps).names.Nodup) :
    (adaptHead value).names.Nodup := by
  cases value with
  | plan steps =>
    -- a plan value's steps without its `newState` steps
    exact (hv steps rfl).sublist (List.filter_sublist.map _)
  | record r => simp [adaptHead, empty, push, names]
  | changeset c => simp [adaptHead, empty, push, names]

/-- A plan moved to a state keeps its other steps in order and ends with its one `newState` step,
the rename of its input. -/
theorem steps_withStateName (p : Plan) (t : StateName) :
    (p.withStateName t).steps =
      p.steps.filter (·.1 != newStateStep) ++ [(newStateStep, .rename inputStep t)] := rfl

theorem filter_newState_withStateName (p : Plan) (t : StateName) :
    (p.withStateName t).steps.filter (·.1 == newStateStep) =
      [(newStateStep, .rename inputStep t)] := by
  rw [steps_withStateName, List.filter_append, List.filter_filter]
  simp

theorem names_withStateName (p : Plan) (t : StateName) :
    (p.withStateName t).names = p.names.filter (· != newStateStep) ++ [newStateStep] := by
  simp only [names, steps_withStateName, List.map_append, List.filter_map]
  rfl

/-- A plan with distinct names moved to a state still has distinct names. -/
theorem nodup_names_withStateName {p : Plan} (h : p.names.Nodup) (t : StateName) :
    (p.withStateName t).names.Nodup := by
  rw [names_withStateName]
  refine List.nodup_append.mpr ⟨h.filter _, by simp, fun a ha b hb hab => ?_⟩
  rw [List.mem_singleton.mp hb] at hab
  subst hab
  simp at ha

variable {v : Subject} {r q : Plan} {t : StateName}

/-- With no input of its own, the returned plan composes exactly when the names it adds after
the head, and the final `newState`, are fresh. -/
theorem adapt_eq_ok_iff_of_input?_eq_none (h : r.input? = none) :
    adapt v r t = .ok q ↔
      q.steps = (adaptHead v).steps ++ r.steps ++ [(newStateStep, .rename inputStep t)] ∧
        Fresh (adaptHead v).names r.names ∧ newStateStep ∉ r.names := by
  rw [adapt_of_input?_eq_none h, append_eq_ok_iff, names_append_singleton,
    fresh_append_singleton, List.append_assoc]
  have hhead := newStateStep_not_mem_names_adaptHead v
  constructor
  · rintro ⟨⟨hfresh, hnew, -⟩, hq⟩
    exact ⟨hq, hfresh, hnew⟩
  · rintro ⟨hq, hfresh, hnew⟩
    exact ⟨⟨hfresh, hnew, hhead⟩, hq⟩

/-- With no input of its own, the returned plan fails to compose exactly at its first name that
repeats a head name or an earlier name of it, or, failing that, at its `newState` step. -/
theorem adapt_eq_error_iff_of_input?_eq_none (h : r.input? = none) {e : PlanError} :
    adapt v r t = .error e ↔ ∃ n, e = .duplicateStep n ∧
      (FirstClash (adaptHead v).names r.names n ∨
        (Fresh (adaptHead v).names r.names ∧ n = newStateStep ∧ newStateStep ∈ r.names)) := by
  rw [adapt_of_input?_eq_none h, append_eq_error_iff, names_append_singleton]
  have hhead := newStateStep_not_mem_names_adaptHead v
  simp only [firstClash_append_singleton, List.mem_append, hhead, false_or]

/-- A failed composition names a step that occurs twice among the head, the returned steps and
the final rename. -/
theorem adapt_eq_error {e : PlanError} (he : adapt v r t = .error e) :
    ∃ n, e = .duplicateStep n ∧ 2 ≤ ((adaptHead v).names ++ r.names ++ [newStateStep]).count n := by
  cases hin : r.input? with
  | some u =>
    rw [adapt_of_input?_isSome (by simp [hin])] at he
    cases he
  | none =>
    rw [adapt_of_input?_eq_none hin, append_eq_error_iff] at he
    obtain ⟨n, rfl, hn⟩ := he
    refine ⟨n, rfl, ?_⟩
    rw [names_append_singleton] at hn
    simpa only [List.append_assoc] using two_le_count_of_firstClash hn

/-- The steps of a composed plan other than its last are not `newState` steps. -/
theorem filter_newState_adapt (he : adapt v r t = .ok q) :
    q.steps.filter (·.1 == newStateStep) = [(newStateStep, .rename inputStep t)] := by
  cases hin : r.input? with
  | some u =>
    rw [adapt_of_input?_isSome (by simp [hin])] at he
    cases he
    exact filter_newState_withStateName r t
  | none =>
    obtain ⟨hq, -, hnew⟩ := (adapt_eq_ok_iff_of_input?_eq_none hin).mp he
    have hhead := newStateStep_not_mem_names_adaptHead v
    rw [hq, List.filter_append, List.filter_append]
    -- neither the head nor the returned plan has a `newState` step
    have hnone : ∀ steps : List (String × Step), newStateStep ∉ steps.map (·.1) →
        steps.filter (·.1 == newStateStep) = [] := by
      intro steps hs
      rw [List.filter_eq_nil_iff]
      intro a ha heq
      exact hs (List.mem_map.mpr ⟨a, ha, (beq_iff_eq.mp heq)⟩)
    rw [hnone _ hhead, hnone _ hnew]
    simp

/-- A composed plan has distinct names when the returned plan was joined, or already had
distinct names. -/
theorem nodup_names_adapt (hv : ∀ steps, v = .plan steps → (Plan.mk steps).names.Nodup)
    (he : adapt v r t = .ok q) (hr : r.input? = none ∨ r.names.Nodup) : q.names.Nodup := by
  cases hin : r.input? with
  | some u =>
    rw [adapt_of_input?_isSome (by simp [hin])] at he
    cases he
    exact nodup_names_withStateName (hr.resolve_left (by simp [hin])) t
  | none =>
    obtain ⟨hq, hfresh, hnew⟩ := (adapt_eq_ok_iff_of_input?_eq_none hin).mp he
    have hall : Fresh (adaptHead v).names (r.names ++ [newStateStep]) :=
      fresh_append_singleton.mpr ⟨hfresh, hnew, newStateStep_not_mem_names_adaptHead v⟩
    have hnodup := hall.nodup_append (nodup_names_adaptHead hv)
    rw [names, hq]
    simpa [names, List.append_assoc] using hnodup

/-- `adapt` on a value whose state can be read, a plan value having distinct names: it fails
only with a name that occurs twice among the head, the returned steps and the final rename; what
it composes has an input and one `newState` step, its last, renaming the input to the target,
and distinct names when the returned plan had no input of its own or had distinct names. A
returned plan with an input is only moved to the target. One without is joined after the head
with the final rename: that succeeds exactly when its names are fresh after the head and none is
`newState`, giving the head, its steps and the rename in order, and fails exactly at its first
name that repeats a head name or an earlier name of it, or, failing that, at `newState`. -/
theorem adapt_step_names (v : Subject) {s : StateName} (hs : v.stateName = .ok s)
    (hv : ∀ steps, v = .plan steps → (Plan.mk steps).names.Nodup) (r : Plan) (t : StateName) :
    (∀ e, adapt v r t = .error e → ∃ n, e = .duplicateStep n ∧
        2 ≤ ((adaptHead v).names ++ r.names ++ [newStateStep]).count n) ∧
    (∀ q, adapt v r t = .ok q →
        q.input?.isSome ∧
        q.steps.filter (·.1 == newStateStep) = [(newStateStep, .rename inputStep t)] ∧
        q.steps.getLast? = some (newStateStep, .rename inputStep t) ∧
        (r.input? = none ∨ r.names.Nodup → q.names.Nodup)) ∧
    (r.input?.isSome → adapt v r t = .ok (r.withStateName t)) ∧
    (r.input? = none →
      (∀ q, adapt v r t = .ok q ↔
        q.steps = (adaptHead v).steps ++ r.steps ++ [(newStateStep, .rename inputStep t)] ∧
          Fresh (adaptHead v).names r.names ∧ newStateStep ∉ r.names) ∧
      (∀ e, adapt v r t = .error e ↔ ∃ n, e = .duplicateStep n ∧
          (FirstClash (adaptHead v).names r.names n ∨
            (Fresh (adaptHead v).names r.names ∧ n = newStateStep ∧ newStateStep ∈ r.names)))) := by
  refine ⟨fun e he => adapt_eq_error he, fun q hq => ⟨?_, filter_newState_adapt hq,
    adapt_getLast? hq, nodup_names_adapt hv hq⟩, fun hin => ?_,
    fun hin => ⟨fun q => adapt_eq_ok_iff_of_input?_eq_none hin,
      fun e => adapt_eq_error_iff_of_input?_eq_none hin⟩⟩
  · -- the input is the returned plan's, else the value's
    obtain ⟨u, hu⟩ := exists_composedInput hs r
    rw [input?_adapt hq, hu]
    rfl
  · exact adapt_of_input?_isSome hin

/-- A charge answered with a plan that holds the order as its input and the step `charge`
twice. -/
def Checkout.doubleCharge : Plan :=
  ⟨[(inputStep, .value (.state Checkout.pending)), ("charge", .value (.data (.number (.integer 25)))),
    ("charge", .value (.data (.number (.integer 30))))]⟩

/-- A returned plan with an input of its own is only moved to the target, so a name it repeats
stays repeated in what `adapt` composes. -/
theorem adapt_keeps_repeated_steps :
    Checkout.pending.stateName = .ok "pending" ∧
      ∃ q, adapt Checkout.pending Checkout.doubleCharge "paid" = .ok q ∧ ¬ q.names.Nodup :=
  ⟨rfl, _, rfl, by decide⟩

theorem pending_charge_step_names :
    Checkout.pending.stateName = .ok "pending" ∧
    (∀ steps, Checkout.pending = .plan steps → (Plan.mk steps).names.Nodup) ∧
    (∀ e, adapt Checkout.pending ⟨Checkout.chargeSteps⟩ "paid" = .error e → ∃ n,
        e = .duplicateStep n ∧
        2 ≤ ((adaptHead Checkout.pending).names ++ (Plan.mk Checkout.chargeSteps).names ++
          [newStateStep]).count n) ∧
    (∀ q, adapt Checkout.pending ⟨Checkout.chargeSteps⟩ "paid" = .ok q →
        q.input?.isSome ∧
        q.steps.filter (·.1 == newStateStep) = [(newStateStep, .rename inputStep "paid")] ∧
        q.steps.getLast? = some (newStateStep, .rename inputStep "paid") ∧
        ((Plan.mk Checkout.chargeSteps).input? = none ∨ (Plan.mk Checkout.chargeSteps).names.Nodup →
          q.names.Nodup)) ∧
    ((Plan.mk Checkout.chargeSteps).input?.isSome →
      adapt Checkout.pending ⟨Checkout.chargeSteps⟩ "paid" =
        .ok ((Plan.mk Checkout.chargeSteps).withStateName "paid")) ∧
    ((Plan.mk Checkout.chargeSteps).input? = none →
      (∀ q, adapt Checkout.pending ⟨Checkout.chargeSteps⟩ "paid" = .ok q ↔
        q.steps = (adaptHead Checkout.pending).steps ++ Checkout.chargeSteps ++
          [(newStateStep, .rename inputStep "paid")] ∧
          Fresh (adaptHead Checkout.pending).names (Plan.mk Checkout.chargeSteps).names ∧
          newStateStep ∉ (Plan.mk Checkout.chargeSteps).names) ∧
      (∀ e, adapt Checkout.pending ⟨Checkout.chargeSteps⟩ "paid" = .error e ↔ ∃ n,
          e = .duplicateStep n ∧
          (FirstClash (adaptHead Checkout.pending).names (Plan.mk Checkout.chargeSteps).names n ∨
            (Fresh (adaptHead Checkout.pending).names (Plan.mk Checkout.chargeSteps).names ∧
              n = newStateStep ∧ newStateStep ∈ (Plan.mk Checkout.chargeSteps).names)))) :=
  ⟨rfl, fun _ h => (by cases h),
    adapt_step_names Checkout.pending rfl (fun _ h => by cases h) ⟨Checkout.chargeSteps⟩ "paid"⟩

end Plan

end RuleMachine
