import RuleMachine.Proofs.Rule.Leaves
/-!
# What evaluating a body answers

Evaluation takes one path through a body: a `cond` takes its first arm whose condition holds
and a `select` its first arm whose pattern matches the key, and the reply is that arm's, none
when the arm gives none: a later arm is never tried (`Body.evalCond_eq_find?`,
`Body.evalSelect_eq_find?`). The analysis takes every path, so where a body has no opaque
handler every reply evaluation gives comes from one of its leaves (`Body.eval_landsIn_leaves`):
a `keep` only when the body has a `keep` leaf, so that the current state, whatever it is, is
among the states its leaves name; a `next` only to a state one of its leaves names.

A body is exhaustive (`Body.exhaustive`) when evaluation cannot run out of arms: every leaf is;
a branch is when it has a second arm and both arms are; a `select` is when it has a wildcard arm
and every arm up to and including the first wildcard is; a `cond`, a `guard` and a branch with
no second arm are not, since their conditions may all fail. An exhaustive body always replies
(`Body.eval_isSome_of_exhaustive`).
-/

namespace RuleMachine

namespace Body

mutual

/-- Whether evaluation replies whatever the call. -/
def exhaustive : Body → Bool
  | .keep _ | .next _ _ | .error _ => true
  | .branch _ yes (some no) => yes.exhaustive && no.exhaustive
  | .branch _ _ none => false
  | .cond _ => false
  | .select _ arms => selectExhaustive arms
  | .guard _ _ => false
  | .native _ => false

/-- Whether `select` arms have a wildcard arm, every arm up to and including the first one being
exhaustive. -/
def selectExhaustive : List (Pattern × Body) → Bool
  | [] => false
  | (p, b) :: rest => b.exhaustive && (p == .wildcard || selectExhaustive rest)

end

variable {call : Call}

/-- A `cond` answers with the first arm whose condition holds, or with nothing. -/
theorem evalCond_eq_find? (arms : List ((Call → Bool) × Body)) (call : Call) :
    evalCond arms call = (arms.find? (·.1 call)).bind (·.2.eval call) := by
  induction arms with
  | nil => rfl
  | cons arm rest ih =>
    obtain ⟨c, b⟩ := arm
    by_cases hc : c call = true
    · simp [evalCond, hc]
    · simp [evalCond, hc, ih]

/-- A `select` answers with the first arm whose pattern matches the key, or with nothing. -/
theorem evalSelect_eq_find? (arms : List (Pattern × Body)) (key : Option String) (call : Call) :
    evalSelect arms key call = (arms.find? (·.1.matches key)).bind (·.2.eval call) := by
  induction arms with
  | nil => rfl
  | cons arm rest ih =>
    obtain ⟨p, b⟩ := arm
    by_cases hp : p.matches key = true
    · simp [evalSelect, hp]
    · simp [evalSelect, hp, ih]

/-- On a body with no opaque handler every reply names a leaf of the body, from whatever current
state: `keep` the current state, `next` its target. -/
theorem eval_landsIn_leaves {b : Body} (hb : b.armNatives = 0) {r : Reply}
    (he : b.eval call = some r) (current : StateName) : r.LandsIn current (b.leaves current) := by
  -- under `reject` the analysis finds the set of leaves, and it bounds every reply
  have hwalk : walk .reject "" current false b = .ok (SortedSet.ofList (b.leaves current)) := by
    rw [walk_reject, analysisOf, if_pos hb]
  exact (eval_landsIn_of_walk b hwalk r he).mono fun d hd => (SortedSet.mem_ofList d _).mp hd

mutual

/-- An exhaustive body always replies. -/
theorem eval_isSome_of_exhaustive : ∀ (b : Body), b.exhaustive = true → (b.eval call).isSome
  | .keep _, _ => rfl
  | .next _ _, _ => rfl
  | .error _, _ => rfl
  | .branch c yes (some no), h => by
    simp only [exhaustive, Bool.and_eq_true] at h
    by_cases hc : c call = true
    · simp only [eval, hc, if_true]
      exact eval_isSome_of_exhaustive yes h.1
    · simp only [eval, hc, Bool.false_eq_true, if_false]
      exact eval_isSome_of_exhaustive no h.2
  | .branch _ _ none, h => by simp [exhaustive] at h
  | .cond _, h => by simp [exhaustive] at h
  | .select sel arms, h => evalSelect_isSome_of_exhaustive arms (sel call) h
  | .guard _ _, h => by simp [exhaustive] at h
  | .native _, h => by simp [exhaustive] at h

theorem evalSelect_isSome_of_exhaustive : ∀ (arms : List (Pattern × Body)) (key : Option String),
    selectExhaustive arms = true → (evalSelect arms key call).isSome
  | [], _, h => by simp [selectExhaustive] at h
  | (p, b) :: rest, key, h => by
    simp only [selectExhaustive, Bool.and_eq_true, Bool.or_eq_true, beq_iff_eq] at h
    by_cases hp : p.matches key = true
    · simp only [evalSelect, hp, if_true]
      exact eval_isSome_of_exhaustive b h.1
    · -- the wildcard matches every key, so this arm is not it and a later arm is exhaustive
      have hrest : selectExhaustive rest = true :=
        h.2.resolve_left fun hw => hp (by rw [hw]; rfl)
      simp only [evalSelect, hp, Bool.false_eq_true, if_false]
      exact evalSelect_isSome_of_exhaustive rest key hrest

end

/-- Evaluation follows one path of a body and replies with the leaf at its end: a `cond` takes
its first arm whose condition holds and a `select` its first arm whose pattern matches, never
falling through to a later arm. So on a body with no opaque handler a reply is a refusal, a
`keep` only when the current state is among the states the leaves name whatever it is (the body
has a `keep` leaf), or a `next` to a state the leaves name; and an exhaustive body always
replies. -/
theorem eval_answers_from_leaves (b : Body) (call : Call) :
    (b.armNatives = 0 → ∀ r, b.eval call = some r →
      ∀ current, r.LandsIn current (b.leaves current)) ∧
    (b.exhaustive = true → (b.eval call).isSome) ∧
    (∀ arms, (Body.cond arms).eval call = (arms.find? (·.1 call)).bind (·.2.eval call)) ∧
    (∀ sel arms, (Body.select sel arms).eval call =
      (arms.find? (·.1.matches (sel call))).bind (·.2.eval call)) :=
  ⟨fun hb _ he current => eval_landsIn_leaves hb he current, eval_isSome_of_exhaustive b,
    fun arms => evalCond_eq_find? arms call,
    fun sel arms => evalSelect_eq_find? arms (sel call) call⟩

namespace Door

/-- A door that `lock` locks and every other event leaves as it is. -/
def body : Body :=
  .select (fun c => c.event) [(.exact "lock", .next "locked" none), (.wildcard, .keep none)]

/-- Pushing the door. -/
def push : Call := ⟨some "push", .null, .plan []⟩

end Door

theorem door_answers_from_leaves :
    Door.body.armNatives = 0 ∧ Door.body.exhaustive = true ∧
    (Door.body.armNatives = 0 → ∀ r, Door.body.eval Door.push = some r →
      ∀ current, r.LandsIn current (Door.body.leaves current)) ∧
    (Door.body.exhaustive = true → (Door.body.eval Door.push).isSome) ∧
    (∀ arms, (Body.cond arms).eval Door.push = (arms.find? (·.1 Door.push)).bind (·.2.eval Door.push)) ∧
    (∀ sel arms, (Body.select sel arms).eval Door.push =
      (arms.find? (·.1.matches (sel Door.push))).bind (·.2.eval Door.push)) :=
  ⟨by simp [Door.body, armNatives, nestedNatives, selectNatives],
    by simp [Door.body, exhaustive, selectExhaustive], eval_answers_from_leaves Door.body Door.push⟩

end Body

end RuleMachine
