import RuleMachine.Rule.Analysis
import RuleMachine.Proofs.Sorted
/-!
# What the analysis of a body promises

The analysis walks every arm of a body; evaluation takes one. Where the analysis succeeds under
`reject` it has seen every leaf and no opaque handler, so whatever reply the evaluation picks names
a state the analysis found: `keep` the current state, `next` its target
(`Body.eval_landsIn_of_walk`). This is what lets a compiled table's destinations bound where
dispatch can lead.

Checks report faults as lists that only grow when combined (`Checked.faults_both`); a failed
analysis always names at least one fault (`Body.walk_faulty`), so an empty list of faults means
success.
-/

namespace RuleMachine

namespace Checked

variable {α β : Type}

/-- The faults a check reports: none when it passes. -/
def faults : Checked α → List DeclarationError
  | .ok _ => []
  | .error es => es

@[simp] theorem faults_ok (a : α) : faults (Except.ok a : Checked α) = [] := rfl

@[simp] theorem faults_error (es : List DeclarationError) :
    faults (Except.error es : Checked α) = es := rfl

@[simp] theorem faults_map (f : α → β) (c : Checked α) : faults (c.map f) = faults c := by
  cases c <;> rfl

/-- Combined checks report the faults of the first, then those of the second. -/
@[simp] theorem faults_both (a : Checked α) (b : Checked β) :
    faults (both a b) = faults a ++ faults b := by
  cases a <;> cases b <;> simp [both]

theorem map_eq_ok {c : Checked α} {f : α → β} {y : β} :
    c.map f = .ok y ↔ ∃ x, c = .ok x ∧ f x = y := by
  cases c <;> simp [Except.map]

theorem both_eq_ok {a : Checked α} {b : Checked β} {p : α × β} :
    both a b = .ok p ↔ ∃ x y, a = .ok x ∧ b = .ok y ∧ p = (x, y) := by
  cases a <;> cases b <;> simp [both, eq_comm]

theorem union_eq_ok {a b : Checked (List StateName)} {ds : List StateName} :
    union a b = .ok ds ↔ ∃ x y, a = .ok x ∧ b = .ok y ∧ ds = SortedSet.union x y := by
  cases a <;> cases b <;> simp [union, both, Except.map, eq_comm]

/-- A check that fails names at least one fault. -/
def Faulty (c : Checked α) : Prop := ∀ es, c = .error es → es ≠ []

theorem Faulty.both {a : Checked α} {b : Checked β} (ha : a.Faulty) (hb : b.Faulty) :
    (Checked.both a b).Faulty := by
  intro es h
  cases a with
  | ok x =>
    cases b with
    | ok y => cases h
    | error f => exact Except.error.inj h ▸ hb f rfl
  | error e =>
    cases b with
    | ok y => exact Except.error.inj h ▸ ha e rfl
    | error f =>
      rw [← Except.error.inj h]
      exact fun hnil => ha e rfl (List.append_eq_nil_iff.mp hnil).1

theorem Faulty.map {a : Checked α} (ha : a.Faulty) (f : α → β) : Faulty (a.map f) := by
  intro es h
  cases a with
  | ok x => cases h
  | error e => exact Except.error.inj h ▸ ha e rfl

theorem faulty_ok (a : α) : Faulty (Except.ok a : Checked α) := by
  intro es h
  cases h

/-- A check that names no fault passes. -/
theorem exists_eq_ok_of_faults_eq_nil {c : Checked α} (hc : c.Faulty) (h : faults c = []) :
    ∃ x, c = .ok x := by
  cases c with
  | ok x => exact ⟨x, rfl⟩
  | error es => exact absurd h (hc es rfl)

end Checked

/-- Whether a reply names a state among `ds`, with `current` the state it was given in: `keep`
names the current state, `next` its target, and a refusal names none. -/
def Reply.LandsIn (current : StateName) (ds : List StateName) : Reply → Prop
  | .keep _ => current ∈ ds
  | .next n _ => n ∈ ds
  | .refuse _ => True

theorem Reply.LandsIn.mono {current : StateName} {ds ds' : List StateName} {r : Reply}
    (h : r.LandsIn current ds) (hsub : ∀ d ∈ ds, d ∈ ds') : r.LandsIn current ds' := by
  cases r with
  | keep v => exact hsub _ h
  | next n v => exact hsub _ h
  | refuse reason => trivial

namespace Body

variable {site : String} {current : StateName} {call : Call}

/-- A reply found under the first of two unioned analyses lands in the union. -/
private theorem landsIn_union_left {x y : List StateName} {r : Reply}
    (h : r.LandsIn current x) : r.LandsIn current (SortedSet.union x y) :=
  h.mono fun d hd => (SortedSet.mem_union d x y).mpr (Or.inl hd)

private theorem landsIn_union_right {x y : List StateName} {r : Reply}
    (h : r.LandsIn current y) : r.LandsIn current (SortedSet.union x y) :=
  h.mono fun d hd => (SortedSet.mem_union d x y).mpr (Or.inr hd)

mutual

/-- Where the analysis succeeds under `reject`, every reply of the body names a state it
found. -/
theorem eval_landsIn_of_walk : ∀ (b : Body) {nested : Bool} {ds : List StateName},
    walk .reject site current nested b = .ok ds →
      ∀ r, b.eval call = some r → r.LandsIn current ds
  | .keep update, _, ds, hw, r, he => by
    simp only [walk, Except.ok.injEq] at hw
    simp only [eval, Option.some.injEq] at he
    subst hw he
    exact List.mem_singleton_self current
  | .next n update, _, ds, hw, r, he => by
    simp only [walk, Except.ok.injEq] at hw
    simp only [eval, Option.some.injEq] at he
    subst hw he
    exact List.mem_singleton_self n
  | .error reason, _, _, _, r, he => by
    simp only [eval, Option.some.injEq] at he
    subst he
    trivial
  | .branch c yes no, _, ds, hw, r, he => by
    -- the analysis unions both arms; the evaluation takes the one the condition selects
    cases no with
    | none =>
      obtain ⟨x, y, hx, -, rfl⟩ := Checked.union_eq_ok.mp hw
      by_cases hc : c call = true
      · simp only [eval, hc, if_true] at he
        exact landsIn_union_left (eval_landsIn_of_walk yes hx r he)
      · simp [eval, hc] at he
    | some b =>
      obtain ⟨x, y, hx, hy, rfl⟩ := Checked.union_eq_ok.mp hw
      by_cases hc : c call = true
      · simp only [eval, hc, if_true] at he
        exact landsIn_union_left (eval_landsIn_of_walk yes hx r he)
      · simp only [eval, hc, Bool.false_eq_true, if_false] at he
        exact landsIn_union_right (eval_landsIn_of_walk b hy r he)
  | .cond arms, _, ds, hw, r, he => evalCond_landsIn_of_walk arms hw r he
  | .select sel arms, _, ds, hw, r, he => evalSelect_landsIn_of_walk arms hw r he
  | .guard c b, _, ds, hw, r, he => by
    obtain ⟨x, y, hx, -, rfl⟩ := Checked.union_eq_ok.mp hw
    by_cases hc : c call = true
    · simp only [eval, hc, if_true] at he
      exact landsIn_union_left (eval_landsIn_of_walk b hx r he)
    · simp [eval, hc] at he
  | .native handler, nested, ds, hw, r, he => by
    -- under `reject` an opaque handler never passes the analysis
    cases nested <;> simp [walk] at hw

theorem evalCond_landsIn_of_walk : ∀ (arms : List ((Call → Bool) × Body)) {ds : List StateName},
    walkCond .reject site current arms = .ok ds →
      ∀ r, evalCond arms call = some r → r.LandsIn current ds
  | [], _, _, r, he => by simp [evalCond] at he
  | (c, b) :: rest, ds, hw, r, he => by
    obtain ⟨x, y, hx, hy, rfl⟩ := Checked.union_eq_ok.mp hw
    by_cases hc : c call = true
    · simp only [evalCond, hc, if_true] at he
      exact landsIn_union_left (eval_landsIn_of_walk b hx r he)
    · simp only [evalCond, hc, Bool.false_eq_true, if_false] at he
      exact landsIn_union_right (evalCond_landsIn_of_walk rest hy r he)

theorem evalSelect_landsIn_of_walk : ∀ (arms : List (Pattern × Body)) {key : Option String}
    {ds : List StateName}, walkSelect .reject site current arms = .ok ds →
      ∀ r, evalSelect arms key call = some r → r.LandsIn current ds
  | [], _, _, _, r, he => by simp [evalSelect] at he
  | (p, b) :: rest, key, ds, hw, r, he => by
    obtain ⟨x, y, hx, hy, rfl⟩ := Checked.union_eq_ok.mp hw
    by_cases hp : p.matches key = true
    · simp only [evalSelect, hp, if_true] at he
      exact landsIn_union_left (eval_landsIn_of_walk b hx r he)
    · simp only [evalSelect, hp, Bool.false_eq_true, if_false] at he
      exact landsIn_union_right (evalSelect_landsIn_of_walk rest hy r he)

end

variable {policy : ArmPolicy}

mutual

/-- A failed analysis names at least one opaque arm. -/
theorem walk_faulty : ∀ (b : Body) (nested : Bool), Checked.Faulty (walk policy site current nested b)
  | .keep _, _ => Checked.faulty_ok _
  | .next _ _, _ => Checked.faulty_ok _
  | .error _, _ => Checked.faulty_ok _
  | .branch _ yes none, _ =>
    ((walk_faulty yes true).both (Checked.faulty_ok _)).map _
  | .branch _ yes (some b), _ => ((walk_faulty yes true).both (walk_faulty b true)).map _
  | .cond arms, _ => walkCond_faulty arms
  | .select _ arms, _ => walkSelect_faulty arms
  | .guard _ b, _ => ((walk_faulty b true).both (Checked.faulty_ok _)).map _
  | .native _, nested => by
    intro es h
    simp only [walk] at h
    split at h
    · cases h
    · cases h
      exact List.cons_ne_nil _ _

theorem walkCond_faulty : ∀ (arms : List ((Call → Bool) × Body)),
    Checked.Faulty (walkCond policy site current arms)
  | [] => Checked.faulty_ok _
  | (_, b) :: rest => ((walk_faulty b true).both (walkCond_faulty rest)).map _

theorem walkSelect_faulty : ∀ (arms : List (Pattern × Body)),
    Checked.Faulty (walkSelect policy site current arms)
  | [] => Checked.faulty_ok _
  | (_, b) :: rest => ((walk_faulty b true).both (walkSelect_faulty rest)).map _

end

end Body

end RuleMachine
