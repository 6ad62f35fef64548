import RuleMachine.Proofs.Rule.Analysis
import RuleMachine.Proofs.Sorted.Canonical
/-!
# The analysis of a body is the set of its leaves

Read off the tree itself, the states a body can lead to from `current` are its leaves
(`Body.leaves`): the current state for `keep`, the target of `next`, nothing for `error` and for
an opaque handler, and for a branching node the leaves of every arm it has. The analysis finds
exactly their set, or names the opaque handlers it cannot skip
(`Body.destinations_eq_leaf_set`):

* under `reject` it succeeds with the set of leaves when the body has no opaque handler, and
  otherwise fails with one fault per handler, all at the body's site (`Body.walk_reject`);
* under `ignore` every opaque arm below the top is skipped, so it fails only on a body that is
  itself opaque (`Body.walk_ignore_nested`, `Body.walk_of_isNative_false`).

The answer for a whole tree is assembled from the answers of its arms by one law: the union of
two answers has the faults of both and the leaves of both (`Body.union_analysisOf`). Since sets
of states are canonical, the answer depends only on the set of leaves and the number of opaque
handlers: not on the order of the arms, nor on repeated leaves.
-/

namespace RuleMachine

namespace Body

mutual

/-- The states the leaves of a body name from `current`, in the order of the tree. -/
def leaves (current : StateName) : Body → List StateName
  | .keep _ => [current]
  | .next n _ => [n]
  | .error _ => []
  | .branch _ yes no =>
    leaves current yes ++
      match no with
      | some b => leaves current b
      | none => []
  | .cond arms => condLeaves current arms
  | .select _ arms => selectLeaves current arms
  | .guard _ b => leaves current b
  | .native _ => []

/-- The leaves of `cond` arms, arm by arm. -/
def condLeaves (current : StateName) : List ((Call → Bool) × Body) → List StateName
  | [] => []
  | (_, b) :: rest => leaves current b ++ condLeaves current rest

/-- The leaves of `select` arms, arm by arm. -/
def selectLeaves (current : StateName) : List (Pattern × Body) → List StateName
  | [] => []
  | (_, b) :: rest => leaves current b ++ selectLeaves current rest

end

/-- Whether the body is itself an opaque handler. -/
def isNative : Body → Bool
  | .native _ => true
  | _ => false

/-- What an analysis answers when it meets `natives` opaque handlers it cannot skip and leaves
naming `states`: the set of the states when there are none, else one fault at `site` per
handler. -/
def analysisOf (site : String) (natives : Nat) (states : List StateName) : Checked (List StateName) :=
  if natives = 0 then .ok (SortedSet.ofList states)
  else .error (List.replicate natives (.unrecognizedBody site))

/-- A body with no opaque handler is not one. -/
theorem isNative_eq_false_of_armNatives {b : Body} (h : b.armNatives = 0) : b.isNative = false := by
  cases b with
  | native handler => simp [armNatives] at h
  | _ => rfl

variable {site : String} {current : StateName}

/-- The union of two answers has the faults of both and the leaves of both. -/
theorem union_analysisOf (m n : Nat) (a b : List StateName) :
    Checked.union (analysisOf site m a) (analysisOf site n b) = analysisOf site (m + n) (a ++ b) := by
  by_cases hm : m = 0 <;> by_cases hn : n = 0
  · simp [analysisOf, hm, hn, Checked.union, Checked.both, Except.map, SortedSet.union_ofList]
  · simp [analysisOf, hm, hn, Checked.union, Checked.both, Except.map]
  · simp [analysisOf, hm, hn, Checked.union, Checked.both, Except.map]
  · simp [analysisOf, hm, hn, Checked.union, Checked.both, Except.map, Nat.add_eq_zero_iff,
      List.replicate_append_replicate]

theorem analysisOf_nothing : analysisOf site 0 [] = .ok [] := rfl

theorem analysisOf_leaf (s : StateName) : analysisOf site 0 [s] = .ok [s] := rfl

mutual

/-- Under `reject` the analysis meets every opaque handler of the body, wherever it sits. -/
theorem walk_reject : ∀ (b : Body) (nested : Bool),
    walk .reject site current nested b = analysisOf site b.armNatives (b.leaves current)
  | .keep _, _ => by simp [walk, leaves, armNatives, nestedNatives, analysisOf_leaf]
  | .next n _, _ => by simp [walk, leaves, armNatives, nestedNatives, analysisOf_leaf]
  | .error _, _ => by simp [walk, leaves, armNatives, nestedNatives, analysisOf_nothing]
  | .branch _ yes none, _ => by
    rw [walk, walk_reject yes true, ← analysisOf_nothing, union_analysisOf]
    simp [leaves, armNatives, nestedNatives]
  | .branch _ yes (some no), _ => by
    rw [walk, walk_reject yes true, walk_reject no true, union_analysisOf]
    simp [leaves, armNatives, nestedNatives]
  | .cond arms, _ => by
    rw [walk, walkCond_reject arms]
    simp [leaves, armNatives, nestedNatives]
  | .select _ arms, _ => by
    rw [walk, walkSelect_reject arms]
    simp [leaves, armNatives, nestedNatives]
  | .guard _ b, _ => by
    rw [walk, walk_reject b true, ← analysisOf_nothing, union_analysisOf]
    simp [leaves, armNatives, nestedNatives]
  | .native _, nested => by
    -- `reject` never skips a handler, nested or not
    cases nested <;> simp [walk, armNatives, analysisOf]

theorem walkCond_reject : ∀ (arms : List ((Call → Bool) × Body)),
    walkCond .reject site current arms = analysisOf site (condNatives arms) (condLeaves current arms)
  | [] => by simp [walkCond, condNatives, condLeaves, analysisOf_nothing]
  | (_, b) :: rest => by
    rw [walkCond, walk_reject b true, walkCond_reject rest, union_analysisOf, condNatives, condLeaves]

theorem walkSelect_reject : ∀ (arms : List (Pattern × Body)),
    walkSelect .reject site current arms =
      analysisOf site (selectNatives arms) (selectLeaves current arms)
  | [] => by simp [walkSelect, selectNatives, selectLeaves, analysisOf_nothing]
  | (_, b) :: rest => by
    rw [walkSelect, walk_reject b true, walkSelect_reject rest, union_analysisOf, selectNatives, selectLeaves]

end

mutual

/-- Under `ignore` an arm's analysis skips every opaque handler and finds the set of its
leaves. -/
theorem walk_ignore_nested : ∀ (b : Body),
    walk .ignore site current true b = analysisOf site 0 (b.leaves current)
  | .keep _ => by simp [walk, leaves, analysisOf_leaf]
  | .next n _ => by simp [walk, leaves, analysisOf_leaf]
  | .error _ => by simp [walk, leaves, analysisOf_nothing]
  | .branch _ yes none => by
    rw [walk, walk_ignore_nested yes, ← analysisOf_nothing, union_analysisOf]
    simp [leaves]
  | .branch _ yes (some no) => by
    rw [walk, walk_ignore_nested yes, walk_ignore_nested no, union_analysisOf]
    simp [leaves]
  | .cond arms => by
    rw [walk, walkCond_ignore arms]
    simp [leaves]
  | .select _ arms => by
    rw [walk, walkSelect_ignore arms]
    simp [leaves]
  | .guard _ b => by
    rw [walk, walk_ignore_nested b, ← analysisOf_nothing, union_analysisOf]
    simp [leaves]
  | .native _ => by simp [walk, leaves, analysisOf_nothing]

theorem walkCond_ignore : ∀ (arms : List ((Call → Bool) × Body)),
    walkCond .ignore site current arms = analysisOf site 0 (condLeaves current arms)
  | [] => by simp [walkCond, condLeaves, analysisOf_nothing]
  | (_, b) :: rest => by
    rw [walkCond, walk_ignore_nested b, walkCond_ignore rest, union_analysisOf, condLeaves]

theorem walkSelect_ignore : ∀ (arms : List (Pattern × Body)),
    walkSelect .ignore site current arms = analysisOf site 0 (selectLeaves current arms)
  | [] => by simp [walkSelect, selectLeaves, analysisOf_nothing]
  | (_, b) :: rest => by
    rw [walkSelect, walk_ignore_nested b, walkSelect_ignore rest, union_analysisOf, selectLeaves]

end

/-- Only an opaque handler looks at whether it is nested: any other body is analysed alike at
the top and in an arm. -/
theorem walk_of_isNative_false {policy : ArmPolicy} {b : Body} (h : b.isNative = false)
    (nested nested' : Bool) :
    walk policy site current nested b = walk policy site current nested' b := by
  -- the equations of `walk` split a branch by whether it has a second arm
  cases b with
  | native handler => cases h
  | branch c yes no => cases no <;> rw [walk, walk]
  | _ => rw [walk, walk]

/-- Under `ignore` the analysis fails only on a body that is itself opaque. -/
theorem destinations_ignore (b : Body) :
    b.destinations .ignore site current =
      if b.isNative then .error [.unrecognizedBody site]
      else .ok (SortedSet.ofList (b.leaves current)) := by
  cases hb : b.isNative with
  | true =>
    cases b with
    | native handler => simp [destinations, walk]
    | _ => cases hb
  | false =>
    rw [destinations, walk_of_isNative_false hb false true, walk_ignore_nested]
    simp [analysisOf]

/-- The analysis of a body from `current` is the set of its leaves when it has no opaque handler.
Under `reject` a body with opaque handlers fails with one fault at the site per handler; under
`ignore` it fails only when it is itself opaque, and otherwise finds the set of its leaves. So
`ignore` accepts every body `reject` accepts, with the same destinations, and the answer depends
only on the set of leaves, the number of opaque handlers and whether the body is one: the order
of arms and repeated leaves do not matter. -/
theorem destinations_eq_leaf_set (b : Body) (current : StateName) (site : String)
    (options : CompileOptions) :
    (b.armNatives = 0 →
      b.destinations options.unrecognizedArms site current = .ok (SortedSet.ofList (b.leaves current))) ∧
    (b.armNatives ≠ 0 →
      b.destinations .reject site current = .error (List.replicate b.armNatives (.unrecognizedBody site))) ∧
    (b.destinations .ignore site current =
      if b.isNative then .error [.unrecognizedBody site]
      else .ok (SortedSet.ofList (b.leaves current))) ∧
    (∀ ds, b.destinations .reject site current = .ok ds → b.destinations .ignore site current = .ok ds) ∧
    (∀ b' : Body, (∀ x, x ∈ b.leaves current ↔ x ∈ b'.leaves current) →
      b.armNatives = b'.armNatives → b.isNative = b'.isNative →
      b.destinations options.unrecognizedArms site current =
        b'.destinations options.unrecognizedArms site current) := by
  have hreject : ∀ c : Body, c.destinations .reject site current =
      analysisOf site c.armNatives (c.leaves current) := fun c => walk_reject c false
  refine ⟨fun h0 => ?_, fun hne => ?_, destinations_ignore b, fun ds hds => ?_,
    fun b' hleaves hnat hnative => ?_⟩
  · cases options with
    | mk policy =>
      cases policy with
      | reject => simp [hreject, analysisOf, h0]
      | ignore => simp [destinations_ignore, isNative_eq_false_of_armNatives h0]
  · simp [hreject, analysisOf, hne]
  · -- `reject` succeeded, so the body has no opaque handler
    rw [hreject, analysisOf] at hds
    split at hds
    · rename_i h0
      cases hds
      rw [destinations_ignore, if_neg (by simp [isNative_eq_false_of_armNatives h0])]
    · cases hds
  · have hsets : SortedSet.ofList (b.leaves current) = SortedSet.ofList (b'.leaves current) :=
      SortedSet.eq_of_mem_iff (SortedSet.sorted_ofList _) (SortedSet.sorted_ofList _)
        fun x => by simp [hleaves x]
    cases options with
    | mk policy =>
      cases policy with
      | reject => rw [hreject, hreject, analysisOf, analysisOf, hnat, hsets]
      | ignore => rw [destinations_ignore, destinations_ignore, hnative, hsets]

/-- Two opaque arms are two faults under `reject`, and nothing under `ignore`. -/
example :
    (Body.cond [(fun _ => true, .native fun _ => none), (fun _ => true, .native fun _ => none)]).destinations
      .reject "test" "current" = .error [.unrecognizedBody "test", .unrecognizedBody "test"] ∧
    (Body.cond [(fun _ => true, .native fun _ => none), (fun _ => true, .native fun _ => none)]).destinations
      .ignore "test" "current" = .ok [] := by
  constructor
  · rw [destinations, walk_reject]
    simp [analysisOf, armNatives, nestedNatives, condNatives]
  · rw [destinations_ignore]
    simp [isNative, leaves, condLeaves, SortedSet.ofList]

end Body

end RuleMachine
