/-!
# Splitting a list around one element

Steps run in order and calls made one after another are both read as a list grown at its end,
and a law about one element of it is stated with the part before it and the part after it
(`pre ++ x :: post`). Growing the list by one element either makes that element the one added,
with nothing after it, or leaves it among the earlier ones (`append_singleton_eq_append_cons`):
this is the case split of every proof that a law survives one more step.
-/

namespace RuleMachine

/-- An element of a list grown by one is the element added, at the end, or an element of the
list before. -/
theorem append_singleton_eq_append_cons {α : Type} {pre l r : List α} {x y : α} :
    pre ++ [x] = l ++ y :: r ↔
      (l = pre ∧ y = x ∧ r = []) ∨ ∃ r', pre = l ++ y :: r' ∧ r = r' ++ [x] := by
  induction l generalizing pre with
  | nil =>
    cases pre with
    | nil => simp [eq_comm]
    | cons p ps => grind
  | cons a l ih =>
    cases pre with
    | nil => simp
    | cons p ps =>
      simp only [List.cons_append, List.cons.injEq, ih]
      grind

end RuleMachine
