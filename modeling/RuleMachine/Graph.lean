import RuleMachine.Event
import RuleMachine.Proofs.Sorted
/-!
# State graphs

A state graph maps a state to the states one transition leads to from it. `Graph.reach`
gives every state reachable from a start state by zero or more steps, the start included.

The search walks depth first. It keeps the states seen so far and a stack of states still to
visit, both holding just the start at first. A visit pops the top state and looks at its
successors in order: each one not yet seen is marked seen and pushed. The search stops when
the stack is empty.

A visit either marks seen a state the seen states lacked, which is the target of some edge,
or marks nothing and leaves the stack one shorter. So the number of edges whose target is not
yet seen, and after it the length of the stack, fall in lexicographic order at every visit
(`Graph.visit_decreases`), and the search ends.
-/

namespace RuleMachine

/-- A state graph: each state with the states one step leads to, sorted. -/
abbrev Graph := List (StateName × List StateName)

namespace Graph

/-- The states one step leads to from a state. -/
def successors (g : Graph) (s : StateName) : List StateName := (SortedMap.get? s g).getD []

/-- The target of every edge, once per edge. -/
def targets (g : Graph) : List StateName := g.flatMap (·.2)

/-- The number of edges whose target is not among the seen states. -/
def unseen (g : Graph) (seen : List StateName) : Nat := g.targets.countP (· ∉ seen)

/-- One successor looked at, with the seen states and the stack: unless it is seen already, it
is marked seen and pushed. -/
def mark (acc : List StateName × List StateName) (t : StateName) :
    List StateName × List StateName :=
  if SortedSet.contains t acc.1 then acc else (SortedSet.insert t acc.1, t :: acc.2)

/-- A visit of `s`: its successors looked at in order. -/
def visit (g : Graph) (s : StateName) (seen stack : List StateName) :
    List StateName × List StateName :=
  (g.successors s).foldl mark (seen, stack)

theorem mem_targets_of_mem_successors {g : Graph} {x y : StateName}
    (h : y ∈ g.successors x) : y ∈ g.targets := by
  unfold successors at h
  cases hx : SortedMap.get? x g with
  | none => simp [hx] at h
  | some ys =>
    rw [hx, Option.getD_some] at h
    have hmem := SortedMap.mem_of_get?_eq_some hx
    simpa [targets] using ⟨x, ys, hmem, h⟩

/-- After looking at `ts`, the seen states are those seen before and those of `ts`, and the
stack has gained the states of `ts` that were not seen before. -/
theorem mem_foldl_mark (x : StateName) :
    ∀ (ts : List StateName) (seen stack : List StateName),
      (x ∈ (ts.foldl mark (seen, stack)).1 ↔ x ∈ seen ∨ x ∈ ts) ∧
        (x ∈ (ts.foldl mark (seen, stack)).2 ↔ x ∈ stack ∨ (x ∈ ts ∧ x ∉ seen))
  | [], seen, stack => by simp
  | t :: rest, seen, stack => by
    rw [List.foldl_cons]
    by_cases ht : t ∈ seen
    · have hc : SortedSet.contains t seen = true := (SortedSet.contains_iff t seen).mpr ht
      simp only [mark, hc, if_true]
      rw [(mem_foldl_mark x rest seen stack).1, (mem_foldl_mark x rest seen stack).2]
      -- `t` was seen already, so looking at it changes nothing
      by_cases hx : x = t
      · subst hx
        simp [ht]
      · simp [hx]
    · have hc : SortedSet.contains t seen = false :=
        Bool.eq_false_iff.mpr fun h => ht ((SortedSet.contains_iff t seen).mp h)
      simp only [mark, hc, Bool.false_eq_true, if_false]
      rw [(mem_foldl_mark x rest _ _).1, (mem_foldl_mark x rest _ _).2]
      by_cases hx : x = t
      · subst hx
        simp [ht]
      · simp [hx]

/-- Looking at states all seen already changes nothing. -/
theorem foldl_mark_of_forall_mem :
    ∀ (ts seen stack : List StateName), (∀ t ∈ ts, t ∈ seen) →
      ts.foldl mark (seen, stack) = (seen, stack)
  | [], _, _, _ => rfl
  | t :: rest, seen, stack, h => by
    have hc : SortedSet.contains t seen = true :=
      (SortedSet.contains_iff t seen).mpr (h t List.mem_cons_self)
    simp only [List.foldl_cons, mark, hc, if_true]
    exact foldl_mark_of_forall_mem rest seen stack fun t' h' => h t' (List.mem_cons_of_mem _ h')

/-- Among edges whose targets only get seen, one whose target gets seen lowers the count of
edges not yet seen. -/
private theorem countP_unseen_lt {seen seen' : List StateName} (hsub : ∀ x ∈ seen, x ∈ seen')
    {t : StateName} (hnew : t ∉ seen) (ht' : t ∈ seen') :
    ∀ (es : List StateName), t ∈ es → es.countP (· ∉ seen') < es.countP (· ∉ seen)
  | y :: rest, hmem => by
    have hmono : rest.countP (· ∉ seen') ≤ rest.countP (· ∉ seen) :=
      List.countP_mono_left fun x _ hx => by
        simp only [decide_eq_true_eq] at hx ⊢
        exact fun h => hx (hsub x h)
    rw [List.countP_cons, List.countP_cons]
    rcases List.mem_cons.mp hmem with rfl | hrest
    · simp only [ht', hnew, not_true_eq_false, not_false_eq_true, decide_false, decide_true,
        Bool.false_eq_true, if_false, if_true]
      omega
    · have hlt := countP_unseen_lt hsub hnew ht' rest hrest
      by_cases hy : y ∈ seen'
      · simp only [hy, not_true_eq_false, decide_false, Bool.false_eq_true, if_false]
        split <;> omega
      · -- an edge not seen afterwards was not seen before
        have hy' : y ∉ seen := fun h => hy (hsub y h)
        simp only [hy, hy', not_false_eq_true, decide_true, if_true]
        omega

/-- Marking seen an edge target that was not seen lowers the count of edges not yet seen. -/
theorem unseen_lt {g : Graph} {seen seen' : List StateName} (hsub : ∀ x ∈ seen, x ∈ seen')
    {t : StateName} (ht : t ∈ g.targets) (hnew : t ∉ seen) (ht' : t ∈ seen') :
    g.unseen seen' < g.unseen seen :=
  countP_unseen_lt hsub hnew ht' g.targets ht

/-- A visit marks seen an edge target that was not seen, or marks nothing and leaves the stack
below the popped state as it was. -/
theorem visit_decreases (g : Graph) (s : StateName) (seen stack : List StateName) :
    Prod.Lex (· < ·) (· < ·) (g.unseen (g.visit s seen stack).1, (g.visit s seen stack).2.length)
      (g.unseen seen, stack.length + 1) := by
  by_cases hnew : ∃ t ∈ g.successors s, t ∉ seen
  · obtain ⟨t, hts, ht⟩ := hnew
    have hmem := fun x => (mem_foldl_mark x (g.successors s) seen stack).1
    exact Prod.Lex.left _ _ (unseen_lt (fun x hx => (hmem x).mpr (Or.inl hx))
      (mem_targets_of_mem_successors hts) ht ((hmem t).mpr (Or.inr hts)))
  · have hall : ∀ t ∈ g.successors s, t ∈ seen :=
      fun t hts => Decidable.byContradiction fun ht => hnew ⟨t, hts, ht⟩
    rw [visit, foldl_mark_of_forall_mem _ _ _ hall]
    exact Prod.Lex.right _ (Nat.lt_succ_self _)

/-- Visits the states of the stack from the top, marking their successors, until the stack is
empty; the answer is the seen states. -/
def search (g : Graph) (seen : List StateName) : List StateName → List StateName
  | [] => seen
  | s :: stack =>
    let next := g.visit s seen stack
    g.search next.1 next.2
termination_by stack => (g.unseen seen, stack.length)
decreasing_by exact visit_decreases g s seen stack

/-- The states reachable from `start`, the start included, sorted. -/
def reach (g : Graph) (start : StateName) : List StateName := g.search [start] [start]

end Graph

end RuleMachine
