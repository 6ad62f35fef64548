import Mathlib.Logic.Relation
import RuleMachine.Dispatch.Merge
import RuleMachine.Proofs.Sorted.Canonical
/-!
# The search finds exactly the reachable states

`Graph.reach g s` holds the states that zero or more steps of `g` lead to from `s`, and no other
(`Graph.mem_reach_iff`), as a sorted set (`Graph.sorted_reach`).

The search owes one invariant (`Graph.Walked`): the stack is seen, every seen state is reachable,
and a seen state off the stack has all its successors seen. A visit keeps it
(`Graph.Walked.visit`): the popped state gets its successors seen, and those newly seen go on the
stack. So the whole search keeps it (`Graph.Walked.search`), and when the stack is empty no seen
state is owed anything: the seen states are closed under steps, so they hold every reachable
state.

The graph of a table maps each state that leaves a row, whatever its event, the wildcard
included, to the set of the destinations of its rows, and holds no other state
(`Table.get?_graph`). So the states reachable from a state in a rule-set or in a merged table
are the reflexive-transitive closure of the table's one-step relation (`Table.Step`), bypasses
playing no part (`Graph.reach_is_step_closure`).
-/

namespace RuleMachine

namespace Graph

/-- One step of a graph: from a state to one of its successors. -/
def Step (g : Graph) (x y : StateName) : Prop := y ∈ g.successors x

/-- What the search keeps true of the seen states and the stack, from `start`. -/
structure Walked (g : Graph) (start : StateName) (seen stack : List StateName) : Prop where
  start_seen : start ∈ seen
  stack_seen : ∀ x ∈ stack, x ∈ seen
  reachable : ∀ x ∈ seen, Relation.ReflTransGen g.Step start x
  closed_off : ∀ x ∈ seen, x ∉ stack → ∀ y ∈ g.successors x, y ∈ seen

variable {g : Graph} {start : StateName}

/-- A visit sees what was seen and the successors of the popped state, and pushes those of them
that were not seen. -/
theorem mem_visit (s x : StateName) (seen stack : List StateName) :
    (x ∈ (g.visit s seen stack).1 ↔ x ∈ seen ∨ x ∈ g.successors s) ∧
      (x ∈ (g.visit s seen stack).2 ↔ x ∈ stack ∨ (x ∈ g.successors s ∧ x ∉ seen)) :=
  mem_foldl_mark x (g.successors s) seen stack

theorem walked_start (g : Graph) (start : StateName) : g.Walked start [start] [start] where
  start_seen := List.mem_singleton_self start
  stack_seen _ hx := hx
  reachable x hx := by
    rw [List.mem_singleton.mp hx]
  closed_off _ hx hxs := absurd hx hxs

/-- A visit keeps the invariant. -/
theorem Walked.visit {s : StateName} {seen stack : List StateName}
    (h : g.Walked start seen (s :: stack)) :
    g.Walked start (g.visit s seen stack).1 (g.visit s seen stack).2 := by
  have hseen : ∀ z ∈ seen, z ∈ (g.visit s seen stack).1 :=
    fun z hz => (mem_visit s z seen stack).1.mpr (Or.inl hz)
  refine ⟨hseen _ h.start_seen, fun x hx => ?_, fun x hx => ?_, fun x hx hxs y hy => ?_⟩
  · rcases (mem_visit s x seen stack).2.mp hx with hx | ⟨hx, -⟩
    · exact hseen x (h.stack_seen x (List.mem_cons_of_mem _ hx))
    · exact (mem_visit s x seen stack).1.mpr (Or.inr hx)
  · rcases (mem_visit s x seen stack).1.mp hx with hx | hx
    · exact h.reachable x hx
    · -- a successor of the popped state, which is seen and so reachable
      exact (h.reachable s (h.stack_seen s List.mem_cons_self)).tail hx
  · by_cases hxs' : x = s
    · subst hxs'
      exact (mem_visit x y seen stack).1.mpr (Or.inr hy)
    · by_cases hxseen : x ∈ seen
      · -- a state seen before and never on the stack had its successors seen already
        have hoff : x ∉ s :: stack := by
          rintro (_ | ⟨_, hx'⟩)
          · exact hxs' rfl
          · exact hxs ((mem_visit s x seen stack).2.mpr (Or.inl hx'))
        exact hseen y (h.closed_off x hxseen hoff y hy)
      · -- a state newly seen was pushed
        have hsucc := ((mem_visit s x seen stack).1.mp hx).resolve_left hxseen
        exact absurd ((mem_visit s x seen stack).2.mpr (Or.inr ⟨hsucc, hxseen⟩)) hxs

/-- The whole search keeps the invariant, and ends with an empty stack. -/
theorem Walked.search {seen stack : List StateName} (h : g.Walked start seen stack) :
    g.Walked start (g.search seen stack) [] := by
  fun_induction g.search seen stack with
  | case1 seen => exact h
  | case2 seen s stack next ih => exact ih h.visit

/-- The search finds the states that steps lead to from the start, and no other. -/
theorem mem_reach_iff {s t : StateName} : t ∈ g.reach s ↔ Relation.ReflTransGen g.Step s t := by
  have hw := (walked_start g s).search
  refine ⟨hw.reachable t, fun hst => ?_⟩
  -- with the stack empty, the seen states are closed under steps
  induction hst with
  | refl => exact hw.start_seen
  | tail _ hyz ih => exact hw.closed_off _ ih List.not_mem_nil _ hyz

/-- The search finds its start. -/
theorem start_mem_reach (g : Graph) (start : StateName) : start ∈ g.reach start :=
  mem_reach_iff.mpr .refl

/-- The states the search returns are closed under successors. -/
theorem reach_closed {x y : StateName} (hx : x ∈ g.reach start) (hy : y ∈ g.successors x) :
    y ∈ g.reach start :=
  mem_reach_iff.mpr ((mem_reach_iff.mp hx).tail hy)

/-- A state reachable from `start` is `start` or a successor of some state. -/
theorem mem_reach_cases {x : StateName} (hx : x ∈ g.reach start) :
    x = start ∨ ∃ y, x ∈ g.successors y := by
  rcases (mem_reach_iff.mp hx).cases_tail with rfl | ⟨y, -, hy⟩
  · exact .inl rfl
  · exact .inr ⟨y, hy⟩

theorem sorted_foldl_mark : ∀ (ts seen stack : List StateName), SortedSet.Sorted seen →
    SortedSet.Sorted (ts.foldl mark (seen, stack)).1
  | [], _, _, h => h
  | t :: rest, seen, stack, h => by
    rw [List.foldl_cons, mark]
    split
    · exact sorted_foldl_mark rest seen stack h
    · exact sorted_foldl_mark rest _ _ (h.insert t)

/-- The search returns its states as a sorted set. -/
theorem sorted_reach (g : Graph) (start : StateName) : SortedSet.Sorted (g.reach start) := by
  have hsearch : ∀ seen stack, SortedSet.Sorted seen → SortedSet.Sorted (g.search seen stack) := by
    intro seen stack h
    fun_induction g.search seen stack with
    | case1 seen => exact h
    | case2 seen s stack next ih => exact ih (sorted_foldl_mark _ seen stack h)
  exact hsearch [start] [start] (List.pairwise_singleton _ start)

end Graph

namespace Table

/-- One step of a table: from the state of a row to one of the row's destinations, whatever
the row's event. -/
def Step (t : Table) (x y : StateName) : Prop := ∃ p ∈ t, p.1.state = x ∧ y ∈ p.2.destinations

/-- One row written into a graph under construction. -/
private def graphStep (g : Graph) (p : Key × Row) : Graph :=
  SortedMap.insert p.1.state
    (SortedSet.union ((SortedMap.get? p.1.state g).getD []) p.2.destinations) g

private theorem graph_eq_foldl (t : Table) : t.graph = t.foldl graphStep [] := rfl

private theorem successors_graphStep (g : Graph) (p : Key × Row) (x : StateName) :
    (graphStep g p).successors x =
      if x = p.1.state then SortedSet.union (g.successors p.1.state) p.2.destinations
      else g.successors x := by
  unfold graphStep Graph.successors
  rw [SortedMap.get?_insert]
  split <;> rfl

private theorem successors_foldl_mono (rows : Table) (g : Graph) {x y : StateName}
    (hy : y ∈ g.successors x) : y ∈ (rows.foldl graphStep g).successors x := by
  induction rows generalizing g with
  | nil => exact hy
  | cons p rest ih =>
    apply ih
    rw [successors_graphStep]
    split
    · rename_i hx
      subst hx
      exact (SortedSet.mem_union y _ _).mpr (Or.inl hy)
    · exact hy

private theorem mem_successors_foldl {rows : Table} {k : Key} {row : Row} (hrow : (k, row) ∈ rows)
    {d : StateName} (hd : d ∈ row.destinations) (g : Graph) :
    d ∈ (rows.foldl graphStep g).successors k.state := by
  induction rows generalizing g with
  | nil => cases hrow
  | cons p rest ih =>
    rw [List.foldl_cons]
    rcases List.mem_cons.mp hrow with rfl | hrest
    · apply successors_foldl_mono
      rw [successors_graphStep, if_pos rfl]
      exact (SortedSet.mem_union d _ _).mpr (Or.inr hd)
    · exact ih hrest _

/-- Every destination of a row is a successor of the row's state in the table's graph. -/
theorem mem_successors_graph {t : Table} {k : Key} {row : Row} (hrow : (k, row) ∈ t)
    {d : StateName} (hd : d ∈ row.destinations) : d ∈ t.graph.successors k.state :=
  mem_successors_foldl hrow hd []

/-- Every state of a graph leaves a row of `t`, and every successor of it is a destination of
such a row. -/
private def DrawnFrom (t : Table) (g : Graph) : Prop :=
  ∀ x ys, SortedMap.get? x g = some ys →
    (∃ p ∈ t, p.1.state = x) ∧ ∀ y ∈ ys, ∃ p ∈ t, p.1.state = x ∧ y ∈ p.2.destinations

private theorem drawnFrom_graphStep {t : Table} {g : Graph} (hg : DrawnFrom t g) {p : Key × Row}
    (hp : p ∈ t) : DrawnFrom t (graphStep g p) := by
  intro x ys h
  unfold graphStep at h
  rw [SortedMap.get?_insert] at h
  split at h
  · rename_i hx
    subst hx
    cases h
    refine ⟨⟨p, hp, rfl⟩, fun y hy => ?_⟩
    rcases (SortedSet.mem_union y _ _).mp hy with hold | hnew
    · -- an old successor of the row's state came from an earlier row
      cases hget : SortedMap.get? p.1.state g with
      | none => simp [hget] at hold
      | some zs =>
        rw [hget, Option.getD_some] at hold
        exact (hg _ zs hget).2 y hold
    · exact ⟨p, hp, rfl, hnew⟩
  · exact hg x ys h

/-- Every state with successors in the graph of a table leaves a row of it, and every successor
is a destination of a row leaving that state. -/
theorem mem_graph_cases {t : Table} {x : StateName} {ys : List StateName}
    (h : SortedMap.get? x t.graph = some ys) :
    (∃ p ∈ t, p.1.state = x) ∧ ∀ y ∈ ys, ∃ p ∈ t, p.1.state = x ∧ y ∈ p.2.destinations := by
  -- the rows are written one by one into the empty graph
  have hfold : ∀ (rows : Table) (g : Graph), (∀ p ∈ rows, p ∈ t) → DrawnFrom t g →
      DrawnFrom t (rows.foldl graphStep g) := by
    intro rows
    induction rows with
    | nil => exact fun _ _ hg => hg
    | cons p rest ih =>
      intro g hrows hg
      exact ih _ (fun q hq => hrows q (List.mem_cons_of_mem _ hq))
        (drawnFrom_graphStep hg (hrows p List.mem_cons_self))
  exact hfold t [] (fun _ hp => hp) (fun _ _ hnil => by cases hnil) x ys h

/-- A successor of a state in the graph of a table is a destination of a row leaving it. -/
theorem mem_successors_graph_cases {t : Table} {x y : StateName} (h : y ∈ t.graph.successors x) :
    ∃ p ∈ t, p.1.state = x ∧ y ∈ p.2.destinations := by
  unfold Graph.successors at h
  cases hget : SortedMap.get? x t.graph with
  | none => simp [hget] at h
  | some ys =>
    rw [hget, Option.getD_some] at h
    exact (mem_graph_cases hget).2 y h

/-- A step of the graph of a table is a step of the table. -/
theorem graph_step_iff {t : Table} {x y : StateName} : t.graph.Step x y ↔ t.Step x y :=
  ⟨mem_successors_graph_cases, fun ⟨_, hp, hx, hy⟩ => hx ▸ mem_successors_graph hp hy⟩

/-- Every set of successors in the graph is sorted. -/
private def SortedValues (g : Graph) : Prop := ∀ x ys, SortedMap.get? x g = some ys → SortedSet.Sorted ys

private theorem sortedValues_graphStep {g : Graph} (hg : SortedValues g) (p : Key × Row) :
    SortedValues (graphStep g p) := by
  intro x ys h
  unfold graphStep at h
  rw [SortedMap.get?_insert] at h
  split at h
  · cases h
    cases hget : SortedMap.get? p.1.state g with
    | none => exact SortedSet.Sorted.union List.Pairwise.nil _
    | some zs => exact (hg _ zs hget).union _
  · exact hg x ys h

private theorem sortedValues_graph (t : Table) : SortedValues t.graph := by
  have hfold : ∀ (rows : Table) (g : Graph), SortedValues g →
      SortedValues (rows.foldl graphStep g) := by
    intro rows
    induction rows with
    | nil => exact fun _ hg => hg
    | cons q rest ih => exact fun g hg => ih _ (sortedValues_graphStep hg q)
  exact hfold t [] fun _ _ hnil => by cases hnil

private theorem isSome_foldl_graphStep (rows : Table) {g : Graph} {x : StateName}
    (hx : (SortedMap.get? x g).isSome) : (SortedMap.get? x (rows.foldl graphStep g)).isSome := by
  induction rows generalizing g with
  | nil => exact hx
  | cons p rest ih =>
    apply ih
    unfold graphStep
    rw [SortedMap.get?_insert]
    split
    · rfl
    · exact hx

private theorem isSome_foldl_of_mem {rows : Table} {p : Key × Row} (hp : p ∈ rows) (g : Graph) :
    (SortedMap.get? p.1.state (rows.foldl graphStep g)).isSome := by
  induction rows generalizing g with
  | nil => cases hp
  | cons q rest ih =>
    rw [List.foldl_cons]
    rcases List.mem_cons.mp hp with rfl | hrest
    · apply isSome_foldl_graphStep
      unfold graphStep
      rw [SortedMap.get?_insert, if_pos rfl]
      rfl
    · exact ih hrest _

/-- The graph of a table maps each state that leaves a row to the set of the destinations of
the rows leaving it, and holds no other state. -/
theorem get?_graph (t : Table) (x : StateName) :
    SortedMap.get? x t.graph =
      if ∃ p ∈ t, p.1.state = x then
        some (SortedSet.ofList ((t.filter (·.1.state == x)).flatMap (·.2.destinations)))
      else none := by
  split
  · rename_i hrow
    obtain ⟨p, hp, rfl⟩ := hrow
    obtain ⟨ys, hys⟩ := Option.isSome_iff_exists.mp (isSome_foldl_of_mem hp [])
    rw [← graph_eq_foldl] at hys
    have hsorted : SortedSet.Sorted ys := sortedValues_graph t _ ys hys
    rw [hys]
    congr 1
    -- both sides are sorted sets with the destinations of the rows leaving the state
    refine SortedSet.eq_of_mem_iff hsorted (SortedSet.sorted_ofList _) fun y => ?_
    have hsucc : t.graph.successors p.1.state = ys := by
      simp [Graph.successors, hys]
    rw [SortedSet.mem_ofList, ← hsucc]
    refine ⟨fun hy => ?_, fun hy => ?_⟩
    · obtain ⟨q, hq, hqx, hyq⟩ := mem_successors_graph_cases hy
      exact List.mem_flatMap.mpr ⟨q, List.mem_filter.mpr ⟨hq, by simp [hqx]⟩, hyq⟩
    · obtain ⟨q, hq, hyq⟩ := List.mem_flatMap.mp hy
      obtain ⟨hqt, hqx⟩ := List.mem_filter.mp hq
      rw [← (beq_iff_eq.mp hqx)]
      exact mem_successors_graph hqt hyq
  · rename_i hnone
    cases hget : SortedMap.get? x t.graph with
    | none => rfl
    | some ys => exact absurd (mem_graph_cases hget).1 hnone

end Table

namespace Graph

/-- The states the search finds from `s` are those that zero or more steps lead to from `s`,
as a sorted set. The graph of a table maps each state leaving a row, by a named event or the
wildcard, to the set of those rows' destinations and holds no other state; so the states
reachable from `s` in a rule-set or in a merged table are the reflexive-transitive closure of
the table's one-step relation, bypasses playing no part. -/
theorem reach_is_step_closure :
    (∀ (g : Graph) (s t : StateName), t ∈ g.reach s ↔ Relation.ReflTransGen g.Step s t) ∧
    (∀ (g : Graph) (s : StateName), SortedSet.Sorted (g.reach s)) ∧
    (∀ (tbl : Table) (x : StateName), SortedMap.get? x tbl.graph =
      if ∃ p ∈ tbl, p.1.state = x then
        some (SortedSet.ofList ((tbl.filter (·.1.state == x)).flatMap (·.2.destinations)))
      else none) ∧
    (∀ (rs : RuleSet) (s t : StateName),
      t ∈ rs.reachableFrom s ↔ Relation.ReflTransGen rs.table.Step s t) ∧
    (∀ (m : Merged) (s t : StateName),
      t ∈ m.reachableFrom s ↔ Relation.ReflTransGen m.table.Step s t) := by
  -- a table's graph takes the same steps as the table
  have hsteps : ∀ tbl : Table, tbl.graph.Step = tbl.Step :=
    fun tbl => funext fun x => funext fun y => propext Table.graph_step_iff
  refine ⟨fun g s t => mem_reach_iff, sorted_reach, Table.get?_graph, fun rs s t => ?_,
    fun m s t => ?_⟩
  · rw [← hsteps]
    exact mem_reach_iff
  · rw [← hsteps]
    exact mem_reach_iff

end Graph

end RuleMachine
