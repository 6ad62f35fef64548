import Mathlib
import RuleMachine.Proofs.Dispatch.Resolve
import RuleMachine.Proofs.RuleSet.Assemble
/-!
# The merged table of several rule-sets

The merged table stores for each transition key only the rule-set that owns it, and reads the row
back from the owner. Nothing is lost by that (`Merged.Combines`): the merged table has exactly the
keys of the rule-sets' tables, each with the row of the last rule-set that has it, so it is as long
as the union of their key sets; each bypass event goes to the last rule-set with a bypass on it;
and the graph and the reachable states are those of that table. For compiled rule-sets whose key
sets do not meet, the lengths add up, and the order of the rule-sets does not matter
(`Merged.ofRuleSets_combines`).

Two facts carry it. Every owner the merge stores has the key it is stored under
(`Merged.OwnersHoldKeys`), so reading the row through the owner never fails and the table is the
list of owned keys with their rows. The stored keys are sorted (`Merged.sorted_transitions`), so two
merges that give every key the same owner are the same list (`SortedMap.eq_of_get?_eq`); when at
most one rule-set has each key, every order gives it that one owner (`find?_reverse_eq_of_perm`).
-/

namespace RuleMachine

/-- When at most one element has the property, the last element that has it does not depend on
the order of the list. -/
theorem find?_reverse_eq_of_perm {α : Type} {p : α → Bool} {l l' : List α} (hperm : l.Perm l')
    (hone : (l.filter p).length ≤ 1) : l.reverse.find? p = l'.reverse.find? p := by
  rw [← List.head?_filter, ← List.head?_filter, List.filter_reverse, List.filter_reverse]
  have hfilter : (l.filter p).Perm (l'.filter p) := hperm.filter p
  -- a list of at most one element is the only list it is a permutation of
  have heq : l'.filter p = l.filter p := by
    match hl : l.filter p, hone with
    | [], _ =>
      rw [hl] at hfilter
      exact List.nil_perm.mp hfilter
    | [a], _ =>
      rw [hl] at hfilter
      exact List.perm_singleton.mp hfilter.symm
    | _ :: _ :: _, h => simp at h
  rw [heq]

/-- Elements of a list of which no two have the property leave at most one that has it. -/
theorem length_filter_le_one {α : Type} {p : α → Bool} :
    ∀ {l : List α}, l.Pairwise (fun a b => p a = true → p b = true → False) → (l.filter p).length ≤ 1
  | [], _ => by simp
  | a :: rest, h => by
    obtain ⟨ha, hrest⟩ := List.pairwise_cons.mp h
    by_cases hpa : p a = true
    · -- `a` has it, so nothing after it does
      have hnone : rest.filter p = [] :=
        List.filter_eq_nil_iff.mpr fun b hb hpb => ha b hb hpa hpb
      simp [hpa, hnone]
    · simpa [List.filter_cons, hpa] using length_filter_le_one hrest

/-- No transition key is in the tables of two of the rule-sets. -/
def TablesDisjoint (R : List RuleSet) : Prop :=
  R.Pairwise fun a b => ∀ k, (SortedMap.get? k a.table).isSome → (SortedMap.get? k b.table).isSome → False

/-- No bypass event is in the bypasses of two of the rule-sets. -/
def BypassesDisjoint (R : List RuleSet) : Prop :=
  R.Pairwise fun a b => ∀ e, (SortedMap.get? e a.bypasses).isSome →
    (SortedMap.get? e b.bypasses).isSome → False

/-- The last of the rule-sets with a bypass on the event is the one after which none has one. -/
theorem lastBypass_eq_some_iff {R : List RuleSet} {e : EventName} {r : RuleSet} :
    lastBypass R e = some r ↔
      ∃ A B, R = A ++ r :: B ∧ (SortedMap.get? e r.bypasses).isSome ∧
        ∀ r' ∈ B, SortedMap.get? e r'.bypasses = none := by
  rw [lastBypass, List.find?_eq_some_iff_append]
  constructor
  · rintro ⟨hr, as, bs, hR, has⟩
    refine ⟨bs.reverse, as.reverse, ?_, hr, fun r' hr' => ?_⟩
    · simpa using congrArg List.reverse hR
    · simpa using has r' (List.mem_reverse.mp hr')
  · rintro ⟨A, B, rfl, hr, hB⟩
    exact ⟨hr, B.reverse, A.reverse, by simp, fun r' hr' => by simp [hB r' (List.mem_reverse.mp hr')]⟩

namespace Merged

/-- Every key is stored with a rule-set whose table has it. -/
def OwnersHoldKeys (m : Merged) : Prop :=
  ∀ p ∈ m.transitions, (SortedMap.get? p.1 p.2.table).isSome

/-- A rule-set claiming its keys stores itself only under keys of its table. -/
theorem OwnersHoldKeys.claim {m : Merged} (hm : m.OwnersHoldKeys) (rs : RuleSet) :
    (m.claim rs).OwnersHoldKeys := by
  -- each insert stores `rs` under a key of its own table
  refine List.foldlRecOn
    (motive := fun t : List (Key × RuleSet) => ∀ p ∈ t, (SortedMap.get? p.1 p.2.table).isSome)
    rs.table _ hm fun t ht q hq p hp => ?_
  rcases SortedMap.mem_insert_cases hp with rfl | hold
  · exact (SortedMap.get?_isSome_iff_mem_keys _ _).mpr (List.mem_map_of_mem hq)
  · exact ht p hold

theorem ownersHoldKeys_ofRuleSets (R : List RuleSet) : (ofRuleSets R).OwnersHoldKeys := by
  rw [ofRuleSets_eq_foldl_claim]
  exact List.foldlRecOn (motive := OwnersHoldKeys) R claim (fun _ hp => by cases hp)
    fun m hm rs _ => hm.claim rs

theorem sorted_claim {m : Merged} (ht : SortedMap.Sorted m.transitions)
    (hb : SortedMap.Sorted m.bypasses) (rs : RuleSet) :
    SortedMap.Sorted (m.claim rs).transitions ∧ SortedMap.Sorted (m.claim rs).bypasses :=
  ⟨List.foldlRecOn (motive := SortedMap.Sorted) rs.table _ ht fun _ h q _ => h.insert q.1 rs,
    List.foldlRecOn (motive := SortedMap.Sorted) rs.bypasses _ hb fun _ h q _ => h.insert q.1 rs⟩

theorem sorted_ofRuleSets (R : List RuleSet) :
    SortedMap.Sorted (ofRuleSets R).transitions ∧ SortedMap.Sorted (ofRuleSets R).bypasses := by
  rw [ofRuleSets_eq_foldl_claim]
  exact List.foldlRecOn
    (motive := fun m : Merged => SortedMap.Sorted m.transitions ∧ SortedMap.Sorted m.bypasses)
    R claim ⟨List.Pairwise.nil, List.Pairwise.nil⟩ fun m hm rs _ => sorted_claim hm.1 hm.2 rs

theorem sorted_transitions (R : List RuleSet) : SortedMap.Sorted (ofRuleSets R).transitions :=
  (sorted_ofRuleSets R).1

/-- Reading rows through owners that hold their keys: each key reads the row its owner has. -/
theorem get?_filterMap_owners (k : Key) :
    ∀ (l : List (Key × RuleSet)), (∀ p ∈ l, (SortedMap.get? p.1 p.2.table).isSome) →
      SortedMap.get? k (l.filterMap fun (k', owner) => (SortedMap.get? k' owner.table).map fun row => (k', row)) =
        (SortedMap.get? k l).bind fun owner => SortedMap.get? k owner.table
  | [], _ => rfl
  | (k', owner) :: rest, hl => by
    obtain ⟨row, hrow⟩ := Option.isSome_iff_exists.mp (hl (k', owner) List.mem_cons_self)
    have hrest := get?_filterMap_owners k rest fun p hp => hl p (List.mem_cons_of_mem _ hp)
    by_cases hk : k = k'
    · subst hk
      simp [hrow, SortedMap.get?]
    · simp [hrow, SortedMap.get?, hk, hrest]

/-- The table of a merge whose owners hold their keys reads, at each key, the owner's row. -/
theorem get?_table {m : Merged} (hm : m.OwnersHoldKeys) (k : Key) :
    SortedMap.get? k m.table = (m.transition? k).map Prod.snd := by
  rw [table, get?_filterMap_owners k m.transitions hm, transition?]
  cases SortedMap.get? k m.transitions <;> simp

theorem length_table {m : Merged} (hm : m.OwnersHoldKeys) : m.table.length = m.length := by
  rw [table, length, List.filterMap_length_eq_length]
  -- no stored key is dropped when its row is read through its owner
  rintro ⟨k, owner⟩ hp
  simpa using hm (k, owner) hp

/-- The keys the merge stores are the union of the rule-sets' table keys. -/
theorem mem_keys_transitions (R : List RuleSet) (k : Key) :
    k ∈ (ofRuleSets R).transitions.map Prod.fst ↔ ∃ r ∈ R, k ∈ r.table.map Prod.fst := by
  rw [← SortedMap.get?_isSome_iff_mem_keys, get?_transitions_ofRuleSets, List.find?_isSome]
  simp only [List.mem_reverse, SortedMap.get?_isSome_iff_mem_keys]

/-- What merging rule-sets gives: exactly their transition keys, each with the row of the last
rule-set that has it, as many rows as keys in the union; each bypass event with the last rule-set
that has it; and the graph and reachable states of that table. -/
structure Combines (m : Merged) (R : List RuleSet) : Prop where
  table_some : ∀ k row, SortedMap.get? k m.table = some row ↔
    ∃ A r B, R = A ++ r :: B ∧ SortedMap.get? k r.table = some row ∧
      ∀ r' ∈ B, SortedMap.get? k r'.table = none
  table_none : ∀ k, SortedMap.get? k m.table = none ↔ ∀ r ∈ R, SortedMap.get? k r.table = none
  length_table : m.length = m.table.length
  length_union : m.table.length = (R.flatMap fun r => r.table.map Prod.fst).toFinset.card
  transition_isSome : ∀ k, (m.transition? k).isSome ↔ ∃ r ∈ R, (SortedMap.get? k r.table).isSome
  bypass_some : ∀ e rid, SortedMap.get? e m.bypassMap = some rid ↔
    ∃ A r B, R = A ++ r :: B ∧ (SortedMap.get? e r.bypasses).isSome ∧
      (∀ r' ∈ B, SortedMap.get? e r'.bypasses = none) ∧ rid = r.id
  bypass_none : ∀ e, SortedMap.get? e m.bypassMap = none ↔ ∀ r ∈ R, SortedMap.get? e r.bypasses = none
  graph_eq : m.graph = m.table.graph
  reachable_eq : ∀ s, m.reachableFrom s = m.table.graph.reach s

theorem combines_ofRuleSets (R : List RuleSet) : (ofRuleSets R).Combines R := by
  have howners := ownersHoldKeys_ofRuleSets R
  have htable : ∀ k, SortedMap.get? k (ofRuleSets R).table = (lastRow R k).map Prod.snd := by
    intro k
    rw [get?_table howners, transition?_ofRuleSets]
  have hbypass : ∀ e, SortedMap.get? e (ofRuleSets R).bypassMap = (lastBypass R e).map RuleSet.id := by
    intro e
    rw [bypassMap, SortedMap.get?_map_values, ← bypass?_ofRuleSets]
    rfl
  have hnone : ∀ k, lastRow R k = none ↔ ∀ r ∈ R, SortedMap.get? k r.table = none := by
    intro k
    simp [lastRow]
  refine ⟨fun k row => ?_, fun k => ?_, (length_table howners).symm, ?_, fun k => ?_,
    fun e rid => ?_, fun e => ?_, rfl, fun _ => rfl⟩
  · rw [htable, Option.map_eq_some_iff]
    constructor
    · rintro ⟨⟨r, row'⟩, hlast, rfl⟩
      obtain ⟨A, B, hR, hrow, hB⟩ := lastRow_eq_some_iff.mp hlast
      exact ⟨A, r, B, hR, hrow, hB⟩
    · rintro ⟨A, r, B, hR, hrow, hB⟩
      exact ⟨(r, row), lastRow_eq_some_iff.mpr ⟨A, B, hR, hrow, hB⟩, rfl⟩
  · rw [htable, Option.map_eq_none_iff, hnone]
  · -- the stored keys are sorted, so without repeats, and they are the union
    rw [length_table howners, length, ← List.length_map Prod.fst,
      ← List.toFinset_card_of_nodup (sorted_transitions R).nodup_keys]
    congr 1
    ext k
    simp only [List.mem_toFinset, mem_keys_transitions, List.mem_flatMap]
  · rw [transition?_ofRuleSets, Option.isSome_iff_ne_none, Ne, hnone]
    simp [Option.isSome_iff_ne_none]
  · rw [hbypass, Option.map_eq_some_iff]
    constructor
    · rintro ⟨r, hlast, rfl⟩
      obtain ⟨A, B, hR, hr, hB⟩ := lastBypass_eq_some_iff.mp hlast
      exact ⟨A, r, B, hR, hr, hB, rfl⟩
    · rintro ⟨A, r, B, hR, hr, hB, rfl⟩
      exact ⟨r, lastBypass_eq_some_iff.mpr ⟨A, B, hR, hr, hB⟩, rfl⟩
  · rw [hbypass, Option.map_eq_none_iff, lastBypass, List.find?_eq_none]
    simp

/-- Compiled rule-sets whose key sets do not meet give a merged table as long as their tables
together. -/
theorem length_ofRuleSets_of_disjoint {R : List RuleSet} (hR : ∀ r ∈ R, r.Compiled)
    (hdisj : TablesDisjoint R) : (ofRuleSets R).length = (R.map fun r => r.table.length).sum := by
  rw [(combines_ofRuleSets R).length_table, (combines_ofRuleSets R).length_union]
  -- each table's keys are without repeats, and no two tables share one
  have hnodup : (R.flatMap fun r => r.table.map Prod.fst).Nodup := by
    refine List.nodup_flatMap.mpr ⟨fun r hr => (hR r hr).sorted_table.nodup_keys, ?_⟩
    refine hdisj.imp fun {a b} hab k hka hkb => ?_
    exact hab k ((SortedMap.get?_isSome_iff_mem_keys k a.table).mpr hka)
      ((SortedMap.get?_isSome_iff_mem_keys k b.table).mpr hkb)
  rw [List.toFinset_card_of_nodup hnodup, List.length_flatMap]
  simp

/-- Reordering rule-sets whose table keys and bypass events do not meet changes neither the
merged table nor the merged bypasses. -/
theorem ofRuleSets_perm {R R' : List RuleSet} (hperm : R.Perm R') (htables : TablesDisjoint R)
    (hbypasses : BypassesDisjoint R) :
    (ofRuleSets R').table = (ofRuleSets R).table ∧
      (ofRuleSets R').bypassMap = (ofRuleSets R).bypassMap := by
  -- every key has the same owner in both orders, and both merges are sorted
  have htrans : (ofRuleSets R').transitions = (ofRuleSets R).transitions := by
    refine SortedMap.eq_of_get?_eq (sorted_ofRuleSets R').1 (sorted_ofRuleSets R).1 fun k => ?_
    rw [get?_transitions_ofRuleSets, get?_transitions_ofRuleSets]
    exact (find?_reverse_eq_of_perm hperm (length_filter_le_one (htables.imp fun h => h k))).symm
  have hbyp : (ofRuleSets R').bypasses = (ofRuleSets R).bypasses := by
    refine SortedMap.eq_of_get?_eq (sorted_ofRuleSets R').2 (sorted_ofRuleSets R).2 fun e => ?_
    have hget : ∀ L : List RuleSet, SortedMap.get? e (ofRuleSets L).bypasses = lastBypass L e :=
      fun L => bypass?_ofRuleSets L e
    rw [hget, hget, lastBypass, lastBypass]
    exact (find?_reverse_eq_of_perm hperm (length_filter_le_one (hbypasses.imp fun h => h e))).symm
  exact ⟨by rw [table, htrans, ← table], by rw [bypassMap, hbyp, ← bypassMap]⟩

/-- The merged table of compiled rule-sets has exactly their transition keys, each with the row
of the last rule-set that has it, and as many rows as the union of their keys, which for key
sets that do not meet is the sum of their sizes; each bypass event goes to the last rule-set
that has one; its graph and reachable states are those of that table; and reordering rule-sets
whose keys and bypass events do not meet changes neither the table nor the bypasses. -/
theorem ofRuleSets_combines (R : List RuleSet) (hR : ∀ r ∈ R, r.Compiled) :
    (ofRuleSets R).Combines R ∧
      (TablesDisjoint R → (ofRuleSets R).length = (R.map fun r => r.table.length).sum) ∧
      (∀ R', R.Perm R' → TablesDisjoint R → BypassesDisjoint R →
        (ofRuleSets R').table = (ofRuleSets R).table ∧
          (ofRuleSets R').bypassMap = (ofRuleSets R).bypassMap) :=
  ⟨combines_ofRuleSets R, length_ofRuleSets_of_disjoint hR,
    fun _ hperm htables hbypasses => ofRuleSets_perm hperm htables hbypasses⟩

end Merged

namespace Chain

/-- `s1` and `s2` go on. -/
def firstDeclarations : List Declaration :=
  [Declaration.simple "s1" "go" "s2", Declaration.simple "s2" "go" "s3"]

/-- `s3` goes back to `s1`. -/
def secondDeclarations : List Declaration := [Declaration.simple "s3" "go" "s1"]

/-- Rule-set `a`. -/
def first : RuleSet :=
  match RuleSet.compile "a" firstDeclarations {} with
  | .ok rs => rs
  | .error _ => RuleSet.empty "a"

/-- Rule-set `b`. -/
def second : RuleSet :=
  match RuleSet.compile "b" secondDeclarations {} with
  | .ok rs => rs
  | .error _ => RuleSet.empty "b"

end Chain

theorem chain_merge_combines :
    (∀ r ∈ [Chain.first, Chain.second], r.Compiled) ∧
      (Merged.ofRuleSets [Chain.first, Chain.second]).Combines [Chain.first, Chain.second] ∧
      (TablesDisjoint [Chain.first, Chain.second] →
        (Merged.ofRuleSets [Chain.first, Chain.second]).length =
          ([Chain.first, Chain.second].map fun r => r.table.length).sum) ∧
      (∀ R', [Chain.first, Chain.second].Perm R' → TablesDisjoint [Chain.first, Chain.second] →
        BypassesDisjoint [Chain.first, Chain.second] →
        (Merged.ofRuleSets R').table = (Merged.ofRuleSets [Chain.first, Chain.second]).table ∧
          (Merged.ofRuleSets R').bypassMap =
            (Merged.ofRuleSets [Chain.first, Chain.second]).bypassMap) := by
  have hcompiled : ∀ r ∈ [Chain.first, Chain.second], r.Compiled := by
    intro r hr
    rcases List.mem_pair.mp hr with rfl | rfl
    · exact ⟨"a", Chain.firstDeclarations, {}, rfl⟩
    · exact ⟨"b", Chain.secondDeclarations, {}, rfl⟩
  exact ⟨hcompiled, Merged.ofRuleSets_combines _ hcompiled⟩

/-- Two rule-sets with three keys between them merge into three rows. -/
example : (Merged.ofRuleSets [Chain.first, Chain.second]).length = 3 := by decide

end RuleMachine
