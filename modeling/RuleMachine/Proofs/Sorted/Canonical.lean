import RuleMachine.Proofs.Sorted
/-!
# Sorted maps and sets are canonical

A map or set built only by `insert` is strictly increasing in its keys (`SortedMap.Sorted`,
`SortedSet.Sorted`), and a strictly increasing list is determined by what it holds: two sorted
sets with the same members are the same list (`SortedSet.eq_of_mem_iff`), and two sorted maps
that read alike at every key are the same list (`SortedMap.eq_of_get?_eq`). So a table or a set
of states is equal to any other built from the same contents, whatever the order of the writes;
this is what makes the union of two sets of states the set of their joined lists
(`SortedSet.union_ofList`), and a permutation of disjoint writers leave a merged table as it is.

Everything holds for any key type whose comparison is a lawful total order (`Std.TransOrd`,
`Std.LawfulEqOrd`): strings by their code points, events with the wildcard last, transition keys
by state and then event.
-/

namespace RuleMachine

-- The wildcard comes after every named event; named events compare as their names.
instance : Std.TransOrd Event where
  eq_swap {a b} := by
    cases a with
    | named m =>
      cases b with
      | named n => exact Std.OrientedOrd.eq_swap (α := String)
      | any => rfl
    | any =>
      cases b with
      | named n => rfl
      | any => rfl
  isLE_trans {a b c} hab hbc := by
    cases a with
    | named l =>
      cases b with
      | named m =>
        cases c with
        | named n => exact Std.TransOrd.isLE_trans (α := String) hab hbc
        | any => rfl
      | any =>
        cases c with
        | named n => cases hbc
        | any => rfl
    | any =>
      cases b with
      | named m => cases hab
      | any => exact hbc

-- Keys compare lexicographically: by state, then by event.
instance : Std.TransOrd Key :=
  inferInstanceAs (Std.TransCmp (compareLex (compareOn Key.state) (compareOn Key.event)))

namespace SortedSet

variable {κ : Type} [Ord κ]

/-- A set whose keys are strictly increasing. -/
def Sorted (s : List κ) : Prop := s.Pairwise fun a b => compare a b = .lt

variable [Std.LawfulEqOrd κ]

theorem Sorted.nodup {s : List κ} (h : Sorted s) : s.Nodup :=
  h.imp fun {a b} hab heq => by
    subst heq
    simp at hab

variable [Std.TransOrd κ]

theorem Sorted.insert (k : κ) {s : List κ} (h : Sorted s) : Sorted (insert k s) := by
  induction s with
  | nil => exact List.pairwise_singleton _ k
  | cons k' rest ih =>
    have hhead := List.pairwise_cons.mp h
    simp only [SortedSet.insert]
    split
    · rename_i hlt
      refine List.Pairwise.cons (fun x hx => ?_) h
      rcases List.mem_cons.mp hx with rfl | hrest
      · exact hlt
      · exact Std.TransCmp.lt_trans hlt (hhead.1 x hrest)
    · rename_i heq
      obtain rfl : k = k' := Std.LawfulEqOrd.eq_of_compare heq
      exact h
    · rename_i hgt
      -- the new key goes after `k'`, which stays before everything
      refine List.Pairwise.cons (fun x hx => ?_) (ih hhead.2)
      rcases (mem_insert x k rest).mp hx with rfl | hrest
      · exact Std.OrientedCmp.lt_of_gt hgt
      · exact hhead.1 x hrest

theorem Sorted.union {a : List κ} (ha : Sorted a) (b : List κ) : Sorted (union a b) := by
  induction b generalizing a with
  | nil => exact ha
  | cons k rest ih => exact ih (ha.insert k)

theorem sorted_ofList (keys : List κ) : Sorted (ofList keys) :=
  Sorted.union List.Pairwise.nil keys

/-- Two sorted sets with the same members are the same list. -/
theorem eq_of_mem_iff {a b : List κ} (ha : Sorted a) (hb : Sorted b) (h : ∀ x, x ∈ a ↔ x ∈ b) :
    a = b := by
  refine List.Perm.eq_of_pairwise
    (fun x y _ _ (hxy : compare x y = .lt) hyx => absurd hyx (Std.OrientedCmp.not_lt_of_lt hxy))
    ha hb ?_
  exact (List.perm_ext_iff_of_nodup ha.nodup hb.nodup).mpr h

/-- The union of the sets of two lists is the set of the joined list. -/
theorem union_ofList (a b : List κ) : union (ofList a) (ofList b) = ofList (a ++ b) :=
  eq_of_mem_iff ((sorted_ofList a).union _) (sorted_ofList _) fun x => by simp

end SortedSet

namespace SortedMap

variable {κ α : Type} [Ord κ]

/-- A map whose keys are strictly increasing. -/
def Sorted (m : List (κ × α)) : Prop := m.Pairwise fun p q => compare p.1 q.1 = .lt

theorem Sorted.restrict [DecidableEq κ] (keys : List κ) {m : List (κ × α)} (h : Sorted m) :
    Sorted (restrict keys m) :=
  h.filter _

/-- A pair of an insert is the pair written or one that was there. -/
theorem mem_insert_cases {k : κ} {v : α} {m : List (κ × α)} {p : κ × α}
    (h : p ∈ insert k v m) : p = (k, v) ∨ p ∈ m := by
  induction m with
  | nil => exact .inl (List.mem_singleton.mp h)
  | cons q rest ih =>
    simp only [insert] at h
    split at h
    · simpa using h
    · rcases List.mem_cons.mp h with rfl | hrest
      · exact .inl rfl
      · exact .inr (List.mem_cons_of_mem _ hrest)
    · rcases List.mem_cons.mp h with rfl | hrest
      · exact .inr List.mem_cons_self
      · exact (ih hrest).imp_right (List.mem_cons_of_mem _)

variable [Std.LawfulEqOrd κ]

theorem Sorted.nodup {m : List (κ × α)} (h : Sorted m) : m.Nodup :=
  h.imp fun {p q} hpq heq => by
    subst heq
    simp at hpq

theorem Sorted.nodup_keys {m : List (κ × α)} (h : Sorted m) : (m.map Prod.fst).Nodup := by
  refine List.pairwise_map.mpr (h.imp fun {p q} hpq heq => ?_)
  rw [heq] at hpq
  simp at hpq

/-- In a sorted map a pair is held exactly when its key reads its value. -/
theorem Sorted.mem_iff_get? [DecidableEq κ] {m : List (κ × α)} (h : Sorted m) {k : κ} {v : α} :
    (k, v) ∈ m ↔ get? k m = some v := by
  refine ⟨fun hmem => ?_, mem_of_get?_eq_some⟩
  induction m with
  | nil => cases hmem
  | cons q rest ih =>
    obtain ⟨k', v'⟩ := q
    have hhead := List.pairwise_cons.mp h
    rcases List.mem_cons.mp hmem with hq | hrest
    · cases hq
      simp [get?]
    · -- a later key is above `k'`, so it is not `k'`
      have hne : k ≠ k' := by
        rintro rfl
        simpa using hhead.1 (k, v) hrest
      simpa [get?, hne] using ih hhead.2 hrest

variable [Std.TransOrd κ]

theorem Sorted.insert (k : κ) (v : α) {m : List (κ × α)} (h : Sorted m) :
    Sorted (insert k v m) := by
  induction m with
  | nil => exact List.pairwise_singleton _ (k, v)
  | cons q rest ih =>
    obtain ⟨k', v'⟩ := q
    have hhead := List.pairwise_cons.mp h
    simp only [SortedMap.insert]
    split
    · rename_i hlt
      refine List.Pairwise.cons (fun p hp => ?_) h
      rcases List.mem_cons.mp hp with rfl | hrest
      · exact hlt
      · exact Std.TransCmp.lt_trans hlt (hhead.1 p hrest)
    · rename_i heq
      obtain rfl : k = k' := Std.LawfulEqOrd.eq_of_compare heq
      exact List.Pairwise.cons hhead.1 hhead.2
    · rename_i hgt
      refine List.Pairwise.cons (fun p hp => ?_) (ih hhead.2)
      rcases mem_insert_cases hp with rfl | hrest
      · exact Std.OrientedCmp.lt_of_gt hgt
      · exact hhead.1 p hrest

/-- Two sorted maps that read alike at every key are the same list. -/
theorem eq_of_get?_eq [DecidableEq κ] {m m' : List (κ × α)} (hm : Sorted m) (hm' : Sorted m')
    (h : ∀ k, get? k m = get? k m') : m = m' := by
  refine List.Perm.eq_of_pairwise
    (fun p q _ _ (hpq : compare p.1 q.1 = .lt) hqp => absurd hqp (Std.OrientedCmp.not_lt_of_lt hpq))
    hm hm' ?_
  refine (List.perm_ext_iff_of_nodup hm.nodup hm'.nodup).mpr fun p => ?_
  rw [hm.mem_iff_get?, hm'.mem_iff_get?, h]

end SortedMap

end RuleMachine
