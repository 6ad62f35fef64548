import RuleMachine.Event
import RuleMachine.Sorted
/-!
# Laws of sorted maps and sets

The tables of the machine are sorted lists (`SortedMap`, `SortedSet`), searched and written by
comparing keys. Everything later proofs need from them is said here once, for any key type whose
comparison answers `eq` exactly on equal keys (`Std.LawfulEqOrd`): state and event names,
events, and transition keys all are such types.

* a key read after a write reads the value written, and every other key reads what it read
  before (`SortedMap.get?_insert`); no sortedness is needed for this, only that comparing
  a key with itself answers `eq`;
* a key that reads a value has it in the list (`SortedMap.mem_of_get?_eq_some`), and a key
  reads some value exactly when it is one of the keys (`SortedMap.get?_isSome_iff_mem_keys`);
* a set holds a key after an insert exactly when it is the inserted key or was held before,
  and a union holds the keys of both sides (`SortedSet.mem_insert`, `SortedSet.mem_union`);
* a map cut down to some keys (`SortedMap.restrict`) reads through them what it read before and
  nothing elsewhere (`SortedMap.get?_restrict`), and a write to a key that is cut away is lost
  (`SortedMap.restrict_insert_of_not_mem`); a write to a new key adds it to the keys
  (`SortedMap.perm_keys_insert`).
-/

namespace RuleMachine

instance : Std.LawfulEqOrd Event where
  compare_self {a} := by
    cases a with
    | named n =>
      show compare n n = .eq
      exact Std.ReflCmp.compare_self
    | any => rfl
  eq_of_compare {a b} h := by
    cases a with
    | named m =>
      cases b with
      | named n => exact congrArg Event.named (Std.LawfulEqOrd.eq_of_compare h)
      | any => cases h
    | any =>
      cases b with
      | named n => cases h
      | any => rfl

-- A key compares by state, then by event, so it compares `eq` when both parts do.
instance : Std.LawfulEqOrd Key where
  compare_self {a} := by
    show (compare a.state a.state).then (compare a.event a.event) = .eq
    simp
  eq_of_compare {a b} h := by
    have hparts : (compare a.state b.state).then (compare a.event b.event) = .eq := h
    obtain ⟨hs, he⟩ := Ordering.then_eq_eq.mp hparts
    cases a
    cases b
    simp_all

namespace SortedMap

variable {κ α : Type} [Ord κ] [Std.LawfulEqOrd κ] [DecidableEq κ]

/-- A key read after a write reads the value written; every other key reads what it read
before. -/
theorem get?_insert (k k' : κ) (v : α) (m : List (κ × α)) :
    get? k (insert k' v m) = if k = k' then some v else get? k m := by
  induction m with
  | nil => simp [insert, get?]
  | cons p rest ih =>
    obtain ⟨k'', v''⟩ := p
    simp only [insert]
    split
    · simp [get?]
    · rename_i heq
      obtain rfl : k' = k'' := Std.LawfulEqOrd.eq_of_compare heq
      by_cases hk : k = k' <;> simp [get?, hk]
    · rename_i hgt
      by_cases hk : k = k''
      · subst hk
        -- the written key compared `gt` with `k`, so it is not `k`
        have hne : k ≠ k' := by
          rintro rfl
          simp at hgt
        simp [get?, hne]
      · simp [get?, hk, ih]

/-- A key that reads a value has it in the list. -/
theorem mem_of_get?_eq_some {k : κ} {v : α} {m : List (κ × α)} (h : get? k m = some v) :
    (k, v) ∈ m := by
  induction m with
  | nil => cases h
  | cons p rest ih =>
    obtain ⟨k', v'⟩ := p
    by_cases hk : k = k'
    · subst hk
      simp only [get?, Std.LawfulEqOrd.compare_beq_iff_eq, if_true, Option.some.injEq] at h
      subst h
      exact List.mem_cons_self
    · simp only [get?, Std.LawfulEqOrd.compare_beq_iff_eq, hk, if_false] at h
      exact List.mem_cons_of_mem _ (ih h)

/-- A key reads a value exactly when it is one of the map's keys. -/
theorem get?_isSome_iff_mem_keys (k : κ) (m : List (κ × α)) :
    (get? k m).isSome ↔ k ∈ m.map Prod.fst := by
  induction m with
  | nil => simp [get?]
  | cons p rest ih =>
    obtain ⟨k', v⟩ := p
    by_cases hk : k = k' <;> simp [get?, hk, ih]

/-- Changing every value changes what each key reads the same way. -/
theorem get?_map_values {β : Type} (f : α → β) (k : κ) (m : List (κ × α)) :
    get? k (m.map fun p => (p.1, f p.2)) = (get? k m).map f := by
  induction m with
  | nil => rfl
  | cons p rest ih =>
    obtain ⟨k', v⟩ := p
    by_cases hk : k = k' <;> simp [get?, hk, ih]

end SortedMap

namespace SortedSet

variable {κ : Type} [Ord κ] [Std.LawfulEqOrd κ]

/-- An insert adds its key and keeps every other. -/
@[simp]
theorem mem_insert (x k : κ) (s : List κ) : x ∈ insert k s ↔ x = k ∨ x ∈ s := by
  induction s with
  | nil => simp [insert]
  | cons k' rest ih =>
    simp only [insert]
    split
    · simp
    · rename_i heq
      obtain rfl : k = k' := Std.LawfulEqOrd.eq_of_compare heq
      simp
    · simp only [List.mem_cons, ih]
      exact or_left_comm

/-- A union holds the keys of both sides. -/
@[simp]
theorem mem_union (x : κ) (a b : List κ) : x ∈ union a b ↔ x ∈ a ∨ x ∈ b := by
  induction b generalizing a with
  | nil => simp [union]
  | cons k rest ih =>
    simp only [union, List.foldl_cons] at ih ⊢
    rw [ih, mem_insert, List.mem_cons, or_assoc, or_left_comm]

/-- The set of a list holds exactly its keys. -/
@[simp]
theorem mem_ofList (x : κ) (keys : List κ) : x ∈ ofList keys ↔ x ∈ keys := by
  show x ∈ union [] keys ↔ x ∈ keys
  simp

/-- The search of a set answers whether it holds the key. -/
@[simp]
theorem contains_iff (k : κ) (s : List κ) : contains k s = true ↔ k ∈ s := by
  induction s with
  | nil => simp [contains]
  | cons k' rest ih => simp [contains, ih]

end SortedSet

namespace SortedMap

section Restrict

variable {κ α : Type} [DecidableEq κ]

/-- The map cut down to the keys among `keys`. -/
def restrict (keys : List κ) (m : List (κ × α)) : List (κ × α) := m.filter fun p => p.1 ∈ keys

theorem keys_restrict (keys : List κ) (m : List (κ × α)) :
    (restrict keys m).map Prod.fst = (m.map Prod.fst).filter (· ∈ keys) := by
  rw [restrict, List.filter_map]
  rfl

/-- Cutting down to fewer keys after more is cutting down to the fewer. -/
theorem restrict_restrict {keys keys' : List κ} (h : ∀ k ∈ keys, k ∈ keys')
    (m : List (κ × α)) : restrict keys (restrict keys' m) = restrict keys m := by
  simp only [restrict, List.filter_filter]
  congr 1
  funext p
  by_cases hp : p.1 ∈ keys <;> simp [hp, h]

theorem restrict_eq_self {keys : List κ} {m : List (κ × α)}
    (h : ∀ k ∈ m.map Prod.fst, k ∈ keys) : restrict keys m = m := by
  rw [restrict, List.filter_eq_self]
  intro p hp
  simpa using h p.1 (List.mem_map_of_mem hp)

variable [Ord κ] [Std.LawfulEqOrd κ]

/-- A kept key reads through the cut map what it read before; every other key reads nothing. -/
theorem get?_restrict (keys : List κ) (k : κ) (m : List (κ × α)) :
    get? k (restrict keys m) = if k ∈ keys then get? k m else none := by
  induction m with
  | nil => simp [restrict, get?]
  | cons p rest ih =>
    obtain ⟨k', v⟩ := p
    simp only [restrict] at ih ⊢
    by_cases hk' : k' ∈ keys <;> by_cases hk : k = k' <;> simp_all [get?]

/-- A write to a key that is cut away does not show in the cut map. -/
theorem restrict_insert_of_not_mem {keys : List κ} {k : κ} (hk : k ∉ keys) (v : α)
    (m : List (κ × α)) : restrict keys (insert k v m) = restrict keys m := by
  induction m with
  | nil => simp [restrict, insert, hk]
  | cons p rest ih =>
    obtain ⟨k', v'⟩ := p
    simp only [insert]
    split
    · simp [restrict, hk]
    · rename_i heq
      obtain rfl : k = k' := Std.LawfulEqOrd.eq_of_compare heq
      simp [restrict, hk]
    · simp only [restrict, List.filter_cons] at ih ⊢
      rw [ih]

end Restrict

variable {κ α : Type} [Ord κ] [Std.LawfulEqOrd κ]

/-- A write to a key the map does not have adds the key to the others. -/
theorem perm_keys_insert {k : κ} {m : List (κ × α)} (hk : k ∉ m.map Prod.fst) (v : α) :
    ((insert k v m).map Prod.fst).Perm (k :: m.map Prod.fst) := by
  induction m with
  | nil => simp [insert]
  | cons p rest ih =>
    obtain ⟨k', v'⟩ := p
    simp only [List.map_cons, List.mem_cons, not_or] at hk
    simp only [insert]
    split
    · simp
    · rename_i heq
      exact absurd (Std.LawfulEqOrd.eq_of_compare heq) hk.1
    · simp only [List.map_cons]
      -- the key goes further in: it is added after the head
      exact ((ih hk.2).cons k').trans (List.Perm.swap k k' _)

end SortedMap

end RuleMachine
