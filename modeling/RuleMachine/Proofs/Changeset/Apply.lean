import RuleMachine.Value.Changeset
/-!
# Applying a changeset

Applying a changeset gives the record that reads as the changeset did
(`Changeset.apply_reads_as_staged`):

* every field reads its staged value when it has one and the record's value otherwise
  (`Changeset.get?_apply`);
* the kind, and with it the governing rule-sets, stays (`Changeset.kind_apply`);
* the state reads the same: the same name, or the same error (`Changeset.stateName_apply`);
* so a changeset whose state was staged applies to a record in that state.

Everything rests on one fact about writing fields: a field written last reads the value
written, and every other field reads what it read before (`Record.get?_withField`). Applying
writes the staged values in field order, each field once: a changeset keeps its staged values
sorted by field (`Changeset.sorted`), so no staged value is overwritten by a later one
(`Record.get?_foldl_withField`).
-/

namespace RuleMachine

namespace Json.Members

/-- A key that reads a value has a member with it. -/
theorem mem_of_get? {key : String} {value : Json} :
    ∀ {ms : Members}, get? key ms = some value → (key, value) ∈ ms
  | [], h => by simp [get?] at h
  | (k, v) :: rest, h => by
    simp only [get?] at h
    split at h
    · rename_i hk
      cases h
      simp [hk]
    · exact List.mem_cons_of_mem _ (mem_of_get? h)

/-- A key that is not among the members reads nothing. -/
theorem get?_eq_none_of_not_mem {key : String} {ms : Members} (h : key ∉ ms.map Prod.fst) :
    get? key ms = none := by
  cases hget : get? key ms with
  | none => rfl
  | some v => exact absurd (List.mem_map_of_mem (f := Prod.fst) (mem_of_get? hget)) h

/-- Sorted members have each key once. -/
theorem Sorted.nodup_keys {ms : Members} (h : Sorted ms) : (ms.map Prod.fst).Nodup := by
  apply List.pairwise_map.mpr
  exact h.imp fun hlt => String.ne_of_lt hlt

end Json.Members

namespace Record

/-- A written field reads the value written; every other field reads what it read before. -/
theorem get?_withField (r : Record) (field f : String) (value : Json) :
    (r.withField field value).get? f = if field = f then some value else r.get? f :=
  Json.Members.get?_insert field f value r.fields

/-- Writing distinct fields one after another leaves every field reading the value written to
it, or what it read before when none is written. (Of two writes to one field the later would
win, so the fields written must be distinct for the first of them to be read.) -/
theorem get?_foldl_withField (r : Record) {ms : Json.Members} (hms : (ms.map Prod.fst).Nodup)
    (f : String) :
    (ms.foldl (fun r p => r.withField p.1 p.2) r).get? f =
      match Json.Members.get? f ms with
      | some v => some v
      | none => r.get? f := by
  induction ms generalizing r with
  | nil => rfl
  | cons p rest ih =>
    obtain ⟨k, v⟩ := p
    obtain ⟨hk, hrest⟩ := List.nodup_cons.mp hms
    rw [List.foldl_cons, ih _ hrest, get?_withField]
    by_cases hkf : k = f
    · -- `f` is written here and by no later member
      subst hkf
      have hnone : Json.Members.get? k rest = none := Json.Members.get?_eq_none_of_not_mem hk
      simp [Json.Members.get?, hnone]
    · simp [Json.Members.get?, hkf]

/-- Writing fields keeps the kind. -/
theorem kind_foldl_withField (r : Record) (ms : Json.Members) :
    (ms.foldl (fun r p => r.withField p.1 p.2) r).kind = r.kind := by
  induction ms generalizing r with
  | nil => rfl
  | cons p rest ih => exact ih _

end Record

namespace Changeset

/-- The applied record reads every field as the changeset does. -/
theorem get?_apply (c : Changeset) (f : String) : c.apply.get? f = c.get? f := by
  rw [apply, Record.get?_foldl_withField _ c.sorted.nodup_keys]
  rfl

/-- The applied record keeps the kind of the changeset's record. -/
theorem kind_apply (c : Changeset) : c.apply.kind = c.data.kind :=
  Record.kind_foldl_withField c.data c.changes

/-- The applied record reads the same state as the changeset: the same name or the same
error. -/
theorem stateName_apply (c : Changeset) : c.apply.stateName = c.stateName := by
  rw [Record.stateName, kind_apply, get?_apply, stateName, get?]
  cases Json.Members.get? c.data.kind.stateField c.changes <;> rfl

/-- A changeset whose state was staged is in that state. -/
theorem stateName_withStateName (c : Changeset) (name : StateName) :
    (c.withStateName name).stateName = .ok name := by
  simp [withStateName, change, stateName, Json.Members.get?_insert, RecordKind.readState]

/-- Applying a changeset gives the record that reads as the changeset: each field reads its
staged value or else the record's, the kind and the rule-sets stay, the state reads the same,
and a changeset whose state was staged applies to a record in that state. -/
theorem apply_reads_as_staged (c : Changeset) :
    (∀ f, c.apply.get? f = c.get? f) ∧ c.apply.kind = c.data.kind ∧
      c.apply.ruleSets = c.ruleSets ∧ c.apply.stateName = c.stateName ∧
      ∀ name, (c.withStateName name).apply.stateName = .ok name :=
  ⟨get?_apply c, kind_apply c, by rw [Record.ruleSets, kind_apply]; rfl, stateName_apply c,
    fun name => (stateName_apply _).trans (stateName_withStateName c name)⟩

end Changeset

end RuleMachine
