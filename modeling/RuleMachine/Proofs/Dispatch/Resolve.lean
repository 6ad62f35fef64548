import RuleMachine.Dispatch.Run
import RuleMachine.RuleSet.Compile
import RuleMachine.Proofs.Sorted
/-!
# Which rule answers an event

The merged table of several rule-sets is built by letting each rule-set in turn claim its keys,
and a handler is then found by three lookups in it. Read off the list of rule-sets instead, the
handler of an event `e` in a state `s` is (`chooseHandler`):

* the transition on `(s, e)` of the last rule-set whose table has that key;
* failing that, the wildcard transition of `s` of the last rule-set that has one;
* failing that, the bypass on `e` of the last rule-set that has one;
* and otherwise none, which dispatch refuses as an illegal action.

Each level is decided by the whole list before the next is looked at, so an exact transition in
an early rule-set wins over a wildcard in a later one, and any transition over any bypass
(`Merged.resolve_ofRuleSets`, `Subject.resolve_chooses_handler`).

The one fact under all of it: a key of the merged table is owned by the last rule-set that has
it (`Merged.get?_transitions_ofRuleSets`, `Merged.bypass?_ofRuleSets`).

Once a handler is found, dispatch is settling its body's answer (`dispatch_eq_settle`), and a
settled answer that succeeds is one of three things (`Reply.settle_eq_ok`): a kept value still in
the dispatched state, a plan composed with the value, or a value moved to the named state.
-/

namespace RuleMachine

/-- The last of the rule-sets whose table has a row under the key, with that row. -/
def lastRow (R : List RuleSet) (k : Key) : Option (RuleSet × Row) :=
  R.reverse.findSome? fun rs => (SortedMap.get? k rs.table).map (rs, ·)

/-- The last of the rule-sets with a bypass on the event. -/
def lastBypass (R : List RuleSet) (e : EventName) : Option RuleSet :=
  R.reverse.find? fun rs => (SortedMap.get? e rs.bypasses).isSome

/-- The handler the rule-sets give the event in the state: the exact transition of the last
rule-set that has one, else the wildcard transition of the last that has one, else the bypass of
the last that has one. -/
def chooseHandler (R : List RuleSet) (s : StateName) (e : EventName) : Option Handler :=
  match lastRow R ⟨s, .named e⟩ with
  | some (rs, row) => some (.transition rs s (.named e) row.destinations)
  | none =>
    match lastRow R ⟨s, .any⟩ with
    | some (rs, row) => some (.transition rs s .any row.destinations)
    | none => (lastBypass R e).map fun rs => .bypass rs e

/-- The last rule-set with a row under a key is the one after which no rule-set has the key. -/
theorem lastRow_eq_some_iff {R : List RuleSet} {k : Key} {rs : RuleSet} {row : Row} :
    lastRow R k = some (rs, row) ↔
      ∃ A B, R = A ++ rs :: B ∧ SortedMap.get? k rs.table = some row ∧
        ∀ r ∈ B, SortedMap.get? k r.table = none := by
  rw [lastRow, List.findSome?_eq_some_iff]
  constructor
  · rintro ⟨l₁, a, l₂, hR, ha, hl₁⟩
    obtain ⟨row', hrow', hpair⟩ := Option.map_eq_some_iff.mp ha
    cases hpair
    refine ⟨l₂.reverse, l₁.reverse, ?_, hrow', fun r hr => ?_⟩
    · simpa using congrArg List.reverse hR
    · simpa using hl₁ r (List.mem_reverse.mp hr)
  · rintro ⟨A, B, rfl, hrow, hB⟩
    refine ⟨B.reverse, rs, A.reverse, by simp, by simp [hrow], fun r hr => ?_⟩
    simp [hB r (List.mem_reverse.mp hr)]

namespace SortedMap

variable {κ α β : Type} [Ord κ] [Std.LawfulEqOrd κ] [DecidableEq κ]

/-- Writing one value under every key of a list: a key of the list reads that value, any
other key what it read before. -/
theorem get?_foldl_insert_keys (k : κ) (x : α) (l : List (κ × β)) (m : List (κ × α)) :
    get? k (l.foldl (fun t p => insert p.1 x t) m) =
      if (get? k l).isSome then some x else get? k m := by
  induction l generalizing m with
  | nil => simp [get?]
  | cons p rest ih =>
    obtain ⟨k', y⟩ := p
    rw [List.foldl_cons, ih, get?_insert]
    by_cases hk : k = k' <;> simp [get?, hk]

end SortedMap

namespace Merged

/-- One rule-set claiming its keys and bypass events in a merged table. -/
def claim (m : Merged) (rs : RuleSet) : Merged where
  transitions := rs.table.foldl (fun t p => SortedMap.insert p.1 rs t) m.transitions
  bypasses := rs.bypasses.foldl (fun b p => SortedMap.insert p.1 rs b) m.bypasses

theorem ofRuleSets_eq_foldl_claim (R : List RuleSet) : ofRuleSets R = R.foldl claim ⟨[], []⟩ := rfl

/-- Rule-sets claiming one after another the keys of `keys rs` in the part `field` of a merged
table: a key ends with the last of them that has it, else keeps the owner it had. -/
theorem get?_foldl_claim {κ β : Type} [Ord κ] [Std.LawfulEqOrd κ] [DecidableEq κ]
    (field : Merged → List (κ × RuleSet)) (keys : RuleSet → List (κ × β))
    (hclaim : ∀ m rs, field (claim m rs) =
      (keys rs).foldl (fun t p => SortedMap.insert p.1 rs t) (field m))
    (k : κ) (R : List RuleSet) (m : Merged) :
    SortedMap.get? k (field (R.foldl claim m)) =
      (R.reverse.find? fun rs => (SortedMap.get? k (keys rs)).isSome).or
        (SortedMap.get? k (field m)) := by
  induction R generalizing m with
  | nil => simp
  | cons rs rest ih =>
    -- the later rule-sets are searched first; `rs` decides only the keys they leave alone
    rw [List.foldl_cons, ih, List.reverse_cons, List.find?_append, Option.or_assoc]
    congr 1
    simp only [hclaim, SortedMap.get?_foldl_insert_keys, List.find?_singleton]
    split <;> simp_all

/-- A key of the merged table is owned by the last rule-set whose table has it. -/
theorem get?_transitions_ofRuleSets (R : List RuleSet) (k : Key) :
    SortedMap.get? k (ofRuleSets R).transitions =
      R.reverse.find? fun rs => (SortedMap.get? k rs.table).isSome := by
  rw [ofRuleSets_eq_foldl_claim,
    get?_foldl_claim Merged.transitions RuleSet.table (fun _ _ => rfl)]
  simp [SortedMap.get?]

/-- A bypass event of the merged table is owned by the last rule-set with a bypass on it. -/
theorem bypass?_ofRuleSets (R : List RuleSet) (e : EventName) :
    (ofRuleSets R).bypass? e = lastBypass R e := by
  rw [bypass?, ofRuleSets_eq_foldl_claim,
    get?_foldl_claim Merged.bypasses RuleSet.bypasses (fun _ _ => rfl), lastBypass]
  simp [SortedMap.get?]

/-- The first rule-set with a result, and its result, in one search. -/
private theorem find?_isSome_bind {γ : Type} (f : RuleSet → Option γ) (l : List RuleSet) :
    (l.find? fun rs => (f rs).isSome).bind f = l.findSome? f := by
  induction l with
  | nil => rfl
  | cons rs rest ih =>
    cases h : f rs with
    | none => simp [h, ih]
    | some y => simp [h]

/-- The merged table answers a key with the last rule-set that has it, and its row there. -/
theorem transition?_ofRuleSets (R : List RuleSet) (k : Key) :
    (ofRuleSets R).transition? k = lastRow R k := by
  rw [lastRow, ← find?_isSome_bind]
  simp only [transition?, get?_transitions_ofRuleSets, Option.isSome_map]
  cases R.reverse.find? fun rs => (SortedMap.get? k rs.table).isSome <;> rfl

/-- Resolving in the merged table is choosing off the list of rule-sets. -/
theorem resolve_ofRuleSets (R : List RuleSet) (s : StateName) (e : EventName) :
    (ofRuleSets R).resolve s e = chooseHandler R s e := by
  -- read the choice back as lookups in the merged table, then both sides are one match
  unfold chooseHandler
  rw [← transition?_ofRuleSets, ← transition?_ofRuleSets, ← bypass?_ofRuleSets]
  rfl

end Merged

namespace Subject

/-- On a value in state `s`, the handler of an event is the one chosen off the value's
rule-sets, its doc is that handler's doc, and when there is none, dispatch refuses the event as
illegal in `s` (unless the value is a changeset with errors, handed back before any lookup). -/
theorem resolve_chooses_handler (cat : Catalog) (v : Subject) {s : StateName}
    (hs : v.stateName = .ok s) (e : EventName) (params : Json) :
    v.resolve cat e = .ok (chooseHandler (cat.resolve v.ruleSets) s e) ∧
      v.describe cat e = .ok ((chooseHandler (cat.resolve v.ruleSets) s e).bind Handler.doc?) ∧
      (chooseHandler (cat.resolve v.ruleSets) s e = none → v.isInvalidChangeset = false →
        dispatch cat v e params = .refused (.illegalAction s e)) := by
  have hres : v.resolve cat e = .ok (chooseHandler (cat.resolve v.ruleSets) s e) := by
    simp [resolve, hs, merged, Merged.resolve_ofRuleSets, Except.map]
  refine ⟨hres, by simp [describe, hres, Except.map], ?_⟩
  intro hnone hvalid
  have hmerged : (v.merged cat).resolve s e = none := by
    rw [merged, Merged.resolve_ofRuleSets, hnone]
  simp [dispatch, dispatchNoted, hvalid, hs, hmerged]

end Subject

namespace Lock

/-- A rule-set compiled from declarations, or the empty one when they have faults. -/
def compiled (id : RuleSetId) (decls : List Declaration) : RuleSet :=
  match RuleSet.compile id decls {} with
  | .ok rs => rs
  | .error _ => RuleSet.empty id

/-- Three rule-sets on a lock: an exact transition on `c`, a wildcard that keeps the lock, and
a bypass on `c`. -/
def catalog : Catalog :=
  [compiled "exact" [Declaration.simple "locked" "c" "open"],
   compiled "wildcard"
    [.transition { state := some "locked", event := some .any, body := some (.keep none) }],
   compiled "bypass" [.bypass { event := some "c", body := some (.next "locked" none) }]]

/-- A lock in state `locked`, governed by the three rule-sets in order. -/
def locked : Subject :=
  .record ⟨⟨"lock", "state", [⟨0, "exact"⟩, ⟨1, "wildcard"⟩, ⟨2, "bypass"⟩]⟩,
    [("state", .string "locked")], by decide⟩

end Lock

theorem locked_lock_resolves_by_level :
    Lock.locked.stateName = .ok "locked" ∧
      Lock.locked.resolve Lock.catalog "c" =
        .ok (chooseHandler (Lock.catalog.resolve Lock.locked.ruleSets) "locked" "c") ∧
      Lock.locked.describe Lock.catalog "c" =
        .ok ((chooseHandler (Lock.catalog.resolve Lock.locked.ruleSets) "locked" "c").bind
          Handler.doc?) ∧
      (chooseHandler (Lock.catalog.resolve Lock.locked.ruleSets) "locked" "c" = none →
        Lock.locked.isInvalidChangeset = false →
        dispatch Lock.catalog Lock.locked "c" .null = .refused (.illegalAction "locked" "c")) :=
  ⟨rfl, Subject.resolve_chooses_handler Lock.catalog Lock.locked rfl "c" .null⟩

/-- Whether the value is a plan. -/
def Subject.isPlan : Subject → Bool
  | .plan _ => true
  | _ => false

/-- What the handler's body answers when `event` is dispatched with `params` on `value`:
transition handlers see the event, bypass handlers do not; none without a body or when no
branch applies. -/
def Handler.answer (h : Handler) (value : Subject) (event : EventName) (params : Json) :
    Option Reply :=
  h.body?.bind fun b =>
    b.eval { event := if h.isTransition then some event else none, params, subject := value }

/-- Once a value's state is read, its handler is the merged table's answer in that state. -/
theorem Subject.merged_resolve {cat : Catalog} {v : Subject} {s : StateName} {e : EventName}
    {h : Option Handler} (hs : v.stateName = .ok s) (hh : v.resolve cat e = .ok h) :
    (v.merged cat).resolve s e = h := by
  simpa [Subject.resolve, hs, Except.map] using hh

/-- Dispatch on a value that can be dispatched on settles the answer of the handler it
resolves. -/
theorem dispatch_eq_settle {cat : Catalog} {v : Subject} {e : EventName} {params : Json}
    {s : StateName} {h : Handler} (hvalid : v.isInvalidChangeset = false)
    (hs : v.stateName = .ok s) (hh : v.resolve cat e = .ok (some h)) :
    dispatch cat v e params = (Reply.settle v s e h (h.answer v e params)).1 := by
  simp [dispatch, dispatchNoted, hvalid, hs, Subject.merged_resolve hs hh, Handler.answer]

/-- A plan answer settles, when it succeeds, to the plan `adapt` composes with the value. -/
theorem Reply.settle_plan_eq_ok {value : Subject} {state : StateName} {event : EventName}
    {handler : Handler} {name : StateName} {steps : List (String × Step)} {w : Subject}
    (h : (Reply.settle value state event handler (some (.next name (.plan steps)))).1 = .ok w) :
    ∃ q, Plan.adapt value ⟨steps⟩ name = .ok q ∧ w = Subject.ofPlan q := by
  simp only [settle] at h
  split at h
  · rename_i q hq
    cases h
    exact ⟨q, hq, rfl⟩
  · cases h

/-- A settled answer that succeeds is a kept value still in the dispatched state when its state
can be read, a plan composed with the value, or a value that is not a plan moved to the named
state. -/
theorem Reply.settle_eq_ok {value : Subject} {state : StateName} {event : EventName}
    {handler : Handler} {r : Option Reply} {w : Subject}
    (h : (Reply.settle value state event handler r).1 = .ok w) :
    (∃ kept, r = some (.keep kept) ∧ w = kept ∧ ∀ now, kept.stateName = .ok now → now = state) ∨
      (∃ name steps q, r = some (.next name (.plan steps)) ∧
        Plan.adapt value ⟨steps⟩ name = .ok q ∧ w = Subject.ofPlan q) ∨
      (∃ name moved, r = some (.next name moved) ∧ moved.isPlan = false ∧
        w = moved.withStateName name) := by
  rcases r with _ | ⟨kept⟩ | ⟨name, moved⟩ | ⟨reason⟩
  · simp [settle] at h
  · left
    refine ⟨kept, rfl, ?_⟩
    simp only [settle] at h
    split at h
    · rename_i now hnow
      split at h
      · cases h
      · -- the kept value passed the check: it is in the dispatched state
        rename_i hsame
        cases h
        refine ⟨rfl, fun n hn => ?_⟩
        rw [hnow] at hn
        cases hn
        exact Classical.not_not.mp hsame
    · rename_i err herr
      cases h
      refine ⟨rfl, fun n hn => ?_⟩
      rw [herr] at hn
      cases hn
  · right
    cases moved with
    | plan steps =>
      left
      obtain ⟨q, hq, rfl⟩ := settle_plan_eq_ok h
      exact ⟨name, steps, q, rfl, hq, rfl⟩
    | record rec =>
      right
      simp only [settle] at h
      cases h
      exact ⟨name, .record rec, rfl, rfl, rfl⟩
    | changeset c =>
      right
      simp only [settle] at h
      cases h
      exact ⟨name, .changeset c, rfl, rfl, rfl⟩
  · simp [settle] at h

end RuleMachine
