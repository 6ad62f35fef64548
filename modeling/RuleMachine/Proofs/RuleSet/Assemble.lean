import RuleMachine.Proofs.RuleSet.Compile
import RuleMachine.Proofs.Graph.Reach
import RuleMachine.Proofs.Sorted.Canonical
/-!
# What a compiled rule-set holds

Compiling writes the checked declarations one after another into an empty rule-set. Read off the
declarations, the rule-set it builds holds (`RuleSet.AssembledFrom`):

* under every transition key exactly when some declaration is a transition on it, a row owned by
  the rule-set, a body and a doc, all three written by the last declaration on the key: the row's
  destinations are the ones that declaration names, else the analysis of its body;
* under every bypass event exactly when some declaration is a bypass on it, the rule-set as
  owner, a body and a doc, written by the last bypass on the event;
* as states, the state and the destinations of every transition declaration, the overridden
  ones included.

So every state the table, its graph and the states reachable from one of its states name is
among the states (`RuleSet.StatesCover`). Both facts are `RuleSet.compile_keeps_last_declaration`.
Its table, only ever written by inserts, is sorted by key (`RuleSet.Compiled.sorted_table`).

The proof follows the writes. What a rule-set holds under one key (`RuleSet.transitionAt`,
`RuleSet.bypassAt`) is set by a write on that key and left alone by every other write
(`RuleSet.foldl_addEntry_frame`), so the last write on a key decides it. The checked entries line
up with the declarations (`checkAll_split_decl`, `checkAll_split_entry`), each entry written under
its declaration's key (`Declaration.check_heads`). Rows only ever lead to states already added
(`RuleSet.RowsInStates`), an invariant of every write.
-/

namespace RuleMachine

-- Doc keys compare as their keys or their event names, transitions first.
instance : Std.LawfulEqOrd DocKey where
  compare_self {a} := by
    cases a with
    | transition k =>
      show compare k k = .eq
      exact Std.ReflCmp.compare_self
    | event e =>
      show compare e e = .eq
      exact Std.ReflCmp.compare_self
  eq_of_compare {a b} h := by
    cases a with
    | transition k =>
      cases b with
      | transition k' => exact congrArg DocKey.transition (Std.LawfulEqOrd.eq_of_compare h)
      | event e' => cases h
    | event e =>
      cases b with
      | transition k' => cases h
      | event e' => exact congrArg DocKey.event (Std.LawfulEqOrd.eq_of_compare h)

/-- A list with an element that has a property splits around the last such element. -/
theorem exists_split_last {α : Type} {P : α → Prop} :
    ∀ {l : List α}, (∃ x ∈ l, P x) → ∃ A x B, l = A ++ x :: B ∧ P x ∧ ∀ y ∈ B, ¬ P y
  | [], ⟨_, hx, _⟩ => absurd hx List.not_mem_nil
  | a :: rest, ⟨x, hx, hp⟩ => by
    by_cases hlater : ∃ y ∈ rest, P y
    · obtain ⟨A, y, B, rfl, hy, hB⟩ := exists_split_last hlater
      exact ⟨a :: A, y, B, rfl, hy, hB⟩
    · -- nothing after `a` has the property, so `a` is the last
      have ha : P a := by
        rcases List.mem_cons.mp hx with rfl | hrest
        · exact hp
        · exact absurd ⟨x, hrest, hp⟩ hlater
      exact ⟨[], a, rest, rfl, ha, fun y hy hpy => hlater ⟨y, hy, hpy⟩⟩

namespace Declaration

/-- The key a transition declaration is written under, once it has a state and an event. -/
def key? : Declaration → Option Key
  | .transition d =>
    match d.state, d.event with
    | some s, some e => some ⟨s, e⟩
    | _, _ => none
  | .bypass _ => none

/-- The event a bypass declaration is written under. -/
def bypassEvent? : Declaration → Option EventName
  | .transition _ => none
  | .bypass d => d.event

theorem key?_transition {t : TransitionDecl} {k : Key} :
    (transition t).key? = some k ↔ t.state = some k.state ∧ t.event = some k.event := by
  cases hs : t.state <;> cases he : t.event <;> cases k <;> simp [key?, hs, he]

end Declaration

/-- The destinations declaration `index` gives its transition on `key` with body `b`: the states
it names, as a set, or else the analysis of the body from the key's state. -/
def TransitionDecl.destinationsAt (d : TransitionDecl) (options : CompileOptions) (index : Nat)
    (key : Key) (b : Body) : Checked (List StateName) :=
  match d.destinations with
  | some ds => .ok (SortedSet.ofList ds)
  | none => b.destinations options.unrecognizedArms (Declaration.bodySite index key.state key.event)
      key.state

namespace Entry

/-- The key a checked transition is written under. -/
def key? : Entry → Option Key
  | .transition key _ _ _ => some key
  | .bypass _ _ _ => none

/-- The event a checked bypass is written under. -/
def event? : Entry → Option EventName
  | .transition _ _ _ _ => none
  | .bypass event _ _ => some event

/-- The states a checked declaration adds: a transition's state and destinations, none for a
bypass. -/
def Names : Entry → StateName → Prop
  | .transition key _ ds _, x => x = key.state ∨ x ∈ ds
  | .bypass _ _ _, _ => False

end Entry

namespace Declaration

variable {options : CompileOptions} {index : Nat}

theorem eq_some_of_checkBypassEvent_eq_ok {site : String} {x : Option EventName} {e : EventName}
    (h : checkBypassEvent site x = .ok e) : x = some e := by
  cases x with
  | none => cases h
  | some e' =>
    simp only [checkBypassEvent] at h
    split at h
    · cases h
    · cases h; rfl

/-- A transition declaration that passes its check has a state, an event and a body, and gives
the transition on them with its destinations and its doc. -/
theorem check_transition_eq_ok {t : TransitionDecl} {entry : Entry}
    (h : (transition t).check options index = .ok entry) :
    ∃ s e b ds, t.state = some s ∧ t.event = some e ∧ t.body = some b ∧
      t.destinationsAt options index ⟨s, e⟩ b = .ok ds ∧ entry = .transition ⟨s, e⟩ b ds t.doc := by
  simp only [check] at h
  split at h
  · cases h
  · rename_i s e b heq
    obtain ⟨⟨s', e'⟩, b', hse, hb, hpair⟩ := Checked.both_eq_ok.mp heq
    obtain ⟨s'', e'', hs, he, hpair'⟩ := Checked.both_eq_ok.mp hse
    cases hpair
    cases hpair'
    obtain ⟨ds, hds, rfl⟩ := Checked.map_eq_ok.mp h
    exact ⟨s, e, b, ds, eq_some_of_checkState_eq_ok hs, eq_some_of_checkEvent_eq_ok he,
      eq_some_of_checkBody_eq_ok hb, hds, rfl⟩

/-- A bypass declaration that passes its check has an event and a body, and gives the bypass on
them with its doc. -/
theorem check_bypass_eq_ok {t : BypassDecl} {entry : Entry}
    (h : (bypass t).check options index = .ok entry) :
    ∃ e b, t.event = some e ∧ t.body = some b ∧ entry = .bypass e b t.doc := by
  obtain ⟨⟨e, b⟩, hboth, rfl⟩ := Checked.map_eq_ok.mp h
  obtain ⟨e', b', he, hb, hpair⟩ := Checked.both_eq_ok.mp hboth
  cases hpair
  exact ⟨e, b, eq_some_of_checkBypassEvent_eq_ok he, eq_some_of_checkBody_eq_ok hb, rfl⟩

/-- A checked declaration is written under the key or the event it declares. -/
theorem check_heads {d : Declaration} {entry : Entry} (h : d.check options index = .ok entry) :
    entry.key? = d.key? ∧ entry.event? = d.bypassEvent? := by
  cases d with
  | transition t =>
    obtain ⟨s, e, b, ds, hs, he, -, -, rfl⟩ := check_transition_eq_ok h
    simp [Entry.key?, Entry.event?, key?, bypassEvent?, hs, he]
  | bypass t =>
    obtain ⟨e, b, he, -, rfl⟩ := check_bypass_eq_ok h
    simp [Entry.key?, Entry.event?, key?, bypassEvent?, he]

end Declaration

section Split

variable {options : CompileOptions}

theorem checkAll_cons_eq_ok {n : Nat} {d : Declaration} {ds : List Declaration}
    {entries : List Entry} (h : checkAll options n (d :: ds) = .ok entries) :
    ∃ e es, entries = e :: es ∧ d.check options n = .ok e ∧ checkAll options (n + 1) ds = .ok es := by
  obtain ⟨⟨e, es⟩, hboth, rfl⟩ := Checked.map_eq_ok.mp h
  obtain ⟨e', es', he, hes, hpair⟩ := Checked.both_eq_ok.mp hboth
  cases hpair
  exact ⟨e, es, rfl, he, hes⟩

/-- The declaration after `A` gives the entry after as many entries, and the declarations after
it give the entries after it. -/
theorem checkAll_split_decl {d : Declaration} {B : List Declaration} :
    ∀ {n : Nat} {A : List Declaration} {entries : List Entry},
      checkAll options n (A ++ d :: B) = .ok entries →
        ∃ EA e EB, entries = EA ++ e :: EB ∧ d.check options (n + A.length) = .ok e ∧
          checkAll options (n + A.length + 1) B = .ok EB
  | n, [], entries, h => by
    obtain ⟨e, EB, rfl, he, hB⟩ := checkAll_cons_eq_ok h
    exact ⟨[], e, EB, rfl, he, hB⟩
  | n, a :: A, entries, h => by
    obtain ⟨x, xs, rfl, -, hxs⟩ := checkAll_cons_eq_ok h
    obtain ⟨EA, e, EB, rfl, he, hB⟩ := checkAll_split_decl hxs
    have hidx : n + 1 + A.length = n + (a :: A).length := by simp; omega
    rw [hidx] at he hB
    exact ⟨x :: EA, e, EB, rfl, he, hB⟩

/-- The entry after `EA` comes from the declaration after as many declarations. -/
theorem checkAll_split_entry {e : Entry} {EB : List Entry} :
    ∀ {n : Nat} {decls : List Declaration} {EA : List Entry},
      checkAll options n decls = .ok (EA ++ e :: EB) →
        ∃ A d B, decls = A ++ d :: B ∧ d.check options (n + A.length) = .ok e
  | n, [], EA, h => by simp [checkAll] at h
  | n, d :: ds, [], h => by
    obtain ⟨e', es, heq, hd, -⟩ := checkAll_cons_eq_ok h
    cases heq
    exact ⟨[], d, ds, rfl, hd⟩
  | n, d :: ds, x :: EA, h => by
    obtain ⟨e', es, heq, -, hds⟩ := checkAll_cons_eq_ok h
    cases heq
    obtain ⟨A, d', B, rfl, hd'⟩ := checkAll_split_entry hds
    have hidx : n + 1 + A.length = n + (d :: A).length := by simp; omega
    rw [hidx] at hd'
    exact ⟨d :: A, d', B, rfl, hd'⟩

/-- Every checked entry is written under the key or event of a declaration. -/
theorem checkAll_heads {n : Nat} {decls : List Declaration} {entries : List Entry}
    (h : checkAll options n decls = .ok entries) :
    ∀ e ∈ entries, ∃ d ∈ decls, e.key? = d.key? ∧ e.event? = d.bypassEvent? := by
  intro e he
  obtain ⟨EA, EB, rfl⟩ := List.append_of_mem he
  obtain ⟨A, d, B, rfl, hd⟩ := checkAll_split_entry h
  exact ⟨d, by simp, Declaration.check_heads hd⟩

/-- Every declaration is written under its key or event by some checked entry. -/
theorem checkAll_covers {n : Nat} {decls : List Declaration} {entries : List Entry}
    (h : checkAll options n decls = .ok entries) :
    ∀ d ∈ decls, ∃ e ∈ entries, e.key? = d.key? ∧ e.event? = d.bypassEvent? := by
  intro d hd
  obtain ⟨A, B, rfl⟩ := List.append_of_mem hd
  obtain ⟨EA, e, EB, rfl, he, -⟩ := checkAll_split_decl h
  exact ⟨e, by simp, Declaration.check_heads he⟩

/-- A transition declaration after `A` gives its transition, with its doc, after as many
entries. -/
theorem checkAll_split_transition {A B : List Declaration} {t : TransitionDecl} {entries : List Entry}
    (h : checkAll options 0 (A ++ .transition t :: B) = .ok entries) :
    ∃ EA EB s e b ds, entries = EA ++ .transition ⟨s, e⟩ b ds t.doc :: EB ∧ t.state = some s ∧
      t.event = some e ∧ t.body = some b ∧ t.destinationsAt options A.length ⟨s, e⟩ b = .ok ds ∧
      checkAll options (A.length + 1) B = .ok EB := by
  obtain ⟨EA, x, EB, rfl, hx, hB⟩ := checkAll_split_decl h
  rw [Nat.zero_add] at hx hB
  obtain ⟨s, e, b, ds, hs, he, hb, hds, rfl⟩ := Declaration.check_transition_eq_ok hx
  exact ⟨EA, EB, s, e, b, ds, rfl, hs, he, hb, hds, hB⟩

/-- A bypass declaration after `A` gives its bypass, with its doc, after as many entries. -/
theorem checkAll_split_bypass {A B : List Declaration} {t : BypassDecl} {entries : List Entry}
    (h : checkAll options 0 (A ++ .bypass t :: B) = .ok entries) :
    ∃ EA EB e b, entries = EA ++ .bypass e b t.doc :: EB ∧ t.event = some e ∧ t.body = some b ∧
      checkAll options (A.length + 1) B = .ok EB := by
  obtain ⟨EA, x, EB, rfl, hx, hB⟩ := checkAll_split_decl h
  rw [Nat.zero_add] at hB
  obtain ⟨e, b, he, hb, rfl⟩ := Declaration.check_bypass_eq_ok hx
  exact ⟨EA, EB, e, b, rfl, he, hb, hB⟩

end Split

namespace RuleSet

/-- What a rule-set holds under a transition key: its row, its body and its doc. -/
def transitionAt (rs : RuleSet) (k : Key) : Option Row × Option Body × Option (Option String) :=
  (SortedMap.get? k rs.table, rs.transitionBody? k, SortedMap.get? (.transition k) rs.docs)

/-- What a rule-set holds under a bypass event: its owner, its body and its doc. -/
def bypassAt (rs : RuleSet) (e : EventName) : Option RuleSetId × Option Body × Option (Option String) :=
  (SortedMap.get? e rs.bypasses, rs.bypassBody? e, SortedMap.get? (.event e) rs.docs)

@[simp] theorem id_addEntry (rs : RuleSet) (entry : Entry) : (rs.addEntry entry).id = rs.id := by
  cases entry <;> rfl

theorem id_foldl_addEntry (entries : List Entry) (rs : RuleSet) :
    (entries.foldl addEntry rs).id = rs.id := by
  induction entries generalizing rs with
  | nil => rfl
  | cons e rest ih => rw [List.foldl_cons, ih, id_addEntry]

/-- A transition writes its row, its body and its doc under its key. -/
theorem transitionAt_addEntry_self (rs : RuleSet) (k : Key) (b : Body) (ds : List StateName)
    (doc : Option String) :
    (rs.addEntry (.transition k b ds doc)).transitionAt k = (some ⟨rs.id, ds⟩, some b, some doc) := by
  simp [addEntry, transitionAt, transitionBody?, SortedMap.get?_insert]

/-- A write under another key, or a bypass, leaves a transition key alone. -/
theorem transitionAt_addEntry_of_ne (rs : RuleSet) {k : Key} {entry : Entry}
    (h : entry.key? ≠ some k) : (rs.addEntry entry).transitionAt k = rs.transitionAt k := by
  cases entry with
  | transition key b ds doc =>
    have hk : k ≠ key := fun hk => h (by simp [Entry.key?, hk])
    simp [addEntry, transitionAt, transitionBody?, SortedMap.get?_insert, hk]
  | bypass e b doc => simp [addEntry, transitionAt, transitionBody?, SortedMap.get?_insert]

/-- A bypass writes its owner, its body and its doc under its event. -/
theorem bypassAt_addEntry_self (rs : RuleSet) (e : EventName) (b : Body) (doc : Option String) :
    (rs.addEntry (.bypass e b doc)).bypassAt e = (some rs.id, some b, some doc) := by
  simp [addEntry, bypassAt, bypassBody?, SortedMap.get?_insert]

/-- A write under another event, or a transition, leaves a bypass event alone. -/
theorem bypassAt_addEntry_of_ne (rs : RuleSet) {e : EventName} {entry : Entry}
    (h : entry.event? ≠ some e) : (rs.addEntry entry).bypassAt e = rs.bypassAt e := by
  cases entry with
  | transition key b ds doc => simp [addEntry, bypassAt, bypassBody?, SortedMap.get?_insert]
  | bypass e' b doc =>
    have he : e ≠ e' := fun he => h (by simp [Entry.event?, he])
    simp [addEntry, bypassAt, bypassBody?, SortedMap.get?_insert, he]

/-- What a view of a rule-set reads is kept by a run of writes that each keep it. -/
theorem foldl_addEntry_frame {β : Type} (view : RuleSet → β) (touches : Entry → Prop)
    (hframe : ∀ rs e, ¬ touches e → view (rs.addEntry e) = view rs) :
    ∀ (entries : List Entry) (rs : RuleSet), (∀ e ∈ entries, ¬ touches e) →
      view (entries.foldl addEntry rs) = view rs := by
  intro entries
  induction entries with
  | nil => intro rs _; rfl
  | cons e rest ih =>
    intro rs he
    rw [List.foldl_cons, ih _ (fun e' he' => he e' (List.mem_cons_of_mem _ he')),
      hframe rs e (he e List.mem_cons_self)]

/-- The last transition on a key decides what the rule-set holds under it. -/
theorem transitionAt_assemble_of_last {id : RuleSetId} {EA EB : List Entry} {k : Key} {b : Body}
    {ds : List StateName} {doc : Option String} (hB : ∀ e ∈ EB, e.key? ≠ some k) :
    (assemble id (EA ++ .transition k b ds doc :: EB)).transitionAt k =
      (some ⟨id, ds⟩, some b, some doc) := by
  rw [assemble, List.foldl_append, List.foldl_cons,
    foldl_addEntry_frame (transitionAt · k) (·.key? = some k)
      (fun rs _ he => transitionAt_addEntry_of_ne rs he) EB _ hB,
    transitionAt_addEntry_self, id_foldl_addEntry]
  rfl

/-- The last bypass on an event decides what the rule-set holds under it. -/
theorem bypassAt_assemble_of_last {id : RuleSetId} {EA EB : List Entry} {e : EventName} {b : Body}
    {doc : Option String} (hB : ∀ x ∈ EB, x.event? ≠ some e) :
    (assemble id (EA ++ .bypass e b doc :: EB)).bypassAt e = (some id, some b, some doc) := by
  rw [assemble, List.foldl_append, List.foldl_cons,
    foldl_addEntry_frame (bypassAt · e) (·.event? = some e)
      (fun rs _ he => bypassAt_addEntry_of_ne rs he) EB _ hB,
    bypassAt_addEntry_self, id_foldl_addEntry]
  rfl

/-- Under a key, the rule-set holds a row, a body and a doc when some transition is on it, and
nothing otherwise. -/
theorem transitionAt_assemble_cases (id : RuleSetId) (entries : List Entry) (k : Key) :
    ((∃ row b doc, (assemble id entries).transitionAt k = (some row, some b, some doc)) ∧
      ∃ e ∈ entries, e.key? = some k) ∨
    ((assemble id entries).transitionAt k = (none, none, none) ∧ ∀ e ∈ entries, e.key? ≠ some k) := by
  by_cases hsome : ∃ e ∈ entries, e.key? = some k
  · refine .inl ⟨?_, hsome⟩
    obtain ⟨EA, x, EB, rfl, hx, hB⟩ := exists_split_last hsome
    cases x with
    | transition key b ds doc =>
      cases hx
      exact ⟨_, _, _, transitionAt_assemble_of_last hB⟩
    | bypass e b doc => cases hx
  · have hnone : ∀ e ∈ entries, e.key? ≠ some k := fun e he hk => hsome ⟨e, he, hk⟩
    refine .inr ⟨?_, hnone⟩
    rw [assemble, foldl_addEntry_frame (transitionAt · k) (·.key? = some k)
      (fun rs _ he => transitionAt_addEntry_of_ne rs he) entries _ hnone]
    rfl

/-- Under an event, the rule-set holds an owner, a body and a doc when some bypass is on it, and
nothing otherwise. -/
theorem bypassAt_assemble_cases (id : RuleSetId) (entries : List Entry) (e : EventName) :
    ((∃ owner b doc, (assemble id entries).bypassAt e = (some owner, some b, some doc)) ∧
      ∃ x ∈ entries, x.event? = some e) ∨
    ((assemble id entries).bypassAt e = (none, none, none) ∧ ∀ x ∈ entries, x.event? ≠ some e) := by
  by_cases hsome : ∃ x ∈ entries, x.event? = some e
  · refine .inl ⟨?_, hsome⟩
    obtain ⟨EA, x, EB, rfl, hx, hB⟩ := exists_split_last hsome
    cases x with
    | transition key b ds doc => cases hx
    | bypass e' b doc =>
      cases hx
      exact ⟨_, _, _, bypassAt_assemble_of_last hB⟩
  · have hnone : ∀ x ∈ entries, x.event? ≠ some e := fun x hx he => hsome ⟨x, hx, he⟩
    refine .inr ⟨?_, hnone⟩
    rw [assemble, foldl_addEntry_frame (bypassAt · e) (·.event? = some e)
      (fun rs _ he => bypassAt_addEntry_of_ne rs he) entries _ hnone]
    rfl

theorem mem_states_addEntry (rs : RuleSet) (entry : Entry) (x : StateName) :
    x ∈ (rs.addEntry entry).states ↔ x ∈ rs.states ∨ entry.Names x := by
  cases entry with
  | transition key b ds doc =>
    simp only [addEntry, SortedSet.mem_union, SortedSet.mem_insert, Entry.Names]
    exact ⟨fun h => h.elim (fun h' => h'.elim (fun hk => .inr (.inl hk)) .inl) (fun hd => .inr (.inr hd)),
      fun h => h.elim (fun hs => .inl (.inr hs)) (fun h' => h'.elim (fun hk => .inl (.inl hk)) .inr)⟩
  | bypass e b doc => simp [addEntry, Entry.Names]

/-- The states of an assembled rule-set are those its transitions add. -/
theorem mem_states_assemble (id : RuleSetId) (entries : List Entry) (x : StateName) :
    x ∈ (assemble id entries).states ↔ ∃ e ∈ entries, e.Names x := by
  have hfold : ∀ (es : List Entry) (rs : RuleSet),
      x ∈ (es.foldl addEntry rs).states ↔ x ∈ rs.states ∨ ∃ e ∈ es, e.Names x := by
    intro es
    induction es with
    | nil => simp
    | cons e rest ih =>
      intro rs
      rw [List.foldl_cons, ih, mem_states_addEntry]
      simp only [List.mem_cons, exists_eq_or_imp, or_assoc]
  rw [assemble, hfold]
  simp [empty]

/-- Every row leaves a state of the rule-set and leads only to states of it. -/
def RowsInStates (rs : RuleSet) : Prop :=
  ∀ p ∈ rs.table, p.1.state ∈ rs.states ∧ ∀ x ∈ p.2.destinations, x ∈ rs.states

/-- A write keeps every row within the states: a transition adds its own state and
destinations, and states are never removed. -/
theorem RowsInStates.addEntry {rs : RuleSet} (h : rs.RowsInStates) (entry : Entry) :
    (rs.addEntry entry).RowsInStates := by
  have hgrow : ∀ x, x ∈ rs.states → x ∈ (rs.addEntry entry).states :=
    fun x hx => (mem_states_addEntry rs entry x).mpr (.inl hx)
  cases entry with
  | transition key b ds doc =>
    intro p hp
    rcases SortedMap.mem_insert_cases hp with rfl | hold
    · have hnames : ∀ x, Entry.Names (.transition key b ds doc) x →
          x ∈ (rs.addEntry (.transition key b ds doc)).states :=
        fun x hx => (mem_states_addEntry rs _ x).mpr (.inr hx)
      exact ⟨hnames _ (.inl rfl), fun x hx => hnames x (.inr hx)⟩
    · obtain ⟨hs, hds⟩ := h p hold
      exact ⟨hgrow _ hs, fun x hx => hgrow x (hds x hx)⟩
  | bypass e b doc => exact h

theorem rowsInStates_assemble (id : RuleSetId) (entries : List Entry) :
    (assemble id entries).RowsInStates :=
  assemble_induction RowsInStates (fun _ hp => by cases hp) fun rs e _ h => h.addEntry e

/-- Every state that the table (its keys and destinations), its graph and the states reachable
from a state of the rule-set name is a state of the rule-set. -/
structure StatesCover (rs : RuleSet) : Prop where
  table : ∀ k row, SortedMap.get? k rs.table = some row →
    k.state ∈ rs.states ∧ ∀ x ∈ row.destinations, x ∈ rs.states
  graph : ∀ x ys, SortedMap.get? x rs.graph = some ys → x ∈ rs.states ∧ ∀ y ∈ ys, y ∈ rs.states
  reachable : ∀ s ∈ rs.states, ∀ t ∈ rs.reachableFrom s, t ∈ rs.states

theorem RowsInStates.statesCover {rs : RuleSet} (h : rs.RowsInStates) : rs.StatesCover where
  table k row hrow := h (k, row) (SortedMap.mem_of_get?_eq_some hrow)
  graph x ys hys := by
    obtain ⟨⟨p, hp, rfl⟩, hsucc⟩ := Table.mem_graph_cases hys
    refine ⟨(h p hp).1, fun y hy => ?_⟩
    obtain ⟨q, hq, -, hyq⟩ := hsucc y hy
    exact (h q hq).2 y hyq
  reachable s hs t ht := by
    rcases Graph.mem_reach_cases ht with rfl | ⟨x, hx⟩
    · exact hs
    · -- a successor in the graph is a destination of some row
      obtain ⟨q, hq, -, htq⟩ := Table.mem_successors_graph_cases hx
      exact (h q hq).2 t htq

/-- What a rule-set compiled under `id` and `options` from `decls` holds. Transition keys and
bypass events are exactly those the declarations name; what is held under one was written by
the last declaration on it; the states are those every transition declaration names. -/
structure AssembledFrom (rs : RuleSet) (id : RuleSetId) (options : CompileOptions)
    (decls : List Declaration) : Prop where
  table_keys : ∀ k, (SortedMap.get? k rs.table).isSome ↔ ∃ d ∈ decls, d.key? = some k
  body_keys : ∀ k, (rs.transitionBody? k).isSome ↔ ∃ d ∈ decls, d.key? = some k
  transition_doc_keys : ∀ k,
    (SortedMap.get? (DocKey.transition k) rs.docs).isSome ↔ ∃ d ∈ decls, d.key? = some k
  last_transition : ∀ A t B k, decls = A ++ .transition t :: B →
    (Declaration.transition t).key? = some k → (∀ d ∈ B, d.key? ≠ some k) →
    ∃ b ds, t.body = some b ∧ t.destinationsAt options A.length k b = .ok ds ∧
      SortedMap.get? k rs.table = some ⟨id, ds⟩ ∧ rs.transitionBody? k = some b ∧
      SortedMap.get? (DocKey.transition k) rs.docs = some t.doc
  bypass_keys : ∀ e, (SortedMap.get? e rs.bypasses).isSome ↔ ∃ d ∈ decls, d.bypassEvent? = some e
  bypass_body_keys : ∀ e, (rs.bypassBody? e).isSome ↔ ∃ d ∈ decls, d.bypassEvent? = some e
  event_doc_keys : ∀ e,
    (SortedMap.get? (DocKey.event e) rs.docs).isSome ↔ ∃ d ∈ decls, d.bypassEvent? = some e
  last_bypass : ∀ A t B e, decls = A ++ .bypass t :: B → t.event = some e →
    (∀ d ∈ B, d.bypassEvent? ≠ some e) →
    ∃ b, t.body = some b ∧ SortedMap.get? e rs.bypasses = some id ∧ rs.bypassBody? e = some b ∧
      SortedMap.get? (DocKey.event e) rs.docs = some t.doc
  states : ∀ x, x ∈ rs.states ↔ ∃ A t B, decls = A ++ .transition t :: B ∧
    (t.state = some x ∨ ∃ k b ds, (Declaration.transition t).key? = some k ∧ t.body = some b ∧
      t.destinationsAt options A.length k b = .ok ds ∧ x ∈ ds)

section Compiled

variable {id : RuleSetId} {options : CompileOptions} {decls : List Declaration}
  {entries : List Entry}

theorem checkAll_key_iff (h : checkAll options 0 decls = .ok entries) (k : Key) :
    (∃ e ∈ entries, e.key? = some k) ↔ ∃ d ∈ decls, d.key? = some k := by
  constructor
  · rintro ⟨e, he, hk⟩
    obtain ⟨d, hd, hkey, -⟩ := checkAll_heads h e he
    exact ⟨d, hd, hkey ▸ hk⟩
  · rintro ⟨d, hd, hk⟩
    obtain ⟨e, he, hkey, -⟩ := checkAll_covers h d hd
    exact ⟨e, he, hkey ▸ hk⟩

theorem checkAll_event_iff (h : checkAll options 0 decls = .ok entries) (e : EventName) :
    (∃ x ∈ entries, x.event? = some e) ↔ ∃ d ∈ decls, d.bypassEvent? = some e := by
  constructor
  · rintro ⟨x, hx, he⟩
    obtain ⟨d, hd, -, hev⟩ := checkAll_heads h x hx
    exact ⟨d, hd, hev ▸ he⟩
  · rintro ⟨d, hd, he⟩
    obtain ⟨x, hx, -, hev⟩ := checkAll_covers h d hd
    exact ⟨x, hx, hev ▸ he⟩

theorem assemble_last_transition (h : checkAll options 0 decls = .ok entries) {A B : List Declaration}
    {t : TransitionDecl} {k : Key} (hdecls : decls = A ++ .transition t :: B)
    (hk : (Declaration.transition t).key? = some k) (hB : ∀ d ∈ B, d.key? ≠ some k) :
    ∃ b ds, t.body = some b ∧ t.destinationsAt options A.length k b = .ok ds ∧
      (assemble id entries).transitionAt k = (some ⟨id, ds⟩, some b, some t.doc) := by
  subst hdecls
  obtain ⟨EA, EB, s, e, b, ds, rfl, hs, he, hb, hds, hEB⟩ := checkAll_split_transition h
  obtain rfl : k = ⟨s, e⟩ := by
    obtain ⟨hs', he'⟩ := Declaration.key?_transition.mp hk
    cases k
    simp_all
  -- the entries after it come from the declarations after it, none on the key
  have hEB' : ∀ x ∈ EB, x.key? ≠ some ⟨s, e⟩ := by
    intro x hx hxk
    obtain ⟨d, hd, hkey, -⟩ := checkAll_heads hEB x hx
    exact hB d hd (hkey ▸ hxk)
  exact ⟨b, ds, hb, hds, transitionAt_assemble_of_last hEB'⟩

theorem assemble_last_bypass (h : checkAll options 0 decls = .ok entries) {A B : List Declaration}
    {t : BypassDecl} {e : EventName} (hdecls : decls = A ++ .bypass t :: B) (he : t.event = some e)
    (hB : ∀ d ∈ B, d.bypassEvent? ≠ some e) :
    ∃ b, t.body = some b ∧ (assemble id entries).bypassAt e = (some id, some b, some t.doc) := by
  subst hdecls
  obtain ⟨EA, EB, e', b, rfl, he', hb, hEB⟩ := checkAll_split_bypass h
  obtain rfl : e' = e := Option.some.inj (he'.symm.trans he)
  have hEB' : ∀ x ∈ EB, x.event? ≠ some e' := by
    intro x hx hxe
    obtain ⟨d, hd, -, hev⟩ := checkAll_heads hEB x hx
    exact hB d hd (hev ▸ hxe)
  exact ⟨b, hb, bypassAt_assemble_of_last hEB'⟩

/-- The states of the entries are those every transition declaration names. -/
theorem assemble_states (h : checkAll options 0 decls = .ok entries) (x : StateName) :
    (∃ e ∈ entries, e.Names x) ↔ ∃ A t B, decls = A ++ .transition t :: B ∧
      (t.state = some x ∨ ∃ k b ds, (Declaration.transition t).key? = some k ∧ t.body = some b ∧
        t.destinationsAt options A.length k b = .ok ds ∧ x ∈ ds) := by
  constructor
  · rintro ⟨e, he, hx⟩
    obtain ⟨EA, EB, rfl⟩ := List.append_of_mem he
    obtain ⟨A, d, B, rfl, hd⟩ := checkAll_split_entry h
    rw [Nat.zero_add] at hd
    cases d with
    | transition t =>
      obtain ⟨s, ev, b, ds, hs, hev, hb, hds, rfl⟩ := Declaration.check_transition_eq_ok hd
      refine ⟨A, t, B, rfl, ?_⟩
      rcases hx with rfl | hin
      · exact .inl hs
      · exact .inr ⟨⟨s, ev⟩, b, ds, Declaration.key?_transition.mpr ⟨hs, hev⟩, hb, hds, hin⟩
    | bypass t =>
      -- a bypass adds no state
      obtain ⟨ev, b, -, -, rfl⟩ := Declaration.check_bypass_eq_ok hd
      exact hx.elim
  · rintro ⟨A, t, B, rfl, hx⟩
    obtain ⟨EA, EB, s, ev, b, ds, rfl, hs, hev, hb, hds, -⟩ := checkAll_split_transition h
    refine ⟨_, List.mem_append_right EA List.mem_cons_self, ?_⟩
    rcases hx with hsx | ⟨k, b', ds', hk, hb', hds', hin⟩
    · exact .inl (Option.some.inj (hsx.symm.trans hs))
    · -- the same declaration, so the same key, body and destinations
      obtain ⟨hs', hev'⟩ := Declaration.key?_transition.mp hk
      obtain rfl : k = ⟨s, ev⟩ := by
        cases k
        simp_all
      obtain rfl : b' = b := Option.some.inj (hb'.symm.trans hb)
      obtain rfl : ds' = ds := Except.ok.inj (hds'.symm.trans hds)
      exact .inr hin

end Compiled

/-- The keys of the table, of the bodies and of the transition docs are those of the
declarations. -/
theorem assemble_transition_keys (id : RuleSetId) (h : checkAll options 0 decls = .ok entries)
    (k : Key) :
    ((SortedMap.get? k (assemble id entries).table).isSome ↔ ∃ d ∈ decls, d.key? = some k) ∧
    (((assemble id entries).transitionBody? k).isSome ↔ ∃ d ∈ decls, d.key? = some k) ∧
    ((SortedMap.get? (DocKey.transition k) (assemble id entries).docs).isSome ↔
      ∃ d ∈ decls, d.key? = some k) := by
  rw [← checkAll_key_iff h k]
  rcases transitionAt_assemble_cases id entries k with ⟨⟨row, b, doc, hat⟩, hex⟩ | ⟨hat, hno⟩
  · simp only [transitionAt, Prod.mk.injEq] at hat
    obtain ⟨hrow, hb, hdoc⟩ := hat
    simp [hrow, hb, hdoc, hex]
  · simp only [transitionAt, Prod.mk.injEq] at hat
    obtain ⟨hrow, hb, hdoc⟩ := hat
    have hex : ¬ ∃ e ∈ entries, e.key? = some k := fun ⟨e, he, hk⟩ => hno e he hk
    simp [hrow, hb, hdoc, hex]

/-- The events of the bypasses, of their bodies and of the event docs are those of the
declarations. -/
theorem assemble_bypass_events (id : RuleSetId) (h : checkAll options 0 decls = .ok entries)
    (e : EventName) :
    ((SortedMap.get? e (assemble id entries).bypasses).isSome ↔
      ∃ d ∈ decls, d.bypassEvent? = some e) ∧
    (((assemble id entries).bypassBody? e).isSome ↔ ∃ d ∈ decls, d.bypassEvent? = some e) ∧
    ((SortedMap.get? (DocKey.event e) (assemble id entries).docs).isSome ↔
      ∃ d ∈ decls, d.bypassEvent? = some e) := by
  rw [← checkAll_event_iff h e]
  rcases bypassAt_assemble_cases id entries e with ⟨⟨owner, b, doc, hat⟩, hex⟩ | ⟨hat, hno⟩
  · simp only [bypassAt, Prod.mk.injEq] at hat
    obtain ⟨howner, hb, hdoc⟩ := hat
    simp [howner, hb, hdoc, hex]
  · simp only [bypassAt, Prod.mk.injEq] at hat
    obtain ⟨howner, hb, hdoc⟩ := hat
    have hex : ¬ ∃ x ∈ entries, x.event? = some e := fun ⟨x, hx, he⟩ => hno x hx he
    simp [howner, hb, hdoc, hex]

/-- The rule-set assembled from checked declarations holds what they declare. -/
theorem assemble_assembledFrom (id : RuleSetId) (h : checkAll options 0 decls = .ok entries) :
    (assemble id entries).AssembledFrom id options decls where
  table_keys k := (assemble_transition_keys id h k).1
  body_keys k := (assemble_transition_keys id h k).2.1
  transition_doc_keys k := (assemble_transition_keys id h k).2.2
  last_transition A t B k hdecls hk hB := by
    obtain ⟨b, ds, hb, hds, hat⟩ := assemble_last_transition h hdecls hk hB
    simp only [transitionAt, Prod.mk.injEq] at hat
    exact ⟨b, ds, hb, hds, hat.1, hat.2.1, hat.2.2⟩
  bypass_keys e := (assemble_bypass_events id h e).1
  bypass_body_keys e := (assemble_bypass_events id h e).2.1
  event_doc_keys e := (assemble_bypass_events id h e).2.2
  last_bypass A t B e hdecls he hB := by
    obtain ⟨b, hb, hat⟩ := assemble_last_bypass h hdecls he hB
    simp only [bypassAt, Prod.mk.injEq] at hat
    exact ⟨b, hb, hat.1, hat.2.1, hat.2.2⟩
  states x := (mem_states_assemble id entries x).trans (assemble_states h x)

/-- A rule-set compiled from declarations holds under each transition key and each bypass event
what the last declaration on it wrote, the row owned by the rule-set with the declared
destinations or else the analysis of the body, and exactly the keys and events the declarations
name; its states are the states and destinations of all its transition declarations, overridden
ones included. So every state of its table, of its graph and reachable from one of its states is
among its states. -/
theorem compile_keeps_last_declaration {id : RuleSetId} {decls : List Declaration}
    {options : CompileOptions} {rs : RuleSet} (h : compile id decls options = .ok rs) :
    rs.AssembledFrom id options decls ∧ rs.StatesCover := by
  obtain ⟨entries, hentries, rfl⟩ := compile_eq_ok h
  exact ⟨assemble_assembledFrom id hentries, (rowsInStates_assemble id entries).statesCover⟩

/-- A rule-set that compiling some declarations builds. -/
def Compiled (rs : RuleSet) : Prop :=
  ∃ id decls options, compile id decls options = .ok rs

/-- An assembled table is sorted by key: it is only ever written by inserts. -/
theorem sorted_table_assemble (id : RuleSetId) (entries : List Entry) :
    SortedMap.Sorted (assemble id entries).table := by
  refine assemble_induction (fun rs => SortedMap.Sorted rs.table) List.Pairwise.nil
    fun rs e _ h => ?_
  cases e with
  | transition key b ds doc => exact h.insert key _
  | bypass event b doc => exact h

theorem Compiled.sorted_table {rs : RuleSet} (h : rs.Compiled) : SortedMap.Sorted rs.table := by
  obtain ⟨id, decls, options, hc⟩ := h
  obtain ⟨entries, -, rfl⟩ := compile_eq_ok hc
  exact sorted_table_assemble id entries

end RuleSet

namespace Rerouted

/-- A transition from `s` on `go` declared twice, first to `first` and then to `second`, and a
bypass on `reset`. -/
def declarations : List Declaration :=
  [Declaration.simple "s" "go" "first", Declaration.simple "s" "go" "second",
    .bypass { event := some "reset", body := some (.next "s" none) }]

/-- The rule-set compiled from them. -/
def rules : RuleSet :=
  match RuleSet.compile "rerouted" declarations {} with
  | .ok rs => rs
  | .error _ => RuleSet.empty "rerouted"

end Rerouted

theorem rerouted_keeps_last_declaration :
    RuleSet.compile "rerouted" Rerouted.declarations {} = .ok Rerouted.rules ∧
      Rerouted.rules.AssembledFrom "rerouted" {} Rerouted.declarations ∧
      Rerouted.rules.StatesCover :=
  ⟨rfl, RuleSet.compile_keeps_last_declaration rfl⟩

/-- The later declaration's row is kept, and the earlier one's destination stays a state. -/
example :
    SortedMap.get? ⟨"s", .named "go"⟩ Rerouted.rules.table = some ⟨"rerouted", ["second"]⟩ ∧
      "first" ∈ Rerouted.rules.states := by
  decide

end RuleMachine
