import RuleMachine.RuleSet.Compile
import RuleMachine.Proofs.Rule.Analysis
/-!
# What compiling reports, and what it builds

**Faults.** Read off the declarations themselves, the faults of a rule-set are
(`compileFaults`): declaration by declaration, for a transition the faults of its state, its
event and its body, each found on its own, and then, only when those three are sound and the
declaration names no destinations, the faults of its body's analysis; for a bypass the faults
of its event and its body. Compiling succeeds exactly when that list is empty, and otherwise
fails with exactly that list (`RuleSet.compile_reports_every_fault`). Each check reports its
faults as a list that combining only appends to (`Declaration.check_faults`), and a check that
fails names at least one fault, so an empty list means success.

**Rows and bodies.** Under `reject`, from declarations that leave their destinations to the
analysis, every row of the compiled table is the analysis of the body stored under the same key
from the row's own state (`RuleSet.compile_analysed`). Rows and bodies are written together
by one declaration, so the later of two declarations of one key replaces both. A compiled
rule-set is the assembly of the checked declarations (`RuleSet.compile_eq_ok`), so it has what
the empty rule-set has and every write keeps (`RuleSet.assemble_induction`).
-/

namespace RuleMachine

namespace Declaration

/-- The faults of a name that must be there and must not be empty. -/
def nameFaults (missing : DeclarationError) (site : String) : Option String → List DeclarationError
  | none => [missing]
  | some n => if n = "" then [.emptyName site] else []

/-- The faults of a transition's event: it must be there, and a named one must not be empty. -/
def eventFaults (site : String) : Option Event → List DeclarationError
  | none => [.missingEvent site]
  | some (.named n) => if n = "" then [.emptyName site] else []
  | some .any => []

/-- The fault of a missing body. -/
def bodyFaults (site : String) : Option Body → List DeclarationError
  | none => [.missingBody site]
  | some _ => []

/-- The faults of declaration `index`, in the order they are reported. A transition: its state,
its event and its body, each on its own, then, only when those three are sound and it names no
destinations, its body's analysis from its state. A bypass: its event, then its body. -/
def faults (options : CompileOptions) (index : Nat) : Declaration → List DeclarationError
  | .transition d =>
    let heads := nameFaults (.missingState (site index)) (site index) d.state ++
      eventFaults (site index) d.event ++ bodyFaults (site index) d.body
    heads ++
      match d.state, d.event, d.body, d.destinations with
      | some s, some e, some b, none =>
        if heads = [] then
          Checked.faults (b.destinations options.unrecognizedArms (bodySite index s e) s)
        else []
      | _, _, _, _ => []
  | .bypass d =>
    nameFaults (.missingEvent (site index)) (site index) d.event ++ bodyFaults (site index) d.body

end Declaration

/-- Every fault of a list of declarations, declaration by declaration, the first counted `0`. -/
def compileFaults (options : CompileOptions) (decls : List Declaration) : List DeclarationError :=
  (decls.mapIdx fun i d => d.faults options i).flatten

namespace Declaration

variable {site : String}

theorem checkState_faults (x : Option StateName) :
    Checked.faults (checkState site x) = nameFaults (.missingState site) site x := by
  cases x with
  | none => rfl
  | some s => by_cases h : s = "" <;> simp [checkState, nameFaults, h, String.isEmpty_iff]

theorem checkEvent_faults (x : Option Event) :
    Checked.faults (checkEvent site x) = eventFaults site x := by
  rcases x with _ | _ | _
  · rfl
  · rename_i n
    by_cases h : n = "" <;> simp [checkEvent, eventFaults, h, String.isEmpty_iff]
  · rfl

theorem checkBypassEvent_faults (x : Option EventName) :
    Checked.faults (checkBypassEvent site x) = nameFaults (.missingEvent site) site x := by
  cases x with
  | none => rfl
  | some n => by_cases h : n = "" <;> simp [checkBypassEvent, nameFaults, h, String.isEmpty_iff]

theorem checkBody_faults (x : Option Body) : Checked.faults (checkBody site x) = bodyFaults site x := by
  cases x <;> rfl

theorem checkState_faulty (x : Option StateName) : Checked.Faulty (checkState site x) := by
  intro es h
  cases x with
  | none => cases h; exact List.cons_ne_nil _ _
  | some s =>
    simp only [checkState] at h
    split at h
    · cases h; exact List.cons_ne_nil _ _
    · cases h

theorem checkEvent_faulty (x : Option Event) : Checked.Faulty (checkEvent site x) := by
  intro es h
  rcases x with _ | _ | _
  · cases h; exact List.cons_ne_nil _ _
  · simp only [checkEvent] at h
    split at h
    · cases h; exact List.cons_ne_nil _ _
    · cases h
  · cases h

theorem checkBypassEvent_faulty (x : Option EventName) :
    Checked.Faulty (checkBypassEvent site x) := by
  intro es h
  cases x with
  | none => cases h; exact List.cons_ne_nil _ _
  | some n =>
    simp only [checkBypassEvent] at h
    split at h
    · cases h; exact List.cons_ne_nil _ _
    · cases h

theorem checkBody_faulty (x : Option Body) : Checked.Faulty (checkBody site x) := by
  intro es h
  cases x with
  | none => cases h; exact List.cons_ne_nil _ _
  | some b => cases h

theorem eq_some_of_checkState_eq_ok {x : Option StateName} {s : StateName}
    (h : checkState site x = .ok s) : x = some s := by
  cases x with
  | none => cases h
  | some s' =>
    simp only [checkState] at h
    split at h
    · cases h
    · cases h; rfl

theorem eq_some_of_checkEvent_eq_ok {x : Option Event} {e : Event}
    (h : checkEvent site x = .ok e) : x = some e := by
  rcases x with _ | _ | _
  · cases h
  · simp only [checkEvent] at h
    split at h
    · cases h
    · cases h; rfl
  · cases h; rfl

theorem eq_some_of_checkBody_eq_ok {x : Option Body} {b : Body}
    (h : checkBody site x = .ok b) : x = some b := by
  cases x with
  | none => cases h
  | some b' => cases h; rfl

/-- A declaration's check reports exactly its faults, in order. -/
theorem check_faults (options : CompileOptions) (index : Nat) (d : Declaration) :
    Checked.faults (d.check options index) = d.faults options index := by
  cases d with
  | transition d =>
    have hheads : Checked.faults (Checked.both (Checked.both (checkState (site index) d.state)
        (checkEvent (site index) d.event)) (checkBody (site index) d.body)) =
        nameFaults (.missingState (site index)) (site index) d.state ++
          eventFaults (site index) d.event ++ bodyFaults (site index) d.body := by
      simp only [Checked.faults_both, checkState_faults, checkEvent_faults, checkBody_faults]
    simp only [check, faults]
    split
    · rename_i es heq
      rw [heq, Checked.faults_error] at hheads
      -- the heads failed, so they name a fault and the analysis is not run
      have hne : es ≠ [] :=
        (((checkState_faulty d.state).both (checkEvent_faulty d.event)).both
          (checkBody_faulty d.body)) es heq
      rw [← hheads]
      split <;> simp [hne]
    · rename_i s e b heq
      rw [heq, Checked.faults_ok] at hheads
      obtain ⟨⟨s', e'⟩, b', hse, hb, hpair⟩ := Checked.both_eq_ok.mp heq
      obtain ⟨s'', e'', hs, he, hpair'⟩ := Checked.both_eq_ok.mp hse
      cases hpair
      cases hpair'
      rw [← hheads, eq_some_of_checkState_eq_ok hs, eq_some_of_checkEvent_eq_ok he,
        eq_some_of_checkBody_eq_ok hb]
      cases d.destinations <;> simp
  | bypass d =>
    simp [check, faults, checkBypassEvent_faults, checkBody_faults]

/-- A declaration's check that fails names at least one fault. -/
theorem check_faulty (options : CompileOptions) (index : Nat) (d : Declaration) :
    Checked.Faulty (d.check options index) := by
  cases d with
  | transition d =>
    simp only [check]
    split
    · rename_i es heq
      have hne : es ≠ [] :=
        (((checkState_faulty d.state).both (checkEvent_faulty d.event)).both
          (checkBody_faulty d.body)) es heq
      intro es' h'
      exact Except.error.inj h' ▸ hne
    · split
      · exact (Checked.faulty_ok _).map _
      · exact (Body.walk_faulty _ _).map _
  | bypass d => exact ((checkBypassEvent_faulty d.event).both (checkBody_faulty d.body)).map _

end Declaration

theorem checkAll_faults (options : CompileOptions) (decls : List Declaration) :
    ∀ n, Checked.faults (checkAll options n decls) =
      (decls.mapIdx fun i d => d.faults options (n + i)).flatten := by
  induction decls with
  | nil => intro n; rfl
  | cons d rest ih =>
    intro n
    simp only [checkAll, Checked.faults_map, Checked.faults_both, Declaration.check_faults, ih,
      List.mapIdx_cons, List.flatten_cons, Nat.add_zero]
    simp only [Nat.add_assoc, Nat.add_comm 1]

theorem checkAll_faulty (options : CompileOptions) (decls : List Declaration) :
    ∀ n, Checked.Faulty (checkAll options n decls) := by
  induction decls with
  | nil => intro n; exact Checked.faulty_ok _
  | cons d rest ih => intro n; exact ((d.check_faulty options n).both (ih (n + 1))).map _

namespace RuleSet

/-- Compiling succeeds exactly when the declarations have no fault, and otherwise reports every
fault of every declaration, in order, under the rule-set's identifier, in the text
`rule-set '<id>' is malformed: ` followed by the faults' texts joined by `; `. -/
theorem compile_reports_every_fault (id : RuleSetId) (decls : List Declaration)
    (options : CompileOptions) :
    ((∃ rs, compile id decls options = .ok rs) ↔ compileFaults options decls = []) ∧
      (compileFaults options decls ≠ [] →
        compile id decls options = .error ⟨id, compileFaults options decls⟩) ∧
      (CompileError.mk id (compileFaults options decls)).message =
        "rule-set '" ++ id ++ "' is malformed: " ++
          "; ".intercalate ((compileFaults options decls).map DeclarationError.message) := by
  have hfaults : Checked.faults (checkAll options 0 decls) = compileFaults options decls := by
    simp [checkAll_faults, compileFaults]
  refine ⟨⟨?_, ?_⟩, ?_, rfl⟩
  · rintro ⟨rs, hrs⟩
    rw [← hfaults]
    unfold compile at hrs
    split at hrs
    · rename_i entries heq
      rw [heq, Checked.faults_ok]
    · cases hrs
  · intro hnil
    obtain ⟨entries, heq⟩ := Checked.exists_eq_ok_of_faults_eq_nil (checkAll_faulty options decls 0)
      (hfaults.trans hnil)
    exact ⟨assemble id entries, by simp [compile, heq]⟩
  · intro hne
    cases heq : checkAll options 0 decls with
    | ok entries =>
      rw [heq, Checked.faults_ok] at hfaults
      exact absurd hfaults.symm hne
    | error es =>
      rw [heq, Checked.faults_error] at hfaults
      simp [compile, heq, hfaults]

end RuleSet

/-- Whether a declaration names its destinations instead of leaving them to the analysis. -/
def Declaration.namesDestinations : Declaration → Bool
  | .transition d => d.destinations.isSome
  | .bypass _ => false

/-- A checked transition whose destinations are the analysis of its body under `reject`, from
its own state. -/
def Entry.Analysed : Entry → Prop
  | .transition key body dests _ => ∃ site, body.destinations .reject site key.state = .ok dests
  | .bypass _ _ _ => True

/-- Every row of the table is the analysis under `reject`, from the row's state, of the body
stored beside it under the same key. -/
def RuleSet.Analysed (rs : RuleSet) : Prop :=
  ∀ k row, SortedMap.get? k rs.table = some row →
    ∃ b site, rs.transitionBody? k = some b ∧
      b.destinations .reject site k.state = .ok row.destinations

theorem Declaration.check_analysed {index : Nat} {d : Declaration} {entry : Entry}
    (h : d.check { unrecognizedArms := .reject } index = .ok entry)
    (hd : d.namesDestinations = false) : entry.Analysed := by
  cases d with
  | transition d =>
    have hnone : d.destinations = none := by simpa [namesDestinations] using hd
    simp only [check, hnone] at h
    split at h
    · cases h
    · rename_i s e b _
      obtain ⟨ds, hds, rfl⟩ := Checked.map_eq_ok.mp h
      exact ⟨_, hds⟩
  | bypass d =>
    obtain ⟨p, -, rfl⟩ := Checked.map_eq_ok.mp h
    trivial

theorem checkAll_analysed {decls : List Declaration}
    (hd : ∀ d ∈ decls, d.namesDestinations = false) :
    ∀ {n : Nat} {entries : List Entry}, checkAll { unrecognizedArms := .reject } n decls = .ok entries →
      ∀ e ∈ entries, e.Analysed := by
  induction decls with
  | nil =>
    intro n entries h e he
    cases h
    cases he
  | cons d rest ih =>
    intro n entries h e he
    obtain ⟨⟨x, xs⟩, hboth, rfl⟩ := Checked.map_eq_ok.mp h
    obtain ⟨x', xs', hx, hxs, hpair⟩ := Checked.both_eq_ok.mp hboth
    cases hpair
    rcases List.mem_cons.mp he with rfl | hrest
    · exact Declaration.check_analysed hx (hd d List.mem_cons_self)
    · exact ih (fun d' hd' => hd d' (List.mem_cons_of_mem _ hd')) hxs e hrest

namespace RuleSet

/-- Writing an analysed entry keeps every row analysed: a transition writes its row and its
body under one key. -/
theorem addEntry_analysed {rs : RuleSet} (hrs : rs.Analysed) {entry : Entry}
    (he : entry.Analysed) : (rs.addEntry entry).Analysed := by
  intro k row hrow
  cases entry with
  | transition key body dests doc =>
    obtain ⟨site, hsite⟩ := he
    simp only [addEntry, SortedMap.get?_insert] at hrow
    split at hrow
    · rename_i hk
      subst hk
      cases hrow
      exact ⟨body, site, by simp [addEntry, transitionBody?, SortedMap.get?_insert], hsite⟩
    · rename_i hk
      obtain ⟨b, site', hb, hwalk⟩ := hrs k row hrow
      refine ⟨b, site', ?_, hwalk⟩
      simpa [addEntry, transitionBody?, SortedMap.get?_insert, hk] using hb
  | bypass event body doc => exact hrs k row hrow

/-- A compiled rule-set is the assembly of the checked declarations. -/
theorem compile_eq_ok {id : RuleSetId} {decls : List Declaration} {options : CompileOptions}
    {rs : RuleSet} (h : compile id decls options = .ok rs) :
    ∃ entries, checkAll options 0 decls = .ok entries ∧ rs = assemble id entries := by
  unfold compile at h
  split at h
  · rename_i entries hentries
    cases h
    exact ⟨entries, hentries, rfl⟩
  · cases h

/-- What the empty rule-set has and every write of one of the entries keeps, the assembled
rule-set has. -/
theorem assemble_induction (P : RuleSet → Prop) {id : RuleSetId} {entries : List Entry}
    (hempty : P (empty id)) (hwrite : ∀ rs, ∀ e ∈ entries, P rs → P (rs.addEntry e)) :
    P (assemble id entries) :=
  List.foldlRecOn entries addEntry hempty fun rs hrs e he => hwrite rs e he hrs

/-- Compiled under `reject` from declarations that leave their destinations to the analysis,
every row of the table is the analysis of the body stored under its key, from its state. -/
theorem compile_analysed {id : RuleSetId} {decls : List Declaration} {rs : RuleSet}
    (h : compile id decls { unrecognizedArms := .reject } = .ok rs)
    (hd : ∀ d ∈ decls, d.namesDestinations = false) : rs.Analysed := by
  obtain ⟨entries, hentries, rfl⟩ := compile_eq_ok h
  have hall := checkAll_analysed hd hentries
  -- the rows are written one entry at a time, starting from the empty table
  exact assemble_induction Analysed (fun k row hrow => by cases hrow)
    fun acc e he hacc => addEntry_analysed hacc (hall e he)

end RuleSet

end RuleMachine
