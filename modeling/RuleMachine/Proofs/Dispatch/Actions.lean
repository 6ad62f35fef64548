import RuleMachine.Proofs.Dispatch.Merge
/-!
# The actions a value can take

The actions a value lists and the handlers dispatch looks up are found by two separate paths: the
list scans the merged keys of its state and then the bypass events, skipping repeats; dispatch
looks up the named event, then the wildcard, then the bypass. They agree
(`Subject.actions_agree_with_dispatch`):

* the list is the named events of the state's transitions in increasing order, then the
  wildcard when the state has one, then the bypass events not yet listed, in increasing order,
  with no repeats;
* an event is available exactly when it resolves to a handler, and dispatch refuses it as an
  illegal action exactly when it is not available;
* a value whose state cannot be read gets that error from all of them.

The list is what it is because the merged keys are sorted by state and then event, named events
before the wildcard (`Merged.sorted_eventsAt`, `eq_named_append_any`), and skipping repeats over
two lists without repeats keeps the first and what the second adds (`foldl_skip_listed`).
-/

namespace RuleMachine

theorem name_compare_eq_lt {a b : EventName} : compare a b = .lt ↔ a < b :=
  compareOfLessAndEq_eq_lt

/-- Listing a list without repeats after `acc`, skipping what is listed: `acc`, then what the
list adds. -/
theorem foldl_skip_listed {α : Type} [BEq α] [LawfulBEq α] :
    ∀ {l : List α}, l.Nodup → ∀ acc : List α,
      l.foldl (fun acc e => if acc.contains e then acc else acc ++ [e]) acc =
        acc ++ l.filter fun e => !acc.contains e
  | [], _, acc => by simp
  | e :: rest, hl, acc => by
    obtain ⟨he, hrest⟩ := List.nodup_cons.mp hl
    rw [List.foldl_cons]
    by_cases hc : e ∈ acc
    · rw [if_pos (List.contains_iff_mem.mpr hc), foldl_skip_listed hrest acc]
      simp [hc]
    · rw [if_neg (fun h => hc (List.contains_iff_mem.mp h)), foldl_skip_listed hrest (acc ++ [e])]
      -- the later elements differ from `e`, so listing `e` skips none of them
      have hsame : rest.filter (fun x => !(acc ++ [e]).contains x) =
          rest.filter fun x => !acc.contains x := by
        refine List.filter_congr fun x hx => ?_
        have hxe : x ≠ e := fun hxe => he (hxe ▸ hx)
        simp [hxe]
      rw [hsame]
      simp [hc]

/-- A strictly increasing list of events is its named events, then the wildcard if it has it. -/
theorem eq_named_append_any :
    ∀ {L : List Event}, L.Pairwise (fun a b => compare a b = .lt) →
      L = (L.filterMap Event.name?).map Event.named ++ (if Event.any ∈ L then [Event.any] else [])
  | [], _ => by simp
  | .named n :: rest, h => by
    have hrest := eq_named_append_any (List.pairwise_cons.mp h).2
    simp only [List.filterMap_cons, Event.name?, List.map_cons, List.mem_cons, reduceCtorEq,
      false_or, List.cons_append]
    exact congrArg _ hrest
  | .any :: rest, h => by
    -- nothing comes after the wildcard
    have hnil : rest = [] := by
      refine List.eq_nil_iff_forall_not_mem.mpr fun y hy => ?_
      have hlt := (List.pairwise_cons.mp h).1 y hy
      cases y <;> cases hlt
    subst hnil
    simp [Event.name?]

theorem pairwise_name_lt {L : List Event} (h : L.Pairwise fun a b => compare a b = .lt) :
    (L.filterMap Event.name?).Pairwise (· < ·) := by
  refine List.Pairwise.filterMap Event.name? (fun a a' haa' b hb b' hb' => ?_) h
  cases a with
  | named n =>
    cases a' with
    | named n' =>
      simp only [Event.name?, Option.some.injEq] at hb hb'
      subst hb hb'
      exact name_compare_eq_lt.mp haa'
    | any => simp [Event.name?] at hb'
  | any => simp [Event.name?] at hb

namespace Merged

theorem transition?_isSome_iff {m : Merged} (hm : m.OwnersHoldKeys) (k : Key) :
    (m.transition? k).isSome ↔ (SortedMap.get? k m.transitions).isSome := by
  unfold transition?
  cases hget : SortedMap.get? k m.transitions with
  | none => simp
  | some owner =>
    -- the owner holds the key it is stored under
    have hholds := hm (k, owner) (SortedMap.mem_of_get?_eq_some hget)
    simpa using hholds

/-- The events listed at a state are those of its merged keys. -/
theorem mem_eventsAt (m : Merged) (s : StateName) (ev : Event) :
    ev ∈ m.eventsAt s ↔ (SortedMap.get? ⟨s, ev⟩ m.transitions).isSome := by
  rw [SortedMap.get?_isSome_iff_mem_keys]
  simp only [eventsAt, List.mem_map, List.mem_filter, beq_iff_eq]
  constructor
  · rintro ⟨⟨⟨s', ev'⟩, owner⟩, ⟨hp, hs⟩, hev⟩
    simp only at hs hev
    subst hs hev
    exact ⟨(⟨s', ev'⟩, owner), hp, rfl⟩
  · rintro ⟨⟨k, owner⟩, hp, hk⟩
    simp only at hk
    subst hk
    exact ⟨(⟨s, ev⟩, owner), ⟨hp, rfl⟩, rfl⟩

/-- The events at a state are listed in increasing order: the merged keys are sorted by state,
then event. -/
theorem sorted_eventsAt (R : List RuleSet) (s : StateName) :
    ((ofRuleSets R).eventsAt s).Pairwise fun a b => compare a b = .lt := by
  refine List.pairwise_map.mpr (List.pairwise_filter.mpr ((sorted_transitions R).imp ?_))
  intro p q hpq hp hq
  simp only [beq_iff_eq] at hp hq
  -- two keys of one state compare as their events
  have hkey : (compare p.1.state q.1.state).then (compare p.1.event q.1.event) = .lt := hpq
  have hself : compare s s = .eq := Std.ReflCmp.compare_self
  rw [hp, hq, hself, Ordering.eq_then] at hkey
  exact hkey

theorem nodup_eventsAt (R : List RuleSet) (s : StateName) :
    ((ofRuleSets R).eventsAt s).Nodup :=
  (sorted_eventsAt R s).imp fun {a b} hab heq => by
    subst heq
    simp at hab

theorem mem_names_eventsAt (m : Merged) (s : StateName) (e : EventName) :
    e ∈ (m.eventsAt s).filterMap Event.name? ↔ Event.named e ∈ m.eventsAt s := by
  rw [List.mem_filterMap]
  constructor
  · rintro ⟨ev, hev, hname⟩
    cases ev with
    | named n =>
      simp only [Event.name?, Option.some.injEq] at hname
      exact hname ▸ hev
    | any => simp [Event.name?] at hname
  · intro he
    exact ⟨.named e, he, rfl⟩

theorem mem_bypassEvents (m : Merged) (b : EventName) :
    b ∈ m.bypassEvents ↔ (m.bypass? b).isSome := by
  rw [bypass?, SortedMap.get?_isSome_iff_mem_keys]
  rfl

theorem sorted_bypassEvents (R : List RuleSet) :
    ((ofRuleSets R).bypassEvents).Pairwise fun a b => compare a b = .lt :=
  List.pairwise_map.mpr (sorted_ofRuleSets R).2

theorem nodup_bypassEvents (R : List RuleSet) :
    (((ofRuleSets R).bypassEvents).map Event.named).Nodup := by
  refine (List.nodup_map_iff fun a b h => Event.named.inj h).mpr ?_
  exact (sorted_bypassEvents R).imp fun {a b} hab heq => by
    subst heq
    simp at hab

/-- A handler is found exactly when the state has a transition on the event or a wildcard one,
or the event has a bypass. -/
theorem resolve_isSome (m : Merged) (s : StateName) (e : EventName) :
    (m.resolve s e).isSome =
      ((m.transition? ⟨s, .named e⟩).isSome || (m.transition? ⟨s, .any⟩).isSome ||
        (m.bypass? e).isSome) := by
  unfold resolve
  cases m.transition? ⟨s, .named e⟩ <;> cases m.transition? ⟨s, .any⟩ <;> simp

end Merged

namespace Subject

variable {cat : Catalog} {v : Subject} {s : StateName}

/-- On a value in state `s`, the actions are the state's events, then the bypass events not yet
listed. -/
theorem availableActions_eq (hs : v.stateName = .ok s) :
    v.availableActions cat = .ok ((v.merged cat).eventsAt s ++
      ((v.merged cat).bypassEvents.map Event.named).filter fun x => !((v.merged cat).eventsAt s).contains x) := by
  have hevents : ((v.merged cat).eventsAt s).Nodup := Merged.nodup_eventsAt _ s
  have hbypass : ((v.merged cat).bypassEvents.map Event.named).Nodup :=
    Merged.nodup_bypassEvents _
  simp only [availableActions, hs, Except.map]
  rw [List.foldl_append, foldl_skip_listed hevents, foldl_skip_listed hbypass]
  simp

/-- The actions split into the state's named events, its wildcard and the bypass events whose
name the state does not already list. -/
theorem availableActions_shape (hs : v.stateName = .ok s) :
    v.availableActions cat = .ok
      ((((v.merged cat).eventsAt s).filterMap Event.name?).map Event.named ++
        (if ((v.merged cat).transition? ⟨s, .any⟩).isSome then [Event.any] else []) ++
        ((v.merged cat).bypassEvents.filter fun b =>
          !((v.merged cat).eventsAt s).contains (Event.named b)).map Event.named) := by
  have howners : (v.merged cat).OwnersHoldKeys := Merged.ownersHoldKeys_ofRuleSets _
  have hany : Event.any ∈ (v.merged cat).eventsAt s ↔
      ((v.merged cat).transition? ⟨s, .any⟩).isSome := by
    rw [Merged.mem_eventsAt, Merged.transition?_isSome_iff howners]
  have hsorted : ((v.merged cat).eventsAt s).Pairwise fun a b => compare a b = .lt :=
    Merged.sorted_eventsAt _ s
  rw [availableActions_eq hs, List.filter_map]
  -- the state's events are its named ones, then the wildcard, because the wildcard sorts last
  nth_rewrite 1 [eq_named_append_any hsorted]
  simp only [hany, Function.comp_def]

/-- Whether an event is available is whether it resolves to a handler. -/
theorem actionAvailable_eq (hs : v.stateName = .ok s) (e : EventName) :
    v.actionAvailable cat e = .ok ((v.merged cat).resolve s e).isSome := by
  have howners : (v.merged cat).OwnersHoldKeys := Merged.ownersHoldKeys_ofRuleSets _
  simp only [actionAvailable, availableActions_eq hs, Except.map, Except.ok.injEq,
    Merged.resolve_isSome]
  apply Bool.eq_iff_iff.mpr
  simp only [Bool.or_eq_true, List.contains_eq_mem, decide_eq_true_eq, List.mem_append,
    List.mem_filter, Bool.not_eq_true', decide_eq_false_iff_not, List.mem_map,
    Merged.mem_eventsAt, Merged.transition?_isSome_iff howners, Merged.mem_bypassEvents]
  constructor
  · rintro ((hany | ⟨⟨b, -, hb⟩, -⟩) | (hnamed | ⟨⟨b, hbyp, hb⟩, -⟩))
    · exact .inl (.inr hany)
    · cases hb
    · exact .inl (.inl hnamed)
    · cases hb
      exact .inr hbyp
  · rintro ((hnamed | hany) | hbyp)
    · exact .inr (.inl hnamed)
    · exact .inl (.inl hany)
    · by_cases hnamed : (SortedMap.get? ⟨s, .named e⟩ (v.merged cat).transitions).isSome
      · exact .inr (.inl hnamed)
      · exact .inr (.inr ⟨⟨e, hbyp, rfl⟩, hnamed⟩)

/-- A settled reply is never an illegal action: that refusal is only for events without a
handler. -/
theorem settle_ne_illegalAction (value : Subject) (state : StateName) (event : EventName)
    (handler : Handler) (r : Option Reply) (s' : StateName) (e' : EventName) :
    (Reply.settle value state event handler r).1 ≠ .refused (.illegalAction s' e') := by
  rcases r with _ | ⟨kept⟩ | ⟨name, moved⟩ | ⟨reason⟩
  · simp [Reply.settle]
  · simp only [Reply.settle]
    split
    · split <;> simp
    · simp
  · cases moved with
    | plan steps =>
      simp only [Reply.settle]
      split <;> simp
    | record rec => simp [Reply.settle]
    | changeset c => simp [Reply.settle]
  · simp [Reply.settle]

/-- On a value in state `s` that is not a changeset with errors, dispatch refuses an event as
illegal exactly when no handler is found for it. -/
theorem dispatch_eq_illegalAction_iff (hs : v.stateName = .ok s)
    (hvalid : v.isInvalidChangeset = false) (e : EventName) (params : Json) :
    dispatch cat v e params = .refused (.illegalAction s e) ↔ (v.merged cat).resolve s e = none := by
  constructor
  · intro hd
    cases hres : (v.merged cat).resolve s e with
    | none => rfl
    | some h =>
      have hsettle : dispatch cat v e params = (Reply.settle v s e h (h.answer v e params)).1 :=
        dispatch_eq_settle hvalid hs (by simp [resolve, hs, hres, Except.map])
      exact absurd (hsettle.symm.trans hd) (settle_ne_illegalAction _ _ _ _ _ s e)
  · intro hnone
    simp [dispatch, dispatchNoted, hvalid, hs, hnone]

/-- The actions a value can take, read off the merged table of its rule-sets: on a readable
state, the named events of the state's transitions in increasing order, then the wildcard if the
state has one, then the bypass events not yet listed in increasing order, with no repeats; an
event is available exactly when it resolves to a handler, and dispatch refuses it as an illegal
action exactly when it is not available. On a state that cannot be read, listing, checking,
resolving and dispatching all fail with the same error. -/
theorem actions_agree_with_dispatch (cat : Catalog) (v : Subject) :
    (∀ s, v.stateName = .ok s →
      (∃ (acts : List Event) (named byp : List EventName), v.availableActions cat = .ok acts ∧
        acts = named.map Event.named ++
          (if ((v.merged cat).transition? ⟨s, .any⟩).isSome then [Event.any] else []) ++
          byp.map Event.named ∧
        acts.Nodup ∧
        named.Pairwise (· < ·) ∧
        (∀ e, e ∈ named ↔ ((v.merged cat).transition? ⟨s, .named e⟩).isSome) ∧
        byp.Pairwise (· < ·) ∧
        (∀ b, b ∈ byp ↔ ((v.merged cat).bypass? b).isSome ∧ b ∉ named)) ∧
      (∀ e, v.actionAvailable cat e = .ok true ↔ ∃ h, v.resolve cat e = .ok (some h)) ∧
      (v.isInvalidChangeset = false → ∀ e params,
        dispatch cat v e params = .refused (.illegalAction s e) ↔
          v.actionAvailable cat e = .ok false)) ∧
    (∀ err, v.stateName = .error err →
      v.availableActions cat = .error err ∧
      (∀ e, v.actionAvailable cat e = .error err ∧ v.resolve cat e = .error err) ∧
      (v.isInvalidChangeset = false → ∀ e params,
        dispatch cat v e params = .refused (.unreadable err))) := by
  refine ⟨fun s hs => ⟨?_, fun e => ?_, fun hvalid e params => ?_⟩, fun err herr => ?_⟩
  · have howners : (v.merged cat).OwnersHoldKeys := Merged.ownersHoldKeys_ofRuleSets _
    have hnamed : ∀ e, e ∈ ((v.merged cat).eventsAt s).filterMap Event.name? ↔
        ((v.merged cat).transition? ⟨s, .named e⟩).isSome := fun e => by
      rw [Merged.mem_names_eventsAt, Merged.mem_eventsAt, Merged.transition?_isSome_iff howners]
    refine ⟨_, _, _, availableActions_shape hs, rfl, ?_, ?_, hnamed, ?_, fun b => ?_⟩
    · -- the same list, before it is split
      have hjoined : v.availableActions cat = _ := availableActions_eq hs
      have hsplit := hjoined.symm.trans (availableActions_shape hs)
      rw [← Except.ok.inj hsplit]
      refine List.nodup_append.mpr ⟨Merged.nodup_eventsAt _ s,
        (Merged.nodup_bypassEvents _).filter _, fun a ha b hb hab => ?_⟩
      subst hab
      simp [ha] at hb
    · exact pairwise_name_lt (Merged.sorted_eventsAt _ s)
    · exact ((Merged.sorted_bypassEvents _).filter _).imp name_compare_eq_lt.mp
    · rw [List.mem_filter, Merged.mem_bypassEvents, Merged.mem_names_eventsAt]
      simp
  · have hres : v.resolve cat e = .ok ((v.merged cat).resolve s e) := by
      simp [resolve, hs, Except.map]
    rw [actionAvailable_eq hs, hres]
    cases (v.merged cat).resolve s e <;> simp
  · rw [dispatch_eq_illegalAction_iff hs hvalid, actionAvailable_eq hs]
    cases (v.merged cat).resolve s e <;> simp
  · refine ⟨by simp [availableActions, herr, Except.map], fun e => ?_, fun hvalid e params => ?_⟩
    · simp [actionAvailable, availableActions, resolve, herr, Except.map]
    · simp [dispatch, dispatchNoted, hvalid, herr]

end Subject

end RuleMachine
