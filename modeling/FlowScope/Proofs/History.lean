import FlowScope.History

/-!
# Lawful histories

A rule for the use of things says which events are allowed after which others. A history is lawful if
every event in it was allowed by what had happened to its thing before. Recording an event that is
allowed keeps a history lawful, and no other history is: `lawful_record_iff`.
-/

namespace FlowScope.History

variable {ε : Type}

/-- Each event was allowed by the earlier events of its thing, the latest first. -/
def Lawful (allowed : List ε → ε → Prop) (h : History ε) : Prop :=
  ∀ later i event earlier, h = later ++ (i, event) :: earlier → allowed (about earlier i) event

theorem lawful_nil (allowed : List ε → ε → Prop) : Lawful allowed [] := by
  intro later i event earlier h
  simp at h

theorem lawful_record_iff {allowed : List ε → ε → Prop} {h : History ε} {i : Nat} {event : ε} :
    (h.record i event).Lawful allowed ↔ allowed (h.about i) event ∧ h.Lawful allowed := by
  constructor
  · intro hlaw
    refine ⟨hlaw [] i event h rfl, ?_⟩
    intro later j event' earlier hsplit
    exact hlaw ((i, event) :: later) j event' earlier (by rw [record, hsplit]; rfl)
  · rintro ⟨hallowed, hlaw⟩ later j event' earlier hsplit
    -- the event is the one recorded last, or the law held of it before
    cases later with
    | nil =>
        rw [record, List.nil_append, List.cons.injEq, Prod.mk.injEq] at hsplit
        obtain ⟨⟨rfl, rfl⟩, rfl⟩ := hsplit
        exact hallowed
    | cons x later =>
        rw [record, List.cons_append, List.cons.injEq] at hsplit
        exact hlaw later j event' earlier hsplit.2

/-- What is known of a thing after an event. -/
theorem about_record (h : History ε) (i j : Nat) (event : ε) :
    (h.record i event).about j = if i = j then event :: h.about j else h.about j := by
  by_cases hij : i = j
  · subst hij
    rw [if_pos rfl, about_record_self]
  · rw [if_neg hij, about_record_of_ne h event hij]

/-! ## Several events -/

theorem about_append (h h' : History ε) (i : Nat) : about (h ++ h') i = about h i ++ about h' i :=
  List.filterMap_append

theorem about_eq_nil {h : History ε} {i : Nat} (hi : i ∉ h.map (·.1)) : about h i = [] := by
  refine List.filterMap_eq_nil_iff.mpr fun entry hentry => ?_
  rw [if_neg]
  rintro rfl
  exact hi (List.mem_map_of_mem hentry)

/-- Among events that are about one thing each, there is one about a thing. -/
theorem about_eq_singleton {h : History ε} (hnodup : (h.map (·.1)).Nodup) {i : Nat} {event : ε}
    (hmem : (i, event) ∈ h) : about h i = [event] := by
  induction h with
  | nil => cases hmem
  | cons entry h ih =>
      obtain ⟨hentry, hnodup⟩ := List.nodup_cons.mp hnodup
      show about (record h entry.1 entry.2) i = [event]
      rw [about_record]
      -- nothing else is recorded about it, be it before or after
      rcases List.mem_cons.mp hmem with rfl | hmem
      · rw [if_pos rfl, about_eq_nil hentry]
      · rw [if_neg, ih hnodup hmem]
        rintro rfl
        exact hentry (List.mem_map.mpr ⟨_, hmem, rfl⟩)

/-- After calls to different things, with the latest first, what is known of a thing begins with its
call. -/
theorem about_calls {α : Type} (event : α → ε) {calls : List (Nat × α)}
    (hnodup : (calls.map (·.1)).Nodup) {i : Nat} {x : α} (hmem : (i, x) ∈ calls) (h : History ε) :
    about ((calls.map fun call => (call.1, event call.2)).reverse ++ h) i = event x :: about h i := by
  have hevents : about (calls.map fun call => (call.1, event call.2)).reverse i = [event x] := by
    apply about_eq_singleton
    · rw [List.map_reverse, List.map_map]
      exact (List.reverse_perm _).nodup_iff.mpr hnodup
    · exact List.mem_reverse.mpr (List.mem_map.mpr ⟨_, hmem, rfl⟩)
  rw [about_append, hevents]
  rfl

end FlowScope.History
