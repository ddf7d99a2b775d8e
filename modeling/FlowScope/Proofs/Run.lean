import FlowScope.Run

/-!
# Runs at their end, and conditions on runs

A run that is one event longer is taken apart at its end (`after_snoc`, `snoc_eq_append_cons_iff`), for
statements about the latest event of some kind.

Some runs are allowed and others are not, depending on the state in which each event finds the machine.
`Always` says that a condition on the state and the event is met throughout a run. What the events that
meet it keep holds after the run: `after_induction_of_always`.

`Since` says that some event of a run met one condition, and all events since met another. What each event
either brings about or keeps holds after a run exactly if it was brought about and kept since, or there
at the start and always kept: `after_iff_since`.
-/

namespace FlowScope

variable {σ ε α : Type} {step : σ → ε → σ × α} {P Q : σ → ε → Prop}
  {s : σ} {event : ε} {events : List ε}

theorem after_snoc (step : σ → ε → σ × α) (s : σ) (events : List ε) (event : ε) :
    after step s (events ++ [event]) = (step (after step s events) event).1 := by
  unfold after
  rw [run_append]
  rfl

/-- An event of a run that is one event longer is the last one, or one of the run before. -/
theorem snoc_eq_append_cons_iff {first since : List ε} {x : ε} :
    events ++ [event] = first ++ x :: since ↔
      (events = first ∧ event = x ∧ since = []) ∨
        ∃ since', events = first ++ x :: since' ∧ since = since' ++ [event] := by
  constructor
  · intro h
    -- the element that is singled out is the last one, or something comes after it
    rcases List.eq_nil_or_concat since with rfl | ⟨since', last, rfl⟩
    · obtain ⟨rfl, hx⟩ := List.append_inj' h rfl
      exact .inl ⟨rfl, List.singleton_inj.mp hx, rfl⟩
    · rw [List.concat_eq_append, ← List.cons_append, ← List.append_assoc] at h
      obtain ⟨rfl, hlast⟩ := List.append_inj' h rfl
      obtain rfl := List.singleton_inj.mp hlast
      exact .inr ⟨since', rfl, List.concat_eq_append⟩
  · rintro (⟨rfl, rfl, rfl⟩ | ⟨since', rfl, rfl⟩)
    · rfl
    · simp

/-- Each event of the run meets the condition in the state in which it happens. -/
def Always (step : σ → ε → σ × α) (P : σ → ε → Prop) (s : σ) (events : List ε) : Prop :=
  ∀ first event later, events = first ++ event :: later → P (after step s first) event

theorem always_nil : Always step P s [] := by
  intro first event later h
  simp at h

theorem always_cons_iff :
    Always step P s (event :: events) ↔ P s event ∧ Always step P (step s event).1 events := by
  constructor
  · intro h
    refine ⟨h [] event events rfl, ?_⟩
    rintro first event' later rfl
    exact h (event :: first) event' later rfl
  · rintro ⟨hevent, hevents⟩ first event' later hsplit
    -- a split of the longer run is at its first event or within the rest
    cases first with
    | nil =>
        obtain ⟨rfl, rfl⟩ := List.cons.inj hsplit
        exact hevent
    | cons x first =>
        obtain ⟨rfl, rfl⟩ := List.cons.inj hsplit
        exact hevents first event' later rfl

theorem Always.and (hP : Always step P s events) (hQ : Always step Q s events) :
    Always step (fun s event => P s event ∧ Q s event) s events :=
  fun first event later h => ⟨hP first event later h, hQ first event later h⟩

/-- A condition on the events alone is met if it is met by each. -/
theorem always_of_forall {P : ε → Prop} (h : ∀ event ∈ events, P event) :
    Always step (fun _ event => P event) s events := by
  rintro first event later rfl
  exact h event (List.mem_append_right _ List.mem_cons_self)

/-- What each step that meets the condition keeps holds after every run that meets it. -/
theorem after_induction_of_always {motive : σ → Prop}
    (step_case : ∀ s event, P s event → motive s → motive (step s event).1)
    (halways : Always step P s events) (start_case : motive s) : motive (after step s events) := by
  induction events generalizing s with
  | nil => exact start_case
  | cons event events ih =>
      obtain ⟨hevent, hevents⟩ := always_cons_iff.mp halways
      exact ih hevents (step_case s event hevent start_case)

/-- What each step that meets the condition keeps holds before each event of a run that meets it. -/
theorem Always.keeping {motive : σ → Prop} (halways : Always step P s events)
    (step_case : ∀ s event, P s event → motive s → motive (step s event).1) (start_case : motive s) :
    Always step (fun s _ => motive s) s events := by
  induction events generalizing s with
  | nil => exact always_nil
  | cons event events ih =>
      obtain ⟨hevent, hevents⟩ := always_cons_iff.mp halways
      exact always_cons_iff.mpr ⟨start_case, ih hevents (step_case s event hevent start_case)⟩

/-- An event of the run meets the first condition in the state in which it happens, and each later one
meets the second. -/
def Since (step : σ → ε → σ × α) (P Q : σ → ε → Prop) (s : σ) (events : List ε) : Prop :=
  ∃ first event later, events = first ++ event :: later ∧ P (after step s first) event ∧
    Always step Q (step (after step s first) event).1 later

theorem not_since_nil : ¬ Since step P Q s [] := by
  rintro ⟨first, event, later, hsplit, -⟩
  simp at hsplit

theorem since_cons_iff :
    Since step P Q s (event :: events) ↔
      (P s event ∧ Always step Q (step s event).1 events) ∨ Since step P Q (step s event).1 events := by
  constructor
  · rintro ⟨first, event', later, hsplit, hevent, hlater⟩
    cases first with
    | nil =>
        obtain ⟨rfl, rfl⟩ := List.cons.inj hsplit
        exact .inl ⟨hevent, hlater⟩
    | cons x first =>
        obtain ⟨rfl, rfl⟩ := List.cons.inj hsplit
        exact .inr ⟨first, event', later, rfl, hevent, hlater⟩
  · rintro (⟨hevent, hlater⟩ | ⟨first, event', later, rfl, hevent, hlater⟩)
    · exact ⟨[], event, events, rfl, hevent, hlater⟩
    · exact ⟨event :: first, event', later, rfl, hevent, hlater⟩

/-- If each event of a run brings something about or keeps it, then it is there after the run if it was
brought about and kept since, or there at the start and always kept. -/
theorem after_iff_since {R : σ → Prop}
    (hsteps : Always step (fun s event => R (step s event).1 ↔ P s event ∨ (R s ∧ Q s event)) s events) :
    R (after step s events) ↔ Since step P Q s events ∨ (R s ∧ Always step Q s events) := by
  induction events generalizing s with
  | nil =>
      show R s ↔ _
      simp [not_since_nil, always_nil]
  | cons event events ih =>
      obtain ⟨hevent, hevents⟩ := always_cons_iff.mp hsteps
      show R (after step (step s event).1 events) ↔ _
      rw [ih hevents, hevent, since_cons_iff, always_cons_iff]
      rw [or_and_right, and_assoc, or_left_comm, or_assoc]

end FlowScope
