import FlowScope.Proofs.Chain.Calls
import FlowScope.Proofs.Native.Lifecycle

/-!
# What a chain says about a flow

The verdict of a chain is a matter of the packets of the flow. It does not depend on what is stored
with the flow, nor on what was asked before: asking a detector is recorded, and changes nothing else
that counts. This module says so for each kind of detector (`Detector.verdict`) and for chains
(`Chain.verdict`), and what is stored with the flow by the way.

* `Chain.judge_verdict` — judging a flow gives the first known verdict of the active detectors on its
  packets;
* `Chain.judge_flow` — the flow is left as it was, or that verdict is stored with it;
* `Chain.judge_frame` — nothing else in the chain that later verdicts depend on is changed.
-/

namespace FlowScope

namespace Verdict

@[simp] theorem isUnknown_unknown : unknown.isUnknown = true := rfl

/-- The first verdict that names a protocol. -/
def firstKnown (verdicts : List Verdict) : Verdict :=
  (verdicts.find? (!·.isUnknown)).getD .unknown

theorem firstKnown_cons (v : Verdict) (later : List Verdict) :
    firstKnown (v :: later) = if v.isUnknown then firstKnown later else v := by
  unfold firstKnown
  cases hv : v.isUnknown with
  | true => simp [hv]
  | false => simp [hv]

end Verdict

/-- What judging leaves of a flow: the flow as it was, or with the verdict, if that is known. -/
def Flow.KeptBy (f f' : Flow) (v : Verdict) : Prop :=
  f' = f ∨ v.isUnknown = false ∧ f' = f.store v

@[simp] theorem Flow.packets_store (f : Flow) (v : Verdict) : (f.store v).packets = f.packets := rfl

theorem Flow.KeptBy.eq_of_unknown {f f' : Flow} {v : Verdict} (h : f.KeptBy f' v)
    (hv : v.isUnknown = true) : f' = f := by
  rcases h with h | ⟨hv', -⟩
  · exact h
  · rw [hv] at hv'
    cases hv'

/-! ## One detector -/

namespace NativeDetector

variable {d : NativeDetector} {f : Flow} {packets : List Packet}

/-- The verdict that an inspector's answer stands for. An error is no answer. -/
def opinion (d : NativeDetector) (packets : List Packet) (i : Nat) : Verdict :=
  match ((d.inspector i).engine.ask packets).answer with
  | .ok protocol => ⟨protocol, (d.inspector i).name⟩
  | .error _ => .unknown

def verdict (d : NativeDetector) (packets : List Packet) : Verdict :=
  .firstKnown (d.active.map (d.opinion packets))

/-- Asking inspectors up to the first answer gives the first known opinion, and is recorded. -/
theorem firstAnswer_eq (packets : List Packet) (l : List Nat) (d : NativeDetector) :
    ∃ history, d.firstAnswer packets l =
      ({ d with history }, .firstKnown (l.map (d.opinion packets))) := by
  induction l generalizing d with
  | nil => exact ⟨d.history, rfl⟩
  | cons i later ih =>
      rw [List.map_cons, Verdict.firstKnown_cons]
      -- an inspector that names a protocol ends the search, any other says as much as nothing
      by_cases h : ∃ protocol, d.Names packets i protocol
      · obtain ⟨protocol, h⟩ := h
        have hopinion : d.opinion packets i = ⟨protocol, (d.inspector i).name⟩ := by
          rw [opinion, h.1]
        have hknown : ¬ (d.opinion packets i).isUnknown = true := by
          rw [hopinion, Verdict.isUnknown, h.2]
          exact Bool.false_ne_true
        rw [firstAnswer_of_names h, if_neg hknown, hopinion]
        exact ⟨(d.askInspector i packets).1.history, rfl⟩
      · have hunknown : (d.opinion packets i).isUnknown = true := by
          by_contra hknown
          unfold opinion at hknown
          split at hknown
          next protocol hanswer => exact h ⟨protocol, hanswer, Bool.eq_false_iff.mpr hknown⟩
          next => exact hknown rfl
        rw [firstAnswer_of_not_names h, if_pos hunknown]
        exact ih (d.askInspector i packets).1

theorem judge_eq (d : NativeDetector) (f : Flow) :
    ∃ history, (d.judge f).1 = { d with history } ∧ (d.judge f).2.2 = d.verdict f.packets ∧
      f.KeptBy (d.judge f).2.1 (d.verdict f.packets) := by
  obtain ⟨history, heq⟩ := firstAnswer_eq f.packets d.active d
  have hverdict : (d.firstAnswer f.packets d.active).2 = d.verdict f.packets := by rw [heq]; rfl
  refine ⟨history, by show (d.firstAnswer f.packets d.active).1 = _; rw [heq], hverdict, ?_⟩
  show f.KeptBy (if (d.firstAnswer f.packets d.active).2.isUnknown then f
    else f.store (d.firstAnswer f.packets d.active).2) _
  rw [hverdict]
  cases hknown : (d.verdict f.packets).isUnknown with
  | true => exact .inl rfl
  | false => exact .inr ⟨hknown, rfl⟩

end NativeDetector

namespace Detector

/-- The verdict of a detector on some packets, whatever it was asked before. -/
def verdict : Detector → List Packet → Verdict
  | signatures list, packets => Signature.verdict list packets
  | native d, packets => d.verdict packets
  | linear d, packets => d.verdict packets
  | scripted d, packets => d.verdict packets

theorem judge_eq (d : Detector) (f : Flow) :
    (d.judge f).1.verdict = d.verdict ∧ (d.judge f).2.2 = d.verdict f.packets ∧
      f.KeptBy (d.judge f).2.1 (d.verdict f.packets) := by
  have hstored : ∀ v : Verdict, f.KeptBy (if v.isUnknown then f else f.store v) v := by
    intro v
    cases hv : v.isUnknown with
    | true => exact .inl rfl
    | false => exact .inr ⟨hv, rfl⟩
  cases d with
  | signatures list => exact ⟨rfl, rfl, hstored _⟩
  | native d =>
      obtain ⟨history, hd, hverdict, hflow⟩ := d.judge_eq f
      refine ⟨?_, hverdict, hflow⟩
      show (d.judge f).1.verdict = d.verdict
      rw [hd]
      rfl
  | linear d => exact ⟨rfl, rfl, hstored _⟩
  | scripted d => exact ⟨rfl, rfl, .inl rfl⟩

end Detector

/-! ## The chain -/

namespace Chain

variable {c c' : Chain} {f : Flow} {i : Nat}

def verdict (c : Chain) (packets : List Packet) : Verdict :=
  .firstKnown (c.active.map fun i => (c.detector i).verdict packets)

/-- A detector in the pool is replaced by one that looks the same in some view. -/
theorem view_setDetector {β : Type} (view : Detector → β) {d : Detector}
    (hd : view d = view (c.detector i)) (j : Nat) :
    view ((c.setDetector i d).detector j) = view (c.detector j) := by
  by_cases hij : i = j
  · subst hij
    by_cases hi : i < c.pool.size
    · have hself : (c.setDetector i d).detector i = d := by
        simp [detector, setDetector, hi]
      rw [hself, hd]
    · have hnone : c.setDetector i d = c := by
        simp [setDetector, Array.setIfInBounds, hi]
      rw [hnone]
  · rw [detector_setDetector_of_ne hij]

/-- The parts of a chain that are not touched by asking detectors, and by which they judge. -/
structure Frame (c c' : Chain) : Prop where
  verdict_eq : ∀ i, (c'.detector i).verdict = (c.detector i).verdict
  active_eq : c'.active = c.active
  configured_eq : c'.configured = c.configured
  tracker_eq : c'.tracker = c.tracker

theorem Frame.refl (c : Chain) : Frame c c := ⟨fun _ => rfl, rfl, rfl, rfl⟩

theorem Frame.trans {c₁ c₂ c₃ : Chain} (h : Frame c₁ c₂) (h' : Frame c₂ c₃) : Frame c₁ c₃ where
  verdict_eq := fun i => (h'.verdict_eq i).trans (h.verdict_eq i)
  active_eq := h'.active_eq.trans h.active_eq
  configured_eq := h'.configured_eq.trans h.configured_eq
  tracker_eq := h'.tracker_eq.trans h.tracker_eq

theorem ask_eq (c : Chain) (i : Nat) (f : Flow) :
    Frame c (c.ask i f).1 ∧ (c.ask i f).2.2 = (c.detector i).verdict f.packets ∧
      f.KeptBy (c.ask i f).2.1 ((c.detector i).verdict f.packets) := by
  obtain ⟨hd, hverdict, hflow⟩ := (c.detector i).judge_eq f
  exact ⟨⟨view_setDetector Detector.verdict hd, rfl, rfl, rfl⟩, hverdict, hflow⟩

/-- Asking detectors up to the first known verdict. -/
theorem firstVerdict_eq (l : List Nat) (c : Chain) (f : Flow) :
    Frame c (c.firstVerdict f l).1 ∧
      (c.firstVerdict f l).2.2 = .firstKnown (l.map fun i => (c.detector i).verdict f.packets) ∧
      f.KeptBy (c.firstVerdict f l).2.1
        (.firstKnown (l.map fun i => (c.detector i).verdict f.packets)) := by
  induction l generalizing c with
  | nil => exact ⟨.refl c, rfl, .inl rfl⟩
  | cons i later ih =>
      obtain ⟨hframe, hverdict, hflow⟩ := ask_eq c i f
      rcases hask : c.ask i f with ⟨c', f', v⟩
      rw [hask] at hframe hverdict hflow
      obtain rfl : v = (c.detector i).verdict f.packets := hverdict
      rw [firstVerdict, hask, List.map_cons, Verdict.firstKnown_cons]
      cases hv : ((c.detector i).verdict f.packets).isUnknown with
      | false =>
          simp only [hv, Bool.false_eq_true, if_false]
          exact ⟨hframe, trivial, hflow⟩
      | true =>
          -- nothing is stored, so the next detector finds the flow as the first did
          obtain rfl : f' = f := hflow.eq_of_unknown hv
          obtain ⟨hframe', hverdict', hflow'⟩ := ih c'
          simp only [hframe.verdict_eq] at hverdict' hflow'
          simp only [hv, if_true]
          exact ⟨hframe.trans hframe', hverdict', hflow'⟩

theorem judge_frame (c : Chain) (f : Flow) : Frame c (c.judge f).1 := (firstVerdict_eq _ c f).1

/-- Flows are judged where they are kept, and the table stays as it is. -/
theorem judgeTracked_table (c : Chain) (number : Nat) :
    (c.judgeTracked number).1.tracker.table = c.tracker.table := by
  show (c.judge (c.flow number)).1.tracker.table = _
  rw [(judge_frame c (c.flow number)).tracker_eq]

theorem judge_verdict (c : Chain) (f : Flow) : (c.judge f).2.2 = c.verdict f.packets :=
  (firstVerdict_eq _ c f).2.1

theorem judge_flow (c : Chain) (f : Flow) : f.KeptBy (c.judge f).2.1 (c.verdict f.packets) :=
  (firstVerdict_eq _ c f).2.2

theorem Frame.verdict (h : Frame c c') : c'.verdict = c.verdict := by
  funext packets
  unfold Chain.verdict
  rw [h.active_eq]
  simp only [h.verdict_eq]

end Chain
end FlowScope
