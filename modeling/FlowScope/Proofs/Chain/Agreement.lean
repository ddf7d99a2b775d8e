import FlowScope.Chain.Session
import FlowScope.Proofs.Chain.Verdicts
import FlowScope.Proofs.Run
import FlowScope.Proofs.Tracking.Step
import Mathlib.Data.List.Induction

/-!
# One verdict and all verdicts

A chain can be asked for the first known verdict on a flow or for all of them. The two go through the
detectors differently, and so do detectors over native libraries with their inspectors. Both come down
to the findings on the packets: the known verdicts of a detector (`Detector.findings`), and of the
active detectors in order (`Chain.findings`). The first known verdict is the first finding, and the
last finding is what stays stored with the flow.

Asking leaves of a detector all but the record of its calls (`Detector.forget`), so the findings are the
same after any number of questions. The main statement is `verdicts_of_packets`. It is about detectors
that store what they find, as all do but those given by their answers.
-/

namespace FlowScope

namespace Verdict

/-- The verdicts that name a protocol. -/
def known (verdicts : List Verdict) : List Verdict := verdicts.filter (!·.isUnknown)

theorem firstKnown_eq_headD (verdicts : List Verdict) :
    firstKnown verdicts = (known verdicts).headD .unknown := by
  rw [firstKnown, known, List.headD_eq_head?_getD, List.head?_filter]

theorem isUnknown_of_mem_known {verdicts : List Verdict} {v : Verdict} (h : v ∈ known verdicts) :
    v.isUnknown = false := by
  simpa using (List.mem_filter.mp h).2

theorem known_cons (v : Verdict) (later : List Verdict) :
    known (v :: later) = if v.isUnknown then known later else v :: known later := by
  unfold known
  cases hv : v.isUnknown with
  | true => simp [hv]
  | false => simp [hv]

end Verdict

/-- The first known verdict is the first of the known ones; if there is none, it is unknown. -/
theorem Verdict.known_cases (verdicts : List Verdict) :
    ((firstKnown verdicts).isUnknown = true ∧ known verdicts = []) ∨
      ((firstKnown verdicts).isUnknown = false ∧
        ∃ more, known verdicts = firstKnown verdicts :: more) := by
  rw [firstKnown_eq_headD]
  cases hknown : known verdicts with
  | nil => exact .inl ⟨rfl, rfl⟩
  | cons v more =>
      have hv : v.isUnknown = false := isUnknown_of_mem_known (by rw [hknown]; exact List.mem_cons_self)
      exact .inr ⟨hv, more, rfl⟩

/-- Of several verdicts stored one after the other, the last stays. -/
theorem Flow.foldl_store (f : Flow) (verdicts : List Verdict) :
    verdicts.foldl Flow.store f = verdicts.getLast?.elim f f.store := by
  induction verdicts using List.reverseRecOn with
  | nil => rfl
  | append_singleton verdicts v ih =>
      rw [List.foldl_append, ih, List.getLast?_concat]
      cases verdicts.getLast? <;> rfl

@[simp] theorem Flow.packets_foldl_store (f : Flow) (verdicts : List Verdict) :
    (verdicts.foldl Flow.store f).packets = f.packets := by
  rw [Flow.foldl_store]
  cases verdicts.getLast? <;> rfl

/-! ## Inspectors -/

namespace NativeDetector

variable {d : NativeDetector} {f : Flow}

/-- The known answers of the active inspectors, in order. -/
def findings (d : NativeDetector) (packets : List Packet) : List Verdict :=
  Verdict.known (d.active.map (d.opinion packets))

/-- Asking all the inspectors gives every known opinion, and is recorded. -/
theorem allAnswers_eq (packets : List Packet) (l : List Nat) (d : NativeDetector) :
    ∃ history, (d.allAnswers packets l).1 = { d with history } ∧
      Verdict.known (d.allAnswers packets l).2 =
        Verdict.known (l.map (d.opinion packets)) := by
  induction l generalizing d with
  | nil => exact ⟨d.history, rfl, rfl⟩
  | cons i later ih =>
      obtain ⟨history, hd, hknown⟩ := ih (d.askInspector i packets).1
      have hopinion : (d.askInspector i packets).1.opinion = d.opinion := rfl
      rw [hopinion] at hknown
      refine ⟨history, ?_⟩
      rw [List.map_cons, Verdict.known_cons, ← hknown]
      cases hanswer : ((d.inspector i).engine.ask packets).answer with
      | error e =>
          have hi : d.opinion packets i = .unknown := by simp [opinion, hanswer]
          have hask : d.askInspector i packets = ((d.askInspector i packets).1, .error e) :=
            Prod.ext rfl hanswer
          rw [allAnswers, hask, hi, if_pos Verdict.isUnknown_unknown]
          exact ⟨hd, rfl⟩
      | ok protocol =>
          have hi : d.opinion packets i = ⟨protocol, (d.inspector i).name⟩ := by
            simp [opinion, hanswer]
          have hask : d.askInspector i packets = ((d.askInspector i packets).1, .ok protocol) :=
            Prod.ext rfl hanswer
          -- the name is looked up after the others were asked, which leaves the pool as it was
          have hname : ((((d.askInspector i packets).1.allAnswers packets later).1).inspector i).name =
              (d.inspector i).name := by
            rw [hd]
            rfl
          rw [allAnswers, hask, hi, ← Verdict.known_cons, ← hname]
          exact ⟨hd, rfl⟩

theorem judgeAll_eq (d : NativeDetector) (f : Flow) :
    ∃ history, (d.judgeAll f).1 = { d with history } ∧
      Verdict.known (d.judgeAll f).2.2 = d.findings f.packets ∧
      (d.judgeAll f).2.1 = (d.findings f.packets).foldl Flow.store f := by
  obtain ⟨history, hd, hknown⟩ := allAnswers_eq f.packets d.active d
  exact ⟨history, hd, hknown, congrArg (List.foldl Flow.store f) hknown⟩

end NativeDetector

/-! ## Detectors -/

namespace Detector

variable {d : Detector} {f : Flow}

/-- The known verdicts of a detector on some packets. -/
def findings : Detector → List Packet → List Verdict
  | native d, packets => d.findings packets
  | d, packets => Verdict.known [d.verdict packets]

/-- Whether the detector stores its known verdicts with the flow. -/
def storesVerdicts : Detector → Bool
  | scripted _ => false
  | _ => true

/-- The detector without the record of the calls it made. -/
def forget : Detector → Detector
  | native d => native { d with history := [] }
  | d => d

theorem findings_eq_of_forget {d' : Detector} (h : d'.forget = d.forget) :
    d'.findings = d.findings := by
  have hforget : ∀ d : Detector, d.forget.findings = d.findings := by
    intro d
    cases d <;> rfl
  rw [← hforget d', h, hforget]

theorem verdict_eq_of_forget {d' : Detector} (h : d'.forget = d.forget) :
    d'.verdict = d.verdict := by
  have hforget : ∀ d : Detector, d.forget.verdict = d.verdict := by
    intro d
    cases d <;> rfl
  rw [← hforget d', h, hforget]

theorem storesVerdicts_eq_of_forget {d' : Detector} (h : d'.forget = d.forget) :
    d'.storesVerdicts = d.storesVerdicts := by
  have hforget : ∀ d : Detector, d.forget.storesVerdicts = d.storesVerdicts := by
    intro d
    cases d <;> rfl
  rw [← hforget d', h, hforget]

/-- The verdict is the first finding; without any it is unknown. -/
theorem findings_cases (d : Detector) (packets : List Packet) :
    ((d.verdict packets).isUnknown = true ∧ d.findings packets = []) ∨
      ((d.verdict packets).isUnknown = false ∧
        ∃ more, d.findings packets = d.verdict packets :: more) := by
  have hsingle : ∀ v : Verdict, (v.isUnknown = true ∧ Verdict.known [v] = []) ∨
      (v.isUnknown = false ∧ ∃ more, Verdict.known [v] = v :: more) := by
    intro v
    cases hv : v.isUnknown with
    | true => simp [Verdict.known, hv]
    | false => simp [Verdict.known, hv]
  cases d with
  | native d => exact Verdict.known_cases (d.active.map (d.opinion packets))
  | signatures list => exact hsingle _
  | linear d => exact hsingle _
  | scripted d => exact hsingle _

theorem isUnknown_of_mem_findings {packets : List Packet} {v : Verdict}
    (h : v ∈ d.findings packets) : v.isUnknown = false := by
  cases d with
  | native d => exact Verdict.isUnknown_of_mem_known h
  | signatures list => exact Verdict.isUnknown_of_mem_known h
  | linear d => exact Verdict.isUnknown_of_mem_known h
  | scripted d => exact Verdict.isUnknown_of_mem_known h

theorem forget_judge (d : Detector) (f : Flow) : (d.judge f).1.forget = d.forget := by
  cases d with
  | native d =>
      obtain ⟨history, hd, -, -⟩ := d.judge_eq f
      show native { (d.judge f).1 with history := [] } = _
      rw [hd]
      rfl
  | signatures list => rfl
  | linear d => rfl
  | scripted d => rfl

theorem judge_flow (hd : d.storesVerdicts = true) (f : Flow) :
    (d.judge f).2.1 = if (d.judge f).2.2.isUnknown then f else f.store (d.judge f).2.2 := by
  cases d with
  | native d => rfl
  | signatures list => rfl
  | linear d => rfl
  | scripted d => cases hd

theorem judgeAll_eq (d : Detector) (f : Flow) :
    (d.judgeAll f).1.forget = d.forget ∧
      Verdict.known (d.judgeAll f).2.2 = d.findings f.packets ∧
      (d.storesVerdicts = true →
        (d.judgeAll f).2.1 = (d.findings f.packets).foldl Flow.store f) := by
  have hstored : ∀ v : Verdict,
      (if v.isUnknown then f else f.store v) = (Verdict.known [v]).foldl Flow.store f := by
    intro v
    cases hv : v.isUnknown with
    | true => simp [Verdict.known, hv]
    | false => simp [Verdict.known, hv]
  cases d with
  | native d =>
      obtain ⟨history, hd, hknown, hflow⟩ := d.judgeAll_eq f
      refine ⟨?_, hknown, fun _ => hflow⟩
      show native { (d.judgeAll f).1 with history := [] } = _
      rw [hd]
      rfl
  | signatures list => exact ⟨rfl, rfl, fun _ => hstored _⟩
  | linear d => exact ⟨rfl, rfl, fun _ => hstored _⟩
  | scripted d => exact ⟨rfl, rfl, fun hd => by cases hd⟩

end Detector

/-! ## The chain -/

namespace Chain

variable {c c' : Chain} {f : Flow} {i : Nat} {l : List Nat}

/-- The known verdicts of the active detectors on some packets, in order. -/
def findings (c : Chain) (packets : List Packet) : List Verdict :=
  c.active.flatMap fun i => (c.detector i).findings packets

/-- The verdict of a chain is the first finding. -/
theorem verdict_eq_headD (c : Chain) (packets : List Packet) :
    c.verdict packets = (c.findings packets).headD .unknown := by
  unfold verdict findings
  induction c.active with
  | nil => rfl
  | cons i later ih =>
      rw [List.map_cons, Verdict.firstKnown_cons, List.flatMap_cons]
      rcases (c.detector i).findings_cases packets with ⟨hunknown, hnone⟩ | ⟨hknown, more, hsome⟩
      · rw [if_pos hunknown, hnone, List.nil_append, ih]
      · rw [if_neg (by simp [hknown]), hsome]
        rfl

theorem isUnknown_of_mem_findings {packets : List Packet} {v : Verdict}
    (h : v ∈ c.findings packets) : v.isUnknown = false := by
  obtain ⟨i, -, hv⟩ := List.mem_flatMap.mp h
  exact Detector.isUnknown_of_mem_findings hv

/-- The chains have the same active detectors, which differ in the record of their calls only. -/
structure Alike (c c' : Chain) : Prop where
  active_eq : c'.active = c.active
  forget_eq : ∀ i, (c'.detector i).forget = (c.detector i).forget

theorem Alike.refl (c : Chain) : Alike c c := ⟨rfl, fun _ => rfl⟩

theorem Alike.trans {c₁ c₂ c₃ : Chain} (h : Alike c₁ c₂) (h' : Alike c₂ c₃) : Alike c₁ c₃ where
  active_eq := h'.active_eq.trans h.active_eq
  forget_eq := fun i => (h'.forget_eq i).trans (h.forget_eq i)

theorem Alike.verdict_eq (h : Alike c c') : c'.verdict = c.verdict := by
  funext packets
  unfold verdict
  rw [h.active_eq]
  simp only [Detector.verdict_eq_of_forget (h.forget_eq _)]

theorem Alike.findings_eq (h : Alike c c') : c'.findings = c.findings := by
  funext packets
  unfold findings
  rw [h.active_eq]
  simp only [Detector.findings_eq_of_forget (h.forget_eq _)]

theorem alike_ask (c : Chain) (i : Nat) (f : Flow) : Alike c (c.ask i f).1 :=
  ⟨rfl, view_setDetector Detector.forget ((c.detector i).forget_judge f)⟩

theorem alike_judge (c : Chain) (f : Flow) : Alike c (c.judge f).1 :=
  firstVerdict_induction c.active (fun c' f i _ h => h.trans (alike_ask c' i f)) f (.refl c)

/-- Asking detectors that store their verdicts, up to the first known one. -/
theorem firstVerdict_flow (l : List Nat) (c : Chain) (f : Flow)
    (hstores : ∀ i ∈ l, (c.detector i).storesVerdicts = true) :
    (c.firstVerdict f l).2.1 =
      if (c.firstVerdict f l).2.2.isUnknown then f else f.store (c.firstVerdict f l).2.2 := by
  induction l generalizing c with
  | nil => rfl
  | cons i later ih =>
      have hflow : (c.ask i f).2.1 =
          if (c.ask i f).2.2.isUnknown then f else f.store (c.ask i f).2.2 :=
        (c.detector i).judge_flow (hstores i List.mem_cons_self) f
      have halike := alike_ask c i f
      rcases hask : c.ask i f with ⟨c', f', v⟩
      rw [hask] at hflow halike
      rw [firstVerdict, hask]
      cases hv : v.isUnknown with
      | false =>
          simp only [hv, Bool.false_eq_true, if_false] at hflow ⊢
          exact hflow
      | true =>
          -- nothing is stored, so the next detector finds the flow as the first did
          obtain rfl : f' = f := by simpa [hv] using hflow
          simp only [hv, if_true]
          refine ih c' fun j hj => ?_
          rw [Detector.storesVerdicts_eq_of_forget (halike.forget_eq j)]
          exact hstores j (List.mem_cons_of_mem i hj)

theorem askAll_eq (c : Chain) (i : Nat) (f : Flow) :
    Alike c (c.askAll i f).1 ∧
      Verdict.known (c.askAll i f).2.2 = (c.detector i).findings f.packets ∧
      ((c.detector i).storesVerdicts = true →
        (c.askAll i f).2.1 = ((c.detector i).findings f.packets).foldl Flow.store f) := by
  obtain ⟨hd, hknown, hflow⟩ := (c.detector i).judgeAll_eq f
  exact ⟨⟨rfl, view_setDetector Detector.forget hd⟩, hknown, hflow⟩

/-- Asking detectors that store their verdicts for all of them. -/
theorem allVerdicts_eq (l : List Nat) (c : Chain) (f : Flow)
    (hstores : ∀ i ∈ l, (c.detector i).storesVerdicts = true) :
    Verdict.known (c.allVerdicts f l).2.2 =
        l.flatMap (fun i => (c.detector i).findings f.packets) ∧
      (c.allVerdicts f l).2.1 =
        (l.flatMap fun i => (c.detector i).findings f.packets).foldl Flow.store f := by
  induction l generalizing c f with
  | nil => exact ⟨rfl, rfl⟩
  | cons i later ih =>
      obtain ⟨halike, hknown, hflow⟩ := askAll_eq c i f
      replace hflow := hflow (hstores i List.mem_cons_self)
      rcases hask : c.askAll i f with ⟨c', f', verdicts⟩
      rw [hask] at halike hknown hflow
      have hstores' : ∀ j ∈ later, (c'.detector j).storesVerdicts = true := by
        intro j hj
        rw [Detector.storesVerdicts_eq_of_forget (halike.forget_eq j)]
        exact hstores j (List.mem_cons_of_mem i hj)
      obtain ⟨hknown', hflow'⟩ := ih c' f' hstores'
      -- what one detector stores does not change the packets that the next one looks at
      have hpackets : f'.packets = f.packets :=
        (congrArg Flow.packets hflow).trans (Flow.packets_foldl_store f _)
      simp only [Detector.findings_eq_of_forget (halike.forget_eq _), hpackets] at hknown' hflow'
      have hall : c.allVerdicts f (i :: later) =
          ((c'.allVerdicts f' later).1, (c'.allVerdicts f' later).2.1,
            verdicts ++ (c'.allVerdicts f' later).2.2) := by
        rw [allVerdicts, hask]
      rw [hall, List.flatMap_cons, List.foldl_append, ← hflow, ← hknown, ← hknown']
      refine ⟨List.filter_append .., ?_⟩
      rw [hflow', hknown']

theorem alike_judgeAll (c : Chain) (f : Flow) : Alike c (c.judgeAll f).1 :=
  allVerdicts_induction c.active (fun c' f i _ h => h.trans (askAll_eq c' i f).1) f (.refl c)

theorem judgeAll_tracker (c : Chain) (f : Flow) : (c.judgeAll f).1.tracker = c.tracker :=
  allVerdicts_induction (motive := fun c' => c'.tracker = c.tracker) c.active
    (fun _ _ _ _ h => h) f rfl

theorem judgeAll_eq (c : Chain) (f : Flow)
    (hstores : ∀ i ∈ c.active, (c.detector i).storesVerdicts = true) :
    (c.judgeAll f).2.2 = c.findings f.packets ∧
      (c.judgeAll f).2.1 = (c.findings f.packets).getLast?.elim f f.store := by
  obtain ⟨hknown, hflow⟩ := allVerdicts_eq c.active c f hstores
  exact ⟨hknown, hflow.trans (Flow.foldl_store f _)⟩

theorem judge_eq (c : Chain) (f : Flow)
    (hstores : ∀ i ∈ c.active, (c.detector i).storesVerdicts = true) :
    (c.judge f).2.2 = c.verdict f.packets ∧
      (c.judge f).2.1 =
        if (c.verdict f.packets).isUnknown then f else f.store (c.verdict f.packets) := by
  have hflow := firstVerdict_flow c.active c f hstores
  have hverdict := c.judge_verdict f
  rw [← hverdict]
  exact ⟨rfl, hflow⟩

end Chain

/-! ## Sessions -/

/-- A detector chain is asked about a flow. -/
def ChainEvent.IsQuestion : ChainEvent → Prop
  | .judge _ => True
  | .judgeAll _ => True
  | _ => False

namespace ChainSession

variable {s : ChainSession} {subject : Subject}

/-- The flow is one that the tracker handed out, or one that it does not know. -/
def Knows (s : ChainSession) : Subject → Prop
  | .tracked number => number < s.chain.tracker.flows.size
  | .apart _ => True

def flowOf (s : ChainSession) : Subject → Flow
  | .tracked number => s.chain.flow number
  | .apart f => f

/-- What is stored of a flow that the tracker handed out is what it has afterwards. -/
theorem flow_setFlow_of_tracker_eq {c : Chain} {number : Nat}
    (htracker : c.tracker = s.chain.tracker) (hknows : s.Knows (.tracked number)) (f : Flow) :
    (c.setFlow number f).flow number = f := by
  have hlt : number < c.tracker.flows.size := by
    rw [htracker]
    exact hknows
  exact (Tracker.flow_setFlow hlt f number).trans (if_pos rfl)

theorem judge_answer (hstores : ∀ i ∈ s.chain.active, (s.chain.detector i).storesVerdicts = true)
    (hknows : s.Knows subject) :
    let f := s.flowOf subject
    let v := s.chain.verdict f.packets
    (s.step (.judge subject)).2 = .judged (if v.isUnknown then f else f.store v) v := by
  intro f v
  obtain ⟨hverdict, hflow⟩ := s.chain.judge_eq f hstores
  cases subject with
  | tracked number =>
      show ChainAnswer.judged (((s.chain.judge f).1.setFlow number (s.chain.judge f).2.1).flow number)
        (s.chain.judge f).2.2 = _
      rw [flow_setFlow_of_tracker_eq (s.chain.judge_frame f).tracker_eq hknows, hverdict, hflow]
  | apart f' =>
      show ChainAnswer.judged (s.chain.judge f).2.1 (s.chain.judge f).2.2 = _
      rw [hverdict, hflow]

theorem judgeAll_answer
    (hstores : ∀ i ∈ s.chain.active, (s.chain.detector i).storesVerdicts = true)
    (hknows : s.Knows subject) :
    let f := s.flowOf subject
    let vs := s.chain.findings f.packets
    (s.step (.judgeAll subject)).2 = .judgedAll (vs.getLast?.elim f f.store) vs := by
  intro f vs
  obtain ⟨hverdicts, hflow⟩ := s.chain.judgeAll_eq f hstores
  cases subject with
  | tracked number =>
      show ChainAnswer.judgedAll
        (((s.chain.judgeAll f).1.setFlow number (s.chain.judgeAll f).2.1).flow number)
        (s.chain.judgeAll f).2.2 = _
      rw [flow_setFlow_of_tracker_eq (s.chain.judgeAll_tracker f) hknows, hverdicts, hflow]
  | apart f' =>
      show ChainAnswer.judgedAll (s.chain.judgeAll f).2.1 (s.chain.judgeAll f).2.2 = _
      rw [hverdicts, hflow]

theorem alike_step (s : ChainSession) {event : ChainEvent} (hevent : event.IsQuestion) :
    s.chain.Alike (s.step event).1.chain := by
  cases event with
  | judge subject =>
      cases subject with
      | tracked number => exact (s.chain.alike_judge (s.chain.flow number)).trans ⟨rfl, fun _ => rfl⟩
      | apart f => exact s.chain.alike_judge f
  | judgeAll subject =>
      cases subject with
      | tracked number =>
          exact (s.chain.alike_judgeAll (s.chain.flow number)).trans ⟨rfl, fun _ => rfl⟩
      | apart f => exact s.chain.alike_judgeAll f
  | _ => exact hevent.elim

/-- Questions leave a chain as it was, but for the record of the calls to detectors. -/
theorem alike_after (s : ChainSession) {questions : List ChainEvent}
    (hquestions : ∀ event ∈ questions, event.IsQuestion) :
    s.chain.Alike (after step s questions).chain :=
  after_induction_of_always (motive := fun s' => s.chain.Alike s'.chain)
    (P := fun _ event => event.IsQuestion) (fun s' _ hevent h => h.trans (alike_step s' hevent))
    (always_of_forall hquestions) (.refl s.chain)

/-- **The verdict and all verdicts agree, and depend on the packets only.** Take a chain whose active
detectors store their verdicts. There are a verdict and a list of known verdicts for every list of
packets, the verdict being the first of the list, or unknown if the list is empty; and after any
questions, about whichever flows,

* judging a flow answers with the verdict for its packets, and stores it if it is known;
* judging it by all detectors answers with the list for its packets, and stores the last of them;
* neither replaces a known verdict stored with the flow by an unknown one. -/
theorem verdicts_of_packets (s : ChainSession)
    (hstores : ∀ i ∈ s.chain.active, (s.chain.detector i).storesVerdicts = true) :
    ∃ (verdict : List Packet → Verdict) (verdicts : List Packet → List Verdict),
      (∀ packets, verdict packets = (verdicts packets).headD .unknown ∧
        ∀ v ∈ verdicts packets, v.isUnknown = false) ∧
      ∀ questions, (∀ event ∈ questions, ChainEvent.IsQuestion event) → ∀ subject,
        let s' := after step s questions
        s'.Knows subject →
        let f := s'.flowOf subject
        let v := verdict f.packets
        let vs := verdicts f.packets
        let judged := if v.isUnknown then f else f.store v
        let judgedAll := vs.getLast?.elim f f.store
        (s'.step (.judge subject)).2 = .judged judged v ∧
        (s'.step (.judgeAll subject)).2 = .judgedAll judgedAll vs ∧
        (f.verdict.isUnknown = false →
          judged.verdict.isUnknown = false ∧ judgedAll.verdict.isUnknown = false) := by
  -- The two functions are those of the state as it is, since no question changes them.
  refine ⟨s.chain.verdict, s.chain.findings,
    fun packets => ⟨s.chain.verdict_eq_headD packets, fun v => Chain.isUnknown_of_mem_findings⟩, ?_⟩
  intro questions hquestions subject s' hknows f v vs judged judgedAll
  have halike := s.alike_after hquestions
  have hstores' : ∀ i ∈ s'.chain.active, (s'.chain.detector i).storesVerdicts = true := by
    intro i hi
    rw [Detector.storesVerdicts_eq_of_forget (halike.forget_eq i)]
    exact hstores i (halike.active_eq ▸ hi)
  have hjudge := judge_answer hstores' hknows
  have hjudgeAll := judgeAll_answer hstores' hknows
  rw [halike.verdict_eq] at hjudge
  rw [halike.findings_eq] at hjudgeAll
  refine ⟨hjudge, hjudgeAll, fun hf => ⟨?_, ?_⟩⟩
  · show (if v.isUnknown then f else f.store v).verdict.isUnknown = false
    cases hv : v.isUnknown with
    | true => exact hf
    | false => exact hv
  · show (vs.getLast?.elim f f.store).verdict.isUnknown = false
    cases hlast : vs.getLast? with
    | none => exact hf
    | some last => exact Chain.isUnknown_of_mem_findings (List.mem_of_getLast? hlast)

/-- Two libraries and a signature have three opinions on a flow, the first of them unknown; the flow is
asked about again after all opinions were stored. The second library's is the verdict, and the signature's,
which is the last one, is stored by asking for all. -/
theorem verdicts_of_query :
    let query := Packet.udp ⟨.v4 1, 5000⟩ ⟨.v4 2, 53⟩ []
    let library (name : String) (protocol : Protocol) : Inspector :=
      ⟨name, fun _ => 0, fun _ => true, .direct fun _ => .ok protocol⟩
    let native := NativeDetector.ofInspectors [library "first" .unknown, library "second" .ssh]
    let chain := Chain.ofDetectors [.native native, .signatures [.port .dns]]
    let s := after step { chain } [.start fun _ => none, .packet query]
    let s' := after step s [.judgeAll (.tracked 0)]
    let ssh : Verdict := ⟨.ssh, "second"⟩
    let dns : Verdict := ⟨.dns, Signature.source⟩
    (∀ i ∈ s.chain.active, (s.chain.detector i).storesVerdicts = true) ∧
      (∀ event ∈ [ChainEvent.judgeAll (.tracked 0)], event.IsQuestion) ∧
      s'.Knows (.tracked 0) ∧
      ∃ v vs, v = vs.headD .unknown ∧ v = ssh ∧ vs = [ssh, dns] ∧
        (s'.step (.judge (.tracked 0))).2 = .judged ⟨[query], ssh⟩ v ∧
        (s'.step (.judgeAll (.tracked 0))).2 = .judgedAll ⟨[query], dns⟩ vs := by
  intro query library native chain s s' ssh dns
  have hstores : ∀ i ∈ s.chain.active, (s.chain.detector i).storesVerdicts = true := by
    decide
  have hquestions : ∀ event ∈ [ChainEvent.judgeAll (.tracked 0)], event.IsQuestion := by
    simp [ChainEvent.IsQuestion]
  have hknows : s'.Knows (.tracked 0) := by
    show _ < _
    decide
  obtain ⟨verdict, verdicts, hfirst, hanswers⟩ := verdicts_of_packets s hstores
  obtain ⟨hjudge, hjudgeAll, -⟩ := hanswers _ hquestions (.tracked 0) hknows
  have hssh : (s'.step (.judge (.tracked 0))).2 = .judged ⟨[query], ssh⟩ ssh := by
    decide +kernel
  have hboth : (s'.step (.judgeAll (.tracked 0))).2 = .judgedAll ⟨[query], dns⟩ [ssh, dns] := by
    decide +kernel
  -- what the theorem promises for the packets of the flow is what comes out
  obtain ⟨-, hv⟩ := ChainAnswer.judged.inj (hjudge.symm.trans hssh)
  obtain ⟨-, hvs⟩ := ChainAnswer.judgedAll.inj (hjudgeAll.symm.trans hboth)
  refine ⟨hstores, hquestions, hknows, _, _, (hfirst _).1, hv, hvs, ?_, ?_⟩
  · rw [hssh, hv]
  · rw [hboth, hvs]

end ChainSession
end FlowScope
