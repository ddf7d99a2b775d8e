import FlowScope.Linear.Session
import FlowScope.Proofs.Run

/-!
# Loading is all or nothing

A detector that applies linear models has both of its models or none. What an event may do to it, and
what the answer may be, is the relation `Step`, with a case for each way in which the event can go; it
mentions no way for one model to be there without the other, or without having been read in the same
start. The relation describes the step function (`step_iff`).

The main statement, `loading_is_all_or_nothing`, adds what is there after a run: the settings are the
latest ones, and the models are those of the latest start that succeeded, if no stop came since.
-/

namespace FlowScope

namespace LinearClassifier

/-- The source is named, and leads to a text that is this model. -/
def Holds (sources : Sources) (source : String) (m : LinearClassifier Float) : Prop :=
  source ≠ "" ∧ ∃ bytes text, sources source = some bytes ∧ Text.ofUtf8? bytes = some text ∧
    read text.toList = .ok m

variable {sources : Sources} {source : String} {m : LinearClassifier Float}

theorem load_eq_ok_iff : load sources source = .ok m ↔ Holds sources source m := by
  unfold load Holds
  by_cases hname : source = ""
  · simp [hname]
  · rw [if_neg (by simpa using hname)]
    cases htext : (sources source).bind Text.ofUtf8? with
    | none =>
        simp only [reduceCtorEq, false_iff, not_and, not_exists]
        intro _ bytes text hbytes hdecoded _
        rw [hbytes] at htext
        exact absurd (htext.symm.trans hdecoded) nofun
    | some text =>
        obtain ⟨bytes, hbytes, hdecoded⟩ := Option.bind_eq_some_iff.mp htext
        constructor
        · intro hread
          exact ⟨hname, bytes, text, hbytes, hdecoded, hread⟩
        · rintro ⟨-, bytes', text', hbytes', hdecoded', hread⟩
          obtain rfl := Option.some.inj (hbytes.symm.trans hbytes')
          obtain rfl := Option.some.inj (hdecoded.symm.trans hdecoded')
          exact hread

theorem Holds.inj {m' : LinearClassifier Float} (h : Holds sources source m)
    (h' : Holds sources source m') : m = m' := by
  rw [← load_eq_ok_iff] at h h'
  exact Except.ok.inj (h.symm.trans h')

theorem Holds.ne_error {e : LoadError} (h : Holds sources source m) : load sources source ≠ .error e := by
  rw [load_eq_ok_iff.mpr h]
  nofun

end LinearClassifier

/-- Both models are those that the sources of the settings lead to. -/
structure ModelPair.From (models : ModelPair) (settings : LinearSettings) (sources : Sources) : Prop where
  tcp : LinearClassifier.Holds sources settings.tcpSource models.tcp
  udp : LinearClassifier.Holds sources settings.udpSource models.udp

theorem ModelPair.From.inj {models models' : ModelPair} {settings : LinearSettings} {sources : Sources}
    (h : models.From settings sources) (h' : models'.From settings sources) : models = models' := by
  cases models
  cases models'
  rw [ModelPair.mk.injEq]
  exact ⟨h.tcp.inj h'.tcp, h.udp.inj h'.udp⟩

namespace LinearDetector

open LinearClassifier

/-- There are models and a payload to apply one of them to; its prediction is one of the ten labels, that
of the protocol, and reaches the threshold. -/
def Accepts (d : LinearDetector) (packets : List Packet) (protocol : Protocol) : Prop :=
  ∃ models client, d.models = some models ∧ ClientPayload.ofPackets? packets = some client ∧
    let prediction := (models.choose client.transport).predict (Bigram.features client.payload)
    (∃ label < 10, prediction.label = Int.ofNat label ∧ protocols[label]? = some protocol) ∧
      d.settings.threshold.toFloat ≤ prediction.confidence

/-- What an event may lead to, and its answer. -/
inductive Step (d : LinearDetector) : LinearEvent → LinearDetector → LinearAnswer → Prop
  | configured (settings : LinearSettings) : Step d (.configure settings) ⟨settings, d.models⟩ .done
  | loaded {sources : Sources} {models : ModelPair} (hmodels : models.From d.settings sources) :
      Step d (.start sources) ⟨d.settings, some models⟩ (.outcome (.ok ()))
  | tcpFailed {sources : Sources} {e : LoadError}
      (htcp : load sources d.settings.tcpSource = .error e) :
      Step d (.start sources) d (.outcome (.error (.model d.settings.tcpSource e)))
  | udpFailed {sources : Sources} {tcp : LinearClassifier Float} {e : LoadError}
      (htcp : Holds sources d.settings.tcpSource tcp)
      (hudp : load sources d.settings.udpSource = .error e) :
      Step d (.start sources) d (.outcome (.error (.model d.settings.udpSource e)))
  | stopped : Step d .stop ⟨d.settings, none⟩ (.outcome (.ok ()))
  | known {f : Flow} {protocol : Protocol} (haccepts : d.Accepts f.packets protocol)
      (hknown : protocol.isUnknown = false) :
      Step d (.judge f) d (.judged (f.store ⟨protocol, name⟩) ⟨protocol, name⟩)
  | unknown {f : Flow} (hnone : ∀ protocol, ¬ d.Accepts f.packets protocol) :
      Step d (.judge f) d (.judged f .unknown)

variable {d : LinearDetector} {event : LinearEvent} {events : List LinearEvent} {sources : Sources}

/-! ## One event -/

theorem loadFrom_of_ok {source : String} {m : LinearClassifier Float}
    (h : load sources source = .ok m) : loadFrom sources source = .ok m := by
  rw [loadFrom, h]
  rfl

theorem loadFrom_of_error {source : String} {e : LoadError} (h : load sources source = .error e) :
    loadFrom sources source = .error (.model source e) := by
  rw [loadFrom, h]
  rfl

theorem step_of_from {models : ModelPair} (h : models.From d.settings sources) :
    d.step (.start sources) = (⟨d.settings, some models⟩, .outcome (.ok ())) := by
  have htcp := loadFrom_of_ok (load_eq_ok_iff.mpr h.tcp)
  have hudp := loadFrom_of_ok (load_eq_ok_iff.mpr h.udp)
  simp only [step, start, htcp, hudp]

theorem step_of_tcp_error {e : LoadError} (h : load sources d.settings.tcpSource = .error e) :
    d.step (.start sources) = (d, .outcome (.error (.model d.settings.tcpSource e))) := by
  simp only [step, start, loadFrom_of_error h]

theorem step_of_udp_error {tcp : LinearClassifier Float} {e : LoadError}
    (htcp : Holds sources d.settings.tcpSource tcp)
    (hudp : load sources d.settings.udpSource = .error e) :
    d.step (.start sources) = (d, .outcome (.error (.model d.settings.udpSource e))) := by
  have htcp := loadFrom_of_ok (load_eq_ok_iff.mpr htcp)
  simp only [step, start, htcp, loadFrom_of_error hudp]

theorem protocol?_eq_some_iff {label : Int} {protocol : Protocol} :
    protocol? label = some protocol ↔
      ∃ i < 10, label = Int.ofNat i ∧ protocols[i]? = some protocol := by
  unfold protocol?
  constructor
  · intro h
    split at h
    next hnonneg =>
        obtain ⟨hlt, -⟩ := List.getElem?_eq_some_iff.mp h
        exact ⟨label.toNat, hlt, (Int.toNat_of_nonneg hnonneg).symm, h⟩
    next => cases h
  · rintro ⟨i, -, rfl, hprotocol⟩
    exact (if_pos (Int.natCast_nonneg i)).trans hprotocol

theorem accepted?_eq_some_iff {threshold : Float32} {p : Prediction} {protocol : Protocol} :
    accepted? threshold p = some protocol ↔
      (∃ label < 10, p.label = Int.ofNat label ∧ protocols[label]? = some protocol) ∧
        threshold.toFloat ≤ p.confidence := by
  rw [accepted?, Option.filter_eq_some_iff, protocol?_eq_some_iff, decide_eq_true_iff]

variable {packets : List Packet} {protocol : Protocol}

theorem verdict_of_accepts (h : d.Accepts packets protocol) : d.verdict packets = ⟨protocol, name⟩ := by
  obtain ⟨models, client, hmodels, hclient, haccepted⟩ := h
  have haccepted := accepted?_eq_some_iff.mpr haccepted
  simp only [verdict, hclient, hmodels, bind, Option.bind, haccepted]

theorem verdict_of_not_accepts (h : ∀ protocol, ¬ d.Accepts packets protocol) :
    d.verdict packets = .unknown := by
  unfold verdict
  -- a verdict takes a payload, models, and an answer that is accepted
  cases hclient : ClientPayload.ofPackets? packets with
  | none => rfl
  | some client =>
      cases hmodels : d.models with
      | none => rfl
      | some models =>
          cases haccepted : accepted? d.settings.threshold
              ((models.choose client.transport).predict (Bigram.features client.payload)) with
          | none => simp only [bind, Option.bind, haccepted]
          | some protocol =>
              have haccepted := accepted?_eq_some_iff.mp haccepted
              exact absurd ⟨models, client, hmodels, hclient, haccepted⟩ (h protocol)

/-- What is accepted is known. -/
theorem Accepts.isUnknown (h : d.Accepts packets protocol) : protocol.isUnknown = false := by
  obtain ⟨-, -, -, -, ⟨label, -, -, hprotocol⟩, -⟩ := h
  have hknown : ∀ p ∈ protocols, p.isUnknown = false := by decide
  exact hknown protocol (List.mem_of_getElem? hprotocol)

theorem step_of_accepts {f : Flow} (h : d.Accepts f.packets protocol)
    (hknown : protocol.isUnknown = false) :
    d.step (.judge f) = (d, .judged (f.store ⟨protocol, name⟩) ⟨protocol, name⟩) := by
  simp only [step, judge, verdict_of_accepts h, Verdict.isUnknown, hknown, Bool.false_eq_true, if_false]

theorem step_of_not_accepts {f : Flow} (h : ∀ protocol, ¬ d.Accepts f.packets protocol) :
    d.step (.judge f) = (d, .judged f .unknown) := by
  simp only [step, judge, verdict_of_not_accepts h]
  rfl

/-- The relation has the step that is made, for each event. -/
theorem exists_step (d : LinearDetector) (event : LinearEvent) :
    ∃ d' answer, d.Step event d' answer := by
  cases event with
  | configure settings => exact ⟨_, _, .configured settings⟩
  | stop => exact ⟨_, _, .stopped⟩
  | start sources =>
      -- the model for UDP is loaded only where that for TCP was
      cases htcp : load sources d.settings.tcpSource with
      | error e => exact ⟨_, _, .tcpFailed htcp⟩
      | ok tcp =>
          have htcp := load_eq_ok_iff.mp htcp
          cases hudp : load sources d.settings.udpSource with
          | error e => exact ⟨_, _, .udpFailed htcp hudp⟩
          | ok udp =>
              have hmodels : ModelPair.From ⟨tcp, udp⟩ d.settings sources :=
                ⟨htcp, load_eq_ok_iff.mp hudp⟩
              exact ⟨_, _, .loaded hmodels⟩
  | judge f =>
      by_cases haccepts : ∃ protocol, d.Accepts f.packets protocol
      · obtain ⟨protocol, haccepts⟩ := haccepts
        exact ⟨_, _, .known haccepts haccepts.isUnknown⟩
      · exact ⟨_, _, .unknown (not_exists.mp haccepts)⟩

theorem step_eq {d' : LinearDetector} {answer : LinearAnswer} (h : d.Step event d' answer) :
    d.step event = (d', answer) := by
  cases h with
  | configured settings => rfl
  | loaded hmodels => exact step_of_from hmodels
  | tcpFailed htcp => exact step_of_tcp_error htcp
  | udpFailed htcp hudp => exact step_of_udp_error htcp hudp
  | stopped => rfl
  | known haccepts hknown => exact step_of_accepts haccepts hknown
  | unknown hnone => exact step_of_not_accepts hnone

theorem step_iff {d' : LinearDetector} {answer : LinearAnswer} :
    d.Step event d' answer ↔ d.step event = (d', answer) := by
  constructor
  · exact step_eq
  · intro h
    obtain ⟨d'', answer', hstep⟩ := exists_step d event
    obtain ⟨rfl, rfl⟩ := Prod.mk.inj (h.symm.trans (step_eq hstep))
    exact hstep

/-! ## Runs -/

/-- The event is a start that reads these models. -/
def Loads (models : ModelPair) (d : LinearDetector) (event : LinearEvent) : Prop :=
  ∃ sources, event = .start sources ∧ models.From d.settings sources

/-- The event is a start, and the answer is that it succeeded. -/
def Succeeds (d : LinearDetector) (event : LinearEvent) : Prop :=
  (∃ sources, event = .start sources) ∧ (d.step event).2 = .outcome (.ok ())

/-- The event is no stop, and no start that succeeds. -/
def Keeps (d : LinearDetector) (event : LinearEvent) : Prop :=
  event ≠ .stop ∧ ¬ d.Succeeds event

theorem not_loads_of_ne {models : ModelPair} (h : ∀ sources, event ≠ .start sources) :
    ¬ Loads models d event := by
  rintro ⟨sources, hevent, -⟩
  exact h sources hevent

theorem loads_start_iff {models : ModelPair} :
    Loads models d (.start sources) ↔ models.From d.settings sources := by
  constructor
  · rintro ⟨sources', hevent, hmodels⟩
    obtain rfl := LinearEvent.start.inj hevent
    exact hmodels
  · exact fun hmodels => ⟨sources, rfl, hmodels⟩

/-- A start that succeeds reads two models. -/
theorem succeeds_iff : d.Succeeds event ↔ ∃ models, Loads models d event := by
  constructor
  · rintro ⟨⟨sources, rfl⟩, hanswer⟩
    obtain ⟨d', answer, hstep⟩ := exists_step d (.start sources)
    rw [step_eq hstep] at hanswer
    cases hstep with
    | loaded hmodels => exact ⟨_, loads_start_iff.mpr hmodels⟩
    | tcpFailed htcp => cases hanswer
    | udpFailed htcp hudp => cases hanswer
  · rintro ⟨models, sources, rfl, hmodels⟩
    exact ⟨⟨sources, rfl⟩, by rw [step_of_from hmodels]⟩

/-- What an event does to the models: a start that succeeds brings some, and nothing else but a stop
takes any away. -/
theorem models_step_iff (d : LinearDetector) (event : LinearEvent) (models : ModelPair) :
    (d.step event).1.models = some models ↔
      Loads models d event ∨ (d.models = some models ∧ d.Keeps event) := by
  -- an event that leaves the models neither stops the detector nor loads any
  have hkept : ∀ {d' : LinearDetector}, d'.models = d.models → event ≠ .stop →
      (∀ models, ¬ Loads models d event) →
      (d'.models = some models ↔ Loads models d event ∨ (d.models = some models ∧ d.Keeps event)) := by
    intro d' hmodels hstop hnone
    have hfails : ¬ d.Succeeds event := mt succeeds_iff.mp (not_exists.mpr hnone)
    rw [hmodels, or_iff_right (hnone models)]
    exact (and_iff_left ⟨hstop, hfails⟩).symm
  obtain ⟨d', answer, hstep⟩ := exists_step d event
  rw [step_eq hstep]
  cases hstep with
  | configured settings => exact hkept rfl nofun fun _ => not_loads_of_ne nofun
  | loaded hloaded =>
      constructor
      · rintro ⟨⟩
        exact .inl (loads_start_iff.mpr hloaded)
      · rintro (hloads | ⟨-, -, hfails⟩)
        · exact congrArg some (hloaded.inj (loads_start_iff.mp hloads))
        · exact absurd (succeeds_iff.mpr ⟨_, loads_start_iff.mpr hloaded⟩) hfails
  | tcpFailed htcp =>
      refine hkept rfl nofun fun models hloads => ?_
      exact (loads_start_iff.mp hloads).tcp.ne_error htcp
  | udpFailed htcp hudp =>
      refine hkept rfl nofun fun models hloads => ?_
      exact (loads_start_iff.mp hloads).udp.ne_error hudp
  | stopped => simp [Loads, Keeps]
  | known haccepts hknown => exact hkept rfl nofun fun _ => not_loads_of_ne nofun
  | unknown hnone => exact hkept rfl nofun fun _ => not_loads_of_ne nofun

theorem isLoaded_iff : d.isLoaded = true ↔ ∃ models, d.models = some models := Option.isSome_iff_exists

theorem isLoaded_step_iff (d : LinearDetector) (event : LinearEvent) :
    (d.step event).1.isLoaded = true ↔ d.Succeeds event ∨ (d.isLoaded = true ∧ event ≠ .stop) := by
  simp only [isLoaded_iff, models_step_iff, Keeps, succeeds_iff]
  grind

theorem settings_step (d : LinearDetector) (event : LinearEvent) :
    (d.step event).1.settings = event.settings?.getD d.settings := by
  obtain ⟨d', answer, hstep⟩ := exists_step d event
  rw [step_eq hstep]
  cases hstep <;> rfl

theorem settings_after (d : LinearDetector) (events : List LinearEvent) :
    (after step d events).settings = (events.filterMap LinearEvent.settings?).getLastD d.settings := by
  induction events generalizing d with
  | nil => rfl
  | cons event events ih =>
      show (after step (d.step event).1 events).settings = _
      rw [ih, settings_step]
      cases hsettings : event.settings? with
      | none => rw [List.filterMap_cons_none hsettings, Option.getD_none]
      | some settings => rw [List.filterMap_cons_some hsettings, List.getLastD_cons, Option.getD_some]

theorem models_after_iff {models : ModelPair} :
    (after step d events).models = some models ↔
      Since step (Loads models) Keeps d events ∨ (d.models = some models ∧ Always step Keeps d events) := by
  refine after_iff_since (R := fun d : LinearDetector => d.models = some models) ?_
  intro first event later _
  exact models_step_iff (after step d first) event models

theorem isLoaded_after_iff :
    (after step d events).isLoaded = true ↔ Since step Succeeds (fun _ event => event ≠ .stop) d events ∨
      (d.isLoaded = true ∧ Always step (fun _ event => event ≠ .stop) d events) := by
  refine after_iff_since (R := fun d : LinearDetector => d.isLoaded = true) ?_
  intro first event later _
  exact isLoaded_step_iff (after step d first) event

/-- **Loading is all or nothing.** After any run of a new detector, where the sources may hold something
else at each start:

* each event does to the detector, and is answered, as `Step` says: a start that fails changes nothing
  and names the source that failed, the one for TCP first; one that succeeds leaves the models that both
  sources of its settings held; other settings leave the models; and what is stored with a flow is a
  verdict that is known, for which there must be models, a payload, one of the labels and enough
  confidence by the present threshold;
* the settings are the latest ones;
* the models are those of a start since which no start succeeded and no stop came;
* there are models exactly if some start succeeded and no stop came since. -/
theorem loading_is_all_or_nothing (initial : LinearSettings) (events : List LinearEvent) :
    let new : LinearDetector := { settings := initial }
    let d := after step new events
    (∀ event d' answer, d.Step event d' answer ↔ d.step event = (d', answer)) ∧
    d.settings = (events.filterMap LinearEvent.settings?).getLastD initial ∧
    (∀ models, d.models = some models ↔ Since step (Loads models) Keeps new events) ∧
    (d.isLoaded = true ↔ Since step Succeeds (fun _ event => event ≠ .stop) new events) := by
  intro new d
  refine ⟨fun _ _ _ => step_iff, settings_after new events, ?_, ?_⟩
  · intro models
    have hnone : new.models ≠ some models := nofun
    exact models_after_iff.trans (or_iff_left fun h => hnone h.1)
  · have hnone : new.isLoaded ≠ true := nofun
    exact isLoaded_after_iff.trans (or_iff_left fun h => hnone h.1)

end LinearDetector
end FlowScope
