import FlowScope.Proofs.Native.Inspectors

/-!
# What native libraries are asked

Asking about a flow is known by the calls that are made as much as by the answer. Here both are said apart
from the loops that make the calls.

* `Engine.Replies` — the calls to one library about some packets, and the answer to them. An nDPI library is
  shown the packets up to the first whose code settles the matter (`Ndpi.Settles`); which code that is, depends
  on all the packets shown so far.
* `NativeDetector.Names` — an inspector's answer is a known protocol. The detector asks its active inspectors
  up to the first of which that is true (`exists_asked`).

The main statement is `dispatch_stops_at_first_answer`.
-/

namespace FlowScope

/-! ## One library -/

namespace Ndpi

variable {codeAfter : List Packet → Int} {given shown later : List Packet} {p : Packet} {code : Int}
  {answer : Except InspectorError Protocol}

/-- The code ends the inspection with an answer: it stands for a protocol, or it is negative. -/
inductive Settles (code : Int) : Except InspectorError Protocol → Prop
  | protocol {protocol : Protocol} : protocol? code = some protocol → Settles code (.ok protocol)
  | failure : code < 0 → Settles code (.error (error code))

/-- No negative code stands for a protocol. -/
theorem protocol?_eq_none_of_neg (h : code < 0) : protocol? code = none := by
  cases code with
  | ofNat n => exact absurd h (Int.not_lt.mpr (Int.natCast_nonneg n))
  | negSucc n => rfl

/-- Of the packets `shown` after those given before, none makes the library answer with a code that settles
the matter. -/
def Unsettled (codeAfter : List Packet → Int) (given shown : List Packet) : Prop :=
  ∀ seen, seen ≠ [] → seen <+: shown → ¬ ∃ answer, Settles (codeAfter (given ++ seen)) answer

theorem unsettled_nil : Unsettled codeAfter given [] := by
  intro seen hne hseen
  exact absurd (List.prefix_nil.mp hseen) hne

theorem unsettled_cons_iff :
    Unsettled codeAfter given (p :: shown) ↔
      (¬ ∃ answer, Settles (codeAfter (given ++ [p])) answer) ∧
        Unsettled codeAfter (given ++ [p]) shown := by
  constructor
  · intro h
    refine ⟨h [p] (by simp) (by simp), ?_⟩
    intro seen _ hseen
    rw [List.append_assoc, List.singleton_append]
    exact h (p :: seen) (by simp) (List.cons_prefix_cons.mpr ⟨rfl, hseen⟩)
  · rintro ⟨hfirst, hlater⟩ seen hne hseen
    cases seen with
    | nil => exact absurd rfl hne
    | cons q seen =>
        obtain ⟨rfl, htail⟩ := List.cons_prefix_cons.mp hseen
        -- what has been seen is the first packet alone, or some of the later ones too
        by_cases hnil : seen = []
        · rwa [hnil]
        · have hunsettled := hlater seen hnil htail
          rwa [List.append_assoc, List.singleton_append] at hunsettled

/-! ### The inspection -/

theorem inspect_of_settles (h : Settles (codeAfter (given ++ [p])) answer) :
    inspect codeAfter given (p :: later) = ⟨[.inspect p], answer⟩ := by
  rw [inspect]
  cases h with
  | protocol hprotocol => simp only [hprotocol]
  | failure hneg => simp only [protocol?_eq_none_of_neg hneg, hneg, if_true]

theorem inspect_of_not_settles (h : ¬ ∃ answer, Settles (codeAfter (given ++ [p])) answer) :
    inspect codeAfter given (p :: later) =
      ⟨.inspect p :: (inspect codeAfter (given ++ [p]) later).calls,
        (inspect codeAfter (given ++ [p]) later).answer⟩ := by
  have hprotocol : protocol? (codeAfter (given ++ [p])) = none := by
    apply Option.eq_none_iff_forall_ne_some.mpr
    intro protocol hsome
    exact h ⟨_, .protocol hsome⟩
  have hneg : ¬ codeAfter (given ++ [p]) < 0 := fun hneg => h ⟨_, .failure hneg⟩
  rw [inspect]
  simp only [hprotocol, hneg, if_false]

/-- Packets that settle nothing are shown, and the inspection goes on behind them. -/
theorem inspect_append (h : Unsettled codeAfter given shown) (later : List Packet) :
    inspect codeAfter given (shown ++ later) =
      ⟨shown.map .inspect ++ (inspect codeAfter (given ++ shown) later).calls,
        (inspect codeAfter (given ++ shown) later).answer⟩ := by
  induction shown generalizing given with
  | nil => rw [List.append_nil]; rfl
  | cons p shown ih =>
      obtain ⟨hfirst, hshown⟩ := unsettled_cons_iff.mp h
      rw [List.cons_append, inspect_of_not_settles hfirst, ih hshown, List.append_assoc,
        List.singleton_append]
      rfl

theorem inspect_of_unsettled (h : Unsettled codeAfter given shown) :
    inspect codeAfter given shown = ⟨shown.map .inspect, .ok .unknown⟩ := by
  have happend := inspect_append h []
  rw [List.append_nil] at happend
  rw [happend]
  simp [inspect]

theorem inspect_of_first (h : Unsettled codeAfter given shown)
    (hsettles : Settles (codeAfter (given ++ (shown ++ [p]))) answer) :
    inspect codeAfter given (shown ++ p :: later) = ⟨(shown ++ [p]).map .inspect, answer⟩ := by
  rw [← List.append_assoc] at hsettles
  rw [inspect_append h, inspect_of_settles hsettles, List.map_append]
  rfl

/-- There is a first packet that settles the matter, or none does. -/
theorem exists_first_or_unsettled (codeAfter : List Packet → Int) (given packets : List Packet) :
    (∃ front last behind answer, packets = front ++ last :: behind ∧ Unsettled codeAfter given front ∧
      Settles (codeAfter (given ++ (front ++ [last]))) answer) ∨
    Unsettled codeAfter given packets := by
  induction packets generalizing given with
  | nil => exact .inr unsettled_nil
  | cons p later ih =>
      -- the first packet settles it, or it is given by the time the next one is shown
      by_cases hfirst : ∃ answer, Settles (codeAfter (given ++ [p])) answer
      · obtain ⟨answer, hanswer⟩ := hfirst
        exact .inl ⟨[], p, later, answer, rfl, unsettled_nil, hanswer⟩
      · rcases ih (given ++ [p]) with ⟨front, last, behind, answer, rfl, hfront, hanswer⟩ | hlater
        · rw [List.append_assoc, List.singleton_append, ← List.cons_append] at hanswer
          exact .inl ⟨p :: front, last, behind, answer, rfl,
            unsettled_cons_iff.mpr ⟨hfirst, hfront⟩, hanswer⟩
        · exact .inr (unsettled_cons_iff.mpr ⟨hfirst, hlater⟩)

end Ndpi

/-- The calls made to a library about some packets, in order, and the answer.

* An engine that answers for the flow as a whole gets no native calls.
* nDPI is not asked about a flow without packets. Otherwise it is asked once to open a flow, with the first
  packet. If it does, it is shown the packets up to the first that settles the matter, or all of them.
* libprotoident is asked once to open a flow. If it does, it gets the frames that are not empty, however few,
  and is then asked for its guess. -/
inductive Engine.Replies : Engine → List Packet → Inquiry → Prop
  | direct {answer : List Packet → Except InspectorError Protocol} {packets : List Packet} :
      Replies (.direct answer) packets ⟨[], answer packets⟩
  | empty {openFlow : Packet → Option (List Packet → Int)} :
      Replies (.ndpi openFlow) [] ⟨[], .ok .unknown⟩
  | refused {openFlow : Packet → Option (List Packet → Int)} {first : Packet} {later : List Packet} :
      openFlow first = none →
      Replies (.ndpi openFlow) (first :: later) ⟨[.openFlow first], .error (.noFlow Ndpi.name)⟩
  | settled {openFlow : Packet → Option (List Packet → Int)} {codeAfter : List Packet → Int}
      {first last : Packet} {later front behind : List Packet}
      {answer : Except InspectorError Protocol} :
      openFlow first = some codeAfter → first :: later = front ++ last :: behind →
      Ndpi.Unsettled codeAfter [] front → Ndpi.Settles (codeAfter (front ++ [last])) answer →
      Replies (.ndpi openFlow) (first :: later)
        ⟨.openFlow first :: (front ++ [last]).map .inspect, answer⟩
  | unsettled {openFlow : Packet → Option (List Packet → Int)} {codeAfter : List Packet → Int}
      {first : Packet} {later : List Packet} :
      openFlow first = some codeAfter → Ndpi.Unsettled codeAfter [] (first :: later) →
      Replies (.ndpi openFlow) (first :: later)
        ⟨.openFlow first :: (first :: later).map .inspect, .ok .unknown⟩
  | closed {packets : List Packet} :
      Replies (.protoident none) packets ⟨[.openFlow none], .error (.noFlow Protoident.name)⟩
  | guessed {guessFor : List Bytes → Nat} {packets : List Packet} {frames : List Bytes} :
      frames = (packets.map (·.frame)).filter (· ≠ []) →
      Replies (.protoident (some guessFor)) packets
        ⟨.openFlow none :: (frames.map .addFrame ++ [.guess]),
          .ok ((Protoident.protocol? (guessFor frames)).getD .unknown)⟩

namespace Engine

variable {engine : Engine} {packets : List Packet} {inquiry : Inquiry}

theorem Replies.ask_eq (h : engine.Replies packets inquiry) : engine.ask packets = inquiry := by
  cases h with
  | direct => rfl
  | empty => rfl
  | refused hopen =>
      rw [ask, Ndpi.ask]
      simp only [hopen]
      rfl
  | settled hopen hsplit hfront hlast =>
      rw [ask, Ndpi.ask]
      simp only [hopen, hsplit]
      rw [Ndpi.inspect_of_first hfront hlast]
  | unsettled hopen hunsettled =>
      rw [ask, Ndpi.ask]
      simp only [hopen]
      rw [Ndpi.inspect_of_unsettled hunsettled]
  | closed => rfl
  | guessed hframes =>
      -- the frames that are shown are those with an octet in them
      have hnonempty : ∀ frame : Bytes, decide (frame ≠ []) = !frame.isEmpty := by
        intro frame
        cases frame <;> rfl
      simp only [hnonempty] at hframes
      rw [ask, Protoident.ask, hframes]
      rfl

theorem exists_replies (engine : Engine) (packets : List Packet) :
    ∃ inquiry, engine.Replies packets inquiry := by
  cases engine with
  | direct answer => exact ⟨_, .direct⟩
  | ndpi openFlow =>
      cases packets with
      | nil => exact ⟨_, .empty⟩
      | cons first later =>
          cases hopen : openFlow first with
          | none => exact ⟨_, .refused hopen⟩
          | some codeAfter =>
              rcases Ndpi.exists_first_or_unsettled codeAfter [] (first :: later) with
                ⟨front, last, behind, answer, hsplit, hfront, hlast⟩ | hunsettled
              · exact ⟨_, .settled hopen hsplit hfront hlast⟩
              · exact ⟨_, .unsettled hopen hunsettled⟩
  | protoident openFlow =>
      cases openFlow with
      | none => exact ⟨_, .closed⟩
      | some guessFor => exact ⟨_, .guessed rfl⟩

theorem ask_eq_iff : engine.ask packets = inquiry ↔ engine.Replies packets inquiry := by
  constructor
  · rintro rfl
    obtain ⟨inquiry, h⟩ := engine.exists_replies packets
    rwa [h.ask_eq]
  · exact Replies.ask_eq

end Engine

/-! ## Several inspectors -/

namespace NativeDetector

variable {d : NativeDetector} {packets : List Packet}

/-- The record of questions about the packets to several inspectors, the latest first. -/
def questions (d : NativeDetector) (packets : List Packet) (asked : List Nat) :
    History InspectorEvent :=
  (asked.map fun i => (i, .asked ((d.inspector i).engine.ask packets).calls)).reverse

theorem questions_cons (d : NativeDetector) (packets : List Packet) (i : Nat) (asked : List Nat) :
    d.questions packets (i :: asked) ++ d.history =
      (d.askInspector i packets).1.questions packets asked ++
        (d.askInspector i packets).1.history := by
  rw [questions, List.map_cons, List.reverse_cons, List.append_assoc]
  rfl

theorem about_questions_append {i : Nat} {asked : List Nat} (hi : i ∉ asked)
    (h : History InspectorEvent) : History.about (d.questions packets asked ++ h) i = h.about i := by
  have hnone : History.about (d.questions packets asked) i = [] := by
    apply History.about_eq_nil
    simpa [questions] using hi
  rw [History.about_append, hnone, List.nil_append]

/-- The inspectors that are asked are those up to the first that names a known protocol, or all of them. -/
theorem exists_asked (packets : List Packet) (l : List Nat) (d : NativeDetector) :
    ∃ asked later, l = asked ++ later ∧
      (d.firstAnswer packets l).1 = { d with history := d.questions packets asked ++ d.history } ∧
      ((∃ before i protocol, asked = before ++ [i] ∧
          (∀ j ∈ before, ¬ ∃ protocol, d.Names packets j protocol) ∧ d.Names packets i protocol ∧
          (d.firstAnswer packets l).2 = ⟨protocol, (d.inspector i).name⟩) ∨
        (later = [] ∧ (∀ j ∈ asked, ¬ ∃ protocol, d.Names packets j protocol) ∧
          (d.firstAnswer packets l).2 = .unknown)) := by
  induction l generalizing d with
  | nil => exact ⟨[], [], rfl, rfl, .inr ⟨rfl, by simp, rfl⟩⟩
  | cons i l ih =>
      by_cases hi : ∃ protocol, d.Names packets i protocol
      · obtain ⟨protocol, hi⟩ := hi
        rw [firstAnswer_of_names hi]
        exact ⟨[i], l, rfl, rfl, .inl ⟨[], i, protocol, rfl, by simp, hi, rfl⟩⟩
      · -- the question is recorded, which changes no answer of those still to be asked
        obtain ⟨asked, later, rfl, hd, hend⟩ := ih (d.askInspector i packets).1
        rw [firstAnswer_of_not_names hi]
        refine ⟨i :: asked, later, rfl, ?_, ?_⟩
        · rw [hd, questions_cons]
          rfl
        · rcases hend with ⟨before, k, protocol, rfl, hbefore, hk, hverdict⟩ | ⟨rfl, hasked, hverdict⟩
          · exact .inl ⟨i :: before, k, protocol, rfl, List.forall_mem_cons.mpr ⟨hi, hbefore⟩, hk,
              hverdict⟩
          · exact .inr ⟨rfl, List.forall_mem_cons.mpr ⟨hi, hasked⟩, hverdict⟩

/-- **Judging stops at the first definite answer.** The active inspectors are asked in order, up to the first
that names a known protocol. This protocol is the verdict, under the name of the inspector, and is stored with
the flow. If there is none, all of them are asked, the verdict is unknown, and the flow is left as it was. No
other inspector gets any call. The calls that an inspector makes to its library, and the answer that it takes
from them, are those that the library's kind says. -/
theorem dispatch_stops_at_first_answer (d : NativeDetector) (f : Flow) :
    (∃ asked later, d.active = asked ++ later ∧
      (d.judge f).1 = { d with history := d.questions f.packets asked ++ d.history } ∧
      (∀ i, i ∉ asked → (d.judge f).1.history.about i = d.history.about i) ∧
      ((∃ before i protocol, asked = before ++ [i] ∧
          (∀ j ∈ before, ¬ ∃ protocol, d.Names f.packets j protocol) ∧
          d.Names f.packets i protocol ∧
          (d.judge f).2 = (f.store ⟨protocol, (d.inspector i).name⟩,
            ⟨protocol, (d.inspector i).name⟩)) ∨
        (later = [] ∧ (∀ j ∈ asked, ¬ ∃ protocol, d.Names f.packets j protocol) ∧
          (d.judge f).2 = (f, .unknown)))) ∧
    ∀ (engine : Engine) (packets : List Packet) (inquiry : Inquiry),
      engine.ask packets = inquiry ↔ engine.Replies packets inquiry := by
  refine ⟨?_, fun engine packets inquiry => Engine.ask_eq_iff⟩
  -- the verdict is that of the search, and it is stored if it is known
  obtain ⟨asked, later, hactive, hd, hend⟩ := exists_asked f.packets d.active d
  have hjudge : d.judge f = ((d.firstAnswer f.packets d.active).1,
      if (d.firstAnswer f.packets d.active).2.isUnknown then f
        else f.store (d.firstAnswer f.packets d.active).2,
      (d.firstAnswer f.packets d.active).2) := rfl
  refine ⟨asked, later, hactive, ?_, ?_, ?_⟩
  · rw [hjudge]
    exact hd
  · intro i hi
    rw [hjudge]
    simp only [hd]
    exact about_questions_append hi d.history
  · rcases hend with ⟨before, i, protocol, hasked, hbefore, hi, hverdict⟩ | ⟨hlater, hasked, hverdict⟩
    · refine .inl ⟨before, i, protocol, hasked, hbefore, hi, ?_⟩
      rw [hjudge, hverdict]
      simp only [Verdict.isUnknown, hi.2, Bool.false_eq_true, if_false]
    · refine .inr ⟨hlater, hasked, ?_⟩
      rw [hjudge, hverdict]
      rfl

/-- A library opens no flow, the next one fails on a fragment, and a third one names a protocol with the
second of three packets, which it is shown no more of. A fourth one gets no call. -/
theorem dispatch_of_four_libraries :
    let first := Packet.udp ⟨.v4 1, 5000⟩ ⟨.v4 2, 80⟩ [1]
    let second := Packet.udp ⟨.v4 2, 80⟩ ⟨.v4 1, 5000⟩ [2]
    let third := Packet.udp ⟨.v4 1, 5000⟩ ⟨.v4 2, 80⟩ [3]
    let closed : Packet → Option (List Packet → Int) := fun _ => none
    let failing : Packet → Option (List Packet → Int) := fun _ => some fun _ => -11
    let naming : Packet → Option (List Packet → Int) :=
      fun _ => some fun given => if given.length = 2 then 7 else 0
    let d : NativeDetector := { NativeDetector.ofInspectors
      [.ndpi 0 closed, .ndpi 0 failing, .ndpi 0 naming, .protoident 0 (some fun _ => 0)] with
      active := [0, 1, 2, 3] }
    let f : Flow := { packets := [first, second, third] }
    (Engine.Replies (.ndpi closed) f.packets ⟨[.openFlow first], .error (.noFlow "nDPI")⟩ ∧
      Engine.Replies (.ndpi failing) f.packets
        ⟨[.openFlow first, .inspect first], .error (.fragment "nDPI")⟩ ∧
      Engine.Replies (.ndpi naming) f.packets
        ⟨[.openFlow first, .inspect first, .inspect second], .ok .http⟩) ∧
    (d.judge f).2 = (f.store ⟨.http, "nDPI"⟩, ⟨.http, "nDPI"⟩) ∧
    (d.judge f).1.history =
      [(2, .asked [.openFlow first, .inspect first, .inspect second]),
        (1, .asked [.openFlow first, .inspect first]), (0, .asked [.openFlow first])] := by
  intro first second third closed failing naming d f
  obtain ⟨-, hreplies⟩ := dispatch_stops_at_first_answer d f
  refine ⟨⟨?_, ?_, ?_⟩, rfl, rfl⟩
  · exact (hreplies _ _ _).mp rfl
  · exact (hreplies _ _ _).mp rfl
  · exact (hreplies _ _ _).mp rfl

end NativeDetector
end FlowScope
