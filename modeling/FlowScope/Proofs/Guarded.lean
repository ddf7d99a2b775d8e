import FlowScope.Proofs.Bytes
import FlowScope.Guarded

/-!
# What guarded computations ensure

`x.Ensures P` says that `x` does not fault, and that a value it delivers has the property `P`; a refusal
is always allowed. Each operation has one lemma that says what it needs in order not to fault and what
is known of its value, and `Ensures.bind` chains them: what was established before a step is at hand
in the steps after it. Where the value at the end does not matter, `Ensures.bind_safe` takes its place.

`x.Decides P` says more, of a computation that does not fault: it delivers the values with the property
`P`, and no others, and refuses if there are none. A property that is put together along the steps, by
`Decides.bind`, so describes the accepted input exactly. Where no fault is in question, `bind_eq_ok_iff`
and the lemmas `…_eq_ok_iff` of the operations take a computation that delivered a value apart.
-/

namespace FlowScope

/-- A computation delivers a value if its steps deliver values. -/
theorem bind_eq_ok_iff {ε α β : Type} {x : Except ε α} {f : α → Except ε β} {b : β} :
    x >>= f = .ok b ↔ ∃ a, x = .ok a ∧ f a = .ok b := by
  constructor
  · intro h
    cases x with
    | error e => cases h
    | ok a => exact ⟨a, rfl, h⟩
  · rintro ⟨a, rfl, h⟩
    exact h

theorem map_eq_ok_iff {ε α β : Type} {x : Except ε α} {f : α → β} {b : β} :
    x.map f = .ok b ↔ ∃ a, x = .ok a ∧ f a = b := by
  cases x <;> simp [Except.map]

theorem mapError_eq_ok_iff {ε ε' α : Type} {x : Except ε α} {f : ε → ε'} {a : α} :
    x.mapError f = .ok a ↔ x = .ok a := by
  cases x <;> simp [Except.mapError]

namespace Guarded

variable {ε α β : Type} {x : Guarded ε α} {P Q : α → Prop}

/-- The computation does not fault, and a value it delivers has the property. -/
def Ensures (x : Guarded ε α) (P : α → Prop) : Prop :=
  match x with
  | .ok a => P a
  | .error (.refused _) => True
  | .error (.fault _) => False

theorem Ensures.mono (h : x.Ensures P) (hPQ : ∀ a, P a → Q a) : x.Ensures Q := by
  rcases x with (reason | cause) | a
  · trivial
  · exact h
  · exact hPQ a h

theorem Ensures.bind {f : α → Guarded ε β} {Q : β → Prop} (hx : x.Ensures P)
    (hf : ∀ a, P a → (f a).Ensures Q) : (x >>= f).Ensures Q := by
  rcases x with (reason | cause) | a
  · trivial
  · exact hx
  · exact hf a hx

theorem Ensures.safe (h : x.Ensures P) : x.Safe := by
  rintro cause rfl
  exact h

theorem Safe.ensures (h : x.Safe) : x.Ensures fun _ => True := by
  rcases x with (reason | cause) | a
  · trivial
  · exact h cause rfl
  · trivial

theorem Ensures.bind_safe {f : α → Guarded ε β} (hx : x.Ensures P) (hf : ∀ a, P a → (f a).Safe) :
    (x >>= f).Safe :=
  (hx.bind fun a ha => (hf a ha).ensures).safe

/-- A computation that has no reason to refuse its input, and does not fault, delivers a value. -/
theorem Ensures.exists_ok {x : Guarded Empty α} (h : x.Ensures P) : ∃ a, x = .ok a ∧ P a := by
  rcases x with (reason | cause) | a
  · exact reason.elim
  · exact h.elim
  · exact ⟨a, rfl, h⟩

theorem settle_eq_ok_iff {onFault : ε} {a : α} : x.settle onFault = .ok a ↔ x = .ok a := by
  rcases x with (reason | cause) | b <;> simp [settle]

theorem ensures_pure {a : α} (h : P a) : Ensures (pure a : Guarded ε α) P := h

theorem pure_safe (a : α) : (pure a : Guarded ε α).Safe :=
  (ensures_pure trivial : Ensures _ fun _ => True).safe

/-- Unless it faults, the computation delivers exactly the values with the property. -/
def Decides (x : Guarded ε α) (P : α → Prop) : Prop := x.Safe → ∀ a, x = .ok a ↔ P a

theorem Decides.congr (h : x.Decides P) (hPQ : ∀ a, P a ↔ Q a) : x.Decides Q :=
  fun hsafe a => (h hsafe a).trans (hPQ a)

/-- A computation that delivered a value did not fault. -/
theorem Decides.of_eq_ok {a : α} (h : x.Decides P) (ha : x = .ok a) : P a := by
  have hsafe : x.Safe := by
    rw [ha]
    exact pure_safe a
  exact (h hsafe a).mp ha

theorem Decides.bind {f : α → Guarded ε β} {R : α → β → Prop} (hx : x.Decides P)
    (hf : ∀ a, P a → (f a).Decides (R a)) : (x >>= f).Decides fun b => ∃ a, P a ∧ R a b := by
  intro hsafe b
  -- a fault of the first part would be one of the whole
  have hxsafe : x.Safe := by
    rintro cause rfl
    exact hsafe cause rfl
  rw [bind_eq_ok_iff]
  refine exists_congr fun a => ?_
  rw [hx hxsafe a]
  refine and_congr_right fun ha => ?_
  -- and so would one of the second, for the value at hand
  have hfsafe : (f a).Safe := by
    rw [(hx hxsafe a).mpr ha] at hsafe
    exact hsafe
  exact hf a ha hfsafe b

/-- The step delivers one value at most. -/
theorem Decides.bind_eq {f : α → Guarded ε β} {a : α} {R : β → Prop} (hx : x.Decides (· = a))
    (hf : (f a).Decides R) : (x >>= f).Decides R := by
  refine (hx.bind (R := fun _ => R) ?_).congr fun b => ?_
  · rintro _ rfl
    exact hf
  · exact ⟨fun ⟨_, _, h⟩ => h, fun h => ⟨a, rfl, h⟩⟩

theorem decides_pure (a : α) : Decides (pure a : Guarded ε α) (· = a) := by
  intro _ b
  constructor
  · rintro ⟨⟩
    rfl
  · rintro rfl
    rfl

theorem decides_halt {cause : Fault} : Decides (halt cause : Guarded ε α) P :=
  fun hsafe => absurd rfl (hsafe cause)

/-! ### Arithmetic -/

theorem ensures_addBelow {limit a b : Nat} (h : a + b < limit) :
    Ensures (addBelow limit a b : Guarded ε Nat) (· = a + b) := by
  rw [addBelow, if_pos h]
  exact ensures_pure rfl

theorem decides_addBelow (limit a b : Nat) :
    Decides (addBelow limit a b : Guarded ε Nat) (· = a + b) := by
  unfold addBelow
  split
  next => exact decides_pure _
  next => exact decides_halt

theorem ensures_add {a b : Nat} (h : a + b < wordLimit) :
    Ensures (add a b : Guarded ε Nat) (· = a + b) := ensures_addBelow h

theorem decides_add (a b : Nat) : Decides (add a b : Guarded ε Nat) (· = a + b) :=
  decides_addBelow wordLimit a b

theorem ensures_mul {a b : Nat} (h : a * b < wordLimit) :
    Ensures (mul a b : Guarded ε Nat) (· = a * b) := by
  rw [mul, if_pos h]
  exact ensures_pure rfl

theorem add_eq_ok_iff {a b c : Nat} :
    (add a b : Guarded ε Nat) = .ok c ↔ a + b < wordLimit ∧ a + b = c := by
  unfold add addBelow
  split
  next h => simp [h, pure, Except.pure]
  next h => simp [h, halt]

theorem sub_eq_ok_iff {a b c : Nat} : (sub a b : Guarded ε Nat) = .ok c ↔ b ≤ a ∧ a - b = c := by
  unfold sub
  split
  next h => simp [h, pure, Except.pure]
  next h => simp [h, halt]

theorem ensures_sub {a b : Nat} (h : b ≤ a) : Ensures (sub a b : Guarded ε Nat) (· = a - b) := by
  rw [sub, if_pos h]
  exact ensures_pure rfl

/-! ### Items -/

variable {bytes : Bytes}

theorem ensures_octet {i : Nat} (h : i < bytes.length) :
    Ensures (octet bytes i : Guarded ε UInt8) (bytes[i]? = some ·) := by
  rw [octet, List.getElem?_eq_getElem h]
  exact ensures_pure rfl

theorem ensures_slice {start width : Nat} (h : start + width ≤ bytes.length) :
    Ensures (slice bytes start width : Guarded ε Bytes) (· = (bytes.drop start).take width) := by
  rw [slice, Bytes.field?, if_pos h]
  exact ensures_pure rfl

theorem ensures_tail {items : List α} {start : Nat} (h : start ≤ items.length) :
    Ensures (tail items start : Guarded ε (List α)) (· = items.drop start) := by
  rw [tail, if_pos h]
  exact ensures_pure rfl

theorem octet_eq_ok_iff {i : Nat} {b : UInt8} :
    (octet bytes i : Guarded ε UInt8) = .ok b ↔ bytes[i]? = some b := by
  unfold octet
  cases bytes[i]? with
  | none => simp [halt]
  | some c => simp [pure, Except.pure]

theorem tail_eq_ok_iff {items rest : List α} {start : Nat} :
    (tail items start : Guarded ε (List α)) = .ok rest ↔
      start ≤ items.length ∧ items.drop start = rest := by
  unfold tail
  split
  next h => simp [h, pure, Except.pure]
  next h => simp [h, halt]

end Guarded

/-! ### Probes -/

namespace Probe

open Guarded

variable {α : Type} {P : α → Prop}

theorem ensures_mismatch : (mismatch : Probe α).Ensures P := trivial

theorem ensures_demand (condition : Prop) [Decidable condition] :
    (demand condition).Ensures fun _ => condition := by
  unfold demand
  split
  next h => exact h
  next => exact ensures_mismatch

theorem decides_mismatch (h : ∀ a, ¬ P a) : (mismatch : Probe α).Decides P :=
  fun _ a => iff_of_false (by simp [mismatch, refuse]) (h a)

theorem decides_demand (condition : Prop) [Decidable condition] :
    (demand condition).Decides fun _ => condition := by
  unfold demand
  split
  next h => exact (decides_pure ()).congr fun _ => iff_of_true rfl h
  next h => exact decides_mismatch fun _ => h

theorem ensures_number {bytes : Bytes} {start width : Nat} (h : start + width < wordLimit) :
    (number bytes start width).Ensures fun n => start + width ≤ bytes.length ∧ n < 256 ^ width := by
  refine (ensures_add h).bind fun _ _ => ?_
  cases hnumber : bytes.number? start width with
  | none => exact ensures_mismatch
  | some n => exact ⟨(Bytes.number?_eq_some_iff.mp hnumber).1, Bytes.number?_lt hnumber⟩

theorem number_eq_ok_iff {bytes : Bytes} {start width n : Nat} (h : start + width < wordLimit) :
    number bytes start width = .ok n ↔ bytes.number? start width = some n := by
  rw [number, add, addBelow, if_pos h]
  show ofOption (bytes.number? start width) = _ ↔ _
  cases bytes.number? start width with
  | none => simp [ofOption, mismatch, refuse]
  | some m => simp [ofOption, pure, Except.pure]

theorem mismatch_safe : (mismatch : Probe α).Safe := (ensures_mismatch (P := fun _ => True)).safe

theorem demand_safe (condition : Prop) [Decidable condition] : (demand condition).Safe :=
  (ensures_demand condition).safe

theorem orElse_safe {first second : Probe α} (h : first.Safe) (h' : second.Safe) :
    (orElse first second).Safe := by
  rcases first with (reason | cause) | a
  · exact h'
  · exact h
  · exact h

theorem demand_eq_ok_iff {condition : Prop} [Decidable condition] {u : Unit} :
    demand condition = .ok u ↔ condition := by
  unfold demand
  split
  next h => exact iff_of_true rfl h
  next h => exact iff_of_false (by simp [mismatch, refuse]) h

theorem demand_bind {condition : Prop} [Decidable condition] {f : Unit → Probe α} :
    demand condition >>= f = if condition then f () else mismatch := by
  unfold demand
  split
  next => rfl
  next => rfl

theorem demand_bind_eq_ok_iff {condition : Prop} [Decidable condition] {f : Unit → Probe α} {a : α} :
    demand condition >>= f = .ok a ↔ condition ∧ f () = .ok a := by
  rw [bind_eq_ok_iff]
  constructor
  · rintro ⟨_, hdemand, h⟩
    exact ⟨demand_eq_ok_iff.mp hdemand, h⟩
  · rintro ⟨hcondition, h⟩
    exact ⟨(), demand_eq_ok_iff.mpr hcondition, h⟩

/-- A second probe is tried where the first does not fault. -/
theorem orElse_eq_ok_iff {first second : Probe Unit} (h : first.Safe) :
    orElse first second = .ok () ↔ first = .ok () ∨ second = .ok () := by
  rcases first with (reason | cause) | a
  · simp [orElse]
  · exact absurd rfl (h cause)
  · simp [orElse]

/-- A probe that does not fault accepts its input or finds a mismatch. -/
theorem eq_or_eq_of_safe {x : Probe Unit} (h : x.Safe) : x = .ok () ∨ x = .error (.refused ()) := by
  rcases x with (reason | cause) | a
  · exact .inr rfl
  · exact absurd rfl (h cause)
  · exact .inl rfl

theorem eq_refused_iff {x : Probe α} (h : x.Safe) :
    x = .error (.refused ()) ↔ ¬ ∃ a, x = .ok a := by
  rcases x with (reason | cause) | a
  · exact iff_of_true rfl (by simp)
  · exact absurd rfl (h cause)
  · exact iff_of_false (by simp) (by simp)

end Probe
end FlowScope
