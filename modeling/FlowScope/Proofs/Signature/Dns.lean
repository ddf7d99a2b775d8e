import FlowScope.Proofs.Guarded
import FlowScope.Signature.Dns

/-!
# How far the reading of a DNS message goes

No offset that the reading of a DNS message arrives at outgrows a word, however long the message and
whatever it holds. A pointer leads back to the first 2¹⁴ octets, the labels of a name take 255 octets at
most, and the counts have 16 bits; so every step moves on by a bounded distance (`ensures_nameEnd`,
`ensures_recordEnd`), and the number of steps is bounded (`ensures_advanceBy`).

The main statement is `parse_safe`: a payload is read or refused.
-/

namespace FlowScope.Signature.Dns

open Guarded Probe

variable {msg : Message} {offset start : Nat}

/-! ## Reading at an offset -/

theorem ensures_word (h : offset + 2 < wordLimit) : (word msg offset).Ensures (· < 0x10000) := by
  refine (ensures_add (by omega)).bind ?_
  rintro _ rfl
  refine (ensures_add h).bind ?_
  rintro _ rfl
  cases msg[offset]? with
  | none => exact ensures_mismatch
  | some high =>
      cases msg[offset + 1]? with
      | none => exact ensures_mismatch
      | some low =>
          -- two octets make less than a word of 16 bits
          have hhigh : high.toNat < 256 := high.toNat_lt
          have hlow : low.toNat < 256 := low.toNat_lt
          refine ensures_pure ?_
          omega

theorem ensures_advance (length : Nat) : (advance msg offset length).Ensures (· = offset + length) := by
  unfold advance
  split
  next => exact ensures_pure rfl
  next => exact ensures_mismatch

/-! ## Names -/

theorem getD_le {resume : Option Nat} {after limit : Nat} (hresume : resume.getD 0 ≤ limit)
    (hafter : after ≤ limit) : resume.getD after ≤ limit := by
  cases resume with
  | none => exact hafter
  | some _ => exact hresume

/-- A walk ends below a limit that leaves room for the rest of the name at two places: where the walk
is, and behind the first 2¹⁴ octets, where a pointer may send it. -/
theorem ensures_walk {limit : Nat} (hlimit : limit < wordLimit)
    (hpointed : 0x4000 + maxNameSize + 2 ≤ limit) (offset : Nat) (resume : Option Nat)
    (pointers used : Nat) (hoffset : offset + (maxNameSize - used) + 2 ≤ limit)
    (hresume : resume.getD 0 ≤ limit) (hpointers : pointers ≤ maxPointers)
    (hused : used ≤ maxNameSize) : (walk msg offset resume pointers used).Ensures (· ≤ limit) := by
  have hmax : maxNameSize = 255 ∧ maxPointers = 255 ∧ wordLimit = 0x10000000000000000 :=
    ⟨rfl, rfl, rfl⟩
  fun_induction walk msg offset resume pointers used with
  | case1 => exact ensures_mismatch
  | case2 offset resume pointers used _ _ _ ih =>
      -- a pointer
      refine (ensures_word (by omega)).bind fun pointer _ => ?_
      refine (ensures_add (by omega)).bind fun _ _ => ?_
      split
      next fits =>
          refine (ensures_add (by omega)).bind ?_
          rintro _ rfl
          have htarget : pointer % 0x4000 < 0x4000 := Nat.mod_lt _ (by decide)
          have hnext : resume.getD (offset + 2) ≤ limit := getD_le hresume (by omega)
          exact ih pointer (pointers + 1) fits _ (by omega) hnext fits.1 hused
      next => exact ensures_mismatch
  | case3 offset resume =>
      -- the end of the name
      refine (ensures_add (by omega)).bind ?_
      rintro _ rfl
      exact ensures_pure (getD_le hresume (by omega))
  | case4 offset resume pointers used size _ _ _ _ ih =>
      -- a label
      have hsize : size.toNat < 256 := size.toNat_lt
      refine (ensures_add (by omega)).bind ?_
      rintro _ rfl
      refine (ensures_advance _).bind ?_
      rintro _ rfl
      refine (ensures_add (by omega)).bind fun _ _ => ?_
      split
      next fits => exact ih _ fits (by omega) hresume hpointers fits
      next => exact ensures_mismatch
  | case5 => exact ensures_mismatch

/-- How far a name can lead: the reach of a pointer, and the labels of a name. -/
def nameReach : Nat := 0x4200

theorem ensures_nameEnd (h : start + nameReach < wordLimit) :
    (nameEnd msg start).Ensures (· ≤ start + nameReach) := by
  have hmax : maxNameSize = 255 ∧ nameReach = 0x4200 := ⟨rfl, rfl⟩
  exact ensures_walk h (by omega) start none 0 0 (by omega) (Nat.zero_le _) (by decide) (by decide)

/-! ## Questions and records -/

/-- How far a question or a record leads: two names in its data, the data and the fixed octets. -/
def entryReach : Nat := 0x20000

theorem ensures_questionEnd (h : start + entryReach < wordLimit) :
    (questionEnd msg start).Ensures (· ≤ start + entryReach) := by
  have hreach : nameReach = 0x4200 ∧ entryReach = 0x20000 := ⟨rfl, rfl⟩
  refine (ensures_nameEnd (by omega)).bind fun afterName hafterName => ?_
  exact (ensures_advance 4).mono fun _ hfinish => by omega

theorem checkData_safe {finish : Nat} (h : start + entryReach < wordLimit) (data : RecordData) :
    (checkData msg start finish data).Safe := by
  have hreach : nameReach = 0x4200 ∧ entryReach = 0x20000 := ⟨rfl, rfl⟩
  cases data with
  | address size => exact demand_safe _
  | name => exact (ensures_nameEnd (by omega)).bind_safe fun _ _ => demand_safe _
  | preferredName =>
      refine (ensures_add (by omega)).bind_safe ?_
      rintro _ rfl
      exact (ensures_nameEnd (by omega)).bind_safe fun _ _ => demand_safe _
  | service =>
      refine (ensures_add (by omega)).bind_safe ?_
      rintro _ rfl
      exact (ensures_nameEnd (by omega)).bind_safe fun _ _ => demand_safe _
  | authority =>
      refine (ensures_nameEnd (by omega)).bind_safe fun mailbox hmailbox => ?_
      refine (ensures_nameEnd (by omega)).bind_safe fun fixed hfixed => ?_
      exact (ensures_add (by omega)).bind_safe fun _ _ => demand_safe _
  | uncheckedData => exact pure_safe _

theorem ensures_recordEnd (h : start + 2 * entryReach < wordLimit) :
    (recordEnd msg start).Ensures (· ≤ start + entryReach) := by
  have hreach : nameReach = 0x4200 ∧ entryReach = 0x20000 := ⟨rfl, rfl⟩
  refine (ensures_nameEnd (by omega)).bind fun fixed hfixed => ?_
  refine (ensures_word (by omega)).bind fun recordType _ => ?_
  refine (ensures_add (by omega)).bind ?_
  rintro _ rfl
  refine (ensures_word (by omega)).bind fun length hlength => ?_
  refine (ensures_advance 10).bind ?_
  rintro _ rfl
  refine (ensures_advance length).bind ?_
  rintro _ rfl
  refine (checkData_safe (by omega) _).ensures.bind fun _ _ => ?_
  exact ensures_pure (by omega)

/-! ## Messages -/

/-- A step that leads at most `reach` further leads `count` times as far in `count` steps. -/
theorem ensures_advanceBy {step : Nat → Probe Nat} {reach bound : Nat}
    (hstep : ∀ offset, offset ≤ bound → (step offset).Ensures (· ≤ offset + reach)) (count : Nat)
    (h : offset + count * reach ≤ bound) :
    (advanceBy step count offset).Ensures (· ≤ offset + count * reach) := by
  induction count generalizing offset with
  | zero => exact ensures_pure (by omega)
  | succ count ih =>
      rw [Nat.succ_mul] at h ⊢
      refine (hstep offset (by omega)).bind fun next hnext => ?_
      exact (ih (by omega)).mono fun finish hfinish => by omega

/-- The counts of a message bound the offsets of all its entries. -/
theorem shape_safe (msg : Message) : (shape msg).Safe := by
  have hreach : entryReach = 0x20000 ∧ wordLimit = 0x10000000000000000 ∧ countLimit = 0x100000000 ∧
      headerSize = 12 := ⟨rfl, rfl, rfl, rfl⟩
  refine (ensures_demand _).bind_safe fun _ _ => ?_
  refine (ensures_word (by omega)).bind_safe fun questions hquestions => ?_
  refine (ensures_word (by omega)).bind_safe fun answers hanswers => ?_
  refine (ensures_word (by omega)).bind_safe fun authorities hauthorities => ?_
  refine (ensures_word (by omega)).bind_safe fun additional hadditional => ?_
  refine (ensures_addBelow (by omega)).bind_safe ?_
  rintro _ rfl
  refine (ensures_addBelow (by omega)).bind_safe ?_
  rintro _ rfl
  -- even the largest counts take the offsets nowhere near a machine word
  have hquestionsReach : questions * entryReach ≤ 0x10000 * 0x20000 :=
    Nat.mul_le_mul_right _ (by omega)
  have hrecordsReach : (answers + authorities + additional) * entryReach ≤ 0x30000 * 0x20000 :=
    Nat.mul_le_mul_right _ (by omega)
  have hquestion (offset : Nat) (h : offset ≤ 0x1000000000000) :
      (questionEnd msg offset).Ensures (· ≤ offset + entryReach) := ensures_questionEnd (by omega)
  have hrecord (offset : Nat) (h : offset ≤ 0x1000000000000) :
      (recordEnd msg offset).Ensures (· ≤ offset + entryReach) := ensures_recordEnd (by omega)
  refine (ensures_advanceBy hquestion questions (by omega)).bind_safe fun afterQuestions hafter => ?_
  refine (ensures_advanceBy hrecord _ (by omega)).bind_safe fun _ _ => ?_
  exact pure_safe _

theorem parse_safe (payload : Bytes) : (parse payload).Safe := shape_safe payload.toArray

end FlowScope.Signature.Dns
