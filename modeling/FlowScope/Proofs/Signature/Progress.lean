import FlowScope.Proofs.Signature.Extension

/-!
# The reading of a DNS message makes progress

The walk of a name may go forwards and backwards, any number of times over the same octets. It is told here
turn by turn: `turn` is one turn of the walk, and `Turns` are turns in a row, with the links that they
follow. A turn that follows a pointer adds to the pointers counted, and one that follows a label adds to the
octets counted, so the turns that are left become fewer with each (`Counted.rest_lt`) whatever the pointers
say. This bounds the turns of every walk (`Turns.length_le`), and brings each to a last turn
(`exists_last_turn`).

Where a name ends is settled by its first links, before the walk goes backwards: behind its start, and in
the message (`Chain.after_bounds`). So every entry takes octets of the message that no other one takes, and
a message cannot hold more entries than it has octets for, however many its header announces. The main
statement is `reading_makes_progress`.
-/

namespace FlowScope.Signature.Dns

open Guarded Probe

/-! ## Turns of a walk -/

/-- Where a walk is, and what it keeps in mind: the offset behind the first pointer that it followed, the
number of pointers followed, and that of the octets of the labels. -/
structure Cursor where
  offset : Nat
  resume : Option Nat
  pointers : Nat
  used : Nat
  deriving Repr, DecidableEq

namespace Cursor

/-- The beginning of a walk. -/
def start (offset : Nat) : Cursor := ⟨offset, none, 0, 0⟩

/-- What a walk has counted is within the limits. -/
def Within (c : Cursor) : Prop := c.pointers ≤ maxPointers ∧ c.used ≤ maxNameSize

/-- What is left to count until a limit is reached. -/
def rest (c : Cursor) : Nat := (maxPointers - c.pointers) + (maxNameSize - c.used)

/-- The rest of the walk. -/
def walk (msg : Message) (c : Cursor) : Probe Nat := Dns.walk msg c.offset c.resume c.pointers c.used

end Cursor

/-- What a turn of the walk comes to. -/
inductive Turn
  | ends (finish : Nat)
  | follows (link : Link) (next : Cursor)
  deriving Repr, DecidableEq

/-- One turn of the walk: it ends the name, or follows one link. -/
def turn (msg : Message) (c : Cursor) : Probe Turn :=
  match msg[c.offset]? with
  | none => mismatch
  | some size =>
    if size &&& 0xc0 = 0xc0 then do
      let target := (← word msg c.offset) % 0x4000
      let _ ← add c.pointers 1
      demand (c.pointers + 1 ≤ maxPointers ∧ target < msg.size)
      let after ← add c.offset 2
      pure (.follows .pointer ⟨target, some (c.resume.getD after), c.pointers + 1, c.used⟩)
    else if size &&& 0xc0 = 0 then
      if size = 0 then do
        let after ← add c.offset 1
        pure (.ends (c.resume.getD after))
      else do
        let label ← add c.offset 1
        let labelEnd ← advance msg label size.toNat
        let _ ← add c.used (size.toNat + 1)
        demand (c.used + (size.toNat + 1) ≤ maxNameSize)
        pure (.follows (.label size.toNat)
          ⟨labelEnd, c.resume, c.pointers, c.used + (size.toNat + 1)⟩)
    else mismatch

/-- What the walk makes of a turn. -/
def goOn (msg : Message) : Turn → Probe Nat
  | .ends finish => pure finish
  | .follows _ next => next.walk msg

variable {msg : Message} {offset start finish : Nat} {link : Link} {links : List Link}

/-- The walk takes one turn after the other. -/
theorem walk_eq_turn (msg : Message) (c : Cursor) : c.walk msg = turn msg c >>= goOn msg := by
  unfold Cursor.walk turn
  rw [walk]
  cases msg[c.offset]? with
  | none => rfl
  | some size =>
      dsimp only
      split
      next =>
        simp only [bind_assoc, demand_bind]
        refine bind_congr fun n => bind_congr fun _ => ?_
        split
        next =>
          rw [bind_assoc]
          rfl
        next => rfl
      next =>
        split
        next =>
          split
          next =>
            rw [bind_assoc]
            rfl
          next =>
            simp only [bind_assoc, demand_bind]
            refine bind_congr fun label => bind_congr fun labelEnd => bind_congr fun _ => ?_
            split
            next => rfl
            next => rfl
        next => rfl

/-- Turns in a row, each of which follows a link. -/
inductive Turns (msg : Message) : Cursor → List Link → Cursor → Prop
  | nil (c : Cursor) : Turns msg c [] c
  | cons {c next last : Cursor} {link : Link} {links : List Link}
      (hturn : turn msg c = .ok (.follows link next)) (hrest : Turns msg next links last) :
      Turns msg c (link :: links) last

/-! ## What the turns count -/

/-- From one cursor to another, a walk has counted these links, and has kept within the limits. A pointer
counts once, and a label counts for two octets at least. -/
structure Counted (c : Cursor) (links : List Link) (c' : Cursor) : Prop where
  pointers : c'.pointers = c.pointers + pointerCount links
  used : c'.used = c.used + labelOctets links
  length : 2 * links.length ≤ 2 * pointerCount links + labelOctets links
  within : c'.Within

variable {c next last : Cursor}

theorem counted_of_turn (hc : c.Within) (h : turn msg c = .ok (.follows link next)) :
    Counted c [link] next := by
  unfold turn at h
  split at h
  next => cases h
  next size hsize =>
    split at h
    next =>
      simp only [bind_eq_ok_iff] at h
      obtain ⟨n, -, _, -, _, hlimit, after, -, hnext⟩ := h
      cases hnext
      have hwithin := (demand_eq_ok_iff.mp hlimit).1
      exact ⟨rfl, rfl, Nat.le_refl _, hwithin, hc.2⟩
    next =>
      split at h
      next =>
        split at h
        next =>
          -- the end of the name, which follows no link
          simp only [bind_eq_ok_iff] at h
          obtain ⟨after, -, hend⟩ := h
          cases hend
        next hne =>
          simp only [bind_eq_ok_iff] at h
          obtain ⟨label, -, labelEnd, -, _, -, _, hlimit, hnext⟩ := h
          cases hnext
          have hwithin := demand_eq_ok_iff.mp hlimit
          have hpos : size.toNat ≠ 0 := fun hzero => hne (UInt8.toNat_inj.mp hzero)
          refine ⟨rfl, rfl, ?_, hc.1, hwithin⟩
          simp only [List.length_singleton, pointerCount, labelOctets]
          omega
      next => cases h

theorem pointerCount_cons (link : Link) (links : List Link) :
    pointerCount (link :: links) = pointerCount [link] + pointerCount links := by
  cases link with
  | label size => simp [pointerCount]
  | pointer => simp [pointerCount, Nat.add_comm]

theorem labelOctets_cons (link : Link) (links : List Link) :
    labelOctets (link :: links) = labelOctets [link] + labelOctets links := by
  cases link with
  | label size => simp [labelOctets]
  | pointer => simp [labelOctets]

theorem Counted.cons (h : Counted c [link] next) (h' : Counted next links last) :
    Counted c (link :: links) last := by
  obtain ⟨hpointers, hused, hlength, -⟩ := h
  obtain ⟨hpointers', hused', hlength', hwithin⟩ := h'
  rw [List.length_singleton] at hlength
  constructor
  · rw [pointerCount_cons]
    omega
  · rw [labelOctets_cons]
    omega
  · rw [List.length_cons, pointerCount_cons, labelOctets_cons]
    omega
  · exact hwithin

/-- By induction on the turns: the limits that one turn keeps are those that the next one starts from. -/
theorem Turns.counted (h : Turns msg c links last) (hc : c.Within) : Counted c links last := by
  induction h with
  | nil c => exact ⟨rfl, rfl, Nat.le_refl _, hc⟩
  | cons hturn _ ih =>
      have hcounted := counted_of_turn hc hturn
      exact hcounted.cons (ih hcounted.within)

/-- The limits leave room for 255 pointers, and for 127 labels of an octet each. -/
theorem Turns.length_le (h : Turns msg (.start start) links last) :
    pointerCount links ≤ 255 ∧ links.length ≤ 382 := by
  have hmax : maxNameSize = 255 ∧ maxPointers = 255 := ⟨rfl, rfl⟩
  have hstart : (Cursor.start start).Within := ⟨Nat.zero_le _, Nat.zero_le _⟩
  obtain ⟨hpointers, hused, hlength, hwithin⟩ := h.counted hstart
  have hzero : (Cursor.start start).pointers = 0 ∧ (Cursor.start start).used = 0 := ⟨rfl, rfl⟩
  obtain ⟨hwithin, hwithin'⟩ := hwithin
  omega

/-! ## The last turn -/

theorem Counted.rest_lt (h : Counted c [link] next) : next.rest < c.rest := by
  obtain ⟨hpointers, hused, hlength, hwithin, hwithin'⟩ := h
  rw [List.length_singleton] at hlength
  unfold Cursor.rest
  omega

/-- Every walk comes to a turn that settles it: by induction on what is left to count. -/
theorem exists_last_turn (c : Cursor) (hc : c.Within) :
    ∃ links last, Turns msg c links last ∧ turn msg last = Turn.ends <$> c.walk msg := by
  -- each turn leaves less to go, in links that may be followed and octets that may be read
  induction hrest : c.rest using Nat.strongRecOn generalizing c with
  | ind n ih =>
      subst hrest
      rw [walk_eq_turn]
      cases hturn : turn msg c with
      | error halt => exact ⟨[], c, .nil c, hturn⟩
      | ok outcome =>
          cases outcome with
          | ends finish => exact ⟨[], c, .nil c, hturn⟩
          | follows link next =>
              have hcounted := counted_of_turn hc hturn
              obtain ⟨links, last, hturns, hlast⟩ := ih _ hcounted.rest_lt next hcounted.within rfl
              exact ⟨link :: links, last, .cons hturn hturns, hlast⟩

/-! ## Where a name ends -/

theorem lt_size_of_getElem? {b : UInt8} (h : msg[offset]? = some b) : offset < msg.size :=
  (Array.getElem?_eq_some_iff.mp h).1

/-- By induction on the chain, as far as its first pointer. -/
theorem Chain.after_bounds (h : Chain msg offset links) :
    offset < after offset links ∧ after offset links ≤ msg.size := by
  induction h with
  | root hend => exact ⟨Nat.lt_succ_self _, lt_size_of_getElem? hend⟩
  | label _ _ hspans _ ih =>
      obtain rfl := hspans.1
      rw [after]
      omega
  | pointer hword _ _ =>
      obtain ⟨_, low, -, hlow, -⟩ := hword
      have hlt := lt_size_of_getElem? hlow
      rw [after]
      omega

theorem IsName.bounds (h : IsName msg start finish) : start < finish ∧ finish ≤ msg.size := by
  obtain ⟨links, hchain, -, -, rfl⟩ := h
  exact hchain.after_bounds

theorem nameEnd_bounds (h : nameEnd msg start = .ok finish) : start < finish ∧ finish ≤ msg.size :=
  ((decides_nameEnd msg start).of_eq_ok h).bounds

/-- In a message whose offsets fit a word, the walk of a name ends it or refuses it. -/
theorem nameEnd_safe (h : msg.size + nameReach < wordLimit) (start : Nat) : (nameEnd msg start).Safe := by
  by_cases hstart : start < msg.size
  · apply (ensures_nameEnd _).safe
    omega
  · have hnone : msg[start]? = none := Array.getElem?_eq_none (Nat.le_of_not_lt hstart)
    rw [nameEnd, walk]
    simp only [hnone]
    exact mismatch_safe

/-! ## Steps from entry to entry -/

/-- A step that succeeds takes at least so many octets of the message. -/
def Takes (msg : Message) (width : Nat) (step : Nat → Probe Nat) : Prop :=
  ∀ start finish, step start = .ok finish → start + width ≤ finish ∧ finish ≤ msg.size

/-- A question is a name, of one octet at least, and four octets. -/
theorem takes_questionEnd (msg : Message) : Takes msg 5 (questionEnd msg) := by
  intro start finish h
  obtain ⟨afterName, hname, hspans⟩ := (decides_questionEnd msg start).of_eq_ok h
  obtain ⟨rfl, hfinish⟩ := hspans
  have hbounds := hname.bounds
  omega

/-- A record is a name, of one octet at least, ten octets and its data. -/
theorem takes_recordEnd (msg : Message) : Takes msg 11 (recordEnd msg) := by
  intro start finish h
  obtain ⟨fixed, hname, _, -, length, -, data, hfixed, hspans, -⟩ :=
    (decides_recordEnd msg start).of_eq_ok h
  obtain ⟨rfl, hfinish⟩ := hspans
  obtain ⟨rfl, -⟩ := hfixed
  have hbounds := hname.bounds
  omega

variable {width count : Nat} {step : Nat → Probe Nat}

theorem Takes.mono {width' : Nat} (h : Takes msg width step) (hle : width' ≤ width) :
    Takes msg width' step := by
  intro start finish hstep
  have hbounds := h start finish hstep
  omega

theorem Takes.advanceBy (h : Takes msg width step) (hend : advanceBy step count start = .ok finish) :
    start + width * count ≤ finish ∧ finish ≤ max start msg.size := by
  induction count generalizing start with
  | zero =>
      cases hend
      exact ⟨Nat.le_refl _, Nat.le_max_left _ _⟩
  | succ count ih =>
      obtain ⟨next, hnext, hend⟩ := bind_eq_ok_iff.mp hend
      have hstep := h start next hnext
      have hlater := ih hend
      rw [Nat.mul_succ]
      omega

/-- How many steps are begun where `count` steps are asked for: they stop at the first that fails. -/
def begun (step : Nat → Probe Nat) : (count : Nat) → (offset : Nat) → Nat
  | 0, _ => 0
  | count + 1, offset =>
    match step offset with
    | .ok next => begun step count next + 1
    | .error _ => 1

/-- All steps but the last one take octets of the message. -/
theorem Takes.begun_le (h : Takes msg width step) (count start : Nat) :
    width * begun step count start ≤ msg.size - start + width := by
  induction count generalizing start with
  | zero => exact Nat.zero_le _
  | succ count ih =>
      unfold begun
      split
      next finish hstep =>
        have hbounds := h start finish hstep
        have hlater := ih finish
        rw [Nat.mul_succ]
        omega
      next => omega

theorem begun_of_advanceBy (h : advanceBy step count start = .ok finish) :
    begun step count start = count := by
  induction count generalizing start with
  | zero => rfl
  | succ count ih =>
      obtain ⟨next, hnext, hend⟩ := bind_eq_ok_iff.mp h
      rw [begun, hnext]
      simp only [ih hend]

/-- How many entries of a message are begun, where its header announces so many questions and records: the
records are begun if all the questions are there. -/
def entriesBegun (msg : Message) (questions records : Nat) : Nat :=
  begun (questionEnd msg) questions headerSize +
    match advanceBy (questionEnd msg) questions headerSize with
    | .ok afterQuestions => begun (recordEnd msg) records afterQuestions
    | .error _ => 0

theorem entriesBegun_le (msg : Message) (questions records : Nat) :
    5 * entriesBegun msg questions records ≤ msg.size - 12 + 5 := by
  have hheader : headerSize = 12 := rfl
  unfold entriesBegun
  split
  next afterQuestions hquestions =>
    have hbounds := (takes_questionEnd msg).advanceBy hquestions
    have hrecord : Takes msg 5 (recordEnd msg) := (takes_recordEnd msg).mono (by decide)
    have hrecords := hrecord.begun_le records afterQuestions
    rw [begun_of_advanceBy hquestions]
    omega
  next => exact (takes_questionEnd msg).begun_le questions headerSize

/-- A message that is read has room for as many entries as its header announces. -/
theorem length_of_shape {s : Shape} (h : shape msg = .ok s) :
    12 + 5 * s.questions + 11 * s.records ≤ msg.size := by
  have hheader : headerSize = 12 := rfl
  obtain ⟨_, hmessage⟩ := (decides_shape msg).of_eq_ok h
  have hsize := hmessage.header
  obtain ⟨finish, hfinish⟩ := exists_messageEnd h
  obtain ⟨s', hshape, hentries⟩ := bind_eq_ok_iff.mp hfinish
  obtain rfl : s = s' := Except.ok.inj (h.symm.trans hshape)
  obtain ⟨afterQuestions, hquestions, hrecords⟩ := bind_eq_ok_iff.mp hentries
  have hbefore := (takes_questionEnd msg).advanceBy hquestions
  have hbehind := (takes_recordEnd msg).advanceBy hrecords
  omega

/-! ## Every message -/

/-- **Reading ends, and goes on.** The walk of a name, wherever it starts and whatever the pointers of the
message say, follows at most 255 pointers and takes at most 382 turns until a last turn settles it; in a
message whose offsets fit a word, it ends the name or refuses it. Where it ends a name, this is behind the
start and in the message. So a message that is read has five octets for each question and eleven for each
record that it announces, and of any message, as many entries as its header may announce, no more are begun
than one for five octets behind the header, and one that fails. -/
theorem reading_makes_progress (message : Bytes) :
    (∀ start links last, Turns message.toArray (.start start) links last →
      pointerCount links ≤ 255 ∧ links.length ≤ 382) ∧
    (∀ start, ∃ links last, Turns message.toArray (.start start) links last ∧
      turn message.toArray last = Turn.ends <$> nameEnd message.toArray start) ∧
    (message.length + nameReach < wordLimit → ∀ start, (nameEnd message.toArray start).Safe) ∧
    (∀ start finish, nameEnd message.toArray start = .ok finish →
      start < finish ∧ finish ≤ message.length) ∧
    (∀ s, parse message = .ok s → 12 + 5 * s.questions + 11 * s.records ≤ message.length) ∧
    ∀ questions records,
      5 * entriesBegun message.toArray questions records ≤ message.length - 12 + 5 := by
  refine ⟨?_, ?_, ?_, ?_, ?_, ?_⟩
  · intro start links last h
    exact h.length_le
  · intro start
    exact exists_last_turn (.start start) ⟨Nat.zero_le _, Nat.zero_le _⟩
  · intro hfits start
    exact nameEnd_safe hfits start
  · intro start finish h
    exact nameEnd_bounds h
  · intro s h
    exact length_of_shape h
  · intro questions records
    exact entriesBegun_le message.toArray questions records

/-- A query whose name is a pointer to itself. -/
def selfPointing : Bytes :=
  [0x12, 0x34, 1, 0, 0, 1, 0, 0, 0, 0, 0, 0] ++ [0xc0, 12, 0, 1, 0, 1]

theorem turn_selfPointing {pointers : Nat} (h : pointers + 1 ≤ 255) (resume : Option Nat) :
    turn selfPointing.toArray ⟨12, resume, pointers, 0⟩ =
      .ok (.follows .pointer ⟨12, some (resume.getD 14), pointers + 1, 0⟩) := by
  have hsize : selfPointing.toArray[12]? = some 0xc0 := rfl
  have hword : word selfPointing.toArray 12 = .ok 0xc00c := by cbv
  have hcount : (add pointers 1 : Probe Nat) = .ok (pointers + 1) := by
    apply add_eq_ok_iff.mpr
    have hlimit : wordLimit = 0x10000000000000000 := rfl
    omega
  have hlimits : pointers + 1 ≤ maxPointers ∧ 0xc00c % 0x4000 < selfPointing.toArray.size :=
    ⟨h, by decide⟩
  unfold turn
  simp only [hsize]
  refine bind_eq_ok_iff.mpr ⟨_, hword, bind_eq_ok_iff.mpr ⟨_, hcount, ?_⟩⟩
  exact bind_eq_ok_iff.mpr ⟨(), demand_eq_ok_iff.mpr hlimits, rfl⟩

/-- The walk of its name follows as many pointers as a walk may follow. -/
theorem turns_selfPointing {count pointers : Nat} (h : pointers + count ≤ 255) (resume : Option Nat) :
    ∃ last, Turns selfPointing.toArray ⟨12, resume, pointers, 0⟩ (List.replicate count .pointer) last := by
  induction count generalizing pointers resume with
  | zero => exact ⟨_, .nil _⟩
  | succ count ih =>
      have hnext : pointers + 1 + count ≤ 255 := by omega
      have hpointers : pointers + 1 ≤ 255 := Nat.le_of_add_right_le hnext
      obtain ⟨last, hturns⟩ := ih hnext _
      exact ⟨last, .cons (turn_selfPointing hpointers resume) hturns⟩

/-- The limit on pointers is reached, and a message that is read has the room that it needs. -/
theorem progress_of_selfPointing :
    (∃ last, Turns selfPointing.toArray (.start 12) (List.replicate 255 .pointer) last ∧
      pointerCount (List.replicate 255 .pointer) ≤ 255) ∧
    (response.length + nameReach < wordLimit ∧ (nameEnd response.toArray 21).Safe) ∧
    (nameEnd response.toArray 21 = .ok 23 ∧ 21 < 23 ∧ 23 ≤ response.length) ∧
    parse response = .ok ⟨1, 1⟩ ∧ 12 + 5 * 1 + 11 * 1 ≤ response.length := by
  obtain ⟨hturns, -⟩ := reading_makes_progress selfPointing
  obtain ⟨-, -, hsafe, hname, hread, -⟩ := reading_makes_progress response
  have hfits : response.length + nameReach < wordLimit := by decide
  have hend : nameEnd response.toArray 21 = .ok 23 := by cbv
  have hshape : parse response = .ok ⟨1, 1⟩ := by cbv
  refine ⟨?_, ⟨hfits, hsafe hfits 21⟩, ⟨hend, hname 21 23 hend⟩, hshape, hread _ hshape⟩
  obtain ⟨last, hloop⟩ := turns_selfPointing (Nat.le_of_eq (Nat.zero_add 255)) none
  exact ⟨last, hloop, (hturns 12 _ last hloop).1⟩

end FlowScope.Signature.Dns
