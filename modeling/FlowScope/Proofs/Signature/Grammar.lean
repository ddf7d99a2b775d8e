import FlowScope.Proofs.Signature.Dns

/-!
# The grammar of DNS messages

What a DNS message is, said without reading one: a name is a chain of labels and pointers that comes to
a zero octet (`Chain`) and keeps within three limits (`IsName`), questions and records are names with
what follows them, and a message is a header with as many of them as its counts say (`IsMessage`).

The reading of a message follows this grammar step by step, so that each function has one lemma that says
which offsets it gives: those at which its part of the grammar ends. Together with the fact that no
offset outgrows a word, it follows that a payload is read exactly if it is a message: `parse_eq_ok_iff`.
-/

namespace FlowScope.Signature.Dns

open Guarded Probe

variable {msg : Message} {offset start finish : Nat}

/-! ## Octets at an offset -/

/-- The message holds a number in the two octets at an offset. -/
def HasWord (msg : Message) (offset n : Nat) : Prop :=
  ∃ high low, msg[offset]? = some high ∧ msg[offset + 1]? = some low ∧
    n = 256 * high.toNat + low.toNat

/-- From `start` to `finish` there are so many octets of the message. -/
def Spans (msg : Message) (start length finish : Nat) : Prop :=
  finish = start + length ∧ finish ≤ msg.size

theorem decides_word (msg : Message) (offset : Nat) :
    (word msg offset).Decides (HasWord msg offset) := by
  refine (decides_add offset 1).bind_eq ((decides_add offset 2).bind_eq ?_)
  unfold HasWord
  cases msg[offset]? with
  | none => exact decides_mismatch (by simp)
  | some high =>
      cases msg[offset + 1]? with
      | none => exact decides_mismatch (by simp)
      | some low => exact (decides_pure _).congr (by simp)

theorem decides_advance (msg : Message) (start length : Nat) :
    (advance msg start length).Decides (Spans msg start length) := by
  unfold advance Spans
  split
  next h =>
    refine (decides_pure _).congr fun finish => ?_
    constructor
    · rintro rfl
      exact ⟨rfl, h⟩
    · exact And.left
  next h =>
    apply decides_mismatch
    rintro _ ⟨rfl, hle⟩
    exact h hle

/-! ## Names -/

/-- A link of a name: a label of so many octets, or a pointer to where the name goes on. -/
inductive Link
  | label (size : Nat)
  | pointer
  deriving Repr, DecidableEq

/-- The links from an offset on to a zero octet. The top bits of a pointer are set, and the other 14
bits are an offset in the message. -/
inductive Chain (msg : Message) : Nat → List Link → Prop
  | root {offset : Nat} (hend : msg[offset]? = some 0) : Chain msg offset []
  | label {offset next : Nat} {size : UInt8} {links : List Link} (hsize : msg[offset]? = some size)
      (hlimits : 1 ≤ size.toNat ∧ size.toNat ≤ 63) (hspans : Spans msg (offset + 1) size.toNat next)
      (hrest : Chain msg next links) : Chain msg offset (.label size.toNat :: links)
  | pointer {offset target : Nat} {links : List Link} (hword : HasWord msg offset (0xc000 + target))
      (htarget : target < msg.size) (hrest : Chain msg target links) :
      Chain msg offset (.pointer :: links)

/-- The octets that the labels take, each with that of its length. -/
def labelOctets : List Link → Nat
  | [] => 0
  | .label size :: links => size + 1 + labelOctets links
  | .pointer :: links => labelOctets links

/-- The number of pointers that are followed. -/
def pointerCount : List Link → Nat
  | [] => 0
  | .label _ :: links => pointerCount links
  | .pointer :: links => pointerCount links + 1

/-- The offset after a name: behind its first pointer, or behind the zero octet if there is none. -/
def after (start : Nat) : List Link → Nat
  | [] => start + 1
  | .label size :: links => after (start + 1 + size) links
  | .pointer :: _ => start + 2

/-- A name of at most 255 octets and 255 pointers lies between two offsets. -/
def IsName (msg : Message) (start finish : Nat) : Prop :=
  ∃ links, Chain msg start links ∧ labelOctets links ≤ 255 ∧ pointerCount links ≤ 255 ∧
    finish = after start links

/-! ### Walking a name -/

theorem top_bits : ∀ n < 256, (n &&& 192 = 192 ↔ 192 ≤ n) ∧ (n &&& 192 = 0 ↔ n < 64) := by
  decide +kernel

theorem and_eq_pointer_iff {size : UInt8} : size &&& 0xc0 = 0xc0 ↔ 192 ≤ size.toNat := by
  rw [← UInt8.toNat_inj, UInt8.toNat_and]
  exact (top_bits _ size.toNat_lt).1

theorem and_eq_label_iff {size : UInt8} : size &&& 0xc0 = 0 ↔ size.toNat < 64 := by
  rw [← UInt8.toNat_inj, UInt8.toNat_and]
  exact (top_bits _ size.toNat_lt).2

theorem HasWord.bounds {n : Nat} {high : UInt8} (h : HasWord msg offset n)
    (hhigh : msg[offset]? = some high) : 256 * high.toNat ≤ n ∧ n < 256 * high.toNat + 256 := by
  obtain ⟨high', low, hhigh', -, rfl⟩ := h
  obtain rfl : high' = high := Option.some.inj (hhigh'.symm.trans hhigh)
  have hlow := low.toNat_lt
  omega

variable {links : List Link} {resume : Option Nat} {pointers used : Nat} {size : UInt8}

/-- The octet that a chain begins with says how it goes on. -/
theorem Chain.exists_octet (h : Chain msg offset links) :
    ∃ size, msg[offset]? = some size ∧
      ((size = 0 ∧ links = []) ∨
        ((1 ≤ size.toNat ∧ size.toNat ≤ 63) ∧ ∃ next rest, links = .label size.toNat :: rest ∧
          Spans msg (offset + 1) size.toNat next ∧ Chain msg next rest) ∨
        (192 ≤ size.toNat ∧ ∃ target rest, links = .pointer :: rest ∧
          HasWord msg offset (0xc000 + target) ∧ target < msg.size ∧ Chain msg target rest)) := by
  cases h with
  | root hend => exact ⟨0, hend, .inl ⟨rfl, rfl⟩⟩
  | label hsize hlimits hspans hrest =>
      exact ⟨_, hsize, .inr (.inl ⟨hlimits, _, _, rfl, hspans, hrest⟩)⟩
  | pointer hword htarget hrest =>
      obtain ⟨high, low, hhigh, -⟩ := id hword
      have hbounds := hword.bounds hhigh
      exact ⟨high, hhigh, .inr (.inr ⟨by omega, _, _, rfl, hword, htarget, hrest⟩)⟩

theorem Chain.eq_nil_of_root (h : Chain msg offset links) (hend : msg[offset]? = some 0) :
    links = [] := by
  obtain ⟨size, hsize, hcases⟩ := h.exists_octet
  obtain rfl : size = 0 := Option.some.inj (hsize.symm.trans hend)
  rcases hcases with ⟨-, hlinks⟩ | ⟨hlimits, -⟩ | ⟨hpointer, -⟩
  · exact hlinks
  · exact absurd hlimits.1 (by decide)
  · exact absurd hpointer (by decide)

theorem Chain.exists_of_label (h : Chain msg offset links) (hsize : msg[offset]? = some size)
    (hlimits : 1 ≤ size.toNat ∧ size.toNat ≤ 63) :
    ∃ next rest, links = .label size.toNat :: rest ∧ Spans msg (offset + 1) size.toNat next ∧
      Chain msg next rest := by
  obtain ⟨size', hsize', hcases⟩ := h.exists_octet
  obtain rfl : size' = size := Option.some.inj (hsize'.symm.trans hsize)
  rcases hcases with ⟨rfl, -⟩ | ⟨-, hlabel⟩ | ⟨hpointer, -⟩
  · exact absurd hlimits.1 (by decide)
  · exact hlabel
  · omega

theorem Chain.exists_of_pointer (h : Chain msg offset links) (hsize : msg[offset]? = some size)
    (hpointer : 192 ≤ size.toNat) :
    ∃ target rest, links = .pointer :: rest ∧ HasWord msg offset (0xc000 + target) ∧
      target < msg.size ∧ Chain msg target rest := by
  obtain ⟨size', hsize', hcases⟩ := h.exists_octet
  obtain rfl : size' = size := Option.some.inj (hsize'.symm.trans hsize)
  rcases hcases with ⟨rfl, -⟩ | ⟨hlimits, -⟩ | ⟨-, htarget⟩
  · exact absurd hpointer (by decide)
  · omega
  · exact htarget

/-- A walk that has followed some pointers and used some octets ends at `finish`. -/
def Arrives (msg : Message) (offset : Nat) (resume : Option Nat) (pointers used finish : Nat) : Prop :=
  ∃ links, Chain msg offset links ∧ used + labelOctets links ≤ maxNameSize ∧
    pointers + pointerCount links ≤ maxPointers ∧ finish = resume.getD (after offset links)

theorem not_arrives (h : ∀ size, msg[offset]? = some size → 64 ≤ size.toNat ∧ size.toNat < 192) :
    ¬ Arrives msg offset resume pointers used finish := by
  rintro ⟨links, hchain, -⟩
  obtain ⟨size, hsize, hcases⟩ := hchain.exists_octet
  have hreserved := h size hsize
  rcases hcases with ⟨rfl, -⟩ | ⟨hlimits, -⟩ | ⟨hpointer, -⟩
  · exact absurd hreserved.1 (by decide)
  · omega
  · omega

theorem arrives_root_iff (h : msg[offset]? = some 0) (hpointers : pointers ≤ maxPointers)
    (hused : used ≤ maxNameSize) :
    Arrives msg offset resume pointers used finish ↔ finish = resume.getD (offset + 1) := by
  constructor
  · rintro ⟨links, hchain, -, -, rfl⟩
    rw [hchain.eq_nil_of_root h]
    rfl
  · rintro rfl
    exact ⟨[], .root h, hused, hpointers, rfl⟩

theorem arrives_label_iff (h : msg[offset]? = some size)
    (hlimits : 1 ≤ size.toNat ∧ size.toNat ≤ 63) :
    Arrives msg offset resume pointers used finish ↔
      ∃ next, Spans msg (offset + 1) size.toNat next ∧
        Arrives msg next resume pointers (used + (size.toNat + 1)) finish := by
  constructor
  · rintro ⟨links, hchain, hoctets, hcount, rfl⟩
    obtain ⟨next, rest, rfl, hspans, hrest⟩ := hchain.exists_of_label h hlimits
    rw [labelOctets] at hoctets
    refine ⟨next, hspans, rest, hrest, by omega, hcount, ?_⟩
    rw [hspans.1]
    rfl
  · rintro ⟨next, hspans, links, hrest, hoctets, hcount, rfl⟩
    refine ⟨_, .label h hlimits hspans hrest, ?_, hcount, ?_⟩
    · rw [labelOctets]
      omega
    · rw [hspans.1]
      rfl

theorem arrives_pointer_iff (h : msg[offset]? = some size) (hpointer : 192 ≤ size.toNat) :
    Arrives msg offset resume pointers used finish ↔
      ∃ n, HasWord msg offset n ∧ n % 0x4000 < msg.size ∧
        Arrives msg (n % 0x4000) (some (resume.getD (offset + 2))) (pointers + 1) used finish := by
  have hsize := size.toNat_lt
  constructor
  · rintro ⟨links, hchain, hoctets, hcount, rfl⟩
    obtain ⟨target, rest, rfl, hword, htarget, hrest⟩ := hchain.exists_of_pointer h hpointer
    have hbounds := hword.bounds h
    -- the two highest bits mark the pointer, and the others are its target
    have htop : (0xc000 + target) % 0x4000 = target := by omega
    rw [pointerCount] at hcount
    refine ⟨_, hword, ?_⟩
    rw [htop]
    exact ⟨htarget, rest, hrest, hoctets, by omega, rfl⟩
  · rintro ⟨n, hword, htarget, links, hrest, hoctets, hcount, rfl⟩
    have hbounds := hword.bounds h
    have htop : 0xc000 + n % 0x4000 = n := by omega
    rw [← htop] at hword
    refine ⟨_, .pointer hword htarget hrest, hoctets, ?_, rfl⟩
    rw [pointerCount]
    omega

/-- By the recursion of the walk, a step of which takes one link off the chain. -/
theorem decides_walk (msg : Message) (offset : Nat) (resume : Option Nat) (pointers used : Nat)
    (hpointers : pointers ≤ maxPointers) (hused : used ≤ maxNameSize) :
    (walk msg offset resume pointers used).Decides (Arrives msg offset resume pointers used) := by
  fun_induction walk msg offset resume pointers used with
  | case1 offset resume pointers used hnone =>
      refine decides_mismatch fun _ => not_arrives fun size hsize => ?_
      rw [hnone] at hsize
      cases hsize
  | case2 offset resume pointers used size hsize htop ih =>
      have hpointer := and_eq_pointer_iff.mp htop
      refine ((decides_word msg offset).bind fun n hword => ?_).congr
        fun finish => (arrives_pointer_iff hsize hpointer).symm
      refine (decides_add _ _).bind_eq ?_
      split
      next fits =>
          refine (decides_add _ _).bind_eq ?_
          exact (ih n (pointers + 1) fits _ fits.1 hused).congr fun finish =>
            (and_iff_right fits.2).symm
      next hnot =>
          -- beyond a limit the walk gives up, and the grammar has no name that goes on
          apply decides_mismatch
          rintro finish ⟨htarget, links, -, -, hcount, -⟩
          exact hnot ⟨by omega, htarget⟩
  | case3 offset resume pointers used hend =>
      refine (decides_add _ _).bind_eq ((decides_pure _).congr fun finish => ?_)
      exact (arrives_root_iff hend hpointers hused).symm
  | case4 offset resume pointers used size hsize _ hlow hne ih =>
      have hlimits : 1 ≤ size.toNat ∧ size.toNat ≤ 63 := by
        have hsmall := and_eq_label_iff.mp hlow
        have hpos : size.toNat ≠ 0 := fun hzero => hne (UInt8.toNat_inj.mp hzero)
        omega
      refine (decides_add _ _).bind_eq ?_
      refine ((decides_advance msg (offset + 1) size.toNat).bind fun next hspans => ?_).congr
        fun finish => (arrives_label_iff hsize hlimits).symm
      refine (decides_add _ _).bind_eq ?_
      split
      next fits => exact ih next fits hpointers fits
      next hnot =>
          apply decides_mismatch
          rintro finish ⟨links, -, hoctets, -⟩
          omega
  | case5 offset resume pointers used size hsize hhigh hlow =>
      refine decides_mismatch fun _ => not_arrives fun size' hsize' => ?_
      obtain rfl : size' = size := Option.some.inj (hsize'.symm.trans hsize)
      rw [and_eq_pointer_iff] at hhigh
      rw [and_eq_label_iff] at hlow
      omega

theorem decides_nameEnd (msg : Message) (start : Nat) :
    (nameEnd msg start).Decides (IsName msg start) := by
  refine (decides_walk msg start none 0 0 (by decide) (by decide)).congr fun finish => ?_
  unfold Arrives
  simp only [Nat.zero_add]
  rfl

/-! ## Questions and records -/

/-- A question: a name, then two octets for its type and two for its class. -/
def IsQuestion (msg : Message) (start finish : Nat) : Prop :=
  ∃ afterName, IsName msg start afterName ∧ Spans msg afterName 4 finish

theorem decides_questionEnd (msg : Message) (start : Nat) :
    (questionEnd msg start).Decides (IsQuestion msg start) :=
  (decides_nameEnd msg start).bind fun afterName _ => decides_advance msg afterName 4

/-- A name starts at an offset and ends before another one. -/
def HoldsName (msg : Message) (start finish : Nat) : Prop :=
  ∃ afterName, IsName msg start afterName ∧ afterName ≤ finish

/-- What the data of a record hold between two offsets, by the type of the record. -/
def HoldsData (msg : Message) (start finish recordType : Nat) : Prop :=
  match recordType with
  -- addresses: A, AAAA
  | 1 => finish = start + 4
  | 28 => finish = start + 16
  -- names: NS, CNAME, PTR, MX behind its preference, SRV behind three numbers
  | 2 | 5 | 12 => HoldsName msg start finish
  | 15 => HoldsName msg (start + 2) finish
  | 33 => HoldsName msg (start + 6) finish
  -- two names before five numbers: SOA
  | 6 => ∃ mailbox numbers, IsName msg start mailbox ∧ IsName msg mailbox numbers ∧
      numbers + 20 ≤ finish
  | _ => True

theorem decides_holdsName (msg : Message) (start finish : Nat) :
    (do let afterName ← nameEnd msg start; demand (afterName ≤ finish)).Decides
      fun _ => HoldsName msg start finish :=
  (decides_nameEnd msg start).bind fun afterName _ => decides_demand (afterName ≤ finish)

theorem decides_checkData (msg : Message) (start finish recordType : Nat) :
    (checkData msg start finish (.ofType recordType)).Decides
      fun _ => HoldsData msg start finish recordType := by
  unfold RecordData.ofType
  split
  next =>
      refine (decides_demand _).congr fun _ => ?_
      simp only [HoldsData]
      omega
  next =>
      refine (decides_demand _).congr fun _ => ?_
      simp only [HoldsData]
      omega
  next => exact decides_holdsName msg start finish
  next => exact decides_holdsName msg start finish
  next => exact decides_holdsName msg start finish
  next => exact (decides_add start 2).bind_eq (decides_holdsName msg _ finish)
  next => exact (decides_add start 6).bind_eq (decides_holdsName msg _ finish)
  next =>
      refine ((decides_nameEnd msg start).bind fun mailbox _ => (decides_nameEnd msg mailbox).bind
        fun numbers _ => (decides_add numbers 20).bind_eq (decides_demand _)).congr fun _ => ?_
      simp only [HoldsData, exists_and_left]
  next =>
      refine (decides_pure ()).congr fun _ => ?_
      simp [HoldsData]

/-- A record: a name, ten octets with its type and the length of its data, and the data. -/
def IsRecord (msg : Message) (start finish : Nat) : Prop :=
  ∃ fixed, IsName msg start fixed ∧ ∃ recordType, HasWord msg fixed recordType ∧
    ∃ length, HasWord msg (fixed + 8) length ∧ ∃ data, Spans msg fixed 10 data ∧
      Spans msg data length finish ∧ HoldsData msg data finish recordType

theorem decides_recordEnd (msg : Message) (start : Nat) :
    (recordEnd msg start).Decides (IsRecord msg start) := by
  -- what is checked of the data and where the record ends are said apart from each other
  have hchecked (recordType data finish : Nat) :
      (do checkData msg data finish (.ofType recordType); pure finish).Decides
        fun e => HoldsData msg data finish recordType ∧ e = finish :=
    ((decides_checkData msg data finish recordType).bind fun _ _ => decides_pure finish).congr
      fun _ => by simp
  refine (decides_nameEnd msg start).bind fun fixed _ => ?_
  refine (decides_word msg fixed).bind fun recordType _ => (decides_add fixed 8).bind_eq ?_
  refine (decides_word msg (fixed + 8)).bind fun length _ => ?_
  refine (decides_advance msg fixed 10).bind fun data _ => ?_
  refine ((decides_advance msg data length).bind fun finish _ =>
    hchecked recordType data finish).congr fun e => ?_
  constructor
  · rintro ⟨finish, hspans, hdata, rfl⟩
    exact ⟨hspans, hdata⟩
  · rintro ⟨hspans, hdata⟩
    exact ⟨e, hspans, hdata, rfl⟩

/-! ## Messages -/

/-- So many entries one after the other. -/
def Entries (IsEntry : Nat → Nat → Prop) : (count start finish : Nat) → Prop
  | 0, start, finish => finish = start
  | count + 1, start, finish => ∃ next, IsEntry start next ∧ Entries IsEntry count next finish

theorem decides_advanceBy {step : Nat → Probe Nat} {IsEntry : Nat → Nat → Prop}
    (hstep : ∀ offset, (step offset).Decides (IsEntry offset)) (count start : Nat) :
    (advanceBy step count start).Decides (Entries IsEntry count start) := by
  induction count generalizing start with
  | zero => exact decides_pure start
  | succ count ih => exact (hstep start).bind fun next _ => ih next

/-- A message with the counts of a shape: a header of twelve octets with four counts, then as many
questions as the first says, and as many records as the other three say together. The message may go
on behind `finish`. -/
structure IsMessage (msg : Message) (s : Shape) (finish : Nat) : Prop where
  header : 12 ≤ msg.size
  questions : HasWord msg 4 s.questions
  records : ∃ answers authorities additional, HasWord msg 6 answers ∧ HasWord msg 8 authorities ∧
    HasWord msg 10 additional ∧ s.records = answers + authorities + additional
  entries : ∃ afterQuestions, Entries (IsQuestion msg) s.questions 12 afterQuestions ∧
    Entries (IsRecord msg) s.records afterQuestions finish

theorem decides_entries (msg : Message) (questions records : Nat) :
    (do
      let afterQuestions ← advanceBy (questionEnd msg) questions 12
      let _ ← advanceBy (recordEnd msg) records afterQuestions
      pure (Shape.mk questions records)).Decides
      fun s => (∃ finish afterQuestions, Entries (IsQuestion msg) questions 12 afterQuestions ∧
        Entries (IsRecord msg) records afterQuestions finish) ∧ s = Shape.mk questions records := by
  refine ((decides_advanceBy (decides_questionEnd msg) questions 12).bind fun afterQuestions _ =>
    (decides_advanceBy (decides_recordEnd msg) records afterQuestions).bind fun finish _ =>
      decides_pure _).congr fun s => ?_
  constructor
  · rintro ⟨afterQuestions, hquestions, finish, hrecords, rfl⟩
    exact ⟨⟨finish, afterQuestions, hquestions, hrecords⟩, rfl⟩
  · rintro ⟨⟨finish, afterQuestions, hquestions, hrecords⟩, rfl⟩
    exact ⟨afterQuestions, hquestions, finish, hrecords, rfl⟩

theorem decides_shape (msg : Message) :
    (shape msg).Decides fun s => ∃ finish, IsMessage msg s finish := by
  refine ((decides_demand _).bind fun _ _ => (decides_word msg 4).bind fun questions _ =>
    (decides_word msg 6).bind fun answers _ => (decides_word msg 8).bind fun authorities _ =>
      (decides_word msg 10).bind fun additional _ => (decides_addBelow _ _ _).bind_eq
        ((decides_addBelow _ _ _).bind_eq (decides_entries msg questions _))).congr fun s => ?_
  constructor
  · rintro ⟨_, hheader, questions, hquestions, answers, hanswers, authorities, hauthorities,
      additional, hadditional, ⟨finish, hentries⟩, rfl⟩
    exact ⟨finish, hheader, hquestions,
      ⟨answers, authorities, additional, hanswers, hauthorities, hadditional, rfl⟩, hentries⟩
  · obtain ⟨questions, records⟩ := s
    rintro ⟨finish, hheader, hquestions,
      ⟨answers, authorities, additional, hanswers, hauthorities, hadditional, hsum⟩, hentries⟩
    obtain rfl : records = answers + authorities + additional := hsum
    exact ⟨(), hheader, questions, hquestions, answers, hanswers, authorities, hauthorities,
      additional, hadditional, ⟨finish, hentries⟩, rfl⟩

/-- **The messages that are read.** A payload is read with some counts exactly if it is a message with
these counts, and it is refused if it is not a message. -/
theorem parse_eq_ok_iff (payload : Bytes) :
    (∀ s, parse payload = .ok s ↔ ∃ finish, IsMessage payload.toArray s finish) ∧
    (parse payload = .error (.refused ()) ↔ ¬ ∃ s finish, IsMessage payload.toArray s finish) := by
  have hiff := decides_shape payload.toArray (parse_safe payload)
  refine ⟨hiff, ?_⟩
  rw [← exists_congr hiff]
  exact eq_refused_iff (parse_safe payload)

/-- A query for the addresses of the root, and an octet too many. -/
example : parse [0, 7, 1, 0, 0, 1, 0, 0, 0, 0, 0, 0, 0, 0, 1, 0, 1, 99] = .ok ⟨1, 0⟩ := by cbv

end FlowScope.Signature.Dns
