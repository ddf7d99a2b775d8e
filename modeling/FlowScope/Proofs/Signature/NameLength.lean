import FlowScope.Proofs.Signature.Extension

/-!
# How long names are

The wire form of a name is its labels, each behind its length, and a zero octet. In a message these octets
need not stand together: pointers lead from one run of labels to the next. `WireForm` collects them along
the links of the name, and its length is what the links say: `WireForm.exists_chain`.

A name may take 255 octets. The walk of a name counts the octets of the labels with their lengths, and goes
on while these are no more than 255; the zero octet is never counted. So the names that are walked are
those of at most 256 octets, behind at most 255 pointers: `walked_names_take_at_most_256_octets`. A query
for a name is read exactly if its name is one of them (`parse_query_iff`), so there is a query for a name
of 256 octets that is read, an octet more than a name may take: `name_of_256_octets_is_read`.
-/

namespace FlowScope.Signature.Dns

open Guarded Probe

variable {msg : Message} {offset start finish pointers : Nat} {links : List Link} {wire : Bytes}

/-! ## Wire forms -/

/-- The name at an offset, followed through so many pointers, has these octets: each label behind its
length, and the zero octet. -/
inductive WireForm (msg : Message) : (offset pointers : Nat) → (wire : Bytes) → Prop
  | root {offset : Nat} (hend : msg[offset]? = some 0) : WireForm msg offset 0 [0]
  | label {offset pointers : Nat} {size : UInt8} {label wire : Bytes} (hsize : msg[offset]? = some size)
      (hlimits : 1 ≤ size.toNat ∧ size.toNat ≤ 63)
      (hlabel : Bytes.field? msg.toList (offset + 1) size.toNat = some label)
      (hrest : WireForm msg (offset + 1 + size.toNat) pointers wire) :
      WireForm msg offset pointers (size :: (label ++ wire))
  | pointer {offset pointers target : Nat} {wire : Bytes} (hword : HasWord msg offset (0xc000 + target))
      (htarget : target < msg.size) (hrest : WireForm msg target pointers wire) :
      WireForm msg offset (pointers + 1) wire

theorem exists_field_iff {length : Nat} :
    (∃ field, Bytes.field? msg.toList start length = some field) ↔
      Spans msg start length (start + length) := by
  simp [Bytes.field?, Spans]

/-- By induction on the wire form, which takes an octet more for each label than the label has. -/
theorem WireForm.exists_chain (h : WireForm msg offset pointers wire) :
    ∃ links, Chain msg offset links ∧ pointerCount links = pointers ∧
      wire.length = labelOctets links + 1 := by
  induction h with
  | root hend => exact ⟨[], .root hend, rfl, rfl⟩
  | label hsize hlimits hlabel _ ih =>
      obtain ⟨links, hchain, hpointers, hlength⟩ := ih
      have hspans := exists_field_iff.mp ⟨_, hlabel⟩
      -- the length octet and the label are what the link counts for
      refine ⟨_, .label hsize hlimits hspans hchain, hpointers, ?_⟩
      rw [List.length_cons, List.length_append, Bytes.length_of_field? hlabel, hlength, labelOctets]
      omega
  | pointer hword htarget _ ih =>
      obtain ⟨links, hchain, rfl, hlength⟩ := ih
      exact ⟨_, .pointer hword htarget hchain, rfl, hlength⟩

theorem Chain.exists_wireForm (h : Chain msg offset links) :
    ∃ wire, WireForm msg offset (pointerCount links) wire := by
  induction h with
  | root hend => exact ⟨_, .root hend⟩
  | label hsize hlimits hspans _ ih =>
      obtain ⟨wire, hwire⟩ := ih
      obtain rfl := hspans.1
      obtain ⟨label, hlabel⟩ := exists_field_iff.mpr hspans
      exact ⟨_, .label hsize hlimits hlabel hwire⟩
  | pointer hword htarget _ ih =>
      obtain ⟨wire, hwire⟩ := ih
      exact ⟨wire, .pointer hword htarget hwire⟩

/-- The links of a name say how long its wire form is. -/
theorem WireForm.length_eq (h : WireForm msg offset pointers wire) (hchain : Chain msg offset links) :
    wire.length = labelOctets links + 1 := by
  obtain ⟨links', hchain', -, hlength⟩ := h.exists_chain
  rw [hlength, hchain'.unique hchain]

/-- Names are those whose wire forms have at most 256 octets. -/
theorem exists_isName_iff :
    (∃ finish, IsName msg start finish) ↔
      ∃ pointers wire, WireForm msg start pointers wire ∧ pointers ≤ 255 ∧ wire.length ≤ 256 := by
  constructor
  · intro h
    obtain ⟨_, links, hchain, hoctets, hpointers, -⟩ := h
    obtain ⟨wire, hwire⟩ := hchain.exists_wireForm
    refine ⟨_, wire, hwire, hpointers, ?_⟩
    rw [hwire.length_eq hchain]
    omega
  · intro h
    obtain ⟨_, wire, hwire, hpointers, hlength⟩ := h
    obtain ⟨links, hchain, rfl, hoctets⟩ := hwire.exists_chain
    exact ⟨_, links, hchain, by omega, hpointers, rfl⟩

/-- The name at an offset has a wire form, and this is not longer than a limit. -/
def NameWithin (msg : Message) (start limit : Nat) : Prop :=
  (∃ pointers wire, WireForm msg start pointers wire) ∧
    ∀ pointers wire, WireForm msg start pointers wire → wire.length ≤ limit

theorem IsName.nameWithin (h : IsName msg start finish) : NameWithin msg start 256 := by
  obtain ⟨links, hchain, hoctets, -, -⟩ := h
  constructor
  · exact ⟨_, hchain.exists_wireForm⟩
  · intro pointers wire hwire
    rw [hwire.length_eq hchain]
    omega

/-! ## The names of a message -/

/-- A record of a message starts at an offset. -/
def RecordAt (msg : Message) (s : Shape) (start : Nat) : Prop :=
  ∃ afterQuestions, Entries (IsQuestion msg) s.questions 12 afterQuestions ∧
    ∃ position < s.records, Entries (IsRecord msg) position afterQuestions start

/-- A name in the data of a record starts at an offset, by the type of the record. -/
def DataNameAt (msg : Message) (data recordType start : Nat) : Prop :=
  match recordType with
  | 2 | 5 | 12 => start = data
  | 15 => start = data + 2
  | 33 => start = data + 6
  | 6 => start = data ∨ IsName msg data start
  | _ => False

/-- A name of a message starts at an offset: that of a question, that of a record, or one in the data of
a record, which stand ten octets behind its name. -/
inductive NameAt (msg : Message) (s : Shape) : Nat → Prop
  | question {position start : Nat} (hposition : position < s.questions)
      (hstart : Entries (IsQuestion msg) position 12 start) : NameAt msg s start
  | record {start : Nat} (hrecord : RecordAt msg s start) : NameAt msg s start
  | data {record fixed recordType start : Nat} (hrecord : RecordAt msg s record)
      (hname : IsName msg record fixed) (htype : HasWord msg fixed recordType)
      (hstart : DataNameAt msg (fixed + 10) recordType start) : NameAt msg s start

/-- As long as there are entries to come, there is one at each offset that is arrived at. -/
theorem Entries.exists_entry {IsEntry : Nat → Nat → Prop} {count position entry : Nat}
    (h : Entries IsEntry count start finish) (hposition : position < count)
    (hentry : Entries IsEntry position start entry)
    (hunique : ∀ start finish finish', IsEntry start finish → IsEntry start finish' →
      finish = finish') : ∃ next, IsEntry entry next := by
  induction position generalizing count start with
  | zero =>
      obtain rfl : entry = start := hentry
      obtain ⟨count, rfl⟩ := Nat.exists_eq_add_of_lt hposition
      rw [Nat.zero_add] at h
      obtain ⟨next, hnext, -⟩ := h
      exact ⟨next, hnext⟩
  | succ position ih =>
      obtain ⟨count, rfl⟩ := Nat.exists_eq_add_of_lt hposition
      obtain ⟨next, hnext, hrest⟩ := h
      obtain ⟨next', hnext', hentry⟩ := hentry
      -- both ways have the same first entry, so they go on from the same offset
      obtain rfl := hunique _ _ _ hnext hnext'
      exact ih hrest (by omega) hentry

variable {s : Shape}

theorem IsMessage.exists_record (h : IsMessage msg s finish) (hrecord : RecordAt msg s start) :
    ∃ next, IsRecord msg start next := by
  obtain ⟨afterQuestions, hquestions, hrecords⟩ := h.entries
  obtain ⟨afterQuestions', hquestions', position, hposition, hstart⟩ := hrecord
  obtain rfl := hquestions.unique hquestions' fun _ _ _ => IsQuestion.unique
  exact hrecords.exists_entry hposition hstart fun _ _ _ => IsRecord.unique

/-- The data of a record hold the names that its type says they hold. -/
theorem HoldsData.exists_isName {data recordType : Nat} (h : HoldsData msg data finish recordType)
    (hstart : DataNameAt msg data recordType start) : ∃ next, IsName msg start next := by
  unfold DataNameAt at hstart
  split at hstart
  case h_6 =>
    -- two names, the second where the first one ends
    obtain ⟨mailbox, numbers, hserver, hmailbox, -⟩ := h
    rcases hstart with rfl | hname
    · exact ⟨mailbox, hserver⟩
    · obtain rfl := hname.unique hserver
      exact ⟨numbers, hmailbox⟩
  case h_7 => exact hstart.elim
  all_goals
    obtain ⟨next, hname, -⟩ := h
    obtain rfl := hstart
    exact ⟨next, hname⟩

theorem IsMessage.exists_isName (h : IsMessage msg s finish) (hname : NameAt msg s start) :
    ∃ next, IsName msg start next := by
  cases hname with
  | question hposition hstart =>
      obtain ⟨afterQuestions, hquestions, -⟩ := h.entries
      obtain ⟨_, afterName, hname, -⟩ :=
        hquestions.exists_entry hposition hstart fun _ _ _ => IsQuestion.unique
      exact ⟨afterName, hname⟩
  | record hrecord =>
      obtain ⟨_, fixed, hname, -⟩ := h.exists_record hrecord
      exact ⟨fixed, hname⟩
  | data hrecord hfixed htype hstart =>
      obtain ⟨_, fixed, hname, recordType, hword, length, -, data, hspans, -, hdata⟩ :=
        h.exists_record hrecord
      -- the record is read in one way, so its type and its data are those of the grammar
      obtain rfl := hname.unique hfixed
      obtain rfl := hword.unique htype
      rw [hspans.1] at hdata
      exact hdata.exists_isName hstart

/-! ## Queries -/

/-- The wire form of a name with these labels. -/
def written : List Bytes → Bytes
  | [] => [0]
  | label :: labels => UInt8.ofNat label.length :: (label ++ written labels)

/-- Labels are not empty, and have at most 63 octets. -/
def AreLabels (labels : List Bytes) : Prop := ∀ label ∈ labels, 1 ≤ label.length ∧ label.length ≤ 63

/-- By induction on the labels, each of which moves to what stands before the name. -/
theorem wireForm_written {labels : List Bytes} (h : AreLabels labels) (before rest : Bytes) :
    WireForm (before ++ (written labels ++ rest)).toArray before.length 0 (written labels) := by
  induction labels generalizing before with
  | nil =>
      apply WireForm.root
      simp [written]
  | cons label labels ih =>
      obtain ⟨hlimits, hlabels⟩ := List.forall_mem_cons.mp h
      have hsize : (UInt8.ofNat label.length).toNat = label.length :=
        UInt8.toNat_ofNat_of_lt' (Nat.lt_of_le_of_lt hlimits.2 (by decide))
      -- the labels before are moved into what precedes, where the induction takes them
      have hmessage : before ++ (written (label :: labels) ++ rest) =
          before ++ UInt8.ofNat label.length :: label ++ (written labels ++ rest) := by simp [written]
      have hlabel := Bytes.field?_append (before ++ [UInt8.ofNat label.length]) label
        (written labels ++ rest)
      have hnext : before.length + 1 + label.length =
          (before ++ UInt8.ofNat label.length :: label).length := by
        rw [List.length_append, List.length_cons]
        omega
      rw [hmessage, written]
      apply WireForm.label
      · simp
      · rwa [hsize]
      · rw [hsize]
        simpa using hlabel
      · rw [hsize, hnext]
        exact ih hlabels _

theorem after_eq_of_pointerCount (h : pointerCount links = 0) :
    after start links = start + labelOctets links + 1 := by
  induction links generalizing start with
  | nil => rfl
  | cons link links ih =>
      cases link with
      | label size =>
          rw [after, ih h, labelOctets]
          omega
      | pointer => cases h

/-- A name that is written without pointers ends behind its wire form, if this is within the limit. -/
theorem WireForm.isName (h : WireForm msg start 0 wire) (hlength : wire.length ≤ 256) :
    IsName msg start (start + wire.length) := by
  obtain ⟨links, hchain, hpointers, hoctets⟩ := h.exists_chain
  refine ⟨links, hchain, by omega, by omega, ?_⟩
  rw [after_eq_of_pointerCount hpointers]
  omega

/-- A query for the addresses of a name. -/
def query (labels : List Bytes) : Bytes :=
  [0x12, 0x34, 1, 0, 0, 1, 0, 0, 0, 0, 0, 0] ++ (written labels ++ [0, 1, 0, 1])

theorem nameAt_query (labels : List Bytes) : NameAt (query labels).toArray ⟨1, 0⟩ 12 :=
  .question Nat.one_pos rfl

theorem length_query (labels : List Bytes) : (query labels).length = 12 + (written labels).length + 4 := by
  simp only [query, List.length_append, List.length_cons, List.length_nil]
  omega

variable {labels : List Bytes}

theorem wireForm_query (h : AreLabels labels) :
    WireForm (query labels).toArray 12 0 (written labels) :=
  wireForm_written h [0x12, 0x34, 1, 0, 0, 1, 0, 0, 0, 0, 0, 0] [0, 1, 0, 1]

theorem nameEnd_query (h : AreLabels labels) (hlength : (written labels).length ≤ 256) :
    nameEnd (query labels).toArray 12 = .ok (12 + (written labels).length) := by
  have hsafe : (nameEnd (query labels).toArray 12).Safe := (ensures_nameEnd (by decide)).safe
  exact (decides_nameEnd _ 12 hsafe _).mpr ((wireForm_query h).isName hlength)

theorem isMessage_query (h : AreLabels labels) (hlength : (written labels).length ≤ 256) :
    IsMessage (query labels).toArray ⟨1, 0⟩ (query labels).length := by
  constructor
  · simp [query]
  · exact ⟨0, 1, by simp [query], by simp [query], rfl⟩
  · refine ⟨0, 0, 0, ⟨0, 0, ?_⟩, ⟨0, 0, ?_⟩, ⟨0, 0, ?_⟩, rfl⟩
    all_goals simp [query]
  · refine ⟨(query labels).length, ⟨_, ⟨_, (wireForm_query h).isName hlength, ?_⟩, rfl⟩, rfl⟩
    exact ⟨length_query labels, Nat.le_refl _⟩

/-- A query is read exactly if its name has at most 256 octets. -/
theorem parse_query_iff (h : AreLabels labels) :
    parse (query labels) = .ok ⟨1, 0⟩ ↔ (written labels).length ≤ 256 := by
  constructor
  · intro hread
    obtain ⟨finish, hmessage⟩ := parse_eq_ok.mp hread
    obtain ⟨next, hname⟩ := hmessage.exists_isName (nameAt_query labels)
    exact hname.nameWithin.2 0 _ (wireForm_query h)
  · intro hlength
    exact parse_eq_ok.mpr ⟨_, isMessage_query h hlength⟩

/-! ## The limit -/

/-- **Names keep within 256 octets.** The wire form of every name that is walked has at most 256 octets, the
zero octet at its end included; so have all the names of a payload that is read as a message. The limit is
that of the walk: a name of at most 256 octets behind at most 255 pointers is walked. -/
theorem walked_names_take_at_most_256_octets (message : Bytes) :
    (∀ start finish, nameEnd message.toArray start = .ok finish → NameWithin message.toArray start 256) ∧
    (∀ s start, parse message = .ok s → NameAt message.toArray s start →
      NameWithin message.toArray start 256) ∧
    ∀ start, start + nameReach < wordLimit →
      ((∃ finish, nameEnd message.toArray start = .ok finish) ↔
        ∃ pointers wire, WireForm message.toArray start pointers wire ∧ pointers ≤ 255 ∧
          wire.length ≤ 256) := by
  refine ⟨?_, ?_, ?_⟩
  · intro start finish h
    exact ((decides_nameEnd _ start).of_eq_ok h).nameWithin
  · intro s start h hname
    obtain ⟨finish, hmessage⟩ := parse_eq_ok.mp h
    obtain ⟨next, hname⟩ := hmessage.exists_isName hname
    exact hname.nameWithin
  · intro start hreach
    rw [← exists_isName_iff]
    exact exists_congr (decides_nameEnd _ start (ensures_nameEnd hreach).safe)

/-- Three labels as long as a label may be, and one that makes the name an octet too long. -/
def longName : List Bytes :=
  [List.replicate 63 97, List.replicate 63 97, List.replicate 63 97, List.replicate 62 97]

theorem areLabels_longName : AreLabels longName := by
  unfold AreLabels longName
  simp only [List.forall_mem_cons, List.length_replicate]
  simp

theorem length_longName : (written longName).length = 256 := by
  simp only [longName, written, List.length_cons, List.length_append, List.length_replicate,
    List.length_nil]

theorem wireForm_longName : WireForm (query longName).toArray 12 0 (written longName) :=
  wireForm_query areLabels_longName

theorem parse_longName : parse (query longName) = .ok ⟨1, 0⟩ :=
  (parse_query_iff areLabels_longName).mpr (Nat.le_of_eq length_longName)

theorem nameEnd_longName : nameEnd (query longName).toArray 12 = .ok 268 := by
  have hend := nameEnd_query areLabels_longName (Nat.le_of_eq length_longName)
  rwa [length_longName] at hend

/-- The three parts of the statement, at the name of a query. -/
theorem walked_names_of_longName :
    (nameEnd (query longName).toArray 12 = .ok 268 ∧ NameWithin (query longName).toArray 12 256) ∧
    (NameAt (query longName).toArray ⟨1, 0⟩ 12 ∧ NameWithin (query longName).toArray 12 256) ∧
    ∃ finish, nameEnd (query longName).toArray 12 = .ok finish := by
  obtain ⟨hwalked, hread, hiff⟩ := walked_names_take_at_most_256_octets (query longName)
  have hname := nameAt_query longName
  refine ⟨⟨nameEnd_longName, ?_⟩, ⟨hname, ?_⟩, ?_⟩
  · exact hwalked 12 268 nameEnd_longName
  · exact hread ⟨1, 0⟩ 12 parse_longName hname
  · apply (hiff 12 (by decide)).mpr
    exact ⟨0, written longName, wireForm_longName, Nat.zero_le _, Nat.le_of_eq length_longName⟩

/-- A name of 256 octets is walked, and a query for it is read. -/
theorem name_of_256_octets_is_read :
    parse (query longName) = .ok ⟨1, 0⟩ ∧ nameEnd (query longName).toArray 12 = .ok 268 ∧
      NameAt (query longName).toArray ⟨1, 0⟩ 12 ∧ ¬ NameWithin (query longName).toArray 12 255 := by
  refine ⟨parse_longName, nameEnd_longName, nameAt_query longName, ?_⟩
  intro hwithin
  have hle := hwithin.2 0 _ wireForm_longName
  rw [length_longName] at hle
  omega

end FlowScope.Signature.Dns
