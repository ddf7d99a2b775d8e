import FlowScope.Proofs.Signature.Grammar

/-!
# DNS messages that are continued or cut short

A message is read up to an offset of its own, `messageEnd`. What stands behind that offset is not asked for
but where a pointer leads to, and what a pointer leads to stays where it is when octets are appended. So
everything that is read of a message is read of a longer one too: each part of the grammar has a lemma
`….mono` for that. And each part is read in one way only (`….unique`), so a message that is cut short before
its end is no message: with the octets that it lost it would end at two offsets.

The main statement is `reading_is_stable`.
-/

namespace FlowScope.Signature.Dns

open Guarded Probe

variable {msg msg' : Message} {offset start start' finish finish' n n' : Nat}

/-! ## Longer messages -/

/-- The second message has all the octets of the first one, at the same offsets. -/
def Extends (msg msg' : Message) : Prop :=
  ∀ (offset : Nat) (b : UInt8), msg[offset]? = some b → msg'[offset]? = some b

theorem extends_append (message more : Bytes) :
    Extends message.toArray (message ++ more).toArray := by
  intro offset b h
  rw [List.getElem?_toArray] at h ⊢
  have hlt := (List.getElem?_eq_some_iff.mp h).1
  rw [List.getElem?_append_left hlt, h]

theorem Extends.size_le (h : Extends msg msg') : msg.size ≤ msg'.size := by
  by_contra hlt
  have hlast : msg'.size < msg.size := by omega
  have hsome := h msg'.size _ (Array.getElem?_eq_getElem hlast)
  simp at hsome

theorem HasWord.mono (hext : Extends msg msg') (h : HasWord msg offset n) :
    HasWord msg' offset n := by
  obtain ⟨high, low, hhigh, hlow, hn⟩ := h
  exact ⟨high, low, hext _ _ hhigh, hext _ _ hlow, hn⟩

theorem Spans.mono {length : Nat} (hext : Extends msg msg') (h : Spans msg start length finish) :
    Spans msg' start length finish :=
  ⟨h.1, Nat.le_trans h.2 hext.size_le⟩

theorem Chain.mono {links : List Link} (hext : Extends msg msg') (h : Chain msg offset links) :
    Chain msg' offset links := by
  induction h with
  | root hend => exact .root (hext _ _ hend)
  | label hsize hlimits hspans _ ih => exact .label (hext _ _ hsize) hlimits (hspans.mono hext) ih
  | pointer hword htarget _ ih =>
      exact .pointer (hword.mono hext) (Nat.lt_of_lt_of_le htarget hext.size_le) ih

theorem IsName.mono (hext : Extends msg msg') (h : IsName msg start finish) :
    IsName msg' start finish := by
  obtain ⟨links, hchain, hoctets, hpointers, hfinish⟩ := h
  exact ⟨links, hchain.mono hext, hoctets, hpointers, hfinish⟩

theorem IsQuestion.mono (hext : Extends msg msg') (h : IsQuestion msg start finish) :
    IsQuestion msg' start finish := by
  obtain ⟨afterName, hname, hspans⟩ := h
  exact ⟨afterName, hname.mono hext, hspans.mono hext⟩

theorem HoldsName.mono (hext : Extends msg msg') (h : HoldsName msg start finish) :
    HoldsName msg' start finish := by
  obtain ⟨afterName, hname, hle⟩ := h
  exact ⟨afterName, hname.mono hext, hle⟩

theorem HoldsData.mono {recordType : Nat} (hext : Extends msg msg')
    (h : HoldsData msg start finish recordType) : HoldsData msg' start finish recordType := by
  unfold HoldsData
  split
  next => exact h
  next => exact h
  next => exact HoldsName.mono hext h
  next => exact HoldsName.mono hext h
  next => exact HoldsName.mono hext h
  next => exact HoldsName.mono hext h
  next => exact HoldsName.mono hext h
  next =>
    obtain ⟨mailbox, numbers, hserver, hmailbox, hle⟩ := h
    exact ⟨mailbox, numbers, hserver.mono hext, hmailbox.mono hext, hle⟩
  next => trivial

theorem IsRecord.mono (hext : Extends msg msg') (h : IsRecord msg start finish) :
    IsRecord msg' start finish := by
  obtain ⟨fixed, hname, recordType, htype, length, hlength, data, hfixed, hspans, hdata⟩ := h
  exact ⟨fixed, hname.mono hext, recordType, htype.mono hext, length, hlength.mono hext, data,
    hfixed.mono hext, hspans.mono hext, hdata.mono hext⟩

theorem Entries.mono {IsEntry IsEntry' : Nat → Nat → Prop} {count : Nat}
    (hmono : ∀ start finish, IsEntry start finish → IsEntry' start finish)
    (h : Entries IsEntry count start finish) : Entries IsEntry' count start finish := by
  induction count generalizing start with
  | zero => exact h
  | succ count ih =>
      obtain ⟨next, hentry, hrest⟩ := h
      exact ⟨next, hmono start next hentry, ih hrest⟩

theorem IsMessage.mono {s : Shape} (hext : Extends msg msg') (h : IsMessage msg s finish) :
    IsMessage msg' s finish := by
  obtain ⟨answers, authorities, additional, hanswers, hauthorities, hadditional, hsum⟩ := h.records
  obtain ⟨afterQuestions, hquestions, hrecords⟩ := h.entries
  constructor
  · exact Nat.le_trans h.header hext.size_le
  · exact h.questions.mono hext
  · exact ⟨answers, authorities, additional, hanswers.mono hext, hauthorities.mono hext,
      hadditional.mono hext, hsum⟩
  · exact ⟨afterQuestions, hquestions.mono fun _ _ => IsQuestion.mono hext,
      hrecords.mono fun _ _ => IsRecord.mono hext⟩

/-! ## One way to read -/

theorem HasWord.unique (h : HasWord msg offset n) (h' : HasWord msg offset n') : n = n' := by
  obtain ⟨high, low, hhigh, hlow, rfl⟩ := h
  obtain ⟨high', low', hhigh', hlow', rfl⟩ := h'
  grind

theorem Chain.unique {links links' : List Link} (h : Chain msg offset links)
    (h' : Chain msg offset links') : links = links' := by
  induction h generalizing links' with
  | root hend => exact (h'.eq_nil_of_root hend).symm
  | label hsize hlimits hspans _ ih =>
      -- the octet at the offset tells which of the three links there is
      obtain ⟨next, rest, rfl, hspans', hrest⟩ := h'.exists_of_label hsize hlimits
      rw [hspans'.1, ← hspans.1] at hrest
      rw [ih hrest]
  | pointer hword _ _ ih =>
      obtain ⟨high, low, hhigh, -⟩ := id hword
      have hbounds := hword.bounds hhigh
      obtain ⟨target, rest, rfl, hword', -, hrest⟩ := h'.exists_of_pointer hhigh (by omega)
      have htarget := hword.unique hword'
      rw [← Nat.add_left_cancel htarget] at hrest
      rw [ih hrest]

theorem IsName.unique (h : IsName msg start finish) (h' : IsName msg start finish') :
    finish = finish' := by
  obtain ⟨links, hchain, -, -, rfl⟩ := h
  obtain ⟨links', hchain', -, -, rfl⟩ := h'
  rw [hchain.unique hchain']

theorem IsQuestion.unique (h : IsQuestion msg start finish) (h' : IsQuestion msg start finish') :
    finish = finish' := by
  obtain ⟨afterName, hname, hspans⟩ := h
  obtain ⟨afterName', hname', hspans'⟩ := h'
  rw [hspans.1, hspans'.1, hname.unique hname']

theorem IsRecord.unique (h : IsRecord msg start finish) (h' : IsRecord msg start finish') :
    finish = finish' := by
  obtain ⟨fixed, hname, _, -, length, hlength, data, hfixed, hspans, -⟩ := h
  obtain ⟨fixed', hname', _, -, length', hlength', data', hfixed', hspans', -⟩ := h'
  obtain rfl := hname.unique hname'
  obtain rfl := hlength.unique hlength'
  rw [hspans.1, hspans'.1, hfixed.1, hfixed'.1]

theorem Entries.unique {IsEntry : Nat → Nat → Prop} {count : Nat}
    (h : Entries IsEntry count start finish) (h' : Entries IsEntry count start finish')
    (hunique : ∀ start finish finish', IsEntry start finish → IsEntry start finish' →
      finish = finish') : finish = finish' := by
  induction count generalizing start with
  | zero => exact h.trans h'.symm
  | succ count ih =>
      obtain ⟨next, hentry, hrest⟩ := h
      obtain ⟨next', hentry', hrest'⟩ := h'
      obtain rfl := hunique _ _ _ hentry hentry'
      exact ih hrest hrest'

theorem IsMessage.unique {s s' : Shape} (h : IsMessage msg s finish) (h' : IsMessage msg s' finish') :
    s = s' ∧ finish = finish' := by
  obtain ⟨answers, authorities, additional, hanswers, hauthorities, hadditional, hsum⟩ := h.records
  obtain ⟨answers', authorities', additional', hanswers', hauthorities', hadditional', hsum'⟩ :=
    h'.records
  -- the counts are in the header, and with equal counts the entries are the same
  have hquestions : s.questions = s'.questions := h.questions.unique h'.questions
  have hrecords : s.records = s'.records := by
    rw [hsum, hsum', hanswers.unique hanswers', hauthorities.unique hauthorities',
      hadditional.unique hadditional']
  obtain ⟨afterQuestions, hbefore, hbehind⟩ := h.entries
  obtain ⟨afterQuestions', hbefore', hbehind'⟩ := h'.entries
  rw [← hquestions] at hbefore'
  obtain rfl := hbefore.unique hbefore' fun _ _ _ => IsQuestion.unique
  rw [← hrecords] at hbehind'
  refine ⟨?_, hbehind.unique hbehind' fun _ _ _ => IsRecord.unique⟩
  cases s
  cases s'
  cases hquestions
  cases hrecords
  rfl

/-! ## Where a message ends -/

/-- The offset behind the last record, where the reading of a message ends. -/
def messageEnd (msg : Message) : Probe Nat := do
  let counts ← shape msg
  let afterQuestions ← advanceBy (questionEnd msg) counts.questions headerSize
  advanceBy (recordEnd msg) counts.records afterQuestions

theorem decides_messageEnd (msg : Message) :
    (messageEnd msg).Decides fun finish => ∃ s, IsMessage msg s finish := by
  refine ((decides_shape msg).bind fun s _ =>
    (decides_advanceBy (decides_questionEnd msg) s.questions 12).bind fun afterQuestions _ =>
      decides_advanceBy (decides_recordEnd msg) s.records afterQuestions).congr fun finish => ?_
  constructor
  · intro h
    obtain ⟨s, ⟨_, hmessage⟩, hentries⟩ := h
    exact ⟨s, { hmessage with entries := hentries }⟩
  · intro h
    obtain ⟨s, hmessage⟩ := h
    exact ⟨s, ⟨finish, hmessage⟩, hmessage.entries⟩

/-- A message that is read has an end. -/
theorem exists_messageEnd {s : Shape} (h : shape msg = .ok s) :
    ∃ finish, messageEnd msg = .ok finish := by
  have hread := h
  simp only [shape, bind_eq_ok_iff] at hread
  obtain ⟨-, -, questions, -, _, -, _, -, _, -, _, -, records, -, afterQuestions, hquestions,
    finish, hrecords, hpure⟩ := hread
  cases hpure
  refine ⟨finish, ?_⟩
  simp only [messageEnd, bind_eq_ok_iff]
  exact ⟨_, h, afterQuestions, hquestions, hrecords⟩

theorem Entries.le_size {IsEntry : Nat → Nat → Prop} {count : Nat}
    (h : Entries IsEntry count start finish) (hstart : start ≤ msg.size)
    (hentry : ∀ start finish, IsEntry start finish → finish ≤ msg.size) : finish ≤ msg.size := by
  induction count generalizing start with
  | zero =>
      obtain rfl : finish = start := h
      exact hstart
  | succ count ih =>
      obtain ⟨next, hnext, hrest⟩ := h
      exact ih hrest (hentry start next hnext)

theorem IsMessage.le_size {s : Shape} (h : IsMessage msg s finish) : finish ≤ msg.size := by
  obtain ⟨afterQuestions, hquestions, hrecords⟩ := h.entries
  apply hrecords.le_size
  · apply hquestions.le_size h.header
    intro start finish hquestion
    obtain ⟨afterName, -, hspans⟩ := hquestion
    exact hspans.2
  · intro start finish hrecord
    obtain ⟨_, -, _, -, _, -, _, -, hspans, -⟩ := hrecord
    exact hspans.2

/-- A message ends within each shorter message that it continues. -/
theorem le_of_isMessage_of_extends {s s' : Shape} (hext : Extends msg msg')
    (h : IsMessage msg s finish) (h' : IsMessage msg' s' finish') : finish' ≤ msg.size := by
  obtain ⟨-, rfl⟩ := (h.mono hext).unique h'
  exact h.le_size

theorem parse_eq_ok {message : Bytes} {s : Shape} :
    parse message = .ok s ↔ ∃ finish, IsMessage message.toArray s finish :=
  decides_shape message.toArray (parse_safe message) s

/-- **What a message is read from.** A payload that is read as a message is read in the same way when octets
are appended to it. The reading has an end, and no part of the payload that stops before this end is a
message. -/
theorem reading_is_stable (message : Bytes) (s : Shape) (h : parse message = .ok s) :
    (∀ more, parse (message ++ more) = .ok s) ∧
    ∃ finish ≤ message.length, messageEnd message.toArray = .ok finish ∧
      ∀ front, front <+: message → front.length < finish → parse front = .error (.refused ()) := by
  obtain ⟨finish, hfinish⟩ := exists_messageEnd h
  obtain ⟨s', hmessage⟩ := (decides_messageEnd message.toArray).of_eq_ok hfinish
  refine ⟨?_, finish, hmessage.le_size, hfinish, ?_⟩
  · intro more
    obtain ⟨finish', hmessage'⟩ := parse_eq_ok.mp h
    exact parse_eq_ok.mpr ⟨finish', hmessage'.mono (extends_append message more)⟩
  · intro front hfront hlt
    obtain ⟨more, rfl⟩ := hfront
    apply (eq_refused_iff (parse_safe front)).mpr
    -- a message in front would be one of the whole as well, and the whole has one end
    intro hread
    obtain ⟨s'', hread⟩ := hread
    obtain ⟨finish'', hshorter⟩ := parse_eq_ok.mp hread
    have hle := le_of_isMessage_of_extends (extends_append front more) hshorter hmessage
    exact absurd hle (Nat.not_le.mpr hlt)

/-- A response of one record, whose name is a pointer to that of the question. Its last octet is the last
one of the message, so no part of it is a message. -/
def response : Bytes :=
  [0x12, 0x34, 0x81, 0x80, 0, 1, 0, 1, 0, 0, 0, 0] ++ (3 :: Bytes.ofAscii "com") ++ [0, 0, 1, 0, 1] ++
    [0xc0, 12, 0, 1, 0, 1, 0, 0, 14, 16, 0, 4, 93, 184, 216, 34]

theorem reading_is_stable_of_response :
    parse response = .ok ⟨1, 1⟩ ∧ (∀ more, parse (response ++ more) = .ok ⟨1, 1⟩) ∧
    ∀ front, front <+: response → front ≠ response → parse front = .error (.refused ()) := by
  have hread : parse response = .ok ⟨1, 1⟩ := by cbv
  have hend : messageEnd response.toArray = .ok response.length := by cbv
  obtain ⟨hmore, finish, -, hfinish, hfront⟩ := reading_is_stable response ⟨1, 1⟩ hread
  rw [hend] at hfinish
  cases hfinish
  refine ⟨hread, hmore, fun front hpart hne => ?_⟩
  have hshorter : front.length < response.length := by
    apply Nat.lt_of_le_of_ne hpart.length_le
    intro hlength
    exact hne (hpart.eq_of_length hlength)
  exact hfront front hpart hshorter

end FlowScope.Signature.Dns
