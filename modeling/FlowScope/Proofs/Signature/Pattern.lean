import FlowScope.Proofs.Pieces
import FlowScope.Proofs.Signature.Scan
import Mathlib.Data.List.Basic

/-!
# What the pattern of a request matches

The head of an HTTP request is read from the front, by steps that say what is left. Here is what a head is,
said without reading one: a request line (`RequestLine`), header fields, and a blank line (`RequestHead`).

Each step has one lemma that says what it has read, so that the request line is read exactly where there is
one (`afterRequestLine?_eq_some_iff`). The rest of the head is looked for in lines, which are the same as the
octets as long as each of them is ended (`endedLines_eq_append_iff`).

The main statement is `requests_are_detected`.
-/

namespace FlowScope.Signature

open Guarded Probe

variable {bytes rest payload : Bytes}

/-! ## Reading from the front -/

theorem after?_eq_some_iff {literal : String} :
    after? literal bytes = some rest ↔ bytes = Bytes.ofAscii literal ++ rest := by
  unfold after?
  rw [Option.ite_none_right_eq_some, List.isPrefixOf_iff_prefix, Option.some_inj]
  constructor
  · intro h
    obtain ⟨⟨tail, rfl⟩, hdrop⟩ := h
    rw [← hdrop, List.drop_left]
  · intro h
    subst h
    exact ⟨List.prefix_append _ _, List.drop_left⟩

theorem afterOne?_eq_some_iff {p : UInt8 → Bool} :
    afterOne? p bytes = some rest ↔ ∃ b, p b = true ∧ bytes = b :: rest := by
  cases bytes with
  | nil => simp [afterOne?]
  | cons b tail => grind [afterOne?]

/-- A run takes all the octets of its class. -/
theorem afterSome?_eq_some_iff {p : UInt8 → Bool} :
    afterSome? p bytes = some rest ↔ ∃ run, run ≠ [] ∧ (∀ b ∈ run, p b = true) ∧
      (∀ b, rest.head? = some b → p b = false) ∧ bytes = run ++ rest := by
  cases bytes with
  | nil => simp [afterSome?]
  | cons b tail =>
      rw [afterSome?, Option.ite_none_right_eq_some, Option.some_inj]
      constructor
      · intro h
        obtain ⟨hb, rfl⟩ := h
        refine ⟨b :: tail.takeWhile p, by simp, ?_, ?_, ?_⟩
        · intro c hc
          rcases List.mem_cons.mp hc with rfl | hc
          · exact hb
          · exact List.mem_takeWhile_imp hc
        · intro c hc
          have hhead := List.head?_dropWhile_not p tail
          rw [hc] at hhead
          exact hhead
        · rw [List.cons_append, List.takeWhile_append_dropWhile]
      · intro h
        obtain ⟨run, hne, hrun, hstop, heq⟩ := h
        cases run with
        | nil => exact absurd rfl hne
        | cons c run =>
            rw [List.cons_append] at heq
            cases heq
            obtain ⟨hc, hrun⟩ := List.forall_mem_cons.mp hrun
            refine ⟨hc, ?_⟩
            -- what is dropped is the run and no more, since it stops there
            rw [List.dropWhile_append_of_pos hrun]
            cases rest with
            | nil => rfl
            | cons d rest => simp [hstop d rfl]

/-! ## Request lines -/

/-- The octets that no target of a request holds: tab, line feed, vertical tab, form feed, carriage
return and space. -/
def blanks : Bytes := [9, 10, 11, 12, 13, 32]

/-- The versions of HTTP that are recognised. -/
def versions : List String := ["1", "1.0", "1.1", "2", "2.0", "2.1"]

/-- The end of a line. -/
def crlf : Bytes := [13, 10]

/-- The first line of a request. -/
structure RequestLine where
  verb : String
  target : Bytes
  version : String
  isVerb : verb ∈ verbs
  nonempty : target ≠ []
  unbroken : ∀ b ∈ target, b ∉ blanks
  isVersion : version ∈ versions

/-- The line without its end. -/
def RequestLine.text (line : RequestLine) : Bytes :=
  Bytes.ofAscii (line.verb ++ " ") ++ (line.target ++ (Bytes.ofAscii " HTTP/" ++
    Bytes.ofAscii line.version))

theorem isSpace_iff {b : UInt8} : isSpace b = true ↔ b ∈ blanks := by
  simp only [isSpace, blanks, ← UInt8.toNat_inj, UInt8.reduceToNat, UInt8.le_iff_toNat_le,
    Bool.or_eq_true, Bool.and_eq_true, decide_eq_true_eq, List.mem_cons, List.not_mem_nil, or_false]
  omega

theorem not_isSpace_iff {b : UInt8} : (!isSpace b) = true ↔ b ∉ blanks := by
  rw [← isSpace_iff]
  simp

/-- No verb with the space after it begins with another one. -/
theorem verbs_prefix_free : ∀ verb ∈ verbs, ∀ verb' ∈ verbs,
    Bytes.ofAscii (verb ++ " ") <+: Bytes.ofAscii (verb' ++ " ") → verb = verb' := by
  decide

theorem eq_of_verbs {verb verb' : String} (hverb : verb ∈ verbs) (hverb' : verb' ∈ verbs)
    {tail tail' : Bytes}
    (h : Bytes.ofAscii (verb ++ " ") ++ tail = Bytes.ofAscii (verb' ++ " ") ++ tail') :
    verb = verb' := by
  rcases List.append_eq_append_iff.mp h with ⟨more, hmore, -⟩ | ⟨more, hmore, -⟩
  · exact verbs_prefix_free verb hverb verb' hverb' ⟨more, hmore.symm⟩
  · exact (verbs_prefix_free verb' hverb' verb hverb ⟨more, hmore.symm⟩).symm

theorem afterVerb?_eq_some_iff :
    afterVerb? bytes = some rest ↔ ∃ verb ∈ verbs, bytes = Bytes.ofAscii (verb ++ " ") ++ rest := by
  have hsound : ∀ {tail}, afterVerb? bytes = some tail →
      ∃ verb ∈ verbs, bytes = Bytes.ofAscii (verb ++ " ") ++ tail := by
    intro tail h
    obtain ⟨verb, hverb, hafter⟩ := List.exists_of_findSome?_eq_some h
    exact ⟨verb, hverb, after?_eq_some_iff.mp hafter⟩
  constructor
  · exact hsound
  · intro h
    obtain ⟨verb, hverb, hbytes⟩ := h
    cases hfound : afterVerb? bytes with
    | none =>
        have hnone := List.findSome?_eq_none_iff.mp hfound verb hverb
        rw [after?_eq_some_iff.mpr hbytes] at hnone
        cases hnone
    | some tail =>
        -- the search may find another verb, but no verb begins with another one and a space
        obtain ⟨verb', hverb', hbytes'⟩ := hsound hfound
        rw [hbytes] at hbytes'
        obtain rfl := eq_of_verbs hverb hverb' hbytes'
        rw [List.append_cancel_left hbytes']

theorem ofAscii_crlf : Bytes.ofAscii "\r\n" = crlf := by decide

theorem afterVersion?_eq_some_iff :
    afterVersion? bytes = some (crlf ++ rest) ↔
      ∃ version ∈ versions, bytes = Bytes.ofAscii version ++ (crlf ++ rest) := by
  constructor
  · intro h
    obtain ⟨afterMajor, hmajor, hminor⟩ := Option.map_eq_some_iff.mp h
    obtain ⟨major, hdigit, rfl⟩ := afterOne?_eq_some_iff.mp hmajor
    have hdigit : major = 49 ∨ major = 50 := by simpa using hdigit
    cases hfound : (after? "." afterMajor).bind (afterOne? fun b => b = 48 || b = 49) with
    | none =>
        -- no point and digit follow, so the version is the one digit
        rw [hfound, Option.getD_none] at hminor
        rw [hminor]
        rcases hdigit with rfl | rfl
        · exact ⟨"1", by decide, rfl⟩
        · exact ⟨"2", by decide, rfl⟩
    | some tail =>
        rw [hfound, Option.getD_some] at hminor
        obtain ⟨afterPoint, hpoint, hlast⟩ := Option.bind_eq_some_iff.mp hfound
        obtain ⟨minor, hdigit', rfl⟩ := afterOne?_eq_some_iff.mp hlast
        have hdigit' : minor = 48 ∨ minor = 49 := by simpa using hdigit'
        rw [after?_eq_some_iff.mp hpoint, hminor]
        rcases hdigit with rfl | rfl
        · rcases hdigit' with rfl | rfl
          · exact ⟨"1.0", by decide, rfl⟩
          · exact ⟨"1.1", by decide, rfl⟩
        · rcases hdigit' with rfl | rfl
          · exact ⟨"2.0", by decide, rfl⟩
          · exact ⟨"2.1", by decide, rfl⟩
  · intro h
    obtain ⟨version, hversion, rfl⟩ := h
    simp only [versions, List.mem_cons, List.not_mem_nil, or_false] at hversion
    rcases hversion with rfl | rfl | rfl | rfl | rfl | rfl <;> rfl

theorem afterRequestLine?_eq_some_iff :
    afterRequestLine? bytes = some rest ↔ ∃ line : RequestLine, bytes = line.text ++ crlf ++ rest := by
  simp only [afterRequestLine?, Option.bind_eq_bind, Option.bind_eq_some_iff, afterVerb?_eq_some_iff,
    afterSome?_eq_some_iff, after?_eq_some_iff, ofAscii_crlf]
  constructor
  · intro h
    obtain ⟨_, ⟨verb, hverb, rfl⟩, _, ⟨target, hnonempty, hunbroken, -, rfl⟩, _, rfl, _, hversion, rfl⟩ := h
    obtain ⟨version, hmember, rfl⟩ := afterVersion?_eq_some_iff.mp hversion
    have hunbroken : ∀ b ∈ target, b ∉ blanks := fun b hb => not_isSpace_iff.mp (hunbroken b hb)
    refine ⟨⟨verb, target, version, hverb, hnonempty, hunbroken, hmember⟩, ?_⟩
    simp only [RequestLine.text, List.append_assoc]
  · intro h
    obtain ⟨⟨verb, target, version, hverb, hnonempty, hunbroken, hmember⟩, rfl⟩ := h
    simp only [RequestLine.text, List.append_assoc]
    refine ⟨_, ⟨verb, hverb, rfl⟩, _, ⟨target, hnonempty, ?_, ?_, rfl⟩, _, rfl, _, ?_, rfl⟩
    · intro b hb
      exact not_isSpace_iff.mpr (hunbroken b hb)
    · -- the space in front of the version ends the target
      intro b hb
      obtain rfl : 32 = b := by simpa [Bytes.ofAscii] using hb
      rfl
    · exact afterVersion?_eq_some_iff.mpr ⟨version, hmember, rfl⟩

theorem lineFeed_notMem_text (line : RequestLine) : lineFeed ∉ line.text := by
  have hverbs : ∀ verb ∈ verbs, lineFeed ∉ Bytes.ofAscii (verb ++ " ") := by decide
  have hversions : ∀ version ∈ versions, lineFeed ∉ Bytes.ofAscii version := by decide
  have hname : lineFeed ∉ Bytes.ofAscii " HTTP/" := by decide
  have htarget : lineFeed ∉ line.target := fun h => line.unbroken _ h (by decide)
  simp only [RequestLine.text, List.mem_append, not_or]
  exact ⟨hverbs _ line.isVerb, htarget, hname, hversions _ line.isVersion⟩

/-! ## Lines -/

/-- The lines, each with a line feed at its end. -/
def unlines (lines : List Bytes) : Bytes := lines.flatMap (· ++ [lineFeed])

theorem free_iff {line : Bytes} : (∀ b ∈ line, decide (b = 10) = false) ↔ lineFeed ∉ line := by
  constructor
  · intro h hmem
    exact absurd (h _ hmem) (by decide)
  · intro h b hb
    apply decide_eq_false
    rintro rfl
    exact h hb

theorem endedLines_of_free (hfree : lineFeed ∉ bytes) : endedLines bytes = [] := by
  rw [endedLines, pieces_of_free (free_iff.mpr hfree)]
  rfl

theorem endedLines_append_cons {line : Bytes} (hfree : lineFeed ∉ line) (rest : Bytes) :
    endedLines (line ++ lineFeed :: rest) = line :: endedLines rest := by
  rw [endedLines, pieces_append_cons (free_iff.mpr hfree) (by decide),
    List.dropLast_cons_of_ne_nil (pieces_ne_nil _ _), endedLines]

theorem endedLines_blank_append (rest : Bytes) :
    endedLines (crlf ++ rest) = [carriageReturn] :: endedLines rest :=
  endedLines_append_cons (show lineFeed ∉ [carriageReturn] by decide) rest

theorem endedLines_unlines_append {lines : List Bytes} (hfree : ∀ line ∈ lines, lineFeed ∉ line)
    (rest : Bytes) : endedLines (unlines lines ++ rest) = lines ++ endedLines rest := by
  induction lines with
  | nil => rfl
  | cons line lines ih =>
      obtain ⟨hline, hlines⟩ := List.forall_mem_cons.mp hfree
      rw [unlines, List.flatMap_cons, List.append_assoc, List.append_assoc, List.singleton_append,
        endedLines_append_cons hline, List.cons_append, ← ih hlines, unlines]

/-- The lines leave nothing of a byte string but a last line that is not ended. -/
theorem exists_eq_unlines_append (bytes : Bytes) :
    (∀ line ∈ endedLines bytes, lineFeed ∉ line) ∧
      ∃ last, lineFeed ∉ last ∧ bytes = unlines (endedLines bytes) ++ last := by
  obtain ⟨piece, later, hpieces⟩ := List.exists_cons_of_ne_nil (pieces_ne_nil (· = 10) bytes)
  -- the induction is on the pieces, of which the last one is what no line feed ends
  induction later generalizing bytes piece with
  | nil =>
      obtain ⟨hfree, ⟨-, rfl⟩ | ⟨m, rest, -, -, hrest⟩⟩ := exists_of_pieces_eq_cons hpieces
      · rw [free_iff] at hfree
        rw [endedLines_of_free hfree]
        exact ⟨by simp, bytes, hfree, rfl⟩
      · exact absurd hrest (pieces_ne_nil _ _)
  | cons next later ih =>
      obtain ⟨hfree, ⟨hnone, -⟩ | ⟨m, rest, hm, rfl, hrest⟩⟩ := exists_of_pieces_eq_cons hpieces
      · cases hnone
      · obtain rfl : m = lineFeed := of_decide_eq_true hm
        rw [free_iff] at hfree
        obtain ⟨hlines, last, hlast, heq⟩ := ih rest next hrest
        rw [endedLines_append_cons hfree]
        refine ⟨List.forall_mem_cons.mpr ⟨hfree, hlines⟩, last, hlast, ?_⟩
        rw [unlines, List.flatMap_cons, ← unlines, List.append_assoc, ← heq, List.append_assoc,
          List.singleton_append]

theorem endedLines_eq_append_iff {before later : List Bytes} :
    endedLines bytes = before ++ later ↔
      (∀ line ∈ before, lineFeed ∉ line) ∧
        ∃ rest, bytes = unlines before ++ rest ∧ endedLines rest = later := by
  constructor
  · intro h
    obtain ⟨hfree, last, hlast, heq⟩ := exists_eq_unlines_append bytes
    rw [h] at hfree heq
    obtain ⟨hbefore, hlater⟩ := List.forall_mem_append.mp hfree
    refine ⟨hbefore, unlines later ++ last, ?_, ?_⟩
    · rw [heq, unlines, List.flatMap_append, List.append_assoc, ← unlines, ← unlines]
    · rw [endedLines_unlines_append hlater, endedLines_of_free hlast, List.append_nil]
  · intro h
    obtain ⟨hfree, rest, rfl, hrest⟩ := h
    rw [endedLines_unlines_append hfree, hrest]

/-! ## Heads of requests -/

/-- One of the lines is a carriage return alone, and all before it end in one. -/
theorem endsHead_eq_true_iff {lines : List Bytes} :
    endsHead lines = true ↔ ∃ before later, lines = before ++ [carriageReturn] :: later ∧
      ∀ line ∈ before, line.getLast? = some carriageReturn := by
  induction lines with
  | nil => simp [endsHead]
  | cons line lines ih =>
      rw [endsHead, Bool.or_eq_true, Bool.and_eq_true, ih, beq_iff_eq, beq_iff_eq]
      constructor
      · intro h
        -- the first line is the blank one, or it is a field and the blank one comes later
        rcases h with rfl | ⟨hline, before, later, rfl, hbefore⟩
        · exact ⟨[], lines, rfl, by simp⟩
        · exact ⟨line :: before, later, rfl, List.forall_mem_cons.mpr ⟨hline, hbefore⟩⟩
      · intro h
        obtain ⟨before, later, heq, hbefore⟩ := h
        cases before with
        | nil =>
            cases heq
            exact .inl rfl
        | cons first before =>
            cases heq
            obtain ⟨hline, hbefore⟩ := List.forall_mem_cons.mp hbefore
            exact .inr ⟨hline, before, later, rfl, hbefore⟩

/-- A request line, header fields, each of them in one line, and a blank line. -/
structure RequestHead where
  line : RequestLine
  fields : List Bytes
  single : ∀ field ∈ fields, lineFeed ∉ field

def RequestHead.octets (head : RequestHead) : Bytes :=
  head.line.text ++ crlf ++ (head.fields.flatMap (· ++ crlf) ++ crlf)

/-- A request head stands at the front. -/
def BeginsRequest (payload : Bytes) : Prop := ∃ head : RequestHead, head.octets <+: payload

/-- Lines that end in a carriage return are header fields with one behind each. -/
theorem ended_iff {before : List Bytes} :
    (∀ line ∈ before, line.getLast? = some carriageReturn) ↔
      ∃ fields : List Bytes, before = fields.map (· ++ [carriageReturn]) := by
  constructor
  · intro h
    refine ⟨before.map List.dropLast, ?_⟩
    calc before = before.map id := (List.map_id before).symm
      _ = before.map fun line => line.dropLast ++ [carriageReturn] :=
          List.map_congr_left fun line hline => (List.dropLast_append_getLast? _ (h line hline)).symm
      _ = (before.map List.dropLast).map (· ++ [carriageReturn]) := by rw [List.map_map]; rfl
  · intro h
    obtain ⟨fields, rfl⟩ := h
    simp

theorem unlines_fields (fields : List Bytes) :
    unlines (fields.map (· ++ [carriageReturn])) = fields.flatMap (· ++ crlf) := by
  simp [unlines, crlf, carriageReturn, lineFeed, List.flatMap_map]

theorem notMem_field_iff {field : Bytes} :
    lineFeed ∉ field ++ [carriageReturn] ↔ lineFeed ∉ field := by
  have hne : lineFeed ≠ carriageReturn := by decide
  simp [hne]

/-- Where lines end a head, there are header fields and a blank line. -/
theorem endsHead_endedLines_iff :
    endsHead (endedLines bytes) = true ↔ ∃ fields : List Bytes,
      (∀ field ∈ fields, lineFeed ∉ field) ∧ (fields.flatMap (· ++ crlf) ++ crlf) <+: bytes := by
  rw [endsHead_eq_true_iff]
  constructor
  · intro h
    obtain ⟨before, later, hlines, hended⟩ := h
    obtain ⟨fields, rfl⟩ := ended_iff.mp hended
    -- the fields are the lines in front of the blank one, without their ends
    obtain ⟨hfree, rest, rfl, hrest⟩ := endedLines_eq_append_iff.mp hlines
    have hblank : endedLines rest = [[carriageReturn]] ++ later := hrest
    obtain ⟨-, body, rfl, -⟩ := endedLines_eq_append_iff.mp hblank
    refine ⟨fields, ?_, body, ?_⟩
    · intro field hfield
      exact notMem_field_iff.mp (hfree _ (List.mem_map_of_mem hfield))
    · rw [unlines_fields, List.append_assoc]
      rfl
  · intro h
    obtain ⟨fields, hfree, body, rfl⟩ := h
    have hfree : ∀ line ∈ fields.map (· ++ [carriageReturn]), lineFeed ∉ line := by
      intro line hline
      obtain ⟨field, hfield, rfl⟩ := List.mem_map.mp hline
      exact notMem_field_iff.mpr (hfree field hfield)
    refine ⟨fields.map (· ++ [carriageReturn]), endedLines body, ?_, ended_iff.mpr ⟨fields, rfl⟩⟩
    rw [List.append_assoc, ← unlines_fields, endedLines_unlines_append hfree]
    exact congrArg _ (endedLines_blank_append body)

theorem isRequestHead_eq_true_iff :
    isRequestHead payload = true ↔ ∃ (line : RequestLine) (rest : Bytes),
      payload = line.text ++ crlf ++ rest ∧ endsHead (endedLines rest) = true := by
  constructor
  · intro h
    unfold isRequestHead at h
    split at h
    next rest hline =>
        obtain ⟨line, hpayload⟩ := afterRequestLine?_eq_some_iff.mp hline
        exact ⟨line, rest, hpayload, h⟩
    next => cases h
  · intro h
    obtain ⟨line, rest, hpayload, hends⟩ := h
    rw [isRequestHead, afterRequestLine?_eq_some_iff.mpr ⟨line, hpayload⟩]
    exact hends

theorem isRequestHead_iff : isRequestHead payload = true ↔ BeginsRequest payload := by
  rw [isRequestHead_eq_true_iff]
  constructor
  · intro h
    obtain ⟨line, rest, rfl, hends⟩ := h
    obtain ⟨fields, hfree, hprefix⟩ := endsHead_endedLines_iff.mp hends
    exact ⟨⟨line, fields, hfree⟩, (List.prefix_append_right_inj _).mpr hprefix⟩
  · intro h
    obtain ⟨⟨line, fields, hfree⟩, body, rfl⟩ := h
    refine ⟨line, fields.flatMap (· ++ crlf) ++ crlf ++ body, ?_, ?_⟩
    · simp only [RequestHead.octets, List.append_assoc]
    · exact endsHead_endedLines_iff.mpr ⟨fields, hfree, List.prefix_append _ _⟩

/-! ## What a head does not depend on -/

/-- A request, line by line. -/
theorem beginsRequest_iff_lines :
    BeginsRequest payload ↔ ∃ (line : RequestLine) (later : List Bytes),
      endedLines payload = (line.text ++ [carriageReturn]) :: later ∧ endsHead later = true := by
  rw [← isRequestHead_iff, isRequestHead_eq_true_iff]
  constructor
  · intro h
    obtain ⟨line, rest, rfl, hends⟩ := h
    refine ⟨line, endedLines rest, ?_, hends⟩
    have hfree := notMem_field_iff.mpr (lineFeed_notMem_text line)
    rw [← endedLines_append_cons hfree, List.append_assoc, List.append_assoc]
    rfl
  · intro h
    obtain ⟨line, later, hlines, hends⟩ := h
    have hfirst : endedLines payload = [line.text ++ [carriageReturn]] ++ later := hlines
    obtain ⟨-, rest, rfl, rfl⟩ := endedLines_eq_append_iff.mp hfirst
    refine ⟨line, rest, ?_, hends⟩
    simp [unlines, crlf, carriageReturn, lineFeed]

theorem endsHead_append_cons (lines later later' : List Bytes) :
    endsHead (lines ++ [carriageReturn] :: later) = endsHead (lines ++ [carriageReturn] :: later') := by
  induction lines with
  | nil => simp [endsHead]
  | cons line lines ih => simp only [List.cons_append, endsHead, ih]

/-- A line that does not end in a carriage return is not got over without a blank line. -/
theorem endsHead_eq_false {lines later : List Bytes} {line : Bytes}
    (hblank : [carriageReturn] ∉ lines) (hbare : line.getLast? ≠ some carriageReturn) :
    endsHead (lines ++ line :: later) = false := by
  induction lines with
  | nil =>
      have hne : line ≠ [carriageReturn] := by
        rintro rfl
        exact hbare rfl
      simp [endsHead, hne, hbare]
  | cons first lines ih =>
      obtain ⟨hfirst, hlines⟩ := not_or.mp (mt List.mem_cons.mpr hblank)
      simp [endsHead, Ne.symm hfirst, ih hlines]

/-- What is ended by a line feed is cut apart from what follows. -/
theorem endedLines_append_of_last {front : Bytes} (h : front.getLast? = some lineFeed) (rest : Bytes) :
    endedLines (front ++ rest) = endedLines front ++ endedLines rest := by
  obtain ⟨hfree, last, hlast, heq⟩ := exists_eq_unlines_append front
  have hnil : last = [] := by
    by_contra hne
    rw [heq, List.getLast?_append_of_ne_nil _ hne] at h
    exact hlast (List.mem_of_getLast? h)
  rw [hnil, List.append_nil] at heq
  conv_lhs => rw [heq]
  exact endedLines_unlines_append hfree rest

theorem exists_endedLines_append_cons (front rest : Bytes) : ∃ last : Bytes,
    (last = [] ∨ last.getLast? = front.getLast?) ∧
      endedLines (front ++ lineFeed :: rest) = endedLines front ++ last :: endedLines rest := by
  obtain ⟨hfree, last, hlast, heq⟩ := exists_eq_unlines_append front
  refine ⟨last, ?_, ?_⟩
  · by_cases hne : last = []
    · exact .inl hne
    · rw [heq, List.getLast?_append_of_ne_nil _ hne]
      exact .inr rfl
  · conv_lhs => rw [heq, List.append_assoc]
    rw [endedLines_unlines_append hfree, endedLines_append_cons hlast]

theorem BeginsRequest.congr_body {front body : Bytes} (hfront : front.getLast? = some lineFeed)
    (h : BeginsRequest (front ++ (crlf ++ body))) (body' : Bytes) :
    BeginsRequest (front ++ (crlf ++ body')) := by
  -- what comes behind the blank line begins with a line of its own
  have hlines (body : Bytes) : endedLines (front ++ (crlf ++ body)) =
      endedLines front ++ [carriageReturn] :: endedLines body := by
    rw [endedLines_append_of_last hfront]
    exact congrArg _ (endedLines_blank_append body)
  rw [beginsRequest_iff_lines] at h ⊢
  obtain ⟨line, later, heq, hends⟩ := h
  rw [hlines] at heq ⊢
  cases hall : endedLines front with
  | nil =>
      obtain ⟨-, last, hlast, heq⟩ := exists_eq_unlines_append front
      rw [hall] at heq
      obtain rfl : front = last := heq
      -- the front ends in a line feed, so it has a line
      exact absurd (List.mem_of_getLast? hfront) hlast
  | cons first lines =>
      rw [hall] at heq
      obtain ⟨rfl, rfl⟩ := List.cons.inj heq
      refine ⟨line, lines ++ [carriageReturn] :: endedLines body', rfl, ?_⟩
      rw [← hends]
      exact endsHead_append_cons lines _ _

theorem not_beginsRequest_of_bare {front : Bytes} (hbare : front.getLast? ≠ some carriageReturn)
    (hblank : [carriageReturn] ∉ endedLines front) (rest : Bytes) :
    ¬ BeginsRequest (front ++ lineFeed :: rest) := by
  rw [beginsRequest_iff_lines]
  intro h
  obtain ⟨line, later, heq, hends⟩ := h
  obtain ⟨last, hlast, hlines⟩ := exists_endedLines_append_cons front rest
  -- the line that the bare line feed ends has no carriage return at its end
  have hbare : last.getLast? ≠ some carriageReturn := by
    rcases hlast with rfl | hlast
    · simp
    · rwa [hlast]
  rw [hlines] at heq
  cases hall : endedLines front with
  | nil =>
      rw [hall] at heq
      obtain ⟨rfl, -⟩ := List.cons.inj heq
      simp at hbare
  | cons first lines =>
      rw [hall] at heq hblank
      have hlater : lines ++ last :: endedLines rest = later := (List.cons.inj heq).2
      have hblank : [carriageReturn] ∉ lines := fun h => hblank (List.mem_cons_of_mem _ h)
      rw [← hlater, endsHead_eq_false hblank hbare] at hends
      cases hends

/-! ## Flows -/

theorem httpTest_eq_ok_iff {packets : List Packet} :
    httpTest packets = .ok () ↔
      ∃ payload, (payloads .tcp packets).head? = some payload ∧ isRequestHead payload = true :=
  onFirstPayload_demand_eq_ok_iff

/-- **Which flows are taken for HTTP.** Those whose first payload over TCP begins with the head of a request.
It does so if and only if it begins with a request line and, of the lines ended after that, one is a carriage
return alone and every line before it ends in one. What follows the blank line does not matter, and nothing
makes up for a line before it that is ended by a line feed alone. -/
theorem requests_are_detected (packets : List Packet) :
    (http.detects packets = true ↔
      ∃ payload, (payloads .tcp packets).head? = some payload ∧ BeginsRequest payload) ∧
    (∀ payload, BeginsRequest payload ↔
      ∃ (line : RequestLine) (rest : Bytes), payload = line.text ++ crlf ++ rest ∧
        ∃ before later, endedLines rest = before ++ [carriageReturn] :: later ∧
          ∀ field ∈ before, field.getLast? = some carriageReturn) ∧
    (∀ front body body', front.getLast? = some lineFeed →
      BeginsRequest (front ++ (crlf ++ body)) → BeginsRequest (front ++ (crlf ++ body'))) ∧
    ∀ front rest, front.getLast? ≠ some carriageReturn → [carriageReturn] ∉ endedLines front →
      ¬ BeginsRequest (front ++ lineFeed :: rest) := by
  refine ⟨?_, ?_, ?_, ?_⟩
  · rw [detects_iff]
    apply httpTest_eq_ok_iff.trans
    simp only [isRequestHead_iff]
  · intro payload
    rw [← isRequestHead_iff, isRequestHead_eq_true_iff]
    simp only [endsHead_eq_true_iff]
  · intro front body body' hfront h
    exact h.congr_body hfront body'
  · intro front rest hbare hblank
    exact not_beginsRequest_of_bare hbare hblank rest

/-- A request for the root matches whatever is behind its blank line; with a line feed alone behind the
header field it never does. So it is with the flows that begin with it, behind a packet without a payload. -/
theorem requests_are_detected_of_root :
    let front := Bytes.ofAscii "GET / HTTP/1.1\r\nHost: x\r\n"
    let bare := Bytes.ofAscii "GET / HTTP/1.1\r\nHost: x"
    let flow (payload : Bytes) : List Packet :=
      [.tcp ⟨.v4 1, 5000⟩ ⟨.v4 2, 80⟩ ⟨ControlBits.syn⟩ [], .tcp ⟨.v4 1, 5000⟩ ⟨.v4 2, 80⟩ .data payload]
    (front.getLast? = some lineFeed ∧ BeginsRequest (front ++ (crlf ++ []))) ∧
    (∀ body, BeginsRequest (front ++ (crlf ++ body)) ∧
      http.detects (flow (front ++ (crlf ++ body))) = true) ∧
    (bare.getLast? ≠ some carriageReturn ∧ [carriageReturn] ∉ endedLines bare) ∧
    ∀ rest, ¬ BeginsRequest (bare ++ lineFeed :: rest) ∧
      http.detects (flow (bare ++ lineFeed :: rest)) = false := by
  intro front bare flow
  obtain ⟨-, -, hbody, hbare⟩ := requests_are_detected []
  let line : RequestLine :=
    ⟨"GET", Bytes.ofAscii "/", "1.1", by decide, by decide, by simp [Bytes.ofAscii, blanks], by decide⟩
  have hfront : front.getLast? = some lineFeed := by decide
  have hempty : BeginsRequest (front ++ (crlf ++ [])) :=
    ⟨⟨line, [Bytes.ofAscii "Host: x"], by decide⟩, [], by decide⟩
  have hlast : bare.getLast? ≠ some carriageReturn := by decide
  have hblank : [carriageReturn] ∉ endedLines bare := by decide
  -- the first payload of the flow is the one that is not empty
  have hflow (payload : Bytes) (hne : payload ≠ []) :
      http.detects (flow payload) = true ↔ BeginsRequest payload := by
    have hhead : (payloads .tcp (flow payload)).head? = some payload := by
      obtain ⟨b, rest, rfl⟩ := List.exists_cons_of_ne_nil hne
      rfl
    rw [(requests_are_detected (flow payload)).1, hhead]
    simp
  refine ⟨⟨hfront, hempty⟩, fun body => ?_, ⟨hlast, hblank⟩, fun rest => ?_⟩
  · have hbegins := hbody front [] body hfront hempty
    exact ⟨hbegins, (hflow _ (by simp [front, Bytes.ofAscii])).mpr hbegins⟩
  · have hnone := hbare bare rest hlast hblank
    refine ⟨hnone, Bool.eq_false_iff.mpr fun hdetects => hnone ?_⟩
    exact (hflow _ (by simp)).mp hdetects

end FlowScope.Signature
