import FlowScope.Net.Address
import FlowScope.Proofs.Bytes
import FlowScope.Proofs.Text.Marks

/-!
# The texts of endpoints

An endpoint can be read off its text. An IPv4 address is cut at its points. An IPv6 address is cut at its
colons, which gives its groups, or those on both sides of a run of zeros that is left out (`Written`); since
there are eight groups in all, the others are zeros, wherever the run is and however it was chosen
(`Written.inj`). An IPv6 address that carries an IPv4 address is told by its points.

The mark between address and port also stands inside IPv6 addresses, which is why these are in brackets. The
main statement is `Endpoint.text_injective`.
-/

namespace FlowScope

open Text

variable {c : Char}

namespace Address

/-! ## IPv4 -/

/-- The texts of the octets of an IPv4 address. -/
def octetTexts (value : BitVec 32) : List String :=
  (Bytes.ofNat 4 value.toNat).map fun octet => toString octet.toNat

theorem v4Text_eq (value : BitVec 32) : v4Text value = ".".intercalate (octetTexts value) := rfl

theorem octetTexts_injective : Function.Injective octetTexts := by
  intro x y h
  have hoctet : Function.Injective fun octet : UInt8 => toString octet.toNat := by
    intro a b hab
    exact UInt8.toNat_inj.mp (toString_injective hab)
  have hoctets : Bytes.ofNat 4 x.toNat = Bytes.ofNat 4 y.toNat := List.map_injective_iff.mpr hoctet h
  have hvalue := congrArg Bytes.toNat hoctets
  rw [Bytes.toNat_ofNat, Bytes.toNat_ofNat] at hvalue
  have hx : x.toNat < 256 ^ 4 := x.isLt
  have hy : y.toNat < 256 ^ 4 := y.isLt
  rw [Nat.mod_eq_of_lt hx, Nat.mod_eq_of_lt hy] at hvalue
  exact BitVec.eq_of_toNat_eq hvalue

theorem length_octetTexts (value : BitVec 32) : (octetTexts value).length = 4 := by
  simp [octetTexts]

theorem octetTexts_ne_nil (value : BitVec 32) : octetTexts value ≠ [] := by
  apply List.ne_nil_of_length_pos
  rw [length_octetTexts]
  exact Nat.zero_lt_succ 3

theorem lacks_of_mem_octetTexts (hc : c ∈ marks) {value : BitVec 32} :
    ∀ text ∈ octetTexts value, Lacks c text := by
  intro text htext
  obtain ⟨octet, -, rfl⟩ := List.mem_map.mp htext
  exact lacks_toDigits hc (by decide) octet.toNat

theorem lacks_v4Text (hc : c ∈ marks) (hne : c ≠ '.') (value : BitVec 32) : Lacks c (v4Text value) := by
  apply lacks_intercalate
  · simpa [Lacks] using hne
  · exact lacks_of_mem_octetTexts hc

theorem not_lacks_v4Text (value : BitVec 32) : ¬ Lacks '.' (v4Text value) := by
  rw [v4Text_eq, Lacks, not_not]
  simp [octetTexts, Bytes.ofNat]

theorem v4Text_injective : Function.Injective v4Text := by
  intro x y h
  have hpoint : '.' ∈ marks := by decide
  apply octetTexts_injective
  exact intercalate_inj (by simp) (lacks_of_mem_octetTexts hpoint) (lacks_of_mem_octetTexts hpoint)
    (octetTexts_ne_nil x) (octetTexts_ne_nil y) h

/-! ## Groups -/

theorem length_groups (count n : Nat) : (groups count n).length = count := by
  induction count generalizing n with
  | zero => rfl
  | succ count ih => rw [groups, List.length_append, ih, List.length_singleton]

theorem groups_inj {count n m : Nat} (h : groups count n = groups count m) :
    n % 65536 ^ count = m % 65536 ^ count := by
  induction count generalizing n m with
  | zero => rw [Nat.pow_zero, Nat.mod_one, Nat.mod_one]
  | succ count ih =>
      obtain ⟨hfront, hlast⟩ := List.append_inj' h rfl
      rw [Nat.pow_succ', Nat.mod_mul, Nat.mod_mul, ih hfront, List.singleton_inj.mp hlast]

variable {gs gs' : List Nat} {texts : List String}

/-- The parts between the colons of a text of groups. Where there are no groups, there is one empty part. -/
def parts (gs : List Nat) : List String := if gs = [] then [""] else gs.map hexadecimal

theorem parts_of_ne_nil (h : gs ≠ []) : parts gs = gs.map hexadecimal := if_neg h

theorem parts_ne_nil (gs : List Nat) : parts gs ≠ [] := by
  unfold parts
  split
  next => exact List.cons_ne_nil _ _
  next h => simpa using h

theorem lacks_of_mem_parts (hc : c ∈ marks) : ∀ text ∈ parts gs, Lacks c text := by
  intro text htext
  unfold parts at htext
  split at htext
  next =>
    obtain rfl := List.mem_singleton.mp htext
    simp [Lacks]
  next =>
    obtain ⟨g, -, rfl⟩ := List.mem_map.mp htext
    exact lacks_toDigits hc (by decide) g

theorem joinGroups_eq (gs : List Nat) : joinGroups gs = ":".intercalate (parts gs) := by
  unfold joinGroups parts
  split
  next h =>
    rw [h]
    rfl
  next => rfl

theorem gap_eq (before behind : List Nat) :
    joinGroups before ++ "::" ++ joinGroups behind =
      ":".intercalate (parts before ++ "" :: parts behind) := by
  have hcolons : "::" = ":" ++ ("" ++ ":") := by decide
  rw [String.intercalate_append_of_ne_nil (parts_ne_nil before) (List.cons_ne_nil _ _),
    String.intercalate_cons_of_ne_nil (parts_ne_nil behind), ← joinGroups_eq, ← joinGroups_eq, hcolons]
  simp only [String.append_assoc]

/-- No group is written as an empty part, so the groups before one are known. -/
theorem takeWhile_parts (gs : List Nat) (rest : List String) :
    (parts gs ++ "" :: rest).takeWhile (· ≠ "") = gs.map hexadecimal := by
  unfold parts
  split
  next h => simp [h]
  next =>
    rw [List.takeWhile_append_of_pos]
    · simp
    · intro text htext
      obtain ⟨g, -, rfl⟩ := List.mem_map.mp htext
      simpa using hexadecimal_ne_empty g

theorem parts_append_inj {rest rest' : List String}
    (h : parts gs ++ "" :: rest = parts gs' ++ "" :: rest') : gs = gs' ∧ rest = rest' := by
  have hfront := congrArg (List.takeWhile (· ≠ "")) h
  rw [takeWhile_parts, takeWhile_parts] at hfront
  obtain rfl := List.map_injective_iff.mpr hexadecimal_injective hfront
  exact ⟨rfl, (List.cons.inj (List.append_cancel_left h)).2⟩

theorem parts_injective : Function.Injective parts := by
  intro gs gs' h
  have hended : parts gs ++ [""] = parts gs' ++ [""] := by rw [h]
  exact (parts_append_inj hended).1

/-! ## Runs of zeros -/

/-- The longest run of zeros is one. -/
theorem longestZeros_splits (position : Nat) (gs : List Nat) :
    ∃ before behind, gs = before ++ List.replicate (longestZeros position gs).length 0 ++ behind ∧
      (longestZeros position gs).start = position + before.length := by
  induction gs generalizing position with
  | nil => exact ⟨[], [], rfl, rfl⟩
  | cons g rest ih =>
      rw [longestZeros]
      split
      next =>
        -- the run at the head
        refine ⟨[], (g :: rest).dropWhile (· = 0), ?_, rfl⟩
        have hzeros : (g :: rest).takeWhile (· = 0) =
            List.replicate ((g :: rest).takeWhile (· = 0)).length 0 := by
          apply List.eq_replicate_of_mem
          intro z hz
          simpa using List.all_eq_true.mp List.all_takeWhile z hz
        rw [List.nil_append]
        dsimp only
        rw [← hzeros, List.takeWhile_append_dropWhile]
      next =>
        -- a run further on
        obtain ⟨before, behind, hrest, hstart⟩ := ih (position + 1)
        refine ⟨g :: before, behind, ?_, ?_⟩
        · rw [List.cons_append, List.cons_append, ← hrest]
        · rw [hstart, List.length_cons]
          omega

/-- The parts between the colons of a text of groups: those of all groups, or those before and behind a run
of zeros that is left out, and an empty part between them. -/
inductive Written (gs : List Nat) : List String → Prop
  | whole : Written gs (parts gs)
  | gap {before behind : List Nat} {count : Nat}
      (hsplit : gs = before ++ List.replicate count 0 ++ behind) :
      Written gs (parts before ++ "" :: parts behind)

theorem exists_written (gs : List Nat) :
    ∃ texts, Written gs texts ∧ groupsText gs = ":".intercalate texts := by
  obtain ⟨before, behind, hsplit, hstart⟩ := longestZeros_splits 0 gs
  unfold groupsText
  generalize longestZeros 0 gs = run at hsplit hstart ⊢
  dsimp only
  split
  next => exact ⟨_, .whole, joinGroups_eq gs⟩
  next =>
    -- the run that is left out is where the search says, so the parts around it are what is written
    have hbefore : gs.take run.start = before := by
      rw [hsplit, List.append_assoc]
      apply List.take_left'
      omega
    have hbehind : gs.drop (run.start + run.length) = behind := by
      rw [hsplit]
      apply List.drop_left'
      rw [List.length_append, List.length_replicate]
      omega
    rw [hbefore, hbehind]
    exact ⟨_, .gap hsplit, gap_eq before behind⟩

theorem Written.ne_nil (h : Written gs texts) : texts ≠ [] := by
  cases h with
  | whole => exact parts_ne_nil gs
  | gap => simp

theorem Written.lacks (hc : c ∈ marks) (h : Written gs texts) : ∀ text ∈ texts, Lacks c text := by
  cases h with
  | whole => exact lacks_of_mem_parts hc
  | gap =>
      intro text htext
      rcases List.mem_append.mp htext with hbefore | hbehind
      · exact lacks_of_mem_parts hc text hbefore
      · rcases List.mem_cons.mp hbehind with rfl | hbehind
        · simp [Lacks]
        · exact lacks_of_mem_parts hc text hbehind

/-- Only a text with a gap has an empty part, where there are groups. -/
theorem not_written_gap {before behind : List Nat} (hne : gs ≠ []) :
    parts gs ≠ parts before ++ "" :: parts behind := by
  intro h
  have hmem : "" ∈ parts gs := by
    rw [h]
    simp
  rw [parts_of_ne_nil hne] at hmem
  obtain ⟨g, -, hg⟩ := List.mem_map.mp hmem
  exact hexadecimal_ne_empty g hg

/-- The parts say what the groups are, if it is known how many there are. -/
theorem Written.inj (h : Written gs texts) (h' : Written gs' texts) (hlength : gs.length = gs'.length)
    (hne : gs ≠ []) : gs = gs' := by
  have hne' : gs' ≠ [] := by
    apply List.ne_nil_of_length_pos
    rw [← hlength]
    exact List.length_pos_of_ne_nil hne
  cases h with
  | whole =>
      generalize htexts : parts gs = texts at h'
      cases h' with
      | whole => exact parts_injective htexts
      | gap => exact absurd htexts (not_written_gap hne)
  | @gap before behind count hsplit =>
      generalize htexts : parts before ++ "" :: parts behind = texts at h'
      cases h' with
      | whole => exact absurd htexts.symm (not_written_gap hne')
      | @gap before' behind' count' hsplit' =>
          obtain ⟨rfl, hparts⟩ := parts_append_inj htexts
          obtain rfl := parts_injective hparts
          -- what is left out are zeros, and as many of them on both sides
          have hcount : count = count' := by
            rw [hsplit, hsplit'] at hlength
            simp only [List.length_append, List.length_replicate] at hlength
            omega
          rw [hsplit, hsplit', hcount]

theorem lacks_groupsText (hc : c ∈ marks) (hne : c ≠ ':') (gs : List Nat) : Lacks c (groupsText gs) := by
  obtain ⟨texts, hwritten, htext⟩ := exists_written gs
  rw [htext]
  apply lacks_intercalate
  · simpa [Lacks] using hne
  · exact hwritten.lacks hc

theorem groupsText_inj (hlength : gs.length = gs'.length) (hne : gs ≠ [])
    (h : groupsText gs = groupsText gs') : gs = gs' := by
  obtain ⟨texts, hwritten, htext⟩ := exists_written gs
  obtain ⟨texts', hwritten', htext'⟩ := exists_written gs'
  have hcolon : ':' ∈ marks := by decide
  rw [htext, htext'] at h
  obtain rfl := intercalate_inj (by simp) (hwritten.lacks hcolon) (hwritten'.lacks hcolon) hwritten.ne_nil
    hwritten'.ne_nil h
  exact hwritten.inj hwritten' hlength hne

/-! ## IPv6 -/

theorem eq_mapped_of_carried? {value : BitVec 128} {inner : BitVec 32}
    (h : carried? value = some inner) : value = mapped inner := by
  unfold carried? at h
  split at h
  next hfront =>
    cases h
    apply BitVec.eq_of_toNat_eq
    rw [mapped, BitVec.toNat_ofNat, BitVec.toNat_ofNat]
    omega
  next => cases h

theorem text_of_carried {value : BitVec 128} {inner : BitVec 32} (h : carried? value = some inner) :
    (v6 value).text = "::ffff:" ++ v4Text inner := by
  simp only [text, h]

theorem text_of_not_carried {value : BitVec 128} (h : carried? value = none) :
    (v6 value).text = groupsText (groups 8 value.toNat) := by
  simp only [text, h]

/-- The points tell which addresses carry one. -/
theorem lacks_point_iff (value : BitVec 128) : Lacks '.' (v6 value).text ↔ carried? value = none := by
  cases hcarried : carried? value with
  | none =>
      rw [text_of_not_carried hcarried]
      exact iff_of_true (lacks_groupsText (by decide) (by decide) _) rfl
  | some inner =>
      -- an IPv4 address within an IPv6 one is written with points
      rw [text_of_carried hcarried]
      refine iff_of_false ?_ (Option.some_ne_none inner)
      intro h
      apply not_lacks_v4Text inner
      intro hmem
      apply h
      rw [String.toList_append]
      exact List.mem_append_right _ hmem

theorem lacks_v6Text (hc : c ∈ marks) (hcolon : c ≠ ':') (hpoint : c ≠ '.') (value : BitVec 128) :
    Lacks c (v6 value).text := by
  cases hcarried : carried? value with
  | none =>
      rw [text_of_not_carried hcarried]
      exact lacks_groupsText hc hcolon _
  | some inner =>
      rw [text_of_carried hcarried]
      apply Lacks.append
      · have hdigit : c ≠ 'f' := by
          rintro rfl
          exact absurd hc (by decide)
        simp [Lacks, hcolon, hdigit]
      · exact lacks_v4Text hc hpoint inner

theorem v6_of_text_eq {x y : BitVec 128} (h : (v6 x).text = (v6 y).text) : x = y := by
  -- a point in the text tells whether it ends in an IPv4 address
  have hpoint : carried? x = none ↔ carried? y = none := by
    rw [← lacks_point_iff, ← lacks_point_iff, h]
  cases hx : carried? x with
  | none =>
      have hy := hpoint.mp hx
      rw [text_of_not_carried hx, text_of_not_carried hy] at h
      have hlength : (groups 8 x.toNat).length = (groups 8 y.toNat).length := by
        rw [length_groups, length_groups]
      have hgroups := groups_inj (groupsText_inj hlength (List.concat_ne_nil _ _) h)
      have hx : x.toNat < 65536 ^ 8 := x.isLt
      have hy : y.toNat < 65536 ^ 8 := y.isLt
      rw [Nat.mod_eq_of_lt hx, Nat.mod_eq_of_lt hy] at hgroups
      exact BitVec.eq_of_toNat_eq hgroups
  | some inner =>
      cases hy : carried? y with
      | none =>
          rw [hpoint.mpr hy] at hx
          cases hx
      | some inner' =>
          rw [text_of_carried hx, text_of_carried hy] at h
          have hinner := v4Text_injective (String.append_right_inj _ |>.mp h)
          rw [eq_mapped_of_carried? hx, eq_mapped_of_carried? hy, hinner]

end Address

/-! ## Endpoints -/

namespace Endpoint

open Address

theorem text_v4 (value : BitVec 32) (port : UInt16) :
    text ⟨.v4 value, port⟩ = v4Text value ++ ":" ++ toString port.toNat := rfl

theorem text_v6 (value : BitVec 128) (port : UInt16) :
    text ⟨.v6 value, port⟩ =
      "[" ++ (Address.v6 value).text ++ "]" ++ (":" ++ toString port.toNat) := by
  have hclose : "]:" = "]" ++ ":" := by decide
  show "[" ++ (Address.v6 value).text ++ "]:" ++ toString port.toNat = _
  rw [hclose]
  simp only [String.append_assoc]

theorem lacks_port (hc : c ∈ marks) (port : UInt16) : Lacks c (toString port.toNat) :=
  lacks_toDigits hc (by decide) port.toNat

theorem lacks_textV4 (hc : c ∈ marks) (hcolon : c ≠ ':') (hpoint : c ≠ '.') (value : BitVec 32)
    (port : UInt16) : Lacks c (text ⟨.v4 value, port⟩) := by
  rw [text_v4]
  apply Lacks.append
  · apply (lacks_v4Text hc hpoint value).append
    simpa [Lacks] using hcolon
  · exact lacks_port hc port

/-- The brackets tell the families apart. -/
theorem textV4_ne_textV6 (x : BitVec 32) (y : BitVec 128) (port port' : UInt16) :
    text ⟨.v4 x, port⟩ ≠ text ⟨.v6 y, port'⟩ := by
  intro h
  have hlacks : Lacks '[' (text ⟨.v4 x, port⟩) := lacks_textV4 (by decide) (by decide) (by decide) x port
  rw [h, text_v6] at hlacks
  simp [Lacks] at hlacks

theorem lacks_comma (e : Endpoint) : Lacks ',' e.text := by
  have hcomma : ',' ∈ marks := by decide
  obtain ⟨address, port⟩ := e
  cases address with
  | v4 value => exact lacks_textV4 hcomma (by decide) (by decide) value port
  | v6 value =>
      have haddress := lacks_v6Text hcomma (by decide) (by decide) value
      have hport := lacks_port hcomma port
      have hmarks : Lacks ',' "[" ∧ Lacks ',' "]" ∧ Lacks ',' ":" := by simp [Lacks]
      rw [text_v6]
      exact ((hmarks.1.append haddress).append hmarks.2.1).append (hmarks.2.2.append hport)

/-- An endpoint can be read off its text. -/
theorem text_injective : Function.Injective text := by
  intro a b h
  obtain ⟨address, port⟩ := a
  obtain ⟨address', port'⟩ := b
  cases address with
  | v4 x =>
      cases address' with
      | v4 y =>
          have hcolon : ':' ∈ marks := by decide
          rw [text_v4, text_v4] at h
          obtain ⟨haddress, hport⟩ := append_inj_of_lacks (by simp) (lacks_v4Text hcolon (by decide) x)
            (lacks_v4Text hcolon (by decide) y) h
          rw [v4Text_injective haddress, UInt16.toNat_inj.mp (toString_injective hport)]
      | v6 y => exact absurd h (textV4_ne_textV6 x y port port')
  | v6 x =>
      cases address' with
      | v4 y => exact absurd h.symm (textV4_ne_textV6 y x port' port)
      | v6 y =>
          -- the bracket closes the address, as no address has one in it
          have hopened (value : BitVec 128) : Lacks ']' ("[" ++ (Address.v6 value).text) := by
            apply Lacks.append
            · simp [Lacks]
            · exact lacks_v6Text (by decide) (by decide) (by decide) value
          rw [text_v6, text_v6] at h
          obtain ⟨haddress, hport⟩ := append_inj_of_lacks (by simp) (hopened x) (hopened y) h
          rw [String.append_right_inj] at haddress hport
          rw [v6_of_text_eq haddress, UInt16.toNat_inj.mp (toString_injective hport)]

end Endpoint
end FlowScope
