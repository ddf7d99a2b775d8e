import FlowScope.Proofs.Guarded
import FlowScope.Proofs.Pieces
import FlowScope.Signature.Framed
import Mathlib.Data.List.Basic

/-!
# The layout of framed messages

The tests on framed messages read a payload by offsets. Here is what they accept, written down from front
to back. A form holds what is free in a message, and what has to hold of it; its `octets` are the message,
in which the lengths are computed. A payload is accepted if and only if it is that of some form.

* `ClientHelloForm`, `ConnectionRequestForm`, `BindRequestForm`, `ConnectForm`, `SessionRequestForm` —
  each states its length, in octets at a fixed place. So what is accepted cannot be continued to something
  that is accepted too (`StatesLength.eq_nil`);
* `NegotiateRequestForm` — does not state its length, but may stand behind a session header that does.

The main statement is `framed_messages`.
-/

namespace FlowScope.Signature

open Guarded Probe Bytes

variable {payload : Bytes}

/-! ## ClientHello -/

/-- A TLS record that holds one whole ClientHello. -/
structure ClientHelloForm where
  version : UInt8
  minor : UInt8
  body : Bytes
  known : version ≤ 3
  fits : body.length + 4 < 0x10000

namespace ClientHelloForm

/-- The header of the record, with its type, and that of the message. -/
def octets (form : ClientHelloForm) : Bytes :=
  [22, form.version, form.minor] ++ (ofNat 2 (form.body.length + 4) ++
    1 :: (ofNat 3 form.body.length ++ form.body))

theorem length_octets (form : ClientHelloForm) : form.octets.length = form.body.length + 9 := by
  simp [octets]
  omega

theorem fields (form : ClientHelloForm) :
    form.octets.number? 3 2 = some (form.body.length + 4) ∧
    form.octets.number? 6 3 = some form.body.length ∧
    form.octets[0]? = some 22 ∧ form.octets[1]? = some form.version ∧ form.octets[5]? = some 1 := by
  have hrecord : form.body.length + 4 < 256 ^ 2 := form.fits
  have hhello : form.body.length < 256 ^ 3 := by omega
  simp (disch := first | assumption | simp) [octets, number?_cons, number?_of_le, number?_append_of_lt]

end ClientHelloForm

theorem clientHello_eq_ok_iff :
    clientHello payload = .ok () ↔ ∃ form : ClientHelloForm, payload = form.octets := by
  simp (disch := decide) only [clientHello, bind_eq_ok_iff, number_eq_ok_iff, octet_eq_ok_iff,
    sub_eq_ok_iff, demand_eq_ok_iff]
  constructor
  · rintro ⟨recordLength, hrecord, helloLength, hhello, _, htype, version, hversion, _, hmessage,
      _, ⟨-, rfl⟩, _, ⟨-, rfl⟩, -, ⟨rfl, hknown, hrecordLength⟩, rfl, hhelloLength⟩
    -- the payload is taken apart field by field, from the front
    obtain ⟨hfits, before, afterRecord, rfl, hbefore⟩ := number?_eq_some_iff_exists.mp hrecord
    obtain ⟨b, _, minor, rfl⟩ := List.length_eq_three.mp hbefore
    obtain rfl : b = 22 := by simpa using htype
    cases hversion
    have hmessage : afterRecord[0]? = some 1 := by
      simpa [List.getElem?_append_right] using hmessage
    obtain ⟨rest, rfl⟩ := exists_cons_of_getElem? hmessage
    have hhello : number? rest 0 3 = some helloLength := by
      simpa (disch := simp) [number?_of_le, number?_cons] using hhello
    obtain ⟨body, rfl⟩ := exists_append_of_number? hhello
    simp only [List.length_append, List.length_cons, List.length_nil, length_ofNat]
      at hrecordLength hhelloLength
    -- the two lengths are those of what is left
    obtain rfl : recordLength = body.length + 4 := by omega
    obtain rfl : helloLength = body.length := by omega
    exact ⟨⟨version, minor, body, hknown, hfits⟩, rfl⟩
  · rintro ⟨form, rfl⟩
    obtain ⟨hrecord, hhello, htype, hversion, hmessage⟩ := form.fields
    have hlength := form.length_octets
    exact ⟨_, hrecord, _, hhello, _, htype, _, hversion, _, hmessage, _, ⟨by omega, rfl⟩,
      _, ⟨by omega, rfl⟩, (), ⟨rfl, form.known, by omega⟩, rfl, by omega⟩

/-! ## RDP connection requests -/

/-- A TPKT header, a COTP header and a cookie, in 20 to 260 octets. -/
structure ConnectionRequestForm where
  references : Bytes
  cookie : Bytes
  whole : references.length = 5
  least : 20 ≤ 11 + cookie.length
  most : 11 + cookie.length ≤ 260
  named : ofAscii "mstshash=" <:+: cookie ∨ ofAscii "msts=" <:+: cookie

namespace ConnectionRequestForm

def size (form : ConnectionRequestForm) : Nat := 11 + form.cookie.length

/-- Both headers state a length: the first that of the message, the second that of what follows. -/
def octets (form : ConnectionRequestForm) : Bytes :=
  [3, 0] ++ (ofNat 2 form.size ++
    UInt8.ofNat (form.size - 5) :: 0xe0 :: (form.references ++ form.cookie))

theorem length_octets (form : ConnectionRequestForm) : form.octets.length = form.size := by
  have hwhole := form.whole
  simp [octets, size]
  omega

theorem fields (form : ConnectionRequestForm) :
    form.octets[0]? = some 3 ∧ form.octets[1]? = some 0 ∧
    form.octets.number? 2 2 = some form.size ∧
    form.octets[4]? = some (UInt8.ofNat (form.size - 5)) ∧ form.octets[5]? = some 0xe0 ∧
    form.octets.drop 11 = form.cookie := by
  have hmost := form.most
  have hsize : form.size < 256 ^ 2 := by
    rw [size]
    omega
  simp (disch := first | assumption | simp) [octets, number?_cons, number?_append_of_lt,
    List.getElem?_append_right, List.drop_append, List.drop_eq_nil_of_le, form.whole]

end ConnectionRequestForm

theorem connectionRequest_eq_ok_iff :
    connectionRequest payload = .ok () ↔ ∃ form : ConnectionRequestForm, payload = form.octets := by
  simp (disch := decide) only [connectionRequest, bind_eq_ok_iff, number_eq_ok_iff, octet_eq_ok_iff,
    sub_eq_ok_iff, tail_eq_ok_iff, demand_eq_ok_iff]
  constructor
  · rintro ⟨-, hleast, _, hversion, _, hreserved, tpktLength, htpkt, cotpLength, hcotp, _, htype,
      _, ⟨-, rfl⟩, _, ⟨-, rfl⟩, -, ⟨rfl, rfl, htpktLength⟩, -, ⟨hcotpLength, rfl⟩, hnamed⟩
    obtain ⟨hfits, before, afterTpkt, rfl, hbefore⟩ := number?_eq_some_iff_exists.mp htpkt
    obtain ⟨_, _, rfl⟩ := List.length_eq_two.mp hbefore
    cases hversion
    cases hreserved
    have hcotp : afterTpkt[0]? = some cotpLength := by
      simpa [List.getElem?_append_right] using hcotp
    obtain ⟨afterLength, rfl⟩ := exists_cons_of_getElem? hcotp
    have htype : afterLength[0]? = some 0xe0 := by
      simpa [List.getElem?_append_right] using htype
    obtain ⟨rest, rfl⟩ := exists_cons_of_getElem? htype
    simp only [List.length_append, List.length_cons, List.length_nil, length_ofNat]
      at hleast htpktLength hcotpLength
    obtain ⟨references, cookie, rfl, hwhole⟩ := exists_append_of_le (show 5 ≤ rest.length by omega)
    rw [List.length_append] at hleast htpktLength hcotpLength
    -- both lengths count the payload, the second one from behind its own octet
    have hsize : tpktLength = 11 + cookie.length := by omega
    have hlast : cotpLength.toNat = tpktLength - 5 := by omega
    have hsmall : cotpLength.toNat < 256 := cotpLength.toNat_lt
    subst hsize
    have hnamed : ofAscii "mstshash=" <:+: cookie ∨ ofAscii "msts=" <:+: cookie := by
      simpa [List.drop_append, List.drop_eq_nil_of_le, hwhole, holds_iff_isInfix] using hnamed
    refine ⟨⟨references, cookie, hwhole, by omega, by omega, hnamed⟩, ?_⟩
    rw [ConnectionRequestForm.octets, ConnectionRequestForm.size, ← hlast, UInt8.ofNat_toNat]
  · rintro ⟨form, rfl⟩
    obtain ⟨hversion, hreserved, htpkt, hcotp, htype, hcookie⟩ := form.fields
    have hlength := form.length_octets
    have hleast : 20 ≤ form.size := form.least
    have hmost : form.size ≤ 260 := form.most
    have hcotpLength : (UInt8.ofNat (form.size - 5)).toNat = form.size - 5 := by
      rw [UInt8.toNat_ofNat', Nat.mod_eq_of_lt (by omega)]
    have hnamed := form.named
    rw [← holds_iff_isInfix, ← holds_iff_isInfix] at hnamed
    rw [hlength]
    exact ⟨(), hleast, _, hversion, _, hreserved, _, htpkt, _, hcotp, _, htype, _, ⟨by omega, rfl⟩,
      _, ⟨by omega, hcookie⟩, (), ⟨rfl, rfl, rfl⟩, (), ⟨hcotpLength, rfl⟩, hnamed⟩

/-! ## DCE/RPC bind requests -/

structure BindRequestForm where
  rest : Bytes
  least : 24 ≤ 10 + rest.length
  most : 10 + rest.length < 0x10000

namespace BindRequestForm

def size (form : BindRequestForm) : Nat := 10 + form.rest.length

/-- The length is little-endian. -/
def octets (form : BindRequestForm) : Bytes :=
  [5, 0, 11, 3, 16, 0, 0, 0] ++ ((ofNat 2 form.size).reverse ++ form.rest)

theorem length_octets (form : BindRequestForm) : form.octets.length = form.size := by
  simp [octets, size]
  omega

theorem fields (form : BindRequestForm) :
    bindHeader.isPrefixOf form.octets = true ∧
    form.octets[8]? = some (UInt8.ofNat (form.size % 256)) ∧
    form.octets[9]? = some (UInt8.ofNat (form.size / 256 % 256)) := by
  refine ⟨List.isPrefixOf_iff_prefix.mpr (List.prefix_append _ _), ?_⟩
  simp [octets, ofNat]

end BindRequestForm

theorem bindRequest_eq_ok_iff :
    bindRequest payload = .ok () ↔ ∃ form : BindRequestForm, payload = form.octets := by
  simp (disch := decide) only [bindRequest, bind_eq_ok_iff, octet_eq_ok_iff, demand_eq_ok_iff]
  constructor
  · rintro ⟨-, hleast, -, hheader, low, hlow, high, hhigh, hlength⟩
    obtain ⟨afterHeader, rfl⟩ := List.isPrefixOf_iff_prefix.mp hheader
    have hlow : afterHeader[0]? = some low := by simpa [bindHeader] using hlow
    obtain ⟨afterLow, rfl⟩ := exists_cons_of_getElem? hlow
    have hhigh : afterLow[0]? = some high := by simpa [bindHeader] using hhigh
    obtain ⟨rest, rfl⟩ := exists_cons_of_getElem? hhigh
    -- the length is written with its lower octet first
    have hsize : Bytes.toNat [high, low] = 10 + rest.length := by
      have hvalue : Bytes.toNat [high, low] = 256 * high.toNat + low.toNat := by simp [Bytes.toNat]
      rw [hvalue, hlength]
      simp [bindHeader]
      omega
    have hfits := toNat_lt [high, low]
    rw [hsize] at hfits
    simp only [bindHeader, List.length_append, List.length_cons, List.length_nil] at hleast
    have hwritten : ofNat 2 (Bytes.toNat [high, low]) = [high, low] := ofNat_toNat [high, low]
    rw [hsize] at hwritten
    refine ⟨⟨rest, by omega, by simpa using hfits⟩, ?_⟩
    simp [BindRequestForm.octets, BindRequestForm.size, bindHeader, hwritten]
  · rintro ⟨form, rfl⟩
    obtain ⟨hheader, hlow, hhigh⟩ := form.fields
    have hleast : 24 ≤ form.size := form.least
    have hmost : form.size < 0x10000 := form.most
    rw [form.length_octets]
    refine ⟨(), hleast, (), hheader, _, hlow, _, hhigh, ?_⟩
    rw [UInt8.toNat_ofNat', UInt8.toNat_ofNat']
    omega

/-! ## MQTT CONNECT messages -/

/-- A message whose length takes one octet; its name begins behind the two octets of a length. -/
structure ConnectForm where
  high : UInt8
  low : UInt8
  rest : Bytes
  fits : 4 + rest.length < 256

namespace ConnectForm

/-- What follows the octet of the length. -/
def body (form : ConnectForm) : Bytes := [form.high, form.low] ++ (ofAscii "MQ" ++ form.rest)

def octets (form : ConnectForm) : Bytes := 0x10 :: UInt8.ofNat form.body.length :: form.body

theorem length_body (form : ConnectForm) : form.body.length = 4 + form.rest.length := by
  simp [body, ofAscii]
  omega

theorem toNat_length (form : ConnectForm) :
    (UInt8.ofNat form.body.length).toNat = form.body.length := by
  have hfits := form.fits
  rw [UInt8.toNat_ofNat', form.length_body, Nat.mod_eq_of_lt hfits]

end ConnectForm

theorem connect_eq_ok_iff : connect payload = .ok () ↔ ∃ form : ConnectForm, payload = form.octets := by
  simp (disch := decide) only [connect, bind_eq_ok_iff, octet_eq_ok_iff, sub_eq_ok_iff,
    tail_eq_ok_iff, demand_eq_ok_iff]
  constructor
  · rintro ⟨-, hleast, _, hmessage, length, hlength, _, ⟨-, rfl⟩, name, ⟨-, hname⟩, rfl, hbody, hprefix⟩
    obtain ⟨front, afterFront, rfl, hfront⟩ :=
      exists_append_of_le (show 4 ≤ payload.length by omega)
    -- four octets come before the name: the message type, the length and that of the name
    match front, hfront with
    | [_, _, high, low], _ =>
      cases hmessage
      cases hlength
      obtain rfl : afterFront = name := hname
      obtain ⟨rest, rfl⟩ := List.isPrefixOf_iff_prefix.mp hprefix
      have hsmall : length.toNat < 256 := length.toNat_lt
      have hsize : length.toNat = ([high, low] ++ (ofAscii "MQ" ++ rest)).length := hbody
      have hfits : 4 + rest.length < 256 := by
        simp [ofAscii] at hsize
        omega
      refine ⟨⟨high, low, rest, hfits⟩, ?_⟩
      rw [ConnectForm.octets, ConnectForm.body, ← hsize, UInt8.ofNat_toNat]
      rfl
  · rintro ⟨form, rfl⟩
    have hbody := form.length_body
    have hlength : form.octets.length = form.body.length + 2 := rfl
    exact ⟨(), by omega, _, rfl, _, rfl, _, ⟨by omega, rfl⟩, _, ⟨by omega, rfl⟩, rfl,
      form.toNat_length, List.isPrefixOf_iff_prefix.mpr (List.prefix_append _ _)⟩

/-! ## NetBIOS session requests -/

/-- Two names that are padded in front, each ended by a zero. -/
structure SessionRequestForm where
  names : Bytes
  ended : names.count 0 = 2
  called : names.head? = some 32
  calling : ∃ before rest, names = before ++ 0 :: 32 :: rest ∧ 0 ∉ before
  fits : names.length < 0x10000

namespace SessionRequestForm

def octets (form : SessionRequestForm) : Bytes :=
  [0x81, 0] ++ (ofNat 2 form.names.length ++ form.names)

theorem length_octets (form : SessionRequestForm) : form.octets.length = form.names.length + 4 := by
  simp [octets]
  omega

/-- The names take four octets at least: a blank and a zero each. -/
theorem four_le (form : SessionRequestForm) : 4 ≤ form.names.length := by
  obtain ⟨before, rest, hnames, hbefore⟩ := form.calling
  have hcount := form.ended
  have hhead := form.called
  rw [hnames] at hcount hhead ⊢
  -- one of the two zeros stands behind the first name
  have hrest : 0 < rest.count 0 := by
    simp [List.count_append, List.count_eq_zero.mpr hbefore] at hcount
    omega
  have hlength := List.count_le_length (a := 0) (l := rest)
  cases before with
  | nil => cases hhead
  | cons b before =>
      simp
      omega

theorem fields (form : SessionRequestForm) :
    form.octets.number? 2 2 = some form.names.length ∧ form.octets.drop 4 = form.names ∧
    form.octets[0]? = some 0x81 ∧ form.octets[1]? = some 0 := by
  have hfits : form.names.length < 256 ^ 2 := form.fits
  simp (disch := first | assumption | simp) [octets, number?_cons, number?_append_of_lt]

end SessionRequestForm

/-- Two padded names, said piece by piece. -/
theorem padded_names_iff {names : Bytes} :
    (∃ called calling last, pieces (· = 0) names = [called, calling, last] ∧
      called.head? = some 32 ∧ calling.head? = some 32) ↔
    names.count 0 = 2 ∧ names.head? = some 32 ∧
      ∃ before rest, names = before ++ 0 :: 32 :: rest ∧ 0 ∉ before := by
  have hzero : ∀ {m : UInt8}, decide (m = 0) = true → m = 0 := of_decide_eq_true
  have hfree : ∀ {piece : Bytes}, (∀ b ∈ piece, decide (b = 0) = false) ↔ 0 ∉ piece := by grind
  constructor
  · rintro ⟨called, calling, last, hpieces, hcalled, hcalling⟩
    obtain ⟨called, rfl⟩ := List.head?_eq_some_iff.mp hcalled
    obtain ⟨calling, rfl⟩ := List.head?_eq_some_iff.mp hcalling
    -- a piece that is not the last is ended by a zero
    obtain ⟨hfree₁, ⟨hnone, -⟩ | ⟨m, rest, hm, rfl, hrest⟩⟩ := exists_of_pieces_eq_cons hpieces
    · cases hnone
    obtain ⟨hfree₂, ⟨hnone, -⟩ | ⟨m', rest', hm', rfl, hrest'⟩⟩ := exists_of_pieces_eq_cons hrest
    · cases hnone
    obtain ⟨hfree₃, ⟨-, rfl⟩ | ⟨_, _, -, -, hnone⟩⟩ := exists_of_pieces_eq_cons hrest'
    · obtain rfl := hzero hm
      obtain rfl := hzero hm'
      rw [hfree] at hfree₁ hfree₂ hfree₃
      refine ⟨?_, rfl, 32 :: called, calling ++ 0 :: rest', rfl, hfree₁⟩
      simp only [List.count_append, List.count_cons_self, List.count_eq_zero.mpr hfree₁,
        List.count_eq_zero.mpr hfree₂, List.count_eq_zero.mpr hfree₃]
    · exact absurd hnone (pieces_ne_nil _ _)
  · rintro ⟨hcount, hhead, before, rest, rfl, hbefore⟩
    -- of the two zeros one is left for the second name
    have hone : rest.count 0 = 1 := by
      simpa [List.count_append, List.count_eq_zero.mpr hbefore] using hcount
    obtain ⟨calling, last, rfl, hcalling⟩ :=
      List.eq_append_cons_of_mem (List.count_pos_iff.mp (by omega : 0 < rest.count 0))
    have hlast : 0 ∉ last := by
      simpa [List.count_append, List.count_eq_zero.mpr hcalling, List.count_eq_zero] using hone
    refine ⟨before, 32 :: calling, last, ?_, ?_, rfl⟩
    · rw [pieces_append_cons (hfree.mpr hbefore) (by decide), ← List.cons_append,
        pieces_append_cons (hfree.mpr (by simpa using hcalling)) (by decide),
        pieces_of_free (hfree.mpr hlast)]
    · cases before with
      | nil => cases hhead
      | cons b before => exact hhead

theorem sessionRequest_eq_ok_iff :
    sessionRequest payload = .ok () ↔ ∃ form : SessionRequestForm, payload = form.octets := by
  simp (disch := decide) only [sessionRequest, bind_eq_ok_iff, number_eq_ok_iff, octet_eq_ok_iff,
    add_eq_ok_iff, tail_eq_ok_iff, demand_eq_ok_iff]
  constructor
  · rintro ⟨-, hleast, length, hlength, names, ⟨-, hnames⟩, _, ⟨-, rfl⟩, _, hmessage, _, hflags, -,
      ⟨hsize, rfl, rfl⟩, hpadded⟩
    obtain ⟨hfits, before, afterLength, rfl, hbefore⟩ := number?_eq_some_iff_exists.mp hlength
    obtain ⟨_, _, rfl⟩ := List.length_eq_two.mp hbefore
    cases hmessage
    cases hflags
    obtain rfl : afterLength = names := by simpa [List.drop_append] using hnames
    obtain rfl : length = afterLength.length := by
      simp at hsize
      omega
    split at hpadded
    next called calling last hpieces =>
        obtain ⟨hended, hcalled, hcalling⟩ :=
          padded_names_iff.mp ⟨called, calling, last, hpieces, demand_eq_ok_iff.mp hpadded⟩
        exact ⟨⟨afterLength, hended, hcalled, hcalling, hfits⟩, rfl⟩
    next => cases hpadded
  · rintro ⟨form, rfl⟩
    obtain ⟨hlength, hnames, hmessage, hflags⟩ := form.fields
    have hfits := form.fits
    have hleast := form.four_le
    have hword : wordLimit = 0x10000000000000000 := rfl
    obtain ⟨called, calling, last, hpieces, hpadded⟩ :=
      padded_names_iff.mpr ⟨form.ended, form.called, form.calling⟩
    refine ⟨(), ?_, _, hlength, _, ⟨?_, hnames⟩, _, ⟨by omega, rfl⟩, _, hmessage, _, hflags, (),
      ⟨?_, rfl, rfl⟩, ?_⟩
    · rw [form.length_octets]
      omega
    · rw [form.length_octets]
      omega
    · rw [form.length_octets]
    · rw [hpieces]
      exact demand_eq_ok_iff.mpr hpadded

/-! ## SMB negotiations -/

/-- A request to negotiate SMB1. -/
structure NegotiateRequestForm where
  flags : UInt8
  rest : Bytes
  request : flags &&& 0x80 = 0

namespace NegotiateRequestForm

/-- The message: a magic number, the command, the status, which is zero, and the flags are in front. -/
def octets (form : NegotiateRequestForm) : Bytes :=
  [0xff, 0x53, 0x4d, 0x42] ++ 0x72 :: ([0, 0, 0, 0] ++ form.flags :: form.rest)

/-- The message behind a session header. -/
def inSession (form : NegotiateRequestForm) : Bytes :=
  ofNat 4 form.octets.length ++ form.octets

end NegotiateRequestForm

/-- What is taken for the message: all of the payload, or what stands behind a session header. -/
theorem sessionMessage_of_long (hlong : 4 < payload.length) {first : UInt8} {length : Nat}
    (hfirst : payload[0]? = some first) (hlength : payload.number? 0 4 = some length) :
    sessionMessage payload =
      .ok (if first = 0 ∧ length = payload.length - 4 then payload.drop 4 else payload) := by
  rw [sessionMessage, if_pos hlong]
  simp (disch := decide) only [bind_eq_ok_iff, number_eq_ok_iff, octet_eq_ok_iff, sub_eq_ok_iff]
  refine ⟨first, hfirst, length, hlength, payload.length - 4, ⟨by omega, rfl⟩, ?_⟩
  split
  · exact tail_eq_ok_iff.mpr ⟨by omega, rfl⟩
  · rfl

theorem sessionMessage_of_short (hshort : ¬ 4 < payload.length) :
    sessionMessage payload = .ok payload := by
  rw [sessionMessage, if_neg hshort]
  rfl

theorem exists_of_long (hlong : 4 < payload.length) :
    ∃ first length, payload[0]? = some first ∧ payload.number? 0 4 = some length :=
  ⟨_, _, List.getElem?_eq_getElem (by omega), number?_eq_some_iff.mpr ⟨by omega, rfl⟩⟩

theorem sessionMessage_cases {message : Bytes} (h : sessionMessage payload = .ok message) :
    message = payload ∨
      message.length < 0x1000000 ∧ payload = ofNat 4 message.length ++ message := by
  by_cases hlong : 4 < payload.length
  · obtain ⟨first, length, hfirst, hlength⟩ := exists_of_long hlong
    rw [sessionMessage_of_long hlong hfirst hlength] at h
    split at h
    next hheader =>
        obtain ⟨rfl, hrest⟩ := hheader
        have hfits := number?_lt hlength
        obtain ⟨rest, rfl⟩ := exists_append_of_number? hlength
        obtain rfl : length = rest.length := by simpa using hrest
        obtain rfl : rest = message := by simpa [List.drop_append] using h
        -- the first octet of the length is zero, so it has at most three others
        have hzero : (ofNat 4 rest.length).head? = some 0 := by
          simpa [List.head?_eq_getElem?, List.getElem?_append_left] using hfirst
        exact .inr ⟨lt_of_head?_ofNat hfits hzero, rfl⟩
    next =>
        cases h
        exact .inl rfl
  · rw [sessionMessage_of_short hlong] at h
    cases h
    exact .inl rfl

theorem sessionMessage_of_ne {b : UInt8} (hb : b ≠ 0) (rest : Bytes) :
    sessionMessage (b :: rest) = .ok (b :: rest) := by
  by_cases hlong : 4 < (b :: rest).length
  · obtain ⟨first, length, hfirst, hlength⟩ := exists_of_long hlong
    cases hfirst
    rw [sessionMessage_of_long hlong rfl hlength, if_neg fun hheader => hb hheader.1]
  · exact sessionMessage_of_short hlong

theorem sessionMessage_of_header {message : Bytes} (hne : message ≠ [])
    (hfits : message.length < 0x1000000) :
    sessionMessage (ofNat 4 message.length ++ message) = .ok message := by
  have hpos := List.length_pos_iff.mpr hne
  have hlong : 4 < (ofNat 4 message.length ++ message).length := by
    simp
    omega
  have hfirst : (ofNat 4 message.length ++ message)[0]? = some 0 := by
    rw [ofNat_succ_of_lt hfits]
    rfl
  have hsize : message.length < 256 ^ 4 := by omega
  have hlength := number?_append_of_lt hsize message
  rw [sessionMessage_of_long hlong hfirst hlength]
  simp

/-- What is asked of the message, field by field. -/
theorem negotiation_iff {message : Bytes} :
    (10 ≤ message.length ∧ smbMagic.isPrefixOf message = true ∧ message[4]? = some 0x72 ∧
      message.number? 5 4 = some 0 ∧ ∃ flags, message[9]? = some flags ∧ flags &&& 0x80 = 0) ↔
    ∃ form : NegotiateRequestForm, message = form.octets := by
  constructor
  · rintro ⟨-, hmagic, hcommand, hstatus, flags, hflags, hrequest⟩
    -- magic, command, status and flags follow one another from the front
    obtain ⟨afterMagic, rfl⟩ := List.isPrefixOf_iff_prefix.mp hmagic
    have hcommand : afterMagic[0]? = some 0x72 := by simpa [smbMagic] using hcommand
    obtain ⟨afterCommand, rfl⟩ := exists_cons_of_getElem? hcommand
    have hstatus : number? afterCommand 0 4 = some 0 := by
      simpa [smbMagic, number?_cons] using hstatus
    obtain ⟨afterStatus, rfl⟩ := exists_append_of_number? hstatus
    have hflags : afterStatus[0]? = some flags := by
      simpa [smbMagic, List.getElem?_append_right] using hflags
    obtain ⟨rest, rfl⟩ := exists_cons_of_getElem? hflags
    exact ⟨⟨flags, rest, hrequest⟩, rfl⟩
  · rintro ⟨form, rfl⟩
    refine ⟨?_, rfl, rfl, rfl, form.flags, rfl, form.request⟩
    simp [NegotiateRequestForm.octets]

theorem negotiateRequest_eq_ok_iff :
    negotiateRequest payload = .ok () ↔ ∃ form : NegotiateRequestForm,
      payload = form.octets ∨ form.octets.length < 0x1000000 ∧ payload = form.inSession := by
  simp (disch := decide) only [negotiateRequest, bind_eq_ok_iff, number_eq_ok_iff, octet_eq_ok_iff,
    demand_eq_ok_iff]
  constructor
  · rintro ⟨message, hmessage, -, hleast, command, hcommand, status, hstatus, flags, hflags, hmagic,
      rfl, rfl, hrequest⟩
    obtain ⟨form, rfl⟩ :=
      negotiation_iff.mp ⟨hleast, hmagic, hcommand, hstatus, flags, hflags, hrequest⟩
    rcases sessionMessage_cases hmessage with rfl | ⟨hfits, rfl⟩
    · exact ⟨form, .inl rfl⟩
    · exact ⟨form, .inr ⟨hfits, rfl⟩⟩
  · rintro ⟨form, hpayload⟩
    have hmessage : sessionMessage payload = .ok form.octets := by
      rcases hpayload with rfl | ⟨hfits, rfl⟩
      · exact sessionMessage_of_ne (by decide) _
      · exact sessionMessage_of_header (List.cons_ne_nil _ _) hfits
    obtain ⟨hleast, hmagic, hcommand, hstatus, flags, hflags, hrequest⟩ :=
      negotiation_iff.mpr ⟨form, rfl⟩
    exact ⟨_, hmessage, (), hleast, _, hcommand, _, hstatus, flags, hflags, hmagic, rfl, rfl, hrequest⟩

/-! ## Messages that state their length -/

/-- The messages that a test accepts state their length: a number at a fixed place determines it. -/
def StatesLength (test : Bytes → Probe Unit) : Prop :=
  ∃ (start width : Nat) (size : Nat → Nat), ∀ payload, test payload = .ok () →
    ∃ n, payload.number? start width = some n ∧ payload.length = size n

/-- The number is not changed by what follows it, so neither is the length. -/
theorem StatesLength.eq_nil {test : Bytes → Probe Unit} (h : StatesLength test) {more : Bytes}
    (hpayload : test payload = .ok ()) (hmore : test (payload ++ more) = .ok ()) : more = [] := by
  obtain ⟨start, width, size, hstates⟩ := h
  obtain ⟨n, hnumber, hlength⟩ := hstates payload hpayload
  obtain ⟨n', hnumber', hlength'⟩ := hstates (payload ++ more) hmore
  rw [number?_append_right hnumber] at hnumber'
  cases hnumber'
  rw [List.length_append] at hlength'
  apply List.length_eq_zero_iff.mp
  omega

theorem clientHello_statesLength : StatesLength clientHello := by
  refine ⟨3, 2, (· + 5), fun payload h => ?_⟩
  obtain ⟨form, rfl⟩ := clientHello_eq_ok_iff.mp h
  exact ⟨_, form.fields.1, form.length_octets⟩

theorem connectionRequest_statesLength : StatesLength connectionRequest := by
  refine ⟨2, 2, id, fun payload h => ?_⟩
  obtain ⟨form, rfl⟩ := connectionRequest_eq_ok_iff.mp h
  exact ⟨_, form.fields.2.2.1, form.length_octets⟩

theorem bindRequest_statesLength : StatesLength bindRequest := by
  -- the octets of the length are in the other order
  refine ⟨8, 2, fun n => 256 * (n % 256) + n / 256, fun payload h => ?_⟩
  obtain ⟨form, rfl⟩ := bindRequest_eq_ok_iff.mp h
  have hmost : form.size < 0x10000 := form.most
  refine ⟨256 * (form.size % 256) + form.size / 256, ?_, ?_⟩
  · refine number?_eq_some_iff.mpr ⟨?_, ?_⟩
    · rw [form.length_octets, BindRequestForm.size]
      omega
    · simp [BindRequestForm.octets, ofNat, Bytes.toNat]
      omega
  · rw [form.length_octets]
    dsimp only
    omega

theorem connect_statesLength : StatesLength connect := by
  refine ⟨1, 1, (· + 2), fun payload h => ?_⟩
  obtain ⟨form, rfl⟩ := connect_eq_ok_iff.mp h
  refine ⟨form.body.length, number?_eq_some_iff.mpr ⟨?_, ?_⟩, rfl⟩
  · exact Nat.le_add_left 2 form.body.length
  · simp [ConnectForm.octets, Bytes.toNat, -UInt8.toNat_ofNat', form.toNat_length]

theorem sessionRequest_statesLength : StatesLength sessionRequest := by
  refine ⟨2, 2, (· + 4), fun payload h => ?_⟩
  obtain ⟨form, rfl⟩ := sessionRequest_eq_ok_iff.mp h
  exact ⟨_, form.fields.1, form.length_octets⟩

/-- The tests whose messages state their length. -/
def stated : List (Bytes → Probe Unit) :=
  [clientHello, connectionRequest, bindRequest, connect, sessionRequest]

theorem statesLength_of_mem {test : Bytes → Probe Unit} (h : test ∈ stated) : StatesLength test := by
  simp only [stated, List.mem_cons, List.not_mem_nil, or_false] at h
  rcases h with rfl | rfl | rfl | rfl | rfl
  · exact clientHello_statesLength
  · exact connectionRequest_statesLength
  · exact bindRequest_statesLength
  · exact connect_statesLength
  · exact sessionRequest_statesLength

/-- **What the framed signatures accept.** Each test accepts a payload if and only if it is the message of
one of its forms; the message of SMB may also stand behind the header of a session. The other messages
state their length, and no two of one kind are such that one is the beginning of the other. -/
theorem framed_messages (payload : Bytes) :
    (clientHello payload = .ok () ↔ ∃ form : ClientHelloForm, payload = form.octets) ∧
    (connectionRequest payload = .ok () ↔ ∃ form : ConnectionRequestForm, payload = form.octets) ∧
    (bindRequest payload = .ok () ↔ ∃ form : BindRequestForm, payload = form.octets) ∧
    (connect payload = .ok () ↔ ∃ form : ConnectForm, payload = form.octets) ∧
    (sessionRequest payload = .ok () ↔ ∃ form : SessionRequestForm, payload = form.octets) ∧
    (negotiateRequest payload = .ok () ↔ ∃ form : NegotiateRequestForm,
      payload = form.octets ∨ form.octets.length < 0x1000000 ∧ payload = form.inSession) ∧
    ∀ test ∈ stated, ∀ more, test payload = .ok () → test (payload ++ more) = .ok () → more = [] := by
  refine ⟨clientHello_eq_ok_iff, connectionRequest_eq_ok_iff, bindRequest_eq_ok_iff,
    connect_eq_ok_iff, sessionRequest_eq_ok_iff, negotiateRequest_eq_ok_iff, ?_⟩
  intro test htest more hpayload hmore
  exact (statesLength_of_mem htest).eq_nil hpayload hmore

/-- The shortest connection request, and nothing that begins with it. -/
theorem framed_messages_of_shortest :
    let payload := [3, 0, 0, 20, 15, 0xe0, 0, 0, 0x12, 0x34, 0] ++ Bytes.ofAscii "msts=7\r\n;"
    connectionRequest payload = .ok () ∧
      ∀ more, more ≠ [] → connectionRequest (payload ++ more) ≠ .ok () := by
  intro payload
  obtain ⟨-, haccepts, -, -, -, -, hends⟩ := framed_messages payload
  let form : ConnectionRequestForm :=
    ⟨[0, 0, 0x12, 0x34, 0], ofAscii "msts=7\r\n;", rfl, by decide, by decide,
      .inr ⟨[], ofAscii "7\r\n;", by decide⟩⟩
  have haccepted := haccepts.mpr ⟨form, by decide⟩
  refine ⟨haccepted, fun more hne hmore => hne ?_⟩
  exact hends connectionRequest (by simp [stated]) more haccepted hmore

end FlowScope.Signature
