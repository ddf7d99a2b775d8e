import FlowScope.Flow.Conversation
import FlowScope.Proofs.Net.AddressText
import Mathlib.Data.Sym.Sym2

/-!
# The identity of conversations

A conversation keeps its two endpoints in the order of their ranks. Since no two endpoints have the
same rank, it is as good as a transport with an unordered pair of endpoints: no more is known of the
direction (`between_comm`), and no less of the endpoints (`parties_between`).

There are two main statements. `ofPacket?_eq_iff` is about packets. What stands for an endpoint in a packet
that is made without a frame depends on the other one: beside an IPv6 address, an IPv4 address is written as
IPv6 (`Endpoint.beside`). `text_between_eq_iff` is about texts: no two conversations have the same one, so a
conversation may be known by its text.
-/

namespace FlowScope

/-! ## Ranks -/

theorem Address.rank_lt (a : Address) : a.rank < 2 ^ 129 := by
  cases a with
  | v4 value =>
      have hvalue := value.isLt
      simp only [rank]
      omega
  | v6 value =>
      have hvalue := value.isLt
      simp only [rank]
      omega

theorem Address.rank_injective : Function.Injective Address.rank := by
  intro a b h
  -- the IPv4 addresses come first, and fill the ranks below those of IPv6
  cases a with
  | v4 x =>
      have hx := x.isLt
      cases b with
      | v4 y => exact congrArg v4 (BitVec.eq_of_toNat_eq h)
      | v6 y =>
          simp only [rank] at h
          omega
  | v6 x =>
      cases b with
      | v4 y =>
          have hy := y.isLt
          simp only [rank] at h
          omega
      | v6 y => exact congrArg v6 (BitVec.eq_of_toNat_eq (Nat.add_left_cancel h))

theorem Endpoint.rank_eq (e : Endpoint) : e.rank = e.port.toNat * 2 ^ 129 + e.address.rank := by
  rw [rank, Nat.shiftLeft_eq]

theorem Endpoint.rank_injective : Function.Injective Endpoint.rank := by
  intro a b h
  have ha := a.address.rank_lt
  have hb := b.address.rank_lt
  rw [rank_eq, rank_eq] at h
  have hport : a.port.toNat = b.port.toNat := by omega
  have haddress : a.address.rank = b.address.rank := by omega
  obtain ⟨address, port⟩ := a
  obtain rfl := Address.rank_injective haddress
  obtain rfl := UInt16.toNat_inj.mp hport
  rfl

namespace Conversation

variable {kind kind' : Transport} {a b c d : Endpoint}

/-- Both endpoints, neither of them first. -/
def parties (c : Conversation) : Sym2 Endpoint := s(c.lower, c.upper)

theorem transport_between : (between kind a b).transport = kind := by
  unfold between
  split <;> rfl

theorem parties_between : (between kind a b).parties = s(a, b) := by
  unfold between
  split
  · exact Sym2.eq_swap
  · rfl

theorem between_comm (kind : Transport) (a b : Endpoint) : between kind a b = between kind b a := by
  unfold between
  rcases Nat.lt_trichotomy a.rank b.rank with h | h | h
  · rw [if_neg (Nat.lt_asymm h), if_pos h]
  · rw [Endpoint.rank_injective h]
  · rw [if_pos h, if_neg (Nat.lt_asymm h)]

theorem between_eq_iff : between kind a b = between kind' c d ↔ kind = kind' ∧ s(a, b) = s(c, d) := by
  constructor
  · -- the transport and the unordered pair of ends can be read off a conversation again
    intro h
    have hkind := congrArg Conversation.transport h
    have hparties := congrArg parties h
    rw [transport_between, transport_between] at hkind
    rw [parties_between, parties_between] at hparties
    exact ⟨hkind, hparties⟩
  · rintro ⟨rfl, h⟩
    rcases Sym2.eq_iff.mp h with ⟨rfl, rfl⟩ | ⟨rfl, rfl⟩
    · rfl
    · exact between_comm kind a b

end Conversation

/-! ## Packets -/

/-- An endpoint as it is written in a packet with another one. -/
def Endpoint.beside (a b : Endpoint) : Endpoint :=
  match a.address, b.address with
  | .v4 _, .v4 _ => a
  | _, _ => { a with address := .v6 a.address.toV6 }

namespace Packet

theorem endpoints_of_parts {p : Packet} {ip : IpHeader} {segment : Segment} (hip : p.ip = some ip)
    (hsegment : p.segment = some segment) :
    p.endpoints = some (⟨ip.src, segment.srcPort⟩, ⟨ip.dst, segment.dstPort⟩) := by
  simp [endpoints, hip, hsegment]

theorem endpoints_between (a b : Endpoint) (protocol : UInt8) :
    (⟨(IpHeader.between a.address b.address protocol).src, a.port⟩ : Endpoint) = a.beside b ∧
      (⟨(IpHeader.between a.address b.address protocol).dst, b.port⟩ : Endpoint) = b.beside a := by
  obtain ⟨x, i⟩ := a
  obtain ⟨y, j⟩ := b
  cases x <;> cases y <;> exact ⟨rfl, rfl⟩

theorem endpoints_tcp (a b : Endpoint) (flags : ControlBits) (payload : Bytes) :
    (tcp a b flags payload).endpoints = some (a.beside b, b.beside a) := by
  obtain ⟨hsrc, hdst⟩ := endpoints_between a b IpNumber.tcp
  exact congrArg some (Prod.ext hsrc hdst)

theorem endpoints_udp (a b : Endpoint) (payload : Bytes) :
    (udp a b payload).endpoints = some (a.beside b, b.beside a) := by
  obtain ⟨hsrc, hdst⟩ := endpoints_between a b IpNumber.udp
  exact congrArg some (Prod.ext hsrc hdst)

end Packet

namespace Conversation

theorem ofPacket?_of_endpoints {p : Packet} {segment : Segment} {a b : Endpoint}
    (hsegment : p.segment = some segment) (hendpoints : p.endpoints = some (a, b)) :
    ofPacket? p = some (between segment.kind a b) := by
  simp [ofPacket?, hsegment, hendpoints]

/-- The packets of the two directions. -/
theorem ofPacket?_eq_of_swapped {p q : Packet} {segment segment' : Segment} {a b : Endpoint}
    (hp : p.segment = some segment) (hq : q.segment = some segment')
    (hkind : segment.kind = segment'.kind) (hthere : p.endpoints = some (a, b))
    (hback : q.endpoints = some (b, a)) : ofPacket? p = ofPacket? q := by
  rw [ofPacket?_of_endpoints hp hthere, ofPacket?_of_endpoints hq hback, hkind, between_comm]

/-- **Conversations are identified exactly.** Every packet with an IP header and ports has a
conversation. Two such packets have the same one if and only if they have the same transport and the
same endpoints, whichever of these is the source. In a packet that is made of two endpoints, these are
written side by side, and the packets that are made of them in the one order and in the other have the
same conversation. -/
theorem ofPacket?_eq_iff :
    (∀ (p q : Packet) (ip ip' : IpHeader) (segment segment' : Segment),
      p.ip = some ip → p.segment = some segment → q.ip = some ip' → q.segment = some segment' →
      (ofPacket? p).isSome = true ∧
      (ofPacket? p = ofPacket? q ↔ segment.kind = segment'.kind ∧
        s((⟨ip.src, segment.srcPort⟩ : Endpoint), ⟨ip.dst, segment.dstPort⟩) =
          s(⟨ip'.src, segment'.srcPort⟩, ⟨ip'.dst, segment'.dstPort⟩))) ∧
    ∀ (a b : Endpoint) (flags flags' : ControlBits) (payload payload' : Bytes),
      (Packet.tcp a b flags payload).endpoints = some (a.beside b, b.beside a) ∧
      (Packet.udp a b payload).endpoints = some (a.beside b, b.beside a) ∧
      ofPacket? (.tcp a b flags payload) = ofPacket? (.tcp b a flags' payload') ∧
      ofPacket? (.udp a b payload) = ofPacket? (.udp b a payload') := by
  refine ⟨?_, ?_⟩
  · intro p q ip ip' segment segment' hip hsegment hip' hsegment'
    rw [ofPacket?_of_endpoints hsegment (Packet.endpoints_of_parts hip hsegment),
      ofPacket?_of_endpoints hsegment' (Packet.endpoints_of_parts hip' hsegment'), Option.some_inj]
    exact ⟨rfl, between_eq_iff⟩
  · intro a b flags flags' payload payload'
    have htcp := Packet.endpoints_tcp a b flags payload
    have hudp := Packet.endpoints_udp a b payload
    refine ⟨htcp, hudp, ?_, ?_⟩
    · exact ofPacket?_eq_of_swapped rfl rfl rfl htcp (Packet.endpoints_tcp b a flags' payload')
    · exact ofPacket?_eq_of_swapped rfl rfl rfl hudp (Packet.endpoints_udp b a payload')

/-- A packet from an IPv4 address to an IPv6 address on the same port, and one back to the IPv6 address
that carries the first: one conversation, but not that of a packet over the other transport. -/
theorem ofPacket?_of_mixed_families :
    let a : Endpoint := ⟨.v4 0x0a000001#32, 443⟩
    let carried : Endpoint := ⟨.v6 0xffff0a000001#128, 443⟩
    let b : Endpoint := ⟨.v6 0x20010db8000000000000000000000001#128, 443⟩
    ofPacket? (.tcp a b .data []) = ofPacket? (.tcp b carried .none [1]) ∧
      ofPacket? (.tcp a b .data []) ≠ ofPacket? (.udp a b []) := by
  intro a carried b
  let there : Packet := .tcp a b .data []
  let back : Packet := .tcp b carried .none [1]
  let other : Packet := .udp a b []
  have hthere := ofPacket?_eq_iff.1 there
  refine ⟨?_, ?_⟩
  · exact (hthere back _ _ _ _ rfl rfl rfl rfl).2.mpr ⟨rfl, Sym2.eq_swap⟩
  · intro h
    have hkind := ((hthere other _ _ _ _ rfl rfl rfl rfl).2.mp h).1
    exact absurd hkind (by decide)

end Conversation

/-! ## Texts -/

open Text

theorem Transport.name_injective : Function.Injective Transport.name := by
  intro kind kind' h
  cases kind with
  | tcp =>
      cases kind' with
      | tcp => rfl
      | udp => exact absurd h (by decide)
  | udp =>
      cases kind' with
      | tcp => exact absurd h (by decide)
      | udp => rfl

theorem Transport.lacks_slash (kind : Transport) : Lacks '/' kind.name := by
  cases kind with
  | tcp => simp [Lacks, name]
  | udp => simp [Lacks, name]

namespace Conversation

/-- The text is cut behind the transport and between the endpoints. -/
theorem text_injective : Function.Injective Conversation.text := by
  intro p q h
  obtain ⟨kind, lower, upper⟩ := p
  obtain ⟨kind', lower', upper'⟩ := q
  have hparts : kind.name ++ "/" ++ (lower.text ++ "," ++ upper.text) =
      kind'.name ++ "/" ++ (lower'.text ++ "," ++ upper'.text) := by
    simpa only [text, String.append_assoc] using h
  obtain ⟨hkind, hendpoints⟩ :=
    append_inj_of_lacks (by simp) kind.lacks_slash kind'.lacks_slash hparts
  obtain ⟨hlower, hupper⟩ :=
    append_inj_of_lacks (by simp) lower.lacks_comma lower'.lacks_comma hendpoints
  rw [Transport.name_injective hkind, Endpoint.text_injective hlower, Endpoint.text_injective hupper]

/-- **Texts of conversations do not collide.** Two conversations have the same text only if they are the same
conversation, whatever the families of their addresses: the text says over which transport it is, and
between which two addresses and ports. -/
theorem text_between_eq_iff (kind kind' : Transport) (a b c d : Endpoint) :
    ((between kind a b).text = (between kind' c d).text ↔ between kind a b = between kind' c d) ∧
    ((between kind a b).text = (between kind' c d).text ↔ kind = kind' ∧ s(a, b) = s(c, d)) := by
  have htext : (between kind a b).text = (between kind' c d).text ↔
      between kind a b = between kind' c d := text_injective.eq_iff
  exact ⟨htext, htext.trans between_eq_iff⟩

/-- A group of zeros that stands alone is written, and a run of them is not. -/
example :
    (between .udp ⟨.v6 0x20010db8000000000001000000000001#128, 53⟩ ⟨.v6 0xffff0a000001#128, 53⟩).text =
      "udp/[::ffff:10.0.0.1]:53,[2001:db8::1:0:0:1]:53" := by cbv

end Conversation
end FlowScope
