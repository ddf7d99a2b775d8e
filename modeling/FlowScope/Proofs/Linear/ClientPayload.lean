import FlowScope.Linear.ClientPayload
import FlowScope.Proofs.Tracking.Conversation

/-!
# Who sends the client's payload

The payload that models are applied to is found by its port. Of a TCP conversation, the sender of the
first packet is the client, and `IsClientPayload same` says which payload is the client's, where `same`
tells whether a packet counts as sent by it: if it comes from the same port (`SamePort`), or from the
same endpoint.

The main statement is `client_payload_iff`: what is found is the client's payload by its port. The
ports of most conversations differ, and then a port stands for an endpoint. Where they do not, the
server's payload may be taken for the client's: `payload_of_server_is_found`.
-/

namespace FlowScope

/-! ## Searching from a position on -/

section Search

variable {α β : Type} {xs : List α} {start : Nat} {f : α → Option β}

/-- A search finds what the first item that gives anything gives, among those from a position on. -/
theorem findSome?_drop_eq_some_iff {b : β} :
    (xs.drop start).findSome? f = some b ↔
      ∃ i x, start ≤ i ∧ xs[i]? = some x ∧ f x = some b ∧
        ∀ j y, start ≤ j → j < i → xs[j]? = some y → f y = none := by
  rw [List.findSome?_eq_some_iff]
  constructor
  · rintro ⟨before, x, later, hxs, hx, hbefore⟩
    have hget : ∀ k, xs[start + k]? = (before ++ x :: later)[k]? := by
      intro k
      rw [← hxs, List.getElem?_drop]
    refine ⟨start + before.length, x, Nat.le_add_right .., ?_, hx, ?_⟩
    · rw [hget, List.getElem?_append_right (Nat.le_refl _), Nat.sub_self]
      rfl
    · intro j y hj hlt hy
      obtain ⟨k, rfl⟩ := Nat.exists_eq_add_of_le hj
      rw [hget, List.getElem?_append_left (by omega)] at hy
      exact hbefore y (List.mem_of_getElem? hy)
  · rintro ⟨i, x, hi, hx, hfx, hbefore⟩
    obtain ⟨k, rfl⟩ := Nat.exists_eq_add_of_le hi
    rw [← List.getElem?_drop] at hx
    obtain ⟨hk, hxk⟩ := List.getElem?_eq_some_iff.mp hx
    refine ⟨(xs.drop start).take k, x, (xs.drop start).drop (k + 1), ?_, hfx, ?_⟩
    · rw [← hxk, List.cons_getElem_drop_succ, List.take_append_drop]
    · intro y hy
      obtain ⟨j, hj, rfl⟩ := List.mem_take_iff_getElem.mp hy
      refine hbefore (start + j) _ (Nat.le_add_right ..) (by omega) ?_
      rw [← List.getElem?_drop, List.getElem?_eq_getElem]

end Search

/-! ## Senders -/

/-- The endpoint that a packet was sent from. -/
def Packet.source? (p : Packet) : Option Endpoint := p.endpoints.map Prod.fst

/-- The payload of a packet's segment; empty if there is none. -/
def Packet.payload (p : Packet) : Bytes := (p.segment.map Segment.payload).getD []

namespace Conversation

/-- What is known of a packet of a conversation. -/
theorem exists_of_ofPacket? {p : Packet} {c : Conversation} (h : ofPacket? p = some c) :
    ∃ segment source, p.segment = some segment ∧ segment.kind = c.transport ∧
      p.payload = segment.payload ∧ p.source? = some source ∧ source.port = segment.srcPort ∧
      source ∈ c.parties := by
  obtain ⟨capture, frame, ip, segment⟩ := p
  cases segment with
  | none => cases h
  | some segment =>
      cases ip with
      | none => cases h
      | some ip =>
          cases h
          refine ⟨segment, _, rfl, transport_between.symm, rfl, rfl, rfl, ?_⟩
          rw [parties_between]
          exact Sym2.mem_mk_left _ _

/-- Where the ports of a conversation differ, a port stands for an endpoint. -/
theorem eq_of_port_eq {c : Conversation} (hports : c.lower.port ≠ c.upper.port) {a b : Endpoint}
    (ha : a ∈ c.parties) (hb : b ∈ c.parties) (h : a.port = b.port) : a = b := by
  rcases Sym2.mem_iff.mp ha with rfl | rfl
  · rcases Sym2.mem_iff.mp hb with rfl | rfl
    · rfl
    · exact absurd h hports
  · rcases Sym2.mem_iff.mp hb with rfl | rfl
    · exact absurd h.symm hports
    · rfl

end Conversation

/-- A connection is opened by a segment with SYN set and ACK clear. -/
theorem ControlBits.opensConnection_iff {flags : ControlBits} :
    flags.opensConnection = true ↔ flags.bits &&& syn ≠ 0 ∧ flags.bits &&& ack = 0 := by
  obtain ⟨⟨bits⟩⟩ := flags
  revert bits
  decide

namespace ClientPayload

/-- The endpoints have one port. -/
def SamePort (a b : Endpoint) : Prop := a.port = b.port

/-- The packet has a payload, and was sent by the client. -/
def IsSent (same : Endpoint → Endpoint → Prop) (client : Endpoint) (p : Packet) : Prop :=
  (∃ source, p.source? = some source ∧ same source client) ∧ p.payload ≠ []

/-- The conversation is seen from its start and goes on after the handshake, and from there on the
payload is that of the first packet which has one and was sent by the client. -/
def IsClientPayload (same : Endpoint → Endpoint → Prop) (packets : List Packet)
    (payload : Bytes) : Prop :=
  ∃ opening request client, packets.head? = some opening ∧ opening.segment = some request ∧
    opening.source? = some client ∧
    request.flags.bits &&& ControlBits.syn ≠ 0 ∧ request.flags.bits &&& ControlBits.ack = 0 ∧
    4 ≤ packets.length ∧
    ∃ i p, 3 ≤ i ∧ packets[i]? = some p ∧ IsSent same client p ∧ p.payload = payload ∧
      ∀ j q, 3 ≤ j → j < i → packets[j]? = some q → ¬ IsSent same client q

/-! ## One packet -/

/-- What a packet gives to the search for a payload from a port. -/
def sentFrom? (port : UInt16) (p : Packet) : Option ClientPayload :=
  ((p.segmentOf .tcp).filter fun s => decide (s.srcPort = port) && !s.payload.isEmpty).map
    fun s => ⟨.tcp, s.payload⟩

variable {c : Conversation} {p : Packet}

theorem isSent_samePort_iff (hp : Conversation.ofPacket? p = some c) {segment : Segment}
    (hsegment : p.segment = some segment) (client : Endpoint) :
    IsSent SamePort client p ↔ segment.srcPort = client.port ∧ segment.payload ≠ [] := by
  obtain ⟨segment', source, hsegment', -, hpayload, hsource, hport, -⟩ :=
    Conversation.exists_of_ofPacket? hp
  obtain rfl : segment' = segment := Option.some.inj (hsegment'.symm.trans hsegment)
  rw [IsSent, hsource, hpayload, ← hport]
  apply and_congr_left'
  constructor
  · rintro ⟨_, ⟨⟩, hsame⟩
    exact hsame
  · intro hsame
    exact ⟨source, rfl, hsame⟩

theorem sentFrom?_eq_some_iff (hp : Conversation.ofPacket? p = some c) (htcp : c.transport = .tcp)
    (client : Endpoint) (answer : ClientPayload) :
    sentFrom? client.port p = some answer ↔
      IsSent SamePort client p ∧ answer = ⟨.tcp, p.payload⟩ := by
  obtain ⟨segment, source, hsegment, hkind, hpayload, -⟩ := Conversation.exists_of_ofPacket? hp
  have hof : p.segmentOf .tcp = some segment := by
    rw [Packet.segmentOf, hsegment, Option.filter_some, hkind, htcp]
    rfl
  have htest : (decide (segment.srcPort = client.port) && !segment.payload.isEmpty) = true ↔
      segment.srcPort = client.port ∧ segment.payload ≠ [] := by simp
  -- the two sides now differ only in how the test is written
  rw [isSent_samePort_iff hp hsegment, ← htest, sentFrom?, hof, hpayload, Option.filter_some]
  split
  next h => rw [Option.map_some, Option.some_inj, eq_comm, and_iff_right h]
  next h => exact iff_of_false (by simp) fun hsent => h hsent.1

theorem sentFrom?_eq_none_iff (hp : Conversation.ofPacket? p = some c) (htcp : c.transport = .tcp)
    (client : Endpoint) : sentFrom? client.port p = none ↔ ¬ IsSent SamePort client p := by
  have hsome := sentFrom?_eq_some_iff hp htcp client
  cases hsent : sentFrom? client.port p with
  | none =>
      refine iff_of_true rfl fun h => ?_
      have hanswer := (hsome _).mpr ⟨h, rfl⟩
      rw [hsent] at hanswer
      cases hanswer
  | some answer =>
      have h := ((hsome answer).mp hsent).1
      exact iff_of_false (by simp) (not_not_intro h)

/-! ## The payload that is found -/

variable {packets : List Packet}

/-- The payload that is found is asked for among the packets after the handshake. -/
theorem ofPackets?_of_tcp (hc : ∀ p ∈ packets, Conversation.ofPacket? p = some c)
    (htcp : c.transport = .tcp) (answer : ClientPayload) :
    ofPackets? packets = some answer ↔
      ∃ opening request client, packets.head? = some opening ∧ opening.segment = some request ∧
        opening.source? = some client ∧ request.flags.opensConnection = true ∧
        handshake < packets.length ∧
        (packets.drop handshake).findSome? (sentFrom? client.port) = some answer := by
  cases packets with
  | nil => simp [ofPackets?]
  | cons opening later =>
      obtain ⟨request, client, hrequest, hkind, -, hsource, hport, -⟩ :=
        Conversation.exists_of_ofPacket? (hc opening (List.mem_cons_self ..))
      -- the first packet has a segment and a sender, since it belongs to a conversation
      have hfirst : ofPackets? (opening :: later) =
          if request.flags.opensConnection && handshake < (opening :: later).length then
            ((opening :: later).drop handshake).findSome? (sentFrom? client.port)
          else none := by
        rw [hport]
        simp only [ofPackets?, List.head?_cons, Option.bind_eq_bind, Option.bind_some, hrequest, hkind,
          htcp]
        rfl
      rw [hfirst, List.head?_cons]
      constructor
      · intro h
        split at h
        next hopen =>
            rw [Bool.and_eq_true, decide_eq_true_eq] at hopen
            exact ⟨opening, request, client, rfl, hrequest, hsource, hopen.1, hopen.2, h⟩
        next => cases h
      · rintro ⟨_, request', client', ⟨⟩, hrequest', hsource', hopen, hlong, h⟩
        rw [hrequest] at hrequest'
        cases hrequest'
        rw [hsource] at hsource'
        cases hsource'
        rw [if_pos (by rw [hopen, decide_eq_true hlong]; rfl)]
        exact h

/-- A payload is the client's by its port if the search finds it. -/
theorem ofPackets?_iff (hc : ∀ p ∈ packets, Conversation.ofPacket? p = some c)
    (htcp : c.transport = .tcp) (answer : ClientPayload) :
    ofPackets? packets = some answer ↔
      answer.transport = .tcp ∧ IsClientPayload SamePort packets answer.payload := by
  have hget : ∀ {i p}, packets[i]? = some p → Conversation.ofPacket? p = some c :=
    fun hp => hc _ (List.mem_of_getElem? hp)
  rw [ofPackets?_of_tcp hc htcp]
  constructor
  · rintro ⟨opening, request, client, hopening, hrequest, hsource, hopen, hlong, hfound⟩
    obtain ⟨hsyn, hack⟩ := ControlBits.opensConnection_iff.mp hopen
    -- the search finds the first packet behind the handshake that the client sent
    obtain ⟨i, p, hi, hp, hanswer, hbefore⟩ := findSome?_drop_eq_some_iff.mp hfound
    obtain ⟨hsent, rfl⟩ := (sentFrom?_eq_some_iff (hget hp) htcp client answer).mp hanswer
    refine ⟨rfl, opening, request, client, hopening, hrequest, hsource, hsyn, hack, hlong, i, p, hi, hp,
      hsent, rfl, ?_⟩
    intro j q hj hlt hq
    apply (sentFrom?_eq_none_iff (hget hq) htcp client).mp
    exact hbefore j q hj hlt hq
  · rintro ⟨htransport, opening, request, client, hopening, hrequest, hsource, hsyn, hack, hlong, i, p,
      hi, hp, hsent, hpayload, hbefore⟩
    refine ⟨opening, request, client, hopening, hrequest, hsource,
      ControlBits.opensConnection_iff.mpr ⟨hsyn, hack⟩, hlong, ?_⟩
    apply findSome?_drop_eq_some_iff.mpr
    refine ⟨i, p, hi, hp, ?_, ?_⟩
    · apply (sentFrom?_eq_some_iff (hget hp) htcp client answer).mpr
      refine ⟨hsent, ?_⟩
      rw [hpayload, ← htransport]
    · intro j q hj hlt hq
      apply (sentFrom?_eq_none_iff (hget hq) htcp client).mpr
      exact hbefore j q hj hlt hq

/-! ## Ports and endpoints -/

/-- Where the ports of the conversation differ, who has the client's port is the client. -/
theorem isSent_samePort_iff_isSent_eq (hp : Conversation.ofPacket? p = some c)
    (hports : c.lower.port ≠ c.upper.port) {client : Endpoint} (hclient : client ∈ c.parties) :
    IsSent SamePort client p ↔ IsSent Eq client p := by
  obtain ⟨_, source, -, -, -, hsource, -, hparty⟩ := Conversation.exists_of_ofPacket? hp
  have hsame : SamePort source client ↔ source = client :=
    ⟨Conversation.eq_of_port_eq hports hparty hclient, congrArg Endpoint.port⟩
  simp only [IsSent, hsource, Option.some.injEq, exists_eq_left', hsame]

/-- Which payload is the client's depends only on which packets count as sent by it. -/
theorem IsClientPayload.congr {same same' : Endpoint → Endpoint → Prop} {payload : Bytes}
    (hsent : ∀ opening client, packets.head? = some opening → opening.source? = some client →
      ∀ p ∈ packets, IsSent same client p ↔ IsSent same' client p)
    (h : IsClientPayload same packets payload) : IsClientPayload same' packets payload := by
  obtain ⟨opening, request, client, hopening, hrequest, hsource, hsyn, hack, hlong, i, p, hi, hp, hthis,
    hpayload, hbefore⟩ := h
  have hiff := hsent opening client hopening hsource
  refine ⟨opening, request, client, hopening, hrequest, hsource, hsyn, hack, hlong, i, p, hi, hp, ?_,
    hpayload, ?_⟩
  · exact (hiff p (List.mem_of_getElem? hp)).mp hthis
  · intro j q hj hlt hq hother
    apply hbefore j q hj hlt hq
    exact (hiff q (List.mem_of_getElem? hq)).mpr hother

theorem isClientPayload_samePort_iff (hc : ∀ p ∈ packets, Conversation.ofPacket? p = some c)
    (hports : c.lower.port ≠ c.upper.port) (payload : Bytes) :
    IsClientPayload SamePort packets payload ↔ IsClientPayload Eq packets payload := by
  -- the ports tell the ends apart, so the port of the client names the client
  have hsent : ∀ opening client, packets.head? = some opening → opening.source? = some client →
      ∀ p ∈ packets, IsSent SamePort client p ↔ IsSent Eq client p := by
    intro opening client hopening hsource p hp
    obtain ⟨_, source, -, -, -, hsource', -, hparty⟩ :=
      Conversation.exists_of_ofPacket? (hc opening (List.mem_of_head? hopening))
    obtain rfl : source = client := Option.some.inj (hsource'.symm.trans hsource)
    exact isSent_samePort_iff_isSent_eq (hc p hp) hports hparty
  constructor
  · exact IsClientPayload.congr hsent
  · apply IsClientPayload.congr
    intro opening client hopening hsource p hp
    exact (hsent opening client hopening hsource p hp).symm

/-- **The payload that is found is the client's, by its port.** Of packets that share a TCP
conversation, the payload to apply a model to is there exactly if the first packet is a connection
request, there are at least four packets, and one of those from the fourth on has a payload and was sent
from the port of the first packet; it is the payload of the first one that was. Where the two ports of
the conversation differ, this is the first payload that was sent by the endpoint which sent the first
packet, and so the server never sent it. -/
theorem client_payload_iff {c : Conversation} (htcp : c.transport = .tcp) {packets : List Packet}
    (hc : ∀ p ∈ packets, Conversation.ofPacket? p = some c) :
    (∀ answer, ofPackets? packets = some answer ↔
      answer.transport = .tcp ∧ IsClientPayload SamePort packets answer.payload) ∧
    (ofPackets? packets = none ↔ ∀ payload, ¬ IsClientPayload SamePort packets payload) ∧
    (c.lower.port ≠ c.upper.port → ∀ answer, ofPackets? packets = some answer ↔
      answer.transport = .tcp ∧ IsClientPayload Eq packets answer.payload) := by
  have hiff := ofPackets?_iff hc htcp
  refine ⟨hiff, ?_, ?_⟩
  · rw [Option.eq_none_iff_forall_not_mem]
    constructor
    · intro hnone payload hpayload
      exact hnone ⟨.tcp, payload⟩ ((hiff ⟨.tcp, payload⟩).mpr ⟨rfl, hpayload⟩)
    · intro hnone answer hanswer
      exact hnone answer.payload ((hiff answer).mp hanswer).2
  · intro hports answer
    rw [hiff, isClientPayload_samePort_iff hc hports]

/-- A connection is opened, the server sends a greeting and then the client a request. -/
def greeted (client server : Endpoint) (greeting request : Bytes) : List Packet :=
  [.tcp client server ⟨ControlBits.syn⟩ [], .tcp server client ⟨ControlBits.syn ||| ControlBits.ack⟩ [],
    .tcp client server ⟨ControlBits.ack⟩ [], .tcp server client .data greeting,
    .tcp client server .data request]

/-- The request is found, not the greeting before it. -/
theorem client_payload_iff_of_greeted :
    let client : Endpoint := ⟨.v4 0x0a000001#32, 50000⟩
    let server : Endpoint := ⟨.v4 0x0a000002#32, 80⟩
    let greeting := Bytes.ofAscii "ready"
    let request := Bytes.ofAscii "hello"
    let packets := greeted client server greeting request
    let c := Conversation.between .tcp client server
    (∀ p ∈ packets, Conversation.ofPacket? p = some c) ∧ c.lower.port ≠ c.upper.port ∧
      ofPackets? packets = some ⟨.tcp, request⟩ ∧ IsClientPayload Eq packets request := by
  intro client server greeting request packets c
  have hc : ∀ p ∈ packets, Conversation.ofPacket? p = some c := by decide
  have hports : c.lower.port ≠ c.upper.port := by decide
  have hfound : ofPackets? packets = some ⟨.tcp, request⟩ := by decide
  have htcp : c.transport = .tcp := Conversation.transport_between
  obtain ⟨-, -, hends⟩ := client_payload_iff htcp hc
  have hrequest := (hends hports ⟨.tcp, request⟩).mp hfound
  exact ⟨hc, hports, hfound, hrequest.2⟩

/-- Between two equal ports, the greeting is found, which was sent by the server. -/
theorem payload_of_server_is_found :
    let client : Endpoint := ⟨.v4 0x0a000001#32, 5000⟩
    let server : Endpoint := ⟨.v4 0x0a000002#32, 5000⟩
    let greeting := Bytes.ofAscii "server"
    let packets := greeted client server greeting (Bytes.ofAscii "client")
    let c := Conversation.between .tcp client server
    (∀ p ∈ packets, Conversation.ofPacket? p = some c) ∧
      ofPackets? packets = some ⟨.tcp, greeting⟩ ∧ ¬ IsClientPayload Eq packets greeting := by
  intro client server greeting packets c
  refine ⟨by decide, by decide, ?_⟩
  rintro ⟨opening, request, source, hopening, -, hsource, -, -, -, i, p, hi, hp, hsent, hpayload, -⟩
  cases hopening
  cases hsource
  obtain ⟨⟨sender, hsender, rfl⟩, -⟩ := hsent
  match i, hi, hp with
  | 3, _, hp =>
      cases hp
      exact absurd hsender (by decide)
  | 4, _, hp =>
      cases hp
      exact absurd hpayload (by decide)

end ClientPayload
end FlowScope
