import CandyRuntime.PacketPort.Frame

/-!
# A port receives what its peer has sent

The header determines the binding and the direction of the sender. So a port takes exactly the
datagrams that a port of the other role with the same binding has sent, each with its own packet and in
order, among datagrams of stale or foreign bindings and whatever else arrives.
-/

namespace CandyRuntime.PacketPort

open Lib NetdProto Tunio

namespace UnixPacketPort

variable {port sender : UnixPacketPort} {packet : Bytes} {datagram : Datagram}

/-- The port at the other end. -/
def peer (port : UnixPacketPort) : UnixPacketPort := { port with role := port.role.other }

/-! ## Headers -/

@[simp] theorem length_headerPrefix (port : UnixPacketPort) (direction : UInt8) :
    (port.headerPrefix direction).length = 72 := by
  simp [headerPrefix]

theorem take_outgoing (port : UnixPacketPort) :
    port.outgoing.take 72 = port.headerPrefix port.role.outgoingDirection :=
  List.take_left' (port.length_headerPrefix _)

theorem incoming_eq (port : UnixPacketPort) :
    port.incoming = port.headerPrefix port.role.other.outgoingDirection := by
  unfold incoming
  rw [take_outgoing]
  cases port.role with
  | infrastructure => rfl
  | worker => rfl

theorem outgoingDirection_injective : Function.Injective PacketPortRole.outgoingDirection := by
  intro role role' h
  revert h
  cases role <;> cases role' <;> decide

/-- The header names the direction and the binding. -/
theorem headerPrefix_inj {direction direction' : UInt8}
    (h : sender.headerPrefix direction = port.headerPrefix direction') :
    direction = direction' ∧ sender.binding = port.binding := by
  obtain ⟨hfirst, h⟩ := List.append_inj h rfl
  obtain ⟨hinfra, h⟩ := List.append_inj h (by simp)
  obtain ⟨hdomain, h⟩ := List.append_inj h (by simp)
  obtain ⟨hgeneration, h⟩ :=
    toBE_append_inj sender.wide.infrastructureGeneration port.wide.infrastructureGeneration h
  obtain ⟨hio, h⟩ := toBE_append_inj sender.wide.ioEpoch port.wide.ioEpoch h
  obtain ⟨howner, h⟩ := toBE_append_inj sender.wide.ownerEpoch port.wide.ownerEpoch h
  have hpolicy := toBE_inj sender.wide.policyGeneration port.wide.policyGeneration h
  refine ⟨?_, ?_⟩
  · exact (List.cons.inj (List.cons.inj (List.cons.inj (List.cons.inj (List.cons.inj
      (List.cons.inj hfirst).2).2).2).2).2).1
  · have hinfra := Vector.toList_inj.mp hinfra
    have hdomain := Vector.toList_inj.mp hdomain
    revert hinfra hdomain hgeneration hio howner hpolicy
    generalize sender.binding = binding
    generalize port.binding = binding'
    intro hinfra hdomain hgeneration hio howner hpolicy
    cases binding
    cases binding'
    simp_all

/-! ## Datagrams -/

theorem encode_eq_ok : port.encode packet = .ok datagram ↔
    packet ≠ [] ∧ packet.length ≤ maxPacketBytes ∧ datagram.control = false
      ∧ datagram.bytes = port.headerPrefix port.role.outgoingDirection
        ++ (toBE 4 packet.length ++ packet) := by
  unfold encode encodeHeader
  by_cases hsize : packet = [] ∨ maxPacketBytes < packet.length
  · rw [if_pos hsize]
    constructor
    · intro h
      cases h
    · intro h
      rcases hsize with hempty | hlong
      · exact absurd hempty h.1
      · exact absurd h.2.1 (Nat.not_le.mpr hlong)
  · rw [if_neg hsize, take_outgoing]
    rw [not_or, Nat.not_lt] at hsize
    obtain ⟨bytes, control⟩ := datagram
    constructor
    · intro h
      obtain ⟨hbytes, hcontrol⟩ := Datagram.mk.inj (Except.ok.inj h)
      exact ⟨hsize.1, hsize.2, hcontrol.symm, hbytes.symm.trans (List.append_assoc _ _ _)⟩
    · rintro ⟨_, _, rfl, rfl⟩
      rw [← List.append_assoc]
      rfl

/-- A datagram is taken with these buffers. -/
def takes (port : UnixPacketPort) (buffers : Buffers) (datagram : Datagram) : Bool :=
  !(decide (headerBytes + (maxPacketBytes + 1) < datagram.bytes.length) || datagram.control)
    && port.matchesBinding (buffers.fill datagram.bytes).header
      (min datagram.bytes.length (headerBytes + (maxPacketBytes + 1)))

/-- What an earlier datagram has left in the buffers does not matter. -/
theorem takes_iff (port : UnixPacketPort) (buffers : Buffers) (datagram : Datagram) :
    port.takes buffers datagram = true ↔ datagram.control = false
      ∧ headerBytes < datagram.bytes.length ∧ datagram.bytes.length ≤ headerBytes + maxPacketBytes
      ∧ datagram.bytes.take 72 = port.incoming
      ∧ (datagram.bytes.drop 72).take 4 = toBE 4 (datagram.bytes.length - headerBytes) := by
  obtain ⟨bytes, control⟩ := datagram
  unfold takes matchesBinding headerBytes maxPacketBytes
  simp only [Bool.and_eq_true, Bool.not_eq_true', Bool.or_eq_false_iff, decide_eq_false_iff_not,
    decide_eq_true_eq]
  by_cases hlength : 76 < bytes.length ∧ bytes.length ≤ 76 + 1400
  · have hmin : min bytes.length (76 + (1400 + 1)) = bytes.length := by omega
    have hheader : (buffers.fill bytes).header.take 76 = bytes.take 76 :=
      List.take_left' (by rw [List.length_take]; unfold headerBytes; omega)
    have htake : (buffers.fill bytes).header.take 72 = bytes.take 72 := by
      have h := congrArg (List.take 72) hheader
      rwa [List.take_take, List.take_take] at h
    have hdrop : ((buffers.fill bytes).header.drop 72).take 4 = (bytes.drop 72).take 4 := by
      have h := congrArg (List.drop 72) hheader
      rwa [List.drop_take, List.drop_take] at h
    rw [hmin, htake, hdrop]
    constructor
    · intro h
      exact ⟨h.1.2, hlength.1, hlength.2, h.2.1.2, h.2.2⟩
    · intro h
      exact ⟨⟨by omega, h.1⟩, ⟨⟨h.2.1, h.2.2.1⟩, h.2.2.2.1⟩, h.2.2.2.2⟩
  · refine iff_of_false (fun h => hlength ?_) fun h => hlength ⟨h.2.1, h.2.2.1⟩
    obtain ⟨⟨hshort, _⟩, ⟨⟨hlt, hle⟩, _⟩, _⟩ := h
    omega

/-- A datagram is taken exactly when the peer can have sent it, with what is behind its header. -/
theorem takes_iff_encode (buffers : Buffers) : port.takes buffers datagram = true
    ↔ port.peer.encode (datagram.bytes.drop headerBytes) = .ok datagram := by
  rw [takes_iff, encode_eq_ok, incoming_eq]
  have hlength : (datagram.bytes.drop headerBytes).length = datagram.bytes.length - headerBytes :=
    List.length_drop ..
  show _ ↔ _ ∧ _ ∧ _ ∧ datagram.bytes = port.headerPrefix port.role.other.outgoingDirection ++ _
  constructor
  · intro h
    obtain ⟨hcontrol, hlt, hle, htake, hsize⟩ := h
    refine ⟨fun hempty => ?_, by omega, hcontrol, ?_⟩
    · rw [hempty, List.length_nil] at hlength
      omega
    · calc datagram.bytes = datagram.bytes.take 72 ++ datagram.bytes.drop 72 :=
          (List.take_append_drop 72 datagram.bytes).symm
        _ = datagram.bytes.take 72
            ++ ((datagram.bytes.drop 72).take 4 ++ (datagram.bytes.drop 72).drop 4) := by
          rw [List.take_append_drop 4]
        _ = _ := by rw [htake, hsize, hlength, List.drop_drop]; rfl
  · intro h
    obtain ⟨hne, hle, hcontrol, hdatagram⟩ := h
    have hpos : 0 < (datagram.bytes.drop headerBytes).length := List.length_pos_iff.mpr hne
    refine ⟨hcontrol, by omega, by omega, ?_, ?_⟩
    · rw [hdatagram]
      exact List.take_left' (port.length_headerPrefix _)
    · rw [hdatagram, List.drop_left' (port.length_headerPrefix _),
        List.take_left' (length_toBE 4 _), ← hdatagram, hlength]

theorem drop_encode (h : sender.encode packet = .ok datagram) :
    datagram.bytes.drop headerBytes = packet := by
  obtain ⟨_, _, _, hbytes⟩ := encode_eq_ok.mp h
  rw [hbytes, ← List.append_assoc]
  exact List.drop_left' (by rw [List.length_append, length_headerPrefix, length_toBE]; rfl)

/-- The header gives the sender away. -/
theorem takes_encode (h : sender.encode packet = .ok datagram) (buffers : Buffers) :
    port.takes buffers datagram = true
      ↔ sender.binding = port.binding ∧ sender.role = port.role.other := by
  rw [takes_iff_encode, drop_encode h]
  obtain ⟨hne, hle, hcontrol, hdatagram⟩ := encode_eq_ok.mp h
  rw [encode_eq_ok]
  constructor
  · intro hpeer
    have htake := (List.append_inj (hdatagram.symm.trans hpeer.2.2.2)
      (by rw [length_headerPrefix, length_headerPrefix])).1
    obtain ⟨hdirection, hbinding⟩ := headerPrefix_inj htake
    exact ⟨hbinding, outgoingDirection_injective hdirection⟩
  · intro hsame
    refine ⟨hne, hle, hcontrol, hdatagram.trans ?_⟩
    unfold headerPrefix
    rw [hsame.1, hsame.2]
    rfl

/-! ## Receiving -/

/-- The packet that is returned with a datagram that is taken. -/
theorem packet_of_takes {buffers : Buffers} (h : port.takes buffers datagram = true) :
    (buffers.fill datagram.bytes).packet.take
        (min datagram.bytes.length (headerBytes + (maxPacketBytes + 1)) - headerBytes)
      = datagram.bytes.drop headerBytes := by
  obtain ⟨_, hlt, hle, _⟩ := (port.takes_iff buffers datagram).mp h
  have hmin : min datagram.bytes.length (headerBytes + (maxPacketBytes + 1))
      = datagram.bytes.length := by omega
  have hlength : (datagram.bytes.drop headerBytes).length = datagram.bytes.length - headerBytes :=
    List.length_drop ..
  have hfits : (datagram.bytes.drop headerBytes).take (maxPacketBytes + 1)
      = datagram.bytes.drop headerBytes :=
    List.take_of_length_le (by omega)
  unfold Buffers.fill
  rw [hmin, hfits]
  exact List.take_left' hlength

theorem recvLoop_cons (buffers : Buffers) (rejected : ℕ) (datagram : Datagram)
    (rest : List Datagram) :
    port.recvLoop buffers rejected (datagram :: rest)
      = if port.takes buffers datagram then ⟨some (datagram.bytes.drop headerBytes), rejected, rest⟩
        else port.recvLoop (buffers.fill datagram.bytes) (rejected + 1) rest := by
  by_cases htakes : port.takes buffers datagram = true
  · rw [if_pos htakes, ← packet_of_takes htakes]
    exact if_pos htakes
  · rw [if_neg htakes]
    exact if_neg htakes

/-- Whether the peer can have sent a datagram. -/
def fromPeer (port : UnixPacketPort) (datagram : Datagram) : Bool :=
  port.takes .empty datagram

theorem takes_eq (buffers : Buffers) (datagram : Datagram) :
    port.takes buffers datagram = port.fromPeer datagram := by
  rw [Bool.eq_iff_iff]
  exact (takes_iff_encode buffers).trans (takes_iff_encode .empty).symm

/-- A call that waits has rejected all datagrams. -/
theorem recvLoop_none {buffers : Buffers} {rejected : ℕ} {datagrams : List Datagram}
    (h : (port.recvLoop buffers rejected datagrams).packet = none) :
    datagrams.filter port.fromPeer = []
      ∧ (port.recvLoop buffers rejected datagrams).rejectedPackets
        = rejected + datagrams.countP (!port.fromPeer ·) := by
  induction datagrams generalizing buffers rejected with
  | nil => exact ⟨rfl, rfl⟩
  | cons datagram rest ih =>
    rw [recvLoop_cons, takes_eq] at h ⊢
    by_cases htakes : port.fromPeer datagram = true
    · rw [if_pos htakes] at h
      cases h
    · rw [if_neg htakes] at h ⊢
      obtain ⟨hnone, hrejected⟩ := ih h
      rw [Bool.not_eq_true] at htakes
      refine ⟨by rw [List.filter_cons_of_neg (by rw [htakes]; decide), hnone], ?_⟩
      rw [hrejected, List.countP_cons_of_pos (by rw [htakes]; rfl)]
      omega

/-- A call that returns has rejected the datagrams before the first one of the peer. -/
theorem recvLoop_some {buffers : Buffers} {rejected : ℕ} {datagrams : List Datagram} {packet : Bytes}
    (h : (port.recvLoop buffers rejected datagrams).packet = some packet) :
    ∃ datagram rest, (port.recvLoop buffers rejected datagrams).rest = rest
      ∧ packet = datagram.bytes.drop headerBytes ∧ rest.length < datagrams.length
      ∧ datagrams.filter port.fromPeer = datagram :: rest.filter port.fromPeer
      ∧ (port.recvLoop buffers rejected datagrams).rejectedPackets
          + rest.countP (!port.fromPeer ·)
        = rejected + datagrams.countP (!port.fromPeer ·) := by
  induction datagrams generalizing buffers rejected with
  | nil => cases h
  | cons datagram rest ih =>
    rw [recvLoop_cons, takes_eq] at h ⊢
    by_cases htakes : port.fromPeer datagram = true
    · rw [if_pos htakes] at h ⊢
      refine ⟨datagram, rest, rfl, (Option.some.inj h).symm, Nat.lt_succ_self _,
        List.filter_cons_of_pos htakes, ?_⟩
      rw [List.countP_cons_of_neg (by rw [htakes]; decide)]
    · rw [if_neg htakes] at h ⊢
      obtain ⟨taken, later, hrest, hpacket, hlength, hfilter, hcount⟩ := ih h
      rw [Bool.not_eq_true] at htakes
      refine ⟨taken, later, hrest, hpacket, hlength.trans (Nat.lt_succ_self _), ?_, ?_⟩
      · rw [List.filter_cons_of_neg (by rw [htakes]; decide), hfilter]
      · rw [hcount, List.countP_cons_of_pos (by rw [htakes]; rfl)]
        omega

theorem receiveAll_go (calls rejected : ℕ) (datagrams : List Datagram) (h : datagrams.length ≤ calls) :
    receiveAll.go port calls rejected datagrams
      = ((datagrams.filter port.fromPeer).map (·.bytes.drop headerBytes),
        rejected + datagrams.countP (!port.fromPeer ·)) := by
  induction calls generalizing rejected datagrams with
  | zero =>
    obtain rfl : datagrams = [] := List.length_eq_zero_iff.mp (Nat.le_zero.mp h)
    rfl
  | succ calls ih =>
    unfold receiveAll.go
    dsimp only
    cases hpacket : (port.recvPacket rejected datagrams).packet with
    | none =>
      obtain ⟨hfilter, hrejected⟩ := recvLoop_none hpacket
      rw [hfilter]
      exact congrArg (Prod.mk []) hrejected
    | some packet =>
      obtain ⟨datagram, rest, hrest, rfl, hlength, hfilter, hrejected⟩ := recvLoop_some hpacket
      dsimp only
      rw [show (port.recvPacket rejected datagrams).rest = rest from hrest, ih _ rest (by omega),
        hfilter]
      exact congrArg (Prod.mk _) hrejected

/-- Whatever arrives, a port returns the packets of the datagrams that its peer can have sent, in order,
and counts the others as rejected. -/
theorem receives (port : UnixPacketPort) (rejected : ℕ) (datagrams : List Datagram) :
    List.Forall₂ (fun packet datagram => port.peer.encode packet = .ok datagram)
        (port.receiveAll rejected datagrams).1 (datagrams.filter port.fromPeer)
      ∧ (port.receiveAll rejected datagrams).2
        = rejected + (datagrams.filter (!port.fromPeer ·)).length
      ∧ ∀ datagram, port.fromPeer datagram = true
        ↔ ∃ packet, port.peer.encode packet = .ok datagram := by
  rw [receiveAll, receiveAll_go _ _ _ le_rfl]
  refine ⟨?_, by rw [List.countP_eq_length_filter], fun datagram => ⟨fun h => ?_, fun h => ?_⟩⟩
  · rw [List.forall₂_map_left_iff]
    exact List.forall₂_same.mpr fun datagram hmem =>
      (takes_iff_encode .empty).mp (List.mem_filter.mp hmem).2
  · exact ⟨_, (takes_iff_encode .empty).mp h⟩
  · obtain ⟨packet, hpacket⟩ := h
    show port.takes .empty datagram = true
    exact (takes_encode hpacket .empty).mpr ⟨rfl, rfl⟩

/-- Whether the sender is at the other end: its binding is the same and its role is not. -/
def isPeer (port sender : UnixPacketPort) : Bool :=
  decide (sender.binding = port.binding ∧ sender.role = port.role.other)

/-- Of the packets that ports have sent, a port returns those of its peer, whole, in order and each
once. Senders of another binding, stale generations and epochs among them, and of its own role are
rejected. -/
theorem delivers (port : UnixPacketPort) (rejected : ℕ) (sent : List (UnixPacketPort × Bytes))
    (datagrams : List Datagram)
    (h : List.Forall₂ (fun packet datagram => packet.1.encode packet.2 = .ok datagram) sent
      datagrams) :
    port.receiveAll rejected datagrams = ((sent.filter (port.isPeer ·.1)).map Prod.snd,
      rejected + (sent.filter (!port.isPeer ·.1)).length) := by
  rw [receiveAll, receiveAll_go _ _ _ le_rfl, List.countP_eq_length_filter]
  have hboth : (datagrams.filter port.fromPeer).map (·.bytes.drop headerBytes)
        = (sent.filter (port.isPeer ·.1)).map Prod.snd
      ∧ (datagrams.filter (!port.fromPeer ·)).length = (sent.filter (!port.isPeer ·.1)).length := by
    induction h with
    | nil => exact ⟨rfl, rfl⟩
    | @cons packet datagram sent datagrams hsent _ ih =>
      have hpeer : port.fromPeer datagram = port.isPeer packet.1 := by
        rw [Bool.eq_iff_iff, isPeer, decide_eq_true_eq]
        exact takes_encode hsent .empty
      by_cases h : port.isPeer packet.1 = true
      · simp only [List.filter_cons, hpeer, h, if_true, List.map_cons, drop_encode hsent, ih.1, ih.2,
          Bool.not_true, Bool.false_eq_true, if_false, and_self]
      · rw [Bool.not_eq_true] at h
        simp only [List.filter_cons, hpeer, h, Bool.false_eq_true, if_false, ih.1, ih.2,
          Bool.not_false, if_true, List.length_cons, and_self]
  rw [hboth.1, hboth.2]

/-- The worker of the second owner epoch, and the one of the first. -/
def worker (ownerEpoch : ℕ) (h : ownerEpoch = 1 ∨ ownerEpoch = 2) : UnixPacketPort where
  binding := ⟨Vector.replicate 16 1, Vector.replicate 16 2, 1, 1, ownerEpoch, 1⟩
  role := .worker
  wide := by
    rcases h with rfl | rfl
    · exact ⟨by decide, by decide, by decide, by decide⟩
    · exact ⟨by decide, by decide, by decide, by decide⟩
  nonzero := by
    rcases h with rfl | rfl
    · decide
    · decide

theorem delivers_fresh :
    (worker 2 (.inr rfl)).peer.receiveAll 0
        [⟨(worker 1 (.inl rfl)).headerPrefix 2 ++ (toBE 4 1 ++ [69]), false⟩,
          ⟨(worker 2 (.inr rfl)).headerPrefix 2 ++ (toBE 4 2 ++ [69, 70]), false⟩]
      = ([[69, 70]], 1) :=
  (delivers (worker 2 (.inr rfl)).peer 0
    [(worker 1 (.inl rfl), [69]), (worker 2 (.inr rfl), [69, 70])] _
    (.cons (encode_eq_ok.mpr ⟨by decide, by decide, rfl, rfl⟩)
      (.cons (encode_eq_ok.mpr ⟨by decide, by decide, rfl, rfl⟩) .nil))).trans (by decide)

end UnixPacketPort

end CandyRuntime.PacketPort
