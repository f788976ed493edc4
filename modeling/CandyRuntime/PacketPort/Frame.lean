import CandyRuntime.Lib.SelfDelimiting
import CandyRuntime.Tunio.Manager

/-!
# Frames of the packet IPC

A datagram of the packet IPC is a header of 76 bytes and one packet. The header names the binding of
the port that sends it, its direction and the length of the packet. A port takes only datagrams of
the other direction with its own binding and without control data, and drops all others. The socket
keeps the datagrams in order; here it is the list of those that have arrived.
-/

namespace CandyRuntime.PacketPort

open Lib NetdProto Tunio

/-- `HEADER_BYTES`. -/
def headerBytes : ℕ := 76

/-- `MAX_PACKET_BYTES`. -/
def maxPacketBytes : ℕ := 1400

inductive PacketPortRole where
  | infrastructure
  | worker
deriving DecidableEq, Repr

def PacketPortRole.outgoingDirection : PacketPortRole → UInt8
  | .infrastructure => 1
  | .worker => 2

def PacketPortRole.other : PacketPortRole → PacketPortRole
  | .infrastructure => .worker
  | .worker => .infrastructure

/-- The generations and epochs of a binding are `u64`. -/
structure Wide (binding : PacketPortBinding) : Prop where
  infrastructureGeneration : binding.infrastructureGeneration < 256 ^ 8
  ioEpoch : binding.ioEpoch < 256 ^ 8
  ownerEpoch : binding.ownerEpoch < 256 ^ 8
  policyGeneration : binding.policyGeneration < 256 ^ 8

/-- What `UnixPacketPort::new` checks. -/
def isNonzero (binding : PacketPortBinding) : Bool :=
  !(binding.infrastructureId == InstanceId.zero || binding.routingDomainId == InstanceId.zero
    || binding.infrastructureGeneration == 0 || binding.ioEpoch == 0 || binding.ownerEpoch == 0
    || binding.policyGeneration == 0)

/-- `UnixPacketPort`, without the socket, as `UnixPacketPort::new` lets it be built. -/
structure UnixPacketPort where
  binding : PacketPortBinding
  role : PacketPortRole
  wide : Wide binding
  nonzero : isNonzero binding = true

/-- A datagram, and whether control data came with it: there is no room for any, so that the system
sets `MSG_CTRUNC`. -/
structure Datagram where
  bytes : Bytes
  control : Bool
deriving DecidableEq

/-- What the system writes into the buffers of `recv_packet`: the header and the packet, with a byte
more than a packet may have. -/
structure Buffers where
  header : Bytes
  packet : Bytes
deriving DecidableEq

/-- What a call of `recv_packet` has done: the packet, unless it still waits, the datagrams that it has
rejected and those that are left. -/
structure Reception where
  packet : Option Bytes
  rejectedPackets : ℕ
  rest : List Datagram
deriving DecidableEq

namespace UnixPacketPort

variable (port : UnixPacketPort)

/-- The first 72 bytes of a header: `CPIO`, the version, the direction, two zeros, and the binding. -/
def headerPrefix (direction : UInt8) : Bytes :=
  [0x43, 0x50, 0x49, 0x4f, 1, direction, 0, 0] ++ (port.binding.infrastructureId.toList
    ++ (port.binding.routingDomainId.toList ++ (toBE 8 port.binding.infrastructureGeneration
      ++ (toBE 8 port.binding.ioEpoch ++ (toBE 8 port.binding.ownerEpoch
        ++ toBE 8 port.binding.policyGeneration)))))

/-- `headers.outgoing`, before the length is written into it. -/
def outgoing : Bytes := port.headerPrefix port.role.outgoingDirection ++ [0, 0, 0, 0]

/-- `headers.incoming`. -/
def incoming : Bytes := (port.outgoing.take 72).set 5 (3 - port.role.outgoingDirection)

def encodeHeader (packet : Bytes) : Except String Bytes :=
  if packet = [] ∨ maxPacketBytes < packet.length then .error "invalid IPC packet size"
  else .ok (port.outgoing.take 72 ++ toBE 4 packet.length)

/-- The datagram that `send_frame` sends, without control data. -/
def encode (packet : Bytes) : Except String Datagram :=
  (port.encodeHeader packet).map fun header => ⟨header ++ packet, false⟩

/-- `matches_binding`. -/
def matchesBinding (header : Bytes) (frameBytes : ℕ) : Bool :=
  decide (headerBytes < frameBytes) && decide (frameBytes ≤ headerBytes + maxPacketBytes)
    && decide (header.take 72 = port.incoming)
    && decide ((header.drop 72).take 4 = toBE 4 (frameBytes - headerBytes))

end UnixPacketPort

/-- The buffers at the start of `recv_packet`. -/
def Buffers.empty : Buffers :=
  ⟨List.replicate headerBytes 0, List.replicate (maxPacketBytes + 1) 0⟩

/-- `recvmsg` fills the header and then the packet, as far as the datagram goes. -/
def Buffers.fill (buffers : Buffers) (datagram : Bytes) : Buffers where
  header := datagram.take headerBytes ++ buffers.header.drop datagram.length
  packet := (datagram.drop headerBytes).take (maxPacketBytes + 1)
    ++ buffers.packet.drop (datagram.length - headerBytes)

namespace UnixPacketPort

variable (port : UnixPacketPort)

/-- The loop of `recv_packet`, over the datagrams that have arrived. -/
def recvLoop (buffers : Buffers) (rejectedPackets : ℕ) : List Datagram → Reception
  | [] => ⟨none, rejectedPackets, []⟩
  | datagram :: rest =>
    let filled := buffers.fill datagram.bytes
    let length := min datagram.bytes.length (headerBytes + (maxPacketBytes + 1))
    -- `MSG_TRUNC`: the datagram was longer than the buffers
    let truncated := decide (headerBytes + (maxPacketBytes + 1) < datagram.bytes.length)
    if !(truncated || datagram.control) && port.matchesBinding filled.header length then
      ⟨some (filled.packet.take (length - headerBytes)), rejectedPackets, rest⟩
    else recvLoop filled (rejectedPackets + 1) rest

def recvPacket (rejectedPackets : ℕ) (datagrams : List Datagram) : Reception :=
  port.recvLoop .empty rejectedPackets datagrams

/-- Calls of `recv_packet` until one waits: the packets and the number of rejected datagrams. -/
def receiveAll (rejectedPackets : ℕ) (datagrams : List Datagram) : List Bytes × ℕ :=
  go datagrams.length rejectedPackets datagrams
where
  go : ℕ → ℕ → List Datagram → List Bytes × ℕ
    | 0, rejectedPackets, _ => ([], rejectedPackets)
    | calls + 1, rejectedPackets, datagrams =>
      let reception := port.recvPacket rejectedPackets datagrams
      match reception.packet with
      | none => ([], reception.rejectedPackets)
      | some packet =>
        let later := go calls reception.rejectedPackets reception.rest
        (packet :: later.1, later.2)

end UnixPacketPort

end CandyRuntime.PacketPort
