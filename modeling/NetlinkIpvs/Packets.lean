import NetlinkIpvs.Ctrl
import NetlinkIpvs.Reference

/-!
# Messages and their headers

A message travels behind two headers : the netlink header, with the length of the whole,
and the generic netlink header, with the command. `netlink-packet-core` and
`netlink-packet-generic` write and read them, and are not part of the repository.
`Packets` lists the functions of theirs that the code calls, as parameters of the model
next to those of `Crates`, and `Packets.Documented` states what their documentation
promises and the code relies on.

`Packets.reference` implements them (`Packets.reference_documented`).
-/

open Rust Rust.Outcome

namespace NetlinkIpvs

/-! ## Headers -/

/-- `netlink_packet_core::NetlinkHeader`. -/
structure NetlinkHeader where
  length : UInt32 := 0
  messageType : UInt16 := 0
  flags : UInt16 := 0
  sequenceNumber : UInt32 := 0
  portNumber : UInt32 := 0
deriving DecidableEq, Repr

namespace NetlinkHeader

/-- The fields of a header, one after the other. -/
def bytes (host : ByteOrder) (h : NetlinkHeader) : Bytes :=
  host.encode 4 h.length.toNat ++ (host.encode 2 h.messageType.toNat ++
    (host.encode 2 h.flags.toNat ++ (host.encode 4 h.sequenceNumber.toNat ++
      host.encode 4 h.portNumber.toNat)))

/-- The header at the front of a buffer. -/
def read (host : ByteOrder) (buf : Bytes) : NetlinkHeader where
  length := UInt32.ofNat (host.decode (buf.take 4))
  messageType := UInt16.ofNat (host.decode ((buf.drop 4).take 2))
  flags := UInt16.ofNat (host.decode ((buf.drop 6).take 2))
  sequenceNumber := UInt32.ofNat (host.decode ((buf.drop 8).take 4))
  portNumber := UInt32.ofNat (host.decode ((buf.drop 12).take 4))

@[simp] theorem length_bytes (host : ByteOrder) (h : NetlinkHeader) :
    (h.bytes host).length = 16 := by
  simp [bytes]

/-- A header is read back, whatever follows. -/
theorem read_bytes (host : ByteOrder) (h : NetlinkHeader) (rest : Bytes) :
    read host (h.bytes host ++ rest) = h := by
  have h4 : (h.bytes host ++ rest).drop 4 = host.encode 2 h.messageType.toNat ++
      (host.encode 2 h.flags.toNat ++ (host.encode 4 h.sequenceNumber.toNat ++
        (host.encode 4 h.portNumber.toNat ++ rest))) := by
    simp [bytes]
  have h6 : (h.bytes host ++ rest).drop 6 = host.encode 2 h.flags.toNat ++
      (host.encode 4 h.sequenceNumber.toNat ++ (host.encode 4 h.portNumber.toNat ++ rest)) := by
    rw [show 6 = 4 + 2 from rfl, ← List.drop_drop, h4, ByteOrder.drop_encode_append]
  have h8 : (h.bytes host ++ rest).drop 8 =
      host.encode 4 h.sequenceNumber.toNat ++ (host.encode 4 h.portNumber.toNat ++ rest) := by
    rw [show 8 = 6 + 2 from rfl, ← List.drop_drop, h6, ByteOrder.drop_encode_append]
  have h12 : (h.bytes host ++ rest).drop 12 = host.encode 4 h.portNumber.toNat ++ rest := by
    rw [show 12 = 8 + 4 from rfl, ← List.drop_drop, h8, ByteOrder.drop_encode_append]
  rw [read, h4, h6, h8, h12]
  simp [bytes, ByteOrder.ofNat_decode_encode16, ByteOrder.ofNat_decode_encode32]

/-- The header is in the first 16 bytes. -/
theorem read_take {host : ByteOrder} {buf : Bytes} {n : ℕ} (h : 16 ≤ n) :
    read host (buf.take n) = read host buf := by
  have h4 : min 4 n = 4 := by omega
  have h6 : min 2 (n - 4) = 2 := by omega
  have h8 : min 2 (n - 6) = 2 := by omega
  have h12 : min 4 (n - 8) = 4 := by omega
  have h16 : min 4 (n - 12) = 4 := by omega
  simp only [read, List.drop_take, List.take_take, h4, h6, h8, h12, h16]

end NetlinkHeader

/-! ## Messages -/

/-- `NonZeroI32`. -/
abbrev NonZeroI32 := { n : Int32 // n ≠ 0 }

/-- `NonZeroI32::new`. -/
def NonZeroI32.new (n : Int32) : Option NonZeroI32 :=
  if h : n = 0 then none else some ⟨n, h⟩

/-- `netlink_packet_core::ErrorMessage`. Without a code it is an acknowledgement. -/
structure ErrorMessage where
  code : Option NonZeroI32
  header : Bytes
deriving DecidableEq

/-- `netlink_packet_core::DoneMessage`. -/
structure DoneMessage where
  code : Int32
  extendedAck : Bytes
deriving DecidableEq

/-- `netlink_packet_core::NetlinkPayload`. -/
inductive NetlinkPayload (I : Type) where
  | done (msg : DoneMessage)
  | error (msg : ErrorMessage)
  | noop
  | overrun (bytes : Bytes)
  | innerMessage (msg : I)
deriving DecidableEq

/-- `netlink_packet_core::NetlinkMessage`. -/
structure NetlinkMessage (I : Type) where
  header : NetlinkHeader
  payload : NetlinkPayload I
deriving DecidableEq

/-- `netlink_packet_generic::GenlMessage`. -/
structure GenlMessage (F : Type) where
  header : GenlHeader
  payload : F
  resolvedFamilyId : UInt16
deriving DecidableEq

/-- The methods of a payload that implements `GenlFamily` and `Emitable`. -/
structure GenlFamily where
  familyName : String
  familyId : UInt16
  command : UInt8
  version : UInt8
  bufferLen : Panics ℕ
  emit : Bytes → Panics Bytes

/-- `GenlMessage::family_id` : a family that leaves it open has the resolved number. -/
def GenlMessage.familyId (msg : GenlMessage GenlFamily) : UInt16 :=
  if msg.payload.familyId = 0 then msg.resolvedFamilyId else msg.payload.familyId

/-- A message that is sent. -/
abbrev Outgoing := NetlinkMessage (GenlMessage GenlFamily)

def NLMSG_NOOP : UInt16 := 1
def NLMSG_ERROR : UInt16 := 2
def NLMSG_DONE : UInt16 := 3
def NLMSG_OVERRUN : UInt16 := 4

/-- The message types below those of families. -/
def controlTypes : List UInt16 :=
  [NLMSG_NOOP, NLMSG_ERROR, NLMSG_DONE, NLMSG_OVERRUN]

def NLM_F_REQUEST : UInt16 := 1
def NLM_F_ACK : UInt16 := 4
def NLM_F_DUMP : UInt16 := 0x300

/-! ## The functions -/

/-- The functions of `netlink-packet-core` and `netlink-packet-generic` that the code calls,
with those of `Crates`. -/
structure Packets extends Crates where
  /-- `GenlMessage::from_payload`. -/
  genlFromPayload : GenlFamily → GenlMessage GenlFamily
  /-- `NetlinkMessage::from`. -/
  nlmsgFrom : GenlMessage GenlFamily → Outgoing
  /-- `NetlinkMessage::finalize`. -/
  nlmsgFinalize : Outgoing → Panics Outgoing
  /-- `NetlinkMessage::buffer_len`. -/
  nlmsgBufferLen : Outgoing → Panics ℕ
  /-- `NetlinkMessage::serialize`. -/
  nlmsgSerialize : Outgoing → Bytes → Panics Bytes
  /-- What `NetlinkMessage::deserialize` makes of the bytes after the header, with the given
  parser for the payload of a family. -/
  parsePayload {α : Type} : (Bytes → GenlHeader → Outcome DecodeError α) → NetlinkHeader → Bytes →
    Outcome DecodeError (NetlinkPayload (GenlMessage α))
  /-- `NetlinkMessage::deserialize`, with the given parser for the payload of a family. -/
  deserialize {α : Type} : (Bytes → GenlHeader → Outcome DecodeError α) → Bytes →
    Outcome DecodeError (NetlinkMessage (GenlMessage α))

namespace Packets

/-- A whole message stands at the front of the buffer. -/
def Framed (P : Packets) (buf : Bytes) : Prop :=
  16 ≤ buf.length ∧ 16 ≤ (NetlinkHeader.read P.host buf).length.toNat ∧
    (NetlinkHeader.read P.host buf).length.toNat ≤ buf.length

instance (P : Packets) (buf : Bytes) : Decidable (P.Framed buf) :=
  inferInstanceAs (Decidable (_ ∧ _))

/-- What the crates document and the code relies on. -/
structure Documented (P : Packets) : Prop extends Crates.Documented P.toCrates where
  genlFromPayload_eq : ∀ payload, P.genlFromPayload payload =
    { header := ⟨payload.command, payload.version⟩, payload, resolvedFamilyId := 0 }
  nlmsgFrom_eq : ∀ genlmsg, P.nlmsgFrom genlmsg = { header := {}, payload := .innerMessage genlmsg }
  nlmsgBufferLen_eq : ∀ header genlmsg, P.nlmsgBufferLen ⟨header, .innerMessage genlmsg⟩ = do
    let len ← genlmsg.payload.bufferLen
    return 16 + (4 + len)
  /-- The length and the type of the message go into the header. -/
  nlmsgFinalize_eq : ∀ header genlmsg, P.nlmsgFinalize ⟨header, .innerMessage genlmsg⟩ = do
    let len ← genlmsg.payload.bufferLen
    return ⟨{ header with
        length := UInt32.ofNat (16 + (4 + len)), messageType := genlmsg.familyId },
      .innerMessage genlmsg⟩
  /-- The two headers, and the payload on the rest of the buffer. Two bytes of the second
  header are left as they are. -/
  nlmsgSerialize_eq : ∀ header genlmsg len buf, genlmsg.payload.bufferLen = .ok len →
    header.length.toNat = 16 + (4 + len) → buf.length = 16 + (4 + len) →
    P.nlmsgSerialize ⟨header, .innerMessage genlmsg⟩ buf = do
      let body ← genlmsg.payload.emit (buf.drop 20)
      return header.bytes P.host ++
        (genlmsg.header.cmd :: genlmsg.header.version :: ((buf.drop 18).take 2 ++ body))
  /-- The part of the buffer for the message is cut by the length in the header, so a message
  too long for the header is handed too short a part. -/
  nlmsgSerialize_long : ∀ header genlmsg len buf out, genlmsg.payload.bufferLen = .ok len →
    header.length.toNat < 16 + (4 + len) →
    P.nlmsgSerialize ⟨header, .innerMessage genlmsg⟩ buf = .ok out →
    ∃ part body, part.length < len ∧ genlmsg.payload.emit part = .ok body
  /-- A slice of attributes is emitted on parts that end within the buffer. -/
  nlasEmit_short : ∀ n ns len buf out, P.nlaBufferLen n = .ok len →
    P.nlasEmit (n :: ns) buf = .ok out → len ≤ buf.length
  /-- The header says where the message ends. -/
  deserialize_eq : ∀ {α : Type} (parse : Bytes → GenlHeader → Outcome DecodeError α) buf,
    P.Framed buf → P.deserialize parse buf = do
      let header := NetlinkHeader.read P.host buf
      let payload ← P.parsePayload parse header ((buf.take header.length.toNat).drop 16)
      return ⟨header, payload⟩
  /-- A message of a family : its header, and its payload, which the parser gets. -/
  parsePayload_family : ∀ {α : Type} (parse : Bytes → GenlHeader → Outcome DecodeError α)
    (header : NetlinkHeader) cmd version r0 r1 body a, header.messageType ∉ controlTypes →
    parse body ⟨cmd, version⟩ = .ok a →
    P.parsePayload parse header (cmd :: version :: r0 :: r1 :: body) =
      .ok (.innerMessage ⟨⟨cmd, version⟩, a, header.messageType⟩)
  /-- A message of a family comes from a part of the buffer. -/
  deserialize_inner : ∀ {α : Type} (parse : Bytes → GenlHeader → Outcome DecodeError α) buf header
    genlmsg, P.deserialize parse buf = .ok ⟨header, .innerMessage genlmsg⟩ →
    ∃ body, 20 + body.length ≤ buf.length ∧ parse body genlmsg.header = .ok genlmsg.payload

end Packets

/-! ## An implementation -/

namespace Reference

variable (host : ByteOrder)

def nlmsgBufferLen (msg : Outgoing) : Panics ℕ :=
  match msg.payload with
  | .innerMessage genlmsg => do
    let len ← genlmsg.payload.bufferLen
    return 16 + (4 + len)
  | .noop => .ok 16
  | .overrun bytes => .ok (16 + bytes.length)
  | .done msg => .ok (16 + (4 + msg.extendedAck.length))
  | .error msg => .ok (16 + (4 + msg.header.length))

/-- The header gets the length and the type of the message. -/
def nlmsgFinalize (msg : Outgoing) : Panics Outgoing := do
  let len ← nlmsgBufferLen msg
  let messageType := match msg.payload with
    | .innerMessage genlmsg => genlmsg.familyId
    | .noop => NLMSG_NOOP
    | .overrun _ => NLMSG_OVERRUN
    | .done _ => NLMSG_DONE
    | .error _ => NLMSG_ERROR
  return { msg with header := { msg.header with length := UInt32.ofNat len, messageType } }

/-- A code, in host byte order, and what follows it. -/
def code (host : ByteOrder) (c : Int32) (rest : Bytes) : Bytes :=
  host.encode 4 c.toUInt32.toNat ++ rest

/-- The payload, over the part of the buffer after the header. -/
def emitPayload : NetlinkPayload (GenlMessage GenlFamily) → Bytes → Panics Bytes
  | .innerMessage genlmsg, _ :: _ :: r0 :: r1 :: part => do
    let body ← genlmsg.payload.emit part
    return genlmsg.header.cmd :: genlmsg.header.version :: r0 :: r1 :: body
  | .innerMessage _, _ => .error .outOfBounds
  | .noop, part => .ok part
  | .overrun bytes, part => Slice.copyFromSlice bytes part
  | .done msg, part => Slice.copyFromSlice (code host msg.code msg.extendedAck) part
  | .error msg, part =>
    Slice.copyFromSlice (code host (msg.code.elim 0 Subtype.val) msg.header) part

/-- The header and the payload, over the front of the buffer. -/
def nlmsgSerialize (msg : Outgoing) (buf : Bytes) : Panics Bytes :=
  if 16 ≤ msg.header.length.toNat ∧ msg.header.length.toNat ≤ buf.length then do
    let body ← emitPayload host msg.payload ((buf.take msg.header.length.toNat).drop 16)
    return msg.header.bytes host ++ (body ++ buf.drop msg.header.length.toNat)
  else .error .outOfBounds

/-- The number in front of a control message. -/
def readCode (body : Bytes) : Int32 :=
  (UInt32.ofNat (host.decode (body.take 4))).toInt32

/-- The payload of a message, by the type of the message. -/
def parsePayload {α : Type} (parse : Bytes → GenlHeader → Outcome DecodeError α)
    (header : NetlinkHeader) (body : Bytes) :
    Outcome DecodeError (NetlinkPayload (GenlMessage α)) :=
  if header.messageType = NLMSG_NOOP then .ok .noop
  else if header.messageType = NLMSG_OVERRUN then .ok (.overrun body)
  else if header.messageType = NLMSG_ERROR then
    if 4 ≤ body.length then .ok (.error ⟨NonZeroI32.new (readCode host body), body.drop 4⟩)
    else .err (.message "invalid ErrorBuffer")
  else if header.messageType = NLMSG_DONE then
    if 4 ≤ body.length then .ok (.done ⟨readCode host body, body.drop 4⟩)
    else .err (.message "invalid DoneBuffer")
  else match body with
    | cmd :: version :: _ :: _ :: rest => do
      let payload ← (parse rest ⟨cmd, version⟩).mapErr (.context "Failed to parse message")
      return .innerMessage ⟨⟨cmd, version⟩, payload, header.messageType⟩
    | _ => .err (.message "invalid GenlBuffer")

/-- The message at the front of a buffer. -/
def deserialize {α : Type} (parse : Bytes → GenlHeader → Outcome DecodeError α) (buf : Bytes) :
    Outcome DecodeError (NetlinkMessage (GenlMessage α)) :=
  let header := NetlinkHeader.read host buf
  if 16 ≤ buf.length ∧ 16 ≤ header.length.toNat ∧ header.length.toNat ≤ buf.length then do
    let payload ← parsePayload host parse header ((buf.take header.length.toNat).drop 16)
    return ⟨header, payload⟩
  else .err (.message "invalid netlink buffer")

end Reference

/-- The crates, implemented. -/
def Packets.reference (host : ByteOrder) : Packets where
  toCrates := Crates.reference host
  genlFromPayload payload :=
    { header := ⟨payload.command, payload.version⟩, payload, resolvedFamilyId := 0 }
  nlmsgFrom genlmsg := { header := {}, payload := .innerMessage genlmsg }
  nlmsgFinalize := Reference.nlmsgFinalize
  nlmsgBufferLen := Reference.nlmsgBufferLen
  nlmsgSerialize := Reference.nlmsgSerialize host
  parsePayload := Reference.parsePayload host
  deserialize := Reference.deserialize host

/-- A message of a family goes past the control types. -/
theorem Reference.parsePayload_family {α : Type} {host : ByteOrder}
    {parse : Bytes → GenlHeader → Outcome DecodeError α} {header : NetlinkHeader}
    {cmd version r0 r1 : UInt8} {body : Bytes} {a : α} (htype : header.messageType ∉ controlTypes)
    (h : parse body ⟨cmd, version⟩ = .ok a) :
    parsePayload host parse header (cmd :: version :: r0 :: r1 :: body) =
      .ok (.innerMessage ⟨⟨cmd, version⟩, a, header.messageType⟩) := by
  simp only [controlTypes, List.mem_cons, List.not_mem_nil, or_false, not_or] at htype
  obtain ⟨hnoop, herror, hdone, hoverrun⟩ := htype
  rw [parsePayload, if_neg hnoop, if_neg hoverrun, if_neg herror, if_neg hdone, h]
  rfl

/-- A message of a family comes from its headers and the rest. -/
theorem Reference.parsePayload_inner {α : Type} {host : ByteOrder}
    {parse : Bytes → GenlHeader → Outcome DecodeError α} {header : NetlinkHeader} {part : Bytes}
    {genlmsg : GenlMessage α}
    (h : parsePayload host parse header part = .ok (.innerMessage genlmsg)) :
    ∃ body, 4 + body.length = part.length ∧ parse body genlmsg.header = .ok genlmsg.payload := by
  unfold parsePayload at h
  split_ifs at h
  · cases h
  · cases h
  · cases h
  · cases h
  · split at h
    · next cmd version r0 r1 rest =>
      obtain ⟨a, ha, h⟩ := bind_eq_ok.1 h
      cases h
      refine ⟨rest, ?_, mapErr_eq_ok.1 ha⟩
      simp only [List.length_cons]
      omega
    · cases h

/-- A message of a family is the two headers and what the payload emits. -/
theorem Reference.nlmsgSerialize_eq {host : ByteOrder} {header : NetlinkHeader}
    {genlmsg : GenlMessage GenlFamily} {len : ℕ} {buf : Bytes}
    (hheader : header.length.toNat = 16 + (4 + len)) (hbuf : buf.length = 16 + (4 + len)) :
    nlmsgSerialize host ⟨header, .innerMessage genlmsg⟩ buf = do
      let body ← genlmsg.payload.emit (buf.drop 20)
      return header.bytes host ++
        (genlmsg.header.cmd :: genlmsg.header.version :: ((buf.drop 18).take 2 ++ body)) := by
  have hfit : 16 ≤ header.length.toNat ∧ header.length.toNat ≤ buf.length := by omega
  have hlen : (buf.drop 16).length = len + 4 := by
    rw [List.length_drop]
    omega
  obtain ⟨b0, b1, r0, r1, part, hpart⟩ : ∃ b0 b1 r0 r1 part, buf.drop 16 = b0 :: b1 :: r0 :: r1 ::
      part := by
    match buf.drop 16, hlen with
    | b0 :: b1 :: r0 :: r1 :: part, _ => exact ⟨b0, b1, r0, r1, part, rfl⟩
  have h18 : buf.drop 18 = r0 :: r1 :: part := by
    rw [show 18 = 16 + 2 from rfl, ← List.drop_drop, hpart]
    rfl
  have h20 : buf.drop 20 = part := by
    rw [show 20 = 16 + 4 from rfl, ← List.drop_drop, hpart]
    rfl
  rw [nlmsgSerialize, if_pos hfit, hheader, ← hbuf, List.take_length, List.drop_length]
  dsimp only
  rw [hpart, h18, h20, emitPayload]
  cases genlmsg.payload.emit part <;> simp

/-- A message too long for its header hands its payload too short a part. -/
theorem Reference.nlmsgSerialize_long {host : ByteOrder} {header : NetlinkHeader}
    {genlmsg : GenlMessage GenlFamily} {len : ℕ} {buf out : Bytes}
    (hheader : header.length.toNat < 16 + (4 + len))
    (hout : nlmsgSerialize host ⟨header, .innerMessage genlmsg⟩ buf = .ok out) :
    ∃ part body, part.length < len ∧ genlmsg.payload.emit part = .ok body := by
  unfold nlmsgSerialize at hout
  dsimp only at hout
  split_ifs at hout with hfit
  obtain ⟨body, hbody, -⟩ := bind_panics_eq_ok.1 hout
  have hlen : ((buf.take header.length.toNat).drop 16).length < 4 + len := by
    rw [List.length_drop, List.length_take]
    omega
  match (buf.take header.length.toNat).drop 16, hlen, hbody with
  | _ :: _ :: _ :: _ :: part, hlen, hbody =>
    obtain ⟨v, hv, -⟩ := bind_panics_eq_ok.1 hbody
    simp only [List.length_cons] at hlen
    exact ⟨part, v, by omega, hv⟩

theorem Reference.nlasEmit_short {host : ByteOrder} {n : Nla} {ns : List Nla} {len : ℕ}
    {buf out : Bytes} (hlen : nlaBufferLen host n = .ok len)
    (hout : nlasEmit host (n :: ns) buf = .ok out) : len ≤ buf.length := by
  rw [nlasEmit, hlen, ok_bind_panics] at hout
  split_ifs at hout with hle
  exact hle

/-- The implementation behaves as documented. -/
theorem Packets.reference_documented (host : ByteOrder) : (Packets.reference host).Documented where
  toDocumented := Crates.reference_documented host
  genlFromPayload_eq _ := rfl
  nlmsgFrom_eq _ := rfl
  nlmsgBufferLen_eq _ _ := rfl
  nlmsgFinalize_eq header genlmsg := by
    change Reference.nlmsgFinalize ⟨header, .innerMessage genlmsg⟩ = _
    cases h : genlmsg.payload.bufferLen <;>
      simp [Reference.nlmsgFinalize, Reference.nlmsgBufferLen, h]
  nlmsgSerialize_eq header genlmsg len buf _ hheader hbuf :=
    Reference.nlmsgSerialize_eq hheader hbuf
  nlmsgSerialize_long header genlmsg len buf out _ hheader hout :=
    Reference.nlmsgSerialize_long hheader hout
  nlasEmit_short n ns len buf out hlen hout := Reference.nlasEmit_short hlen hout
  deserialize_eq parse buf h := if_pos h
  parsePayload_family parse header cmd version r0 r1 body a htype h :=
    Reference.parsePayload_family htype h
  deserialize_inner parse buf header genlmsg h := by
    change Reference.deserialize host parse buf = _ at h
    unfold Reference.deserialize at h
    dsimp only at h
    split_ifs at h with hframed
    obtain ⟨payload, hpayload, h⟩ := bind_eq_ok.1 h
    cases h
    obtain ⟨body, hbody, hparse⟩ := Reference.parsePayload_inner hpayload
    refine ⟨body, ?_, hparse⟩
    rw [List.length_drop, List.length_take] at hbody
    omega

end NetlinkIpvs
