import NetlinkIpvs.Destination
import NetlinkIpvs.Service

/-!
# Messages

`src/ctrl/mod.rs` and `IpvsCtrlAttrs` of `src/ctrl/nlas/mod.rs` : a message is a command
and a list of attributes, each of which is a group, a nested list of service or of
destination attributes. `IpvsServiceCtrl.emit` writes the attributes to a buffer of
`IpvsServiceCtrl.bufferLen` bytes, and `IpvsServiceCtrl.parseWithParam` reads a message
from a buffer and the generic netlink header in front of it.
-/

open Rust Rust.Outcome
open Tlv.Format (readAll)

namespace NetlinkIpvs

/-! ## Groups of attributes -/

inductive IpvsCtrlAttrs where
  | service (nlas : List SvcCtrlAttrs)
  | destination (nlas : List DestinationCtrlAttrs)
deriving DecidableEq

@[match_pattern] abbrev IPVS_CMD_ATTR_SERVICE : ℕ := 1
@[match_pattern] abbrev IPVS_CMD_ATTR_DEST : ℕ := 2

namespace IpvsCtrlAttrs

variable (K : Crates)

/-- The attributes of a group, as `nla.as_slice()` sees them. -/
def nlas : IpvsCtrlAttrs → List Nla
  | .service l => l.map (SvcCtrlAttrs.nla K)
  | .destination l => l.map (DestinationCtrlAttrs.nla K)

/-- `IpvsCtrlAttrs::value_len`. -/
def valueLen (self : IpvsCtrlAttrs) : Panics ℕ :=
  K.nlasBufferLen (nlas K self)

/-- `IpvsCtrlAttrs::kind`. -/
def kind : IpvsCtrlAttrs → ℕ
  | .service _ => IPVS_CMD_ATTR_SERVICE
  | .destination _ => IPVS_CMD_ATTR_DEST

/-- `IpvsCtrlAttrs::emit_value`. -/
def emitValue (self : IpvsCtrlAttrs) (buffer : Bytes) : Panics Bytes :=
  K.nlasEmit (nlas K self) buffer

/-- `impl Nla for IpvsCtrlAttrs`. -/
def nla (self : IpvsCtrlAttrs) : Nla where
  valueLen := valueLen K self
  kind := self.kind
  isNested := true
  emitValue := emitValue K self

/-- `IpvsCtrlAttrs::parse`. -/
def parse (buf : NlaBuffer) : Outcome DecodeError IpvsCtrlAttrs :=
  let payload := buf.value
  match buf.kind with
  | IPVS_CMD_ATTR_SERVICE => do
    let nlas ← readAll (SvcCtrlAttrs.parse K) (K.nlasIterator payload)
    return service nlas
  | IPVS_CMD_ATTR_DEST => do
    let nlas ← readAll (DestinationCtrlAttrs.parse K) (K.nlasIterator payload)
    return destination nlas
  | other => .panic (.explicit s!"Don't know how to parse with type {other}")

end IpvsCtrlAttrs

/-! ## Commands -/

inductive IpvsCtrlCmd where
  | unspec
  | newService
  | setService
  | delService
  | getService
  | newDest
  | setDest
  | delDest
  | getDest
deriving DecidableEq, Repr

@[match_pattern] abbrev IPVS_CMD_UNSPEC : ℕ := 0
@[match_pattern] abbrev IPVS_CMD_NEW_SERVICE : ℕ := 1
@[match_pattern] abbrev IPVS_CMD_SET_SERVICE : ℕ := 2
@[match_pattern] abbrev IPVS_CMD_DEL_SERVICE : ℕ := 3
@[match_pattern] abbrev IPVS_CMD_GET_SERVICE : ℕ := 4
@[match_pattern] abbrev IPVS_CMD_NEW_DEST : ℕ := 5
@[match_pattern] abbrev IPVS_CMD_SET_DEST : ℕ := 6
@[match_pattern] abbrev IPVS_CMD_DEL_DEST : ℕ := 7
@[match_pattern] abbrev IPVS_CMD_GET_DEST : ℕ := 8

namespace IpvsCtrlCmd

/-- `impl From<IpvsCtrlCmd> for u8`. -/
def toU8 : IpvsCtrlCmd → UInt8
  | newService => UInt8.ofNat IPVS_CMD_NEW_SERVICE
  | setService => UInt8.ofNat IPVS_CMD_SET_SERVICE
  | delService => UInt8.ofNat IPVS_CMD_DEL_SERVICE
  | getService => UInt8.ofNat IPVS_CMD_GET_SERVICE
  | newDest => UInt8.ofNat IPVS_CMD_NEW_DEST
  | setDest => UInt8.ofNat IPVS_CMD_SET_DEST
  | delDest => UInt8.ofNat IPVS_CMD_DEL_DEST
  | getDest => UInt8.ofNat IPVS_CMD_GET_DEST
  | unspec => UInt8.ofNat IPVS_CMD_UNSPEC

/-- `impl TryFrom<u8> for IpvsCtrlCmd`. -/
def tryFrom (value : UInt8) : Outcome DecodeError IpvsCtrlCmd :=
  match value.toNat with
  | IPVS_CMD_NEW_SERVICE => .ok newService
  | IPVS_CMD_SET_SERVICE => .ok setService
  | IPVS_CMD_DEL_SERVICE => .ok delService
  | IPVS_CMD_GET_SERVICE => .ok getService
  | IPVS_CMD_NEW_DEST => .ok newDest
  | IPVS_CMD_SET_DEST => .ok setDest
  | IPVS_CMD_DEL_DEST => .ok delDest
  | IPVS_CMD_GET_DEST => .ok getDest
  | IPVS_CMD_UNSPEC => .ok unspec
  | cmd => .err (.message s!"Unknown control command: {cmd}")

/-- A command is read back from its code. -/
theorem tryFrom_toU8 (cmd : IpvsCtrlCmd) : tryFrom cmd.toU8 = .ok cmd := by
  cases cmd <;> rfl

/-- The codes of the commands are the numbers up to 8, and any other is an error. -/
theorem tryFrom_cases (value : UInt8) :
    value ≤ 8 ∧ (∃ cmd, tryFrom value = .ok cmd) ∨ 8 < value ∧ ∃ e, tryFrom value = .err e := by
  unfold tryFrom
  rw [UInt8.le_iff_toNat_le, UInt8.lt_iff_toNat_lt]
  have h8 : (8 : UInt8).toNat = 8 := rfl
  rw [h8]
  split
  all_goals first | exact Or.inl ⟨by omega, _, rfl⟩ | exact Or.inr ⟨by grind, _, rfl⟩

end IpvsCtrlCmd

/-! ## Messages -/

/-- `netlink_packet_generic::GenlHeader`. -/
structure GenlHeader where
  cmd : UInt8
  version : UInt8
deriving DecidableEq, Repr

structure IpvsServiceCtrl where
  cmd : IpvsCtrlCmd
  nlas : List IpvsCtrlAttrs
  familyId : UInt16
deriving DecidableEq

namespace IpvsServiceCtrl

variable (K : Crates)

/-- `IpvsServiceCtrl::buffer_len`. -/
def bufferLen (self : IpvsServiceCtrl) : Panics ℕ :=
  K.nlasBufferLen (self.nlas.map (IpvsCtrlAttrs.nla K))

/-- `IpvsServiceCtrl::emit`. -/
def emit (self : IpvsServiceCtrl) (buffer : Bytes) : Panics Bytes :=
  K.nlasEmit (self.nlas.map (IpvsCtrlAttrs.nla K)) buffer

/-- `parse_ctrlnlas`. -/
def parseCtrlnlas (buf : Bytes) : Outcome DecodeError (List IpvsCtrlAttrs) :=
  (readAll (IpvsCtrlAttrs.parse K) (K.nlasIterator buf)).mapErr
    (.context "failed to parse control message attributes")

/-- `IpvsServiceCtrl::parse_with_param`. -/
def parseWithParam (buf : Bytes) (header : GenlHeader) : Outcome DecodeError IpvsServiceCtrl := do
  let cmd ← IpvsCtrlCmd.tryFrom header.cmd
  let nlas ← parseCtrlnlas K buf
  return { cmd, nlas, familyId := 999 }

end IpvsServiceCtrl

end NetlinkIpvs
