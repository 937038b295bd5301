import NetlinkIpvs.Crates

/-!
# An implementation of the crates

The functions of `Crates`, implemented for either host. `Documented` is satisfiable
(`Crates.reference_documented`), and a run of the model on this implementation is a run
of the code on a concrete input.
-/

open Rust

namespace NetlinkIpvs

namespace Reference

variable (host : ByteOrder)

/-- A fixed-width read, which indexes the front of the buffer. -/
def read {β : Type} (width : ℕ) (ofNat : ℕ → β) (e : ByteOrder) (buf : Bytes) : Panics β :=
  if width ≤ buf.length then .ok (ofNat (e.decode (buf.take width))) else .error .outOfBounds

/-- A fixed-width write, which indexes the front of the buffer. -/
def write {β : Type} (width : ℕ) (toNat : β → ℕ) (e : ByteOrder) (buf : Bytes) (v : β) :
    Panics Bytes :=
  if width ≤ buf.length then .ok (e.encode width (toNat v) ++ buf.drop width)
  else .error .outOfBounds

/-- A parser for a buffer of exactly the given width. -/
def parse {β : Type} (width : ℕ) (ofNat : ℕ → β) (text : String) (buf : Bytes) :
    Except DecodeError β :=
  if buf.length = width then .ok (ofNat (host.decode buf)) else .error (.message text)

/-- The attribute a buffer holds. -/
def nlaBuffer (buf : Bytes) : Panics NlaBuffer :=
  if (netlink host).WellFormed buf then .ok ((netlink host).front buf) else .error .outOfBounds

/-- The items of an iterator over attributes. -/
def nlasIterator (buf : Bytes) : List (Except DecodeError NlaBuffer) :=
  ((netlink host).frames buf).map .ok ++
    if (netlink host).complete buf then [] else [.error (.message "invalid NLA buffer")]

/-- The length of an attribute with its header and padding. -/
def nlaBufferLen (n : Nla) : Panics ℕ := do
  let len ← n.valueLen
  return (netlink host).header + (netlink host).align len

/-- Emission of an attribute. The length in the header is cut to 16 bits, and the part of
the buffer for the value is cut by the length in the header. -/
def nlaEmit (n : Nla) (buf : Bytes) : Panics Bytes := do
  let len ← n.valueLen
  let cut := len % 65536
  if 4 + cut < 65536 ∧ 4 + (netlink host).align len ≤ buf.length then
    let v ← n.emitValue ((buf.drop 4).take cut)
    return (netlink host).put (4 + cut) n.rawKind ++ (v ++ ((buf.drop (4 + cut)).take (len - cut) ++
      (List.replicate ((netlink host).gap len) 0 ++ buf.drop (4 + (netlink host).align len))))
  else .error .outOfBounds

/-- The length of a slice of attributes. -/
def nlasBufferLen : List Nla → Panics ℕ
  | [] => .ok 0
  | n :: ns => do
    let len ← nlaBufferLen host n
    let rest ← nlasBufferLen ns
    return len + rest

/-- Emission of a slice of attributes, each on the next part of the buffer. -/
def nlasEmit : List Nla → Bytes → Panics Bytes
  | [], buf => .ok buf
  | n :: ns, buf => do
    let len ← nlaBufferLen host n
    if len ≤ buf.length then
      let head ← nlaEmit host n (buf.take len)
      let tail ← nlasEmit ns (buf.drop len)
      return head ++ tail
    else .error .outOfBounds

end Reference

/-- The crates, implemented. -/
def Crates.reference (host : ByteOrder) : Crates where
  host := host
  readU16 := Reference.read 2 UInt16.ofNat
  readU32 := Reference.read 4 UInt32.ofNat
  readU64 := Reference.read 8 UInt64.ofNat
  writeU16 := Reference.write 2 UInt16.toNat
  writeU32 := Reference.write 4 UInt32.toNat
  parseU16 := Reference.parse host 2 UInt16.ofNat "invalid u16"
  parseU32 := Reference.parse host 4 UInt32.ofNat "invalid u32"
  nlaBuffer := Reference.nlaBuffer host
  nlasIterator := Reference.nlasIterator host
  nlaBufferLen := Reference.nlaBufferLen host
  nlaEmit := Reference.nlaEmit host
  nlasBufferLen := Reference.nlasBufferLen host
  nlasEmit := Reference.nlasEmit host

namespace Reference

variable {host : ByteOrder}

theorem nlasIterator_iterates : (netlink host).Iterates (nlasIterator host) where
  nil := rfl
  frame buf hw := by
    rw [nlasIterator, Tlv.Format.frames_wellFormed hw, Tlv.Format.complete_wellFormed hw]
    rfl
  stop buf hm := by
    rw [nlasIterator, Tlv.Format.frames_malformed hm, Tlv.Format.complete_malformed hm]
    exact ⟨_, rfl⟩

theorem nlaEmit_eq (n : Nla) (len : ℕ) (buf : Bytes) (hn : n.valueLen = .ok len)
    (hlen : 4 + len < 65536) (hbuf : buf.length = 4 + (netlink host).align len) :
    nlaEmit host n buf = do
      let v ← n.emitValue ((buf.drop 4).take len)
      return (netlink host).put (4 + len) n.rawKind ++
        (v ++ List.replicate ((netlink host).gap len) 0) := by
  have hcut : len % 65536 = len := Nat.mod_eq_of_lt (by omega)
  rw [nlaEmit, hn, ok_bind_panics, hcut, if_pos ⟨hlen, hbuf.ge⟩, Nat.sub_self, List.take_zero,
    List.nil_append, ← hbuf, List.drop_length, List.append_nil]

theorem nlaEmit_long (n : Nla) (len : ℕ) (buf out : Bytes) (hn : n.valueLen = .ok len)
    (hlen : 65536 ≤ 4 + len) (hout : nlaEmit host n buf = .ok out) :
    ∃ part v, part.length < len ∧ n.emitValue part = .ok v := by
  rw [nlaEmit, hn, ok_bind_panics] at hout
  dsimp only at hout
  split_ifs at hout with hfit
  obtain ⟨v, hv, -⟩ := bind_panics_eq_ok.1 hout
  refine ⟨_, v, ?_, hv⟩
  have hcut : len % 65536 < len := by
    by_contra hge
    have := Nat.mod_le len 65536
    omega
  exact (List.length_take_le _ _).trans_lt hcut

theorem nlasEmit_cons (n : Nla) (ns : List Nla) (len : ℕ) (buf : Bytes)
    (hn : nlaBufferLen host n = .ok len) (hlen : len ≤ buf.length) :
    nlasEmit host (n :: ns) buf = do
      let head ← nlaEmit host n (buf.take len)
      let tail ← nlasEmit host ns (buf.drop len)
      return head ++ tail := by
  rw [nlasEmit, hn, ok_bind_panics, if_pos hlen]

end Reference

/-- The implementation behaves as documented. -/
theorem Crates.reference_documented (host : ByteOrder) : (Crates.reference host).Documented where
  readU16_eq _ _ h := if_pos h
  readU16_short _ _ h := ⟨_, if_neg (Nat.not_le.2 h)⟩
  readU32_eq _ _ h := if_pos h
  readU32_short _ _ h := ⟨_, if_neg (Nat.not_le.2 h)⟩
  readU64_eq _ _ h := if_pos h
  readU64_short _ _ h := ⟨_, if_neg (Nat.not_le.2 h)⟩
  writeU16_eq _ _ _ h := if_pos h
  writeU32_eq _ _ _ h := if_pos h
  parseU16_eq _ h := if_pos h
  parseU16_other _ h := ⟨_, if_neg h⟩
  parseU32_eq _ h := if_pos h
  parseU32_other _ h := ⟨_, if_neg h⟩
  nlaBuffer_eq _ h := if_pos h
  nlasIterator := Reference.nlasIterator_iterates
  nlaBufferLen_eq _ := rfl
  nlaEmit_eq := Reference.nlaEmit_eq
  nlaEmit_long := Reference.nlaEmit_long
  nlasBufferLen_nil := rfl
  nlasBufferLen_cons _ _ := rfl
  nlasEmit_nil _ := rfl
  nlasEmit_cons := Reference.nlasEmit_cons

end NetlinkIpvs
