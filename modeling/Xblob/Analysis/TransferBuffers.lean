import Xblob.Computation.Alignment
import Xblob.Interface.UsbTransfers

/-!
# The buffers of transfer descriptors

Every transfer takes a contiguous range from the first byte on, of the computed length at most, so
the rule holds where the buffer is such a range.
-/

set_option autoImplicit false

namespace Xblob.Analysis

open Xblob.Computation Xblob.Interface Xblob.Usb Xblob.Usb.Ohci

variable {δ : Type} {td : GeneralTransferDescriptor}

/-! ## Lengths -/

/-- The start of a page, as the source masks it out of an address. -/
theorem toNat_pageMask (addr : GuestAddr) :
    (addr &&& ~~~0xFFF).toNat = addr.toNat / 0x1000 * 0x1000 :=
  toNat_and_not_pred (k := 12) addr 0x1000 rfl

/-- The computed length is that of the range from the first byte to the last, whatever the pages:
the case of two pages is never reached. -/
theorem bufferLength_toNat (hcbp : td.cbp ≠ 0) :
    td.bufferLength.toNat = td.be.toNat + 1 - td.cbp.toNat := by
  have hpos : td.cbp.toNat ≠ 0 := fun h => hcbp (BitVec.eq_of_toNat_eq h)
  have hbe := td.be.isLt
  unfold GeneralTransferDescriptor.bufferLength
  rw [if_neg hcbp]
  split
  next hlt =>
    have hlt' : td.be.toNat < td.cbp.toNat := hlt
    have hpages : ¬ (td.be &&& ~~~0xFFF) > (td.cbp &&& ~~~0xFFF) := by
      rw [gt_iff_lt, BitVec.lt_def, toNat_pageMask, toNat_pageMask]
      omega
    dsimp only
    have hzero : (0 : U32).toNat = 0 := rfl
    rw [if_neg hpages, hzero]
    omega
  next hle =>
    have hle' : td.cbp.toNat ≤ td.be.toNat := Nat.not_lt.1 hle
    have hone : (1 : U32).toNat = 1 := rfl
    rw [BitVec.toNat_add, BitVec.toNat_sub_of_le hle', hone]
    omega

/-- The length of a buffer on one page or on two. -/
theorem length_ohciBuffer (cbp be : GuestAddr) :
    (ohciBuffer cbp be).length =
      if guestPage be = guestPage cbp then be.toNat + 1 - cbp.toNat
      else 0x1000 - cbp.toNat % 0x1000 + (be.toNat % 0x1000 + 1) := by
  unfold ohciBuffer
  split
  · rw [List.length_range']
  · rw [List.length_append, List.length_range', List.length_range']

/-- The two lengths agree where the pages follow each other, and only there. -/
theorem length_eq_iff (hcbp : td.cbp ≠ 0) :
    td.bufferLength.toNat = (ohciBuffer td.cbp td.be).length ↔ FollowingPages td := by
  rw [bufferLength_toNat hcbp, length_ohciBuffer]
  unfold FollowingPages guestPage
  split
  next hsame => exact ⟨fun _ => .inl hsame, fun _ => rfl⟩
  next hother => omega

/-- Where the pages follow each other the buffer is one range. -/
theorem ohciBuffer_contiguous (hpages : FollowingPages td) :
    ohciBuffer td.cbp td.be = List.range' td.cbp.toNat (td.be.toNat + 1 - td.cbp.toNat) := by
  unfold ohciBuffer
  split
  · rfl
  next hother =>
    have hnext : guestPage td.be = guestPage td.cbp + 1 := hpages.resolve_left hother
    unfold guestPage at hnext
    have hstart : guestPage td.be * 0x1000 =
        td.cbp.toNat + 1 * (0x1000 - td.cbp.toNat % 0x1000) := by
      unfold guestPage
      omega
    have hlength : td.be.toNat + 1 - td.cbp.toNat =
        (0x1000 - td.cbp.toNat % 0x1000) + (td.be.toNat % 0x1000 + 1) := by
      omega
    rw [hstart, hlength, List.range'_append]

/-! ## Transfers -/

/-- The request takes bytes from the first on, of the computed length at most. -/
def FromStart (td : GeneralTransferDescriptor) (r : UsbRequest δ) : Prop :=
  ∃ n ≤ td.bufferLength.toNat, transferred r = List.range' td.cbp.toNat n

/-- A request that transfers nothing is one from the start. -/
theorem FromStart.none {r : UsbRequest δ} (h : transferred r = []) : FromStart td r :=
  ⟨0, Nat.zero_le _, h⟩

/-- A choice keeps to the requests of its branches. -/
theorem ite_within {L : UsbRequest δ → Prop} {c : Prop} [Decidable c] {α : Type}
    {x y : Transfer δ α} (hx : x.Within L fun _ => True) (hy : y.Within L fun _ => True) :
    (if c then x else y).Within L fun _ => True := by
  split
  · exact hx
  · exact hy

/-- A request is within the shape, and so is what follows each of its answers. -/
theorem within_ask {r : UsbRequest δ} (hr : FromStart td r) {α : Type}
    {k : (usbSig δ).Answer r → Transfer δ α}
    (hk : ∀ a, (k a).Within (FromStart td) fun _ => True) :
    (Program.request (S := usbSig δ) r >>= k).Within (FromStart td) fun _ => True :=
  ⟨hr, hk⟩

/-- Writing a descriptor back transfers nothing. -/
theorem within_writeDescriptor (m o f : String) (addr : GuestAddr) (w0 w1 w2 w3 : U32) :
    (writeDescriptor m o f addr w0 w1 w2 w3 : Transfer δ (Result Unit)).Within (FromStart td)
      fun _ => True := by
  unfold writeDescriptor
  split_ifs
  · trivial
  · refine ⟨.none rfl, fun valid => ?_⟩
    cases valid with
    | false => trivial
    | true =>
      refine ⟨.none rfl, fun r0 => ⟨.none rfl, fun r1 => ⟨.none rfl, fun r2 => ⟨.none rfl,
        fun r3 => ?_⟩⟩⟩⟩
      cases r0 <;> cases r1 <;> cases r2 <;> cases r3 <;> trivial

/-- The setup stage takes bytes from the start. -/
theorem within_setupTransfer (device : δ) (s : Stage) :
    (setupTransfer device s).Within (FromStart s.td) fun _ => True := by
  unfold setupTransfer
  split_ifs with hshort
  · trivial
  · have hlength : 8 ≤ s.td.bufferLength.toNat := Nat.not_lt.1 fun hlt => hshort (.inl hlt)
    refine within_ask ⟨8, hlength, rfl⟩ ?_
    rintro (e | raw)
    · trivial
    · dsimp only
      split
      · trivial
      · refine ite_within (within_ask (.none rfl) ?_) trivial
        rintro ⟨xfer, bytes⟩
        exact ite_within trivial trivial

/-- What is copied is the buffer at most. -/
theorem toNat_lesser_le (x y : U32) : (if x < y then x else y).toNat ≤ y.toNat := by
  split
  next hlt => exact Nat.le_of_lt hlt
  next => exact le_rfl

/-- A control transfer to the host takes bytes from the start. -/
theorem within_controlIn (s : Stage) :
    (controlIn s : Transfer δ Stage).Within (FromStart s.td) fun _ => True := by
  unfold controlIn
  refine ite_within trivial (ite_within trivial ?_)
  dsimp only
  generalize hcopy : (if s.td.bufferLength <
    BitVec.ofNat 32 s.session.inBuffer.length - s.session.inOffset then s.td.bufferLength
      else BitVec.ofNat 32 s.session.inBuffer.length - s.session.inOffset) = toCopy
  have hle : toCopy.toNat ≤ s.td.bufferLength.toNat := by
    rw [← hcopy]
    split
    next => exact le_rfl
    next hle => exact Nat.not_lt.1 hle
  refine ite_within (within_ask ⟨_, ?_, rfl⟩ ?_) trivial
  · rw [pendingBytes, List.length_take]
    exact (Nat.min_le_left _ _).trans hle
  · rintro (e | _) <;> trivial

/-- An interrupt transfer takes bytes from the start. -/
theorem within_interruptIn (device : δ) (s : Stage) :
    (interruptIn device s).Within (FromStart s.td) fun _ => True := by
  refine within_ask (.none rfl) ?_
  rintro ⟨xfer, bytes⟩
  refine ite_within trivial ?_
  dsimp only
  generalize hwrite : (if xfer.bytesTransferred < s.td.bufferLength then xfer.bytesTransferred
    else s.td.bufferLength) = toWrite
  have hle : toWrite.toNat ≤ s.td.bufferLength.toNat := by
    rw [← hwrite]
    exact toNat_lesser_le _ _
  refine ite_within (within_ask ⟨_, ?_, rfl⟩ ?_) trivial
  · rw [List.length_take]
    exact (Nat.min_le_left _ _).trans hle
  · rintro (e | _) <;> trivial

/-- A control transfer to the device takes bytes from the start. -/
theorem within_controlOut (device : δ) (s : Stage) :
    (controlOut device s).Within (FromStart s.td) fun _ => True := by
  unfold controlOut
  refine ite_within trivial (ite_within trivial (within_ask ⟨_, le_rfl, rfl⟩ ?_))
  rintro (e | payload)
  · trivial
  · refine within_ask (.none rfl) ?_
    rintro ⟨xfer, _⟩
    exact ite_within trivial trivial

/-- Every stage takes bytes from the start. -/
theorem within_transferStage (device : δ) (s : Stage) :
    (transferStage device s).Within (FromStart s.td) fun _ => True := by
  unfold transferStage
  dsimp only
  generalize (if s.ed.direction = 1 then UsbPid.out else if s.ed.direction = 2 then UsbPid.in_
    else s.td.pidDirection) = pid
  cases pid with
  | setup => exact within_setupTransfer device s
  | in_ => exact ite_within (within_controlIn s) (within_interruptIn device s)
  | out => exact ite_within (within_controlOut device s) trivial
  | reserved => trivial

/-- Finding the device transfers nothing. -/
theorem within_connectedDevice (device : Option δ) :
    (connectedDevice device).Within (FromStart td) fun _ => True := by
  cases device with
  | none => trivial
  | some dev =>
    refine within_ask (.none rfl) ?_
    rintro (_ | _) <;> trivial

/-- Writing a descriptor back transfers nothing. -/
theorem within_writeBack (tdAddr edAddr : GuestAddr) (o : TdOutcome) :
    (writeBack tdAddr edAddr o : Transfer δ TdOutcome).Within (FromStart td) fun _ => True := by
  refine (within_writeDescriptor _ _ _ _ _ _ _ _).bind fun _ _ => ?_
  exact (within_writeDescriptor _ _ _ _ _ _ _ _).bind fun _ _ => trivial

/-- Every transfer for a descriptor takes bytes from the first on. -/
theorem within_processSingleTd (tdAddr : GuestAddr) (td : GeneralTransferDescriptor)
    (ed : EndpointDescriptor) (edAddr : GuestAddr) (sessions : ControlSessions) (doneHead : U32)
    (device : Option δ) :
    (processSingleTd tdAddr td ed edAddr sessions doneHead device).Within (FromStart td)
      fun _ => True := by
  unfold processSingleTd
  refine (within_connectedDevice device).bind ?_
  rintro (_ | dev) _
  · exact within_writeBack _ _ _
  · refine (within_transferStage dev
      { td := td, ed := ed, session := sessions (sessionKey ed) }).bind fun s _ => ?_
    exact ite_within (ite_within (within_writeBack _ _ _) (within_writeBack _ _ _))
      (within_writeBack _ _ _)

/-! ## The rule -/

/-- A range from the same first byte on. -/
theorem range'_isPrefix (a : ℕ) {m n : ℕ} (h : m ≤ n) : List.range' a m <+: List.range' a n := by
  refine ⟨List.range' (a + m) (n - m), ?_⟩
  have happend := @List.range'_append a m (n - m) 1
  rw [Nat.one_mul, Nat.add_sub_cancel' h] at happend
  exact happend

/-- **The two-page rule** holds of a descriptor if and only if the last page of its buffer is the
first one or the next. -/
theorem two_page_rule_iff (td : GeneralTransferDescriptor) (hcbp : td.cbp ≠ 0) :
    TwoPageRule δ td ↔ FollowingPages td := by
  constructor
  · intro hrule
    exact (length_eq_iff hcbp).1 hrule.length
  · intro hpages
    refine ⟨(length_eq_iff hcbp).2 hpages, ?_, ?_⟩
    · rw [bufferLength_toNat hcbp]
      unfold FollowingPages guestPage at hpages
      omega
    · intro tdAddr ed edAddr sessions doneHead device
      refine (within_processSingleTd tdAddr td ed edAddr sessions doneHead device).mono ?_
        fun _ _ => trivial
      rintro r ⟨n, hn, hr⟩
      rw [hr, ohciBuffer_contiguous hpages, ← bufferLength_toNat hcbp]
      exact range'_isPrefix _ hn

/-- A buffer that crosses into the next page. -/
theorem two_page_rule_crossing : TwoPageRule Unit { cbp := 0x10FF8, be := 0x11007 } :=
  (two_page_rule_iff _ (by decide)).2 (.inr rfl)

/-- With a page between them, or with the last page below the first, it is another buffer: 12 bytes
of two pages are taken for 4108 or for none. -/
theorem two_page_rule_broken :
    ¬ TwoPageRule Unit { cbp := 0x10FF8, be := 0x12003 } ∧
      ¬ TwoPageRule Unit { cbp := 0x20FF8, be := 0x10003 } := by
  constructor
  · intro h
    have hlength := h.length
    rw [length_ohciBuffer] at hlength
    exact absurd hlength (by decide)
  · intro h
    have hlength := h.length
    rw [length_ohciBuffer] at hlength
    exact absurd hlength (by decide)

end Xblob.Analysis
