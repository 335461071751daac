import Mathlib.Data.List.Nodup
import Xblob.Analysis.RoundTrip
import Xblob.Interface.UsbTransfers

/-!
# The gamepad ends with the newest snapshot

Only a snapshot changes the sequence number, and only a snapshot or a reset the report.  A run is
therefore one of a register that keeps the newest value.
-/

set_option autoImplicit false

namespace Xblob.Analysis

open Xblob.Computation Xblob.Input Xblob.Interface Xblob.Usb Xblob.Vfs

variable {d : XidController}

/-! ## Reports -/

/-- What both branches of a test have. -/
theorem outcome_ite {c : Prop} [Decidable c] {P : TransferOutcome → Prop} {a b : TransferOutcome}
    (ha : P a) (hb : P b) : P (if c then a else b) := by
  by_cases hc : c
  · rwa [if_pos hc]
  · rwa [if_neg hc]

/-- What a call other than a snapshot or a reset leaves as it is. -/
structure LeavesReport (d d' : XidController) : Prop where
  report : d'.currentReport = d.currentReport
  sequence : d'.lastSequence = d.lastSequence
  connection : d'.connected = d.connected

/-- What both branches of a test leave as it is. -/
theorem LeavesReport.ite {c : Prop} [Decidable c] {a b : TransferOutcome}
    (ha : LeavesReport d a.device) (hb : LeavesReport d b.device) :
    LeavesReport d (if c then a else b).device :=
  outcome_ite (P := fun o => LeavesReport d o.device) ha hb

end Xblob.Analysis
