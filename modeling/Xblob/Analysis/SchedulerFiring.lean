import Mathlib.Data.Fintype.BigOperators
import Xblob.Analysis.SchedulerClock

/-!
# Events fire once and in order

The events fired so far, in the order of firing, followed by the queue make one line: a
sequence in the order of target cycles and sequence numbers.  Firing the top of the queue
leaves the line as it is, dropping a canceled entry takes one element out of it, and a new
event goes into the part of the line that is still queued, since its target is not behind
the clock and its number is the largest so far.  The firing law is read off the line.

Ids and sequence numbers are 64 bits wide and wrap around, so all this is for runs that
schedule no more events than there are numbers.
-/

set_option autoImplicit false

namespace Xblob.Analysis

open Xblob.Computation Xblob.Core Xblob.Core.Host Xblob.Interface

variable {κ σ : Type}

/-! ## The order of events -/

/-- One event is ordered later than another exactly where that one is before it. -/
theorem gt_iff_before (a b : Event κ) : a.gt b = true ↔ Before b a := by
  unfold Event.gt Before
  by_cases h : a.targetCycle = b.targetCycle
  · simp [h, BitVec.lt_irrefl]
  · have h' : b.targetCycle ≠ a.targetCycle := fun he => h he.symm
    simp [h, h']

/-- Being before composes. -/
theorem before_trans {a b c : Event κ} (hab : Before a b) (hbc : Before b c) : Before a c := by
  rcases hab with hab | ⟨hab, hab'⟩
  · rcases hbc with hbc | ⟨hbc, -⟩
    · exact .inl (BitVec.lt_trans hab hbc)
    · rw [hbc] at hab
      exact .inl hab
  · rcases hbc with hbc | ⟨hbc, hbc'⟩
    · rw [← hab] at hbc
      exact .inl hbc
    · exact .inr ⟨hab.trans hbc, BitVec.lt_trans hab' hbc'⟩

/-- An event before another is not due later. -/
theorem before_le {a b : Event κ} (h : Before a b) : a.targetCycle ≤ b.targetCycle := by
  rcases h with h | ⟨h, -⟩
  · exact BitVec.le_of_lt h
  · rw [h]
    exact BitVec.le_refl _

/-- Events with different numbers are ordered one way or the other. -/
theorem before_or_before {a b : Event κ} (h : a.sequence ≠ b.sequence) : Before a b ∨ Before b a := by
  have htarget := BitVec.lt_trichotomy a.targetCycle b.targetCycle
  have hseq := BitVec.lt_trichotomy a.sequence b.sequence
  unfold Before
  rcases htarget with ht | ht | ht
  · exact .inl (.inl ht)
  · rcases hseq with hs | hs | hs
    · exact .inl (.inr ⟨ht, hs⟩)
    · exact absurd hs h
    · exact .inr (.inr ⟨ht.symm, hs⟩)
  · exact .inr (.inl ht)

/-- Putting an event into the queue adds it. -/
theorem mem_push {ev e : Event κ} {queue : List (Event κ)} :
    e ∈ Scheduler.push ev queue ↔ e = ev ∨ e ∈ queue := List.mem_orderedInsert _

/-- A new event is put in its place. -/
theorem push_sorted {ev : Event κ} {queue : List (Event κ)} (hsorted : queue.Pairwise Before)
    (hnew : ∀ e ∈ queue, ev.sequence ≠ e.sequence) : (Scheduler.push ev queue).Pairwise Before := by
  induction queue with
  | nil => exact List.pairwise_singleton _ _
  | cons top rest ih =>
    obtain ⟨htop, hrest⟩ := List.pairwise_cons.mp hsorted
    unfold Scheduler.push
    by_cases hgt : ev.gt top = true
    · rw [List.orderedInsert_of_not_le _ _ (by simp [hgt]), List.pairwise_cons]
      refine ⟨?_, ih hrest fun e he => hnew e (List.mem_cons_of_mem _ he)⟩
      intro e he
      rcases mem_push.mp he with rfl | he
      · exact (gt_iff_before _ _).mp hgt
      · exact htop e he
    · rw [List.orderedInsert_cons_of_le _ _ (by simp [hgt]), List.pairwise_cons]
      have hbefore : Before ev top := by
        rcases before_or_before (hnew top List.mem_cons_self) with h | h
        · exact h
        · exact absurd ((gt_iff_before _ _).mpr h) hgt
      refine ⟨?_, hsorted⟩
      intro e he
      rcases List.mem_cons.mp he with rfl | he
      · exact hbefore
      · exact before_trans hbefore (htop e he)

/-! ## The line -/

/-- The events fired, in the order of firing, then the queue. -/
def line (h : Host κ σ) : List (Event κ) := (firedEvents h).reverse ++ h.scheduler.eventQueue

/-- What holds at every point of a run. -/
structure Kept (h : Host κ σ) : Prop where
  ids : h.scheduler.nextEventId = h.scheduler.nextSequence + 1
  next : h.scheduler.nextSequence = BitVec.ofNat 64 (scheduledEvents h).length
  made : ∀ ev ∈ scheduledEvents h,
    ev.id = ev.sequence + 1 ∧ ev.sequence.toNat < (scheduledEvents h).length
  known : ∀ ev ∈ line h, ev ∈ scheduledEvents h
  distinct : ((line h).map Event.sequence).Nodup
  sorted : (line h).Pairwise Before
  passed : ∀ ev ∈ firedEvents h, ev.targetCycle ≤ h.scheduler.currentCycle
  disjoint : Disjoint h.scheduler.pendingIds h.scheduler.canceledIds
  queued : ∀ id, id ∈ h.scheduler.pendingIds ∨ id ∈ h.scheduler.canceledIds ↔
    id ∈ h.scheduler.eventQueue.map Event.id
  canceledKnown : ∀ id ∈ canceledEvents h, ∃ ev ∈ scheduledEvents h, ev.id = id
  canceledGone : ∀ id ∈ canceledEvents h,
    id ∉ h.scheduler.pendingIds ∧ id ∉ (firedEvents h).map Event.id

/-- A queued event stands in the line. -/
theorem queue_line {h : Host κ σ} {ev : Event κ} (hev : ev ∈ h.scheduler.eventQueue) :
    ev ∈ line h := List.mem_append_right _ hev

/-- A fired event stands in the line. -/
theorem fired_line {h : Host κ σ} {ev : Event κ} (hev : ev ∈ firedEvents h) : ev ∈ line h :=
  List.mem_append_left _ (List.mem_reverse.mpr hev)

namespace Kept

variable {h : Host κ σ}

/-- The ids of the line are distinct too. -/
theorem ids_nodup (hk : Kept h) : ((line h).map Event.id).Nodup := by
  have hids : (line h).map Event.id = ((line h).map Event.sequence).map (· + 1) := by
    rw [List.map_map]
    apply List.map_congr_left
    intro ev hev
    exact (hk.made ev (hk.known ev hev)).1
  rw [hids]
  refine hk.distinct.map ?_
  intro a b hab
  exact (BitVec.add_left_inj 1).mp hab

/-- An id is not both in the queue and fired. -/
theorem queue_not_fired (hk : Kept h) {id : EventId} (hq : id ∈ h.scheduler.eventQueue.map Event.id) :
    id ∉ (firedEvents h).map Event.id := by
  intro hf
  have hn := hk.ids_nodup
  unfold line at hn
  rw [List.map_append, List.nodup_append] at hn
  refine hn.2.2 id ?_ id hq rfl
  rw [List.map_reverse, List.mem_reverse]
  exact hf

/-- The id at the top of the queue is at no other place in it. -/
theorem top_not_rest (hk : Kept h) {top : Event κ} {rest : List (Event κ)}
    (hq : h.scheduler.eventQueue = top :: rest) : top.id ∉ rest.map Event.id := by
  have hn := hk.ids_nodup
  unfold line at hn
  rw [List.map_append, List.nodup_append, hq, List.map_cons, List.nodup_cons] at hn
  exact hn.2.1.1

/-- The numbers of the next event are new. -/
theorem fresh (hk : Kept h) (hroom : (scheduledEvents h).length < eventNumbers) {ev : Event κ}
    (hev : ev ∈ scheduledEvents h) :
    ev.sequence.toNat < h.scheduler.nextSequence.toNat ∧ ev.id ≠ h.scheduler.nextEventId := by
  obtain ⟨hid, hlt⟩ := hk.made ev hev
  have hnext : h.scheduler.nextSequence.toNat = (scheduledEvents h).length := by
    rw [hk.next, BitVec.toNat_ofNat]
    exact Nat.mod_eq_of_lt hroom
  have hseq : ev.sequence.toNat < h.scheduler.nextSequence.toNat := by omega
  refine ⟨hseq, ?_⟩
  intro he
  rw [hid, hk.ids] at he
  rw [(BitVec.add_left_inj 1).mp he] at hseq
  exact Nat.lt_irrefl _ hseq

/-! ## Deeds -/

/-- Scheduling an event at a cycle that is not behind the clock. -/
theorem schedule (hk : Kept h) (hroom : (scheduledEvents h).length < eventNumbers)
    {targetCycle : Cycle} (htarget : ¬ targetCycle < h.scheduler.currentCycle)
    (callback : Option κ) :
    Kept (h.record (.scheduled (h.scheduler.newEvent targetCycle callback))
      (h.scheduler.withEvent (h.scheduler.newEvent targetCycle callback))) := by
  generalize hev : h.scheduler.newEvent targetCycle callback = ev
  have hid : ev.id = h.scheduler.nextEventId := by rw [← hev]; rfl
  have hseq : ev.sequence = h.scheduler.nextSequence := by rw [← hev]; rfl
  have hcycle : ev.targetCycle = targetCycle := by rw [← hev]; rfl
  have hnext : h.scheduler.nextSequence.toNat = (scheduledEvents h).length := by
    rw [hk.next, BitVec.toNat_ofNat]
    exact Nat.mod_eq_of_lt hroom
  have hnew : ∀ e ∈ line h, ev.sequence ≠ e.sequence := by
    intro e he heq
    have hlt := (hk.fresh hroom (hk.known e he)).1
    rw [← hseq, heq] at hlt
    exact Nat.lt_irrefl _ hlt
  have hqueue : ∀ id, id ∈ (Scheduler.push ev h.scheduler.eventQueue).map Event.id ↔
      id = ev.id ∨ id ∈ h.scheduler.eventQueue.map Event.id := by
    intro id
    constructor
    · intro hmem
      obtain ⟨e, he, rfl⟩ := List.mem_map.mp hmem
      rcases mem_push.mp he with rfl | he
      · exact .inl rfl
      · exact .inr (List.mem_map_of_mem he)
    · rintro (rfl | hmem)
      · exact List.mem_map_of_mem (mem_push.mpr (.inl rfl))
      · obtain ⟨e, he, rfl⟩ := List.mem_map.mp hmem
        exact List.mem_map_of_mem (mem_push.mpr (.inr he))
  have hperm : (line (h.record (.scheduled ev) (h.scheduler.withEvent ev))).Perm (ev :: line h) := by
    refine ((List.perm_orderedInsert _ ev h.scheduler.eventQueue).append_left _).trans ?_
    exact List.perm_middle
  refine ⟨?_, ?_, ?_, ?_, ?_, ?_, hk.passed, ?_, ?_, ?_, ?_⟩
  · change h.scheduler.nextEventId + 1 = h.scheduler.nextSequence + 1 + 1
    rw [hk.ids]
  · change h.scheduler.nextSequence + 1 = BitVec.ofNat 64 ((scheduledEvents h).length + 1)
    rw [hk.next, BitVec.ofNat_add]
    rfl
  · intro e he
    change _ ∧ _ < (scheduledEvents h).length + 1
    rcases List.mem_cons.mp he with rfl | he
    · refine ⟨?_, ?_⟩
      · rw [hid, hseq, hk.ids]
      · rw [hseq]
        omega
    · obtain ⟨h1, h2⟩ := hk.made e he
      exact ⟨h1, by omega⟩
  · intro e he
    rcases List.mem_cons.mp (hperm.mem_iff.mp he) with rfl | he
    · exact List.mem_cons_self
    · exact List.mem_cons_of_mem _ (hk.known e he)
  · rw [(hperm.map Event.sequence).nodup_iff, List.map_cons, List.nodup_cons]
    refine ⟨?_, hk.distinct⟩
    intro hmem
    obtain ⟨e, he, heq⟩ := List.mem_map.mp hmem
    exact hnew e he heq.symm
  · -- the new event comes after everything that was fired
    obtain ⟨hfired, hrest, hcross⟩ := List.pairwise_append.mp hk.sorted
    refine List.pairwise_append.mpr ⟨hfired, ?_, ?_⟩
    · exact push_sorted hrest fun e he => hnew e (queue_line he)
    · intro f hf e he
      rcases mem_push.mp he with rfl | he
      · have hpassed := hk.passed f (List.mem_reverse.mp hf)
        have hle : f.targetCycle ≤ e.targetCycle := by
          rw [hcycle]
          exact BitVec.le_trans hpassed (BitVec.not_lt.mp htarget)
        by_cases heq : f.targetCycle = e.targetCycle
        · refine .inr ⟨heq, ?_⟩
          rw [BitVec.lt_def, hseq]
          exact (hk.fresh hroom (hk.known f (fired_line (List.mem_reverse.mp hf)))).1
        · exact .inl (BitVec.lt_of_le_ne hle heq)
      · exact hcross f hf e he
  · change Disjoint (insert ev.id h.scheduler.pendingIds) h.scheduler.canceledIds
    rw [Finset.disjoint_insert_left]
    refine ⟨?_, hk.disjoint⟩
    intro hmem
    obtain ⟨e, he, heq⟩ := List.mem_map.mp ((hk.queued _).mp (.inr hmem))
    exact (hk.fresh hroom (hk.known e (queue_line he))).2 (heq.trans hid)
  · intro id
    change id ∈ insert ev.id h.scheduler.pendingIds ∨ id ∈ h.scheduler.canceledIds ↔
      id ∈ (Scheduler.push ev h.scheduler.eventQueue).map Event.id
    rw [hqueue, ← hk.queued, Finset.mem_insert, or_assoc]
  · intro id hmem
    obtain ⟨e, he, heq⟩ := hk.canceledKnown id hmem
    exact ⟨e, List.mem_cons_of_mem _ he, heq⟩
  · intro id hmem
    obtain ⟨hpending, hnot⟩ := hk.canceledGone id hmem
    refine ⟨?_, hnot⟩
    change id ∉ insert ev.id h.scheduler.pendingIds
    rw [Finset.mem_insert, not_or]
    refine ⟨?_, hpending⟩
    rintro rfl
    obtain ⟨e, he, heq⟩ := hk.canceledKnown _ hmem
    exact (hk.fresh hroom he).2 (heq.trans hid)

/-- Canceling a pending event. -/
theorem cancel (hk : Kept h) {id : EventId} (hid : id ∈ h.scheduler.pendingIds) :
    Kept (h.record (.canceled id) (h.scheduler.withoutEvent id)) := by
  have hqueue : id ∈ h.scheduler.eventQueue.map Event.id := (hk.queued id).mp (.inl hid)
  refine ⟨hk.ids, hk.next, hk.made, hk.known, hk.distinct, hk.sorted, hk.passed, ?_, ?_, ?_, ?_⟩
  · change Disjoint (h.scheduler.pendingIds.erase id) (insert id h.scheduler.canceledIds)
    rw [Finset.disjoint_insert_right]
    refine ⟨Finset.notMem_erase _ _, ?_⟩
    exact hk.disjoint.mono_left (Finset.erase_subset _ _)
  · intro id'
    change id' ∈ h.scheduler.pendingIds.erase id ∨ id' ∈ insert id h.scheduler.canceledIds ↔ _
    rw [Finset.mem_erase, Finset.mem_insert]
    change _ ↔ id' ∈ h.scheduler.eventQueue.map Event.id
    rw [← hk.queued]
    by_cases heq : id' = id
    · subst heq
      simp [hid]
    · simp [heq]
  · intro id' hmem
    rcases List.mem_cons.mp hmem with rfl | hmem
    · obtain ⟨e, he, heq⟩ := List.mem_map.mp hqueue
      exact ⟨e, hk.known e (queue_line he), heq⟩
    · exact hk.canceledKnown id' hmem
  · intro id' hmem
    rcases List.mem_cons.mp hmem with rfl | hmem
    · exact ⟨Finset.notMem_erase _ _, hk.queue_not_fired hqueue⟩
    · obtain ⟨hpending, hnot⟩ := hk.canceledGone id' hmem
      exact ⟨fun he => hpending (Finset.mem_of_mem_erase he), hnot⟩

/-- Dropping a canceled entry from the top of the queue. -/
theorem drop (hk : Kept h) {top : Event κ} {rest : List (Event κ)}
    (hq : h.scheduler.eventQueue = top :: rest) (hcanceled : top.id ∈ h.scheduler.canceledIds) :
    Kept (h.record (.dropped top.id) (h.scheduler.dropCanceled top.id rest)) := by
  have hsub : List.Sublist (line (h.record (.dropped top.id)
      (h.scheduler.dropCanceled top.id rest))) (line h) := by
    refine List.Sublist.append_left ?_ _
    rw [hq]
    exact List.sublist_cons_self top rest
  have hpending : top.id ∉ h.scheduler.pendingIds :=
    Finset.disjoint_right.mp hk.disjoint hcanceled
  refine ⟨hk.ids, hk.next, hk.made, fun e he => hk.known e (hsub.subset he),
    hk.distinct.sublist (hsub.map _), hk.sorted.sublist hsub, hk.passed, ?_, ?_, hk.canceledKnown,
    hk.canceledGone⟩
  · exact hk.disjoint.mono_right (Finset.erase_subset _ _)
  · intro id
    change id ∈ h.scheduler.pendingIds ∨ id ∈ h.scheduler.canceledIds.erase top.id ↔
      id ∈ rest.map Event.id
    have hids := hk.queued id
    rw [hq, List.map_cons, List.mem_cons] at hids
    rw [Finset.mem_erase]
    by_cases heq : id = top.id
    · subst heq
      simp [hpending, hk.top_not_rest hq]
    · simpa [heq] using hids

/-- Taking a live event from the top of the queue. -/
theorem fire (hk : Kept h) {top : Event κ} {rest : List (Event κ)}
    (hq : h.scheduler.eventQueue = top :: rest) (hlive : top.id ∉ h.scheduler.canceledIds) :
    Kept (h.record (.fired top) (h.scheduler.takeEvent top rest)) := by
  have hline : line (h.record (.fired top) (h.scheduler.takeEvent top rest)) = line h := by
    change (top :: firedEvents h).reverse ++ rest = (firedEvents h).reverse ++ h.scheduler.eventQueue
    rw [hq, List.reverse_cons, List.append_assoc]
    rfl
  have htop : top ∈ h.scheduler.eventQueue := by
    rw [hq]
    exact List.mem_cons_self
  have hpending : top.id ∈ h.scheduler.pendingIds := by
    rcases (hk.queued top.id).mpr (List.mem_map_of_mem htop) with hp | hc
    · exact hp
    · exact absurd hc hlive
  refine ⟨hk.ids, hk.next, hk.made, ?_, ?_, ?_, ?_, ?_, ?_, hk.canceledKnown, ?_⟩
  · rw [hline]
    exact hk.known
  · rw [hline]
    exact hk.distinct
  · rw [hline]
    exact hk.sorted
  · intro f hf
    rcases List.mem_cons.mp hf with rfl | hf
    · exact BitVec.le_refl _
    · have hcross := (List.pairwise_append.mp hk.sorted).2.2
      exact before_le (hcross f (List.mem_reverse.mpr hf) top htop)
  · exact hk.disjoint.mono_left (Finset.erase_subset _ _)
  · intro id
    change id ∈ h.scheduler.pendingIds.erase top.id ∨ id ∈ h.scheduler.canceledIds ↔
      id ∈ rest.map Event.id
    have hids := hk.queued id
    rw [hq, List.map_cons, List.mem_cons] at hids
    rw [Finset.mem_erase]
    by_cases heq : id = top.id
    · subst heq
      simp [hlive, hk.top_not_rest hq]
    · simpa [heq] using hids
  · intro id hmem
    obtain ⟨hnot, hfired⟩ := hk.canceledGone id hmem
    refine ⟨fun he => hnot (Finset.mem_of_mem_erase he), ?_⟩
    change id ∉ (top :: firedEvents h).map Event.id
    rw [List.map_cons, List.mem_cons, not_or]
    refine ⟨?_, hfired⟩
    rintro rfl
    exact hnot hpending

/-- The clock set to the target of a run. -/
theorem reach (hk : Kept h) {targetCycle : Cycle} (hle : h.scheduler.currentCycle ≤ targetCycle) :
    Kept (h.record (.reached targetCycle) { h.scheduler with currentCycle := targetCycle }) :=
  ⟨hk.ids, hk.next, hk.made, hk.known, hk.distinct, hk.sorted,
    fun ev hev => BitVec.le_trans (hk.passed ev hev) hle, hk.disjoint, hk.queued,
    hk.canceledKnown, hk.canceledGone⟩

/-- The firing law is read off the line. -/
theorem law (hk : Kept h) : FiringLaw h := by
  have hids := hk.ids_nodup
  unfold line at hids
  rw [List.map_append, List.nodup_append, List.map_reverse, List.nodup_reverse] at hids
  refine ⟨fun ev hev => hk.known ev (fired_line hev), hids.1, ?_, ?_, hk.disjoint, ?_⟩
  · intro ev hev hcanceled
    exact (hk.canceledGone ev.id hcanceled).2 (List.mem_map_of_mem hev)
  · exact List.pairwise_reverse.mp (List.pairwise_append.mp hk.sorted).1
  · ext id
    rw [Finset.mem_union, List.mem_toFinset]
    exact hk.queued id

end Kept

/-! ## Calls -/

/-- The invariant, as long as there are numbers for all events. -/
def Lawful (h : Host κ σ) : Prop := (scheduledEvents h).length ≤ eventNumbers → Kept h

/-- A run from `h₀` to the target has fired a number of events and not passed the target. -/
structure Running (h₀ : Host κ σ) (targetCycle : Cycle) (eventsFired : U64) (h : Host κ σ) :
    Prop where
  lawful : Lawful h
  clock : h.scheduler.currentCycle ≤ targetCycle
  count : (firedEvents h).length = (firedEvents h₀).length + eventsFired.toNat

section Calls

variable {h : Host κ σ} {I : Host κ σ → Prop}

/-- Scheduling keeps what does not depend on the record of scheduled events. -/
theorem scheduleEvent_ends (hs : I h) (targetCycle : Cycle) (callback : Option κ)
    (hI : ¬ targetCycle < h.scheduler.currentCycle →
      I (h.record (.scheduled (h.scheduler.newEvent targetCycle callback))
        (h.scheduler.withEvent (h.scheduler.newEvent targetCycle callback)))) :
    Ends (scheduleEvent targetCycle callback) h (fun _ => I) I := by
  unfold scheduleEvent
  simp only [ends_bind, ends_get]
  split_ifs with hpast
  · exact hs
  · exact hI hpast

/-- Cancelling ends where the host is unchanged, or has the event taken out. -/
theorem cancelEvent_ends (hs : I h) (id : EventId)
    (hI : id ∈ h.scheduler.pendingIds → I (h.record (.canceled id) (h.scheduler.withoutEvent id))) :
    Ends (cancelEvent id) h (fun _ => I) I := by
  unfold cancelEvent
  simp only [ends_bind, ends_get]
  by_cases hpending : id ∈ h.scheduler.pendingIds
  · rw [if_neg (not_not.mpr hpending)]
    exact hI hpending
  · rw [if_pos hpending]
    exact hs

/-- A call that leaves the clock alone schedules an event, cancels one, or changes nothing. -/
theorem answer_leavesClock
    {loop : Cycle → U64 → EStateM Unfinished (Host κ σ) SchedulerStatus}
    {c : SchedulerCall κ σ} (hc : LeavesClock c) (hs : I h)
    (hworld : ∀ w, I { h with world := w })
    (hschedule : ∀ targetCycle callback, ¬ targetCycle < h.scheduler.currentCycle →
      I (h.record (.scheduled (h.scheduler.newEvent targetCycle callback))
        (h.scheduler.withEvent (h.scheduler.newEvent targetCycle callback))))
    (hcancel : ∀ id ∈ h.scheduler.pendingIds,
      I (h.record (.canceled id) (h.scheduler.withoutEvent id))) :
    Ends (answer loop c) h (fun _ => I) I := by
  cases c with
  | advanceCycles delta => exact hc.elim
  | scheduleEvent targetCycle callback =>
    exact scheduleEvent_ends hs targetCycle callback (hschedule targetCycle callback)
  | scheduleRelative deltaCycles callback =>
    change Ends (scheduleRelative deltaCycles callback) h (fun (_ : Result EventId) => I) I
    unfold scheduleRelative
    simp only [ends_bind, ends_get]
    cases checkedAdd h.scheduler.currentCycle deltaCycles with
    | none => exact hs
    | some targetCycle =>
      exact scheduleEvent_ends hs targetCycle callback (hschedule targetCycle callback)
  | cancelEvent id => exact cancelEvent_ends hs id (hcancel id)
  | runUntil targetCycle maxEvents => exact hc.elim
  | stepCycles delta maxEvents => exact hc.elim
  | currentCycle => exact hs
  | pendingEventCount => exact hs
  | outside change => exact hworld _

end Calls

/-- Scheduling keeps a host lawful. -/
theorem Lawful.schedule {h : Host κ σ} (hl : Lawful h) {targetCycle : Cycle}
    (htarget : ¬ targetCycle < h.scheduler.currentCycle) (callback : Option κ) :
    Lawful (h.record (.scheduled (h.scheduler.newEvent targetCycle callback))
      (h.scheduler.withEvent (h.scheduler.newEvent targetCycle callback))) := by
  intro hcount
  change (scheduledEvents h).length + 1 ≤ eventNumbers at hcount
  exact (hl (by omega)).schedule hcount htarget callback

/-- Cancelling keeps a host lawful. -/
theorem Lawful.cancel {h : Host κ σ} (hl : Lawful h) {id : EventId}
    (hid : id ∈ h.scheduler.pendingIds) :
    Lawful (h.record (.canceled id) (h.scheduler.withoutEvent id)) :=
  fun hcount => (hl hcount).cancel hid

/-- What is outside the scheduler does not matter. -/
theorem Lawful.outside {h : Host κ σ} (hl : Lawful h) (w : σ) : Lawful { h with world := w } := by
  intro hcount
  have hk := hl hcount
  exact ⟨hk.ids, hk.next, hk.made, hk.known, hk.distinct, hk.sorted, hk.passed, hk.disjoint,
    hk.queued, hk.canceledKnown, hk.canceledGone⟩

/-- Between runs, every call that leaves the clock alone keeps the law. -/
theorem answer_lawful {loop : Cycle → U64 → EStateM Unfinished (Host κ σ) SchedulerStatus}
    {c : SchedulerCall κ σ} (hc : LeavesClock c) {h : Host κ σ} (hl : Lawful h) :
    Ends (answer loop c) h (fun _ => Lawful) Lawful := by
  apply answer_leavesClock hc hl
  · intro w
    exact hl.outside w
  · intro t callback htarget
    exact hl.schedule htarget callback
  · intro id hid
    exact hl.cancel hid

/-- Inside a run, a call that leaves the clock alone leaves the run where it is. -/
theorem answer_running {loop : Cycle → U64 → EStateM Unfinished (Host κ σ) SchedulerStatus}
    {c : SchedulerCall κ σ} (hc : LeavesClock c) {h₀ h : Host κ σ} {targetCycle : Cycle}
    {eventsFired : U64} (hr : Running h₀ targetCycle eventsFired h) :
    Ends (answer loop c) h (fun _ => Running h₀ targetCycle eventsFired)
      (Running h₀ targetCycle eventsFired) := by
  apply answer_leavesClock hc hr
  · intro w
    exact ⟨hr.lawful.outside w, hr.clock, hr.count⟩
  · intro t callback htarget
    exact ⟨hr.lawful.schedule htarget callback, hr.clock, hr.count⟩
  · intro id hid
    exact ⟨hr.lawful.cancel hid, hr.clock, hr.count⟩

/-! ## Runs -/

/-- A run that has ended: the law holds and the report is true. -/
def Ended (h₀ : Host κ σ) (targetCycle : Cycle) (maxEvents : U64) (status : SchedulerStatus)
    (h : Host κ σ) : Prop :=
  (scheduledEvents h).length ≤ eventNumbers → Kept h ∧ RunReports targetCycle maxEvents h₀ h status

/-- A run ends at its target when no event is left, or none up to the target. -/
theorem finishRun_ended {h₀ h : Host κ σ} {targetCycle : Cycle} {maxEvents eventsFired : U64}
    (hr : Running h₀ targetCycle eventsFired h)
    (htop : ∀ top rest, h.scheduler.eventQueue = top :: rest →
      top.id ∉ h.scheduler.canceledIds ∧ top.targetCycle > targetCycle) :
    Ends (finishRun targetCycle maxEvents eventsFired) h (Ended h₀ targetCycle maxEvents) Lawful := by
  unfold Ends
  rw [finishRun_eq htop]
  intro hcount
  have hk := hr.lawful hcount
  refine ⟨hk.reach hr.clock, rfl, ?_⟩
  rintro ev ⟨hev, -⟩
  change ev ∈ h.scheduler.eventQueue at hev
  change targetCycle < ev.targetCycle
  cases hq : h.scheduler.eventQueue with
  | nil =>
    rw [hq] at hev
    cases hev
  | cons top rest =>
    have hlate := (htop top rest hq).2
    rw [hq] at hev
    rcases List.mem_cons.mp hev with rfl | hev
    · exact hlate
    · have hsorted := (List.pairwise_append.mp hk.sorted).2.1
      rw [hq, List.pairwise_cons] at hsorted
      have hle := before_le (hsorted.1 ev hev)
      rw [BitVec.lt_def]
      exact Nat.lt_of_lt_of_le (BitVec.lt_def.mp hlate) (BitVec.le_def.mp hle)

/-- **The loop keeps the law and reports the truth**, with callbacks that leave the clock
alone. -/
theorem runLoop_ended {behave : κ → Cycle → Callback κ σ}
    (hbehave : ∀ name cycle, (behave name cycle).Within LeavesClock fun _ => True)
    {h₀ : Host κ σ} {targetCycle : Cycle} {maxEvents : U64} (turns : ℕ) {eventsFired : U64}
    {h : Host κ σ} (hfew : eventsFired ≤ maxEvents) (hr : Running h₀ targetCycle eventsFired h) :
    Ends (runLoop behave turns eventsFired targetCycle maxEvents) h
      (Ended h₀ targetCycle maxEvents) Lawful := by
  induction turns generalizing eventsFired h with
  | zero => exact hr.lawful
  | succ turns ih =>
    unfold runLoop
    simp only [ends_bind, ends_get]
    cases hq : h.scheduler.eventQueue with
    | nil =>
      apply finishRun_ended hr
      intro top rest hcons
      rw [hq] at hcons
      cases hcons
    | cons top rest =>
      dsimp only
      split_ifs with hcanceled hlate hlimit
      · rw [ends_bind, ends_set]
        apply ih hfew
        exact ⟨fun hcount => (hr.lawful hcount).drop hq hcanceled, hr.clock, hr.count⟩
      · apply finishRun_ended hr
        intro top' rest' hcons
        rw [hq] at hcons
        cases hcons
        exact ⟨hcanceled, hlate⟩
      · intro hcount
        have hk := hr.lawful hcount
        have hmax : eventsFired = maxEvents := BitVec.le_antisymm hfew hlimit
        have hmem : top ∈ h.scheduler.eventQueue := by
          rw [hq]
          exact List.mem_cons_self
        refine ⟨hk, ?_, top, ⟨hmem, ?_⟩, BitVec.not_lt.mp hlate⟩
        · rw [hr.count, hmax]
        · rcases (hk.queued top.id).mpr (List.mem_map_of_mem hmem) with hp | hc
          · exact hp
          · exact absurd hc hcanceled
      · rw [ends_bind, ends_set, ends_bind]
        have hlt : eventsFired < maxEvents := BitVec.not_le.mp hlimit
        have hsucc : (eventsFired + 1).toNat = eventsFired.toNat + 1 := by
          rw [BitVec.lt_def] at hlt
          have := maxEvents.isLt
          rw [BitVec.toNat_add, Nat.mod_eq_of_lt]
          · rfl
          · change eventsFired.toNat + 1 < _
            omega
        have hfired : Running h₀ targetCycle (eventsFired + 1)
            (h.record (.fired top) (h.scheduler.takeEvent top rest)) := by
          refine ⟨fun hcount => (hr.lawful hcount).fire hq hcanceled, BitVec.not_lt.mp hlate, ?_⟩
          change (firedEvents h).length + 1 = _
          rw [hr.count, hsucc, Nat.add_assoc]
        have hcall : Ends (callBack behave (runLoop behave turns 0) top)
            (h.record (.fired top) (h.scheduler.takeEvent top rest))
            (fun _ => Running h₀ targetCycle (eventsFired + 1))
            (Running h₀ targetCycle (eventsFired + 1)) := by
          unfold callBack
          cases top.callback with
          | none => exact hfired
          | some name =>
            refine Program.Within.ends ?_ (hbehave name top.targetCycle) hfired
            intro c hc h' hr'
            exact answer_running hc hr'
        refine hcall.mono (fun _ h' hr' => ih ?_ hr') fun h' hr' => hr'.lawful
        rw [BitVec.le_def, hsucc]
        exact hlt

/-- A run keeps a host lawful and ends with what its status says. -/
theorem runUntil_ended {behave : κ → Cycle → Callback κ σ}
    (hbehave : ∀ name cycle, (behave name cycle).Within LeavesClock fun _ => True)
    (turns : ℕ) (targetCycle : Cycle) (maxEvents : U64) {h : Host κ σ} (hl : Lawful h) :
    Ends (runUntil behave turns targetCycle maxEvents) h
      (fun result h' => Lawful h' ∧ ∀ status, result = .ok status →
        Ended h targetCycle maxEvents status h') Lawful := by
  unfold runUntil checkedRun
  simp only [ends_bind, ends_get]
  split_ifs with hpast
  · refine ⟨hl, ?_⟩
    intro status heq
    cases heq
  · have hrunning : Running h targetCycle 0 h := ⟨hl, BitVec.not_lt.mp hpast, rfl⟩
    have hzero : (0 : U64) ≤ maxEvents := by
      rw [BitVec.le_def]
      exact Nat.zero_le _
    have hended : Ends (runLoop behave turns 0 targetCycle maxEvents) h
        (Ended h targetCycle maxEvents) Lawful := runLoop_ended hbehave turns hzero hrunning
    rw [ends_bind]
    refine hended.mono ?_ fun h' hl' => hl'
    intro status h' hend
    refine ⟨fun hcount => (hend hcount).1, ?_⟩
    intro status' heq
    cases heq
    exact hend

/-- Every call keeps a host lawful. -/
theorem call_lawful {behave : κ → Cycle → Callback κ σ}
    (hbehave : ∀ name cycle, (behave name cycle).Within LeavesClock fun _ => True) (turns : ℕ)
    {c : SchedulerCall κ σ} (hc : RunsEvents c) {h : Host κ σ} (hl : Lawful h) :
    Ends (Host.call behave turns c) h (fun _ => Lawful) Lawful := by
  have hrun : ∀ t m, Ends (runUntil behave turns t m) h (fun _ => Lawful) Lawful := by
    intro t m
    exact (runUntil_ended hbehave turns t m hl).mono (fun _ _ hend => hend.1) fun _ hl' => hl'
  have hquiet : ∀ c' : SchedulerCall κ σ, LeavesClock c' →
      Ends (Host.call behave turns c') h (fun _ => Lawful) Lawful := by
    intro c' hc'
    exact answer_lawful hc' hl
  cases c with
  | advanceCycles delta => exact hc.elim
  | runUntil targetCycle maxEvents => exact hrun targetCycle maxEvents
  | stepCycles delta maxEvents =>
    change Ends (checkedStep (runLoop behave turns 0) delta maxEvents) h
      (fun (_ : Result SchedulerStatus) => Lawful) Lawful
    unfold checkedStep
    simp only [ends_bind, ends_get]
    cases checkedAdd h.scheduler.currentCycle delta with
    | none => exact hl
    | some targetCycle => exact hrun targetCycle maxEvents
  | scheduleEvent targetCycle callback => exact hquiet _ trivial
  | scheduleRelative deltaCycles callback => exact hquiet _ trivial
  | cancelEvent id => exact hquiet _ trivial
  | currentCycle => exact hquiet _ trivial
  | pendingEventCount => exact hquiet _ trivial
  | outside change => exact hquiet _ trivial

/-- Every list of calls keeps a host lawful. -/
theorem makeCalls_lawful {behave : κ → Cycle → Callback κ σ}
    (hbehave : ∀ name cycle, (behave name cycle).Within LeavesClock fun _ => True) (turns : ℕ)
    {calls : List (SchedulerCall κ σ)} (hcalls : ∀ c ∈ calls, RunsEvents c) {h : Host κ σ}
    (hl : Lawful h) : Ends (makeCalls behave turns calls) h (fun _ => Lawful) Lawful := by
  induction calls generalizing h with
  | nil => exact hl
  | cons c cs ih =>
    unfold makeCalls
    rw [ends_bind]
    have hcall := call_lawful hbehave turns (hcalls c List.mem_cons_self) hl
    refine hcall.mono (fun _ h' hl' => ?_) fun h' hl' => hl'
    exact ih (fun c' hc' => hcalls c' (List.mem_cons_of_mem _ hc')) hl'

/-- A fresh host is kept. -/
theorem freshHost_kept (initialCycle : Cycle) (world : σ) :
    Kept (freshHost initialCycle world : Host κ σ) := by
  refine ⟨rfl, rfl, nofun, nofun, List.nodup_nil, List.Pairwise.nil, nofun, ?_, ?_, nofun, nofun⟩
  · exact Finset.disjoint_empty_left _
  · intro id
    simp [freshHost]

/-- **The firing law.**  Whatever the host calls, the clock moved by runs only, and whatever
the callbacks schedule and cancel: at every point of a run that has scheduled no more
events than there are numbers the law holds, and what a further `RunUntil` reports is so. -/
theorem firing_law (behave : κ → Cycle → Callback κ σ)
    (hbehave : ∀ name cycle, (behave name cycle).Within LeavesClock fun _ => True) (turns : ℕ)
    (initialCycle : Cycle) (world : σ) (calls : List (SchedulerCall κ σ))
    (hcalls : ∀ c ∈ calls, RunsEvents c)
    (hcount : (scheduledEvents (hostAfter behave turns initialCycle world calls)).length ≤
      eventNumbers) :
    FiringLaw (hostAfter behave turns initialCycle world calls) ∧
      ∀ turns' targetCycle maxEvents status h',
        (runUntil behave turns' targetCycle maxEvents).run
          (hostAfter behave turns initialCycle world calls) = .ok (.ok status) h' →
        (scheduledEvents h').length ≤ eventNumbers →
        RunReports targetCycle maxEvents (hostAfter behave turns initialCycle world calls) h'
          status := by
  have hlawful : Lawful (hostAfter behave turns initialCycle world calls) :=
    (makeCalls_lawful hbehave turns hcalls fun _ => freshHost_kept initialCycle world).stateAfter
  refine ⟨(hlawful hcount).law, ?_⟩
  intro turns' targetCycle maxEvents status h' hrun hcount'
  have hend := (runUntil_ended hbehave turns' targetCycle maxEvents hlawful).ok hrun
  exact (hend.2 status rfl hcount').2

/-! ## The ends of the law -/

/-- Three events, one of them canceled, run one at a time. -/
theorem firing_law_run :
    (firedEvents (hostAfter idleCallbacks 4 0 () [.scheduleEvent 9 (some ()),
      .scheduleEvent 5 (some ()), .scheduleEvent 5 none, .cancelEvent 2, .runUntil 20 1])).map
        Event.id = [3] ∧
    FiringLaw (hostAfter idleCallbacks 4 0 () [.scheduleEvent 9 (some ()),
      .scheduleEvent 5 (some ()), .scheduleEvent 5 none, .cancelEvent 2, .runUntil 20 1]) := by
  refine ⟨by decide +kernel, ?_⟩
  refine (firing_law idleCallbacks (fun _ _ => trivial) 4 0 () _ ?_ (by decide +kernel)).1
  intro c hc
  simp only [List.mem_cons, List.not_mem_nil, or_false] at hc
  rcases hc with rfl | rfl | rfl | rfl | rfl <;> trivial

/-- The callbacks that were called. -/
def callbacksRun (h : Host κ σ) : List (Event κ) :=
  (firedEvents h).filter fun ev => ev.callback.isSome

/-- An event at cycle 0, run at once. -/
def eventRound : List (SchedulerCall Unit Unit) := [.scheduleEvent 0 none, .runUntil 0 8]

/-- A scheduler at cycle 0 with nothing to do. -/
structure AtRest (h : Host Unit Unit) (n : ℕ) : Prop where
  clock : h.scheduler.currentCycle = 0
  queue : h.scheduler.eventQueue = []
  canceled : h.scheduler.canceledIds = ∅
  count : (firedEvents h).length = n
  targets : ∀ ev ∈ firedEvents h, ev.targetCycle = 0

/-- One round of the example ends at rest, with one event more. -/
theorem eventRound_rests {h : Host Unit Unit} {n : ℕ} (hrest : AtRest h n) :
    Ends (makeCalls idleCallbacks 2 eventRound) h (fun _ h' => AtRest h' (n + 1)) fun _ => False := by
  obtain ⟨⟨clock, id, seq, queue, pending, canceled⟩, ⟨⟩, history⟩ := h
  obtain ⟨hclock, hqueue, hcanceled, hcount, htargets⟩ := hrest
  dsimp only at hclock hqueue hcanceled
  subst hclock hqueue hcanceled
  constructor
  · rfl
  · rfl
  · rfl
  · change _ + 1 = n + 1
    rw [← hcount]
    rfl
  · intro ev hev
    rcases List.mem_cons.mp hev with rfl | hev
    · rfl
    · exact htargets ev hev

/-- Calls are made one list after the other. -/
theorem makeCalls_append {behave : κ → Cycle → Callback κ σ} {turns : ℕ}
    (first second : List (SchedulerCall κ σ)) :
    makeCalls behave turns (first ++ second) =
      makeCalls behave turns first >>= fun _ => makeCalls behave turns second := by
  induction first with
  | nil =>
    change _ = pure () >>= _
    rw [pure_bind]
    rfl
  | cons c cs ih =>
    change Host.call behave turns c >>= (fun _ => makeCalls behave turns (cs ++ second)) =
      (Host.call behave turns c >>= fun _ => makeCalls behave turns cs) >>= _
    rw [ih, bind_assoc]

/-- Rounds, as many as there are. -/
theorem eventRounds_rest (k : ℕ) {h : Host Unit Unit} {n : ℕ} (hrest : AtRest h n) :
    Ends (makeCalls idleCallbacks 2 (List.replicate k eventRound).flatten) h
      (fun _ h' => AtRest h' (n + k)) fun _ => False := by
  induction k generalizing h n with
  | zero => exact hrest
  | succ k ih =>
    rw [List.replicate_succ, List.flatten_cons, makeCalls_append, ends_bind]
    refine (eventRound_rests hrest).mono ?_ fun _ hf => hf
    intro _ h' hrest'
    have hsum : n + 1 + k = n + (k + 1) := by omega
    rw [← hsum]
    exact ih hrest'

/-- Events fired at one cycle are no more than there are numbers. -/
theorem FiringLaw.length_le {h : Host κ σ} (hlaw : FiringLaw h)
    (htargets : ∀ ev ∈ firedEvents h, ev.targetCycle = 0) :
    (firedEvents h).length ≤ eventNumbers := by
  have hnodup : ((firedEvents h).map fun ev => ev.sequence.toFin).Nodup := by
    rw [List.Nodup, List.pairwise_map]
    refine hlaw.ordered.imp_of_mem ?_
    intro later earlier hlater hearlier hbefore heq
    rcases hbefore with hlt | ⟨-, hlt⟩
    · rw [htargets _ hlater, htargets _ hearlier] at hlt
      exact BitVec.lt_irrefl _ hlt
    · rw [BitVec.eq_of_toFin_eq heq] at hlt
      exact BitVec.lt_irrefl _ hlt
  have hcard := hnodup.length_le_card
  rw [List.length_map, Fintype.card_fin] at hcard
  exact hcard

/-- More rounds than there are numbers break the law. -/
theorem not_firingLaw_rounds {k : ℕ} (hk : eventNumbers < k) :
    ¬ FiringLaw (hostAfter idleCallbacks 2 0 () (List.replicate k eventRound).flatten) := by
  intro hlaw
  have hfresh : AtRest (freshHost 0 ()) 0 := ⟨rfl, rfl, rfl, rfl, nofun⟩
  have hend : AtRest (hostAfter idleCallbacks 2 0 () (List.replicate k eventRound).flatten)
      (0 + k) := by
    refine Ends.stateAfter (E := fun h => AtRest h (0 + k)) ?_
    exact (eventRounds_rest k hfresh).mono (fun _ _ hr => hr) fun _ hf => hf.elim
  have hle := FiringLaw.length_le hlaw hend.targets
  rw [hend.count] at hle
  omega

/-- **The law has two ends.**  An event scheduled without a callback counts towards the limit
of a run, so that a run may stop at its limit without having called any callback; and the
sequence numbers wrap around, so that a run with more events than numbers cannot fire them
in the order of their numbers. -/
theorem firing_law_ends :
    (outcome ((runUntil idleCallbacks 3 0 1).run (hostAfter idleCallbacks 3 0 ()
        [.scheduleEvent 0 none, .scheduleEvent 0 (some ())])) = .ok (.ok .eventLimitReached) ∧
      callbacksRun (hostAfter idleCallbacks 3 0 ()
        [.scheduleEvent 0 none, .scheduleEvent 0 (some ()), .runUntil 0 1]) = []) ∧
    ¬ FiringLaw (hostAfter idleCallbacks 2 0 ()
      (List.replicate (eventNumbers + 1) eventRound).flatten) := by
  exact ⟨⟨by decide +kernel, by decide +kernel⟩, not_firingLaw_rounds (Nat.lt_succ_self _)⟩

end Xblob.Analysis
