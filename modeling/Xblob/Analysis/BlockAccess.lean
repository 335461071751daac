import Xblob.Analysis.MappedSpace
import Xblob.Interface.XbeLoads

/-!
# Reads and writes of blocks

A block that may be accessed is one stretch of one bank, which the regions decide.  A part of a
block lies at the same distance from its start in the bank as in the addresses.
-/

set_option autoImplicit false

namespace Xblob.Analysis

open Xblob.Computation Xblob.Interface Xblob.Memory Xblob.Memory.AddressSpace

variable {δ : Type} {space space' : AddressSpace δ} {addr : GuestAddr} {n : ℕ}
  {perm : MemoryPermission} {c : Cell}

/-- The place of a block is decided by the regions. -/
theorem blockAt_congr (h : space'.regions = space.regions) (addr : GuestAddr) (n : ℕ)
    (perm : MemoryPermission) : blockAt space' addr n perm = blockAt space addr n perm := by
  simp only [blockAt, resolveRegion, h]

/-- The region of a block. -/
theorem blockAt_some (h : blockAt space addr n perm = some c) : ∃ reg ramOffset,
    space.resolveRegion addr (BitVec.ofNat 32 n) perm = .ok reg ∧ reg.type = .ram c.1 ramOffset ∧
      c.2 = ramPos reg ramOffset addr := by
  unfold blockAt at h
  split at h
  · cases h
  next reg hreg =>
    split at h
    next ram ramOffset htype =>
      cases h
      exact ⟨reg, ramOffset, hreg, htype, rfl⟩
    · cases h

/-- A block is read, or the read is refused. -/
theorem readBytes_run (space : AddressSpace δ) (addr : GuestAddr) (hn : n ≠ 0) :
    (∃ c, blockAt space addr n .read = some c ∧
        (readBytes addr n).run space = .ok (bytesAt space c n) space) ∨
      (blockAt space addr n .read = none ∧ ∃ e, (readBytes addr n).run space = .error e space) := by
  unfold readBytes blockAt
  rw [if_neg hn]
  cases hreg : space.resolveRegion addr (BitVec.ofNat 32 n) .read with
  | error e => exact .inr ⟨rfl, e, by simp [hreg]⟩
  | ok reg =>
    cases htype : reg.type with
    | ram ram ramOffset =>
      refine .inl ⟨(ram, ramPos reg ramOffset addr), by simp [htype], ?_⟩
      simp [hreg, htype, bytesAt]
    | mmio handler =>
      refine .inr ⟨by simp [htype], { code := .unsupportedFeature
                                      message := "ReadBytes não suportado em MMIO"
                                      offset := addr.setWidth 64 }, ?_⟩
      simp [hreg, htype]

/-- A block is written, or the write is refused. -/
theorem writeBytes_run (space : AddressSpace δ) (addr : GuestAddr) {src : List U8} (hsrc : src ≠ []) :
    (∃ c, blockAt space addr src.length .write = some c ∧
        (writeBytes addr src).run space = .ok () (storedAt space c src)) ∨
      (blockAt space addr src.length .write = none ∧
        ∃ e, (writeBytes addr src).run space = .error e space) := by
  unfold writeBytes blockAt
  rw [if_neg hsrc]
  cases hreg : space.resolveRegion addr (BitVec.ofNat 32 src.length) .write with
  | error e => exact .inr ⟨rfl, e, by simp [hreg]⟩
  | ok reg =>
    cases htype : reg.type with
    | ram ram ramOffset =>
      refine .inl ⟨(ram, ramPos reg ramOffset addr), by simp [htype], ?_⟩
      simp [hreg, htype, storedAt]
    | mmio handler =>
      refine .inr ⟨by simp [htype], { code := .unsupportedFeature
                                      message := "WriteBytes não suportado em MMIO"
                                      offset := addr.setWidth 64 }, ?_⟩
      simp [hreg, htype]

/-- A block of `n` bytes has `n` bytes. -/
theorem length_bytesAt (space : AddressSpace δ) (c : Cell) (n : ℕ) :
    (bytesAt space c n).length = n := by
  simp [bytesAt]

/-! ## Stored bytes -/

/-- The bytes of a dword. -/
def dwordBytes (x : U32) : List U8 := [byteOf x 0, byteOf x 1, byteOf x 2, byteOf x 3]

/-- A block poked into RAM is read back byte by byte. -/
theorem pokeBytes_at {bytes : List U8} {r : Ram} {offset i : ℕ} (hi : i < bytes.length) :
    (r.pokeBytes offset bytes).data (offset + i) = bytes.getD i 0 := by
  induction bytes generalizing r offset i with
  | nil => simp at hi
  | cons b bs ih =>
    cases i with
    | zero =>
      rw [Ram.pokeBytes, pokeBytes_data (by intro j _; omega)]
      simp [Ram.poke]
    | succ i =>
      have hi' : i < bs.length := by simpa using hi
      rw [Ram.pokeBytes, show offset + (i + 1) = offset + 1 + i by omega, ih hi']
      simp

/-- Storing bytes changes the data of one stretch of one bank. -/
theorem storedAt_data (space : AddressSpace δ) (c : Cell) (bytes : List U8) (ram pos : ℕ) :
    ((storedAt space c bytes).rams ram).data pos =
      if ram = c.1 ∧ (Span.mk c.2 bytes.length).Holds pos then bytes.getD (pos - c.2) 0
      else (space.rams ram).data pos := by
  by_cases hram : ram = c.1
  · subst hram
    simp only [storedAt, setRam, Function.update_self, true_and]
    split
    next hpos =>
      unfold Span.Holds Span.stop at hpos
      dsimp only at hpos
      rw [show pos = c.2 + (pos - c.2) by omega, pokeBytes_at (by omega)]
      simp
    next hpos =>
      apply pokeBytes_data
      intro j hj heq
      apply hpos
      unfold Span.Holds Span.stop
      dsimp only
      omega
  · rw [if_neg (fun h => hram h.1)]
    simp [storedAt, setRam, hram]

/-- A block stored leaves every bank its size. -/
theorem storedAt_size (space : AddressSpace δ) (c : Cell) (bytes : List U8) (ram : ℕ) :
    ((storedAt space c bytes).rams ram).size = (space.rams ram).size := by
  by_cases hram : ram = c.1
  · subst hram
    simp [storedAt, setRam, pokeBytes_size]
  · simp [storedAt, setRam, hram]

/-- Two spaces over the same regions and devices are one if their banks have the same bytes. -/
theorem space_ext (hregions : space'.regions = space.regions) (hdevices : space'.devices = space.devices)
    (hsize : ∀ ram, (space'.rams ram).size = (space.rams ram).size)
    (hdata : ∀ ram pos, (space'.rams ram).data pos = (space.rams ram).data pos) :
    space' = space := by
  obtain ⟨regions, rams, devices⟩ := space
  obtain ⟨regions', rams', devices'⟩ := space'
  have hrams : rams' = rams := by
    funext ram
    have hsize' := hsize ram
    have hdata' : (rams' ram).data = (rams ram).data := funext (hdata ram)
    cases h : rams' ram
    cases h' : rams ram
    simp_all
  subst hregions hdevices hrams
  rfl

/-- Storing the bytes that are there changes nothing. -/
theorem storedAt_bytesAt (space : AddressSpace δ) (c : Cell) (n : ℕ) :
    storedAt space c (bytesAt space c n) = space := by
  refine space_ext (show _ = _ from rfl) (show _ = _ from rfl)
    (storedAt_size space c _) ?_
  · intro ram pos
    rw [storedAt_data]
    split
    next hpos =>
      obtain ⟨rfl, hpos⟩ := hpos
      unfold Span.Holds Span.stop at hpos
      rw [length_bytesAt] at hpos
      dsimp only at hpos
      have hlt : pos - c.2 < n := by omega
      rw [bytesAt, List.getD_eq_getElem?_getD, List.getElem?_map, List.getElem?_range hlt]
      simp only [Option.map_some, Option.getD_some]
      rw [show c.2 + (pos - c.2) = pos by omega]
    next => rfl

/-! ## Parts of a block -/

/-- The search for a region does not depend on the permission. -/
theorem resolveIn_permission {len : GuestSize} {perm' : MemoryPermission}
    {regions : List (Region δ)} {reg : Region δ}
    (h : resolveIn addr len perm regions = .ok reg)
    (hperm : hasPermission reg.permissions perm' = true) :
    resolveIn addr len perm' regions = .ok reg := by
  induction regions with
  | nil => cases h
  | cons r rs ih =>
    unfold resolveIn at h ⊢
    split at h
    next hhere =>
      rw [if_pos hhere]
      split at h
      · cases h
      next hrange =>
        rw [if_neg hrange]
        split at h
        · cases h
        · cases h
          rw [if_neg (by simp [hperm])]
    next hnot =>
      rw [if_neg hnot]
      exact ih h

/-- An access that resolves also resolves for another permission the region gives. -/
theorem resolveRegion_permission {len : GuestSize} {perm' : MemoryPermission} {reg : Region δ}
    (h : space.resolveRegion addr len perm = .ok reg)
    (hperm : hasPermission reg.permissions perm' = true) :
    space.resolveRegion addr len perm' = .ok reg := by
  unfold resolveRegion at h ⊢
  split at h
  · cases h
  next hlen =>
    rw [if_neg hlen]
    split at h
    · cases h
    next hbound =>
      rw [if_neg hbound]
      exact resolveIn_permission h hperm

/-- Two searches of one list for one access find the same region, whatever they ask of it. -/
theorem resolveIn_unique {len : GuestSize} {perm' : MemoryPermission} {regions : List (Region δ)}
    {reg reg' : Region δ} (h : resolveIn addr len perm regions = .ok reg)
    (h' : resolveIn addr len perm' regions = .ok reg') : reg = reg' := by
  induction regions with
  | nil => cases h
  | cons r rs ih =>
    unfold resolveIn at h h'
    split at h
    next hhere =>
      rw [if_pos hhere] at h'
      split at h
      · cases h
      next hrange =>
        rw [if_neg hrange] at h'
        split at h
        · cases h
        · split at h'
          · cases h'
          · cases h
            cases h'
            rfl
    next hnot =>
      rw [if_neg hnot] at h'
      exact ih h h'

/-- An access resolves to one region, whatever is asked of it. -/
theorem resolveRegion_unique {len : GuestSize} {perm' : MemoryPermission} {reg reg' : Region δ}
    (h : space.resolveRegion addr len perm = .ok reg)
    (h' : space.resolveRegion addr len perm' = .ok reg') : reg = reg' := by
  unfold resolveRegion at h h'
  split at h
  · cases h
  next hlen =>
    rw [if_neg hlen] at h'
    split at h
    · cases h
    next hbound =>
      rw [if_neg hbound] at h'
      exact resolveIn_unique h h'

/-- A block that can be accessed in two ways is in one place. -/
theorem blockAt_unique {perm' : MemoryPermission} {d : Cell} (h : blockAt space addr n perm = some c)
    (h' : blockAt space addr n perm' = some d) : c = d := by
  obtain ⟨reg, off, hreg, htype, hpos⟩ := blockAt_some h
  obtain ⟨reg', off', hreg', htype', hpos'⟩ := blockAt_some h'
  have hsame := resolveRegion_unique hreg hreg'
  subst hsame
  rw [htype] at htype'
  obtain ⟨hbank, rfl⟩ := RegionType.ram.inj htype'
  exact Prod.ext hbank (hpos.trans hpos'.symm)

/-- A resolved block lies in its region. -/
theorem resolveRegion_inside {reg : Region δ} (hn : n < 2 ^ 32)
    (h : space.resolveRegion addr (BitVec.ofNat 32 n) perm = .ok reg) :
    (addrSpan addr n).Inside reg.span := by
  obtain ⟨-, hrange, -⟩ := resolveRegion_ok h
  simp only [Region.containsRange, Bool.and_eq_true, decide_eq_true_eq, BitVec.toNat_ofNat] at hrange
  rw [Nat.mod_eq_of_lt hn] at hrange
  unfold Region.end at hrange
  simp only [Span.Inside, Span.stop, addrSpan, Region.span]
  omega

/-- A part of a block that can be read, where the part can be written: the whole block can be
written, and the part lies in the bank where it lies in the block. -/
theorem blockAt_part (hmapped : Mapped space) {part : GuestAddr} {m : ℕ} {d : Cell} (hn : n < 2 ^ 32)
    (hm : 0 < m) (hinside : (addrSpan part m).Inside (addrSpan addr n))
    (hread : blockAt space addr n .read = some c) (hwrite : blockAt space part m .write = some d) :
    blockAt space addr n .write = some c ∧ d.1 = c.1 ∧ d.2 = c.2 + (part.toNat - addr.toNat) := by
  obtain ⟨reg, off, hreg, htype, hpos⟩ := blockAt_some hread
  obtain ⟨reg', off', hreg', htype', hpos'⟩ := blockAt_some hwrite
  have hwhole := resolveRegion_inside hn hreg
  have hpart : (addrSpan part m).Inside reg'.span := by
    apply resolveRegion_inside _ hreg'
    simp only [Span.Inside, Span.stop, addrSpan] at hinside
    have := addr.isLt
    omega
  -- The first address of the part is in both regions.
  have hfirst : (addrSpan part m).Holds part.toNat := by
    simp only [Span.Holds, Span.stop, addrSpan]
    omega
  have hsame : reg = reg' := Span.eq_of_holds hmapped.apart (resolveRegion_ok hreg).1
    (resolveRegion_ok hreg').1 (hwhole.holds (hinside.holds hfirst)) (hpart.holds hfirst)
  subst hsame
  have hperm := (resolveRegion_ok hreg').2.2
  rw [htype] at htype'
  obtain ⟨hbank, rfl⟩ := RegionType.ram.inj htype'
  refine ⟨?_, hbank.symm, ?_⟩
  · rw [blockAt, resolveRegion_permission hreg hperm]
    simp only [htype]
    rw [← hpos]
  · simp only [Span.Inside, Span.stop, addrSpan, Region.span] at hinside hwhole
    rw [hpos, hpos', ramPos, ramPos]
    omega

end Xblob.Analysis
