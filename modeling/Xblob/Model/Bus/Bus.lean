import Xblob.Computation.KeyedLists
import Xblob.Computation.Spans
import Xblob.Model.Common

/-!
# The MMIO bus

The bus is a list of mappings, each of a device to a range of guest addresses.  No call of the
bus leaves two mappings that overlap, or an empty one, so the list carries both facts.
-/

set_option autoImplicit false

namespace Xblob

open Xblob.Computation

variable {β : Type}

/-- `BusMapping`, over any kind of device.
SOURCE: libs/bus/include/xblob/bus/bus.hpp:14-37 -/
structure BusMapping (β : Type) where
  base : GuestAddr
  size : GuestSize
  device : β

namespace BusMapping

/-- The end of a mapping, at 64 bits. -/
def «end» (m : BusMapping β) : ℕ := m.base.toNat + m.size.toNat

/-- The addresses of the mapping. -/
def span (m : BusMapping β) : Span := ⟨m.base.toNat, m.size.toNat⟩

/-- `BusMapping::Overlaps`. -/
def overlaps (m : BusMapping β) (otherBase : GuestAddr) (otherSize : GuestSize) : Bool :=
  m.base.toNat < otherBase.toNat + otherSize.toNat ∧ otherBase.toNat < m.end

/-- The overlap test refuses exactly the spans that are not apart. -/
theorem overlaps_iff (m : BusMapping β) (base : GuestAddr) (size : GuestSize) :
    m.overlaps base size = true ↔ ¬ m.span.Apart ⟨base.toNat, size.toNat⟩ := by
  rw [overlaps, decide_eq_true_iff]
  simp only [«end», span, Span.Apart, Span.Before, Span.stop]
  omega

end BusMapping

/-- `Bus`. SOURCE: libs/bus/include/xblob/bus/bus.hpp:39-56 -/
structure Bus (β : Type) where
  mappings : List (BusMapping β) := []
  sized : ∀ m ∈ mappings, 0 < m.size.toNat := by simp
  apart : mappings.Pairwise fun m n => m.span.Apart n.span := by simp

namespace Bus

/-- A mapping with a size keeps every mapping sized. -/
theorem sized_push {mappings : List (BusMapping β)} (h : ∀ m ∈ mappings, 0 < m.size.toNat)
    {new : BusMapping β} (hnew : ¬ new.size = 0) : ∀ m ∈ mappings ++ [new], 0 < m.size.toNat := by
  intro m hm
  rw [List.mem_append, List.mem_singleton] at hm
  obtain hm | rfl := hm
  · exact h m hm
  · have hne : m.size.toNat ≠ 0 := fun h0 => hnew (BitVec.eq_of_toNat_eq h0)
    omega

/-- A mapping that overlaps none keeps the mappings pairwise apart. -/
theorem apart_push {mappings : List (BusMapping β)}
    (h : mappings.Pairwise fun m n => m.span.Apart n.span) {new : BusMapping β}
    (hnew : ¬ mappings.any (fun m => m.overlaps new.base new.size) = true) :
    (mappings ++ [new]).Pairwise fun m n => m.span.Apart n.span := by
  rw [List.pairwise_append]
  refine ⟨h, List.pairwise_singleton _ _, ?_⟩
  intro m hm n hn
  rw [List.mem_singleton] at hn
  subst hn
  by_contra hoverlap
  exact hnew (List.any_eq_true.2 ⟨m, hm, (m.overlaps_iff _ _).2 hoverlap⟩)

/-- `Bus::MapDevice`. SOURCE: libs/bus/src/bus.cpp:7-32 -/
def mapDevice (bus : Bus β) (base : GuestAddr) (size : GuestSize) (device : Option β) :
    Result (Bus β) :=
  match device with
  | none => .error { code := .invalidArgument
                     message := "Dispositivo nulo no mapeamento de barramento"
                     offset := base.setWidth 64 }
  | some device =>
    if hsize : size = 0 then
      .error { code := .invalidArgument, message := "Tamanho de range não pode ser zero"
               offset := base.setWidth 64 }
    else if base.toNat + size.toNat > 0x100000000 then
      .error { code := .integerOverflow
               message := "Faixa de barramento extrapola espaço de endereçamento de 32 bits"
               offset := base.setWidth 64 }
    else if hfree : bus.mappings.any fun m => m.overlaps base size then
      .error { code := .regionOverlap
               message := "Faixa do dispositivo sobrepõe faixa previamente registrada"
               offset := base.setWidth 64 }
    else
      .ok { mappings := bus.mappings ++ [⟨base, size, device⟩]
            sized := sized_push bus.sized hsize
            apart := apart_push bus.apart hfree }

/-- `Bus::UnmapDevice`. SOURCE: libs/bus/src/bus.cpp:34-43 -/
def unmapDevice (bus : Bus β) (base : GuestAddr) : Result (Bus β) :=
  if bus.mappings.any fun m => m.base = base then
    .ok { mappings := bus.mappings.eraseP fun m => m.base = base
          sized := fun m hm => bus.sized m (List.mem_of_mem_eraseP hm)
          apart := bus.apart.sublist List.eraseP_sublist }
  else
    .error { code := .unmappedAddress, message := "Nenhum dispositivo mapeado na base informada"
             offset := base.setWidth 64 }

/-! ## What the two calls do to the mappings -/

/-- Different mappings have different bases. -/
theorem nodup_bases (bus : Bus β) : (bus.mappings.map BusMapping.base).Nodup := by
  rw [List.Nodup, List.pairwise_map]
  refine bus.apart.imp_of_mem ?_
  intro m n hm hn hapart hbase
  have hsm := bus.sized m hm
  have hsn := bus.sized n hn
  simp only [BusMapping.span, Span.Apart, Span.Before, Span.stop, hbase] at hapart
  omega

/-- A mapping is known by its base. -/
theorem eq_of_base {bus : Bus β} {m n : BusMapping β} (hm : m ∈ bus.mappings)
    (hn : n ∈ bus.mappings) (h : m.base = n.base) : m = n :=
  eq_of_key bus.nodup_bases hm hn h

/-- A device is mapped where there is room for it. -/
theorem mapDevice_ok {bus : Bus β} {base : GuestAddr} {size : GuestSize} (device : β)
    (hsize : 0 < size.toNat) (hspace : base.toNat + size.toNat ≤ 0x100000000)
    (hfree : ∀ m ∈ bus.mappings, m.span.Apart ⟨base.toNat, size.toNat⟩) :
    ∃ bus', bus.mapDevice base size (some device) = .ok bus' ∧
      bus'.mappings = bus.mappings ++ [⟨base, size, device⟩] := by
  have hne : ¬ size = 0 := by
    rintro rfl
    simp at hsize
  have hnone : ¬ (bus.mappings.any fun m => m.overlaps base size) = true := by
    rw [List.any_eq_true]
    rintro ⟨m, hm, hoverlap⟩
    exact (m.overlaps_iff base size).1 hoverlap (hfree m hm)
  refine ⟨⟨bus.mappings ++ [⟨base, size, device⟩], sized_push bus.sized hne,
    apart_push bus.apart hnone⟩, ?_, rfl⟩
  simp only [mapDevice, dif_neg hne, if_neg (Nat.not_lt.2 hspace), dif_neg hnone]

/-- What is left when the device at a base is unmapped. -/
theorem unmapDevice_ok {bus : Bus β} {m : BusMapping β} (hm : m ∈ bus.mappings) :
    ∃ bus', bus.unmapDevice m.base = .ok bus' ∧
      ∀ n, n ∈ bus'.mappings ↔ n ∈ bus.mappings ∧ n.base ≠ m.base := by
  have hany : (bus.mappings.any fun n => n.base = m.base) = true :=
    List.any_eq_true.2 ⟨m, hm, by simp⟩
  refine ⟨_, if_pos hany, ?_⟩
  intro n
  exact mem_eraseP_key bus.nodup_bases

end Bus

end Xblob
