import Mathlib.Analysis.Convex.Hull
import Mathlib.Tactic.LinearCombination
import Mathlib.Topology.Algebra.Module.Basic
import Mathlib.Topology.Instances.Real.Lemmas

/-!
# Two triangles on both sides of an edge

The cross product of an edge and a point tells on which side of the edge the point is.  A point in
the interior of two triangles together, which have an edge in common and lie on both sides of it, is
inside one of them or on that edge between its ends.
-/

set_option autoImplicit false

namespace Xblob.Computation

open Topology

section Ring

variable {R : Type*} [CommRing R] (a b c d p : R × R) (t : R)

/-- Twice the signed area of the triangle of an edge and a point. -/
def cross (a b p : R × R) : R := (b.1 - a.1) * (p.2 - a.2) - (b.2 - a.2) * (p.1 - a.1)

/-- Exchanging the ends of an edge turns the sign of the cross product. -/
theorem cross_swap : cross b a p = -cross a b p := by
  unfold cross
  ring

/-- The cross product of a triangle does not depend on the vertex it starts from. -/
theorem cross_rotate : cross b c a = cross a b c := by
  unfold cross
  ring

/-- The side of a point does not change along the edge. -/
theorem cross_along : cross a b (p + t • (b - a)) = cross a b p := by
  simp only [cross, Prod.fst_add, Prod.snd_add, Prod.smul_fst, Prod.smul_snd, Prod.fst_sub,
    Prod.snd_sub, smul_eq_mul]
  ring

/-- Along an edge and beyond its end, a point leaves the next edge. -/
theorem cross_beyond : cross b c (p + t • (b - a)) = cross b c p - t * cross a b c := by
  simp only [cross, Prod.fst_add, Prod.snd_add, Prod.smul_fst, Prod.smul_snd, Prod.fst_sub,
    Prod.snd_sub, smul_eq_mul]
  ring

/-- Along an edge and before its start, a point leaves the edge before. -/
theorem cross_before : cross c a (p + t • (a - b)) = cross c a p - t * cross a b c := by
  simp only [cross, Prod.fst_add, Prod.snd_add, Prod.smul_fst, Prod.smul_snd, Prod.fst_sub,
    Prod.snd_sub, smul_eq_mul]
  ring

/-- On the line of a common edge, the distances to the next edges are in proportion. -/
theorem cross_proportion_end :
    cross b c p * cross b a d = cross d b p * cross a b c - cross d b c * cross a b p := by
  unfold cross
  ring

/-- The same of the edges that start where the common edge starts. -/
theorem cross_proportion_start :
    cross c a p * cross b a d = cross a d p * cross a b c - cross a d c * cross a b p := by
  unfold cross
  ring

end Ring

/-! ## Triangles of the plane -/

variable {a b c d p : ℝ × ℝ}

/-- A triangle is on one side of its edge. -/
theorem cross_nonneg (hc : 0 ≤ cross a b c) (hp : p ∈ convexHull ℝ {a, b, c}) : 0 ≤ cross a b p := by
  have hside : Convex ℝ {q : ℝ × ℝ | 0 ≤ cross a b q} := by
    intro q hq q' hq' s s' hs hs' hsum
    have hmix : cross a b (s • q + s' • q') = s * cross a b q + s' * cross a b q' := by
      simp only [cross, Prod.fst_add, Prod.snd_add, Prod.smul_fst, Prod.smul_snd, smul_eq_mul]
      linear_combination (a.2 * (b.1 - a.1) - a.1 * (b.2 - a.2)) * hsum
    show 0 ≤ cross a b (s • q + s' • q')
    rw [hmix]
    exact add_nonneg (mul_nonneg hs hq) (mul_nonneg hs' hq')
  refine convexHull_min ?_ hside hp
  rintro q (rfl | rfl | rfl)
  · show 0 ≤ cross q b q
    simp [cross]
  · show 0 ≤ cross a q q
    simp only [cross]
    linarith
  · exact hc

/-- From a point inside a set one can move a little in any direction. -/
theorem exists_step {s : Set (ℝ × ℝ)} (hp : p ∈ interior s) (v : ℝ × ℝ) :
    ∃ t : ℝ, 0 < t ∧ p + t • v ∈ s := by
  have hline : Filter.Tendsto (fun t : ℝ => p + t • v) (𝓝[>] 0) (𝓝 p) := by
    have hcontinuous : Continuous fun t : ℝ => p + t • v := by fun_prop
    have hlimit := hcontinuous.tendsto 0
    rw [zero_smul, add_zero] at hlimit
    exact hlimit.mono_left nhdsWithin_le_nhds
  have hnear : ∀ᶠ t in 𝓝[>] (0 : ℝ), p + t • v ∈ s := hline (mem_interior_iff_mem_nhds.1 hp)
  obtain ⟨t, hmem, hpos⟩ := (hnear.and self_mem_nhdsWithin).exists
  exact ⟨t, hpos, hmem⟩

/-- All sides of a triangle have a point of it on the same side. -/
theorem sides_nonneg (hc : 0 ≤ cross a b c) (hp : p ∈ convexHull ℝ {a, b, c}) :
    0 ≤ cross a b p ∧ 0 ≤ cross b c p ∧ 0 ≤ cross c a p := by
  have hrotate : ({a, b, c} : Set (ℝ × ℝ)) = {b, c, a} := by rw [Set.insert_comm, Set.pair_comm]
  have hrotate' : ({a, b, c} : Set (ℝ × ℝ)) = {c, a, b} := by rw [Set.pair_comm, Set.insert_comm]
  refine ⟨cross_nonneg hc hp, ?_, ?_⟩
  · rw [hrotate] at hp
    exact cross_nonneg ((cross_rotate a b c).symm ▸ hc) hp
  · rw [hrotate'] at hp
    exact cross_nonneg (cross_rotate c a b ▸ hc) hp

/-- Two triangles on both sides of an edge. -/
structure Adjacent (a b c d : ℝ × ℝ) : Prop where
  left : 0 < cross a b c
  right : 0 < cross b a d

/-- The points of two triangles that have an edge in common. -/
def twoTriangles (a b c d : ℝ × ℝ) : Set (ℝ × ℝ) := convexHull ℝ {a, b, c} ∪ convexHull ℝ {b, a, d}

/-- Two triangles on an edge are also two triangles on the edge reversed. -/
theorem Adjacent.symm (h : Adjacent a b c d) : Adjacent b a d c := ⟨h.right, h.left⟩

/-- Two triangles on an edge are the same two on the edge reversed. -/
theorem twoTriangles_symm : twoTriangles b a d c = twoTriangles a b c d := Set.union_comm _ _

/-- A point of the first triangle that is in the interior of both is not on the other edges. -/
theorem Adjacent.off_edges (h : Adjacent a b c d) (hp : p ∈ interior (twoTriangles a b c d))
    (hmem : p ∈ convexHull ℝ {a, b, c}) : 0 < cross b c p ∧ 0 < cross c a p := by
  obtain ⟨hab, hbc, hca⟩ := sides_nonneg h.left.le hmem
  constructor
  · -- from the end of the common edge on, along it, one leaves both triangles
    by_contra hedge
    have hzero : cross b c p = 0 := le_antisymm (not_lt.1 hedge) hbc
    obtain ⟨t, hpos, hstep | hstep⟩ := exists_step hp (b - a)
    · have hside := (sides_nonneg h.left.le hstep).2.1
      rw [cross_beyond, hzero] at hside
      nlinarith [mul_pos hpos h.left]
    · obtain ⟨hba, -, hdb⟩ := sides_nonneg h.right.le hstep
      rw [cross_swap, cross_along] at hba
      rw [cross_before] at hdb
      have hline : cross a b p = 0 := by linarith
      have hprop := cross_proportion_end a b c d p
      rw [hzero, hline] at hprop
      have hend : cross d b p = 0 := by
        have hmul : cross d b p * cross a b c = 0 := by linarith
        exact (mul_eq_zero.1 hmul).resolve_right h.left.ne'
      rw [hend] at hdb
      nlinarith [mul_pos hpos h.right]
  · by_contra hedge
    have hzero : cross c a p = 0 := le_antisymm (not_lt.1 hedge) hca
    obtain ⟨t, hpos, hstep | hstep⟩ := exists_step hp (a - b)
    · have hside := (sides_nonneg h.left.le hstep).2.2
      rw [cross_before, hzero] at hside
      nlinarith [mul_pos hpos h.left]
    · obtain ⟨hba, had, -⟩ := sides_nonneg h.right.le hstep
      rw [cross_along] at hba
      rw [cross_beyond] at had
      have hline : cross a b p = 0 := by
        rw [cross_swap] at hba
        linarith
      have hprop := cross_proportion_start a b c d p
      rw [hzero, hline] at hprop
      have hstart : cross a d p = 0 := by
        have hmul : cross a d p * cross a b c = 0 := by linarith
        exact (mul_eq_zero.1 hmul).resolve_right h.left.ne'
      rw [hstart] at had
      nlinarith [mul_pos hpos h.right]

/-- A point on the line of the edge in common that is inside the other edges of one triangle is so
for the other. -/
theorem Adjacent.on_edge (h : Adjacent a b c d) (hline : cross a b p = 0)
    (hoff : 0 < cross b c p ∧ 0 < cross c a p) : 0 < cross a d p ∧ 0 < cross d b p := by
  have hend := cross_proportion_end a b c d p
  have hstart := cross_proportion_start a b c d p
  rw [hline, mul_zero, sub_zero] at hend hstart
  constructor
  · apply pos_of_mul_pos_left _ h.left.le
    rw [← hstart]
    exact mul_pos hoff.2 h.right
  · apply pos_of_mul_pos_left _ h.left.le
    rw [← hend]
    exact mul_pos hoff.1 h.right

/-- A point in the interior of both triangles is inside one of them, or on the edge in common
between its ends. -/
theorem Adjacent.interior_cases (h : Adjacent a b c d) (hp : p ∈ interior (twoTriangles a b c d)) :
    (0 < cross a b p ∧ 0 < cross b c p ∧ 0 < cross c a p) ∨
      (0 < cross b a p ∧ 0 < cross a d p ∧ 0 < cross d b p) ∨
      (cross a b p = 0 ∧ (0 < cross b c p ∧ 0 < cross c a p) ∧ 0 < cross a d p ∧ 0 < cross d b p) := by
  obtain hmem | hmem := interior_subset hp
  · have hoff := h.off_edges hp hmem
    obtain hpos | hzero := (sides_nonneg h.left.le hmem).1.lt_or_eq
    · exact .inl ⟨hpos, hoff⟩
    · exact .inr (.inr ⟨hzero.symm, hoff, h.on_edge hzero.symm hoff⟩)
  · rw [← twoTriangles_symm] at hp
    have hoff := h.symm.off_edges hp hmem
    obtain hpos | hzero := (sides_nonneg h.right.le hmem).1.lt_or_eq
    · exact .inr (.inl ⟨hpos, hoff⟩)
    · have hline : cross a b p = 0 := by
        rw [cross_swap] at hzero
        linarith
      exact .inr (.inr ⟨hline, h.symm.on_edge hzero.symm hoff, hoff⟩)

end Xblob.Computation
