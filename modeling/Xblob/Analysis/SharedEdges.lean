import Mathlib.Algebra.Order.Ring.Abs
import Mathlib.Tactic.Linarith
import Mathlib.Tactic.Ring
import Xblob.Interface.Drawing

/-!
# A pixel between two triangles is drawn once

Along a common side the edge functions of the two triangles are each other's opposites, and of the
two directions of a side exactly one is top-left.  Where the pixels between the triangles are is
taken from the plane.
-/

set_option autoImplicit false

namespace Xblob.Analysis

open Xblob.Computation Xblob.Gpu Xblob.Interface

variable {fp : FloatUnit} {t t' : DrawnTriangle} {p q r : FixedPoint}

/-! ## Edge functions -/

/-- Exchanging the ends of an edge turns the sign of its function. -/
theorem edge_swap (p q x : FixedPoint) : q.edge p x = -p.edge q x := by
  unfold FixedPoint.edge
  ring

/-- The edge function of points of the grid is the cross product in the plane. -/
theorem cross_planePoint (p q x : FixedPoint) :
    cross (planePoint p) (planePoint q) (planePoint x) = (p.edge q x : ℝ) := by
  unfold cross planePoint FixedPoint.edge
  push_cast
  rfl

/-- A point is on the inner side in the plane exactly where the edge function is positive. -/
theorem cross_pos_iff (p q x : FixedPoint) :
    0 < cross (planePoint p) (planePoint q) (planePoint x) ↔ 0 < p.edge q x := by
  rw [cross_planePoint]
  exact Int.cast_pos

/-- The doubled area of a triangle from any of its sides. -/
theorem edge_of_side {s : TriangleSetup} (h : (p, q, r) ∈ sidesOf s) :
    p.edge q r = s.a.edge s.b s.c := by
  simp only [sidesOf, List.mem_cons, Prod.mk.injEq, List.not_mem_nil, or_false] at h
  obtain ⟨rfl, rfl, rfl⟩ | ⟨rfl, rfl, rfl⟩ | ⟨rfl, rfl, rfl⟩ := h
  · unfold FixedPoint.edge
    ring
  · unfold FixedPoint.edge
    ring
  · rfl

/-- The third vertex is on the inner side of each side. -/
theorem edge_pos (h : (p, q, r) ∈ sidesOf t.setup) : 0 < p.edge q r := by
  rw [edge_of_side h, ← t.delta]
  exact t.positive

/-- The points of a triangle from any of its sides. -/
theorem region_of_side {s : TriangleSetup} (h : (p, q, r) ∈ sidesOf s) :
    regionOf s = convexHull ℝ {planePoint p, planePoint q, planePoint r} := by
  simp only [sidesOf, List.mem_cons, Prod.mk.injEq, List.not_mem_nil, or_false] at h
  obtain ⟨rfl, rfl, rfl⟩ | ⟨rfl, rfl, rfl⟩ | ⟨rfl, rfl, rfl⟩ := h
  · rw [regionOf, Set.insert_comm, Set.pair_comm]
  · rw [regionOf, Set.pair_comm, Set.insert_comm]
  · rfl

/-! ## The test of a pixel -/

/-- A point passes the test of a side. -/
def Passes (p q x : FixedPoint) : Prop :=
  0 < p.edge q x ∨ (p.isTopLeft q ∧ p.edge q x = 0)

/-- The edge test of the code is that of the rule. -/
theorem passes_iff (p q x : FixedPoint) :
    (if p.isTopLeft q then decide (p.edge q x ≥ 0) else decide (p.edge q x > 0)) = true ↔
      Passes p q x := by
  unfold Passes
  cases p.isTopLeft q with
  | true =>
    rw [if_pos rfl, decide_eq_true_eq]
    simp only [true_and]
    omega
  | false =>
    rw [if_neg Bool.false_ne_true, decide_eq_true_eq]
    simp only [Bool.false_eq_true, false_and, or_false]

/-- A pixel is covered if its center passes the tests of all sides. -/
theorem covered_iff (x y : ℤ) :
    Covered fp t x y ↔ ∀ side ∈ sidesOf t.setup, Passes side.1 side.2.1 (pixelCenter x y) := by
  unfold Covered TriangleSetup.weights
  rw [Option.isSome_ite, Bool.and_eq_true, Bool.and_eq_true]
  simp only [sidesOf, List.forall_mem_cons, List.not_mem_nil, false_imp_iff, implies_true, and_true,
    and_assoc]
  exact and_congr (passes_iff _ _ _) (and_congr (passes_iff _ _ _) (passes_iff _ _ _))

/-- The tests of all sides from any of them. -/
theorem covered_of_side (h : (p, q, r) ∈ sidesOf t.setup) (x y : ℤ) :
    Covered fp t x y ↔ Passes p q (pixelCenter x y) ∧ Passes q r (pixelCenter x y) ∧
      Passes r p (pixelCenter x y) := by
  rw [covered_iff]
  simp only [sidesOf, List.mem_cons, Prod.mk.injEq, List.not_mem_nil, or_false] at h
  obtain ⟨rfl, rfl, rfl⟩ | ⟨rfl, rfl, rfl⟩ | ⟨rfl, rfl, rfl⟩ := h
  · simp [sidesOf]
  · simp only [sidesOf, List.forall_mem_cons, List.not_mem_nil, false_imp_iff, implies_true, and_true]
    tauto
  · simp only [sidesOf, List.forall_mem_cons, List.not_mem_nil, false_imp_iff, implies_true, and_true]
    tauto

/-- Of the two directions of a side one is top-left. -/
theorem isTopLeft_iff (hne : p.x ≠ q.x ∨ p.y ≠ q.y) : p.isTopLeft q ↔ ¬ q.isTopLeft p := by
  unfold FixedPoint.isTopLeft
  simp only [decide_eq_true_eq]
  omega

/-- The corners of a side of a triangle are two. -/
theorem ne_of_edge_pos (h : 0 < p.edge q r) : p.x ≠ q.x ∨ p.y ≠ q.y := by
  by_contra hsame
  rw [not_or, not_not, not_not] at hsame
  unfold FixedPoint.edge at h
  rw [hsame.1, hsame.2] at h
  simp at h

/-! ## Two triangles -/

/-- A common side is a side of each triangle, in opposite directions. -/
theorem common_side (h : SharesEdge t t') :
    ∃ p q r r', (p, q, r) ∈ sidesOf t.setup ∧ (q, p, r') ∈ sidesOf t'.setup := by
  obtain ⟨p, q, r, p', q', r', hside, hside', ⟨hp, hq⟩ | ⟨hp, hq⟩, hopposite⟩ := h
  · rw [hp, hq] at hside'
    have hsame := mul_pos (edge_pos hside) (edge_pos hside')
    omega
  · rw [hp, hq] at hside'
    exact ⟨p, q, r, r', hside, hside'⟩

/-- Two triangles with a common side, on opposite sides of it, draw each pixel between them once. -/
theorem drawnOnce (fp : FloatUnit) (h : SharesEdge t t') : DrawnOnce fp t t' := by
  obtain ⟨p, q, r, r', hside, hside'⟩ := common_side h
  have hpos := edge_pos hside
  have hpos' := edge_pos hside'
  have htopLeft := isTopLeft_iff (ne_of_edge_pos hpos)
  constructor
  · rintro x y ⟨hcovered, hcovered'⟩
    have hpass := ((covered_of_side hside x y).1 hcovered).1
    have hpass' := ((covered_of_side hside' x y).1 hcovered').1
    unfold Passes at hpass hpass'
    rw [edge_swap p q] at hpass'
    obtain hin | ⟨htl, hon⟩ := hpass
    · omega
    · obtain hin' | ⟨htl', -⟩ := hpass'
      · omega
      · exact htopLeft.1 htl htl'
  · intro x y hinterior
    rw [region_of_side hside, region_of_side hside'] at hinterior
    have hadjacent : Adjacent (planePoint p) (planePoint q) (planePoint r) (planePoint r') :=
      ⟨(cross_pos_iff p q r).2 hpos, (cross_pos_iff q p r').2 hpos'⟩
    rw [covered_of_side hside, covered_of_side hside']
    obtain ⟨hpq, hqr, hrp⟩ | ⟨hqp, hpr, hrq⟩ | ⟨hline, ⟨hqr, hrp⟩, hpr, hrq⟩ :=
      hadjacent.interior_cases hinterior
    · rw [cross_pos_iff] at hpq hqr hrp
      exact .inl ⟨.inl hpq, .inl hqr, .inl hrp⟩
    · rw [cross_pos_iff] at hqp hpr hrq
      exact .inr ⟨.inl hqp, .inl hpr, .inl hrq⟩
    · rw [cross_pos_iff] at hqr hrp hpr hrq
      rw [cross_planePoint, Int.cast_eq_zero] at hline
      by_cases htl : p.isTopLeft q
      · exact .inl ⟨.inr ⟨htl, hline⟩, .inl hqr, .inl hrp⟩
      · have htl' : q.isTopLeft p := by
          by_contra hnot
          exact htl (htopLeft.2 hnot)
        refine .inr ⟨.inr ⟨htl', ?_⟩, .inl hpr, .inl hrq⟩
        rw [edge_swap, hline]
        rfl

/-! ## The numbers -/

/-- The doubled area of three points in a square is at most that of the square twice. -/
theorem abs_edge_le {bound : ℤ} (hp : Within bound p) (hq : Within bound q) (hr : Within bound r) :
    |p.edge q r| ≤ bound * (4 * bound) := by
  have hnonneg : 0 ≤ bound := (abs_nonneg p.x).trans hp.1
  have hspread : |q.y - r.y| + |r.y - p.y| + |p.y - q.y| ≤ 4 * bound := by
    have hpy := abs_le.1 hp.2
    have hqy := abs_le.1 hq.2
    have hry := abs_le.1 hr.2
    rcases abs_cases (q.y - r.y) with hqr | hqr <;> rcases abs_cases (r.y - p.y) with hrp | hrp <;>
      rcases abs_cases (p.y - q.y) with hpq | hpq <;> omega
  calc |p.edge q r|
      = |p.x * (q.y - r.y) + q.x * (r.y - p.y) + r.x * (p.y - q.y)| := by
        congr 1
        unfold FixedPoint.edge
        ring
    _ ≤ |p.x * (q.y - r.y)| + |q.x * (r.y - p.y)| + |r.x * (p.y - q.y)| := abs_add_three _ _ _
    _ = |p.x| * |q.y - r.y| + |q.x| * |r.y - p.y| + |r.x| * |p.y - q.y| := by
        rw [abs_mul, abs_mul, abs_mul]
    _ ≤ bound * |q.y - r.y| + bound * |r.y - p.y| + bound * |p.y - q.y| :=
        add_le_add (add_le_add (mul_le_mul_of_nonneg_right hp.1 (abs_nonneg _))
          (mul_le_mul_of_nonneg_right hq.1 (abs_nonneg _)))
          (mul_le_mul_of_nonneg_right hr.1 (abs_nonneg _))
    _ = bound * (|q.y - r.y| + |r.y - p.y| + |p.y - q.y|) := by ring
    _ ≤ bound * (4 * bound) := mul_le_mul_of_nonneg_left hspread hnonneg

/-- A product of two differences in range fits in 64 bits. -/
theorem fitsI64_of_abs {n : ℤ} (h : |n| ≤ (2 ^ 30 + 8) * (4 * (2 ^ 30 + 8))) : FitsI64 n := by
  have hrange := abs_le.1 h
  constructor
  · norm_num at hrange ⊢
    omega
  · norm_num at hrange ⊢
    omega

/-- The edge function of points that a pixel box can have is computed in 64 bits. -/
theorem edgeFits (hp : Within (2 ^ 30 + 8) p) (hq : Within (2 ^ 30 + 8) q)
    (hr : Within (2 ^ 30 + 8) r) : EdgeFits p q r := by
  have hdiff {m n : ℤ} (hm : |m| ≤ 2 ^ 30 + 8) (hn : |n| ≤ 2 ^ 30 + 8) : |m - n| ≤ 2 * (2 ^ 30 + 8) :=
    (abs_sub m n).trans (by omega)
  have hproduct {m n : ℤ} (hm : |m| ≤ 2 * (2 ^ 30 + 8)) (hn : |n| ≤ 2 * (2 ^ 30 + 8)) :
      FitsI64 (m * n) := by
    apply fitsI64_of_abs
    rw [abs_mul]
    exact (mul_le_mul hm hn (abs_nonneg n) (by norm_num)).trans (by norm_num)
  have hsmall {n : ℤ} (hn : |n| ≤ 2 * (2 ^ 30 + 8)) : FitsI64 n :=
    fitsI64_of_abs (hn.trans (by norm_num))
  have hqx := hdiff hq.1 hp.1
  have hqy := hdiff hq.2 hp.2
  have hrx := hdiff hr.1 hp.1
  have hry := hdiff hr.2 hp.2
  refine ⟨?_, ⟨hproduct hqx hry, hproduct hqy hrx⟩, fitsI64_of_abs (abs_edge_le hp hq hr)⟩
  simp only [List.forall_mem_cons, List.not_mem_nil, false_imp_iff, implies_true, and_true]
  exact ⟨hsmall hqx, hsmall hqy, hsmall hrx, hsmall hry⟩

/-- The ends of a side are in range. -/
theorem within_of_side (h : (p, q, r) ∈ sidesOf t.setup) :
    Within (2 ^ 30 + 8) p ∧ Within (2 ^ 30 + 8) q := by
  have hwiden {x : FixedPoint} (hx : Within (2 ^ 30 - 1) x) : Within (2 ^ 30 + 8) x :=
    ⟨hx.1.trans (by norm_num), hx.2.trans (by norm_num)⟩
  have hsmall := t.small
  simp only [List.forall_mem_cons, List.not_mem_nil, false_imp_iff, implies_true, and_true] at hsmall
  obtain ⟨ha, hb, hc⟩ := hsmall
  simp only [sidesOf, List.mem_cons, Prod.mk.injEq, List.not_mem_nil, or_false] at h
  obtain ⟨rfl, rfl, rfl⟩ | ⟨rfl, rfl, rfl⟩ | ⟨rfl, rfl, rfl⟩ := h
  · exact ⟨hwiden hb, hwiden hc⟩
  · exact ⟨hwiden hc, hwiden ha⟩
  · exact ⟨hwiden ha, hwiden hb⟩

/-- The three edge functions add up to the area. -/
theorem edgesAddUp (t : DrawnTriangle) : EdgesAddUp t := by
  constructor
  · intro x y
    rw [t.delta]
    unfold FixedPoint.edge
    ring
  · rintro x y hcenter ⟨p, q, r⟩ hside
    obtain ⟨hp, hq⟩ := within_of_side hside
    exact edgeFits hp hq hcenter

/-- Two triangles that have a side in common and lie on opposite sides of it: each pixel between
them is drawn once, and the edge functions of each add up to its doubled area. -/
theorem shared_edge_rule (h : SharesEdge t t') :
    (∀ fp, DrawnOnce fp t t') ∧ EdgesAddUp t ∧ EdgesAddUp t' :=
  ⟨fun fp => drawnOnce fp h, edgesAddUp t, edgesAddUp t'⟩

/-- A triangle of three points of the grid, in a box of four by four pixels. -/
def gridTriangle (a b c : FixedPoint) : TriangleSetup where
  va := {}
  vb := {}
  vc := {}
  a := a
  b := b
  c := c
  deltaFixed := a.edge b c
  minX := 0
  maxX := 3
  minY := 0
  maxY := 3

/-- The halves of a square of four pixels, whose diagonal goes through the centers of pixels. -/
def lowerHalf : DrawnTriangle :=
  ⟨gridTriangle ⟨0, 0⟩ ⟨64, 64⟩ ⟨0, 64⟩, rfl, by decide, by simp [gridTriangle, Within]⟩

/-- The other half of the square. -/
def upperHalf : DrawnTriangle :=
  ⟨gridTriangle ⟨64, 64⟩ ⟨0, 0⟩ ⟨64, 0⟩, rfl, by decide, by simp [gridTriangle, Within]⟩

/-- The two halves of a square are drawn once each. -/
theorem shared_edge_rule_square :
    (∀ fp, DrawnOnce fp lowerHalf upperHalf) ∧ EdgesAddUp lowerHalf ∧ EdgesAddUp upperHalf :=
  shared_edge_rule ⟨⟨0, 0⟩, ⟨64, 64⟩, ⟨0, 64⟩, ⟨64, 64⟩, ⟨0, 0⟩, ⟨64, 0⟩, by simp [sidesOf, lowerHalf, gridTriangle],
    by simp [sidesOf, upperHalf, gridTriangle], .inr ⟨rfl, rfl⟩, by decide⟩

end Xblob.Analysis
