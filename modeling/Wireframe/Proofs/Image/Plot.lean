import Mathlib.Tactic.Common
import Wireframe.Image

/-!
The pixels of an image after some of them have been set. Different pixels have different
places in storage, so setting one leaves all others as they were.
-/

namespace Wireframe.Image

variable {image : Image} {p q : Point Int}

theorem index_injective (hp : image.Contains p) (hq : image.Contains q)
    (h : image.index p = image.index q) : p = q := by
  have hpx : p.x.toNat < image.width := by
    have := hp.x_lt
    have := hp.x_nonneg
    omega
  have hqx : q.x.toNat < image.width := by
    have := hq.x_lt
    have := hq.x_nonneg
    omega
  have hwidth : 0 < image.width := Nat.zero_lt_of_lt hpx
  have hrow : image.height - 1 - p.y.toNat = image.height - 1 - q.y.toNat := by
    have hquotient := congrArg (· / image.width) h
    simpa [index, Nat.mul_comm _ image.width, Nat.mul_add_div hwidth,
      Nat.div_eq_of_lt hpx, Nat.div_eq_of_lt hqx] using hquotient
  have hcolumn : p.x.toNat = q.x.toNat := by
    unfold index at h
    rw [hrow] at h
    exact Nat.add_left_cancel h
  obtain ⟨px, py⟩ := p
  obtain ⟨qx, qy⟩ := q
  obtain ⟨hpx0, hpxlt, hpy0, hpylt⟩ := hp
  obtain ⟨hqx0, hqxlt, hqy0, hqylt⟩ := hq
  simp only [Point.mk.injEq] at *
  omega

theorem contains_congr {other : Image} (hwidth : other.width = image.width)
    (hheight : other.height = image.height) : other.Contains p ↔ image.Contains p := by
  constructor
  · rintro ⟨hx, hxlt, hy, hylt⟩
    exact ⟨hx, hwidth ▸ hxlt, hy, hheight ▸ hylt⟩
  · rintro ⟨hx, hxlt, hy, hylt⟩
    exact ⟨hx, hwidth ▸ hxlt, hy, hheight ▸ hylt⟩

@[simp] theorem contains_plot (image : Image) (p q : Point Int) (value : Rgb) :
    (image.plot q value).Contains p ↔ image.Contains p :=
  contains_congr (image.width_plot q value) (image.height_plot q value)

theorem pixel?_eq_none (h : ¬ image.Contains p) : image.pixel? p = none :=
  dif_neg h

theorem pixel?_eq_some {pixels : Vector Rgb (image.width * image.height)}
    (h : image.Contains p) :
    pixel? ⟨image.width, image.height, pixels⟩ p =
      some (pixels.get ⟨image.index p, index_lt h⟩) :=
  dif_pos ⟨h.x_nonneg, h.x_lt, h.y_nonneg, h.y_lt⟩

theorem pixel?_filled {width height : Nat} {value : Rgb}
    (h : (filled width height value).Contains p) :
    (filled width height value).pixel? p = some value := by
  rw [pixel?, dif_pos h]
  exact congrArg some (Vector.getElem_replicate _)

theorem pixel?_plot (image : Image) (p q : Point Int) (value : Rgb) :
    (image.plot q value).pixel? p =
      if p = q ∧ image.Contains p then some value else image.pixel? p := by
  by_cases hq : image.Contains q
  · by_cases hp : image.Contains p
    · have hset : (image.pixels.set (image.index q) value (index_lt hq)).get
            ⟨image.index p, index_lt hp⟩ =
          if image.index q = image.index p then value
          else image.pixels.get ⟨image.index p, index_lt hp⟩ :=
        Vector.getElem_set _ _
      rw [plot, dif_pos hq, pixel?_eq_some hp, hset]
      by_cases heq : p = q
      · rw [if_pos (congrArg image.index heq.symm), if_pos ⟨heq, hp⟩]
      · have hindex : image.index q ≠ image.index p := fun h =>
          heq (index_injective hp hq h.symm)
        rw [if_neg hindex, if_neg fun h => heq h.1]
        exact (pixel?_eq_some hp).symm
    · rw [if_neg fun h => hp h.2, pixel?_eq_none hp]
      exact pixel?_eq_none fun h => hp ((contains_plot image p q value).mp h)
  · have hplot : image.plot q value = image := dif_neg hq
    rw [hplot, if_neg]
    rintro ⟨rfl, hp⟩
    exact hq hp

/-! The same for any number of points set to one value. -/

@[simp] theorem plotAll_nil (image : Image) (value : Rgb) :
    image.plotAll [] value = image := rfl

@[simp] theorem plotAll_cons (image : Image) (q : Point Int) (points : List (Point Int))
    (value : Rgb) :
    image.plotAll (q :: points) value = (image.plot q value).plotAll points value := rfl

@[simp] theorem width_plotAll (image : Image) (points : List (Point Int)) (value : Rgb) :
    (image.plotAll points value).width = image.width := by
  induction points generalizing image with
  | nil => rfl
  | cons q points ih => rw [plotAll_cons, ih, width_plot]

@[simp] theorem height_plotAll (image : Image) (points : List (Point Int)) (value : Rgb) :
    (image.plotAll points value).height = image.height := by
  induction points generalizing image with
  | nil => rfl
  | cons q points ih => rw [plotAll_cons, ih, height_plot]

theorem pixel?_plotAll (image : Image) (points : List (Point Int)) (p : Point Int)
    (value : Rgb) :
    (image.plotAll points value).pixel? p =
      if p ∈ points ∧ image.Contains p then some value else image.pixel? p := by
  induction points generalizing image with
  | nil => simp
  | cons q points ih =>
      rw [plotAll_cons, ih, pixel?_plot]
      simp only [contains_plot]
      by_cases hp : image.Contains p
      · by_cases hq : p = q
        · subst hq
          simp [hp]
        · simp [hp, hq]
      · simp [hp]

end Wireframe.Image
