import Wireframe.Geometry.EdgeList
import Wireframe.Proofs.Binary.Bits
import Wireframe.Proofs.Binary.Truncation

/-!
The pixels of points. Each coordinate is cut off towards zero when it is drawn, on its
own, and is held within the signed numbers of sixty-four bits.
-/

namespace Wireframe

open Binary

variable {x y : Single}

theorem gridCoordinate_of_isFinite (h : x.IsFinite) :
    gridCoordinate x = max (-2 ^ 63) (min (2 ^ 63 - 1) (truncate x.toRat)) :=
  truncateWithin_of_isFinite h

theorem gridCoordinate_mono (hx : x ≠ .nan) (hy : y ≠ .nan) (h : ¬ y < x) :
    gridCoordinate x ≤ gridCoordinate y :=
  truncateWithin_mono (by decide) (by decide) hx hy h

theorem gridCoordinate_congr (hx : x.IsFinite) (hy : y.IsFinite)
    (h : truncate x.toRat = truncate y.toRat) :
    gridCoordinate x = gridCoordinate y := by
  rw [gridCoordinate_of_isFinite hx, gridCoordinate_of_isFinite hy, h]

theorem gridCoordinate_eq_zero_iff :
    gridCoordinate x = 0 ↔ x = .nan ∨ x.IsFinite ∧ |x.toRat| < 1 := by
  cases x with
  | nan => exact iff_of_true rfl (.inl rfl)
  | infinity negative =>
      have hnone : ¬ (Binary.infinity negative = (.nan : Single) ∨
          (Binary.infinity negative : Single).IsFinite ∧
              |(Binary.infinity negative : Single).toRat| < 1) := by
        rintro (hnan | ⟨⟨_, _, _, hfinite⟩, -⟩)
        · cases hnan
        · cases hfinite
      cases negative <;> exact iff_of_false (by decide) hnone
  | finite negative units h =>
      have hfinite : (Binary.finite negative units h).IsFinite := ⟨_, _, _, rfl⟩
      rw [gridCoordinate_of_isFinite hfinite, ← truncate_eq_zero_iff]
      constructor
      · intro hzero
        exact .inr ⟨hfinite, by omega⟩
      · rintro (hnan | ⟨-, hzero⟩)
        · cases hnan
        · omega

theorem gridCoordinate_neg (hlow : gridCoordinate x ≠ -2 ^ 63)
    (hhigh : gridCoordinate x ≠ 2 ^ 63 - 1) :
    gridCoordinate (-x) = -gridCoordinate x := by
  cases x with
  | nan => rfl
  | infinity negative =>
      cases negative with
      | false => exact absurd rfl hhigh
      | true => exact absurd rfl hlow
  | finite negative units h =>
      have hfinite : (Binary.finite negative units h).IsFinite := ⟨_, _, _, rfl⟩
      rw [gridCoordinate_of_isFinite hfinite] at hlow hhigh ⊢
      rw [gridCoordinate_of_isFinite hfinite.neg, toRat_neg, truncate_neg]
      omega

/-- Around the upper bound the magnitudes are too far apart for one to have
it as its integer part. -/
theorem units_div_ne_bound {units : Nat} (h : Format.single.Representable units) :
    units / 2 ^ Format.single.scale ≠ 2 ^ 63 - 1 := by
  intro hpart
  have hscale : Format.single.scale = 149 := by decide
  rw [hscale] at hpart
  have hlog : units.log2 = 211 := by
    rw [Nat.log2_eq_iff (by omega)]
    omega
  have hspacing : Format.single.spacing units = 2 ^ 188 := by
    rw [Format.spacing, hlog]
    rfl
  obtain ⟨count, rfl⟩ := hspacing ▸ h.dvd
  omega

theorem gridCoordinate_neg_eq_low_iff :
    gridCoordinate (-x) = -2 ^ 63 ↔ gridCoordinate x = 2 ^ 63 - 1 := by
  cases x with
  | nan => decide
  | infinity negative => cases negative <;> decide
  | finite negative units h =>
      have hfinite : (Binary.finite negative units h).IsFinite := ⟨_, _, _, rfl⟩
      have hbound : truncate (Binary.finite negative units h).toRat ≠ 2 ^ 63 - 1 := by
        have hpart := units_div_ne_bound h
        rw [truncate_toRat_finite]
        generalize units / 2 ^ Format.single.scale = part at hpart ⊢
        cases negative <;> simp only [signed_false, signed_true] <;> omega
      rw [gridCoordinate_of_isFinite hfinite, gridCoordinate_of_isFinite hfinite.neg,
        toRat_neg, truncate_neg]
      omega

/-! Coordinates as patterns of bits. -/

section

variable {bits : Nat}

theorem gridCoordinate_ofBits_last (hexponent : bits / 2 ^ 23 % 2 ^ 8 = 255) :
    gridCoordinate (.ofBits .single bits) =
      if bits % 2 ^ 23 = 0 then
        if bits / 2 ^ 31 % 2 = 1 then -2 ^ 63 else 2 ^ 63 - 1
      else 0 := by
  have hlast : (ofBits .single bits) =
      if bits % 2 ^ 23 = 0 then .infinity (bits / 2 ^ 31 % 2 = 1) else .nan :=
    if_pos hexponent
  rw [hlast]
  split
  · split
    · rename_i hnegative
      rw [decide_eq_true hnegative]
      rfl
    · rename_i hpositive
      rw [decide_eq_false hpositive]
      rfl
  · rfl

theorem gridCoordinate_ofBits (hexponent : bits / 2 ^ 23 % 2 ^ 8 ≠ 255) :
    gridCoordinate (.ofBits .single bits) =
      max (-2 ^ 63) (min (2 ^ 63 - 1)
        (truncate (Format.single.valueOfFields (bits / 2 ^ 31 % 2 = 1)
          (bits / 2 ^ 23 % 2 ^ 8) (bits % 2 ^ 23)))) := by
  obtain ⟨hfinite, hvalue⟩ := @ofBits_eq_finite .single scale_single bits hexponent
  rw [gridCoordinate_of_isFinite hfinite, hvalue]
  rfl

end

/-- Each point has its place and one number for each coordinate: zero for NaN, and else
the integer part towards zero, held between the bounds of sixty-four bits, where the
infinities are. This is zero for what is less than one from zero and nothing else. It is
the same rule for the numbers that bits stand for, whatever the bits are. Larger
coordinates have no smaller pixels, a coordinate and its negative have pixels that are
negatives, but for the bounds, which go to each other, and the pixel is decided by the
integer part and the side of zero. -/
theorem gridPoints_truncate_coordinates :
    (∀ edges : EdgeList, edges.gridPoints.size = edges.size ∧
      ∀ (i : Nat) (point : Row Single), edges[i]? = some point →
        edges.gridPoints[i]? = some
          ⟨gridCoordinate point.x, gridCoordinate point.y, gridCoordinate point.z⟩) ∧
    gridCoordinate .nan = 0 ∧
    gridCoordinate (.infinity true) = -2 ^ 63 ∧
    gridCoordinate (.infinity false) = 2 ^ 63 - 1 ∧
    (∀ x : Single, x.IsFinite → gridCoordinate x =
      max (-2 ^ 63) (min (2 ^ 63 - 1) (truncate x.toRat))) ∧
    (∀ x : Single, gridCoordinate x = 0 ↔ x = .nan ∨ x.IsFinite ∧ |x.toRat| < 1) ∧
    (∀ bits : UInt32,
      let negative : Bool := bits.toNat / 2 ^ 31 % 2 = 1
      let exponent := bits.toNat / 2 ^ 23 % 2 ^ 8
      let fraction := bits.toNat % 2 ^ 23
      let x : Single := .ofBits .single bits.toNat
      (exponent = 255 → fraction ≠ 0 → gridCoordinate x = 0) ∧
      (exponent = 255 → fraction = 0 →
        gridCoordinate x = if negative then -2 ^ 63 else 2 ^ 63 - 1) ∧
      (exponent ≠ 255 → gridCoordinate x =
        max (-2 ^ 63) (min (2 ^ 63 - 1)
          (truncate (Format.single.valueOfFields negative exponent fraction))))) ∧
    (∀ x y : Single, x ≠ .nan → y ≠ .nan → ¬ y < x →
      gridCoordinate x ≤ gridCoordinate y) ∧
    (∀ x : Single, gridCoordinate x ≠ -2 ^ 63 → gridCoordinate x ≠ 2 ^ 63 - 1 →
      gridCoordinate (-x) = -gridCoordinate x) ∧
    (∀ x : Single, gridCoordinate (-x) = -2 ^ 63 ↔ gridCoordinate x = 2 ^ 63 - 1) ∧
    ∀ x y : Single, x.IsFinite → y.IsFinite → ⌊|x.toRat|⌋ = ⌊|y.toRat|⌋ →
      0 ≤ x.toRat * y.toRat → gridCoordinate x = gridCoordinate y := by
  refine ⟨fun edges => ⟨Array.size_map, fun i point hpoint => ?_⟩, rfl, rfl, rfl,
    fun x hx => gridCoordinate_of_isFinite hx, fun x => gridCoordinate_eq_zero_iff,
    fun bits => ⟨?_, ?_, ?_⟩, fun x y hx hy h => gridCoordinate_mono hx hy h,
    fun x hlow hhigh => gridCoordinate_neg hlow hhigh,
    fun x => gridCoordinate_neg_eq_low_iff, fun x y hx hy hparts hsides => ?_⟩
  · rw [EdgeList.gridPoints, Array.getElem?_map, hpoint, Option.map_some]
    rfl
  · intro hexponent hfraction
    rw [gridCoordinate_ofBits_last hexponent, if_neg hfraction]
  · intro hexponent hfraction
    rw [gridCoordinate_ofBits_last hexponent, if_pos hfraction]
    simp only [decide_eq_true_eq]
  · exact gridCoordinate_ofBits
  · exact gridCoordinate_congr hx hy (truncate_congr hparts hsides)

theorem gridPoints_truncate_coordinates_mixed :
    let fraction : Single := .ofBits .single 0xBFF33333
    let tiny : Single := .ofBits .single 1
    let far : Single := .ofBits .single 0x5F000000
    let point : Row Single := #v[fraction, tiny, far, 1]
    (EdgeList.gridPoints #[.replicate 4 .nan, point])[1]? = some ⟨-1, 0, 2 ^ 63 - 1⟩ ∧
      gridCoordinate (-fraction) = 1 ∧
      gridCoordinate (-far) = -2 ^ 63 ∧ gridCoordinate tiny ≤ gridCoordinate far ∧
      gridCoordinate fraction = gridCoordinate (-1) := by
  intro fraction tiny far point
  obtain ⟨hpoints, -, -, -, -, hzero, hbits, hmono, hneg, hends, hparts⟩ :=
    gridPoints_truncate_coordinates
  obtain ⟨-, hplaces⟩ := hpoints #[.replicate 4 .nan, point]
  have hfraction : gridCoordinate fraction = -1 := by
    obtain ⟨-, -, hvalue⟩ := hbits 0xBFF33333
    refine (hvalue (by decide)).trans ?_
    decide +kernel
  have hfar : gridCoordinate far = 2 ^ 63 - 1 := by
    obtain ⟨-, -, hvalue⟩ := hbits 0x5F000000
    refine (hvalue (by decide)).trans ?_
    decide +kernel
  have htiny : gridCoordinate tiny = 0 :=
    (hzero tiny).mpr (.inr ⟨by decide +kernel, by decide +kernel⟩)
  refine ⟨?_, ?_, (hends far).mpr hfar, hmono tiny far ?_ ?_ ?_,
    hparts fraction (-1) ?_ ?_ ?_ ?_⟩
  · have hrow : ∀ a b c d : Single, Row.x #v[a, b, c, d] = a ∧ Row.y #v[a, b, c, d] = b ∧
        Row.z #v[a, b, c, d] = c :=
      fun _ _ _ _ => ⟨rfl, rfl, rfl⟩
    obtain ⟨hx, hy, hz⟩ := hrow fraction tiny far 1
    rw [hplaces 1 point rfl, hx, hy, hz, hfraction, htiny, hfar]
  · rw [hneg fraction (by rw [hfraction]; decide) (by rw [hfraction]; decide), hfraction]
    rfl
  all_goals decide +kernel

end Wireframe
