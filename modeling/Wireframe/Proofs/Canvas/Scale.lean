import Mathlib.Order.Lattice
import Wireframe.Canvas

/-!
The scale of colours. A channel takes the part of 255 that it is of the scale, rounded
down, and on scales that leave room for the product no step of the computation wraps.
-/

namespace Wireframe.Color

/-- The part of 255 that a channel is of a scale; it is zero if the scale
has nothing but zero. -/
def share (scale channel : Nat) : Nat :=
  255 * min channel scale / scale

section

variable {scale wider channel brighter byte : Nat}

@[simp] theorem share_zero_left (channel : Nat) : share 0 channel = 0 :=
  Nat.div_zero _

@[simp] theorem share_zero_right (scale : Nat) : share scale 0 = 0 := by
  rw [share, Nat.zero_min, Nat.mul_zero, Nat.zero_div]

theorem share_of_le (h : channel ≤ scale) :
    share scale channel = 255 * channel / scale := by
  rw [share, Nat.min_eq_left h]

theorem share_eq_255 (hscale : 0 < scale) (h : scale ≤ channel) :
    share scale channel = 255 := by
  rw [share, Nat.min_eq_right h, Nat.mul_div_cancel _ hscale]

theorem share_le (scale channel : Nat) : share scale channel ≤ 255 := by
  refine Nat.div_le_of_le_mul ?_
  rw [Nat.mul_comm scale]
  exact Nat.mul_le_mul_left 255 (Nat.min_le_right channel scale)

theorem share_mono (scale : Nat) (h : channel ≤ brighter) :
    share scale channel ≤ share scale brighter :=
  Nat.div_le_div_right (Nat.mul_le_mul_left 255 (inf_le_inf_right scale h))

theorem share_anti (hscale : 0 < scale) (h : scale ≤ wider) (channel : Nat) :
    share wider channel ≤ share scale channel := by
  rcases Nat.le_total scale channel with hfull | hpart
  · rw [share_eq_255 hscale hfull]
    exact share_le wider channel
  · rw [share_of_le hpart, share_of_le (hpart.trans h)]
    exact Nat.div_le_div_left h hscale

theorem share_255 (h : channel ≤ 255) : share 255 channel = channel := by
  rw [share_of_le h, Nat.mul_div_cancel_left _ (by decide)]

/-- On a scale with a step for each byte, the first channel that is as large a part of it
as the byte is of 255 is less than a byte beyond that. -/
theorem exists_share_eq (hscale : 255 ≤ scale) (hbyte : byte ≤ 255) :
    ∃ channel ≤ scale, share scale channel = byte := by
  let channel := (byte * scale + 254) / 255
  have hfull : byte * scale ≤ 255 * scale := Nat.mul_le_mul_right scale hbyte
  have hge : byte * scale ≤ 255 * channel := by omega
  have hlt : 255 * channel < (byte + 1) * scale := by
    rw [Nat.add_one_mul byte]
    omega
  have hle : channel ≤ scale := by omega
  refine ⟨channel, hle, ?_⟩
  rw [share_of_le hle]
  exact Nat.div_eq_of_lt_le hge hlt

theorem le_scale_of_share_eq_254 (h : share scale channel = 254) : 255 ≤ scale := by
  rcases Nat.eq_zero_or_pos scale with rfl | hpos
  · rw [share_zero_left] at h
    cases h
  rcases Nat.lt_or_ge channel scale with hpart | hfull
  · rw [share_of_le hpart.le] at h
    have hle : 254 * scale ≤ 255 * channel :=
      h ▸ Nat.div_mul_le_self (255 * channel) scale
    omega
  · rw [share_eq_255 hpos hfull] at h
    cases h

end

/-! Channels of sixty-four bits. -/

section

variable {maxColor channel : UInt64}

theorem toNat_min (a b : UInt64) : (min a b).toNat = min a.toNat b.toNat := by
  change (if a ≤ b then a else b).toNat = _
  rw [Nat.min_def, apply_ite UInt64.toNat]
  rfl

theorem toNat_max (a b : UInt64) : (max a b).toNat = max a.toNat b.toNat := by
  change (if a ≤ b then b else a).toNat = _
  rw [Nat.max_def, apply_ite UInt64.toNat]
  rfl

theorem product_lt_size_iff {n : Nat} :
    n * 255 < UInt64.size ↔ n ≤ (UInt64.size - 1) / 255 := by
  rw [Nat.le_div_iff_mul_le (by decide), ← Nat.lt_iff_le_pred (by decide)]

theorem toNat_product_eq_iff :
    (∀ c, (min c maxColor * 255).toNat = min c.toNat maxColor.toNat * 255) ↔
      maxColor.toNat ≤ (UInt64.size - 1) / 255 := by
  have hproduct : ∀ c, (min c maxColor * 255).toNat =
      min c.toNat maxColor.toNat * 255 % UInt64.size := fun c => by
    rw [UInt64.toNat_mul, toNat_min]
    rfl
  constructor
  · intro h
    have hlast : maxColor.toNat * 255 % UInt64.size = maxColor.toNat * 255 := by
      simpa [hproduct] using h maxColor
    rw [← product_lt_size_iff, ← hlast]
    exact Nat.mod_lt _ (by decide)
  · intro h c
    rw [hproduct,
      Nat.mod_eq_of_lt (product_lt_size_iff.mpr ((Nat.min_le_right _ _).trans h))]

theorem toNat_quotient (h : maxColor.toNat ≤ (UInt64.size - 1) / 255) (c : UInt64) :
    (min c maxColor * 255 / max maxColor 1).toNat = share maxColor.toNat c.toNat := by
  rw [UInt64.toNat_div, toNat_product_eq_iff.mpr h, toNat_max, share, Nat.mul_comm 255]
  change _ / max maxColor.toNat 1 = _
  rcases Nat.eq_zero_or_pos maxColor.toNat with hzero | hpos
  · rw [hzero, Nat.min_zero, Nat.zero_mul, Nat.zero_div, Nat.zero_div]
  · rw [Nat.max_eq_left hpos]

theorem toNat_channelByte (h : maxColor.toNat ≤ (UInt64.size - 1) / 255) (c : UInt64) :
    (channelByte maxColor c).toNat = share maxColor.toNat c.toNat := by
  have hle := share_le maxColor.toNat c.toNat
  rw [channelByte, UInt64.toNat_toUInt8, toNat_quotient h]
  omega

theorem channelByte_eq_iff (h : maxColor.toNat ≤ (UInt64.size - 1) / 255) {byte : UInt8} :
    channelByte maxColor channel = byte ↔
    share maxColor.toNat channel.toNat = byte.toNat := by
  rw [← toNat_channelByte h, UInt8.toNat_inj]

theorem channelByte_le_iff {scale other c d : UInt64}
    (hscale : scale.toNat ≤ (UInt64.size - 1) / 255)
    (hother : other.toNat ≤ (UInt64.size - 1) / 255) :
    channelByte scale c ≤ channelByte other d ↔
    share scale.toNat c.toNat ≤ share other.toNat d.toNat := by
  rw [UInt8.le_iff_toNat_le, toNat_channelByte hscale, toNat_channelByte hother]

theorem exists_channelByte_iff (h : maxColor.toNat ≤ (UInt64.size - 1) / 255) :
    (∀ byte, ∃ c ≤ maxColor, channelByte maxColor c = byte) ↔ 255 ≤ maxColor := by
  constructor
  · intro honto
    obtain ⟨c, -, hc⟩ := honto 254
    exact le_scale_of_share_eq_254 ((channelByte_eq_iff h).mp hc)
  · intro hlong byte
    obtain ⟨c, hle, hc⟩ :=
      exists_share_eq (UInt64.le_iff_toNat_le.mp hlong) (Nat.le_of_lt_succ byte.toNat_lt)
    have hsmall : c < UInt64.size := hle.trans_lt maxColor.toNat_lt
    have hword : (UInt64.ofNat c).toNat = c := UInt64.toNat_ofNat_of_lt hsmall
    refine ⟨.ofNat c, ?_, ?_⟩
    · rw [UInt64.le_iff_toNat_le, hword]
      exact hle
    · rw [channelByte_eq_iff h, hword]
      exact hc

end

/-- The scales on which no product of a channel wraps are those up to
`(UInt64.size - 1) / 255`. There the quotient is a byte: the part of 255 that the channel
is of the scale, rounded down, and zero if the scale is zero. A brighter channel has no
smaller byte and a wider scale gives no larger one, and the ends of the scale go to the
ends of the bytes. All bytes are there just if the scale has as many steps as they have,
and on the scale of 255 each channel is its byte. -/
theorem channelByte_scales :
    (∀ maxColor : UInt64,
      (∀ c, (min c maxColor * 255).toNat = min c.toNat maxColor.toNat * 255) ↔
      maxColor.toNat ≤ (UInt64.size - 1) / 255) ∧
    (∀ maxColor : UInt64, maxColor.toNat ≤ (UInt64.size - 1) / 255 →
      (∀ c, min c.toNat maxColor.toNat * 255 < UInt64.size ∧
        (min c maxColor * 255 / max maxColor 1).toNat ≤ 255 ∧
        (channelByte maxColor c).toNat = (min c maxColor * 255 / max maxColor 1).toNat ∧
        (1 ≤ maxColor →
          (channelByte maxColor c).toNat =
            255 * min c.toNat maxColor.toNat / maxColor.toNat) ∧
        (maxColor = 0 → channelByte maxColor c = 0)) ∧
      (∀ c d, c ≤ d → channelByte maxColor c ≤ channelByte maxColor d) ∧
      (∀ scale c, 1 ≤ scale → scale ≤ maxColor →
        channelByte maxColor c ≤ channelByte scale c) ∧
      channelByte maxColor 0 = 0 ∧
      (∀ c, 1 ≤ maxColor → maxColor ≤ c → channelByte maxColor c = 255) ∧
      ((∀ byte, ∃ c ≤ maxColor, channelByte maxColor c = byte) ↔ 255 ≤ maxColor) ∧
      ∀ color : Color, (color.toRgb maxColor).bytes.map UInt8.toNat =
        #[share maxColor.toNat color.red.toNat, share maxColor.toNat color.green.toNat,
          share maxColor.toNat color.blue.toNat]) ∧
    ∀ c : UInt64, c ≤ 255 → (channelByte 255 c).toNat = c.toNat := by
  refine ⟨fun maxColor => toNat_product_eq_iff,
    fun maxColor h => ⟨fun c => ?_, ?_, ?_, ?_, ?_, ?_, ?_⟩, ?_⟩
  · refine ⟨?_, ?_, ?_, fun _ => toNat_channelByte h c, ?_⟩
    · exact product_lt_size_iff.mpr ((Nat.min_le_right _ _).trans h)
    · rw [toNat_quotient h]
      exact share_le ..
    · rw [toNat_quotient h, toNat_channelByte h]
    · rintro rfl
      exact (channelByte_eq_iff h).mpr (share_zero_left _)
  · intro c d hcd
    exact (channelByte_le_iff h h).mpr (share_mono _ (UInt64.le_iff_toNat_le.mp hcd))
  · intro scale c hpos hle
    rw [UInt64.le_iff_toNat_le] at hpos hle
    exact (channelByte_le_iff h (hle.trans h)).mpr (share_anti hpos hle _)
  · exact (channelByte_eq_iff h).mpr (share_zero_right _)
  · intro c hpos hfull
    rw [UInt64.le_iff_toNat_le] at hpos hfull
    exact (channelByte_eq_iff h).mpr (share_eq_255 hpos hfull)
  · exact exists_channelByte_iff h
  · intro color
    simp only [toRgb, Rgb.bytes, List.map_toArray, List.map_cons, List.map_nil,
      toNat_channelByte h]
  · intro c hc
    rw [toNat_channelByte (by decide)]
    exact share_255 (UInt64.le_iff_toNat_le.mp hc)

theorem channelByte_scales_longest :
    let longest : UInt64 := 72340172838076673
    longest.toNat = (UInt64.size - 1) / 255 ∧
      (channelByte longest 36170086419038336).toNat = 127 ∧
      (channelByte longest (longest - 1)).toNat = 254 ∧
      channelByte longest 18446744073709551615 = 255 ∧
      (∀ byte, ∃ c ≤ longest, channelByte longest c = byte) ∧
      (channelByte 255 200).toNat = 200 := by
  intro longest
  obtain ⟨-, hscales, hbytes⟩ := channelByte_scales
  obtain ⟨hshare, -, -, -, hfull, honto, -⟩ := hscales longest (by decide)
  have hpart : ∀ c, (channelByte longest c).toNat =
      255 * min c.toNat longest.toNat / longest.toNat := fun c =>
    (hshare c).2.2.2.1 (by decide)
  refine ⟨by
    decide, ?_, ?_, hfull _ (by decide) (by decide), honto.mpr (by decide),
      hbytes 200 (by decide)⟩
  · rw [hpart]
    decide
  · rw [hpart]
    decide

end Wireframe.Color
