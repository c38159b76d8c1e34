import Wireframe.Proofs.Image.Plot

/-!
How an image is stored. Every place of the storage belongs to a pixel, and every
pixel takes three bytes.
-/

namespace Wireframe.Image

variable {image other : Image} {p : Point Int} {value : Rgb}

def pointOf (image : Image) (i : Nat) : Point Int :=
  ⟨(i % image.width : Nat), (image.height - 1 - i / image.width : Nat)⟩

section

variable {i : Nat} (h : i < image.width * image.height)
include h

theorem contains_pointOf : image.Contains (image.pointOf i) := by
  have hwidth : 0 < image.width := Nat.pos_of_lt_mul_right h
  have hheight : 0 < image.height := Nat.pos_of_lt_mul_left h
  constructor
  · exact Int.natCast_nonneg _
  · exact Int.ofNat_lt.mpr (Nat.mod_lt i hwidth)
  · exact Int.natCast_nonneg _
  · exact Int.ofNat_lt.mpr
      (Nat.lt_of_le_of_lt (Nat.sub_le ..) (Nat.sub_one_lt_of_lt hheight))

theorem index_pointOf : image.index (image.pointOf i) = i := by
  have hrow : i / image.width ≤ image.height - 1 :=
    Nat.le_sub_one_of_lt (Nat.div_lt_of_lt_mul h)
  simp only [index, pointOf, Int.toNat_natCast]
  rw [Nat.sub_sub_self hrow, Nat.mul_comm]
  exact Nat.div_add_mod i image.width

end

theorem ext_pixel? (hwidth : image.width = other.width)
    (hheight : image.height = other.height)
    (hpixels : ∀ p, image.Contains p → image.pixel? p = other.pixel? p) :
    image = other := by
  obtain ⟨width, height, pixels⟩ := image
  obtain ⟨_, _, others⟩ := other
  cases hwidth
  cases hheight
  congr
  refine Vector.ext fun i hi => ?_
  let first : Image := ⟨width, height, pixels⟩
  let second : Image := ⟨width, height, others⟩
  have hcontains : first.Contains (first.pointOf i) := contains_pointOf hi
  have hindex : first.index (first.pointOf i) = i := index_pointOf hi
  have hfirst : first.pixel? (first.pointOf i) = some pixels[i] := by
    refine (pixel?_eq_some hcontains).trans ?_
    exact congrArg some (getElem_congr_idx hindex)
  have hsecond : second.pixel? (first.pointOf i) = some others[i] := by
    refine (pixel?_eq_some hcontains).trans ?_
    exact congrArg some (getElem_congr_idx hindex)
  have hsame := hpixels _ hcontains
  change first.pixel? _ = second.pixel? _ at hsame
  rw [hfirst, hsecond] at hsame
  exact Option.some.inj hsame

private theorem take_drop_flatMap {α β : Type} {f : α → List β} {n : Nat}
    (hf : ∀ a, (f a).length = n) (xs : List α) {i : Nat} (h : i < xs.length) :
    ((xs.flatMap f).drop (n * i)).take n = f xs[i] := by
  induction xs generalizing i with
  | nil => exact absurd h (Nat.not_lt_zero i)
  | cons x xs ih =>
      rw [List.flatMap_cons]
      cases i with
      | zero =>
          rw [Nat.mul_zero, List.drop_zero]
          exact List.take_left' (hf x)
      | succ i =>
          rw [Nat.mul_succ, Nat.add_comm, ← List.drop_drop, List.drop_left' (hf x)]
          exact ih (Nat.lt_of_succ_lt_succ h)

theorem toList_bytes (image : Image) :
    image.bytes.toList = image.pixels.toList.flatMap fun value => value.bytes.toList :=
  Array.toList_flatMap

theorem size_bytes (image : Image) :
    image.bytes.size = 3 * image.width * image.height := by
  have hsize : ∀ value : Rgb, value.bytes.toList.length = 3 := fun _ => rfl
  rw [← Array.length_toList, toList_bytes, List.length_flatMap]
  simp only [hsize, List.map_const', List.sum_replicate_nat, Vector.length_toList]
  rw [Nat.mul_comm, Nat.mul_assoc]

theorem extract_bytes (h : image.pixel? p = some value) :
    image.bytes.extract (3 * image.index p) (3 * image.index p + 3) = value.bytes := by
  obtain ⟨hcontains, hget⟩ : ∃ h : image.Contains p,
      image.pixels.get ⟨image.index p, index_lt h⟩ = value := by
    simpa [pixel?] using h
  have hplace : image.index p < image.pixels.toList.length := by
    simpa using index_lt hcontains
  apply Array.toList_inj.mp
  rw [Array.toList_extract, toList_bytes, List.extract_eq_take_drop,
    Nat.add_sub_cancel_left, take_drop_flatMap (n := 3) (f := fun value : Rgb =>
    value.bytes.toList) (fun _ => rfl) _ hplace, ← hget]
  rfl

theorem ext_bytes (hwidth : image.width = other.width)
    (hheight : image.height = other.height) (hbytes : image.bytes = other.bytes) :
    image = other := by
  refine ext_pixel? hwidth hheight fun p hcontains => ?_
  have hother : other.Contains p :=
    (contains_congr hwidth.symm hheight.symm).mpr hcontains
  obtain ⟨value, hvalue⟩ : ∃ value, image.pixel? p = some value := ⟨_, dif_pos hcontains⟩
  obtain ⟨value', hvalue'⟩ : ∃ value, other.pixel? p = some value := ⟨_, dif_pos hother⟩
  have hindex : image.index p = other.index p := by
    unfold index
    rw [hwidth, hheight]
  have hsame : value.bytes = value'.bytes := by
    rw [← extract_bytes hvalue, ← extract_bytes hvalue', hindex, hbytes]
  have hred := congrArg (·[0]?) hsame
  have hgreen := congrArg (·[1]?) hsame
  have hblue := congrArg (·[2]?) hsame
  rw [hvalue, hvalue']
  obtain ⟨red, green, blue⟩ := value
  obtain ⟨_, _, _⟩ := value'
  cases hred
  cases hgreen
  cases hblue
  rfl

/-! Images made out of raw bytes. -/

/-- Making an image takes as many bytes as its sides ask for, and fails
only if there are fewer. -/
structure Making (make : UInt32 → UInt32 → Array UInt8 → Option Image) : Prop where
  isSome_iff : ∀ width height bytes,
    (make width height bytes).isSome ↔ 3 * width.toNat * height.toNat ≤ bytes.size
  sides_eq : ∀ width height bytes, ∀ image ∈ make width height bytes,
    image.width = width.toNat ∧ image.height = height.toNat
  bytes_eq : ∀ width height bytes, ∀ image ∈ make width height bytes,
    image.bytes = bytes.extract 0 (3 * width.toNat * height.toNat)

theorem Making.eq_some {make : UInt32 → UInt32 → Array UInt8 → Option Image}
    (h : Making make) (hwidth : image.width < UInt32.size)
    (hheight : image.height < UInt32.size) :
    make image.width.toUInt32 image.height.toUInt32 image.bytes = some image := by
  have hwidth_eq : image.width.toUInt32.toNat = image.width :=
    UInt32.toNat_ofNat_of_lt' hwidth
  have hheight_eq : image.height.toUInt32.toNat = image.height :=
    UInt32.toNat_ofNat_of_lt' hheight
  have hsize : 3 * image.width.toUInt32.toNat * image.height.toUInt32.toNat =
      image.bytes.size := by
    rw [hwidth_eq, hheight_eq, size_bytes]
  obtain ⟨made, hmade⟩ :=
    Option.isSome_iff_exists.mp ((h.isSome_iff _ _ _).mpr (Nat.le_of_eq hsize))
  obtain ⟨hmade_width, hmade_height⟩ := h.sides_eq _ _ _ made hmade
  have hbytes := h.bytes_eq _ _ _ made hmade
  rw [hsize, Array.extract_size] at hbytes
  rw [hmade]
  exact congrArg some
    (ext_bytes (hmade_width.trans hwidth_eq) (hmade_height.trans hheight_eq) hbytes)

/-- The image whose rows are laid out one after another in `bytes`. -/
def ofBytes? (width height : UInt32) (bytes : Array UInt8) : Option Image :=
  if 3 * width.toNat * height.toNat ≤ bytes.size then
    some ⟨width.toNat, height.toNat,
      (Vector.range (width.toNat * height.toNat)).map fun i =>
        ⟨bytes[3 * i]!, bytes[3 * i + 1]!, bytes[3 * i + 2]!⟩⟩
  else
    none

private theorem flatMap_range_eq_take (bytes : Array UInt8) {n : Nat}
    (h : 3 * n ≤ bytes.size) :
    ((List.range n).flatMap fun i =>
      [bytes[3 * i]!, bytes[3 * i + 1]!, bytes[3 * i + 2]!]) =
      bytes.toList.take (3 * n) := by
  induction n with
  | zero => rfl
  | succ n ih =>
      have h₀ : 3 * n < bytes.size := by omega
      have h₁ : 3 * n + 1 < bytes.size := by omega
      have h₂ : 3 * n + 2 < bytes.size := by omega
      rw [List.range_succ, List.flatMap_append, ih (by omega), Nat.mul_succ,
        List.take_add_one, List.take_add_one, List.take_add_one,
        List.getElem?_eq_getElem h₀, List.getElem?_eq_getElem h₁,
        List.getElem?_eq_getElem h₂, List.flatMap_singleton,
        getElem!_pos bytes _ h₀, getElem!_pos bytes _ h₁, getElem!_pos bytes _ h₂]
      simp only [List.append_assoc]
      rfl

theorem making_ofBytes? : Making ofBytes? where
  isSome_iff := by
    intro width height bytes
    unfold ofBytes?
    split
    · exact iff_of_true rfl ‹_›
    · exact iff_of_false Bool.false_ne_true ‹_›
  sides_eq := by
    intro width height bytes image hmade
    unfold ofBytes? at hmade
    split at hmade
    · cases hmade
      exact ⟨rfl, rfl⟩
    · cases hmade
  bytes_eq := by
    intro width height bytes image hmade
    unfold ofBytes? at hmade
    split at hmade
    · rename_i hsize
      cases hmade
      apply Array.toList_inj.mp
      rw [Nat.mul_assoc] at hsize ⊢
      rw [toList_bytes, Vector.toList_map, List.flatMap_map, Array.toList_extract,
        List.extract_eq_take_drop, Nat.sub_zero, List.drop_zero,
          ← flatMap_range_eq_take bytes hsize]
      simp only [Vector.toList, Vector.toArray_range, Array.toList_range]
      rfl
    · cases hmade

end Wireframe.Image
