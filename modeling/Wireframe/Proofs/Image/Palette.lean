import Mathlib.Data.List.Perm.Subperm
import Wireframe.Image.Palette
import Wireframe.Proofs.Image.Storage

/-!
Images of few values. They need no palette, so that every format keeps them as they are.
-/

namespace Wireframe

structure Palette.Found (values : List Rgb) (found : Array Rgb) : Prop where
  nodup : found.toList.Nodup
  subset : ∀ value ∈ found, value ∈ values

namespace Palette

variable {values : List Rgb} {found pixels : Array Rgb} {value : Rgb}

theorem Found.push (h : Found values found) (hvalue : value ∈ values)
    (hnew : value ∉ found) :
    Found values (found.push value) where
  nodup := by
    rw [Array.toList_push, List.nodup_append]
    refine ⟨h.nodup, List.pairwise_singleton _ value, ?_⟩
    intro other hother same hsame heq
    cases List.mem_singleton.mp hsame
    exact hnew (Array.mem_def.mpr (heq ▸ hother))
  subset := by
    intro other hother
    rcases Array.mem_push.mp hother with hother | rfl
    · exact h.subset other hother
    · exact hvalue

theorem Found.size_le (h : Found values found) : found.size ≤ values.length := by
  have hsubset : found.toList ⊆ values :=
    fun value hvalue => h.subset value (Array.mem_def.mpr hvalue)
  simpa using (List.subperm_of_subset h.nodup hsubset).length_le

theorem found_distinct (h : ∀ value ∈ pixels, value ∈ values) :
    Found values (distinct pixels) := by
  unfold distinct
  refine Array.foldl_induction (fun _ found => Found values found) ⟨by simp, by simp⟩ ?_
  intro i found hfound
  split
  · exact hfound
  · rename_i hsearch
    have hnew : pixels[i] ∉ found := fun hmem =>
      hsearch (Bool.or_eq_true_iff.mpr (.inr (Array.contains_iff_mem.mpr hmem)))
    exact hfound.push (h _ (Array.getElem_mem i.isLt)) hnew

end Palette

namespace Image

variable {image : Image} {values : List Rgb}

theorem mem_of_pixel?
    (h : ∀ p, image.Contains p → ∃ value ∈ values, image.pixel? p = some value) :
    ∀ value ∈ image.pixels.toArray, value ∈ values := by
  intro value hvalue
  obtain ⟨i, hi, rfl⟩ := Array.getElem_of_mem hvalue
  have hplace : i < image.width * image.height := by simpa using hi
  have hcontains := contains_pointOf hplace
  obtain ⟨other, hother, hpixel⟩ := h _ hcontains
  have hstored : image.pixel? (image.pointOf i) = some image.pixels.toArray[i] := by
    refine (pixel?_eq_some hcontains).trans ?_
    exact congrArg some (getElem_congr_idx (index_pointOf hplace))
  cases hpixel.symm.trans hstored
  exact hother

theorem reduced_eq_self (hvalues : values.length ≤ Palette.size)
    (h : ∀ p, image.Contains p → ∃ value ∈ values, image.pixel? p = some value) :
    image.reduced = image :=
  if_pos (Nat.le_trans (Palette.found_distinct (mem_of_pixel? h)).size_le hvalues)

end Image

end Wireframe
