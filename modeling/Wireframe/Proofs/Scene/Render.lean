import Wireframe.Picture
import Wireframe.Proofs.Canvas.Paint
import Wireframe.Proofs.Image.Palette
import Wireframe.Scene

/-!
The picture of a scene: blue where an edge of the scene covers it,
and white everywhere else.
-/

namespace Wireframe.Scene

variable {scene : Scene} {p : Point Int}

theorem paints_render (scene : Scene) :
    (Canvas.new 500 500 255 paper).Paints (scene.edges.covered 500 500) ⟨0, 0, 255⟩
      scene.render := by
  have hink : (Canvas.new 500 500 255 paper).rgb ink = ⟨0, 0, 255⟩ := by
    change ink.toRgb 255 = ⟨0, 0, 255⟩
    decide
  rw [← hink]
  exact Canvas.paints_drawEdges (Canvas.new 500 500 255 paper) scene.edges ink

theorem width_render (scene : Scene) : scene.render.image.width = 500 :=
  scene.paints_render.width_eq

theorem height_render (scene : Scene) : scene.render.image.height = 500 :=
  scene.paints_render.height_eq

theorem pixel?_render_of_mem (hp : p ∈ scene.edges.covered 500 500)
    (hcontains : scene.render.image.Contains p) :
    scene.render.image.pixel? p = some ⟨0, 0, 255⟩ :=
  scene.paints_render.pixel?_of_mem p hp (scene.paints_render.contains_iff.mp hcontains)

theorem pixel?_render_of_notMem (hp : p ∉ scene.edges.covered 500 500)
    (hcontains : scene.render.image.Contains p) :
    scene.render.image.pixel? p = some ⟨255, 255, 255⟩ := by
  have hpaper : paper.toRgb 255 = ⟨255, 255, 255⟩ := by decide
  rw [scene.paints_render.pixel?_of_notMem p hp, ← hpaper]
  exact Image.pixel?_filled (scene.paints_render.contains_iff.mp hcontains)

theorem pixel?_render_eq_blue_iff (hcontains : scene.render.image.Contains p) :
    scene.render.image.pixel? p = some ⟨0, 0, 255⟩ ↔ p ∈ scene.edges.covered 500 500 := by
  refine ⟨fun hblue => ?_, fun hp => pixel?_render_of_mem hp hcontains⟩
  by_contra hp
  have hwhite := pixel?_render_of_notMem hp hcontains
  rw [hblue] at hwhite
  exact absurd hwhite (by decide)

theorem pixel?_render_mem (scene : Scene) (p : Point Int)
    (hcontains : scene.render.image.Contains p) :
    ∃ value ∈ [⟨0, 0, 255⟩, ⟨255, 255, 255⟩], scene.render.image.pixel? p =
      some value := by
  by_cases hp : p ∈ scene.edges.covered 500 500
  · exact ⟨_, by simp, pixel?_render_of_mem hp hcontains⟩
  · exact ⟨_, by simp, pixel?_render_of_notMem hp hcontains⟩

theorem inWords_render (scene : Scene) :
    scene.render.image.inWords = scene.render.image := by
  apply Image.inWords_of_lt
  · rw [width_render]
    decide
  · rw [height_render]
    decide

theorem keep_render (scene : Scene) (encoding : Encoding) :
    encoding.keep scene.render.image = scene.render.image := by
  cases encoding with
  -- A palette has room for two values.
  | gif => exact Image.reduced_eq_self (by decide) scene.pixel?_render_mem
  | _ => rfl

theorem fits_render (scene : Scene) (encoding : Encoding) :
    encoding.fits scene.render.image = true := by
  cases encoding with
  | gif =>
      rw [Encoding.fits, width_render, height_render]
      decide
  | _ => rfl

theorem content_render (scene : Scene) (format : ImageFormat) :
    format.content scene.render.image =
      match format.encoding? with
      | none => .error (.unsupportedFormat format)
      | some encoding => .ok (.image encoding scene.render.image) := by
  unfold ImageFormat.content
  cases format.encoding? with
  | none => rfl
  | some encoding => simp only [fits_render, keep_render, if_true]

theorem content_eq_ok_iff (scene : Scene) {format : ImageFormat} {content : FileContent} :
    format.content scene.render.image = .ok content ↔
      ∃ encoding, format.encoding? = some encoding ∧
      content = .image encoding scene.render.image := by
  rw [content_render]
  cases format.encoding? with
  | none => simp
  | some encoding => simp [eq_comm]

theorem encoding?_of_content_error (scene : Scene) {format : ImageFormat}
    {reason : PictureError} (h : format.content scene.render.image = .error reason) :
    format.encoding? = none := by
  rw [content_render] at h
  cases hencoding : format.encoding? with
  | none => rfl
  | some encoding =>
      rw [hencoding] at h
      cases h

end Wireframe.Scene
