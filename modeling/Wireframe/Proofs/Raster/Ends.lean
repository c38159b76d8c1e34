import Wireframe.Canvas
import Wireframe.Proofs.Binary.Order
import Wireframe.Proofs.Raster.Pass

/-!
The ends of a clipped segment. An end that lies in the grid stays where it is, and
any other comes to lie on the border of the grid, however sums, products and
quotients are rounded on the way.
-/

namespace Wireframe

/-- Integers below the bound are compared and rounded exactly, and all are converted in
their order. Nothing is asked of the results of arithmetic. -/
structure ExactIntegers (α : Type) [LT α] [IntCast α] [NearestInteger α] (bound : Nat) :
    Prop where
  cast_lt_cast_iff : ∀ {m n : Int}, m.natAbs < bound → n.natAbs < bound →
    ((m : α) < n ↔ m < n)
  lt_cast_mono : ∀ {k m n : Int}, m ≤ n → (k : α) < m → (k : α) < n
  cast_lt_mono : ∀ {k m n : Int}, m ≤ n → (n : α) < k → (m : α) < k
  nearestInteger_cast : ∀ {n : Int}, n.natAbs < bound →
    NearestInteger.nearestInteger (n : α) = n

theorem exactIntegers_double : ExactIntegers Double (2 ^ 53) := by
  have hroom := Binary.Format.double_room
  have hsmall : ∀ {n : Int}, n.natAbs < 2 ^ 53 →
      n.natAbs ≤ 2 ^ Binary.Format.double.precision :=
    fun h => h.le
  have hlt : ∀ m n : Int, (m : Double) < n ↔ (m : Double).level < (n : Double).level :=
    fun m n =>
      Binary.lt_iff_level_lt (Binary.cast_ne_nan m) (Binary.cast_ne_nan n)
  constructor
  · intro m n hm hn
    have hunit : (0 : Int) < (2 ^ Binary.Format.double.scale : Nat) :=
      Int.natCast_pos.mpr (Nat.two_pow_pos _)
    rw [hlt, Binary.level_cast hroom (hsmall hm), Binary.level_cast hroom (hsmall hn)]
    exact Int.mul_lt_mul_right hunit
  · intro k m n hmn hkm
    rw [hlt] at hkm ⊢
    exact hkm.trans_le (Binary.level_cast_mono hmn)
  · intro k m n hmn hnk
    rw [hlt] at hnk ⊢
    exact (Binary.level_cast_mono hmn).trans_lt hnk
  · intro n hn
    exact Binary.nearestInteger_cast hroom (hsmall hn)

structure Point.InGrid (width height : Nat) (p : Point Int) : Prop where
  x_nonneg : 0 ≤ p.x
  x_lt : p.x < width
  y_nonneg : 0 ≤ p.y
  y_lt : p.y < height

def Point.OnBorder (width height : Nat) (p : Point Int) : Prop :=
  p.x = 0 ∨ p.x = width - 1 ∨ p.y = 0 ∨ p.y = height - 1

structure Point.Settles (width height : Nat) (p settled : Point Int) : Prop where
  inGrid : settled.InGrid width height
  eq_of_inGrid : p.InGrid width height → settled = p
  onBorder_of_not_inGrid : ¬ p.InGrid width height → settled.OnBorder width height

structure SettlesEnds (width height : Nat) (clip : Segment Int → Option (Segment Int)) :
    Prop where
  ends : ∀ {s clipped}, clip s = some clipped →
    s.start.Settles width height clipped.start ∧
      s.finish.Settles width height clipped.finish
  eq_some_of_inGrid : ∀ {s}, s.start.InGrid width height → s.finish.InGrid width height →
    clip s = some s
  eq_none_of_beyond : ∀ {s},
    (s.start.x < 0 ∧ s.finish.x < 0) ∨
      ((width : Int) ≤ s.start.x ∧ (width : Int) ≤ s.finish.x) ∨
      (s.start.y < 0 ∧ s.finish.y < 0) ∨
        ((height : Int) ≤ s.start.y ∧ (height : Int) ≤ s.finish.y) →
    clip s = none
  eq_none_of_empty : width = 0 ∨ height = 0 → ∀ s, clip s = none

section

variable {α : Type} [IntCast α]

def Frame.MeetsBorder (frame : Frame α) (q : Point α) : Prop :=
  q.x = ((0 : Int) : α) ∨ q.x = frame.right ∨ q.y = ((0 : Int) : α) ∨ q.y = frame.top

theorem Segment.meetsBorder_onto [Add α] [Sub α] [Mul α] [Div α] (frame : Frame α)
    (s : Segment α) (border : Border) : frame.MeetsBorder (s.onto frame border) := by
  cases border with
  | left => exact .inl rfl
  | right => exact .inr (.inl rfl)
  | bottom => exact .inr (.inr (.inl rfl))
  | top => exact .inr (.inr (.inr rfl))

/-! Whole points of the grid are exact, and so are its borders. -/

variable [LT α] [NearestInteger α] {bound width height : Nat}
  (hexact : ExactIntegers α bound)
  (hwidth : width < bound) (hheight : height < bound)
include hexact hwidth hheight

theorem Segment.nearestWithin_cast {p : Point Int} (hp : p.InGrid width height) :
    nearestWithin ⟨width - 1, height - 1⟩ (p.map Int.cast : Point α) = p := by
  obtain ⟨hx, hx_lt, hy, hy_lt⟩ := hp
  obtain ⟨x, y⟩ := p
  simp only [nearestWithin, Point.map, Point.mk.injEq] at *
  rw [hexact.nearestInteger_cast (by omega), hexact.nearestInteger_cast (by omega)]
  omega

theorem Frame.MeetsBorder.onBorder (hsize : ¬ (width = 0 ∨ height = 0)) {q : Point α}
    (h : (grid α width height).MeetsBorder q) :
    (Segment.nearestWithin ⟨width - 1, height - 1⟩ q).OnBorder width height := by
  have hzero : NearestInteger.nearestInteger ((0 : Int) : α) = 0 :=
    hexact.nearestInteger_cast (by omega)
  have hright : NearestInteger.nearestInteger ((width - 1 : Int) : α) = width - 1 :=
    hexact.nearestInteger_cast (by omega)
  have htop : NearestInteger.nearestInteger ((height - 1 : Int) : α) = height - 1 :=
    hexact.nearestInteger_cast (by omega)
  simp only [Point.OnBorder, Segment.nearestWithin]
  rcases h with hq | hq | hq | hq
  · rw [hq, hzero]
    omega
  · rw [hq, grid, hright]
    omega
  · rw [hq, hzero]
    omega
  · rw [hq, grid, htop]
    omega

end

/-! Codes of whole points. They are the same in every arithmetic with exact integers. -/

section

variable {α : Type} [LT α] [DecidableLT α] [IntCast α] [NearestInteger α] {bound : Nat}

theorem Side.of_cast (hexact : ExactIntegers α bound) {high : Int} (hhigh : 0 ≤ high)
    (hbound : high + 1 < bound) (v : Int) :
    Side.of (high : α) (v : α) = Side.of high v := by
  have hbelow : (v : α) < ((0 : Int) : α) ↔ v < 0 := by
    constructor
    · intro hlt
      by_contra hnonneg
      have hself := hexact.cast_lt_mono (not_lt.mp hnonneg) hlt
      exact absurd ((hexact.cast_lt_cast_iff (by omega) (by omega)).mp hself)
        (lt_irrefl 0)
    · intro hneg
      exact hexact.cast_lt_mono (Int.le_sub_one_of_lt hneg)
        ((hexact.cast_lt_cast_iff (by omega) (by omega)).mpr (by omega))
  have habove : (high : α) < (v : α) ↔ high < v := by
    constructor
    · intro hlt
      by_contra hle
      have hself := hexact.lt_cast_mono (not_lt.mp hle) hlt
      exact absurd ((hexact.cast_lt_cast_iff (by omega) (by omega)).mp hself)
        (lt_irrefl high)
    · intro hlt
      exact hexact.lt_cast_mono (Int.add_one_le_of_lt hlt)
        ((hexact.cast_lt_cast_iff (by omega) (by omega)).mpr (Int.lt_succ high))
  unfold Side.of
  simp only [hbelow, habove, Int.cast_id]

namespace Frame

variable {width height : Nat}

theorem outcode_cast (hexact : ExactIntegers α bound) (hwidth : width < bound)
    (hheight : height < bound) (hsize : ¬ (width = 0 ∨ height = 0)) (p : Point Int) :
    (grid α width height).outcode (p.map Int.cast) =
      (grid Int width height).outcode p := by
  have hx := Side.of_cast hexact (show 0 ≤ (width - 1 : Int) by omega) (by omega) p.x
  have hy := Side.of_cast hexact (show 0 ≤ (height - 1 : Int) by omega) (by omega) p.y
  exact congrArg₂ Outcode.mk hx hy

theorem outcode_grid_eq_inside_iff {p : Point Int} :
    (grid Int width height).outcode p = .inside ↔ p.InGrid width height := by
  simp only [outcode, Outcode.inside, Outcode.mk.injEq, Side.of_eq_inside_iff]
  constructor
  · rintro ⟨⟨hx, hx_le⟩, hy, hy_le⟩
    exact ⟨hx, Int.lt_of_le_sub_one hx_le, hy, Int.lt_of_le_sub_one hy_le⟩
  · rintro ⟨hx, hx_lt, hy, hy_lt⟩
    exact ⟨⟨hx, Int.le_sub_one_of_lt hx_lt⟩, hy, Int.le_sub_one_of_lt hy_lt⟩

theorem shareBorder_of_beyond {s : Segment Int} (hsize : ¬ (width = 0 ∨ height = 0))
    (h : (s.start.x < 0 ∧ s.finish.x < 0) ∨
      ((width : Int) ≤ s.start.x ∧ (width : Int) ≤ s.finish.x) ∨
        (s.start.y < 0 ∧ s.finish.y < 0) ∨
          ((height : Int) ≤ s.start.y ∧ (height : Int) ≤ s.finish.y)) :
    ((grid Int width height).outcode s.start).shareBorder
      ((grid Int width height).outcode s.finish) := by
  have hbelow : ∀ {high v : Int}, v < 0 → Side.of high v = .below :=
    Side.of_eq_below_iff.mpr
  have habove : ∀ {size : Nat} {v : Int}, ¬ size = 0 → (size : Int) ≤ v →
      Side.of (size - 1 : Int) v = .above := fun hpos hv =>
    (Side.of_eq_above_iff (by omega)).mpr (by omega)
  obtain ⟨hwidth, hheight⟩ := not_or.mp hsize
  rw [Outcode.shareBorder_iff]
  rcases h with ⟨hs, hf⟩ | ⟨hs, hf⟩ | ⟨hs, hf⟩ | ⟨hs, hf⟩
  · exact .inl ⟨(hbelow hs).trans (hbelow hf).symm, (hbelow hs).trans_ne (by decide)⟩
  · exact .inl ⟨(habove hwidth hs).trans (habove hwidth hf).symm,
      (habove hwidth hs).trans_ne (by decide)⟩
  · exact .inr ⟨(hbelow hs).trans (hbelow hf).symm, (hbelow hs).trans_ne (by decide)⟩
  · exact .inr ⟨(habove hheight hs).trans (habove hheight hf).symm,
      (habove hheight hs).trans_ne (by decide)⟩

end Frame

end

/-! Ends from pass to pass. -/

section

variable {α : Type} [LT α] [DecidableLT α] [IntCast α] [Add α] [Sub α] [Mul α] [Div α]
  {frame : Frame α}

/-- The places at which an end can be found: where it was, or on a
border if it was outside. -/
inductive Frame.Holds (frame : Frame α) (p : Point Int) : Point α → Prop
  | kept : Holds frame p (p.map Int.cast)
  | moved {q : Point α} (hout : frame.outcode (p.map Int.cast) ≠ .inside)
      (hq : frame.MeetsBorder q) :
      Holds frame p q

variable {s : Segment Int} {now part : Segment α}

theorem Frame.Holds.onto {p : Point Int} {q : Point α} (h : frame.Holds p q)
    (hout : frame.outcode q ≠ .inside) (border : Border) :
    frame.Holds p (now.onto frame border) := by
  have hborder := now.meetsBorder_onto frame border
  cases h with
  | kept => exact .moved hout hborder
  | moved hearlier => exact .moved hearlier hborder

theorem Segment.holds_of_clipWithin {passes : Nat}
    (hstart : frame.Holds s.start now.start) (hfinish : frame.Holds s.finish now.finish)
    (h : now.clipWithin frame passes = some part) :
    (frame.Holds s.start part.start ∧ frame.outcode part.start = .inside) ∧
      frame.Holds s.finish part.finish ∧ frame.outcode part.finish = .inside := by
  -- A pass moves only an end that is outside, and one that an earlier pass has
  -- moved was outside before.
  induction passes generalizing now with
  | zero => cases h
  | succ passes ih =>
      rw [clipWithin_succ] at h
      cases hpass : now.clipOnce frame with
      | none =>
          rw [hpass, Option.elim_none] at h
          split at h
          · rename_i hinside
            cases h
            exact ⟨⟨hstart, hinside.1⟩, hfinish, hinside.2⟩
          · cases h
      | some moved =>
          rw [hpass, Option.elim_some] at h
          rcases clipOnce_eq_some_iff.mp hpass with ⟨hout, -, rfl⟩ | ⟨-, hout, rfl⟩
          · exact @ih ⟨now.onto frame _, now.finish⟩ (hstart.onto hout _) hfinish h
          · exact @ih ⟨now.start, now.onto frame _⟩ hstart (hfinish.onto hout _) h

end

section

variable {α : Type} [LT α] [DecidableLT α] [IntCast α] [NearestInteger α]
  {bound width height : Nat}

theorem Frame.Holds.settles (hexact : ExactIntegers α bound) (hwidth : width < bound)
    (hheight : height < bound) (hsize : ¬ (width = 0 ∨ height = 0)) {p : Point Int}
    {q : Point α} (h : (grid α width height).Holds p q)
    (hinside : (grid α width height).outcode q = .inside) :
    p.Settles width height (Segment.nearestWithin ⟨width - 1, height - 1⟩ q) := by
  have hcode : (grid α width height).outcode (p.map Int.cast) = .inside ↔
      p.InGrid width height := by
    rw [outcode_cast hexact hwidth hheight hsize, outcode_grid_eq_inside_iff]
  have hgrid : (Segment.nearestWithin ⟨width - 1, height - 1⟩ q).InGrid width height := by
    constructor <;> simp only [Segment.nearestWithin] <;> omega
  cases h with
  | kept =>
      have hp := hcode.mp hinside
      exact ⟨hgrid, fun _ => Segment.nearestWithin_cast hexact hwidth hheight hp,
        fun hout => absurd hp hout⟩
  | moved hout hq =>
      exact ⟨hgrid, fun hp => absurd (hcode.mpr hp) hout, fun _ =>
        hq.onBorder hexact hwidth hheight hsize⟩

variable [Add α] [Sub α] [Mul α] [Div α]

theorem Segment.clip_eq_clipWithin (hsize : ¬ (width = 0 ∨ height = 0))
    (s : Segment Int) :
    s.clip α width height =
      ((s.castTo α).clipWithin (.grid α width height) clipPasses).map
        (Segment.map (nearestWithin ⟨width - 1, height - 1⟩)) :=
  if_neg hsize

theorem settlesEnds_clip (hexact : ExactIntegers α bound) (hwidth : width < bound)
    (hheight : height < bound) :
    SettlesEnds width height (Segment.clip α width height) where
  ends := by
    intro s clipped hclip
    by_cases hsize : width = 0 ∨ height = 0
    · rw [Segment.clip, if_pos hsize] at hclip
      cases hclip
    · rw [Segment.clip_eq_clipWithin hsize, Option.map_eq_some_iff] at hclip
      obtain ⟨part, hpart, rfl⟩ := hclip
      obtain ⟨⟨hstart, hstart_in⟩, hfinish, hfinish_in⟩ :=
        Segment.holds_of_clipWithin (s := s) .kept .kept hpart
      exact ⟨hstart.settles hexact hwidth hheight hsize hstart_in,
        hfinish.settles hexact hwidth hheight hsize hfinish_in⟩
  eq_some_of_inGrid := by
    intro s hstart hfinish
    have hsize : ¬ (width = 0 ∨ height = 0) := by
      have hx := hstart.x_nonneg
      have hx_lt := hstart.x_lt
      have hy := hstart.y_nonneg
      have hy_lt := hstart.y_lt
      omega
    have hcode : ∀ p : Point Int, p.InGrid width height →
        (Frame.grid α width height).outcode (p.map Int.cast) = .inside := fun p hp => by
      rw [Frame.outcode_cast hexact hwidth hheight hsize,
        Frame.outcode_grid_eq_inside_iff]
      exact hp
    have hpass : (s.castTo α).clipWithin (.grid α width height) Segment.clipPasses =
        some (s.castTo α) :=
      if_pos ⟨hcode _ hstart, hcode _ hfinish⟩
    rw [Segment.clip_eq_clipWithin hsize, hpass, Option.map_some]
    have hstart_eq := Segment.nearestWithin_cast hexact hwidth hheight hstart
    have hfinish_eq := Segment.nearestWithin_cast hexact hwidth hheight hfinish
    exact congrArg some (congrArg₂ Segment.mk hstart_eq hfinish_eq)
  eq_none_of_beyond := by
    intro s hbeyond
    by_cases hsize : width = 0 ∨ height = 0
    · exact if_pos hsize
    · have hshare := Frame.shareBorder_of_beyond hsize hbeyond
      rw [← Frame.outcode_cast hexact hwidth hheight hsize,
        ← Frame.outcode_cast hexact hwidth hheight hsize] at hshare
      have hpass : (s.castTo α).clipOnce (.grid α width height) = none :=
        Segment.clipOnce_eq_none_iff.mpr (.inr hshare)
      have hinside : ¬ ((Frame.grid α width height).outcode (s.castTo α).start = .inside ∧
          (Frame.grid α width height).outcode (s.castTo α).finish = .inside) := fun h =>
        Outcode.not_inside_shareBorder _ (h.1 ▸ hshare)
      rw [Segment.clip_eq_clipWithin hsize, Segment.clipPasses,
        Segment.clipWithin_succ, hpass, Option.elim_none, if_neg hinside]
      rfl
  eq_none_of_empty := fun hsize _ => if_pos hsize

end

/-- Clipping leaves both ends on the grid. An end that was there keeps its place, and one
that was not comes to the border, whatever becomes of the other. Nothing is left if both
ends lie beyond the same border. All this rests on exact integers alone, and holds in
double precision as in any arithmetic that has them. -/
theorem clip_settles_ends :
    (∀ canvas : Canvas, canvas.image.width < 2 ^ 53 → canvas.image.height < 2 ^ 53 →
      SettlesEnds canvas.image.width canvas.image.height canvas.clip) ∧
    ∀ {α : Type} [Add α] [Sub α] [Mul α] [Div α] [LT α] [DecidableLT α] [IntCast α]
      [NearestInteger α], ExactIntegers α (2 ^ 53) →
        ∀ {width height : Nat}, width < 2 ^ 53 → height < 2 ^ 53 →
        SettlesEnds width height (Segment.clip α width height) := by
  constructor
  · intro canvas hwidth hheight
    exact settlesEnds_clip exactIntegers_double hwidth hheight
  · intro α _ _ _ _ _ _ _ _ hexact width height hwidth hheight
    exact settlesEnds_clip hexact hwidth hheight

theorem clip_settles_ends_far_away :
    let canvas : Canvas := .new 10 6 255 ⟨0, 0, 0⟩
    let far : Point Int := ⟨-9223372036854775808, 9223372036854775807⟩
    (∃ settled, canvas.clip ⟨far, ⟨4, 3⟩⟩ = some ⟨settled, ⟨4, 3⟩⟩ ∧
      settled.OnBorder 10 6) ∧
      canvas.clip ⟨far, ⟨-1, -1⟩⟩ = none ∧
      Segment.clip Double 10 6 ⟨⟨9, 0⟩, ⟨0, 5⟩⟩ = some ⟨⟨9, 0⟩, ⟨0, 5⟩⟩ := by
  intro canvas far
  obtain ⟨hcanvas, harithmetic⟩ := clip_settles_ends
  have hsettles : SettlesEnds 10 6 canvas.clip := hcanvas canvas (by decide) (by decide)
  have hdouble : SettlesEnds 10 6 (Segment.clip Double 10 6) :=
    harithmetic exactIntegers_double (by decide) (by decide)
  have hsome : (canvas.clip ⟨far, ⟨4, 3⟩⟩).isSome := by decide +kernel
  obtain ⟨clipped, hclip⟩ := Option.isSome_iff_exists.mp hsome
  obtain ⟨hstart, hfinish⟩ := hsettles.ends hclip
  have hfinish_eq : clipped.finish = ⟨4, 3⟩ :=
    hfinish.eq_of_inGrid ⟨by decide, by decide, by decide, by decide⟩
  refine ⟨⟨clipped.start, ?_, ?_⟩, ?_, ?_⟩
  · rw [hclip, ← hfinish_eq]
  · exact hstart.onBorder_of_not_inGrid fun hfar => absurd hfar.x_nonneg (by decide)
  · exact hsettles.eq_none_of_beyond (.inl ⟨by decide, by decide⟩)
  · exact hdouble.eq_some_of_inGrid ⟨by decide, by decide, by decide, by decide⟩
      ⟨by decide, by decide, by decide, by decide⟩

end Wireframe
