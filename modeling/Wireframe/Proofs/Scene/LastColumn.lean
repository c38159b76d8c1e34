import Wireframe.Proofs.Binary.Zero
import Wireframe.Proofs.Geometry.Exact
import Wireframe.Proofs.Run.Interleaving
import Wireframe.Proofs.Scene.Meaning

/-!
The last column of transformations and points. It is that of the identity to
begin with, and no command changes it, whatever numbers come up, except that NaN
may come to stand in it.
-/

namespace Wireframe

section

variable (α : Type) [Add α] [Mul α] [OfNat α 0] [OfNat α 1] (nan : α) (IsZero : α → Prop)

/-- Products with zero vanish, whatever their sign, what vanishes does so next to zero
and one, and NaN stays. -/
structure ColumnRules : Prop where
  mul_zero : ∀ x : α, IsZero (x * 0) ∨ x * 0 = nan
  mul_one : ∀ x : α, x * 1 = x
  add_zero : ∀ {x : α}, IsZero x → x + 0 = 0
  add_one : ∀ {x : α}, IsZero x → x + 1 = 1
  nan_add : ∀ x : α, nan + x = nan
  add_nan : ∀ x : α, x + nan = nan
  mul_nan : ∀ x : α, x * nan = nan
  nan_mul : ∀ x : α, nan * x = nan

/-- What an arithmetic has to do for the last column to stay. Two of the
products in front of it may be zeros of any sign, so there is one more rule: a
zero plus a zero is a zero. -/
structure KeepsColumn : Prop extends ColumnRules α nan IsZero where
  isZero_add : ∀ {x y : α}, IsZero x → IsZero y → IsZero (x + y)

end

theorem keepsColumn_single :
    KeepsColumn Single .nan fun x => ∃ negative, x = .zero negative where
  mul_zero := Binary.mul_zero_cases
  mul_one := Binary.mul_one_eq Binary.Format.single_room
  isZero_add := by
    rintro _ _ ⟨negative, rfl⟩ ⟨other, rfl⟩
    exact ⟨_, Binary.zero_add_zero negative other⟩
  add_zero := by
    rintro _ ⟨negative, rfl⟩
    rw [Binary.ofNat_zero, Binary.zero_add_zero, Bool.and_false]
  add_one := by
    rintro _ ⟨negative, rfl⟩
    exact Binary.zero_add_one Binary.Format.single_room negative
  nan_add := Binary.nan_add
  add_nan := Binary.add_nan
  mul_nan := Binary.mul_nan
  nan_mul := Binary.nan_mul

section

variable {α : Type} [OfNat α 0] [OfNat α 1]

def Row.EndsIn (nan a : α) (row : Row α) : Prop :=
  row.w = a ∨ row.w = nan

/-- The last column is that of the identity, but for NaN. -/
def Matrix.Upright (nan : α) (m : Matrix α) : Prop :=
  ∀ i : Fin 4, (m.get i).EndsIn nan (Matrix.identity.get i : Row α).w

instance [DecidableEq α] {nan a : α} {row : Row α} : Decidable (row.EndsIn nan a) :=
  inferInstanceAs (Decidable (row.w = a ∨ row.w = nan))

instance [DecidableEq α] {nan : α} {m : Matrix α} : Decidable (m.Upright nan) :=
  Nat.decidableForallFin _

theorem Matrix.w_identity (i : Fin 4) :
    ((Matrix.identity : Matrix α).get i).w = if i = Fin.last 3 then 1 else 0 :=
  Matrix.get_identity i (Fin.last 3)

theorem Matrix.upright_identity (nan : α) : (Matrix.identity : Matrix α).Upright nan :=
  fun _ => .inl rfl

variable [Add α] [Mul α] {nan : α} {IsZero : α → Prop}

omit [OfNat α 0] [OfNat α 1] in
theorem Row.w_times (row : Row α) (m : Matrix α) :
    (row.times m).w = row.x * (m.get 0).w + row.y * (m.get 1).w + row.z * (m.get 2).w +
      row.w * (m.get 3).w :=
  Row.getElem_times row m (Fin.last 3)

namespace KeepsColumn

variable (h : KeepsColumn α nan IsZero)
include h

theorem mul_of_endsIn_zero {row : Row α} (hrow : row.EndsIn nan 0) (x : α) :
    IsZero (x * row.w) ∨ x * row.w = nan := by
  rcases hrow with hrow | hrow
  · rw [hrow]
    exact h.mul_zero x
  · rw [hrow]
    exact .inr (h.mul_nan x)

theorem add_of_isZero {x y : α} (hx : IsZero x ∨ x = nan) (hy : IsZero y ∨ y = nan) :
    IsZero (x + y) ∨ x + y = nan := by
  rcases hx with hx | rfl
  · rcases hy with hy | rfl
    · exact .inl (h.isZero_add hx hy)
    · exact .inr (h.add_nan x)
  · exact .inr (h.nan_add y)

theorem endsIn_times {a : α} (ha : ∀ {x : α}, IsZero x → x + a = a) {row : Row α}
    {m : Matrix α} (hrow : row.EndsIn nan a) (hm : m.Upright nan) :
    (row.times m).EndsIn nan a := by
  have hzero : ∀ i : Fin 4, i ≠ Fin.last 3 → (m.get i).EndsIn nan 0 := by
    intro i hi
    have hcolumn := hm i
    rwa [Matrix.w_identity, if_neg hi] at hcolumn
  have hlast : (m.get (Fin.last 3)).EndsIn nan 1 := by
    have hcolumn := hm (Fin.last 3)
    rwa [Matrix.w_identity, if_pos rfl] at hcolumn
  have hfront := h.add_of_isZero
    (h.add_of_isZero (h.mul_of_endsIn_zero (hzero 0 (by decide)) row.x)
      (h.mul_of_endsIn_zero (hzero 1 (by decide)) row.y))
    (h.mul_of_endsIn_zero (hzero 2 (by decide)) row.z)
  have hback : row.w * (m.get 3).w = a ∨ row.w * (m.get 3).w = nan := by
    rcases hlast with hlast | hlast
    · rw [show (m.get 3).w = 1 from hlast, h.mul_one]
      exact hrow
    · rw [show (m.get 3).w = nan from hlast]
      exact .inr (h.mul_nan row.w)
  rw [Row.EndsIn, Row.w_times]
  rcases hfront with hfront | hfront
  · rcases hback with hback | hback
    · rw [hback]
      exact .inl (ha hfront)
    · rw [hback]
      exact .inr (h.add_nan _)
  · rw [hfront]
    exact .inr (h.nan_add _)

theorem endsIn_one_times {row : Row α} {m : Matrix α} (hrow : row.EndsIn nan 1)
    (hm : m.Upright nan) :
    (row.times m).EndsIn nan 1 :=
  h.endsIn_times h.add_one hrow hm

theorem upright_andThen {first second : Matrix α} (hfirst : first.Upright nan)
    (hsecond : second.Upright nan) :
    (first.andThen second).Upright nan := by
  intro i
  have hrow := hfirst i
  rw [Matrix.w_identity] at hrow ⊢
  rw [Matrix.get_andThen]
  by_cases hi : i = Fin.last 3
  · rw [if_pos hi] at hrow ⊢
    exact h.endsIn_times h.add_one hrow hsecond
  · rw [if_neg hi] at hrow ⊢
    exact h.endsIn_times h.add_zero hrow hsecond

theorem upright_foldl {ms : List (Matrix α)} (hms : ∀ m ∈ ms, m.Upright nan)
    {m : Matrix α} (hm : m.Upright nan) : (ms.foldl Matrix.andThen m).Upright nan := by
  induction ms generalizing m with
  | nil => exact hm
  | cons next ms ih =>
      obtain ⟨hnext, hrest⟩ := List.forall_mem_cons.mp hms
      exact ih hrest (h.upright_andThen hm hnext)

theorem endsIn_foldl {ms : List (Matrix α)} (hms : ∀ m ∈ ms, m.Upright nan) {row : Row α}
    (hrow : row.EndsIn nan 1) : (ms.foldl Row.times row).EndsIn nan 1 := by
  induction ms generalizing row with
  | nil => exact hrow
  | cons m ms ih =>
      obtain ⟨hm, hrest⟩ := List.forall_mem_cons.mp hms
      exact ih hrest (h.endsIn_one_times hrow hm)

end KeepsColumn

end

theorem Triple.w_row (point : Triple) : point.row.w = 1 := by
  simp [Triple.row, Row.w]

/-! The matrices of commands have the last column of the identity, without NaN. -/

namespace Matrix

theorem w_dilation (factors : Triple) (i : Fin 4) :
    ((dilation factors).get i).w = (identity.get i : Row Single).w := by
  rw [w_identity]
  refine (get_ofEntries _ i (Fin.last 3)).trans ?_
  by_cases hi : i = Fin.last 3
  · subst hi
    rw [if_pos rfl, if_pos rfl]
    exact factors.w_row
  · rw [if_neg hi, if_neg hi]

theorem w_displacement (offset : Triple) (i : Fin 4) :
    ((displacement offset).get i).w = (identity.get i : Row Single).w := by
  rw [w_identity]
  refine (get_ofEntries _ i (Fin.last 3)).trans ?_
  by_cases hi : i = Fin.last 3
  · rw [if_pos hi, if_pos hi]
    exact offset.w_row
  · rw [if_neg hi, if_neg hi]

theorem w_rotation (axis : Axis) (degrees : Single) (i : Fin 4) :
    ((rotation axis degrees).get i).w = (identity.get i : Row Single).w := by
  have hfirst : Fin.last 3 ≠ axis.others.1 := by
    cases axis <;> decide
  have hsecond : Fin.last 3 ≠ axis.others.2 := by
    cases axis <;> decide
  rw [w_identity]
  refine (get_rotation axis degrees i (Fin.last 3)).trans ?_
  simp only [hfirst, hsecond, and_false, or_false, if_false]

end Matrix

structure Scene.Upright (scene : Scene) : Prop where
  transform : scene.transform.Upright .nan
  edges : ∀ point ∈ scene.edges.toList, point.EndsIn .nan 1

namespace Scene.Upright

variable {scene : Scene}

theorem empty : Upright .empty :=
  ⟨Matrix.upright_identity _, List.forall_mem_nil _⟩

theorem addTransform (h : scene.Upright) {m : Matrix Single} (hm : m.Upright .nan) :
    (scene.addTransform m).Upright :=
  ⟨keepsColumn_single.upright_andThen h.transform hm, h.edges⟩

theorem update (h : scene.Upright) (command : Command) :
    (scene.update command).Upright := by
  cases command with
  | line start finish =>
      refine ⟨h.transform, ?_⟩
      intro point hpoint
      simp only [Scene.update, EdgeList.addEdge, EdgeList.addPoint, Array.toList_push,
        List.mem_append, List.mem_singleton] at hpoint
      rcases hpoint with (hpoint | rfl) | rfl
      · exact h.edges point hpoint
      · exact .inl start.w_row
      · exact .inl finish.w_row
  | ident => exact ⟨Matrix.upright_identity _, h.edges⟩
  | apply =>
      refine ⟨h.transform, ?_⟩
      intro point hpoint
      obtain ⟨before, hbefore, rfl⟩ := List.mem_map.mp (Array.toList_map ▸ hpoint)
      exact keepsColumn_single.endsIn_one_times (h.edges before hbefore) h.transform
  | display => exact h
  | save path => exact h
  | scale factors => exact h.addTransform fun i => .inl (Matrix.w_dilation factors i)
  | move offset => exact h.addTransform fun i => .inl (Matrix.w_displacement offset i)
  | rotate axis degrees =>
      exact h.addTransform fun i => .inl (Matrix.w_rotation axis degrees i)

theorem updateAll (h : scene.Upright) (commands : List Command) :
    (scene.updateAll commands).Upright := by
  induction commands generalizing scene with
  | nil => exact h
  | cons command commands ih => exact ih (h.update command)

end Scene.Upright

/-- Points are rows that end in one, and transformations leave that entry alone; NaN may
stand for any of these zeros and ones. -/
structure Scene.Homogeneous (scene : Scene) : Prop where
  zeros : ∀ i : Fin 3,
    (scene.transform.get i.castSucc).w = .zero false ∨
      (scene.transform.get i.castSucc).w = .nan
  one : (scene.transform.get (Fin.last 3)).w = 1 ∨
    (scene.transform.get (Fin.last 3)).w = .nan
  points : ∀ point ∈ scene.edges, point.w = 1 ∨ point.w = .nan

theorem Scene.Upright.homogeneous {scene : Scene} (h : scene.Upright) :
    scene.Homogeneous where
  zeros := by
    intro i
    have hrow := h.transform i.castSucc
    rwa [Matrix.w_identity, if_neg i.castSucc_lt_last.ne, Binary.ofNat_zero] at hrow
  one := by
    have hrow := h.transform (Fin.last 3)
    rwa [Matrix.w_identity, if_pos rfl] at hrow
  points := fun point hpoint => h.edges point (Array.mem_toList_iff.mpr hpoint)

/-- Whatever commands are carried out, and whatever they meet with, the last column of
the transformation holds three positive zeros and a one, and every point ends in one, but
for NaN in the place of any of them. That is so in any arithmetic that keeps to a few
rules of zeros, ones and NaN. -/
theorem last_column_survives :
    (∀ {σ : Type} [Host (StateM σ)] {before after : σ} {scene : Scene},
      (∀ commands : List Command,
        (Scene.empty.executeAll commands : StateM σ _) before = (.ok scene, after) →
          scene.Homogeneous) ∧
      ∀ lines : List String,
        (evaluate lines : StateM σ _) before = (.ok scene, after) → scene.Homogeneous) ∧
    ∀ {α : Type} [Add α] [Mul α] [OfNat α 0] [OfNat α 1] {nan : α} {IsZero : α → Prop},
      KeepsColumn α nan IsZero → ∀ ms : List (Matrix α), (∀ m ∈ ms, m.Upright nan) →
        (Matrix.composed ms).Upright nan ∧
          ∀ row : Row α, row.EndsIn nan 1 → (ms.foldl Row.times row).EndsIn nan 1 := by
  constructor
  · intro σ _ before after scene
    constructor
    · intro commands hrun
      obtain rfl := Scene.eq_updateAll_of_executeAll hrun
      exact (Scene.Upright.empty.updateAll commands).homogeneous
    · intro lines hrun
      obtain ⟨-, rfl⟩ := eq_updateAll_of_evaluate hrun
      exact (Scene.Upright.empty.updateAll _).homogeneous
  · intro α _ _ _ _ nan IsZero hrules ms hms
    exact ⟨hrules.upright_foldl hms (Matrix.upright_identity nan),
      fun row hrow => hrules.endsIn_foldl hms hrow⟩

/-- Numbers of one digit, in which all rules hold but that two zeros make a zero. -/
inductive Digit where
  | zero (negative : Bool)
  | unit (negative : Bool)
  | nan
  deriving DecidableEq

namespace Digit

instance : OfNat Digit 0 := ⟨zero false⟩

instance : OfNat Digit 1 := ⟨unit false⟩

instance : Mul Digit where
  mul
    | nan, _ | _, nan => nan
    | unit a, unit b => unit (a ^^ b)
    | unit a, zero b | zero a, unit b | zero a, zero b => zero (a ^^ b)

instance : Add Digit where
  add
    | nan, _ | _, nan => nan
    | zero a, zero b => if a && b then unit true else zero false
    | zero _, unit b => unit b
    | unit a, zero _ => unit a
    | unit a, unit b => if a = b then unit a else zero false

theorem columnRules : ColumnRules Digit nan fun x => ∃ negative, x = zero negative where
  mul_zero x := by
    cases x with
    | zero negative => exact .inl ⟨_, rfl⟩
    | unit negative => exact .inl ⟨_, rfl⟩
    | nan => exact .inr rfl
  mul_one x := by
    cases x with
    | zero negative => cases negative <;> rfl
    | unit negative => cases negative <;> rfl
    | nan => rfl
  add_zero := by
    rintro _ ⟨negative, rfl⟩
    cases negative <;> rfl
  add_one := by
    rintro _ ⟨negative, rfl⟩
    rfl
  nan_add _ := rfl
  add_nan x := by cases x <;> rfl
  mul_nan x := by cases x <;> rfl
  nan_mul _ := rfl

end Digit

/-- The other rules leave open what two zeros add up to, and without that the column
need not stay: a step back in two directions, put before the identity, then ends in
zero. The zero of the column is not what they add up to in single precision either,
if both are negative. -/
theorem rules_without_sum_of_zeros_lose_column :
    (¬ ∀ {α : Type} [Add α] [Mul α] [OfNat α 0] [OfNat α 1] {nan : α} {IsZero : α → Prop},
      ColumnRules α nan IsZero → ∀ ms : List (Matrix α), (∀ m ∈ ms, m.Upright nan) →
        (Matrix.composed ms).Upright nan) ∧
      Row.times (#v[-1, -1, -1, -1] : Row Single) (.replicate 4 (.replicate 4 0)) =
        .replicate 4 (.zero true) := by
  refine ⟨fun hkeeps => ?_, by decide +kernel⟩
  let back : Matrix Digit :=
    #v[#v[1, 0, 0, 0], #v[0, 1, 0, 0], #v[0, 0, 1, 0], #v[.unit true, .unit true, 0, 1]]
  have hback : back.Upright .nan := by decide +kernel
  have hupright : ∀ m ∈ [back, .identity], m.Upright .nan :=
    List.forall_mem_cons.mpr ⟨hback,
      List.forall_mem_singleton.mpr (Matrix.upright_identity _)⟩
  have hcomposed : ¬ (Matrix.composed [back, .identity]).Upright .nan := by decide +kernel
  exact hcomposed (hkeeps Digit.columnRules _ hupright)

theorem last_column_survives_overflow :
    let huge : Triple := ⟨.ofDecimal false 1 30, 1, 1⟩
    let commands : List Command :=
      [.line ⟨1, 0, 0⟩ ⟨0, -1, 2⟩, .scale huge, .scale huge, .move ⟨0, 5, 0⟩, .apply]
    let start : World := .start .empty [] ⟨[], none⟩
    let run := (Scene.empty.executeAll commands : StateM World _) start
    (∃ scene, run.1 = .ok scene ∧ scene.Homogeneous ∧ (scene.transform.get 0).w = .nan ∧
      (scene.transform.get 1).w = .zero false ∧
        scene.edges.toList.map Row.w = [.nan, .nan]) ∧
      (Matrix.composed [.dilation huge, .rotation .x 45]).Upright (.nan : Single) := by
  intro huge commands start run
  obtain ⟨hruns, harithmetic⟩ := last_column_survives
  have hentries : ∃ scene, run.1 = .ok scene ∧ (scene.transform.get 0).w = .nan ∧
      (scene.transform.get 1).w = .zero false ∧
          scene.edges.toList.map Row.w = [.nan, .nan] :=
    ⟨Scene.empty.updateAll commands, rfl, by decide +kernel⟩
  obtain ⟨scene, hresult, hentries⟩ := hentries
  refine ⟨⟨scene, hresult, hruns.1 commands (Prod.ext hresult rfl), hentries⟩, ?_⟩
  refine (harithmetic keepsColumn_single [.dilation huge, .rotation .x 45] ?_).1
  simp only [List.forall_mem_cons, List.not_mem_nil, false_imp_iff, implies_true,
    and_true]
  exact ⟨fun i => .inl (Matrix.w_dilation huge i),
    fun i => .inl (Matrix.w_rotation .x 45 i)⟩

end Wireframe
