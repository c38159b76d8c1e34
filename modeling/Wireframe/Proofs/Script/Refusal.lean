import Wireframe.Proofs.Script.Field
import Wireframe.Proofs.Script.Transcript

/-!
Refused arguments. Of the fields that a keyword cannot take in their places, the
first decides the answer.
-/

namespace Wireframe

namespace ArgumentError

def of? {α : Type} : Except ArgumentError α → Option ArgumentError
  | .error reason => some reason
  | .ok _ => none

variable {α β : Type} {x : Except ArgumentError α}

theorem of?_eq_some_iff {reason : ArgumentError} :
    of? x = some reason ↔ x = .error reason := by
  cases x <;> simp [of?]

theorem of?_bind {f : α → Except ArgumentError β} {rest : Option ArgumentError}
    (h : ∀ a, of? (f a) = rest) : of? (x >>= f) = (of? x).or rest := by
  cases x with
  | error reason => rfl
  | ok a => exact h a

end ArgumentError

open ArgumentError (of?)

/-- Why a field cannot stand where one of some class is expected, if it cannot. -/
def Field.refusal? (field : Field) : FieldKind → Option ArgumentError
  | .number => of? field.number
  | .axis => of? field.axis
  | .filePath => of? field.filePath
  | .identifier => none

namespace ArgumentKeyword

def kinds : ArgumentKeyword → List FieldKind
  | line => List.replicate 6 .number
  | scale => List.replicate 3 .number
  | move => List.replicate 3 .number
  | rotate => [.axis, .number]
  | save => [.filePath]

def firstRefusal? (kinds : List FieldKind) (fields : List Field) : Option ArgumentError :=
  (kinds.zip fields).findSome? fun place => place.2.refusal? place.1

theorem firstRefusal?_cons (kind : FieldKind) (kinds : List FieldKind) (field : Field)
    (fields : List Field) :
    firstRefusal? (kind :: kinds) (field :: fields) =
      (field.refusal? kind).or (firstRefusal? kinds fields) := by
  rw [firstRefusal?, List.zip_cons_cons, List.findSome?_cons]
  cases field.refusal? kind <;> rfl

theorem firstRefusal?_append {kinds : List FieldKind} {before after : List Field}
    {field : Field} {kind : FieldKind} {reason : ArgumentError}
    (hbefore : firstRefusal? kinds before = none)
    (hkind : kinds[before.length]? = some kind) (h : field.refusal? kind = some reason) :
    firstRefusal? kinds (before ++ field :: after) = some reason := by
  induction before generalizing kinds with
  | nil =>
      obtain ⟨rest, rfl⟩ : ∃ rest, kinds = kind :: rest := by
        cases kinds <;> simp_all
      rw [List.nil_append, firstRefusal?_cons, h, Option.some_or]
  | cons other before ih =>
      cases kinds with
      | nil => simp at hkind
      | cons first kinds =>
          rw [firstRefusal?_cons, Option.or_eq_none_iff] at hbefore
          rw [List.cons_append, firstRefusal?_cons, hbefore.1, Option.none_or]
          exact ih hbefore.2 (by simpa using hkind)

theorem of?_triple (x y z : Field) :
    of? (triple x y z) = (of? x.number).or ((of? y.number).or (of? z.number)) := by
  have hlast : of? (triple x y z) =
      (of? x.number).or ((of? y.number).or ((of? z.number).or none)) :=
    ArgumentError.of?_bind fun _ => ArgumentError.of?_bind fun _ =>
      ArgumentError.of?_bind fun _ => rfl
  rwa [Option.or_none] at hlast

theorem firstRefusal?_triple (x y z : Field) (kinds : List FieldKind)
    (fields : List Field) :
    firstRefusal? (.number :: .number :: .number :: kinds) (x :: y :: z :: fields) =
      (of? (triple x y z)).or (firstRefusal? kinds fields) := by
  rw [firstRefusal?_cons, firstRefusal?_cons, firstRefusal?_cons, of?_triple,
    Option.or_assoc, Option.or_assoc]
  rfl

theorem of?_command {keyword : ArgumentKeyword} {fields : List Field}
    (h : fields.length = keyword.fieldCount) :
    of? (keyword.command fields) = firstRefusal? keyword.kinds fields := by
  cases keyword with
  | line =>
      match fields, h with
      | [x₀, y₀, z₀, x₁, y₁, z₁], _ =>
          refine Eq.trans ?_ (firstRefusal?_triple x₀ y₀ z₀ _ _).symm
          refine ArgumentError.of?_bind fun _ => ?_
          refine Eq.trans ?_ (firstRefusal?_triple x₁ y₁ z₁ _ _).symm
          exact ArgumentError.of?_bind fun _ => rfl
  | scale =>
      match fields, h with
      | [x, y, z], _ =>
          refine Eq.trans ?_ (firstRefusal?_triple x y z _ _).symm
          exact ArgumentError.of?_bind fun _ => rfl
  | move =>
      match fields, h with
      | [x, y, z], _ =>
          refine Eq.trans ?_ (firstRefusal?_triple x y z _ _).symm
          exact ArgumentError.of?_bind fun _ => rfl
  | rotate =>
      match fields, h with
      | [axis, degrees], _ =>
          rw [kinds, firstRefusal?_cons, firstRefusal?_cons]
          exact ArgumentError.of?_bind fun _ => ArgumentError.of?_bind fun _ => rfl
  | save =>
      match fields, h with
      | [path], _ =>
          rw [kinds, firstRefusal?_cons]
          exact ArgumentError.of?_bind fun _ => rfl

end ArgumentKeyword

theorem Reader.next_of_two_lines {keyword : ArgumentKeyword} {first : String}
    (hfirst : Script.content first = keyword.name) (second : String) (cursor : Nat)
    (rest : List String) :
    next ⟨cursor, first :: second :: rest⟩ =
      (match keyword.command (Field.ofLine second) with
        | .ok command => .command command
        | .error reason =>
            .failed (.malformedArguments (cursor + 2) keyword
              (Script.content second) reason),
        ⟨cursor + 2, rest⟩) := by
  rw [next_of_argument hfirst]
  simp only [readArguments, Field.ofLine_content]
  cases keyword.command (Field.ofLine second) <;> rfl

theorem Reader.next_of_firstRefusal {first second : String} {keyword : ArgumentKeyword}
    {reason : ArgumentError} (hfirst : Script.content first = keyword.name)
    (hlength : (Field.ofLine second).length = keyword.fieldCount)
    (h : ArgumentKeyword.firstRefusal? keyword.kinds (Field.ofLine second) = some reason)
    (cursor : Nat) (rest : List String) :
    next ⟨cursor, first :: second :: rest⟩ =
      (.failed (.malformedArguments (cursor + 2) keyword (Script.content second) reason),
        ⟨cursor + 2, rest⟩) := by
  rw [← ArgumentKeyword.of?_command hlength, ArgumentError.of?_eq_some_iff] at h
  rw [next_of_two_lines hfirst, h]

end Wireframe
