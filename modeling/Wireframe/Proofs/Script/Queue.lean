import Wireframe.Proofs.Script.Numbers

/-!
The fields of an argument line as a queue. They are taken from its front, one after
another, so the leftmost field that cannot stand in its place decides what is wrong with
the line; the queue never runs empty.
-/

namespace Wireframe

open ArgumentKeyword (firstRefusal?)

/-! Which fields can stand where. -/

namespace Field

variable {field : Field} {kind : FieldKind}

/-- The field can stand where one of the class is expected. -/
structure Fits (field : Field) (kind : FieldKind) : Prop where
  kind_eq : field.kind = kind
  ascii : kind = .number → field.IsAscii

instance (field : Field) : Decidable field.IsAscii :=
  decidable_of_iff (field.word.all fun c => c.toNat < 128) (by simp [IsAscii])

instance (field : Field) (kind : FieldKind) : Decidable (field.Fits kind) :=
  decidable_of_iff (field.kind = kind ∧ (kind = .number → field.IsAscii))
    ⟨fun h => ⟨h.1, h.2⟩, fun h => ⟨h.kind_eq, h.ascii⟩⟩

def complaint (field : Field) (kind : FieldKind) : ArgumentError :=
  if field.kind = kind then .notSingle field.text else field.mismatch kind

theorem number_of_kind_ne (h : field.kind ≠ .number) :
    field.number = .error (field.mismatch .number) := by
  have hread : Numeral.read? field.word = none := by
    simpa using mt kind_eq_number_iff.mpr h
  simp only [number, hread]

theorem isSome_axis_iff_kind : (Axis.read? field.word).isSome ↔ field.kind = .axis := by
  rw [kind, Script.classify_axis_iff, Script.isSome_axis_iff]

theorem refusal?_of_fits (h : field.Fits kind) : field.refusal? kind = none := by
  obtain ⟨rfl, hascii⟩ := h
  cases hkind : field.kind with
  | number =>
      obtain ⟨x, hx⟩ := (exists_number_iff_ascii hkind).mpr (hascii hkind)
      rw [refusal?, hx]
      rfl
  | axis =>
      obtain ⟨axis, hread⟩ := Option.isSome_iff_exists.mp (isSome_axis_iff_kind.mpr hkind)
      simp only [refusal?, Field.axis, hread, ArgumentError.of?]
  | filePath =>
      rw [refusal?, filePath, if_pos hkind]
      rfl
  | identifier => rfl

theorem refusal?_of_not_fits (hkind : kind ≠ .identifier) (h : ¬ field.Fits kind) :
    field.refusal? kind = some (field.complaint kind) := by
  by_cases heq : field.kind = kind
  · have hnumber : kind = .number := by
      by_contra hne
      exact h ⟨heq, fun hkind => absurd hkind hne⟩
    subst hnumber
    have hascii : ¬ field.IsAscii := fun hascii => h ⟨heq, fun _ => hascii⟩
    rw [complaint, if_pos heq, refusal?, number_of_not_ascii heq hascii]
    rfl
  · rw [complaint, if_neg heq]
    cases kind with
    | number =>
        rw [refusal?, number_of_kind_ne heq]
        rfl
    | axis =>
        have hread : Axis.read? field.word = none := by
          simpa using mt isSome_axis_iff_kind.mp heq
        simp only [refusal?, Field.axis, hread, ArgumentError.of?]
    | filePath =>
        rw [refusal?, filePath, if_neg heq]
        rfl
    | identifier => exact absurd rfl hkind

end Field

/-- As many fields as are expected, of which `field` is the first that cannot stand in its
place, where one of class `kind` is expected. -/
inductive LeftmostMisfit (field : Field) (kind : FieldKind) :
    List FieldKind → List Field → Prop
  | here {kinds : List FieldKind} {fields : List Field}
      (hlength : fields.length = kinds.length) (h : ¬ field.Fits kind) :
      LeftmostMisfit field kind (kind :: kinds) (field :: fields)
  | later {first : FieldKind} {kinds : List FieldKind} {other : Field}
      {fields : List Field} (h : other.Fits first)
      (hrest : LeftmostMisfit field kind kinds fields) :
      LeftmostMisfit field kind (first :: kinds) (other :: fields)

section

variable {field : Field} {kind : FieldKind} {kinds : List FieldKind} {fields : List Field}

theorem LeftmostMisfit.length_eq (h : LeftmostMisfit field kind kinds fields) :
    fields.length = kinds.length := by
  induction h with
  | here hlength _ => simp [hlength]
  | later _ _ ih => simp [ih]

theorem LeftmostMisfit.firstRefusal?_eq (h : LeftmostMisfit field kind kinds fields)
    (hkinds : ∀ kind ∈ kinds, kind ≠ .identifier) :
    firstRefusal? kinds fields = some (field.complaint kind) := by
  induction h with
  | here _ h =>
      rw [ArgumentKeyword.firstRefusal?_cons,
        Field.refusal?_of_not_fits (hkinds kind (by simp)) h, Option.some_or]
  | later h _ ih =>
      rw [ArgumentKeyword.firstRefusal?_cons, Field.refusal?_of_fits h, Option.none_or]
      exact ih fun kind hkind => hkinds kind (.tail _ hkind)

theorem firstRefusal?_of_fits (h : List.Forall₂ Field.Fits fields kinds) :
    firstRefusal? kinds fields = none := by
  induction h with
  | nil => rfl
  | cons hfits _ ih =>
      rw [ArgumentKeyword.firstRefusal?_cons, Field.refusal?_of_fits hfits,
        Option.none_or, ih]

theorem fits_or_leftmostMisfit (hlength : fields.length = kinds.length) :
    List.Forall₂ Field.Fits fields kinds ∨
    ∃ field kind, LeftmostMisfit field kind kinds fields := by
  induction fields generalizing kinds with
  | nil =>
      obtain rfl := List.length_eq_zero_iff.mp hlength.symm
      exact .inl .nil
  | cons field fields ih =>
      cases kinds with
      | nil => cases hlength
      | cons kind kinds =>
          have hrest : fields.length = kinds.length := Nat.succ.inj hlength
          by_cases hfits : field.Fits kind
          · rcases ih hrest with hall | ⟨misfit, expected, hmisfit⟩
            · exact .inl (.cons hfits hall)
            · exact .inr ⟨misfit, expected, .later hfits hmisfit⟩
          · exact .inr ⟨field, kind, .here hrest hfits⟩

end

namespace ArgumentKeyword

variable {keyword : ArgumentKeyword} {fields : List Field}

theorem length_kinds (keyword : ArgumentKeyword) :
    keyword.kinds.length = keyword.fieldCount := by
  cases keyword <;> rfl

theorem kinds_ne_identifier (keyword : ArgumentKeyword) :
    ∀ kind ∈ keyword.kinds, kind ≠ .identifier := by
  cases keyword <;> decide

theorem command_of_length_ne (h : fields.length ≠ keyword.fieldCount) :
    keyword.command fields = .error (.fieldCount keyword.fieldCount fields.length) := by
  unfold command
  split
  case h_6 => rfl
  all_goals exact absurd rfl h

theorem command_of_leftmostMisfit {field : Field} {kind : FieldKind}
    (h : LeftmostMisfit field kind keyword.kinds fields) :
    keyword.command fields = .error (field.complaint kind) := by
  rw [← ArgumentError.of?_eq_some_iff,
    of?_command (h.length_eq.trans keyword.length_kinds)]
  exact h.firstRefusal?_eq keyword.kinds_ne_identifier

theorem exists_command_of_fits (h : List.Forall₂ Field.Fits fields keyword.kinds) :
    ∃ command, keyword.command fields = .ok command := by
  have hnone := firstRefusal?_of_fits h
  rw [← of?_command (h.length_eq.trans keyword.length_kinds)] at hnone
  cases hcommand : keyword.command fields with
  | ok command => exact ⟨command, rfl⟩
  | error reason =>
      rw [hcommand] at hnone
      cases hnone

end ArgumentKeyword

/-! Taking the fields from the front. -/

inductive QueueError where
  | empty
  | refused (reason : ArgumentError)

def QueueError.message : QueueError → String
  | empty => "ran out of fields"
  | refused reason => reason.message

abbrev Queue := StateT (List Field) (Except QueueError)

namespace Queue

def expectCount (count : Nat) : Queue Unit := do
  let fields ← get
  if fields.length ≠ count then
    throw (.refused (.fieldCount count fields.length))

def pop : Queue Field := do
  match ← get with
  | [] => throw .empty
  | field :: fields =>
      set fields
      return field

def popKind (kind : FieldKind) : Queue Field := do
  let field ← pop
  if field.kind = kind then
    return field
  else
    throw (.refused (field.mismatch kind))

def popNumber : Queue Single := do
  let field ← popKind .number
  match (Numeral.read? field.word).bind Numeral.value? with
  | some value => return value
  | none => throw (.refused (.notSingle field.text))

def popAxis : Queue Axis := do
  let field ← popKind .axis
  match field.word.map Char.toLower with
  | ['x'] => return .x
  | ['y'] => return .y
  | _ => return .z

def popFilePath : Queue String := do
  let field ← popKind .filePath
  return field.text

def popTriple : Queue Triple := do
  let x ← popNumber
  let y ← popNumber
  let z ← popNumber
  return ⟨x, y, z⟩

def popCommand (keyword : ArgumentKeyword) : Queue Command := do
  expectCount keyword.fieldCount
  match keyword with
  | .line =>
      let start ← popTriple
      let finish ← popTriple
      return .line start finish
  | .scale =>
      let factors ← popTriple
      return .scale factors
  | .move =>
      let offset ← popTriple
      return .move offset
  | .rotate =>
      let axis ← popAxis
      let degrees ← popNumber
      return .rotate axis degrees
  | .save =>
      let path ← popFilePath
      return .save path

def leaving {α : Type} (rest : List Field) :
    Except ArgumentError α → Except QueueError (α × List Field)
  | .ok a => .ok (a, rest)
  | .error reason => .error (.refused reason)

variable {α β : Type} {field : Field} {fields rest : List Field}

theorem bind_run {q : Queue α} {next : α → Queue β} {x : Except ArgumentError α}
    {f : α → Except ArgumentError β} {middle : List Field}
    (hq : q.run fields = leaving middle x)
    (hnext : ∀ a, (next a).run middle = leaving rest (f a)) :
    (q >>= next).run fields = leaving rest (x >>= f) := by
  rw [StateT.run_bind, hq]
  cases x with
  | error reason => rfl
  | ok a => exact hnext a

theorem popKind_run (kind : FieldKind) (field : Field) (fields : List Field) :
    (popKind kind).run (field :: fields) =
      if field.kind = kind then .ok (field, fields)
      else .error (.refused (field.mismatch kind)) := by
  change StateT.run (if field.kind = kind then pure field
    else throw _ : Queue Field) fields = _
  split <;> rfl

theorem popKind_bind_run {kind : FieldKind} (next : Field → Queue α) (field : Field)
    (fields : List Field) :
    (popKind kind >>= next).run (field :: fields) =
      if field.kind = kind then (next field).run fields
      else .error (.refused (field.mismatch kind)) := by
  rw [StateT.run_bind, popKind_run]
  split <;> rfl

theorem popNumber_run (field : Field) (fields : List Field) :
    popNumber.run (field :: fields) = leaving fields field.number := by
  refine (popKind_bind_run _ field fields).trans ?_
  by_cases hkind : field.kind = .number
  · obtain ⟨n, hn⟩ := Option.isSome_iff_exists.mp (Field.kind_eq_number_iff.mp hkind)
    rw [if_pos hkind]
    cases hvalue : n.value? <;> simp only [Field.number, hn, hvalue, Option.bind_some] <;>
      rfl
  · rw [if_neg hkind, Field.number_of_kind_ne hkind]
    rfl

theorem popAxis_run (field : Field) (fields : List Field) :
    popAxis.run (field :: fields) = leaving fields field.axis := by
  refine (popKind_bind_run _ field fields).trans ?_
  by_cases hkind : field.kind = .axis
  · obtain ⟨axis, haxis⟩ :=
      Option.isSome_iff_exists.mp (Field.isSome_axis_iff_kind.mpr hkind)
    obtain ⟨letter, hletter, hword⟩ := Axis.read?_eq_some_iff.mp haxis
    rw [if_pos hkind, Field.axis, haxis, hword]
    cases axis <;>
      simp only [Axis.letters, List.mem_cons, List.not_mem_nil, or_false] at hletter <;>
      rcases hletter with rfl | rfl <;> rfl
  · have hread : Axis.read? field.word = none := by
      simpa using mt Field.isSome_axis_iff_kind.mp hkind
    rw [if_neg hkind, Field.axis, hread]
    rfl

theorem popFilePath_run (field : Field) (fields : List Field) :
    popFilePath.run (field :: fields) = leaving fields field.filePath := by
  refine (popKind_bind_run _ field fields).trans ?_
  by_cases hkind : field.kind = .filePath
  · rw [if_pos hkind, Field.filePath, if_pos hkind]
    rfl
  · rw [if_neg hkind, Field.filePath, if_neg hkind]
    rfl

theorem popTriple_run (x y z : Field) (fields : List Field) :
    popTriple.run (x :: y :: z :: fields) =
      leaving fields (ArgumentKeyword.triple x y z) := by
  refine bind_run (popNumber_run x _) fun _ => ?_
  refine bind_run (popNumber_run y _) fun _ => ?_
  exact bind_run (popNumber_run z _) fun _ => rfl

theorem expectCount_bind_run {count : Nat} (next : Unit → Queue α) (fields : List Field) :
    (expectCount count >>= next).run fields =
      if fields.length = count then (next ()).run fields
      else .error (.refused (.fieldCount count fields.length)) := by
  change StateT.run ((if fields.length ≠ count then throw _ else pure () : Queue Unit) >>=
    next) fields = _
  by_cases h : fields.length = count
  · rw [if_pos h, if_neg (not_not.mpr h)]
    rfl
  · rw [if_neg h, if_pos h]
    rfl

theorem popCommand_run (keyword : ArgumentKeyword) (fields : List Field) :
    (popCommand keyword).run fields = leaving [] (keyword.command fields) := by
  refine (expectCount_bind_run _ fields).trans ?_
  by_cases hlength : fields.length = keyword.fieldCount
  -- Once the fields have been counted, there is one for each that is asked for.
  · rw [if_pos hlength]
    cases keyword with
    | line =>
        match fields, hlength with
        | [x₀, y₀, z₀, x₁, y₁, z₁], _ =>
            refine bind_run (popTriple_run x₀ y₀ z₀ _) fun _ => ?_
            exact bind_run (popTriple_run x₁ y₁ z₁ _) fun _ => rfl
    | scale =>
        match fields, hlength with
        | [x, y, z], _ => exact bind_run (popTriple_run x y z _) fun _ => rfl
    | move =>
        match fields, hlength with
        | [x, y, z], _ => exact bind_run (popTriple_run x y z _) fun _ => rfl
    | rotate =>
        match fields, hlength with
        | [axis, degrees], _ =>
            refine bind_run (popAxis_run axis _) fun _ => ?_
            exact bind_run (popNumber_run degrees _) fun _ => rfl
    | save =>
        match fields, hlength with
        | [path], _ => exact bind_run (popFilePath_run path _) fun _ => rfl
  · rw [if_neg hlength, ArgumentKeyword.command_of_length_ne hlength]
    rfl

theorem popCommand_ne_empty (keyword : ArgumentKeyword) (fields : List Field) :
    (popCommand keyword).run fields ≠ .error .empty := by
  rw [popCommand_run]
  cases keyword.command fields <;> exact nofun

end Queue

/-! What a reader answers. -/

theorem ArgumentError.head?_message (reason : ArgumentError) :
    reason.message.toList.head? = some 'e' := by
  have happend : ∀ {front : String}, front.toList.head? = some 'e' →
      ∀ rest : String, (front ++ rest).toList.head? = some 'e' := by
    intro front hfront rest
    rw [String.toList_append, List.head?_append, hfront, Option.some_or]
  cases reason with
  | fieldCount expected found =>
      change ("expected " ++ toString expected ++ " fields but found " ++
        toString found).toList.head? = _
      exact happend (happend (happend (by decide +kernel) _) _) _
  | fieldKind expected found field =>
      change ("expected a " ++ expected.name ++ " but found " ++ found.name ++ " '" ++
        field ++ "'").toList.head? = _
      exact happend (happend
        (happend (happend (happend (happend (by decide +kernel) _) _) _) _) _) _
  | notSingle field =>
      change ("error parsing f32: " ++ field).toList.head? = _
      exact happend (by decide +kernel) _

theorem ArgumentError.message_ne_empty (reason : ArgumentError) :
    reason.message ≠ QueueError.empty.message := by
  intro h
  have hhead := reason.head?_message
  rw [h] at hhead
  exact absurd hhead (by decide +kernel)

theorem Field.message_complaint (field : Field) (kind : FieldKind) :
    (field.complaint kind).message =
      if field.kind = kind then s!"error parsing f32: {field.text}"
      else s!"expected a {kind.name} but found {field.kind.name} '{field.text}'" := by
  rw [complaint]
  split <;> rfl

/-- A line with another number of fields than its keyword takes is refused for that,
whatever the fields are. Otherwise it is refused for the leftmost field that cannot
stand in its place, and for nothing behind it; without one, the line makes a
command. That is how a queue of the fields answers that is emptied from its front,
and it never runs empty. -/
theorem leftmost_misfit_decides {keyword : ArgumentKeyword} {first : String}
    (hfirst : Script.content first = keyword.name) (second : String) (cursor : Nat)
    (rest : List String) :
    let fields := Field.ofLine second
    let answer := Reader.next ⟨cursor, first :: second :: rest⟩
    let refused := fun reason : ArgumentError =>
      Reading.failed (.malformedArguments (cursor + 2) keyword
        (Script.content second) reason)
    answer.2 = ⟨cursor + 2, rest⟩ ∧
    (fields.length ≠ keyword.fieldCount →
      answer.1 = refused (.fieldCount keyword.fieldCount fields.length) ∧
        (ArgumentError.fieldCount keyword.fieldCount fields.length).message =
          s!"expected {keyword.fieldCount} fields but found {fields.length}") ∧
    (∀ (field : Field) (kind : FieldKind),
      LeftmostMisfit field kind keyword.kinds fields →
      answer.1 = refused (field.complaint kind) ∧
        (field.complaint kind).message =
          if field.kind = kind then s!"error parsing f32: {field.text}"
          else s!"expected a {kind.name} but found {field.kind.name} '{field.text}'") ∧
    (List.Forall₂ Field.Fits fields keyword.kinds →
      ∃ command, Arguments keyword fields command ∧ answer.1 = .command command) ∧
    (fields.length = keyword.fieldCount →
      List.Forall₂ Field.Fits fields keyword.kinds ∨
        ∃ field kind, LeftmostMisfit field kind keyword.kinds fields) ∧
    (Queue.popCommand keyword).run fields =
      (match keyword.command fields with
        | .ok command => .ok (command, [])
        | .error reason => .error (.refused reason)) ∧
    (Queue.popCommand keyword).run fields ≠ .error .empty ∧
    ∀ reason : ArgumentError, reason.message ≠ "ran out of fields" := by
  intro fields answer refused
  have hanswer : answer = _ := Reader.next_of_two_lines hfirst second cursor rest
  refine ⟨by
    rw [hanswer], fun hlength => ⟨?_, rfl⟩,
    fun field kind hmisfit => ⟨?_, field.message_complaint kind⟩,
    fun hfits => ?_, fun hlength => ?_, ?_, Queue.popCommand_ne_empty keyword fields,
    ArgumentError.message_ne_empty⟩
  · rw [hanswer, ArgumentKeyword.command_of_length_ne hlength]
  · rw [hanswer, ArgumentKeyword.command_of_leftmostMisfit hmisfit]
  · obtain ⟨command, hcommand⟩ := ArgumentKeyword.exists_command_of_fits hfits
    refine ⟨command, ArgumentKeyword.arguments_of_command hcommand, ?_⟩
    rw [hanswer, hcommand]
  · exact fits_or_leftmostMisfit (hlength.trans keyword.length_kinds.symm)
  · rw [Queue.popCommand_run]
    cases keyword.command fields <;> rfl

/-- The third field is a number but not in ASCII, and the fourth is none at all. With a
field more on the line, neither counts. -/
theorem leftmost_misfit_decides_third :
    (Reader.next ⟨3, [" line", "0 .5 ٣ x 1 1"]⟩).1 =
        .failed (.malformedArguments 5 .line "0 .5 ٣ x 1 1" (.notSingle "٣")) ∧
      (Reader.next ⟨3, [" line", "0 .5 ٣ x 1 1 1"]⟩).1 =
        .failed (.malformedArguments 5 .line "0 .5 ٣ x 1 1 1" (.fieldCount 6 7)) ∧
      (Reader.next ⟨3, ["rotate", "12 w", "save"]⟩).1 =
        .failed (.malformedArguments 5 .rotate "12 w"
          (.fieldKind .axis .number "12")) := by
  have hline : Script.content " line" = ArgumentKeyword.line.name := by decide
  have hrotate : Script.content "rotate" = ArgumentKeyword.rotate.name := by decide
  let third : Field := ⟨['٣']⟩
  let first : Field := ⟨['1', '2']⟩
  have hthird : LeftmostMisfit third .number ArgumentKeyword.line.kinds
      (Field.ofLine "0 .5 ٣ x 1 1") := by
    have hfields : Field.ofLine "0 .5 ٣ x 1 1" =
        [⟨['0']⟩, ⟨['.', '5']⟩, third, ⟨['x']⟩, ⟨['1']⟩, ⟨['1']⟩] := by decide +kernel
    rw [hfields]
    exact .later (by decide +kernel)
      (.later (by decide +kernel) (.here rfl (by decide +kernel)))
  have hfirst :
      LeftmostMisfit first .axis ArgumentKeyword.rotate.kinds (Field.ofLine "12 w") := by
    have hfields : Field.ofLine "12 w" = [first, ⟨['w']⟩] := by decide +kernel
    rw [hfields]
    exact .here rfl (by decide +kernel)
  obtain ⟨-, -, hnumber, -⟩ := leftmost_misfit_decides hline "0 .5 ٣ x 1 1" 3 []
  obtain ⟨-, hcount, -⟩ := leftmost_misfit_decides hline "0 .5 ٣ x 1 1 1" 3 []
  obtain ⟨-, -, haxis, -⟩ := leftmost_misfit_decides hrotate "12 w" 3 ["save"]
  refine ⟨?_, ?_, ?_⟩
  · rw [(hnumber third .number hthird).1]
    decide +kernel
  · rw [(hcount (by decide +kernel)).1]
    decide +kernel
  · rw [(haxis first .axis hfirst).1]
    decide +kernel

end Wireframe
