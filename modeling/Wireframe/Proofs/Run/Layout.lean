import Wireframe.Proofs.Run.Calls
import Wireframe.Proofs.Run.Perform
import Wireframe.Proofs.Script.Layout

/-!
Scripts that are laid out in another way: with other blanks around their fields, and with
other ends of their lines.
-/

namespace Wireframe

/-! Calls of readers whose lines have the same fields. -/

/-- The lines behind the first `n`, with the same fields. -/
structure SameFieldsAt (lines others : List String) (n : Nat) (line other : String) :
    Prop where
  line_eq : lines[n]? = some line
  other_eq : others[n]? = some other
  fields_eq : Field.ofLine line = Field.ofLine other

/-- Answers to readers of `lines` and of `others`. They are the same but for the
lines that errors quote. -/
inductive AnswersAlike (lines others : List String) : Reading → Reading → Prop
  | command (command : Command) :
      AnswersAlike lines others (.command command) (.command command)
  | finished : AnswersAlike lines others .finished .finished
  | invalidCommand {n : Nat} {line other : String}
      (h : SameFieldsAt lines others n line other) :
      AnswersAlike lines others (.failed (.invalidCommand (n + 1) (Script.content line)))
        (.failed (.invalidCommand (n + 1) (Script.content other)))
  | malformedArguments {n : Nat} {line other : String} (keyword : ArgumentKeyword)
      (reason : ArgumentError) (h : SameFieldsAt lines others n line other) :
      AnswersAlike lines others
        (.failed (.malformedArguments (n + 1) keyword (Script.content line) reason))
        (.failed (.malformedArguments (n + 1) keyword (Script.content other) reason))
  | truncatedScript (line : Nat) (keyword : ArgumentKeyword) :
      AnswersAlike lines others (.failed (.truncatedScript line keyword))
        (.failed (.truncatedScript line keyword))

section

variable {lines others : List String}

theorem AnswersAlike.eq {reading other : Reading}
    (h : AnswersAlike lines others reading other)
    (hcontents : lines.map Script.content = others.map Script.content) :
    reading = other := by
  have hline : ∀ {n line other}, SameFieldsAt lines others n line other →
      Script.content line = Script.content other := by
    intro n line other hn
    have hat := congrArg (·[n]?) hcontents
    simpa [hn.line_eq, hn.other_eq] using hat
  cases h with
  | command command => rfl
  | finished => rfl
  | invalidCommand hn => rw [hline hn]
  | malformedArguments keyword reason hn => rw [hline hn]
  | truncatedScript line keyword => rfl

namespace Reader

variable {reader other : Reader} {cursor : Nat} {line : String} {rest rest' : List String}

theorem Reads.head (h : Reads lines ⟨cursor, line :: rest⟩) :
    lines[cursor]? = some line := by
  rw [← List.head?_drop, ← h.rest_eq]
  rfl

theorem Reads.tail (h : Reads lines ⟨cursor, line :: rest⟩) :
    Reads lines ⟨cursor + 1, rest⟩ where
  rest_eq := by
    rw [← List.tail_drop, ← h.rest_eq]
    rfl
  cursor_le := Nat.succ_le_of_lt (List.getElem?_eq_some_iff.mp h.head).1

theorem readArguments_alike (hreads : Reads lines ⟨cursor, rest⟩)
    (hother : Reads others ⟨cursor, rest'⟩)
    (hrest : rest.map Field.ofLine = rest'.map Field.ofLine) (keyword : ArgumentKeyword) :
    let answer := readArguments ⟨cursor, rest⟩ keyword
    let answer' := readArguments ⟨cursor, rest'⟩ keyword
    AnswersAlike lines others answer.1 answer'.1 ∧
    answer.2.cursor = answer'.2.cursor := by
  cases rest with
  | nil =>
      obtain rfl := List.map_eq_nil_iff.mp hrest.symm
      exact ⟨.truncatedScript cursor keyword, rfl⟩
  | cons second rest =>
      obtain ⟨second', rest', rfl, hsecond, -⟩ := List.map_eq_cons_iff.mp hrest.symm
      simp only [readArguments, Field.ofLine_content, hsecond]
      cases keyword.command (Field.ofLine second) with
      | ok command => exact ⟨.command command, rfl⟩
      | error reason =>
          exact ⟨.malformedArguments keyword reason ⟨hreads.head, hother.head,
            hsecond.symm⟩, rfl⟩

theorem next_alike (hreads : Reads lines reader) (hother : Reads others other)
    (hcursor : reader.cursor = other.cursor)
    (hfields : lines.map Field.ofLine = others.map Field.ofLine) :
    AnswersAlike lines others reader.next.1 other.next.1 ∧
    reader.next.2.cursor = other.next.2.cursor := by
  have hrest : reader.rest.map Field.ofLine = other.rest.map Field.ofLine := by
    rw [hreads.rest_eq, hother.rest_eq, List.map_drop, List.map_drop, hfields, hcursor]
  obtain ⟨cursor, rest⟩ := reader
  obtain ⟨_, rest'⟩ := other
  obtain rfl := hcursor
  cases rest with
  | nil =>
      obtain rfl := List.map_eq_nil_iff.mp hrest.symm
      exact ⟨.finished, rfl⟩
  | cons first rest =>
      obtain ⟨first', rest', rfl, hfirst, hrest⟩ := List.map_eq_cons_iff.mp hrest.symm
      have hkeyword := Keyword.ofText?_content_congr hfirst
      cases hfound : Keyword.ofText? (Script.content first) with
      | none =>
          rw [hfound] at hkeyword
          rw [next_of_none hfound, next_of_none hkeyword]
          exact ⟨.invalidCommand ⟨hreads.head, hother.head, hfirst.symm⟩, rfl⟩
      | some keyword =>
          rw [hfound] at hkeyword
          have hname := (Keyword.name_of_ofText? hfound).symm
          have hname' := (Keyword.name_of_ofText? hkeyword).symm
          cases keyword with
          | bare keyword =>
              rw [next_of_bare hname, next_of_bare hname']
              exact ⟨.command keyword.command, rfl⟩
          | argument keyword =>
              rw [next_of_argument hname, next_of_argument hname']
              exact readArguments_alike hreads.tail hother.tail hrest.symm keyword

theorem cursor_afterCalls_alike
    (hfields : lines.map Field.ofLine = others.map Field.ofLine) (count : Nat) :
    ((ofLines lines).afterCalls count).cursor =
      ((ofLines others).afterCalls count).cursor := by
  induction count with
  | zero => rfl
  | succ count ih =>
      rw [afterCalls_succ, afterCalls_succ]
      exact (next_alike (reads_afterCalls lines count) (reads_afterCalls others count) ih
        hfields).2

theorem answer_alike (hfields : lines.map Field.ofLine = others.map Field.ofLine)
    (count : Nat) :
    AnswersAlike lines others ((ofLines lines).answer count)
      ((ofLines others).answer count) :=
  (next_alike (reads_afterCalls lines count) (reads_afterCalls others count)
    (cursor_afterCalls_alike hfields count) hfields).1

end Reader

end

/-! Runs of scripts whose lines are the same but for blanks around them. -/

/-- The surroundings of a run in which all texts read otherwise. -/
@[reducible] def Host.editing {m : Type → Type} [Monad m] (edit : String → String)
    (host : Host m) : Host m where
  readText path := Except.map edit <$> host.readText path
  writeFile := host.writeFile
  createWindow := host.createWindow
  setWindowImage := host.setWindowImage
  listen := host.listen
  awaitLeave := host.awaitLeave
  log := host.log

section

variable {m : Type → Type} [Monad m] [LawfulMonad m] [host : Host m]

theorem evaluate_of_contents {lines others : List String}
    (h : lines.map Script.content = others.map Script.content) :
    (evaluate lines : m (Except RunError Scene)) = evaluate others := by
  rw [evaluate, evaluate, evaluateFrom_eq_perform, evaluateFrom_eq_perform,
    Reader.transcript_of_contents h]

omit [LawfulMonad m] in
theorem perform_editing (edit : String → String) (scene : Scene)
    (steps : List (Command × Nat)) :
    @Scene.perform m _ (host.editing edit) scene steps = scene.perform steps := by
  induction steps generalizing scene with
  | nil => rfl
  | cons step steps ih =>
      have hstep : @Scene.carryOut m _ (host.editing edit) scene step =
        scene.carryOut step := rfl
      simp only [Scene.perform, hstep, ih]

theorem evaluate_editing (edit : String → String) (lines : List String) :
    @evaluate m _ (host.editing edit) lines = evaluate lines := by
  let t := (Reader.ofLines lines).transcript
  calc @evaluate m _ (host.editing edit) lines
      = t.conclude <$> @Scene.perform m _ (host.editing edit) .empty t.steps :=
        @evaluateFrom_eq_perform m _ (host.editing edit) _ _ _
    _ = t.conclude <$> Scene.empty.perform t.steps := by rw [perform_editing]
    _ = evaluate lines := (evaluateFrom_eq_perform _ _).symm

theorem runScript_editing {edit : String → String}
    (h : ∀ text, (Script.lines (edit text)).map Script.content =
      (Script.lines text).map Script.content)
    (path : String) : @runScript m _ (host.editing edit) path = runScript path := by
  have hreads : @Host.readText m (host.editing edit) path =
    Except.map edit <$> Host.readText path := rfl
  unfold runScript
  rw [hreads, bind_map_left]
  congr
  funext answer
  cases answer with
  | error cause => rfl
  | ok text => simp only [Except.map, evaluate_editing, evaluate_of_contents (h text)]

end

/-- However its lines are laid out, a script means the same. As long as the fields of all
lines are the same, every call takes the same lines and has the same answer, but for the
lines that errors quote; these are the same if they are so but for blanks around them.
Carriage returns before the line feeds, or a line feed at the end, therefore change
nothing, neither what a run does nor how it ends. -/
theorem layout_is_immaterial :
    (∀ lines others : List String,
      lines.map Field.ofLine = others.map Field.ofLine → ∀ count,
      let reader := Reader.ofLines lines
      let other := Reader.ofLines others
      (reader.afterCalls count).cursor = (other.afterCalls count).cursor ∧
        AnswersAlike lines others (reader.answer count) (other.answer count) ∧
        (lines.map Script.content = others.map Script.content →
          reader.answer count = other.answer count)) ∧
    ∀ edit ∈ [Script.withCarriageReturns, Script.withFinalLineFeed],
      (∀ text : String, (Reader.ofLines (Script.lines (edit text))).transcript =
        (Reader.ofLines (Script.lines text)).transcript) ∧
      ∀ {m : Type → Type} [Monad m] [LawfulMonad m] [host : Host m],
        (∀ text : String,
          (evaluate (Script.lines (edit text)) : m (Except RunError Scene)) =
            evaluate (Script.lines text)) ∧
        ∀ path : String, @runScript m _ (host.editing edit) path = runScript path := by
  refine ⟨fun lines others hfields count => ?_, fun edit hedit => ?_⟩
  · intro reader other
    have halike := Reader.answer_alike hfields count
    exact ⟨Reader.cursor_afterCalls_alike hfields count, halike, halike.eq⟩
  · have hcontents : ∀ text,
        (Script.lines (edit text)).map Script.content =
            (Script.lines text).map Script.content := by
      intro text
      rcases List.mem_pair.mp hedit with rfl | rfl
      · exact Script.contents_withCarriageReturns text
      · exact Script.contents_withFinalLineFeed text
    refine ⟨fun text => Reader.transcript_of_contents (hcontents text),
      fun {m} _ _ _ => ⟨fun text => ?_, ?_⟩⟩
    · exact evaluate_of_contents (hcontents text)
    · exact runScript_editing hcontents

/-- The gap between two fields shows in what an error quotes. Of two carriage returns
before a line feed, one is left at the end of the line, where it is a blank. -/
theorem layout_is_immaterial_wide :
    let lines := ["move", "1 x 3"]
    let others := [" move\t", "  1\t x 3"]
    let reason : ArgumentError := .fieldKind .number .axis "x"
    let start : World := .start .empty [] ⟨[], none⟩
    ((Reader.ofLines lines).answer 0 =
        .failed (.malformedArguments 2 .move "1 x 3" reason) ∧
      AnswersAlike lines others (.failed (.malformedArguments 2 .move "1 x 3" reason))
        (.failed (.malformedArguments 2 .move "1\t x 3" reason))) ∧
      (∀ count, (Reader.ofLines ["apply\r", " x y"]).answer count =
        (Reader.ofLines ["apply", "x y"]).answer count) ∧
      ((evaluate (Script.lines "ident\r\r\napply\r\n") : StateM World _) start).1 =
        .ok .empty := by
  intro lines others reason start
  have hfields : lines.map Field.ofLine = others.map Field.ofLine := by decide +kernel
  have hanswer : (Reader.ofLines lines).answer 0 =
      .failed (.malformedArguments 2 .move "1 x 3" reason) := by
    decide +kernel
  have hother : (Reader.ofLines others).answer 0 =
      .failed (.malformedArguments 2 .move "1\t x 3" reason) := by
    decide +kernel
  obtain ⟨hcalls, hedits⟩ := layout_is_immaterial
  obtain ⟨-, hfirst, -⟩ := hcalls lines others hfields 0
  rw [hanswer, hother] at hfirst
  refine ⟨⟨hanswer, hfirst⟩, fun count => ?_, ?_⟩
  · obtain ⟨-, -, hsame⟩ :=
      hcalls ["apply\r", " x y"] ["apply", "x y"] (by decide +kernel) count
    exact hsame (by decide +kernel)
  · obtain ⟨-, hruns⟩ := hedits Script.withCarriageReturns (.head _)
    have hedited : Script.withCarriageReturns "ident\r\napply\n" =
      "ident\r\r\napply\r\n" := by decide +kernel
    rw [← hedited, hruns.1]
    decide +kernel

end Wireframe
