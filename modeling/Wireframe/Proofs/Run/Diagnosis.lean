import Wireframe.Proofs.Run.Perform
import Wireframe.Proofs.Script.Blocks
import Wireframe.World

/-!
The errors of a script. Each says at which line reading came to an end, counted
from the first line of the script, and what stands there; in front of it there
are none but whole blocks.
-/

namespace Wireframe

namespace ScriptError

/-- What an error says of a script in which the block that it concerns begins
behind `start` lines. -/
def Concerns (lines : List String) (start : Nat) : ScriptError → Prop
  | invalidCommand line content =>
      1 ≤ line ∧ line ≤ lines.length ∧ line = start + 1 ∧
        lines[line - 1]?.map Script.content = some content ∧
        ∀ keyword : Keyword, keyword.name ≠ content
  | malformedArguments line keyword content reason =>
      2 ≤ line ∧ line ≤ lines.length ∧ line = start + 2 ∧
        lines[line - 2]?.map Script.content = some keyword.name ∧
        lines[line - 1]?.map Script.content = some content ∧
        keyword.command (Field.ofLine content) = .error reason
  | truncatedScript line keyword =>
      line = lines.length ∧ line = start + 1 ∧
        lines.getLast?.map Script.content = some keyword.name ∧
        keyword.name ∈ ["line", "scale", "move", "rotate", "save"]

end ScriptError

namespace Reader

variable {before rest : List String} {e : ScriptError}

theorem concerns_of_next_failed {after : Reader}
    (h : next ⟨before.length, rest⟩ = (.failed e, after)) :
    e.Concerns (before ++ rest) before.length := by
  rcases next_failed_cases h with ⟨line, more, hrest, hkeyword, rfl, -⟩ |
    ⟨keyword, first, second, more, reason, hrest, hname, hcommand, rfl, -⟩ |
    ⟨keyword, line, hrest, hname, rfl, -⟩
  · obtain rfl := hrest
    refine ⟨by simp, by simp, rfl, by simp, fun keyword hname => ?_⟩
    rw [← hname, Keyword.ofText?_name] at hkeyword
    cases hkeyword
  · obtain rfl := hrest
    exact ⟨by simp, by simp, rfl, by simp [hname], by simp, by simpa using hcommand⟩
  · obtain rfl := hrest
    refine ⟨by simp, rfl, by simp [hname], ?_⟩
    cases keyword <;> decide

theorem next_failed_of_concerns (h : e.Concerns (before ++ rest) before.length) :
    ∃ after, next ⟨before.length, rest⟩ = (.failed e, after) := by
  cases e with
  | invalidCommand line content =>
      obtain ⟨-, hle, rfl, hcontent, hnone⟩ := h
      cases rest with
      | nil =>
          rw [List.append_nil] at hle
          omega
      | cons first rest =>
          have hfirst : Script.content first = content := by simpa using hcontent
          have hkeyword : Keyword.ofText? (Script.content first) = none := by
            refine Option.eq_none_iff_forall_ne_some.mpr fun keyword hkeyword => ?_
            exact hnone keyword ((Keyword.name_of_ofText? hkeyword).trans hfirst)
          exact ⟨_, hfirst ▸ next_of_none hkeyword⟩
  | malformedArguments line keyword content reason =>
      obtain ⟨-, hle, rfl, hname, hcontent, hreason⟩ := h
      cases rest with
      | nil =>
          rw [List.append_nil] at hle
          omega
      | cons first rest =>
          cases rest with
          | nil => simp at hle
          | cons second rest =>
              have hfirst : Script.content first = keyword.name := by simpa using hname
              have hsecond : Script.content second = content := by simpa using hcontent
              refine ⟨⟨before.length + 2, rest⟩, (next_of_argument hfirst).trans ?_⟩
              simp only [readArguments, hsecond, hreason]
  | truncatedScript line keyword =>
      obtain ⟨hlength, rfl, hname, -⟩ := h
      cases rest with
      | nil => simp at hlength
      | cons first rest =>
          cases rest with
          | nil =>
              have hfirst : Script.content first = keyword.name := by simpa using hname
              exact ⟨_, next_of_argument hfirst⟩
          | cons => simp at hlength

end Reader

/-- The error is about the block behind some lines of the script that are whole blocks. -/
def ScriptError.Diagnoses (lines : List String) (e : ScriptError) : Prop :=
  ∃ before rest blocks, lines = before ++ rest ∧ Cut before blocks ∧
    e.Concerns lines before.length

namespace Reader

variable {lines : List String} {e : ScriptError}

theorem diagnoses_of_failure (h : (ofLines lines).transcript.failure = some e) :
    e.Diagnoses lines := by
  obtain ⟨blocks, stop, hleads, hstop⟩ := (ofLines lines).exists_leads
  let before := (blocks.map Prod.fst).flatten
  have hlines : lines = before ++ stop.rest := hleads.rest_eq
  have hstop_eq : stop = ⟨before.length, stop.rest⟩ := by
    have hcursor := hleads.cursor_eq
    rw [show (ofLines lines).cursor = 0 from rfl, Nat.zero_add] at hcursor
    exact congrArg (Reader.mk · stop.rest) hcursor
  rw [hleads.transcript_eq.2] at h
  match hnext : stop.next with
  | (.command command, after) => exact absurd hnext (hstop command after)
  | (.finished, after) => simp [transcript_finished hnext] at h
  | (.failed found, after) =>
      obtain rfl : found = e := by simpa [transcript_failed hnext] using h
      rw [hstop_eq] at hnext
      have hconcerns := concerns_of_next_failed hnext
      rw [← hlines] at hconcerns
      exact ⟨before, stop.rest, blocks, hlines, ⟨rfl, hleads.block⟩, hconcerns⟩

theorem failure_of_diagnoses (h : e.Diagnoses lines) :
    (ofLines lines).transcript.failure = some e := by
  obtain ⟨before, rest, blocks, rfl, ⟨rfl, hblocks⟩, hconcerns⟩ := h
  obtain ⟨after, hnext⟩ := next_failed_of_concerns hconcerns
  have hleads :
      (ofLines (_ ++ rest)).Leads blocks ⟨(blocks.map Prod.fst).flatten.length, rest⟩ :=
    ⟨hblocks, rfl, (Nat.zero_add _).symm⟩
  rw [hleads.transcript_eq.2, transcript_failed hnext]

end Reader

theorem failure_of_evaluate {σ : Type} [Host (StateM σ)] {lines : List String}
    {before after : σ} {e : ScriptError}
    (h : (evaluate lines : StateM σ _) before = (.error (.script e), after)) :
    (Reader.ofLines lines).transcript.failure = some e := by
  rw [evaluate_apply] at h
  generalize (Reader.ofLines lines).transcript = t at h
  cases hperformed : ((Scene.empty.perform t.steps : StateM σ _) before).1 with
  | error e =>
      rw [hperformed] at h
      cases h
  | ok scene =>
      rw [hperformed, Transcript.conclude] at h
      cases hfailure : t.failure with
      | none =>
          rw [hfailure] at h
          cases h
      | some found =>
          rw [hfailure] at h
          cases h
          rfl

/-- Reading a script ends with an error exactly if the lines before some line can be cut
into blocks and what stands behind them is what the error says: a line that is no keyword,
a keyword with a line that it refuses as its arguments, or a keyword on the last line that
has no argument line. A run that ends with an error of its script ends with this one. -/
theorem error_diagnoses_block (lines : List String) :
    let t := (Reader.ofLines lines).transcript
    (∀ e : ScriptError, t.failure = some e ↔ e.Diagnoses lines) ∧
      ∀ {σ : Type} [Host (StateM σ)] (start finish : σ) (e : ScriptError),
        (evaluate lines : StateM σ _) start = (.error (.script e), finish) →
          t.failure = some e ∧ e.Diagnoses lines := by
  intro t
  refine ⟨fun e => ⟨Reader.diagnoses_of_failure, Reader.failure_of_diagnoses⟩, ?_⟩
  intro σ _ start finish e hrun
  have hfailure : t.failure = some e := failure_of_evaluate hrun
  exact ⟨hfailure, Reader.diagnoses_of_failure hfailure⟩

theorem error_diagnoses_block_fourth_line :
    let lines := ["scale", "2 2 2", "apply", " rotate ", "w 90"]
    let start : World := .start .empty [] ⟨[], none⟩
    let e : ScriptError := .malformedArguments 5 .rotate "w 90"
      (.fieldKind .axis .identifier "w")
    ((evaluate lines : StateM World _) start).1 = .error (.script e) ∧
      (Reader.ofLines lines).transcript.failure = some e ∧
      ∃ before rest blocks, lines = before ++ rest ∧ Cut before blocks ∧
        before.length = 3 ∧
        lines[before.length]?.map Script.content = some "rotate" ∧
        lines[before.length + 1]?.map Script.content = some "w 90" := by
  intro lines start e
  have hresult : ((evaluate lines : StateM World _) start).1 = .error (.script e) := by
    decide +kernel
  obtain ⟨-, hrun⟩ := error_diagnoses_block lines
  obtain ⟨hfailure, before, rest, blocks, hlines, hcut, -, -, hstart, hname,
      hcontent, -⟩ :=
    hrun start _ e (Prod.ext hresult rfl)
  have hbefore : before.length = 3 := by omega
  refine ⟨hresult, hfailure, before, rest, blocks, hlines, hcut, hbefore, ?_, ?_⟩
  · rw [hbefore]
    exact hname
  · rw [hbefore]
    exact hcontent

end Wireframe
