import Wireframe.Proofs.Script.Field
import Wireframe.Proofs.Script.Transcript
import Wireframe.Proofs.Text.Lines

/-!
How the lines of a script are laid out. What a line means is said by its fields, in
whatever role it is read, and errors quote it without the blanks around it.
-/

namespace Wireframe

/-! Lines with the same fields. -/

theorem Field.ofLine_name (keyword : Keyword) :
    ofLine keyword.name = [⟨keyword.name.toList⟩] := by
  rcases keyword with keyword | keyword <;> cases keyword <;> decide

theorem Script.content_eq_name_iff {line : String} {keyword : Keyword} :
    content line = keyword.name ↔ Field.ofLine line = [⟨keyword.name.toList⟩] := by
  constructor
  · intro h
    rw [← Field.ofLine_content, h, Field.ofLine_name]
  · intro h
    obtain ⟨word, hwords, hword⟩ := List.map_eq_singleton_iff.mp h
    obtain rfl := congrArg Field.word hword
    rw [content, Text.trim_of_words_eq_singleton hwords, String.ofList_toList]

theorem Keyword.ofText?_content_eq_some_iff {line : String} {keyword : Keyword} :
    ofText? (Script.content line) = some keyword ↔
    Field.ofLine line = [⟨keyword.name.toList⟩] := by
  rw [← Script.content_eq_name_iff]
  constructor
  · exact fun h => (name_of_ofText? h).symm
  · intro h
    rw [h, ofText?_name]

theorem Keyword.ofText?_content_congr {line other : String}
    (h : Field.ofLine line = Field.ofLine other) :
    ofText? (Script.content line) = ofText? (Script.content other) := by
  refine Option.ext fun keyword => ?_
  rw [ofText?_content_eq_some_iff, ofText?_content_eq_some_iff, h]

/-! Lines that are the same but for blanks around them. -/

@[simp] theorem Script.content_content (line : String) :
    content (content line) = content line := by
  simp [content]

namespace Reader

def trimmed (reader : Reader) : Reader :=
  { reader with rest := reader.rest.map Script.content }

theorem next_trimmed (reader : Reader) :
    reader.trimmed.next = (reader.next.1, reader.next.2.trimmed) := by
  obtain ⟨cursor, rest⟩ := reader
  cases rest with
  | nil => rfl
  | cons line rest =>
      cases hkeyword : Keyword.ofText? (Script.content line) with
      | none =>
          have hcontent : Keyword.ofText? (Script.content (Script.content line)) =
              none := by
            rw [Script.content_content, hkeyword]
          rw [next_of_none hkeyword]
          refine (next_of_none hcontent).trans ?_
          rw [Script.content_content]
          rfl
      | some keyword =>
          have hname := (Keyword.name_of_ofText? hkeyword).symm
          have hcontent := (Script.content_content line).trans hname
          cases keyword with
          | bare keyword =>
              rw [next_of_bare hname]
              exact next_of_bare hcontent
          | argument keyword =>
              rw [next_of_argument hname]
              refine (next_of_argument hcontent).trans ?_
              cases rest with
              | nil => rfl
              | cons second rest =>
                  simp only [readArguments, List.map_cons, Script.content_content]
                  cases keyword.command (Field.ofLine (Script.content second)) <;> rfl

theorem transcript_trimmed (reader : Reader) :
    reader.trimmed.transcript = reader.transcript := by
  induction reader using transcript.induct with
  | case1 reader after hnext =>
      have htrimmed := next_trimmed reader
      rw [hnext] at htrimmed
      rw [transcript_finished htrimmed, transcript_finished hnext]
      rfl
  | case2 reader e after hnext =>
      have htrimmed := next_trimmed reader
      rw [hnext] at htrimmed
      rw [transcript_failed htrimmed, transcript_failed hnext]
      rfl
  | case3 reader command after hnext ih =>
      have htrimmed := next_trimmed reader
      rw [hnext] at htrimmed
      rw [transcript_command htrimmed, transcript_command hnext, ih]
      rfl

theorem transcript_of_contents {lines others : List String}
    (h : lines.map Script.content = others.map Script.content) :
    (ofLines lines).transcript = (ofLines others).transcript := by
  have htrimmed : (ofLines lines).trimmed = (ofLines others).trimmed := congrArg (mk 0) h
  rw [← transcript_trimmed, htrimmed, transcript_trimmed]

end Reader

/-! Texts with other ends of lines. -/

namespace Script

def withCarriageReturns (text : String) : String :=
  String.ofList (Text.withCarriageReturns text.toList)

def withFinalLineFeed (text : String) : String :=
  String.ofList (Text.withFinalLineFeed text.toList)

theorem contents_of_trimEnd {text : String} {other : List Char}
    (h : (Text.lines other).map Text.trimEnd =
      (Text.lines text.toList).map Text.trimEnd) :
    (lines (String.ofList other)).map content = (lines text).map content := by
  have hcontent : ∀ chars : List (List Char), (chars.map String.ofList).map content =
      (chars.map Text.trimEnd).map fun line => String.ofList (Text.trimStart line) := by
    intro chars
    simp [content, Text.trim_eq]
  rw [lines, lines, hcontent, hcontent, String.toList_ofList, h]

theorem contents_withCarriageReturns (text : String) :
    (lines (withCarriageReturns text)).map content = (lines text).map content :=
  contents_of_trimEnd (Text.trimEnd_lines_withCarriageReturns text.toList)

theorem contents_withFinalLineFeed (text : String) :
    (lines (withFinalLineFeed text)).map content = (lines text).map content :=
  contents_of_trimEnd (Text.trimEnd_lines_withFinalLineFeed text.toList)

end Script

end Wireframe
