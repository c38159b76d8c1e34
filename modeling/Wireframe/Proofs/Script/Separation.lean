import Wireframe.Proofs.Script.Classes

/-!
Fields are separated by blanks and by nothing else. So a line can be cut at any blanks,
and what stands on one side of them has no part in the fields of the other.
-/

namespace Wireframe

namespace Field

variable {line : String} {field : Field}

theorem ofLine_append_of_blank {blanks : String} (hne : blanks ≠ "")
    (h : ∀ c ∈ blanks.toList, Text.isBlank c) (before after : String) :
    ofLine (before ++ blanks ++ after) = ofLine before ++ ofLine after := by
  have hlist : blanks.toList ≠ [] := by simpa using hne
  rw [ofLine, String.toList_append, String.toList_append,
    Text.words_append_of_blank hlist h, List.map_append]
  rfl

theorem ofLine_of_no_blank {word : String} (hne : word ≠ "")
    (h : ∀ c ∈ word.toList, ¬ Text.isBlank c) :
    ofLine word = [⟨word.toList⟩] := by
  have hlist : word.toList ≠ [] := by simpa using hne
  rw [ofLine, Text.words_of_no_blank hlist h]
  rfl

theorem word_of_mem_ofLine (h : field ∈ ofLine line) :
    field.word ≠ [] ∧ ∀ c ∈ field.word, ¬ Text.isBlank c := by
  obtain ⟨word, hword, rfl⟩ := List.mem_map.mp h
  exact Text.word_of_mem_words hword

theorem ofLine_text (h : field ∈ ofLine line) : ofLine field.text = [field] := by
  obtain ⟨hne, hblank⟩ := word_of_mem_ofLine h
  rw [ofLine, text, String.toList_ofList, Text.words_of_no_blank hne hblank]
  rfl

theorem join_text_ofLine (line : String) :
    String.join ((ofLine line).map text) =
      String.ofList (line.toList.filter fun c => !Text.isBlank c) := by
  have hjoin : ∀ words : List (List Char),
      String.join ((words.map mk).map text) = String.ofList words.flatten := by
    intro words
    induction words with
    | nil => rfl
    | cons word words ih =>
        rw [List.map_cons, List.map_cons, String.join_cons, ih, List.flatten_cons,
          String.ofList_append]
        rfl
  rw [ofLine, hjoin, Text.flatten_words]

end Field

namespace Reader

/-- The blanks around an argument line are left out of what is quoted, and play no
part in what is read. -/
theorem readArguments_line (cursor : Nat) (line : String) (rest : List String)
    (keyword : ArgumentKeyword) :
    readArguments ⟨cursor, line :: rest⟩ keyword =
      (match keyword.command (Field.ofLine line) with
        | .ok command => .command command
        | .error reason =>
            .failed (.malformedArguments (cursor + 1) keyword
              (Script.content line) reason),
        ⟨cursor + 1, rest⟩) := by
  rw [← Field.ofLine_content line]
  simp only [readArguments]
  split <;> simp_all

end Reader

/-- Blanks between two texts, however many, keep their fields apart, and a text without
blanks is one field. So the fields of a line have all its characters but the blanks, none
of them is empty, and each is the field that it would be on a line of its own, whose class
is the first that has the field in its language. Trimming the line first changes none of
them, nor what is read from it. -/
theorem fields_separated_by_blanks :
    (∀ before blanks after : String, blanks ≠ "" → (∀ c ∈ blanks.toList, Text.isBlank c) →
      Field.ofLine (before ++ blanks ++ after) =
        Field.ofLine before ++ Field.ofLine after) ∧
    (∀ word : String, word ≠ "" → (∀ c ∈ word.toList, ¬ Text.isBlank c) →
      Field.ofLine word = [⟨word.toList⟩]) ∧
    ∀ line : String,
      (∀ field ∈ Field.ofLine line,
        field.text ≠ "" ∧ (∀ c ∈ field.text.toList, ¬ Text.isBlank c) ∧
          Field.ofLine field.text = [field] ∧
          ∀ kind : FieldKind, field.kind = kind ↔
            field.text.toList ∈ kind.language ∧
              ∀ other ∈ kind.earlier, field.text.toList ∉ other.language) ∧
      String.join ((Field.ofLine line).map Field.text) =
        String.ofList (line.toList.filter fun c => !Text.isBlank c) ∧
      Field.ofLine (Script.content line) = Field.ofLine line ∧
      ∀ (cursor : Nat) (rest : List String) (keyword : ArgumentKeyword),
        Reader.readArguments ⟨cursor, line :: rest⟩ keyword =
          (match keyword.command (Field.ofLine line) with
            | .ok command => .command command
            | .error reason =>
                .failed (.malformedArguments (cursor + 1) keyword
                  (Script.content line) reason),
            ⟨cursor + 1, rest⟩) := by
  refine ⟨fun before blanks after hne h =>
    Field.ofLine_append_of_blank hne h before after,
    fun word hne h => Field.ofLine_of_no_blank hne h,
      fun line => ⟨fun field hfield => ?_, ?_, ?_, ?_⟩⟩
  · obtain ⟨hne, hblank⟩ := Field.word_of_mem_ofLine hfield
    have hlist : field.text.toList = field.word := String.toList_ofList
    have htext : field.text ≠ "" := fun h => hne (hlist ▸ String.toList_eq_nil_iff.mpr h)
    have hlanguage := FieldKind.mem_language_identifier.mpr ⟨hne, hblank⟩
    rw [hlist]
    exact ⟨htext, hblank, Field.ofLine_text hfield,
      Script.classify_eq_iff_first hlanguage⟩
  · exact Field.join_text_ofLine line
  · exact Field.ofLine_content line
  · exact fun cursor rest keyword => Reader.readArguments_line cursor line rest keyword

theorem fields_separated_by_blanks_wide :
    let before := "\u2003x"
    let after := "\u3000 4.5e1 "
    let blanks := "\t\u00a0"
    Field.ofLine (before ++ blanks ++ after) = [⟨['x']⟩, ⟨['4', '.', '5', 'e', '1']⟩] ∧
      Field.ofLine "4.5e1" = [⟨['4', '.', '5', 'e', '1']⟩] ∧
      (Field.mk ['x']).kind = .axis ∧
      Field.ofLine (Script.content (before ++ blanks ++ after)) =
        Field.ofLine before ++ Field.ofLine after := by
  intro before after blanks
  obtain ⟨happend, hword, hline⟩ := fields_separated_by_blanks
  have hblank : ∀ c ∈ blanks.toList, Text.isBlank c := List.all_eq_true.mp (by decide)
  have hfilled : ∀ c ∈ "4.5e1".toList, ¬ Text.isBlank c :=
    List.any_eq_false.mp (by decide)
  have hcut := happend before blanks after (by decide) hblank
  have hbefore : Field.ofLine before = [⟨['x']⟩] := by decide +kernel
  have hafter : Field.ofLine after = [⟨['4', '.', '5', 'e', '1']⟩] := by decide +kernel
  obtain ⟨hfields, -, -, -⟩ := hline before
  obtain ⟨-, -, -, hkind⟩ := hfields ⟨['x']⟩ (by rw [hbefore]; exact .head _)
  have haxis : Script.IsAxis ['x'] := ⟨'x', by decide, rfl⟩
  obtain ⟨-, -, htrim, -⟩ := hline (before ++ blanks ++ after)
  refine ⟨?_, hword "4.5e1" (by decide) hfilled, (hkind .axis).mpr ⟨?_, ?_⟩,
    htrim.trans hcut⟩
  · rw [hcut, hbefore, hafter]
    rfl
  · exact FieldKind.mem_language_axis.mpr haxis
  · intro other hother
    cases List.mem_singleton.mp hother
    exact FieldKind.mem_language_number.not.mpr haxis.not_isNumber

end Wireframe
