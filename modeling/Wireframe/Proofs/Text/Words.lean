import Mathlib.Data.List.DropRight
import Wireframe.Text.Blank

/-!
The words of a text. A blank ends a word wherever it stands, so the blanks around
a text are of no account.
-/

namespace Wireframe.Text

theorem words_append_blank {c : Char} (h : isBlank c) (before after : List Char) :
    words (before ++ c :: after) = words before ++ words after := by
  unfold words
  rw [List.splitOnP_append_cons before after h, List.filter_append]

theorem words_cons_blank {c : Char} (h : isBlank c) (text : List Char) :
    words (c :: text) = words text := by
  simpa using words_append_blank h [] text

theorem words_concat_blank {c : Char} (h : isBlank c) (text : List Char) :
    words (text ++ [c]) = words text := by
  simpa using words_append_blank h text []

@[simp] theorem words_trimStart (text : List Char) :
    words (trimStart text) = words text := by
  induction text with
  | nil => rfl
  | cons c text ih =>
      unfold trimStart at ih ⊢
      by_cases h : isBlank c
      · rw [List.dropWhile_cons_of_pos h, ih, words_cons_blank h]
      · rw [List.dropWhile_cons_of_neg h]

@[simp] theorem words_trimEnd (text : List Char) : words (trimEnd text) = words text := by
  induction text using List.reverseRecOn with
  | nil => rfl
  | append_singleton text c ih =>
      change words (List.rdropWhile isBlank (text ++ [c])) = _
      by_cases h : isBlank c
      · rw [List.rdropWhile_concat_pos _ _ _ h, words_concat_blank h]
        exact ih
      · rw [List.rdropWhile_concat_neg _ _ _ h]

@[simp] theorem words_trim (text : List Char) : words (trim text) = words text := by
  rw [trim, words_trimEnd, words_trimStart]

theorem trimEnd_cons (c : Char) (text : List Char) :
    trimEnd (c :: text) = if trimEnd text = [] then (if isBlank c then [] else [c])
    else c :: trimEnd text := by
  simp only [trimEnd, List.reverse_cons, List.dropWhile_append, List.isEmpty_iff,
    List.reverse_eq_nil_iff]
  split
  · by_cases h : isBlank c <;> simp [h]
  · simp

theorem trimEnd_append_of_blank {back : List Char} (h : ∀ c ∈ back, isBlank c)
    (text : List Char) :
    trimEnd (text ++ back) = trimEnd text := by
  unfold trimEnd
  rw [List.reverse_append, List.dropWhile_append_of_pos]
  simpa using h

theorem trim_eq (text : List Char) : trim text = trimStart (trimEnd text) := by
  unfold trim
  induction text with
  | nil => rfl
  | cons c text ih =>
      by_cases h : isBlank c
      · have hstart : trimStart (c :: text) = trimStart text :=
          List.dropWhile_cons_of_pos h
        rw [hstart, ih, trimEnd_cons, if_pos h]
        split
        · simp [*]
        · exact (List.dropWhile_cons_of_pos h).symm
      · have hstart : trimStart (c :: text) = c :: text := List.dropWhile_cons_of_neg h
        rw [hstart, trimEnd_cons, if_neg h]
        split
        · exact (List.dropWhile_cons_of_neg h).symm
        · exact (List.dropWhile_cons_of_neg h).symm

@[simp] theorem trim_trim (text : List Char) : trim (trim text) = trim text := by
  have hend : ∀ t, trimEnd (trimEnd t) = trimEnd t := List.rdropWhile_idempotent isBlank
  have hstart : ∀ t, trimStart (trimStart t) = trimStart t :=
    List.dropWhile_idempotent isBlank
  rw [trim_eq (trim text), trim, hend, ← trim, trim_eq, hstart]

theorem trimEnd_of_no_blank {word : List Char} (h : ∀ c ∈ word, ¬ isBlank c) :
    trimEnd word = word := by
  induction word with
  | nil => rfl
  | cons c word ih =>
      obtain ⟨hc, hword⟩ := List.forall_mem_cons.mp h
      rw [trimEnd_cons, ih hword, if_neg hc]
      split
      · simp [*]
      · rfl

theorem words_of_no_blank {word : List Char} (hne : word ≠ [])
    (h : ∀ c ∈ word, ¬ isBlank c) :
    words word = [word] := by
  have hsplit : word.splitOnP isBlank = [word] :=
    List.splitOnP_eq_singleton (by simpa using h)
  simp [words, hsplit, hne]

theorem no_blank_of_cons_takeWhile {c : Char} (h : ¬ isBlank c) (text : List Char) :
    ∀ d ∈ c :: text.takeWhile fun c => !isBlank c, ¬ isBlank d := by
  refine List.forall_mem_cons.mpr ⟨h, fun d hd => ?_⟩
  simpa using List.mem_takeWhile_imp hd

theorem words_cons_of_not_blank {c : Char} (h : ¬ isBlank c) (text : List Char) :
    words (c :: text) =
      (c :: text.takeWhile fun c => !isBlank c) ::
        words (text.dropWhile fun c => !isBlank c) := by
  have hword := no_blank_of_cons_takeWhile h text
  have htext := text.takeWhile_append_dropWhile (p := fun c => !isBlank c)
  cases hrest : text.dropWhile fun c => !isBlank c with
  | nil =>
      rw [hrest, List.append_nil] at htext
      rw [htext] at hword ⊢
      exact words_of_no_blank (List.cons_ne_nil c text) hword
  | cons d rest =>
      have hd : isBlank d := by
        have hhead :=
          List.head_dropWhile_not (p := fun c => !isBlank c) (l := text) (by simp [hrest])
        simpa [hrest] using hhead
      have hfirst := words_of_no_blank (List.cons_ne_nil _ _) hword
      rw [hrest] at htext
      rw [words_cons_blank hd]
      calc words (c :: text)
          = words ((c :: text.takeWhile fun c => !isBlank c) ++ d :: rest) := by
            rw [List.cons_append, htext]
        _ = (c :: text.takeWhile fun c => !isBlank c) :: words rest := by
            rw [words_append_blank hd, hfirst, List.singleton_append]

theorem blank_of_words_eq_nil {text : List Char} (h : words text = []) :
    ∀ c ∈ text, isBlank c := by
  induction text with
  | nil => exact nofun
  | cons c text ih =>
      by_cases hc : isBlank c
      · rw [words_cons_blank hc] at h
        exact List.forall_mem_cons.mpr ⟨hc, ih h⟩
      · rw [words_cons_of_not_blank hc] at h
        cases h

theorem words_eq_append (text : List Char) :
    words text = ([text.takeWhile fun c => !isBlank c].filter fun word =>
      !word.isEmpty) ++ words (text.dropWhile fun c => !isBlank c) := by
  cases text with
  | nil => simp
  | cons c text =>
      by_cases h : isBlank c
      · simp [h]
      · rw [words_cons_of_not_blank h]
        simp [h]

theorem words_dropWhile_subset (text : List Char) :
    words (text.dropWhile fun c => !isBlank c) ⊆ words text := by
  conv_rhs => rw [words_eq_append]
  exact List.subset_append_right _ _

theorem word_of_mem_words {text word : List Char} (h : word ∈ words text) :
    word ≠ [] ∧ ∀ c ∈ word, ¬ isBlank c := by
  induction text with
  | nil => cases h
  | cons c text ih =>
      by_cases hc : isBlank c
      · rw [words_cons_blank hc] at h
        exact ih h
      · rw [words_cons_of_not_blank hc] at h
        rcases List.mem_cons.mp h with rfl | hlater
        · exact ⟨List.cons_ne_nil _ _, no_blank_of_cons_takeWhile hc text⟩
        · exact ih (words_dropWhile_subset text hlater)

theorem flatten_words (text : List Char) :
    (words text).flatten = text.filter fun c => !isBlank c := by
  induction text with
  | nil => rfl
  | cons c text ih =>
      by_cases hc : isBlank c
      · rw [words_cons_blank hc, ih, List.filter_cons_of_neg (by simpa using hc)]
      · have hfirst : (words text).flatten =
            (text.takeWhile fun c => !isBlank c) ++
                (words (text.dropWhile fun c => !isBlank c)).flatten := by
          rw [words_eq_append, List.flatten_append, List.flatten_filter_not_isEmpty,
            List.flatten_singleton]
        rw [words_cons_of_not_blank hc, List.flatten_cons, List.cons_append, ← hfirst, ih,
          List.filter_cons_of_pos (by simpa using hc)]

theorem words_append_of_blank {blanks : List Char} (hne : blanks ≠ [])
    (h : ∀ c ∈ blanks, isBlank c) (before after : List Char) :
    words (before ++ blanks ++ after) = words before ++ words after := by
  induction blanks generalizing before with
  | nil => exact absurd rfl hne
  | cons c blanks ih =>
      obtain ⟨hc, hblanks⟩ := List.forall_mem_cons.mp h
      rw [List.append_assoc, List.cons_append, words_append_blank hc]
      by_cases hlast : blanks = []
      · rw [hlast, List.nil_append]
      · have hrest := ih hlast hblanks []
        rw [List.nil_append, words_nil, List.nil_append] at hrest
        rw [hrest]

theorem trim_of_words_eq_singleton {text word : List Char} (h : words text = [word]) :
    trim text = word := by
  induction text with
  | nil => cases h
  | cons c text ih =>
      by_cases hc : isBlank c
      · rw [words_cons_blank hc] at h
        have hstart : trimStart (c :: text) = trimStart text :=
          List.dropWhile_cons_of_pos hc
        rw [trim, hstart]
        exact ih h
      · rw [words_cons_of_not_blank hc] at h
        obtain ⟨rfl, hrest⟩ := List.cons.inj h
        have hstart : trimStart (c :: text) = c :: text := List.dropWhile_cons_of_neg hc
        calc trim (c :: text)
            = trimEnd ((c :: text.takeWhile fun c => !isBlank c) ++
                text.dropWhile fun c => !isBlank c) := by
              rw [trim, hstart, List.cons_append, List.takeWhile_append_dropWhile]
          _ = c :: text.takeWhile fun c => !isBlank c := by
              rw [trimEnd_append_of_blank (blank_of_words_eq_nil hrest)]
              exact trimEnd_of_no_blank (no_blank_of_cons_takeWhile hc text)

end Wireframe.Text
