import Wireframe.Proofs.Script.Language

/-!
The classes of fields. Each class has a language, and a field is of the first class
whose language it is in.
-/

namespace Wireframe

namespace Script

def IsNumber (field : List Char) : Prop :=
  ∃ n : Numeral, n.Spells field

def IsAxis (field : List Char) : Prop :=
  ∃ letter ∈ ['x', 'y', 'z', 'X', 'Y', 'Z'], field = [letter]

variable {field name base ext : List Char}

theorem isSome_read?_iff : (Numeral.read? field).isSome ↔ IsNumber field := by
  rw [Option.isSome_iff_exists]
  exact exists_congr fun n => Numeral.read?_eq_some_iff

theorem isSome_axis_iff : (Axis.read? field).isSome ↔ IsAxis field := by
  rw [Option.isSome_iff_exists]
  constructor
  · rintro ⟨axis, h⟩
    obtain ⟨letter, hletter, rfl⟩ := Axis.read?_eq_some_iff.mp h
    refine ⟨letter, ?_, rfl⟩
    cases axis <;> simp_all [Axis.letters] <;> tauto
  · rintro ⟨letter, hletter, rfl⟩
    simp only [List.mem_cons, List.not_mem_nil, or_false] at hletter
    rcases hletter with rfl | rfl | rfl | rfl | rfl | rfl
    all_goals exact ⟨_, rfl⟩

theorem isDirectoryName_iff : isDirectoryName name ↔ IsDirectory name := by
  constructor
  · intro h
    obtain ⟨hne, hchars⟩ : name ≠ [] ∧ ∀ c ∈ name, isFileNameChar c ∨ c = '.' := by
      simpa [isDirectoryName] using h
    exact ⟨hne, hchars⟩
  · rintro ⟨hne, hchars⟩
    simpa [isDirectoryName] using And.intro hne hchars

theorem IsFile.point_notMem_base (h : IsFile base ext name) : '.' ∉ base :=
  fun hmem => absurd (h.base_chars '.' hmem) (by decide)

theorem IsFile.point_notMem_ext (h : IsFile base ext name) : '.' ∉ ext :=
  fun hmem => absurd (h.ext_chars '.' hmem) (by decide)

theorem IsFile.splitOn_point (h : IsFile base ext name) :
    name.splitOn '.' = [base, ext] := by
  have hname : ['.'].intercalate [base, ext] = name := by
    simp [h.name_eq]
  rw [← hname]
  refine List.splitOn_intercalate '.' ?_ (by simp)
  simpa using And.intro h.point_notMem_base h.point_notMem_ext

theorem isFileName_iff : isFileName name ↔ ∃ base ext, IsFile base ext name := by
  constructor
  · intro h
    unfold isFileName at h
    split at h
    · rename_i base ext hsplit
      simp only [Bool.and_eq_true, List.all_eq_true, Bool.not_eq_true',
        List.isEmpty_eq_false_iff] at h
      obtain ⟨⟨⟨hbase_ne, hbase⟩, hext_ne⟩, hext⟩ := h
      have hname : ['.'].intercalate [base, ext] = name :=
        hsplit ▸ List.intercalate_splitOn '.'
      refine ⟨base, ext, ?_, hbase_ne, hbase, hext_ne, hext⟩
      rw [← hname]
      simp
    · cases h
  · rintro ⟨base, ext, h⟩
    simpa [isFileName, h.splitOn_point] using
      And.intro (And.intro (And.intro h.base_ne_nil h.base_chars) h.ext_ne_nil)
        h.ext_chars

theorem isFilePath_iff : isFilePath field ↔ IsPath field := by
  have hcut : ∃ directories file, (dropRoot field).splitOn '/' =
      directories ++ [file] := by
    have hne := List.splitOn_ne_nil '/' (dropRoot field)
    exact ⟨_, _, (List.dropLast_append_getLast hne).symm⟩
  obtain ⟨directories, file, hcut⟩ := hcut
  have hpath : isFilePath field ↔ (∀ name ∈ directories, isDirectoryName name) ∧
      isFileName file := by
    simp [isFilePath, hcut]
  simp only [hpath, isDirectoryName_iff, isFileName_iff, IsPath, hcut]
  constructor
  · rintro ⟨hdirectories, base, ext, hfile⟩
    exact ⟨directories, base, ext, file, rfl, hdirectories, hfile⟩
  · rintro ⟨others, base, ext, last, heq, hdirectories, hfile⟩
    obtain ⟨rfl, hlast⟩ := List.append_inj' heq rfl
    obtain rfl := List.singleton_inj.mp hlast
    exact ⟨hdirectories, base, ext, hfile⟩

theorem IsAxis.not_isNumber (h : IsAxis field) : ¬ IsNumber field := by
  obtain ⟨letter, hletter, rfl⟩ := h
  rw [← isSome_read?_iff]
  simp only [List.mem_cons, List.not_mem_nil, or_false] at hletter
  rcases hletter with rfl | rfl | rfl | rfl | rfl | rfl
  all_goals decide

variable (field)

theorem classify_number_iff : classify field = .number ↔ IsNumber field := by
  rw [← isSome_read?_iff, classify]
  split_ifs <;> simp_all

theorem classify_axis_iff : classify field = .axis ↔ IsAxis field := by
  have hnumber : IsAxis field → (Numeral.read? field).isSome = false := fun h => by
    simpa using mt isSome_read?_iff.mp h.not_isNumber
  rw [← isSome_axis_iff] at hnumber ⊢
  rw [classify]
  split_ifs <;> simp_all

theorem classify_filePath_iff :
    classify field = .filePath ↔ ¬ IsNumber field ∧ ¬ IsAxis field ∧ IsPath field := by
  rw [← isSome_read?_iff, ← isSome_axis_iff, ← isFilePath_iff, classify]
  split_ifs <;> simp_all

theorem classify_identifier_iff :
    classify field = .identifier ↔ ¬ IsNumber field ∧ ¬ IsAxis field ∧
    ¬ IsPath field := by
  rw [← isSome_read?_iff, ← isSome_axis_iff, ← isFilePath_iff, classify]
  split_ifs <;> simp_all

end Script

namespace FieldKind

def language : FieldKind → Language Char
  | number => Script.number
  | axis => Script.oneOf ['x', 'y', 'z', 'X', 'Y', 'Z']
  | filePath => Script.filePath
  | identifier => Script.many (Script.single fun c => !Text.isBlank c)

def earlier : FieldKind → List FieldKind
  | number => []
  | axis => [number]
  | filePath => [number, axis]
  | identifier => [number, axis, filePath]

variable {field : List Char}

theorem mem_language_number : field ∈ number.language ↔ Script.IsNumber field :=
  Script.mem_number

theorem mem_language_axis : field ∈ axis.language ↔ Script.IsAxis field :=
  Script.mem_oneOf

theorem mem_language_filePath : field ∈ filePath.language ↔ Script.IsPath field :=
  Script.mem_filePath

theorem mem_language_identifier :
    field ∈ identifier.language ↔ field ≠ [] ∧ ∀ c ∈ field, ¬ Text.isBlank c := by
  simp [language, Script.mem_many_single]

end FieldKind

/-- The first pattern that takes a field is that of its class. -/
theorem Script.classify_eq_iff_first {field : List Char}
    (hfield : field ∈ FieldKind.identifier.language) (kind : FieldKind) :
    classify field = kind ↔ field ∈ kind.language ∧
    ∀ other ∈ kind.earlier, field ∉ other.language := by
  have hnumber : IsAxis field → ¬ IsNumber field := IsAxis.not_isNumber
  cases kind <;>
    simp only [classify_number_iff, classify_axis_iff, classify_filePath_iff,
      classify_identifier_iff, FieldKind.earlier, FieldKind.mem_language_number,
      FieldKind.mem_language_axis, FieldKind.mem_language_filePath, List.forall_mem_cons,
      List.not_mem_nil, false_imp_iff, implies_true, hfield] <;>
    tauto

end Wireframe
