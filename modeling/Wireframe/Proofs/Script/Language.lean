import Mathlib.Computability.Language
import Wireframe.Proofs.Numeral.Spelling
import Wireframe.Proofs.Script.Field

/-!
The languages of fields. A field is classified by the first of four patterns that takes
the whole of it, and what each pattern takes can be said without the pattern.
-/

namespace Wireframe.Script

open scoped Computability
open Text (isDecimalDigit)
open Numeral (AreDigits SpellsSign SpellsDigits SpellsExponent)

def single (allowed : Char → Bool) : Language Char :=
  {word | ∃ c, allowed c ∧ word = [c]}

def oneOf (chars : List Char) : Language Char :=
  single fun c => chars.contains c

def many (l : Language Char) : Language Char :=
  l * l∗

def maybe (l : Language Char) : Language Char :=
  1 + l

variable {word : List Char} {allowed : Char → Bool} {l : Language Char}

theorem mem_single : word ∈ single allowed ↔ ∃ c, allowed c ∧ word = [c] := Iff.rfl

theorem mem_oneOf {chars : List Char} : word ∈ oneOf chars ↔ ∃ c ∈ chars, word = [c] := by
  simp [oneOf, mem_single]

theorem mem_maybe : word ∈ maybe l ↔ word = [] ∨ word ∈ l := by
  rw [maybe, Language.mem_add, Language.mem_one]

theorem mem_kstar_single : word ∈ (single allowed)∗ ↔ ∀ c ∈ word, allowed c := by
  rw [Language.mem_kstar]
  constructor
  · rintro ⟨words, rfl, hwords⟩ c hc
    obtain ⟨letter, hletter, hmem⟩ := List.mem_flatten.mp hc
    obtain ⟨d, hd, rfl⟩ := hwords letter hletter
    rwa [List.mem_singleton.mp hmem]
  · intro h
    refine ⟨word.map fun c => [c], (List.flatMap_singleton' word).symm,
      fun letter hletter => ?_⟩
    obtain ⟨c, hc, rfl⟩ := List.mem_map.mp hletter
    exact ⟨c, h c hc, rfl⟩

theorem mem_many_single :
    word ∈ many (single allowed) ↔ word ≠ [] ∧ ∀ c ∈ word, allowed c := by
  rw [many, Language.mem_mul]
  constructor
  · rintro ⟨_, ⟨c, hc, rfl⟩, rest, hrest, rfl⟩
    exact ⟨by simp, List.forall_mem_cons.mpr ⟨hc, mem_kstar_single.mp hrest⟩⟩
  · rintro ⟨hne, hall⟩
    obtain ⟨c, rest, rfl⟩ := List.exists_cons_of_ne_nil hne
    obtain ⟨hc, hrest⟩ := List.forall_mem_cons.mp hall
    exact ⟨[c], ⟨c, hc, rfl⟩, rest, mem_kstar_single.mpr hrest, rfl⟩

/-! Numbers. -/

def digit : Language Char :=
  single isDecimalDigit

def sign : Language Char :=
  maybe (oneOf ['+', '-'])

def point : Language Char :=
  oneOf ['.']

/-- `[+-]?(\d+\.?\d*|\.\d+)([eE][+-]?\d+)?` -/
def number : Language Char :=
  sign * (many digit * maybe point * digit∗ + point * many digit) *
    maybe (oneOf ['e', 'E'] * sign * many digit)

theorem mem_sign : word ∈ sign ↔ ∃ negative, SpellsSign negative word := by
  rw [sign, mem_maybe, mem_oneOf]
  constructor
  · rintro (rfl | ⟨c, hc, rfl⟩)
    · exact ⟨_, .absent⟩
    · obtain rfl | rfl : c = '+' ∨ c = '-' := by simpa using hc
      · exact ⟨_, .plus⟩
      · exact ⟨_, .minus⟩
  · rintro ⟨negative, h⟩
    cases h with
    | absent => exact .inl rfl
    | plus => exact .inr ⟨'+', by simp, rfl⟩
    | minus => exact .inr ⟨'-', by simp, rfl⟩

theorem mem_point : word ∈ point ↔ word = ['.'] := by
  simp [point, mem_oneOf]

theorem mem_digits : word ∈ many digit * maybe point * digit∗ + point * many digit ↔
    ∃ whole fraction, SpellsDigits whole fraction word := by
  rw [Language.mem_add]
  constructor
  · rintro (h | h)
    · obtain ⟨_, hfront, fraction, hfraction, rfl⟩ := Language.mem_mul.mp h
      obtain ⟨whole, hwhole, dot, hdot, rfl⟩ := Language.mem_mul.mp hfront
      obtain ⟨hne, hdigits⟩ := mem_many_single.mp hwhole
      have hfraction : AreDigits fraction := mem_kstar_single.mp hfraction
      rcases mem_maybe.mp hdot with rfl | hdot
      · -- Without a point all digits are whole.
        refine ⟨whole ++ fraction, [], ?_⟩
        rw [List.append_nil]
        exact .whole (by simp [hne]) (List.forall_mem_append.mpr ⟨hdigits, hfraction⟩)
      · obtain rfl := mem_point.mp hdot
        refine ⟨whole, fraction, ?_⟩
        rw [List.append_assoc]
        exact .both hne hdigits hfraction
    · obtain ⟨dot, hdot, fraction, hfraction, rfl⟩ := Language.mem_mul.mp h
      obtain rfl := mem_point.mp hdot
      obtain ⟨hne, hdigits⟩ := mem_many_single.mp hfraction
      exact ⟨[], fraction, .fraction hne hdigits⟩
  · rintro ⟨whole, fraction, h⟩
    cases h with
    | whole hne hwhole =>
        refine .inl (Language.mem_mul.mpr ⟨word, ?_, [], Language.nil_mem_kstar _,
          by simp⟩)
        refine Language.mem_mul.mpr ⟨word, mem_many_single.mpr ⟨hne, hwhole⟩, [],
          ?_, by simp⟩
        exact mem_maybe.mpr (.inl rfl)
    | both hne hwhole hfraction =>
        refine .inl (Language.mem_mul.mpr ⟨whole ++ ['.'], ?_, fraction, ?_, by simp⟩)
        · refine Language.append_mem_mul (mem_many_single.mpr ⟨hne, hwhole⟩) ?_
          exact mem_maybe.mpr (.inr (mem_point.mpr rfl))
        · exact mem_kstar_single.mpr hfraction
    | fraction hne hfraction =>
        refine .inr (Language.mem_mul.mpr ⟨['.'], mem_point.mpr rfl, fraction, ?_, rfl⟩)
        exact mem_many_single.mpr ⟨hne, hfraction⟩

theorem mem_exponent : word ∈ maybe (oneOf ['e', 'E'] * sign * many digit) ↔
    ∃ exponent, SpellsExponent exponent word := by
  rw [mem_maybe]
  constructor
  · rintro (rfl | h)
    · exact ⟨_, .absent⟩
    · obtain ⟨_, hfront, digits, hdigits, rfl⟩ := Language.mem_mul.mp h
      obtain ⟨_, hmark, written, hsign, rfl⟩ := Language.mem_mul.mp hfront
      obtain ⟨mark, hletter, rfl⟩ := mem_oneOf.mp hmark
      obtain ⟨negative, hsign⟩ := mem_sign.mp hsign
      obtain ⟨hne, hdigits⟩ := mem_many_single.mp hdigits
      refine ⟨some ⟨negative, digits⟩, ?_⟩
      rw [List.append_assoc]
      exact .present (by simpa using hletter) hsign hne hdigits
  · rintro ⟨exponent, h⟩
    cases h with
    | absent => exact .inl rfl
    | @present mark negative written digits hmark hsign hne hdigits =>
        refine .inr (Language.mem_mul.mpr ⟨mark :: written, ?_, digits, ?_, rfl⟩)
        · refine Language.mem_mul.mpr ⟨[mark],
            mem_oneOf.mpr ⟨mark, by simpa using hmark, rfl⟩, written,
            mem_sign.mpr ⟨negative, hsign⟩, rfl⟩
        · exact mem_many_single.mpr ⟨hne, hdigits⟩

theorem mem_number : word ∈ number ↔ ∃ n : Numeral, n.Spells word := by
  constructor
  · intro h
    obtain ⟨_, hfront, exponent, hexponent, rfl⟩ := Language.mem_mul.mp h
    obtain ⟨written, hsign, digits, hdigits, rfl⟩ := Language.mem_mul.mp hfront
    obtain ⟨negative, hsign⟩ := mem_sign.mp hsign
    obtain ⟨whole, fraction, hdigits⟩ := mem_digits.mp hdigits
    obtain ⟨e, hexponent⟩ := mem_exponent.mp hexponent
    refine ⟨⟨negative, whole, fraction, e⟩, ?_⟩
    rw [List.append_assoc]
    exact .intro hsign hdigits hexponent
  · rintro ⟨n, hsign, hdigits, hexponent⟩
    rw [← List.append_assoc]
    exact Language.append_mem_mul
      (Language.append_mem_mul (mem_sign.mpr ⟨_, hsign⟩) (mem_digits.mpr ⟨_, _, hdigits⟩))
      (mem_exponent.mpr ⟨_, hexponent⟩)

/-! File paths. -/

def slash : Language Char :=
  oneOf ['/']

/-- `\./|\.\./|[A-Za-z0-9_\-.]+/` -/
def directory : Language Char :=
  point * slash + point * point * slash +
    many (single fun c => isFileNameChar c || c = '.') * slash

/-- `/?(?:…)*[A-Za-z0-9_\-]+\.[A-Za-z0-9]+` -/
def filePath : Language Char :=
  maybe slash * directory∗ *
    (many (single isFileNameChar) * point * many (single Char.isAlphanum))

structure IsDirectory (name : List Char) : Prop where
  ne_nil : name ≠ []
  chars : ∀ c ∈ name, isFileNameChar c ∨ c = '.'

/-- The name is a base and an extension around the only dot. -/
structure IsFile (base ext name : List Char) : Prop where
  name_eq : name = base ++ '.' :: ext
  base_ne_nil : base ≠ []
  base_chars : ∀ c ∈ base, isFileNameChar c
  ext_ne_nil : ext ≠ []
  ext_chars : ∀ c ∈ ext, c.isAlphanum

/-- Behind a slash at the front that may be left out, the path is cut at its slashes into
directories and a file at the end. -/
def IsPath (path : List Char) : Prop :=
  ∃ directories base ext file, (dropRoot path).splitOn '/' = directories ++ [file] ∧
    (∀ name ∈ directories, IsDirectory name) ∧ IsFile base ext file

theorem mem_slash : word ∈ slash ↔ word = ['/'] := by
  simp [slash, mem_oneOf]

theorem mem_directory :
    word ∈ directory ↔ ∃ name, IsDirectory name ∧ word = name ++ ['/'] := by
  rw [directory, Language.mem_add, Language.mem_add]
  constructor
  · rintro ((h | h) | h)
    · obtain ⟨_, hdot, _, hslash, rfl⟩ := Language.mem_mul.mp h
      obtain rfl := mem_point.mp hdot
      obtain rfl := mem_slash.mp hslash
      exact ⟨['.'], ⟨by simp, by simp⟩, rfl⟩
    · obtain ⟨_, hdots, _, hslash, rfl⟩ := Language.mem_mul.mp h
      obtain ⟨_, hfirst, _, hsecond, rfl⟩ := Language.mem_mul.mp hdots
      obtain rfl := mem_point.mp hfirst
      obtain rfl := mem_point.mp hsecond
      obtain rfl := mem_slash.mp hslash
      exact ⟨['.', '.'], ⟨by simp, by simp⟩, rfl⟩
    · obtain ⟨name, hname, _, hslash, rfl⟩ := Language.mem_mul.mp h
      obtain rfl := mem_slash.mp hslash
      obtain ⟨hne, hchars⟩ := mem_many_single.mp hname
      exact ⟨name, ⟨hne, by simpa using hchars⟩, rfl⟩
  · rintro ⟨name, ⟨hne, hchars⟩, rfl⟩
    refine .inr (Language.append_mem_mul (mem_many_single.mpr ⟨hne, ?_⟩)
      (mem_slash.mpr rfl))
    simpa using hchars

theorem mem_file :
    word ∈ many (single isFileNameChar) * point * many (single Char.isAlphanum) ↔
    ∃ base ext, IsFile base ext word := by
  constructor
  · intro h
    obtain ⟨_, hfront, ext, hext, rfl⟩ := Language.mem_mul.mp h
    obtain ⟨base, hbase, _, hdot, rfl⟩ := Language.mem_mul.mp hfront
    obtain rfl := mem_point.mp hdot
    obtain ⟨hbase_ne, hbase⟩ := mem_many_single.mp hbase
    obtain ⟨hext_ne, hext⟩ := mem_many_single.mp hext
    exact ⟨base, ext, by simp, hbase_ne, hbase, hext_ne, hext⟩
  · rintro ⟨base, ext, rfl, hbase_ne, hbase, hext_ne, hext⟩
    refine Language.mem_mul.mpr ⟨base ++ ['.'], ?_, ext,
      mem_many_single.mpr ⟨hext_ne, hext⟩, by simp⟩
    exact Language.append_mem_mul (mem_many_single.mpr ⟨hbase_ne, hbase⟩)
      (mem_point.mpr rfl)

def below (directories : List (List Char)) (file : List Char) : List Char :=
  directories.flatMap (fun name => name ++ ['/']) ++ file

theorem mem_kstar_directory : word ∈ directory∗ ↔
    ∃ names : List (List Char), (∀ name ∈ names, IsDirectory name) ∧
    word = below names [] := by
  simp only [Language.mem_kstar, below, List.append_nil]
  constructor
  · rintro ⟨words, rfl, hwords⟩
    induction words with
    | nil => exact ⟨[], by simp, rfl⟩
    | cons first words ih =>
        obtain ⟨hfirst, hrest⟩ := List.forall_mem_cons.mp hwords
        obtain ⟨name, hname, rfl⟩ := mem_directory.mp hfirst
        obtain ⟨names, hnames, heq⟩ := ih hrest
        refine ⟨name :: names, List.forall_mem_cons.mpr ⟨hname, hnames⟩, ?_⟩
        rw [List.flatten_cons, List.flatMap_cons, heq]
  · rintro ⟨names, hnames, rfl⟩
    refine ⟨names.map fun name => name ++ ['/'], rfl, fun written hwritten => ?_⟩
    obtain ⟨name, hname, rfl⟩ := List.mem_map.mp hwritten
    exact mem_directory.mpr ⟨name, hnames name hname, rfl⟩

theorem IsDirectory.slash_notMem {name : List Char} (h : IsDirectory name) : '/' ∉ name :=
  fun hmem => absurd (h.chars '/' hmem) (by decide)

theorem IsFile.slash_notMem {base ext name : List Char} (h : IsFile base ext name) :
    '/' ∉ name := by
  rw [h.name_eq, List.mem_append, List.mem_cons]
  rintro (hmem | hmem | hmem)
  · exact absurd (h.base_chars '/' hmem) (by decide)
  · exact absurd hmem (by decide)
  · exact absurd (h.ext_chars '/' hmem) (by decide)

theorem below_cons (name : List Char) (names : List (List Char)) (file : List Char) :
    below (name :: names) file = name ++ '/' :: below names file := by
  simp [below]

theorem intercalate_slash (names : List (List Char)) (file : List Char) :
    ['/'].intercalate (names ++ [file]) = below names file := by
  induction names with
  | nil => exact List.intercalate_singleton
  | cons name names ih =>
      rw [List.cons_append, List.intercalate_cons_of_ne_nil (by simp), ih, below_cons,
        List.append_assoc, List.singleton_append]

theorem splitOn_below {names : List (List Char)} {file : List Char}
    (hnames : ∀ name ∈ names, '/' ∉ name) (hfile : '/' ∉ file) :
    (below names file).splitOn '/' = names ++ [file] := by
  rw [← intercalate_slash]
  exact List.splitOn_intercalate '/'
    (List.forall_mem_append.mpr ⟨hnames, by simpa using hfile⟩) (by simp)

theorem eq_below_of_splitOn {text file : List Char} {names : List (List Char)}
    (h : text.splitOn '/' = names ++ [file]) : text = below names file := by
  rw [← intercalate_slash, ← h, List.intercalate_splitOn]

theorem head?_below {names : List (List Char)} {file : List Char}
    (hnames : ∀ name ∈ names, IsDirectory name) (hfile : '/' ∉ file) :
    '/' ∉ (below names file).head? := by
  cases names with
  | nil => exact fun hhead => hfile (List.mem_of_mem_head? hhead)
  | cons name names =>
      obtain ⟨hname, -⟩ := List.forall_mem_cons.mp hnames
      obtain ⟨c, rest, rfl⟩ := List.exists_cons_of_ne_nil hname.ne_nil
      intro hhead
      rw [below_cons] at hhead
      have hslash := hname.slash_notMem
      simp_all

theorem dropRoot_of_head? {path : List Char} (h : '/' ∉ path.head?) :
    dropRoot path = path := by
  unfold dropRoot
  split
  · exact absurd rfl h
  · rfl

theorem mem_filePath : word ∈ filePath ↔ IsPath word := by
  constructor
  · intro h
    obtain ⟨_, hfront, file, hfile, rfl⟩ := Language.mem_mul.mp h
    obtain ⟨root, hroot, _, hbelow, rfl⟩ := Language.mem_mul.mp hfront
    obtain ⟨base, ext, hfile⟩ := mem_file.mp hfile
    obtain ⟨names, hnames, rfl⟩ := mem_kstar_directory.mp hbelow
    refine ⟨names, base, ext, file, ?_, hnames, hfile⟩
    have hpath : root ++ below names [] ++ file = root ++ below names file := by
      simp [below]
    have hsplit :=
      splitOn_below (fun name hname => (hnames name hname).slash_notMem)
        hfile.slash_notMem
    rw [hpath]
    rcases mem_maybe.mp hroot with rfl | hroot
    · rwa [List.nil_append, dropRoot_of_head? (head?_below hnames hfile.slash_notMem)]
    · obtain rfl := mem_slash.mp hroot
      exact hsplit
  · rintro ⟨names, base, ext, file, hsplit, hnames, hfile⟩
    have hdrop : dropRoot word = below names file := eq_below_of_splitOn hsplit
    have hroot : ∃ root ∈ maybe slash, word = root ++ below names file := by
      unfold dropRoot at hdrop
      split at hdrop
      · exact ⟨['/'], mem_maybe.mpr (.inr (mem_slash.mpr rfl)),
          congrArg (List.cons '/') hdrop⟩
      · exact ⟨[], mem_maybe.mpr (.inl rfl), hdrop⟩
    obtain ⟨root, hroot, rfl⟩ := hroot
    have hpath : root ++ below names file = root ++ below names [] ++ file := by
      simp [below]
    rw [hpath]
    refine Language.append_mem_mul (Language.append_mem_mul hroot ?_)
      (mem_file.mpr ⟨base, ext, hfile⟩)
    exact mem_kstar_directory.mpr ⟨names, hnames, rfl⟩

end Wireframe.Script
