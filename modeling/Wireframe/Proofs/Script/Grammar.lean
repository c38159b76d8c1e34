import Wireframe.Proofs.Script.Field
import Wireframe.Proofs.Script.Transcript

/-!
The grammar of scripts. A script is cut from the front into blocks of one or two lines,
each of which stands for a command; reading a script finishes exactly when it can be cut,
and then gives the commands of the cut.
-/

namespace Wireframe

/-- The fields that a keyword takes, and the command that they make. -/
inductive Arguments : ArgumentKeyword → List Field → Command → Prop
  | line {x₀ y₀ z₀ x₁ y₁ z₁ : Field}
      (hnumbers : ∀ field ∈ [x₀, y₀, z₀, x₁, y₁, z₁], field.IsAsciiNumber) :
      Arguments .line [x₀, y₀, z₀, x₁, y₁, z₁]
        (.line ⟨x₀.value, y₀.value, z₀.value⟩ ⟨x₁.value, y₁.value, z₁.value⟩)
  | scale {x y z : Field} (hnumbers : ∀ field ∈ [x, y, z], field.IsAsciiNumber) :
      Arguments .scale [x, y, z] (.scale ⟨x.value, y.value, z.value⟩)
  | move {x y z : Field} (hnumbers : ∀ field ∈ [x, y, z], field.IsAsciiNumber) :
      Arguments .move [x, y, z] (.move ⟨x.value, y.value, z.value⟩)
  | rotate {axis : Axis} {letter : Char} {degrees : Field}
      (hletter : letter ∈ axis.letters) (hdegrees : degrees.IsAsciiNumber) :
      Arguments .rotate [⟨[letter]⟩, degrees] (.rotate axis degrees.value)
  | save {path : Field} (hpath : path.kind = .filePath) :
      Arguments .save [path] (.save path.text)

inductive Block : List String → Command → Prop
  | bare {line : String} {keyword : BareKeyword}
      (hline : Script.content line = keyword.name) :
      Block [line] keyword.command
  | argument {first second : String} {keyword : ArgumentKeyword} {command : Command}
      (hfirst : Script.content first = keyword.name)
      (hsecond : Arguments keyword (Field.ofLine second) command) :
      Block [first, second] command

/-- A way to cut lines into blocks, with the command of each block. -/
structure Cut (lines : List String) (blocks : List (List String × Command)) : Prop where
  flatten_eq : (blocks.map Prod.fst).flatten = lines
  block : ∀ b ∈ blocks, Block b.1 b.2

private theorem bind_eq_ok_iff {ε α β : Type} {x : Except ε α} {f : α → Except ε β}
    {b : β} :
    (x >>= f) = .ok b ↔ ∃ a, x = .ok a ∧ f a = .ok b := by
  cases x <;> simp [bind, Except.bind]

private theorem return_eq_ok_iff {ε α : Type} {a b : α} :
    (return a : Except ε α) = .ok b ↔ b = a := by
  simp [pure, Except.pure, eq_comm]

namespace ArgumentKeyword

theorem triple_eq_ok_iff {x y z : Field} {t : Triple} :
    triple x y z = .ok t ↔
      (∀ field ∈ [x, y, z], field.IsAsciiNumber) ∧ t = ⟨x.value, y.value, z.value⟩ := by
  simp only [triple, bind_eq_ok_iff, return_eq_ok_iff, Field.number_eq_ok_iff]
  constructor
  · rintro ⟨_, ⟨hx, rfl⟩, _, ⟨hy, rfl⟩, _, ⟨hz, rfl⟩, rfl⟩
    exact ⟨by simp [hx, hy, hz], rfl⟩
  · rintro ⟨hnumbers, rfl⟩
    exact ⟨_, ⟨hnumbers x (by simp), rfl⟩, _, ⟨hnumbers y (by simp), rfl⟩, _,
      ⟨hnumbers z (by simp), rfl⟩, rfl⟩

theorem arguments_of_command {keyword : ArgumentKeyword} {fields : List Field}
    {command : Command} (h : keyword.command fields = .ok command) :
    Arguments keyword fields command := by
  unfold ArgumentKeyword.command at h
  split at h
  · simp only [bind_eq_ok_iff, return_eq_ok_iff, triple_eq_ok_iff] at h
    obtain ⟨_, ⟨hstart, rfl⟩, _, ⟨hfinish, rfl⟩, rfl⟩ := h
    exact .line (List.forall_mem_append.mpr ⟨hstart, hfinish⟩)
  · simp only [bind_eq_ok_iff, return_eq_ok_iff, triple_eq_ok_iff] at h
    obtain ⟨_, ⟨hfactors, rfl⟩, rfl⟩ := h
    exact .scale hfactors
  · simp only [bind_eq_ok_iff, return_eq_ok_iff, triple_eq_ok_iff] at h
    obtain ⟨_, ⟨hoffset, rfl⟩, rfl⟩ := h
    exact .move hoffset
  · simp only [bind_eq_ok_iff, return_eq_ok_iff, Field.axis_eq_ok_iff,
      Field.number_eq_ok_iff] at h
    obtain ⟨_, ⟨letter, hletter, rfl⟩, _, ⟨hdegrees, rfl⟩, rfl⟩ := h
    exact .rotate hletter hdegrees
  · simp only [bind_eq_ok_iff, return_eq_ok_iff, Field.filePath_eq_ok_iff] at h
    obtain ⟨_, ⟨hpath, rfl⟩, rfl⟩ := h
    exact .save hpath
  · cases h

theorem command_of_arguments {keyword : ArgumentKeyword} {fields : List Field}
    {command : Command} (h : Arguments keyword fields command) :
    keyword.command fields = .ok command := by
  cases h with
  | line hnumbers =>
      rename_i x₀ y₀ z₀ x₁ y₁ z₁
      obtain ⟨hstart, hfinish⟩ := List.forall_mem_append.mp
        (show ∀ field ∈ [x₀, y₀, z₀] ++ [x₁, y₁, z₁], field.IsAsciiNumber from hnumbers)
      simp only [ArgumentKeyword.command, bind_eq_ok_iff, return_eq_ok_iff,
        triple_eq_ok_iff]
      exact ⟨_, ⟨hstart, rfl⟩, _, ⟨hfinish, rfl⟩, rfl⟩
  | scale hnumbers =>
      simp only [ArgumentKeyword.command, bind_eq_ok_iff, return_eq_ok_iff,
        triple_eq_ok_iff]
      exact ⟨_, ⟨hnumbers, rfl⟩, rfl⟩
  | move hnumbers =>
      simp only [ArgumentKeyword.command, bind_eq_ok_iff, return_eq_ok_iff,
        triple_eq_ok_iff]
      exact ⟨_, ⟨hnumbers, rfl⟩, rfl⟩
  | rotate hletter hdegrees =>
      simp only [ArgumentKeyword.command, bind_eq_ok_iff, return_eq_ok_iff,
        Field.axis_eq_ok_iff, Field.number_eq_ok_iff]
      exact ⟨_, ⟨_, hletter, rfl⟩, _, ⟨hdegrees, rfl⟩, rfl⟩
  | save hpath =>
      simp only [ArgumentKeyword.command, bind_eq_ok_iff, return_eq_ok_iff,
        Field.filePath_eq_ok_iff]
      exact ⟨_, ⟨hpath, rfl⟩, rfl⟩

theorem command_eq_ok_iff {keyword : ArgumentKeyword} {fields : List Field}
    {command : Command} :
    keyword.command fields = .ok command ↔ Arguments keyword fields command :=
  ⟨arguments_of_command, command_of_arguments⟩

end ArgumentKeyword

namespace Reader

variable {reader after : Reader} {command : Command}

theorem readArguments_eq_command_iff {keyword : ArgumentKeyword} :
    reader.readArguments keyword = (.command command, after) ↔
      ∃ line, Arguments keyword (Field.ofLine line) command ∧
        reader.rest = line :: after.rest ∧ after.cursor = reader.cursor + 1 := by
  obtain ⟨cursor, rest⟩ := reader
  obtain ⟨cursorAfter, restAfter⟩ := after
  cases rest with
  | nil => simp [readArguments]
  | cons line rest =>
      simp only [readArguments, Field.ofLine_content, ← ArgumentKeyword.command_eq_ok_iff]
      cases hcommand : keyword.command (Field.ofLine line) with
      | error reason => simp; grind
      | ok made => simp; grind

theorem block_of_next (h : reader.next = (.command command, after)) :
    ∃ block, Block block command ∧ reader.rest = block ++ after.rest ∧
      after.cursor = reader.cursor + block.length := by
  obtain ⟨cursor, rest⟩ := reader
  cases rest with
  | nil => simp at h
  | cons line rest =>
      cases hkeyword : Keyword.ofText? (Script.content line) with
      | none => simp [next_of_none hkeyword] at h
      | some keyword =>
          have hname := (Keyword.name_of_ofText? hkeyword).symm
          cases keyword with
          | bare keyword =>
              rw [next_of_bare hname] at h
              cases h
              exact ⟨[line], .bare hname, rfl, rfl⟩
          | argument keyword =>
              rw [next_of_argument hname, readArguments_eq_command_iff] at h
              obtain ⟨second, hsecond, hrest, hcursor⟩ := h
              refine ⟨[line, second], .argument hname hsecond, ?_, hcursor⟩
              exact congrArg (line :: ·) hrest

theorem next_of_block {block : List String} (h : Block block command) (cursor : Nat)
    (rest : List String) :
    next ⟨cursor, block ++ rest⟩ = (.command command, ⟨cursor + block.length, rest⟩) := by
  cases h with
  | bare hline => exact next_of_bare hline
  | argument hfirst hsecond =>
      refine (next_of_argument hfirst).trans ?_
      exact readArguments_eq_command_iff.mpr ⟨_, hsecond, rfl, rfl⟩

/-! A whole reading, from one block to the next. -/

theorem exists_cut_of_transcript (reader : Reader)
    (h : reader.transcript.failure = none) :
    ∃ blocks, Cut reader.rest blocks := by
  induction reader using transcript.induct with
  | case1 reader after hnext =>
      refine ⟨[], ?_, by simp⟩
      unfold next readArguments at hnext
      grind
  | case2 reader e after hnext => simp [transcript_failed hnext] at h
  | case3 reader command after hnext ih =>
      obtain ⟨block, hblock, hrest, -⟩ := block_of_next hnext
      obtain ⟨blocks, hcut⟩ := ih (by simpa [transcript_command hnext] using h)
      refine ⟨(block, command) :: blocks, ?_, ?_⟩
      · simp [hrest, hcut.flatten_eq]
      · exact List.forall_mem_cons.mpr ⟨hblock, hcut.block⟩

theorem transcript_of_cut {lines : List String} {blocks : List (List String × Command)}
    (h : Cut lines blocks) (cursor : Nat) :
    (transcript ⟨cursor, lines⟩).failure = none ∧
      (transcript ⟨cursor, lines⟩).commands = blocks.map Prod.snd ∧
        (transcript ⟨cursor, lines⟩).cursor = cursor + lines.length := by
  obtain ⟨rfl, hblocks⟩ := h
  induction blocks generalizing cursor with
  | nil =>
      rw [List.map_nil, List.flatten_nil, transcript_finished (next_nil cursor)]
      exact ⟨rfl, rfl, rfl⟩
  | cons b blocks ih =>
      obtain ⟨hblock, hblocks⟩ := List.forall_mem_cons.mp hblocks
      obtain ⟨hfailure, hcommands, hcursor⟩ := ih (cursor + b.1.length) hblocks
      rw [List.map_cons, List.flatten_cons,
        transcript_command (next_of_block hblock cursor _)]
      refine ⟨hfailure, by simp [hcommands], ?_⟩
      rw [Transcript.cursor_prepend, hcursor, List.length_append, Nat.add_assoc]

end Reader

theorem Block.ne_nil {block : List String} {command : Command} (h : Block block command) :
    block ≠ [] := by
  cases h <;> simp

theorem Block.iff_next {block : List String} {command : Command} :
    Block block command ↔ Reader.next ⟨0, block⟩ =
      (.command command, ⟨block.length, []⟩) := by
  constructor
  · intro h
    have hnext := Reader.next_of_block h 0 []
    rwa [List.append_nil, Nat.zero_add] at hnext
  · intro h
    obtain ⟨front, hfront, hblock, -⟩ := Reader.block_of_next h
    obtain rfl : block = front := hblock.trans (List.append_nil front)
    exact hfront

instance (block : List String) (command : Command) : Decidable (Block block command) :=
  decidable_of_iff _ Block.iff_next.symm

instance (lines : List String) (blocks : List (List String × Command)) :
    Decidable (Cut lines blocks) :=
  decidable_of_iff ((blocks.map Prod.fst).flatten = lines ∧ ∀ b ∈ blocks, Block b.1 b.2)
    ⟨fun h => ⟨h.1, h.2⟩, fun h => ⟨h.flatten_eq, h.block⟩⟩

theorem Block.unique {block other rest otherRest : List String}
    {command otherCommand : Command} (h : Block block command)
    (hother : Block other otherCommand) (heq : block ++ rest = other ++ otherRest) :
    block = other ∧ command = otherCommand ∧ rest = otherRest := by
  have hnext := Reader.next_of_block h 0 rest
  rw [heq, Reader.next_of_block hother 0 otherRest] at hnext
  obtain ⟨hcommand, hlength, hrest⟩ := by simpa using hnext
  exact ⟨List.append_inj_left heq hlength.symm, hcommand.symm, hrest.symm⟩

theorem Cut.unique {lines : List String} {blocks others : List (List String × Command)}
    (h : Cut lines blocks) (hothers : Cut lines others) : blocks = others := by
  induction blocks generalizing lines others with
  | nil =>
      cases others with
      | nil => rfl
      | cons other others =>
          have hnil := h.flatten_eq.trans hothers.flatten_eq.symm
          simp [(hothers.block other (by simp)).ne_nil] at hnil
  | cons b blocks ih =>
      cases others with
      | nil =>
          have hnil := hothers.flatten_eq.trans h.flatten_eq.symm
          simp [(h.block b (by simp)).ne_nil] at hnil
      | cons other others =>
          obtain ⟨hblock, hblocks⟩ := List.forall_mem_cons.mp h.block
          obtain ⟨hother, hrest⟩ := List.forall_mem_cons.mp hothers.block
          obtain ⟨hfirst, hsecond, hlines⟩ :=
            hblock.unique hother (h.flatten_eq.trans hothers.flatten_eq.symm)
          rw [Prod.ext hfirst hsecond, ih ⟨hlines, hblocks⟩ ⟨rfl, hrest⟩]

/-- Reading a script comes to its end without an error exactly when the script can be cut
into blocks. There is one way to cut it, the commands read are those of the blocks, and
all lines have been taken. -/
theorem transcript_accepts_iff_cut (lines : List String) :
    let t := (Reader.ofLines lines).transcript
    (t.failure = none ↔ ∃ blocks, Cut lines blocks) ∧
      ∀ blocks, Cut lines blocks →
        (∀ others, Cut lines others → others = blocks) ∧
          t.commands = blocks.map Prod.snd ∧ t.cursor = lines.length := by
  refine ⟨⟨Reader.exists_cut_of_transcript _, ?_⟩, ?_⟩
  · rintro ⟨blocks, hcut⟩
    exact (Reader.transcript_of_cut hcut 0).1
  · intro blocks hcut
    obtain ⟨-, hcommands, hcursor⟩ := Reader.transcript_of_cut hcut 0
    refine ⟨fun others hothers => hothers.unique hcut, hcommands, ?_⟩
    simpa [Reader.ofLines] using hcursor

theorem transcript_accepts_three_blocks :
    let t :=
      (Reader.ofLines [" save\t", "/tmp/line.x", "rotate", " Z  9e1", "ident"]).transcript
    t.failure = none ∧ t.commands = [.save "/tmp/line.x", .rotate .z 90, .ident] ∧
    t.cursor = 5 := by
  let path : Field := ⟨"/tmp/line.x".toList⟩
  let degrees : Field := ⟨['9', 'e', '1']⟩
  have hsave : Block [" save\t", "/tmp/line.x"] (.save path.text) :=
    .argument (show Script.content " save\t" = ArgumentKeyword.save.name by decide)
      (.save (by decide))
  have hascii : ∀ c ∈ degrees.word, Text.isDecimalDigit c → c.isDigit := by
    simp only [degrees, List.forall_mem_cons, List.not_mem_nil, false_imp_iff,
      implies_true]
    decide
  have hrotate : Block ["rotate", " Z  9e1"] (.rotate .z degrees.value) :=
    .argument (show Script.content "rotate" = ArgumentKeyword.rotate.name by decide)
      (.rotate (show 'Z' ∈ Axis.z.letters by decide) ⟨by decide, hascii⟩)
  have hident : Block ["ident"] .ident :=
    .bare (show Script.content "ident" = BareKeyword.ident.name by decide)
  have hcut : Cut [" save\t", "/tmp/line.x", "rotate", " Z  9e1", "ident"]
      [([" save\t", "/tmp/line.x"], .save path.text),
        (["rotate", " Z  9e1"], .rotate .z degrees.value), (["ident"], .ident)] :=
    ⟨rfl, by simp [hsave, hrotate, hident]⟩
  have hdegrees : degrees.value = 90 := by decide +kernel
  obtain ⟨haccepts, hread⟩ := transcript_accepts_iff_cut _
  obtain ⟨-, hcommands, hcursor⟩ := hread _ hcut
  exact ⟨haccepts.mpr ⟨_, hcut⟩, hdegrees ▸ hcommands, hcursor⟩

end Wireframe
