import Wireframe.Proofs.Script.Concatenation

/-!
How far a reading comes. The lines in front of the place where it stops have been cut into
blocks, and all that it has read are the commands of these blocks.
-/

namespace Wireframe

namespace Reader

/-- Reading from `reader` on comes through `blocks` to `stop`. -/
structure Leads (reader : Reader) (blocks : List (List String × Command))
    (stop : Reader) : Prop where
  block : ∀ b ∈ blocks, Block b.1 b.2
  rest_eq : reader.rest = (blocks.map Prod.fst).flatten ++ stop.rest
  cursor_eq : stop.cursor = reader.cursor + (blocks.map Prod.fst).flatten.length

theorem Leads.refl (reader : Reader) : reader.Leads [] reader :=
  ⟨by simp, rfl, rfl⟩

theorem Leads.cons {reader after stop : Reader} {command : Command}
    {blocks : List (List String × Command)}
    (hnext : reader.next = (.command command, after)) (h : after.Leads blocks stop) :
    ∃ block, reader.Leads ((block, command) :: blocks) stop := by
  obtain ⟨block, hblock, hrest, hcursor⟩ := block_of_next hnext
  refine ⟨block, List.forall_mem_cons.mpr ⟨hblock, h.block⟩, ?_, ?_⟩
  · rw [hrest, h.rest_eq, List.map_cons, List.flatten_cons, List.append_assoc]
  · rw [h.cursor_eq, hcursor, List.map_cons, List.flatten_cons, List.length_append,
      Nat.add_assoc]

theorem Leads.transcript_eq {reader stop : Reader} {blocks : List (List String × Command)}
    (h : reader.Leads blocks stop) :
    reader.transcript.commands = blocks.map Prod.snd ++ stop.transcript.commands ∧
      reader.transcript.failure = stop.transcript.failure := by
  obtain ⟨hblocks, hrest, hcursor⟩ := h
  induction blocks generalizing reader with
  | nil =>
      obtain rfl : reader = stop := by
        obtain ⟨cursor, rest⟩ := reader
        obtain ⟨cursorStop, restStop⟩ := stop
        cases hrest
        cases hcursor
        rfl
      exact ⟨rfl, rfl⟩
  | cons b blocks ih =>
      obtain ⟨hblock, hblocks⟩ := List.forall_mem_cons.mp hblocks
      obtain ⟨cursor, rest⟩ := reader
      rw [List.map_cons, List.flatten_cons, List.length_append, ← Nat.add_assoc]
        at hcursor
      rw [List.map_cons, List.flatten_cons, List.append_assoc] at hrest
      obtain rfl := hrest
      obtain ⟨hcommands, hfailure⟩ := @ih ⟨cursor + b.1.length, _⟩ hblocks rfl hcursor
      rw [transcript_command (next_of_block hblock cursor _)]
      exact ⟨congrArg (b.2 :: ·) hcommands, hfailure⟩

theorem exists_leads (reader : Reader) :
    ∃ blocks stop, reader.Leads blocks stop ∧
    ∀ command after, stop.next ≠ (.command command, after) := by
  induction reader using transcript.induct with
  | case1 reader after hnext => exact ⟨[], reader, .refl reader, by simp [hnext]⟩
  | case2 reader e after hnext => exact ⟨[], reader, .refl reader, by simp [hnext]⟩
  | case3 reader command after hnext ih =>
      obtain ⟨blocks, stop, hleads, hstop⟩ := ih
      obtain ⟨block, hleads⟩ := hleads.cons hnext
      exact ⟨(block, command) :: blocks, stop, hleads, hstop⟩

theorem commands_of_stop {stop : Reader}
    (h : ∀ command after, stop.next ≠ (.command command, after)) :
    stop.transcript.commands = [] := by
  match hnext : stop.next with
  | (.finished, after) => exact congrArg Transcript.commands (transcript_finished hnext)
  | (.failed e, after) => exact congrArg Transcript.commands (transcript_failed hnext)
  | (.command command, after) => exact absurd hnext (h command after)

theorem exists_block_of_mem_commands {reader : Reader} {command : Command}
    (h : command ∈ reader.transcript.commands) : ∃ block, Block block command := by
  obtain ⟨blocks, stop, hleads, hstop⟩ := reader.exists_leads
  rw [hleads.transcript_eq.1, commands_of_stop hstop, List.append_nil] at h
  obtain ⟨b, hb, rfl⟩ := List.mem_map.mp h
  exact ⟨b.1, hleads.block b hb⟩

end Reader

end Wireframe
