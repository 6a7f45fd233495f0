import ParallelCorpus.Proofs.LineStructure
import ParallelCorpus.Stream.Input

/-!
# Reading lines into a buffer

Lines are read into a buffer that the caller hands over with every call, whatever it
still holds.  The calls give the lines of the text one after the other and then find
nothing, however often they are repeated.  The lines are the only ones that the text can
be cut into, and those that are still to be read can be counted at any time.
-/

namespace ParallelCorpus

namespace Text

/-! ## The only cut into lines -/

/-- A text cut into lines, all of them terminated but perhaps the last. -/
structure CutInto (content : Bytes) (pieces : List Bytes) : Prop where
  whole : pieces.flatten = content
  line : ∀ piece ∈ pieces, IsLine piece
  terminated : ∀ piece ∈ pieces.dropLast, Terminated piece

theorem cutInto_iff {content : Bytes} {pieces : List Bytes} :
    CutInto content pieces ↔ pieces = lines content := by
  constructor
  · rintro ⟨rfl, hlines, hends⟩
    exact (lines_flatten_of_terminated hlines hends).symm
  · rintro rfl
    exact ⟨flatten_lines content, fun _ => isLine_of_mem_lines,
      fun _ => terminated_of_mem_dropLast_lines⟩

/-- Every line feed ends a line, and so does the end of a text that does not end with
one. -/
theorem length_lines (content : Bytes) :
    (lines content).length = content.count lineFeed +
      if content = [] ∨ content.getLast? = some lineFeed then 0 else 1 := by
  induction content with
  | nil => rfl
  | cons byte content ih =>
      rw [lines_cons]
      by_cases hcontent : content = []
      · subst hcontent
        by_cases hbyte : byte = lineFeed <;> simp [prependByte, hbyte]
      · obtain ⟨first, others, hlines⟩ :=
          List.exists_cons_of_ne_nil fun hnil => hcontent (lines_eq_nil_iff.1 hnil)
        have hne : byte :: content ≠ [] := List.cons_ne_nil byte content
        have hlast : (byte :: content).getLast? = content.getLast? :=
          List.getLast?_cons_of_ne_nil hcontent
        rw [hlines] at ih ⊢
        simp only [hcontent, hne, hlast, false_or] at ih ⊢
        by_cases hbyte : byte = lineFeed
        · rw [hbyte, prependByte_lineFeed, List.length_cons, ih, List.count_cons_self]
          omega
        · rw [prependByte_of_ne hbyte, List.count_cons_of_ne hbyte, ← ih]
          rfl

/-! ## One call -/

/-- Adds a text to a buffer up to the first byte of a kind, that byte included, or up to
the end.  Gives the number of bytes that were added, the buffer and the rest of the
text. -/
def readUntil (stop : UInt8) : Bytes → Bytes → Nat × Bytes × Bytes
  | [], buffer => (0, buffer, [])
  | byte :: rest, buffer =>
    if byte == stop then (1, buffer ++ [byte], rest)
    else
      let (count, buffer, rest) := readUntil stop rest (buffer ++ [byte])
      (count + 1, buffer, rest)

theorem readUntil_lineFeed (text buffer : Bytes) :
    readUntil lineFeed text buffer =
      ((cutLine text).1.length, buffer ++ (cutLine text).1, (cutLine text).2) := by
  induction text generalizing buffer with
  | nil => simp [readUntil, cutLine]
  | cons byte rest ih =>
      rw [readUntil, cutLine_cons, ih]
      split <;> simp

end Text

namespace Input

open Text (Bytes cutLine lineFeed lines readUntil readUntil_lineFeed)

/-- Reads the next line into a buffer, which is emptied first.  Tells whether there was
one, what the buffer holds then and what is still to be read. -/
def nextLine : Input → Bytes → Except FileFault (Bool × Bytes × Input)
  | text rest, buffer =>
    let emptied := buffer.take 0
    let (count, buffer, behind) := readUntil lineFeed rest emptied
    .ok (decide (0 < count), buffer, .text behind)
  | failing rest fault, buffer =>
    let emptied := buffer.take 0
    let (_, buffer, behind) := readUntil lineFeed rest emptied
    if buffer.getLast? = some lineFeed then .ok (true, buffer, .failing behind fault)
    else .error fault

/-- Reading into a buffer reads the next line, whatever the buffer holds. -/
theorem nextLine_eq (input : Input) (buffer : Bytes) :
    input.nextLine buffer = input.next?.map fun
      | none => (false, [], input)
      | some (line, behind) => (true, line, behind) := by
  match input with
  | failing rest fault =>
      rw [nextLine, next?, readUntil_lineFeed]
      simp only [List.take_zero, List.nil_append]
      by_cases hends : (cutLine rest).1.getLast? = some lineFeed
      · simp only [hends, if_true]
        rfl
      · simp only [hends, if_false]
        rfl
  | text [] => rfl
  | text (byte :: rest) =>
      have hne : byte :: rest ≠ [] := List.cons_ne_nil byte rest
      have hlength : 0 < (cutLine (byte :: rest)).1.length := by
        have hshorter := Text.length_cutLine_lt hne
        have hwhole := congrArg List.length (Text.cutLine_append (byte :: rest))
        rw [List.length_append] at hwhole
        omega
      rw [nextLine, next?_text hne, readUntil_lineFeed]
      simp [Except.map, hlength]

theorem nextLine_nil (buffer : Bytes) :
    (text []).nextLine buffer = .ok (false, [], .text []) := rfl

theorem nextLine_text {rest : Bytes} (hrest : rest ≠ []) (buffer : Bytes) :
    (text rest).nextLine buffer =
      .ok (true, (cutLine rest).1, .text (cutLine rest).2) := by
  rw [nextLine_eq, next?_text hrest]
  rfl

/-! ## Calls in a row -/

theorem size_lt_of_nextLine {input behind : Input} {buffer line : Bytes}
    (call : input.nextLine buffer = .ok (true, line, behind)) :
    behind.size < input.size := by
  rw [nextLine_eq] at call
  cases hread : input.next? with
  | error fault =>
      rw [hread] at call
      cases call
  | ok next =>
      rw [hread] at call
      cases next with
      | none => cases call
      | some next =>
          cases call
          exact size_lt_of_next hread

/-- Reads into one buffer until there is no line any more.  Gives what the buffer held
after each call, what it holds after the last one, and what is still to be read then. -/
def drain (input : Input) (buffer : Bytes) :
    Except FileFault (List Bytes × Bytes × Input) :=
  match _ : input.nextLine buffer with
  | .error fault => .error fault
  | .ok (false, buffer, behind) => .ok ([], buffer, behind)
  | .ok (true, line, behind) =>
    (behind.drain line).map fun (lines, last) => (line :: lines, last)
termination_by input.size
decreasing_by exact size_lt_of_nextLine (by assumption)

/-- Draining goes through the lines of the text. -/
theorem drain_text (content buffer : Bytes) :
    (text content).drain buffer = .ok (lines content, [], .text []) := by
  by_cases hcontent : content = []
  · subst hcontent
    rw [drain]
    rfl
  · have hcall := nextLine_text hcontent buffer
    rw [drain]
    split
    · rename_i hfault
      cases hcall.symm.trans hfault
    · rename_i hend
      cases hcall.symm.trans hend
    · rename_i hline
      cases hcall.symm.trans hline
      rw [drain_text (cutLine content).2, Text.lines_eq_cutLine hcontent]
      rfl
termination_by content.length
decreasing_by exact Text.length_cutLine_lt hcontent

/-- Counting what is left is one such call and counting what is left then. -/
theorem countLines_of_nextLine (input : Input) (buffer : Bytes) :
    input.countLines =
      match input.nextLine buffer with
      | .error fault => .error fault
      | .ok (false, _, _) => .ok 0
      | .ok (true, _, behind) => behind.countLines.map (· + 1) := by
  rw [nextLine_eq, countLines]
  split <;> simp [Except.map, *]

/-- The lines that are counted are those that draining goes through, whatever the
buffer. -/
theorem countLines_eq_drain (input : Input) (buffer : Bytes) :
    input.countLines = (input.drain buffer).map fun (lines, _) => lines.length := by
  fun_induction drain input buffer with
  | case1 input buffer fault hcall =>
      rw [countLines_of_nextLine input buffer, hcall]
      rfl
  | case2 input buffer held behind hcall =>
      rw [countLines_of_nextLine input buffer, hcall]
      rfl
  | case3 input buffer line behind hcall ih =>
      rw [countLines_of_nextLine input buffer, hcall]
      simp only [ih]
      cases behind.drain line <;> rfl

/-- One call after the other, each with a buffer of its own.  Gives for each call
whether it found a line and what its buffer holds then, and what is still to be read
after the last. -/
def calls (input : Input) : List Bytes → Except FileFault (List (Bool × Bytes) × Input)
  | [] => .ok ([], input)
  | buffer :: buffers =>
    match input.nextLine buffer with
    | .error fault => .error fault
    | .ok (found, held, behind) =>
      (behind.calls buffers).map fun (answers, last) => ((found, held) :: answers, last)

/-- Each call finds the line whose turn it is, and nothing behind the last. -/
theorem calls_text (content : Bytes) (buffers : List Bytes) :
    ∃ rest, (text content).calls buffers =
        .ok ((List.range buffers.length).map fun place =>
          ((lines content)[place]?.isSome, (lines content)[place]?.getD []), .text rest) ∧
      lines rest = (lines content).drop buffers.length := by
  induction buffers generalizing content with
  | nil => exact ⟨content, rfl, rfl⟩
  | cons buffer buffers ih =>
      rw [List.length_cons, List.range_succ_eq_map, List.map_cons, List.map_map]
      by_cases hcontent : content = []
      · subst hcontent
        obtain ⟨rest, hcalls, hrest⟩ := ih []
        refine ⟨rest, ?_, by simpa using hrest⟩
        simp only [calls, nextLine_nil, hcalls]
        simp [Except.map, Function.comp_def]
      · obtain ⟨rest, hcalls, hrest⟩ := ih (cutLine content).2
        have hlines := Text.lines_eq_cutLine hcontent
        refine ⟨rest, ?_, by rw [hrest, hlines, List.drop_succ_cons]⟩
        simp only [calls, nextLine_text hcontent, hcalls, hlines]
        simp [Except.map, Function.comp_def]

/-- Reading a text line by line cuts it into its lines, and there is no other way to cut
it.  Calls that share one buffer come to an end, and leave the buffer empty.  Whatever
buffers they are given, each finds the line whose turn it is and leaves exactly that in
the buffer; behind the last line a call finds nothing, and leaves nothing.  After any
number of calls the lines that are left are those of the text but for as many; there are
as many lines as line feeds, and one more where the text does not end with one. -/
theorem nextLine_cuts (content : Bytes) :
    (∀ buffer, (text content).drain buffer = .ok (lines content, [], .text [])) ∧
    (∀ pieces, Text.CutInto content pieces ↔ pieces = lines content) ∧
    ∀ buffers, ∃ behind,
      (text content).calls buffers =
        .ok ((List.range buffers.length).map fun place =>
          ((lines content)[place]?.isSome, (lines content)[place]?.getD []), behind) ∧
      behind.countLines = .ok (content.count lineFeed +
        (if content = [] ∨ content.getLast? = some lineFeed then 0 else 1) -
          buffers.length) := by
  refine ⟨drain_text content, fun pieces => Text.cutInto_iff, ?_⟩
  intro buffers
  obtain ⟨rest, hcalls, hrest⟩ := calls_text content buffers
  have hcount : (text rest).countLines = .ok (lines rest).length := by
    rw [countLines_eq_drain _ [], drain_text]
    rfl
  refine ⟨.text rest, hcalls, ?_⟩
  rw [hcount, hrest, List.length_drop, Text.length_lines]

example : (text [0x61, 0x0A, 0x62]).calls [[], [0x61, 0x0A], [0x63], [0x64]] =
    .ok ([(true, [0x61, 0x0A]), (true, [0x62]), (false, []), (false, [])], .text []) := by
  rfl

end Input
end ParallelCorpus
