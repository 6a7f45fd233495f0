import ParallelCorpus.Text.Line

/-!
# The line structure of a text

A line is a non-empty byte string without a line feed before its last byte.  The lines
of a text are of this kind, and all but the last are terminated.  Conversely a sequence
of lines can be read back from the text that they make exactly when all but the last are
terminated: an unterminated line runs into the one behind it.
-/

namespace ParallelCorpus.Text

/-- A byte string that is read in one go. -/
def IsLine (line : Bytes) : Prop :=
  line ≠ [] ∧ lineFeed ∉ line.dropLast

instance (line : Bytes) : Decidable (IsLine line) :=
  inferInstanceAs (Decidable (_ ∧ _))

def Terminated (line : Bytes) : Prop :=
  line.getLast? = some lineFeed

instance (line : Bytes) : Decidable (Terminated line) :=
  inferInstanceAs (Decidable (_ = _))

theorem isLine_singleton (byte : UInt8) : IsLine [byte] := by
  simp [IsLine]

theorem isLine_cons {byte : UInt8} {line : Bytes} (hline : line ≠ []) :
    IsLine (byte :: line) ↔ byte ≠ lineFeed ∧ IsLine line := by
  simp [IsLine, List.dropLast_cons_of_ne_nil hline, hline, eq_comm]

theorem terminated_cons {byte : UInt8} {line : Bytes} (hline : line ≠ []) :
    Terminated (byte :: line) ↔ Terminated line := by
  obtain ⟨head, tail, rfl⟩ := List.exists_cons_of_ne_nil hline
  rw [Terminated, List.getLast?_cons_cons, Terminated]

theorem prependByte_lineFeed (rest : List Bytes) :
    prependByte lineFeed rest = [lineFeed] :: rest := by
  cases rest <;> rfl

theorem prependByte_of_ne {byte : UInt8} (hbyte : byte ≠ lineFeed) (line : Bytes)
    (rest : List Bytes) : prependByte byte (line :: rest) = (byte :: line) :: rest := by
  simp [prependByte, hbyte]

/-- Every piece that a text is cut into is a line. -/
theorem isLine_of_mem_lines {text line : Bytes} (hline : line ∈ lines text) :
    IsLine line := by
  induction text generalizing line with
  | nil => simp at hline
  | cons byte text ih =>
      rw [lines_cons] at hline
      by_cases hbyte : byte = lineFeed
      · rw [hbyte, prependByte_lineFeed, List.mem_cons] at hline
        rcases hline with rfl | hline
        · exact isLine_singleton lineFeed
        · exact ih hline
      cases hrest : lines text with
      | nil =>
          rw [hrest, prependByte, List.mem_singleton] at hline
          rw [hline]
          exact isLine_singleton byte
      | cons first rest =>
          rw [hrest, prependByte_of_ne hbyte, List.mem_cons] at hline
          rw [hrest] at ih
          rcases hline with rfl | hline
          · have hfirst := ih List.mem_cons_self
            exact (isLine_cons hfirst.1).2 ⟨hbyte, hfirst⟩
          · exact ih (List.mem_cons_of_mem first hline)

/-- Only the last line of a text can lack its terminator. -/
theorem terminated_of_mem_dropLast_lines {text line : Bytes}
    (hline : line ∈ (lines text).dropLast) : Terminated line := by
  induction text generalizing line with
  | nil => simp at hline
  | cons byte text ih =>
      rw [lines_cons] at hline
      cases hrest : lines text with
      | nil => simp [hrest, prependByte] at hline
      | cons first rest =>
          rw [hrest] at hline ih
          by_cases hbyte : byte = lineFeed
          · rw [hbyte, prependByte_lineFeed, List.dropLast_cons_of_ne_nil (by simp),
              List.mem_cons] at hline
            rcases hline with rfl | hline
            · rfl
            · exact ih hline
          rw [prependByte_of_ne hbyte] at hline
          cases rest with
          | nil => simp at hline
          | cons second others =>
              rw [List.dropLast_cons_of_ne_nil (by simp), List.mem_cons] at hline
              rw [List.dropLast_cons_of_ne_nil (by simp)] at ih
              rcases hline with rfl | hline
              · have hfirst : Terminated first := ih List.mem_cons_self
                have hmem : first ∈ lines text := hrest ▸ List.mem_cons_self
                exact (terminated_cons (isLine_of_mem_lines hmem).1).2 hfirst
              · exact ih (List.mem_cons_of_mem first hline)

/-- All but the last of a list are of a kind exactly when whatever has another behind it
is. -/
theorem pairwise_iff_dropLast {α : Type} {kind : α → Prop} {items : List α} :
    (items.Pairwise fun item _ => kind item) ↔ ∀ item ∈ items.dropLast, kind item := by
  induction items with
  | nil => simp
  | cons item rest ih =>
      by_cases hrest : rest = []
      · simp [hrest]
      · have hbehind : (∀ other ∈ rest, kind item) ↔ kind item := by
          obtain ⟨other, hother⟩ := List.exists_mem_of_ne_nil rest hrest
          exact ⟨fun hkind => hkind other hother, fun hkind _ _ => hkind⟩
        rw [List.pairwise_cons, hbehind, ih, List.dropLast_cons_of_ne_nil hrest,
          List.forall_mem_cons]

/-- A line with another behind it is terminated. -/
theorem pairwise_lines (text : Bytes) :
    (lines text).Pairwise fun line _ => Terminated line :=
  pairwise_iff_dropLast.2 fun _ => terminated_of_mem_dropLast_lines

/-- A terminated line is read back in front of any text. -/
theorem lines_append_terminated {line : Bytes} (hline : IsLine line)
    (hends : Terminated line) (text : Bytes) :
    lines (line ++ text) = line :: lines text := by
  induction line with
  | nil => exact absurd rfl hline.1
  | cons byte rest ih =>
      by_cases hrest : rest = []
      · subst hrest
        have hbyte : byte = lineFeed := by simpa [Terminated] using hends
        rw [hbyte, List.singleton_append, lines_cons, prependByte_lineFeed]
      · obtain ⟨hbyte, hinner⟩ := (isLine_cons hrest).1 hline
        rw [List.cons_append, lines_cons, ih hinner ((terminated_cons hrest).1 hends),
          prependByte_of_ne hbyte]

/-- An unterminated line runs into the first line of the text behind it. -/
theorem lines_append_unterminated {line : Bytes} (hline : IsLine line)
    (hopen : ¬Terminated line) {text : Bytes} (htext : text ≠ []) :
    lines (line ++ text) = (line ++ (cutLine text).1) :: lines (cutLine text).2 := by
  induction line with
  | nil => exact absurd rfl hline.1
  | cons byte rest ih =>
      by_cases hrest : rest = []
      · subst hrest
        have hbyte : byte ≠ lineFeed := by simpa [Terminated] using hopen
        rw [List.singleton_append, lines_cons, lines_eq_cutLine htext,
          prependByte_of_ne hbyte]
        rfl
      · obtain ⟨hbyte, hinner⟩ := (isLine_cons hrest).1 hline
        rw [List.cons_append, lines_cons,
          ih hinner (fun hends => hopen ((terminated_cons hrest).2 hends)),
          prependByte_of_ne hbyte]
        rfl

theorem lines_of_isLine {line : Bytes} (hline : IsLine line) : lines line = [line] := by
  induction line with
  | nil => exact absurd rfl hline.1
  | cons byte rest ih =>
      by_cases hrest : rest = []
      · subst hrest
        rfl
      · obtain ⟨hbyte, hinner⟩ := (isLine_cons hrest).1 hline
        rw [lines_cons, ih hinner, prependByte_of_ne hbyte]

theorem lines_flatten_of_terminated {pieces : List Bytes}
    (hpieces : ∀ piece ∈ pieces, IsLine piece)
    (hends : ∀ piece ∈ pieces.dropLast, Terminated piece) :
    lines pieces.flatten = pieces := by
  induction pieces with
  | nil => rfl
  | cons piece rest ih =>
      have hpiece : IsLine piece := hpieces piece List.mem_cons_self
      by_cases hrest : rest = []
      · subst hrest
        simpa using lines_of_isLine hpiece
      · rw [List.dropLast_cons_of_ne_nil hrest] at hends
        have hinner :=
          ih (fun other hother => hpieces other (List.mem_cons_of_mem piece hother))
            (fun other hother => hends other (List.mem_cons_of_mem piece hother))
        rw [List.flatten_cons,
          lines_append_terminated hpiece (hends piece List.mem_cons_self), hinner]

/-- Lines that are put together are read back exactly when all but the last are
terminated. -/
theorem lines_flatten_iff {pieces : List Bytes}
    (hpieces : ∀ piece ∈ pieces, IsLine piece) :
    lines pieces.flatten = pieces ↔ ∀ piece ∈ pieces.dropLast, Terminated piece := by
  constructor
  · intro hread piece hpiece
    rw [← hread] at hpiece
    exact terminated_of_mem_dropLast_lines hpiece
  · exact lines_flatten_of_terminated hpieces

theorem flatten_ne_nil {pieces : List Bytes} (hpieces : ∀ piece ∈ pieces, IsLine piece)
    (hne : pieces ≠ []) : pieces.flatten ≠ [] := by
  obtain ⟨piece, rest, rfl⟩ := List.exists_cons_of_ne_nil hne
  rw [List.flatten_cons]
  exact List.append_ne_nil_of_left_ne_nil (hpieces piece List.mem_cons_self).1 _

/-- Behind an unterminated line one line less is read. -/
theorem length_lines_append_unterminated {line : Bytes} (hline : IsLine line)
    (hopen : ¬Terminated line) {text : Bytes} (htext : text ≠ []) :
    (lines (line ++ text)).length = (lines text).length := by
  rw [lines_append_unterminated hline hopen htext, lines_eq_cutLine htext]
  rfl

theorem length_lines_flatten_le {pieces : List Bytes}
    (hpieces : ∀ piece ∈ pieces, IsLine piece) :
    (lines pieces.flatten).length ≤ pieces.length := by
  induction pieces with
  | nil => simp
  | cons piece rest ih =>
      have hpiece : IsLine piece := hpieces piece List.mem_cons_self
      have hothers : ∀ other ∈ rest, IsLine other :=
        fun other hother => hpieces other (List.mem_cons_of_mem piece hother)
      have hrest := ih hothers
      rw [List.flatten_cons, List.length_cons]
      by_cases hends : Terminated piece
      · rw [lines_append_terminated hpiece hends, List.length_cons]
        omega
      by_cases hnil : rest = []
      · simp [hnil, lines_of_isLine hpiece]
      · rw [length_lines_append_unterminated hpiece hends (flatten_ne_nil hothers hnil)]
        omega

/-- As many lines are read back as were put together exactly when all but the last are
terminated. -/
theorem length_lines_flatten_iff {pieces : List Bytes}
    (hpieces : ∀ piece ∈ pieces, IsLine piece) :
    (lines pieces.flatten).length = pieces.length ↔
      ∀ piece ∈ pieces.dropLast, Terminated piece := by
  constructor
  · induction pieces with
    | nil => simp
    | cons piece rest ih =>
        intro hlength
        have hpiece : IsLine piece := hpieces piece List.mem_cons_self
        have hothers : ∀ other ∈ rest, IsLine other :=
          fun other hother => hpieces other (List.mem_cons_of_mem piece hother)
        by_cases hnil : rest = []
        · simp [hnil]
        rw [List.flatten_cons, List.length_cons] at hlength
        by_cases hends : Terminated piece
        · rw [lines_append_terminated hpiece hends, List.length_cons,
            Nat.add_right_cancel_iff] at hlength
          rw [List.dropLast_cons_of_ne_nil hnil, List.forall_mem_cons]
          exact ⟨hends, ih hothers hlength⟩
        · have hle := length_lines_flatten_le hothers
          rw [length_lines_append_unterminated hpiece hends (flatten_ne_nil hothers hnil)]
            at hlength
          omega
  · intro hends
    rw [lines_flatten_of_terminated hpieces hends]

end ParallelCorpus.Text
