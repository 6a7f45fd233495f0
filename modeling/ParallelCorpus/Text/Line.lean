import ParallelCorpus.Text.Bytes

/-!
# Lines of a document

A line ends with its line feed, which belongs to it; the last line of a document may
lack one. `cutLine` takes one line off the front, as a reader does; `lines` describes
the whole cut at once, and the two agree. Nothing is lost in either.
-/

namespace ParallelCorpus.Text

def lineFeed : UInt8 := 0x0A

/-- The first line of a text, terminator included, and what follows it. -/
def cutLine (text : Bytes) : Bytes × Bytes :=
  let body := text.takeWhile (· != lineFeed)
  let rest := text.dropWhile (· != lineFeed)
  (body ++ rest.take 1, rest.drop 1)

/-- A byte put in front of lines joins the first of them, unless it is a line feed or
there is none: then it is a line of its own. -/
def prependByte (byte : UInt8) : List Bytes → List Bytes
  | [] => [[byte]]
  | line :: rest =>
    if byte == lineFeed then [byte] :: line :: rest else (byte :: line) :: rest

/-- All lines of a text, each with its terminator. -/
def lines (text : Bytes) : List Bytes :=
  text.foldr prependByte []

/-- Nothing is lost between a line and what follows it. -/
theorem cutLine_append (text : Bytes) : (cutLine text).1 ++ (cutLine text).2 = text := by
  simp only [cutLine, List.append_assoc, List.take_append_drop,
    List.takeWhile_append_dropWhile]

/-- Taking a line off a text that is not empty leaves a shorter one. -/
theorem length_cutLine_lt {text : Bytes} (nonempty : text ≠ []) :
    (cutLine text).2.length < text.length := by
  have whole := congrArg List.length (cutLine_append text)
  simp only [List.length_append] at whole
  suffices 0 < (cutLine text).1.length by omega
  cases text with
  | nil => exact absurd rfl nonempty
  | cons byte rest =>
      by_cases ends : byte = lineFeed
      · simp [cutLine, ends]
      · simp [cutLine, ends]

theorem prependByte_ne_nil (byte : UInt8) (rest : List Bytes) :
    prependByte byte rest ≠ [] := by
  unfold prependByte
  split
  · simp
  · split <;> simp

theorem flatten_prependByte (byte : UInt8) (rest : List Bytes) :
    (prependByte byte rest).flatten = byte :: rest.flatten := by
  cases rest with
  | nil => rfl
  | cons line others =>
      simp only [prependByte]
      split <;> rfl

@[simp]
theorem lines_nil : lines [] = [] := rfl

theorem lines_cons (byte : UInt8) (text : Bytes) :
    lines (byte :: text) = prependByte byte (lines text) := rfl

/-- The lines of a text, put together again, are the text. -/
theorem flatten_lines (text : Bytes) : (lines text).flatten = text := by
  induction text with
  | nil => rfl
  | cons byte text ih => rw [lines_cons, flatten_prependByte, ih]

theorem lines_eq_nil_iff {text : Bytes} : lines text = [] ↔ text = [] := by
  cases text with
  | nil => simp
  | cons byte text => simp [lines_cons, prependByte_ne_nil]

theorem cutLine_cons (byte : UInt8) (text : Bytes) :
    cutLine (byte :: text) =
      if byte == lineFeed then ([byte], text)
      else (byte :: (cutLine text).1, (cutLine text).2) := by
  by_cases ends : byte = lineFeed
  · simp [cutLine, ends]
  · simp [cutLine, ends]

/-- The first line of a text is the one that a reader takes, and the others are the
lines of what it leaves. -/
theorem lines_eq_cutLine {text : Bytes} (nonempty : text ≠ []) :
    lines text = (cutLine text).1 :: lines (cutLine text).2 := by
  induction text with
  | nil => exact absurd rfl nonempty
  | cons byte text ih =>
      rw [lines_cons, cutLine_cons]
      by_cases ends : byte = lineFeed
      · cases h : lines text with
        | nil =>
            have := lines_eq_nil_iff.1 h
            simp [prependByte, ends, this]
        | cons line rest => simp [prependByte, ends, h]
      · by_cases last : text = []
        · subst last
          simp [prependByte, ends, cutLine]
        · rw [ih last]
          simp [prependByte, ends]

end ParallelCorpus.Text
