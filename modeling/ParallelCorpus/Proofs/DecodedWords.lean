import ParallelCorpus.Proofs.AsciiBytes
import ParallelCorpus.Proofs.WordCounting

/-!
# Words of decoded text

Documents are never decoded, and their words need not be: a blank is a byte of its own,
and no byte of another character is blank.  So the bytes of a text are cut exactly where
its characters are, and the words of the bytes are the encoded words of the text.
-/

namespace ParallelCorpus.Text

/-- Space, tab, line feed, carriage return, vertical tab and form feed, as characters. -/
def isBlankChar (c : Char) : Bool :=
  c == ' ' || c == '\t' || c == '\n' || c == '\r' || c == '\x0B' || c == '\x0C'

/-! ## Characters and their bytes -/

/-- A blank is encoded by one byte, which is blank. -/
theorem utf8EncodeChar_of_isBlankChar {c : Char} (hblank : isBlankChar c = true) :
    ∃ byte, String.utf8EncodeChar c = [byte] ∧ isBlank byte = true := by
  simp only [isBlankChar, Bool.or_eq_true, beq_iff_eq, or_assoc] at hblank
  rcases hblank with rfl | rfl | rfl | rfl | rfl | rfl
  all_goals exact ⟨_, rfl, rfl⟩

/-- A blank byte encodes a blank. -/
theorem isBlankChar_of_mem_utf8EncodeChar {c : Char} {byte : UInt8}
    (hbyte : byte ∈ String.utf8EncodeChar c) (hblank : isBlank byte = true) :
    isBlankChar c = true := by
  simp only [isBlank, Bool.or_eq_true, beq_iff_eq, or_assoc] at hblank
  have hlow : byte.toNat < 128 := by
    rcases hblank with rfl | rfl | rfl | rfl | rfl | rfl
    all_goals decide
  have hvalue := toNat_of_mem_utf8EncodeChar hbyte hlow
  have hchar : c = Char.ofNat byte.toNat := by rw [← hvalue, Char.ofNat_toNat]
  rw [hchar]
  rcases hblank with rfl | rfl | rfl | rfl | rfl | rfl
  all_goals rfl

/-- The bytes of a character other than a blank are not blank. -/
theorem isBlank_of_mem_utf8EncodeChar {c : Char}
    (hplain : isBlankChar c = false) {byte : UInt8}
    (hbyte : byte ∈ String.utf8EncodeChar c) : isBlank byte = false := by
  rw [← Bool.not_eq_true]
  intro hblank
  rw [isBlankChar_of_mem_utf8EncodeChar hbyte hblank] at hplain
  cases hplain

/-! ## Cutting encoded text -/

section Encoded

variable {α β : Type} {separates : α → Bool} {separates' : β → Bool} {encode : α → List β}

/-- What is not cut joins the first piece of the text behind it. -/
theorem splitOnP_append_plain {front : List β}
    (hplain : ∀ b ∈ front, separates' b = false) (text : List β) :
    (front ++ text).splitOnP separates' = (text.splitOnP separates').modifyHead
      (front ++ ·) := by
  induction front with
  | nil =>
      rw [List.nil_append]
      cases text.splitOnP separates' <;> rfl
  | cons b front ih =>
      obtain ⟨hb, hfront⟩ := List.forall_mem_cons.1 hplain
      rw [List.cons_append, List.splitOnP_cons_eq_if_modifyHead, ih hfront,
        if_neg (by simp [hb])]
      cases text.splitOnP separates' <;> rfl

/-- Where separators are encoded by one separator each, and other elements without any,
an encoded text is cut where the text is. -/
theorem splitOnP_flatMap
    (hseparator : ∀ a, separates a = true → ∃ b, encode a = [b] ∧ separates' b = true)
    (hplain : ∀ a, separates a = false → ∀ b ∈ encode a, separates' b = false)
    (text : List α) :
    (text.flatMap encode).splitOnP separates' =
      (text.splitOnP separates).map (List.flatMap encode) := by
  induction text with
  | nil => rfl
  | cons a text ih =>
      rw [List.flatMap_cons, List.splitOnP_cons_eq_if_modifyHead]
      cases hseparates : separates a with
      | true =>
          obtain ⟨b, hb, hseparates'⟩ := hseparator a hseparates
          rw [hb, List.singleton_append, List.splitOnP_cons_eq_if_modifyHead, ih]
          simp [hseparates']
      | false =>
          rw [splitOnP_append_plain (hplain a hseparates), ih]
          cases text.splitOnP separates <;> simp

end Encoded

/-- The pieces of the bytes of a text are the encoded pieces of its characters. -/
theorem splitOnP_utf8 (text : String) :
    (utf8 text).splitOnP isBlank =
      (text.toList.splitOnP isBlankChar).map (List.flatMap String.utf8EncodeChar) := by
  rw [utf8_eq_flatMap]
  exact splitOnP_flatMap (fun _ => utf8EncodeChar_of_isBlankChar)
    (fun _ hplain _ => isBlank_of_mem_utf8EncodeChar hplain) text.toList

theorem wordCount_utf8_eq_pieceCount (text : String) :
    wordCount (utf8 text) = pieceCount isBlankChar text.toList := by
  have hempty (piece : List Char) :
      (piece.flatMap String.utf8EncodeChar).isEmpty = piece.isEmpty := by
    cases piece with
    | nil => rfl
    | cons c piece =>
        have hne : String.utf8EncodeChar c ≠ [] := by simp
        simp [hne]
  rw [wordCount, splitOnP_utf8, List.countP_map, pieceCount]
  simp only [Function.comp_def, hempty]

/-- The words of the bytes of a text are as many as its maximal runs of characters that
are not blank.  The bytes are cut exactly where the characters are, and no character of
several bytes has a blank among them. -/
theorem wordCount_utf8 (text : String) :
    {run : Nat × Nat | IsRun isBlankChar text.toList run.1 run.2}.encard =
    wordCount (utf8 text) ∧
      (utf8 text).splitOnP isBlank =
        (text.toList.splitOnP isBlankChar).map (List.flatMap String.utf8EncodeChar) ∧
      ∀ c : Char, 1 < c.utf8Size → ∀ byte ∈ String.utf8EncodeChar c,
        isBlank byte = false := by
  refine ⟨?_, splitOnP_utf8 text, ?_⟩
  · rw [encard_isRun, wordCount_utf8_eq_pieceCount]
  · intro c hsize byte hbyte
    apply isBlank_of_mem_utf8EncodeChar _ hbyte
    rw [← Bool.not_eq_true]
    intro hblank
    obtain ⟨byte, hencoded, -⟩ := utf8EncodeChar_of_isBlankChar hblank
    have hlength := String.length_utf8EncodeChar c
    rw [hencoded, List.length_singleton] at hlength
    omega

example : wordCount (utf8 "سلام دنیا") = 2 := by decide +kernel

end ParallelCorpus.Text
