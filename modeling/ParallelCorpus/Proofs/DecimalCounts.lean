import ParallelCorpus.Job.Count

/-!
# Counts in decimal digits

A count can be written in many ways: with a plus sign in front or without, and with any
number of zeros.  All of them are read as that count.
-/

namespace ParallelCorpus

open Text (countBound digit? digitValue)

namespace Text

/-! ## Digits -/

theorem ne_of_isDigit {c other : Char} (hc : c.isDigit = true)
    (hother : other.isDigit = false) :
    c ≠ other := by
  rintro rfl
  rw [hc] at hother
  cases hother

theorem isDigit_of_mem_toDigits {n : Nat} : ∀ c ∈ Nat.toDigits 10 n, c.isDigit = true :=
  fun _ hc => Nat.isDigit_of_mem_toDigits (by decide) (by decide) hc

theorem exists_digit_toDigits (n : Nat) :
    ∃ c digits, Nat.toDigits 10 n = c :: digits ∧ c.isDigit = true := by
  obtain ⟨c, digits, hdigits⟩ :=
    List.exists_cons_of_ne_nil (Nat.toDigits_ne_nil (b := 10) (n := n))
  refine ⟨c, digits, hdigits, isDigit_of_mem_toDigits (n := n) c ?_⟩
  rw [hdigits]
  exact List.mem_cons_self

/-- The first of several digits goes in front of the others. -/
theorem ofDigitChars_cons (c : Char) (digits : List Char) (value : Nat) :
    Nat.ofDigitChars 10 (c :: digits) value =
      Nat.ofDigitChars 10 digits (value * 10 + digitValue c) := by
  rw [Nat.ofDigitChars_cons, digitValue, Nat.mul_comm]

theorem le_ofDigitChars (digits : List Char) (value : Nat) :
    value ≤ Nat.ofDigitChars 10 digits value := by
  induction digits generalizing value with
  | nil => exact Nat.le_refl value
  | cons c digits ih =>
      rw [ofDigitChars_cons]
      exact Nat.le_trans (by omega) (ih _)

/-- Zeros in front make no difference. -/
theorem ofDigitChars_zeros (zeros : Nat) (digits : List Char) :
    Nat.ofDigitChars 10 (List.replicate zeros '0' ++ digits) 0 =
      Nat.ofDigitChars 10 digits 0 := by
  induction zeros with
  | zero => rfl
  | succ zeros ih =>
      rw [List.replicate_succ, List.cons_append, ofDigitChars_cons]
      exact ih

end Text

/-! ## Reading a count -/

/-- Digits that stay below the bound are all read. -/
theorem readDigits_eq {digits : List Char}
    (hdigits : ∀ c ∈ digits, c.isDigit = true) {value : Nat}
    (hbound : Nat.ofDigitChars 10 digits value < countBound) :
    readDigits value digits = .ok (Nat.ofDigitChars 10 digits value) := by
  induction digits generalizing value with
  | nil => rfl
  | cons c digits ih =>
      obtain ⟨hc, hdigits⟩ := List.forall_mem_cons.1 hdigits
      rw [Text.ofDigitChars_cons] at hbound ⊢
      have hdigit : digit? c = some (digitValue c) := by rw [digit?, if_pos hc]
      have hbelow : value * 10 + digitValue c < countBound :=
        Nat.lt_of_le_of_lt (Text.le_ofDigitChars digits _) hbound
      simp only [readDigits, hdigit, if_pos hbelow]
      exact ih hdigits hbound

/-- The texts that stand for a count. -/
def SpellsCount (count : Nat) (text : String) : Prop :=
  ∃ sign ∈ ["", "+"], ∃ zeros,
    text = sign ++ String.ofList (List.replicate zeros '0' ++ Nat.toDigits 10 count)

/-- A count is read from every text that stands for it. -/
theorem readCount_of_spells {count : Nat} {text : String}
    (hspells : SpellsCount count text) (hbound : count < countBound) :
    readCount text = .ok count := by
  obtain ⟨sign, hsign, zeros, rfl⟩ := hspells
  obtain ⟨c, digits, hcons⟩ : ∃ c digits,
      List.replicate zeros '0' ++ Nat.toDigits 10 count = c :: digits := by
    apply List.exists_cons_of_ne_nil
    exact List.append_ne_nil_of_right_ne_nil _ Nat.toDigits_ne_nil
  have hdigits : ∀ d ∈ c :: digits, d.isDigit = true := by
    rw [← hcons]
    intro d hd
    rcases List.mem_append.1 hd with hzero | hd
    · rw [List.eq_of_mem_replicate hzero]
      rfl
    · exact Text.isDigit_of_mem_toDigits d hd
  have hvalue : Nat.ofDigitChars 10 (c :: digits) 0 = count := by
    rw [← hcons, Text.ofDigitChars_zeros, Nat.ofDigitChars_ten_toDigits]
  have hread : readDigits 0 (c :: digits) = .ok count := by
    rw [← hvalue] at hbound ⊢
    exact readDigits_eq hdigits hbound
  have hplus : c ≠ '+' := Text.ne_of_isDigit (hdigits c List.mem_cons_self) (by decide)
  simp only [List.mem_cons, List.not_mem_nil, or_false] at hsign
  rw [hcons]
  rcases hsign with rfl | rfl
  · have htext : ("" ++ String.ofList (c :: digits)).toList = c :: digits := by simp
    rw [readCount, htext]
    split
    · rename_i hnil
      cases hnil
    · rename_i hsigned
      exact absurd (List.cons.inj hsigned).1 hplus
    · exact hread
  · have htext : ("+" ++ String.ofList (c :: digits)).toList = '+' :: c :: digits := by
      simp
    rw [readCount, htext]
    exact hread

end ParallelCorpus
