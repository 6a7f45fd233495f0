import Mathlib.Data.List.Basic
import ParallelCorpus.Json.Record
import ParallelCorpus.Proofs.DecimalCounts

/-!
# What the JSON readers take

A count is read from its decimal digits, and a record from its members, whatever blanks
stand between the parts and in whatever order the members come.
-/

namespace ParallelCorpus.Json

open Text (countBound exists_digit_toDigits isDigit_of_mem_toDigits ne_of_isDigit)

/-! ## Blanks and ends -/

def Blank (text : List Char) : Prop :=
  ∀ c ∈ text, isBlank c = true

instance (text : List Char) : Decidable (Blank text) :=
  decidable_of_iff (text.all isBlank = true) List.all_eq_true

/-- The text goes on with what can stand behind a value within an object, or is over. -/
def Ends (text : List Char) : Prop :=
  ∀ c ∈ text.head?, isBlank c = true ∨ c = ',' ∨ c = '}'

/-- A reader takes a text for a value, behind any blanks, and leaves what ends it. -/
def Reads {α : Type} (reader : Reader α) (text : List Char) (value : α) : Prop :=
  ∀ before after, Blank before → Ends after →
    reader (before ++ (text ++ after)) = .ok (value, after)

theorem skipBlanks_append {blanks : List Char} (hblank : Blank blanks)
    (text : List Char) :
    skipBlanks (blanks ++ text) = skipBlanks text :=
  List.dropWhile_append_of_pos hblank

theorem skipBlanks_cons {c : Char} (hc : isBlank c = false) (text : List Char) :
    skipBlanks (c :: text) = c :: text :=
  List.dropWhile_cons_of_neg (by rw [hc]; decide)

theorem isBlank_of_isDigit {c : Char} (hc : c.isDigit = true) : isBlank c = false := by
  have hblank : c ≠ ' ' ∧ c ≠ '\n' ∧ c ≠ '\t' ∧ c ≠ '\r' :=
    ⟨ne_of_isDigit hc (by decide), ne_of_isDigit hc (by decide),
      ne_of_isDigit hc (by decide), ne_of_isDigit hc (by decide)⟩
  simpa [isBlank, and_assoc] using hblank

theorem Blank.ends {blanks text : List Char} (hblank : Blank blanks) (hends : Ends text) :
    Ends (blanks ++ text) := by
  cases blanks with
  | nil => exact hends
  | cons blank blanks =>
      intro c hc
      rw [List.cons_append, List.head?_cons, Option.mem_some_iff] at hc
      rw [← hc]
      exact .inl (hblank blank List.mem_cons_self)

theorem ends_cons {c : Char} (hc : c = ',' ∨ c = '}') (text : List Char) :
    Ends (c :: text) := by
  intro other hother
  rw [List.head?_cons, Option.mem_some_iff] at hother
  rw [← hother]
  exact .inr hc

/-! ## Numbers -/

theorem not_isDigit_of_ends {text : List Char} (hends : Ends text) :
    ∀ c ∈ text.head?, c.isDigit = false ∧ c ≠ '.' ∧ c ≠ 'e' ∧ c ≠ 'E' := by
  intro c hc
  rcases hends c hc with hblank | rfl | rfl
  · have hcases : c = ' ' ∨ c = '\n' ∨ c = '\t' ∨ c = '\r' := by
      simpa [isBlank, or_assoc] using hblank
    rcases hcases with rfl | rfl | rfl | rfl <;> decide
  · decide
  · decide

/-- The digits in front of what ends a number. -/
theorem spanDigits_append {digits rest : List Char}
    (hdigits : ∀ c ∈ digits, c.isDigit = true) (hends : Ends rest) :
    spanDigits (digits ++ rest) = (digits, rest) := by
  have hrest := not_isDigit_of_ends hends
  rw [spanDigits, List.takeWhile_append_of_pos hdigits,
    List.dropWhile_append_of_pos hdigits]
  cases rest with
  | nil => rw [List.takeWhile_nil, List.dropWhile_nil, List.append_nil]
  | cons c rest =>
      have hc : ¬c.isDigit = true := by simp [(hrest c rfl).1]
      rw [List.takeWhile_cons_of_neg hc, List.dropWhile_cons_of_neg hc, List.append_nil]

/-- Digits that stay below the bound are all gathered. -/
theorem gather_eq {digits : List Char} {value : Nat}
    (hbound : Nat.ofDigitChars 10 digits value < countBound) :
    gather value digits = (Nat.ofDigitChars 10 digits value, digits.length) := by
  induction digits generalizing value with
  | nil => rfl
  | cons c digits ih =>
      rw [Text.ofDigitChars_cons] at hbound ⊢
      have hbelow : value * 10 + Text.digitValue c < countBound :=
        Nat.lt_of_le_of_lt (Text.le_ofDigitChars digits _) hbound
      simp only [gather, if_pos hbelow, ih hbound, List.length_cons]

/-- Decimal digits have no zero in front. -/
theorem head_toDigits_ne_zero {n : Nat} {c d : Char} {digits : List Char}
    (hdigits : Nat.toDigits 10 n = c :: d :: digits) : c ≠ '0' := by
  induction n using Nat.base_induction 10 (by decide) generalizing c d digits with
  | single n hn =>
      rw [Nat.toDigits_of_lt_base hn] at hdigits
      cases hdigits
  | digit n k hk hn ih =>
      rw [← Nat.toDigits_append_toDigits (by decide) hn hk] at hdigits
      cases hfront : Nat.toDigits 10 n with
      | nil => exact absurd hfront Nat.toDigits_ne_nil
      | cons first behind =>
          rw [hfront] at hdigits
          obtain ⟨rfl, -⟩ := List.cons.inj hdigits
          cases behind with
          | cons second behind => exact ih hfront
          | nil =>
              -- A single digit in front is that of a number below ten, and that one is
              -- not zero.
              have hvalue := Nat.ofDigitChars_ten_toDigits (n := n)
              rw [hfront] at hvalue
              rintro rfl
              rw [Nat.ofDigitChars_cons, Nat.ofDigitChars_nil] at hvalue
              simp at hvalue
              omega

/-- A count is read from its digits. -/
theorem unsignedNumber_toDigits {n : Nat} (hbound : n < countBound) {rest : List Char}
    (hends : Ends rest) :
    unsignedNumber false (Nat.toDigits 10 n ++ rest) = .ok (.count n, rest) := by
  have hspan := spanDigits_append (isDigit_of_mem_toDigits (n := n)) hends
  have hgather : gather 0 (Nat.toDigits 10 n) = (n, (Nat.toDigits 10 n).length) := by
    rw [gather_eq] <;> rw [Nat.ofDigitChars_ten_toDigits]
    exact hbound
  have hrest := not_isDigit_of_ends hends
  unfold unsignedNumber
  rw [hspan]
  split
  · rename_i hnil
    exact absurd (List.append_eq_nil_iff.1 hnil).1 Nat.toDigits_ne_nil
  · rename_i hparts _
    exact absurd (Prod.mk.inj hparts).1 Nat.toDigits_ne_nil
  · rename_i hparts _
    exact absurd rfl (head_toDigits_ne_zero (Prod.mk.inj hparts).1)
  · rename_i hparts _
    cases hparts
    simp only [hgather]
    split
    · exact absurd rfl (hrest '.' rfl).2.1
    · exact absurd rfl (hrest 'e' rfl).2.2.1
    · exact absurd rfl (hrest 'E' rfl).2.2.2
    · simp

/-- A count is read from its digits. -/
theorem reads_count {n : Nat} (hbound : n < countBound) :
    Reads count (Nat.toDigits 10 n) n := by
  intro before after hblank hends
  have hread := unsignedNumber_toDigits hbound hends
  obtain ⟨c, digits, hdigits, hc⟩ := exists_digit_toDigits n
  rw [hdigits, List.cons_append] at hread ⊢
  have hnumber : number (c :: (digits ++ after)) = .ok (.count n, after) := by
    rw [number]
    · exact hread
    · exact fun _ hcons => ne_of_isDigit hc (by decide) (List.cons.inj hcons).1
  rw [count, skipBlanks_append hblank, skipBlanks_cons (isBlank_of_isDigit hc)]
  simp only [hc, or_true, if_true, hnumber]
  rfl

/-- A count that may be missing is read from its digits as well. -/
theorem reads_optionalCount {n : Nat} (hbound : n < countBound) :
    Reads optionalCount (Nat.toDigits 10 n) (some n) := by
  intro before after hblank hends
  have hread := reads_count hbound [] after (List.forall_mem_nil _) hends
  obtain ⟨c, digits, hdigits, hc⟩ := exists_digit_toDigits n
  rw [hdigits, List.cons_append] at hread ⊢
  rw [List.nil_append] at hread
  rw [optionalCount, skipBlanks_append hblank, skipBlanks_cons (isBlank_of_isDigit hc)]
  split
  · rename_i hcons
    exact absurd (List.cons.inj hcons).1 (ne_of_isDigit hc (by decide))
  · rw [hread]
    rfl

/-- A missing count is read from the word null. -/
theorem reads_null : Reads optionalCount ['n', 'u', 'l', 'l'] none := by
  intro before after hblank _
  rw [optionalCount, skipBlanks_append hblank]
  rfl

/-! ## Names -/

def isPlain (c : Char) : Bool :=
  c != '"' && c != '\\' && decide (0x20 ≤ c.toNat)

theorem isPlain_iff {c : Char} :
    isPlain c = true ↔ c ≠ '"' ∧ c ≠ '\\' ∧ 0x20 ≤ c.toNat := by
  simp [isPlain, and_assoc]

theorem stringBody_plain {letters : List Char}
    (hplain : letters.all isPlain = true) {steps : Nat} (hsteps : letters.length < steps)
    (read text : List Char) :
    stringBody steps read (letters ++ '"' :: text) =
      .ok (String.ofList (read.reverse ++ letters), text) := by
  induction letters generalizing steps read with
  | nil =>
      cases steps with
      | zero => cases hsteps
      | succ steps => rw [List.nil_append, stringBody, List.append_nil]
  | cons c letters ih =>
      rw [List.all_cons, Bool.and_eq_true, isPlain_iff] at hplain
      obtain ⟨⟨hquote, hescape, hcontrol⟩, hletters⟩ := hplain
      cases steps with
      | zero => cases hsteps
      | succ steps =>
          have hrest := ih hletters (Nat.lt_of_succ_lt_succ hsteps) (c :: read)
          rw [List.cons_append, stringBody, if_neg (Nat.not_lt.2 hcontrol), hrest,
            List.reverse_cons, List.append_assoc]
          · rfl
          · exact fun heq => hquote heq
          · exact fun heq => hescape heq

/-- A name is read behind its first quote. -/
theorem string_plain {name : String} (hplain : name.toList.all isPlain = true)
    (text : List Char) :
    string (name.toList ++ '"' :: text) = .ok (name, text) := by
  have hsteps : name.toList.length < (name.toList ++ '"' :: text).length + 1 := by
    rw [List.length_append]
    omega
  rw [string, stringBody_plain hplain hsteps, List.reverse_nil, List.nil_append,
    String.ofList_toList]

/-! ## Records -/

/-- A member of an object as it may be written, with blanks around its name and its
value. -/
structure Written (Value : Type) where
  name : String
  value : Value
  /-- The value in characters. -/
  text : List Char
  beforeName : List Char := []
  afterName : List Char := []
  beforeValue : List Char := []
  afterValue : List Char := []

namespace Written

variable {Value : Type}

def chars (written : Written Value) : List Char :=
  written.beforeName ++ ('"' :: (written.name.toList ++ ('"' :: (written.afterName ++
    (':' :: (written.beforeValue ++ (written.text ++ written.afterValue)))))))

theorem chars_append (written : Written Value) (after : List Char) :
    written.chars ++ after = written.beforeName ++ ('"' :: (written.name.toList ++ ('"' ::
      (written.afterName ++ (':' :: (written.beforeValue ++ (written.text ++
        (written.afterValue ++ after)))))))) := by
  simp only [chars, List.append_assoc, List.cons_append]

def found (written : Written Value) : String × Value :=
  (written.name, written.value)

/-- Nothing but blanks stands around the name and the value of a member. -/
structure Spaced (written : Written Value) : Prop where
  beforeName : Blank written.beforeName
  afterName : Blank written.afterName
  beforeValue : Blank written.beforeValue
  afterValue : Blank written.afterValue

instance (written : Written Value) : Decidable written.Spaced :=
  decidable_of_iff (Blank written.beforeName ∧ Blank written.afterName ∧
      Blank written.beforeValue ∧ Blank written.afterValue)
    ⟨fun ⟨hname, hname', hvalue, hvalue'⟩ => ⟨hname, hname', hvalue, hvalue'⟩,
      fun hspaced => ⟨hspaced.beforeName, hspaced.afterName, hspaced.beforeValue,
        hspaced.afterValue⟩⟩

/-- A member that a record can have: its name is known, and its value is read as that. -/
structure Sound (names : List String) (reader : String → Reader Value)
    (written : Written Value) :
    Prop extends written.Spaced where
  known : written.name ∈ names
  plain : written.name.toList.all isPlain = true
  reads : Reads (reader written.name) written.text written.value

/-- An object with these members, of which there is at least one, and blanks in front of
its end. -/
def object (first : Written Value) (others : List (Written Value)) (closing : List Char) :
    List Char :=
  '{' :: (first.chars ++ (others.flatMap (fun written => ',' :: written.chars) ++
    (closing ++ ['}'])))

end Written

section Members

variable {Value : Type} {names : List String} {reader : String → Reader Value}

/-- A member is read behind the first quote of its name, up to the blanks behind its
value. -/
theorem member_written {written : Written Value} (hsound : written.Sound names reader)
    {found : List (String × Value)} (hnew : written.name ∉ found.map Prod.fst)
    {after : List Char} (hends : Ends after) :
    member names reader found (written.name.toList ++ ('"' :: (written.afterName ++
      (':' :: (written.beforeValue ++ (written.text ++ after)))))) =
      .ok (found ++ [written.found], after) := by
  have hlookup : found.lookup written.name = none := by
    rw [List.lookup_eq_none_iff]
    intro pair hpair
    rw [bne_iff_ne]
    rintro hname
    exact hnew (List.mem_map.2 ⟨pair, hpair, hname.symm⟩)
  have hcolon (text : List Char) :
      colon (written.afterName ++ (':' :: text)) = .ok text := by
    rw [colon, skipBlanks_append hsound.afterName, skipBlanks_cons (by decide)]
    rfl
  have hvalue := hsound.reads _ after hsound.beforeValue hends
  simp only [member, string_plain hsound.plain, bind, Except.bind, pure,
    Except.pure, hcolon, hvalue, List.contains_iff_mem.2 hsound.known, hlookup, if_true,
    Option.isSome_none, Bool.false_eq_true,
    if_false]
  rfl

/-- What stands behind a value ends it: blanks, and then the other members or the
closing brace. -/
theorem ends_others {blanks closing : List Char} (hblank : Blank blanks)
    (hclosing : Blank closing) (others : List (Written Value)) (after : List Char) :
    Ends (blanks ++ (others.flatMap (fun written => ',' :: written.chars) ++
      (closing ++ ('}' :: after)))) := by
  apply hblank.ends
  cases others with
  | nil => exact hclosing.ends (ends_cons (.inr rfl) after)
  | cons other others => exact ends_cons (.inl rfl) _

/-- Behind a member, the others are read to the end of the object. -/
theorem members_written {others : List (Written Value)}
    (hsound : ∀ written ∈ others, written.Sound names reader)
    {found : List (String × Value)}
    (hdistinct : (found.map Prod.fst ++ others.map Written.name).Nodup)
    {blanks closing : List Char} (hblank : Blank blanks) (hclosing : Blank closing)
    {steps : Nat} (hsteps : others.length < steps) (after : List Char) :
    members names reader steps false found (blanks ++
      (others.flatMap (fun written => ',' :: written.chars) ++
        (closing ++ ('}' :: after)))) =
      .ok (found ++ others.map Written.found, after) := by
  obtain ⟨steps, rfl⟩ := Nat.exists_eq_succ_of_ne_zero (Nat.ne_zero_of_lt hsteps)
  -- By induction on the members to come; the blanks in front are those behind the last
  -- one read.
  induction others generalizing found blanks steps with
  | nil =>
      rw [members, skipBlanks_append hblank, List.flatMap_nil, List.nil_append,
        skipBlanks_append hclosing, skipBlanks_cons (by decide), List.map_nil,
        List.append_nil]
      rfl
  | cons written others ih =>
      obtain ⟨hwritten, hothers⟩ := List.forall_mem_cons.1 hsound
      obtain ⟨steps, rfl⟩ := Nat.exists_eq_succ_of_ne_zero
        (Nat.ne_zero_of_lt (Nat.lt_of_succ_lt_succ hsteps))
      have hnew : written.name ∉ found.map Prod.fst := fun hmem =>
        (List.nodup_append.1 hdistinct).2.2 _ hmem _ List.mem_cons_self rfl
      have hmember := member_written hwritten hnew
        (ends_others hwritten.afterValue hclosing others after)
      have hdistinct' : ((found ++ [written.found]).map Prod.fst ++
          others.map Written.name).Nodup := by
        simpa [Written.found] using hdistinct
      have hbehind :=
        ih hothers hdistinct' hwritten.afterValue steps (Nat.lt_of_succ_lt_succ hsteps)
      rw [members, skipBlanks_append hblank, List.flatMap_cons, List.cons_append,
        List.cons_append, skipBlanks_cons (by decide)]
      simp only [Bool.false_eq_true, if_false]
      rw [List.append_assoc, written.chars_append, skipBlanks_append hwritten.beforeName,
        skipBlanks_cons (by decide)]
      simp only [hmember, bind, Except.bind, hbehind, List.map_cons, List.append_assoc,
        List.singleton_append]

/-- Every member takes a character at least. -/
theorem length_le_flatMap_chars (others : List (Written Value)) :
    others.length ≤ (others.flatMap fun written => ',' :: written.chars).length := by
  induction others with
  | nil => exact Nat.le_refl 0
  | cons written others ih =>
      rw [List.flatMap_cons, List.length_append, List.length_cons, List.length_cons]
      omega

/-- An object is read as the members that it was written with. -/
theorem reads_object {first : Written Value} {others : List (Written Value)}
    (hsound : ∀ written ∈ first :: others, written.Sound names reader)
    (hdistinct : ((first :: others).map Written.name).Nodup) {closing : List Char}
    (hclosing : Blank closing) :
    Reads (record names reader) (Written.object first others closing)
      ((first :: others).map Written.found) := by
  intro before after hblank _
  obtain ⟨hfirst, hothers⟩ := List.forall_mem_cons.1 hsound
  have hnew : first.name ∉ ([] : List (String × Value)).map Prod.fst := List.not_mem_nil
  have hmember :=
    member_written hfirst hnew (ends_others hfirst.afterValue hclosing others after)
  have hdistinct' :
      (([] ++ [first.found]).map Prod.fst ++ others.map Written.name).Nodup := by
    simpa [Written.found] using hdistinct
  have hbehind {steps : Nat} (hsteps : others.length < steps) :=
    members_written hothers hdistinct' hfirst.afterValue hclosing hsteps after
  rw [record, skipBlanks_append hblank, Written.object, List.cons_append,
    skipBlanks_cons (by decide)]
  simp only [List.append_assoc, List.singleton_append]
  rw [members, first.chars_append, skipBlanks_append hfirst.beforeName,
    skipBlanks_cons (by decide)]
  have hsteps := length_le_flatMap_chars others
  simp only [if_true, hmember, bind, Except.bind]
  rw [hbehind]
  · rfl
  · simp only [List.length_append, List.length_cons]
    omega

end Members
end ParallelCorpus.Json
