import Mathlib.Data.Set.Card
import ParallelCorpus.Proofs.LineStructure
import ParallelCorpus.Text.Word

/-!
# Counting words

Words are pieces between separators, whatever the text consists of.  An element in front
of a text brings a piece of its own unless it is a separator or joins the piece that the
text opens with; so there are never more pieces than elements, and the pieces are the
maximal runs without a separator.  A separator between two texts keeps their pieces
apart.  A line feed is one, hence the words of a text are those of its lines.
-/

namespace ParallelCorpus.Text

/-! ## Pieces between separators -/

section Pieces

variable {α : Type} (separates : α → Bool)

/-- The number of pieces between separators, empty ones left out. -/
def pieceCount (text : List α) : Nat :=
  (text.splitOnP separates).countP fun piece => !piece.isEmpty

def opensPiece (text : List α) : Bool :=
  text.head?.any fun first => !separates first

def closesPiece (text : List α) : Bool :=
  text.getLast?.any fun last => !separates last

@[simp]
theorem pieceCount_nil : pieceCount separates ([] : List α) = 0 := by
  simp [pieceCount]

/-- The first of all pieces, empty ones included, is empty unless the text opens with a
piece. -/
theorem exists_splitOnP_eq_cons (text : List α) :
    ∃ first rest, text.splitOnP separates = first :: rest ∧
      first.isEmpty = !opensPiece separates text := by
  cases text with
  | nil => exact ⟨[], [], by simp, rfl⟩
  | cons a text =>
      obtain ⟨first, rest, hcut⟩ :=
        List.exists_cons_of_ne_nil (List.splitOnP_ne_nil separates text)
      rw [List.splitOnP_cons_eq_if_modifyHead, hcut]
      by_cases hseparates : separates a = true
      · exact ⟨[], first :: rest, by simp [hseparates], by simp [opensPiece, hseparates]⟩
      · exact ⟨a :: first, rest, by simp [hseparates], by simp [opensPiece, hseparates]⟩

variable {separates}

/-- An element in front of a text brings a piece of its own, unless it is a separator or
joins the piece that the text opens with. -/
theorem pieceCount_cons (a : α) (text : List α) :
    pieceCount separates (a :: text) =
      pieceCount separates text +
        if separates a || opensPiece separates text then 0 else 1 := by
  obtain ⟨first, rest, hcut, hfirst⟩ := exists_splitOnP_eq_cons separates text
  rw [pieceCount, pieceCount, List.splitOnP_cons_eq_if_modifyHead, hcut]
  by_cases hseparates : separates a = true
  · simp [hseparates]
  · cases hopens : opensPiece separates text
    · simp [hseparates, hfirst, hopens]
    · simp [hseparates, hfirst, hopens]

/-- Two texts that are put together have the pieces of both, but a piece that closes the
first and one that opens the second become one. -/
theorem pieceCount_append (front others : List α) :
    pieceCount separates (front ++ others) +
        (if closesPiece separates front && opensPiece separates others then 1 else 0) =
      pieceCount separates front + pieceCount separates others := by
  induction front with
  | nil => simp [closesPiece]
  | cons a front ih =>
      rw [List.cons_append, pieceCount_cons, pieceCount_cons]
      by_cases hlast : front = []
      -- The last element of the first text is the one that may join the second text.
      · subst hlast
        have hcloses : closesPiece separates [a] = !separates a := rfl
        have hopens : opensPiece separates ([] : List α) = false := rfl
        rw [List.nil_append, pieceCount_nil, hcloses, hopens]
        cases separates a <;> cases opensPiece separates others <;> simp [Nat.add_comm]
      · have hopens : opensPiece separates (front ++ others) =
            opensPiece separates front := by
          rw [opensPiece, opensPiece, List.head?_append_of_ne_nil _ hlast]
        have hcloses : closesPiece separates (a :: front) =
            closesPiece separates front := by
          rw [closesPiece, closesPiece, List.getLast?_cons_of_ne_nil hlast]
        rw [hopens, hcloses]
        omega

theorem pieceCount_le_length (text : List α) :
    pieceCount separates text ≤ text.length := by
  induction text with
  | nil => simp
  | cons a text ih =>
      rw [pieceCount_cons, List.length_cons]
      split <;> omega

end Pieces

/-! ## Where pieces stand -/

section Runs

variable {α : Type} (separates : α → Bool)

/-- A piece starts at a place: what stands there is no separator, and what stands in
front of it, if anything does, is one. -/
structure StartsAt (text : List α) (place : Nat) : Prop where
  here : ∃ a, text[place]? = some a ∧ separates a = false
  before : ∀ place' a, place = place' + 1 → text[place']? = some a → separates a = true

/-- A maximal run without separators, not empty, from a place up to another. -/
structure IsRun (text : List α) (start stop : Nat) : Prop where
  nonempty : start < stop
  inside : ∀ place, start ≤ place → place < stop →
    ∃ a, text[place]? = some a ∧ separates a = false
  before : ∀ place a, start = place + 1 → text[place]? = some a → separates a = true
  behind : ∀ a, text[stop]? = some a → separates a = true

variable {separates}

theorem startsAt_zero_iff {text : List α} :
    StartsAt separates text 0 ↔ opensPiece separates text = true := by
  constructor
  · rintro ⟨⟨a, hfirst, hplain⟩, -⟩
    rw [← List.head?_eq_getElem?] at hfirst
    simp [opensPiece, hfirst, hplain]
  · intro hopens
    rw [opensPiece, Option.any_eq_true] at hopens
    obtain ⟨a, hfirst, hplain⟩ := hopens
    refine ⟨⟨a, by rwa [← List.head?_eq_getElem?], by simpa using hplain⟩, ?_⟩
    intro place' _ hplace
    cases hplace

/-- A piece starts where there is no separator, in front of all else or behind a
separator. -/
theorem startsAt_iff {text : List α} {place : Nat} :
    StartsAt separates text place ↔
      (∃ a, text[place]? = some a ∧ separates a = false) ∧
        (place = 0 ∨ ∃ a, text[place - 1]? = some a ∧ separates a = true) := by
  constructor
  · rintro ⟨hhere, hbefore⟩
    refine ⟨hhere, ?_⟩
    cases place with
    | zero => exact .inl rfl
    | succ place' =>
        obtain ⟨a, ha, -⟩ := hhere
        have hlength := (List.getElem?_eq_some_iff.1 ha).1
        have hprevious : text[place']? = some text[place'] :=
          List.getElem?_eq_getElem (by omega)
        exact .inr ⟨text[place'], hprevious, hbefore place' _ rfl hprevious⟩
  · rintro ⟨hhere, hfirst⟩
    refine ⟨hhere, ?_⟩
    rintro place' a rfl ha
    obtain ⟨b, hb, hseparates⟩ := hfirst.resolve_left (Nat.succ_ne_zero place')
    rw [Nat.add_sub_cancel, ha] at hb
    rwa [Option.some.inj hb]

/-- Behind an element that is no separator, the piece at the front of a text does not
start there. -/
theorem startsAt_succ_iff {a : α} {text : List α} {place : Nat} :
    StartsAt separates (a :: text) (place + 1) ↔
      StartsAt separates text place ∧ (place = 0 → separates a = true) := by
  constructor
  · rintro ⟨hhere, hbefore⟩
    refine ⟨⟨by simpa using hhere, ?_⟩, ?_⟩
    · rintro place' b rfl hb
      exact hbefore (place' + 1) b rfl (by simpa using hb)
    · rintro rfl
      exact hbefore 0 a rfl rfl
  · rintro ⟨⟨hhere, hbefore⟩, hfirst⟩
    refine ⟨by simpa using hhere, ?_⟩
    intro place' b hplace hb
    obtain rfl := Nat.succ.inj hplace
    cases place with
    | zero =>
        obtain rfl : a = b := by simpa using hb
        exact hfirst rfl
    | succ place' => exact hbefore place' b rfl (by simpa using hb)

/-- There are as many pieces as places where one starts. -/
theorem encard_startsAt (text : List α) :
    {place | StartsAt separates text place}.encard = pieceCount separates text := by
  induction text with
  | nil =>
      have hnone : {place | StartsAt separates ([] : List α) place} = ∅ := by
        ext place
        constructor
        · rintro ⟨⟨a, hnone, -⟩, -⟩
          cases hnone
        · rintro ⟨⟩
      simp [hnone]
  | cons a text ih =>
      by_cases hseparates : separates a = true
      · have hplaces : {place | StartsAt separates (a :: text) place} =
            Nat.succ '' {place | StartsAt separates text place} := by
          ext place
          cases place with
          | zero => simp [startsAt_zero_iff, opensPiece, hseparates]
          | succ place => simp [startsAt_succ_iff, hseparates]
        rw [hplaces, Nat.succ_injective.encard_image, ih, pieceCount_cons]
        simp [hseparates]
      · have hplaces : {place | StartsAt separates (a :: text) place} =
            insert 0 (Nat.succ '' ({place | StartsAt separates text place} \ {0})) := by
          ext place
          cases place with
          | zero => simp [startsAt_zero_iff, opensPiece, hseparates]
          | succ place => simp [startsAt_succ_iff, hseparates]
        rw [hplaces, Set.encard_insert_of_notMem (by simp),
          Nat.succ_injective.encard_image, pieceCount_cons]
        by_cases hopens : opensPiece separates text = true
        · have hfirst : 0 ∈ {place | StartsAt separates text place} :=
            startsAt_zero_iff.2 hopens
          rw [Set.encard_sdiff_singleton_add_one hfirst, ih]
          simp [hopens]
        · have hfirst : 0 ∉ {place | StartsAt separates text place} :=
            fun hstarts => hopens (startsAt_zero_iff.1 hstarts)
          rw [Set.sdiff_singleton_eq_self hfirst, ih]
          simp [hopens, hseparates]

theorem IsRun.startsAt {text : List α} {start stop : Nat}
    (hrun : IsRun separates text start stop) :
    StartsAt separates text start where
  here := hrun.inside start le_rfl hrun.nonempty
  before := hrun.before

/-- Of two runs that start together neither ends before the other. -/
theorem IsRun.stop_le {text : List α} {start stop other : Nat}
    (hrun : IsRun separates text start stop) (hother : IsRun separates text start other) :
    stop ≤ other := by
  by_contra hlonger
  have hstarts := hother.nonempty
  obtain ⟨a, ha, hplain⟩ := hrun.inside other (by omega) (by omega)
  rw [hother.behind a ha] at hplain
  cases hplain

/-- A run goes on to the next separator. -/
theorem StartsAt.exists_isRun {text : List α} {start : Nat}
    (hstarts : StartsAt separates text start) :
    ∃ stop, IsRun separates text start stop := by
  classical
  have hends : ∃ stop, start < stop ∧ ∀ a, text[stop]? = some a → separates a = true := by
    refine ⟨start + 1 + text.length, by omega, ?_⟩
    intro a ha
    rw [List.getElem?_eq_none (by omega)] at ha
    cases ha
  obtain ⟨hlonger, hbehind⟩ := Nat.find_spec hends
  refine ⟨Nat.find hends, hlonger, ?_, hstarts.before, hbehind⟩
  intro place hstart hstop
  by_cases hfirst : place = start
  · rw [hfirst]
    exact hstarts.here
  -- No place before the end of the run is one where it could have ended.
  · have hgoes := Nat.find_min hends hstop
    push Not at hgoes
    obtain ⟨a, ha, hplain⟩ := hgoes (by omega)
    exact ⟨a, ha, by simpa using hplain⟩

/-- There are as many runs as pieces. -/
theorem encard_isRun (text : List α) :
    {run : Nat × Nat | IsRun separates text run.1 run.2}.encard =
    pieceCount separates text := by
  have hstarts : Prod.fst '' {run : Nat × Nat | IsRun separates text run.1 run.2} =
      {place | StartsAt separates text place} := by
    ext start
    constructor
    · rintro ⟨run, hrun, rfl⟩
      exact hrun.startsAt
    · intro hstart
      obtain ⟨stop, hrun⟩ := StartsAt.exists_isRun hstart
      exact ⟨(start, stop), hrun, rfl⟩
  have hinj : Set.InjOn Prod.fst
      {run : Nat × Nat | IsRun separates text run.1 run.2} := by
    rintro ⟨start, stop⟩ hrun ⟨other, stop'⟩ hrun' hsame
    obtain rfl : start = other := hsame
    exact Prod.ext rfl
      (Nat.le_antisymm (IsRun.stop_le hrun hrun') (IsRun.stop_le hrun' hrun))
  rw [← encard_startsAt, ← hstarts, hinj.encard_image]

end Runs

/-! ## Words -/

theorem wordCount_eq_pieceCount (text : Bytes) :
    wordCount text = pieceCount isBlank text := rfl

theorem wordCount_le_length (text : Bytes) : wordCount text ≤ text.length := by
  rw [wordCount_eq_pieceCount]
  exact pieceCount_le_length text

/-- A text has as many words as places that hold no blank at its front or behind a
blank.  Two texts that are put together have the words of both, one less exactly when
the first closes with a word and the second opens with one. -/
theorem wordCount_starts_and_joins :
    (∀ text : Bytes,
      {place | (∃ byte, text[place]? = some byte ∧ isBlank byte = false) ∧
          (place = 0 ∨ ∃ byte, text[place - 1]? = some byte ∧
            isBlank byte = true)}.encard =
        wordCount text) ∧
    ∀ front others : Bytes,
      wordCount (front ++ others) +
          (if closesPiece isBlank front && opensPiece isBlank others then 1 else 0) =
        wordCount front + wordCount others := by
  refine ⟨?_, pieceCount_append⟩
  intro text
  rw [wordCount_eq_pieceCount, ← encard_startsAt]
  congr 1
  ext place
  exact startsAt_iff.symm

end ParallelCorpus.Text
