import ParallelCorpus.Proofs.JsonReaders
import ParallelCorpus.Tally.Json

/-!
# Tallies through JSON

A tally whose figures all fit in 64 bits is read back from the text that it is written
as.  The order of the members of its objects, the blanks between the tokens and members
that are null make no difference.
-/

namespace ParallelCorpus

open Text (countBound)

namespace Json

/-! ## Objects by their members -/

section Objects

variable {Value : Type}

/-- A member without its blanks: its name, its value and how that is written. -/
def Written.line (written : Written Value) : String × Value × String :=
  (written.name, written.value, String.ofList written.text)

/-- A text is an object with these members, in any order and with any blanks between its
tokens. -/
def ObjectOf (lines : List (String × Value × String)) (text : List Char) : Prop :=
  ∃ (first : Written Value) (others : List (Written Value)) (closing : List Char),
    text = Written.object first others closing ∧ Blank closing ∧
      (∀ written ∈ first :: others, written.Spaced) ∧
      ((first :: others).map Written.line).Perm lines

/-- In which order members come makes no difference when one is looked up. -/
theorem lookup_of_perm {found members : List (String × Value)}
    (hperm : found.Perm members) (hdistinct : (found.map Prod.fst).Nodup)
    (name : String) :
    found.lookup name = members.lookup name := by
  induction hperm with
  | nil => rfl
  | cons member _ ih =>
      rw [List.map_cons, List.nodup_cons] at hdistinct
      rw [List.lookup_cons, List.lookup_cons, ih hdistinct.2]
  | swap member other members =>
      have hne : other.1 ≠ member.1 := by
        simp only [List.map_cons, List.nodup_cons, List.mem_cons, not_or] at hdistinct
        exact hdistinct.1.1
      obtain ⟨memberName, value⟩ := member
      obtain ⟨otherName, value'⟩ := other
      simp only [List.lookup_cons]
      cases hother : name == otherName with
      | false => rfl
      | true =>
          have hmember : (name == memberName) = false := by
            rw [eq_of_beq hother]
            exact beq_false_of_ne hne
          rw [hmember]
  | trans hfirst _ ih ih' =>
      exact (ih hdistinct).trans (ih' ((hfirst.map Prod.fst).nodup_iff.1 hdistinct))

/-- An object is read as its members, each found by its name. -/
theorem reads_objectOf (names : List String) (reader : String → Reader Value)
    {lines : List (String × Value × String)} {text : List Char}
    (hobject : ObjectOf lines text)
    (hplain : ∀ name ∈ names, name.toList.all isPlain = true)
    (hknown : ∀ line ∈ lines, line.1 ∈ names) (hdistinct : (lines.map Prod.fst).Nodup)
    (hreads : ∀ line ∈ lines, Reads (reader line.1) line.2.2.toList line.2.1) :
    ∃ found, Reads (record names reader) text found ∧
      ∀ name, found.lookup name =
        (lines.map fun line => (line.1, line.2.1)).lookup name := by
  obtain ⟨first, others, closing, rfl, hclosing, hspaced, hperm⟩ := hobject
  have hsound : ∀ written ∈ first :: others, written.Sound names reader := by
    intro written hwritten
    have hline : written.line ∈ lines := hperm.mem_iff.1 (List.mem_map_of_mem hwritten)
    have hread := hreads _ hline
    rw [Written.line, String.toList_ofList] at hread
    exact {
      toSpaced := hspaced written hwritten
      known := hknown _ hline
      plain := hplain _ (hknown _ hline)
      reads := hread }
  have hnames := hperm.map Prod.fst
  rw [List.map_map] at hnames
  have hwritten : ((first :: others).map Written.name).Nodup :=
    hnames.nodup_iff.2 hdistinct
  refine ⟨_, reads_object hsound hwritten hclosing, fun name => ?_⟩
  apply lookup_of_perm
  · have hfound := hperm.map fun line => (line.1, line.2.1)
    rw [List.map_map] at hfound
    exact hfound
  · rw [List.map_map]
    exact hwritten

/-! ## Objects as they are written -/

/-- A member on a line of its own, behind some blanks. -/
def onLine (indent : Nat) (line : String × Value × String) : Written Value where
  name := line.1
  value := line.2.1
  text := line.2.2.toList
  beforeName := '\n' :: List.replicate indent ' '
  beforeValue := [' ']

theorem blank_line (indent : Nat) : Blank ('\n' :: List.replicate indent ' ') := by
  intro c hc
  rcases List.mem_cons.1 hc with rfl | hc
  · rfl
  · rw [List.eq_of_mem_replicate hc]
    rfl

theorem spaced_onLine (indent : Nat) (line : String × Value × String) :
    (onLine indent line).Spaced where
  beforeName := blank_line indent
  afterName := List.forall_mem_nil _
  beforeValue := List.forall_mem_singleton.2 rfl
  afterValue := List.forall_mem_nil _

theorem line_onLine (indent : Nat) (line : String × Value × String) :
    (onLine indent line).line = line := by
  rw [Written.line, onLine, String.ofList_toList]

theorem intercalate_cons {α : Type} (separator first : List α) (others : List (List α)) :
    separator.intercalate (first :: others) =
      first ++ others.flatMap (separator ++ ·) := by
  induction others generalizing first with
  | nil => simp
  | cons other others ih =>
      rw [List.intercalate_cons_cons, ih, List.flatMap_cons, List.append_assoc,
        List.append_assoc]

/-- What is written as an object has each member on its line. -/
theorem toList_writeObject (indent : Nat) (first : String × Value × String)
    (others : List (String × Value × String)) :
    (writeObject indent
      ((first :: others).map fun line => writeMember line.1 line.2.2)).toList =
      Written.object (onLine (indent + 2) first) (others.map (onLine (indent + 2)))
        ('\n' :: List.replicate indent ' ') := by
  have hchars (line : String × Value × String) : (onLine (indent + 2) line).chars =
      '\n' ::
        (List.replicate (indent + 2) ' ' ++ (writeMember line.1 line.2.2).toList) := by
    simp [Written.chars, onLine, writeMember]
  have hothers :
      (others.map (onLine (indent + 2))).flatMap (fun written => ',' :: written.chars) =
        (others.map fun line => List.replicate (indent + 2) ' ' ++
          (writeMember line.1 line.2.2).toList).flatMap (',' :: '\n' :: ·) := by
    simp only [List.flatMap_map, hchars]
  simp [writeObject, Written.object, hchars, hothers, intercalate_cons,
    String.toList_intercalate, Function.comp_def]

/-- What is written as an object is one. -/
theorem objectOf_writeObject (indent : Nat) {lines : List (String × Value × String)}
    (hsome : lines ≠ []) :
    ObjectOf lines
      (writeObject indent
        (lines.map fun line => writeMember line.1 line.2.2)).toList := by
  obtain ⟨first, others, rfl⟩ := List.exists_cons_of_ne_nil hsome
  refine ⟨_, _, _, toList_writeObject indent first others, blank_line indent, ?_, ?_⟩
  · rw [← List.map_cons]
    intro written hwritten
    obtain ⟨line, -, rfl⟩ := List.mem_map.1 hwritten
    exact spaced_onLine _ line
  · rw [← List.map_cons, List.map_map]
    have hlines : Written.line ∘ onLine (indent + 2) =
        (id : String × Value × String → _) :=
      funext fun line => line_onLine _ line
    rw [hlines, List.map_id]

end Objects

/-! ## Values as they are written -/

/-- A reader that turns what another one reads into something else. -/
theorem Reads.map {α β : Type} {reader : Reader α} {text : List Char} {value : α}
    (hreads : Reads reader text value) (turn : α → β) :
    Reads (fun text => (reader text).map fun (value, text) => (turn value, text)) text
      (turn value) := by
  intro before after hblank hends
  simp only [hreads before after hblank hends]
  rfl

/-- A count is read from how it is written. -/
theorem reads_toString {n : Nat} (hbound : n < countBound) :
    Reads count (toString n).toList n := by
  rw [Nat.toString_eq_repr, Nat.toList_repr]
  exact reads_count hbound

/-- A count that may be missing is read from how it is written. -/
theorem reads_optional {value : Option Nat} (hbound : ∀ n ∈ value, n < countBound) :
    Reads optionalCount ((value.map toString).getD "null").toList value := by
  cases value with
  | none => exact reads_null
  | some n =>
      rw [Option.map_some, Option.getD_some, Nat.toString_eq_repr, Nat.toList_repr]
      exact reads_optionalCount (hbound n rfl)

end Json

/-! ## Reading back what was written -/

namespace SideTally

/-- All figures are below the first number that does not fit in 64 bits. -/
def Bounded (side : SideTally) : Prop :=
  side.words < countBound ∧ side.longest < countBound ∧
    ∀ shortest ∈ side.shortest, shortest < countBound

/-- The members of the object that the figures of one side are written as. -/
def jsonLines (side : SideTally) : List (String × Option Nat × String) :=
  [ ("sum_of_word_counts", some side.words, toString side.words),
    ("max_word_count", some side.longest, toString side.longest),
    ("min_word_count", side.shortest, (side.shortest.map toString).getD "null") ]

/-- A text of the figures of one side, with the members in any order and any blanks
between the tokens; a member that is null may be dropped. -/
def SpelledBy (side : SideTally) (text : String) : Prop :=
  ∃ lines, Json.ObjectOf lines text.toList ∧ (lines = side.jsonLines ∨
    side.shortest = none ∧ lines = side.jsonLines.filter (·.1 != "min_word_count"))

theorem json_eq_writeObject (side : SideTally) :
    side.json =
      Json.writeObject 2
        (side.jsonLines.map fun line => Json.writeMember line.1 line.2.2) := rfl

theorem spelledBy_json (side : SideTally) : side.SpelledBy side.json := by
  refine ⟨side.jsonLines, ?_, .inl rfl⟩
  rw [json_eq_writeObject]
  exact Json.objectOf_writeObject 2 (by simp [jsonLines])

/-- Every member is read as the figure that it is for. -/
theorem reads_jsonLines {side : SideTally} (hbounded : side.Bounded) :
    ∀ line ∈ side.jsonLines, Json.Reads (readMember line.1) line.2.2.toList line.2.1 := by
  obtain ⟨hwords, hlongest, hshortest⟩ := hbounded
  simp only [jsonLines, List.forall_mem_cons]
  refine ⟨?_, ?_, ?_, List.forall_mem_nil _⟩
  · exact (Json.reads_toString hwords).map some
  · exact (Json.reads_toString hlongest).map some
  · exact Json.reads_optional hshortest

/-- The figures of one side are read back from every text of them. -/
theorem reads_of_spelledBy {side : SideTally} (hbounded : side.Bounded) {text : String}
    (hspelled : side.SpelledBy text) : Json.Reads read text.toList side := by
  obtain ⟨lines, hobject, hlines⟩ := hspelled
  have hsublist : lines.Sublist side.jsonLines := by
    rcases hlines with rfl | ⟨-, rfl⟩
    · exact .refl _
    · exact List.filter_sublist
  have hnames : side.jsonLines.map Prod.fst = memberNames := rfl
  have hknown : ∀ line ∈ lines, line.1 ∈ memberNames := by
    intro line hline
    rw [← hnames]
    exact List.mem_map_of_mem (hsublist.subset hline)
  have hdistinct : (lines.map Prod.fst).Nodup := by
    have hdistinct : memberNames.Nodup := by decide
    rw [← hnames] at hdistinct
    exact hdistinct.sublist (hsublist.map Prod.fst)
  obtain ⟨found, hrecord, hlookup⟩ := Json.reads_objectOf memberNames readMember
    hobject (by decide) hknown hdistinct fun line hline =>
      reads_jsonLines hbounded line (hsublist.subset hline)
  intro before after hblank hends
  simp only [read, hrecord before after hblank hends, bind, Except.bind, requireFigure,
    Json.require, hlookup]
  -- A figure that is found as null is the same as one that is not found.
  rcases hlines with rfl | ⟨hmissing, rfl⟩
  · rfl
  · obtain ⟨words, longest, shortest⟩ := side
    cases hmissing
    rfl

end SideTally

namespace Tally

/-- All figures are below the first number that does not fit in 64 bits. -/
def Bounded (tally : Tally) : Prop :=
  tally.approved < countBound ∧ tally.discarded < countBound ∧ tally.lines < countBound ∧
    tally.documents < countBound ∧ tally.source.Bounded ∧ tally.target.Bounded

/-- The members of the object that a tally is written as, with these texts of its
sides. -/
def jsonLines (tally : Tally) (source target : String) :
    List (String × Member × String) :=
  [ ("approved", .count tally.approved, toString tally.approved),
    ("discarded", .count tally.discarded, toString tally.discarded),
    ("total_lines", .count tally.lines, toString tally.lines),
    ("documents", .count tally.documents, toString tally.documents),
    ("source", .side tally.source, source),
    ("target", .side tally.target, target) ]

/-- A text of a tally: the members of its objects in any order, and any blanks around
the tokens. -/
def SpelledBy (tally : Tally) (text : String) : Prop :=
  ∃ (before object after : List Char) (source target : String),
    text.toList = before ++ (object ++ after) ∧ Json.Blank before ∧ Json.Blank after ∧
      tally.source.SpelledBy source ∧ tally.target.SpelledBy target ∧
      Json.ObjectOf (tally.jsonLines source target) object

theorem json_eq_writeObject (tally : Tally) :
    tally.json = Json.writeObject 0
      ((tally.jsonLines tally.source.json tally.target.json).map fun line =>
        Json.writeMember line.1 line.2.2) := rfl

theorem spelledBy_json (tally : Tally) : tally.SpelledBy tally.json := by
  refine ⟨[], tally.json.toList, [], tally.source.json, tally.target.json, by simp,
    List.forall_mem_nil _, List.forall_mem_nil _, tally.source.spelledBy_json,
    tally.target.spelledBy_json, ?_⟩
  rw [json_eq_writeObject]
  exact Json.objectOf_writeObject 0 (by simp [jsonLines])

/-- Every member is read as the figures that it is for. -/
theorem reads_jsonLines {tally : Tally} (hbounded : tally.Bounded)
    {source target : String} (hsource : tally.source.SpelledBy source)
    (htarget : tally.target.SpelledBy target) :
    ∀ line ∈ tally.jsonLines source target,
      Json.Reads (readMember line.1) line.2.2.toList line.2.1 := by
  obtain ⟨happroved, hdiscarded, hlines, hdocuments, hsourceBounded, htargetBounded⟩ :=
    hbounded
  simp only [jsonLines, List.forall_mem_cons]
  refine ⟨?_, ?_, ?_, ?_, ?_, ?_, List.forall_mem_nil _⟩
  · exact (Json.reads_toString happroved).map Member.count
  · exact (Json.reads_toString hdiscarded).map Member.count
  · exact (Json.reads_toString hlines).map Member.count
  · exact (Json.reads_toString hdocuments).map Member.count
  · exact (SideTally.reads_of_spelledBy hsourceBounded hsource).map Member.side
  · exact (SideTally.reads_of_spelledBy htargetBounded htarget).map Member.side

/-- A tally is read back from every text of it. -/
theorem ofJson_of_spelledBy {tally : Tally} (hbounded : tally.Bounded) {text : String}
    (hspelled : tally.SpelledBy text) : ofJson text = .ok tally := by
  obtain ⟨before, object, after, source, target, htext, hbefore, hafter, hsource, htarget,
    hobject⟩ := hspelled
  have hnames : (tally.jsonLines source target).map Prod.fst = memberNames := rfl
  have hknown : ∀ line ∈ tally.jsonLines source target, line.1 ∈ memberNames := by
    intro line hline
    rw [← hnames]
    exact List.mem_map_of_mem hline
  have hdistinct : ((tally.jsonLines source target).map Prod.fst).Nodup := by
    rw [hnames]
    decide
  obtain ⟨found, hrecord, hlookup⟩ := Json.reads_objectOf memberNames readMember
    hobject (by decide) hknown hdistinct (reads_jsonLines hbounded hsource htarget)
  have hends : Json.Ends after := by
    have hends : Json.Ends (after ++ []) := hafter.ends nofun
    rwa [List.append_nil] at hends
  have hrest : Json.skipBlanks after = [] := by
    have hrest := Json.skipBlanks_append hafter []
    rwa [List.append_nil] at hrest
  have hread : read text.toList = .ok (tally, after) := by
    simp only [htext, read, hrecord before after hbefore hends, bind,
      Except.bind, requireCount, requireSide, Json.require, hlookup]
    rfl
  simp only [ofJson, Json.whole, hread, bind, Except.bind, hrest]
  rfl

/-- A tally is read back from the text that it is written as. -/
theorem ofJson_json {tally : Tally} (hbounded : tally.Bounded) :
    ofJson tally.json = .ok tally :=
  ofJson_of_spelledBy hbounded tally.spelledBy_json

end Tally

end ParallelCorpus
