import ParallelCorpus.Proofs.Clearing
import ParallelCorpus.Proofs.PairFilter
import ParallelCorpus.Proofs.TallyJson
import ParallelCorpus.Program

/-!
# Summary files

The totals of a run are written as a JSON text to a file, in the place of what it held;
on the standard output they are printed, and no file changes.  The text decodes to the
totals that it was written for, and so does every other text with the same members; two
different tallies leave two different files.
-/

namespace ParallelCorpus

open Text (Bytes)
open FileTree (LeafChange)

namespace FileTree

/-! ## Writing a whole file -/

/-- What is opened as a file is one. -/
theorem get?_of_openOutput {tree opened : FileTree} {path : Path} {handle : Handle}
    (hopen : tree.openOutput path = .ok (handle, opened))
    (hmedium : handle.medium = .file) :
    ∃ content, opened.get? handle.location = some (.file content) := by
  rw [openOutput, bind_eq_ok_iff] at hopen
  obtain ⟨site, hsite, hopen⟩ := hopen
  split at hopen
  · rename_i hvacant
    cases hopen
    have hbelow : site.location ≠ [] := ne_nil_of_signpost (by rw [hvacant]; rfl)
    exact ⟨[], get?_create_self tree _ hbelow⟩
  · rename_i content hfile
    cases hopen
    exact ⟨content, hfile⟩
  · rename_i kind hdevice
    cases hopen
    cases kind <;> cases hmedium
  · cases hopen
  · cases hopen

theorem leafChange_put {tree : FileTree} {location : Location} {content : Bytes}
    (hfile : tree.get? location = some (.file content)) (other : Bytes) :
    LeafChange (· = location) tree (tree.put location (.file other)) := by
  have hpost : signpost (tree.get? location) = none := by
    rw [hfile]
    rfl
  refine .single (base_put ..) hpost ?_ fun place hplace => get?_put_of_ne tree _ hplace
  rw [get?_put_self tree _ (ne_nil_of_signpost hpost)]
  rfl

/-- Writing a file touches the place that its path leads to, and nothing else. -/
theorem leafChange_writeFile (tree : FileTree) (path : Path) (content : Bytes) :
    LeafChange (tree.WritesTo path) tree (tree.writeFile path content).2 := by
  rw [writeFile]
  cases hopen : tree.openOutput path with
  | error fault => exact .refl _ tree
  | ok first =>
      obtain ⟨handle, opened⟩ := first
      obtain ⟨hplace, hchange⟩ := openOutput_ok hopen
      have hthere : ∀ location, location = handle.location →
          tree.WritesTo path location := by
        rintro location rfl
        exact hplace
      have hopened := hchange.mono hthere
      cases hmedium : handle.medium with
      | file =>
          simp only [hmedium]
          obtain ⟨before, hfile⟩ := get?_of_openOutput hopen hmedium
          exact hopened.trans ((leafChange_put hfile content).mono hthere)
      | drain =>
          simp only [hmedium]
          exact hopened
      | refusing fault =>
          simp only [hmedium]
          exact hopened

/-- A file that is new or regular is written. -/
theorem writeFile_of_keeps {tree : FileTree} {path : Path} {location : Location}
    {before : Bytes} (hplace : tree.WritesTo path location)
    (hkeeps : tree.Keeps location before) (content : Bytes) :
    ∃ written, tree.writeFile path content = (.ok (), written) ∧
      written.get? location = some (.file content) := by
  obtain ⟨opened, hopen, -, hfile⟩ := openOutput_of_keeps hplace hkeeps
  have hbelow : location ≠ [] := ne_nil_of_signpost (by rw [hfile]; rfl)
  refine ⟨opened.put location (.file content), ?_, get?_put_self opened _ hbelow⟩
  simp only [writeFile, hopen]

theorem isStandardOutput_iff_status {tree : FileTree} {path : Path} :
    tree.isStandardOutput path = true ↔
      tree.status path = .ok (.device .standardOutput) := by
  rw [isStandardOutput]
  split
  · rename_i hstatus
    exact iff_of_true rfl hstatus
  · rename_i hother
    exact iff_of_false Bool.false_ne_true hother

/-- The standard output takes every text, and no file changes. -/
theorem writeFile_of_isStandardOutput {tree : FileTree} {path : Path}
    (houtput : tree.isStandardOutput path = true) (content : Bytes) :
    tree.writeFile path content = (.ok (), tree) := by
  obtain ⟨site, hread, hentry⟩ :=
    status_eq_ok_iff.1 (isStandardOutput_iff_status.1 houtput)
  obtain ⟨hdevice, hplain⟩ := entryAt_eq_ok_iff.1 hentry
  have hwrite : tree.locate .write path = .ok site :=
    locate_write_of_read hread (hplain (by simp))
  have hopen : tree.openOutput path = .ok (⟨site.location, .drain⟩, tree) := by
    rw [openOutput, hwrite]
    simp only [bind, Except.bind, hdevice]
    rfl
  simp only [writeFile, hopen]

end FileTree

/-! ## Writing a tally -/

/-- Writing a tally touches the place that the path leads to, and nothing else. -/
theorem leafChange_writeSummary (total : Tally) (path : Path) (tree : FileTree) :
    LeafChange (tree.WritesTo path) tree (writeSummary total path tree).2 :=
  FileTree.leafChange_writeFile tree path (Text.utf8 total.json)

/-- A tally is written to a file that is new or regular. -/
theorem writeSummary_of_keeps {tree : FileTree} {path : Path} {place : Location}
    {before : Bytes} (hplace : tree.WritesTo path place)
    (hkeeps : tree.Keeps place before) (total : Tally) :
    ∃ final, writeSummary total path tree = (.ok (), final) ∧
      final.get? place = some (.file (Text.utf8 total.json)) := by
  obtain ⟨final, hwritten, hfile⟩ :=
    FileTree.writeFile_of_keeps hplace hkeeps (Text.utf8 total.json)
  refine ⟨final, ?_, hfile⟩
  rw [writeSummary, hwritten]
  rfl

theorem writeSummary_of_isStandardOutput {tree : FileTree} {path : Path}
    (houtput : tree.isStandardOutput path = true) (total : Tally) :
    writeSummary total path tree = (.ok (), tree) := by
  rw [writeSummary, FileTree.writeFile_of_isStandardOutput houtput]
  rfl

theorem Tally.length_json_pos (tally : Tally) : 0 < tally.json.length := by
  have hend : 0 < "\x7d".length := by decide
  rw [json, Json.writeObject]
  simp only [String.length_append]
  omega

/-! ## Telling tallies apart by their files -/

/-- Two texts that are the same in bytes are the same. -/
theorem Text.utf8_injective : Function.Injective Text.utf8 := by
  intro text other hbytes
  rw [Text.utf8, Text.utf8, Array.toList_inj] at hbytes
  exact String.toByteArray_inj.1 (ByteArray.ext hbytes)

namespace Tally

/-- Tallies whose figures fit in 64 bits are the same when they are written as the same
text. -/
theorem eq_of_json_eq {tally other : Tally} (hbounded : tally.Bounded)
    (hother : other.Bounded) (hjson : tally.json = other.json) : tally = other := by
  have hread := ofJson_json hbounded
  rw [hjson, ofJson_json hother] at hread
  exact (Except.ok.inj hread).symm

/-- The text of a tally whose figures fit in 64 bits decodes to that tally, and so does
each text that comes from it by giving the members of an object another order, putting
other blanks between the tokens or dropping members that are null.  The text is what the
summary file holds; the file of another tally holds something else. -/
theorem ofJson_summary {tally : Tally} (hbounded : tally.Bounded) :
    (tally.SpelledBy tally.json ∧ ∀ text, tally.SpelledBy text →
      ofJson text = .ok tally) ∧
    ∀ {path place before} {tree : FileTree}, tree.WritesTo path place →
      tree.Keeps place before →
      ∃ final, writeSummary tally path tree = (.ok (), final) ∧
        final.get? place = some (.file (Text.utf8 tally.json)) ∧
        ∀ {other path' place' before'} {tree' : FileTree}, other.Bounded → other ≠ tally →
          tree'.WritesTo path' place' → tree'.Keeps place' before' →
          (writeSummary other path' tree').2.get? place' ≠ final.get? place := by
  refine ⟨⟨tally.spelledBy_json, fun _ hspelled => ofJson_of_spelledBy hbounded hspelled⟩,
    ?_⟩
  intro path place before tree hplace hkeeps
  obtain ⟨final, hwritten, hfile⟩ := writeSummary_of_keeps hplace hkeeps tally
  refine ⟨final, hwritten, hfile, ?_⟩
  intro other path' place' before' tree' hother hne hplace' hkeeps' hsame
  obtain ⟨final', hwritten', hfile'⟩ := writeSummary_of_keeps hplace' hkeeps' other
  rw [hwritten', hfile', hfile, Option.some.injEq, Entry.file.injEq] at hsame
  exact hne (eq_of_json_eq hother hbounded (Text.utf8_injective hsame))

/-- A text with its members in another order, with other blanks and without the figure
that is null; and the files of two tallies that differ in their last digit. -/
theorem ofJson_summary_shuffled :
    let tally : Tally := ⟨0, 1, 1, 18446744073709551615, ⟨3, 3, some 3⟩, ⟨0, 0, none⟩⟩
    let other : Tally := ⟨0, 1, 1, 18446744073709551614, ⟨3, 3, some 3⟩, ⟨0, 0, none⟩⟩
    let source :=
      "\x7b\"min_word_count\":3,\"sum_of_word_counts\":3,\"max_word_count\":3\x7d"
    let target := "\x7b\"max_word_count\" :0,\"sum_of_word_counts\":\t0 \x7d"
    let text := "\x7b\"target\":" ++ target ++ ",\n\"documents\":18446744073709551615," ++
      "\"approved\":0,\"total_lines\":1,\"discarded\":1,\"source\":" ++ source ++ "\x7d\n"
    let tree : FileTree := ⟨[], [], List.nodup_nil⟩
    let place : Location := [⟨"s.json", by decide⟩]
    ofJson text = .ok tally ∧
      (writeSummary other ⟨"s.json"⟩ tree).2.get? place ≠
        (writeSummary tally ⟨"s.json"⟩ tree).2.get? place := by
  intro tally other source target text tree place
  have hbounded (documents : Nat) (hdocuments : documents < Text.countBound) :
      Bounded ⟨0, 1, 1, documents, ⟨3, 3, some 3⟩, ⟨0, 0, none⟩⟩ := by
    simpa [Bounded, SideTally.Bounded, Text.countBound] using hdocuments
  have hsource : tally.source.SpelledBy source :=
    ⟨_, ⟨⟨"min_word_count", some 3, ['3'], [], [], [], []⟩,
      [⟨"sum_of_word_counts", some 3, ['3'], [], [], [], []⟩,
        ⟨"max_word_count", some 3, ['3'], [], [], [], []⟩], [],
      by decide +kernel, by decide, by decide, by decide +kernel⟩, .inl rfl⟩
  have htarget : tally.target.SpelledBy target :=
    ⟨_, ⟨⟨"max_word_count", some 0, ['0'], [], [' '], [], []⟩,
      [⟨"sum_of_word_counts", some 0, ['0'], [], [], ['\t'], []⟩], [' '],
      by decide +kernel, by decide, by decide, by decide +kernel⟩, .inr ⟨rfl, rfl⟩⟩
  let first : Json.Written Member :=
    ⟨"target", .side tally.target, target.toList, [], [], [], []⟩
  let others : List (Json.Written Member) :=
    [ ⟨"documents", .count 18446744073709551615, "18446744073709551615".toList,
      ['\n'], [], [], []⟩, ⟨"approved", .count 0, ['0'], [], [], [], []⟩,
      ⟨"total_lines", .count 1, ['1'], [], [], [], []⟩,
      ⟨"discarded", .count 1, ['1'], [], [], [], []⟩,
      ⟨"source", .side tally.source, source.toList, [], [], [], []⟩ ]
  have htext : text.toList = [] ++ (Json.Written.object first others [] ++ ['\n']) := by
    simp only [text, String.toList_append]
    decide +kernel
  have hspelled : tally.SpelledBy text :=
    ⟨[], _, ['\n'], source, target, htext, by decide, by decide, hsource, htarget,
      ⟨first, others, [], rfl, by decide, by decide, by decide +kernel⟩⟩
  have hplace : tree.WritesTo ⟨"s.json"⟩ place :=
    ⟨⟨place, true, false⟩, by decide +kernel, rfl⟩
  have hkeeps : tree.Keeps place [] := .inr ⟨by decide +kernel, rfl⟩
  have hother : other.Bounded := hbounded _ (by decide +kernel)
  have htally : tally.Bounded := hbounded _ (by decide +kernel)
  obtain ⟨⟨-, hdecodes⟩, hfiles⟩ := ofJson_summary htally
  obtain ⟨final, hwritten, -, hdiffers⟩ := hfiles hplace hkeeps
  refine ⟨hdecodes text hspelled, ?_⟩
  rw [hwritten]
  exact hdiffers hother (by decide +kernel) hplace hkeeps

end Tally
end ParallelCorpus
