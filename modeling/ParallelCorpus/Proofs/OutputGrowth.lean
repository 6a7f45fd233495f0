import ParallelCorpus.Proofs.LineAlignment
import ParallelCorpus.Proofs.Listing
import ParallelCorpus.Proofs.StrictAlignment

/-!
# Outputs only grow

A document pair of which a file cannot be opened is given up before anything is written;
at most an empty source output has come into being by then.  However a pair that was
opened ends, an output that leads to a file keeps what it held and grows by whole
accepted lines, those of the line pairs up to some place.  When the target output
refuses a line, the source output already has the line beside it, so the two places can
differ.
-/

namespace ParallelCorpus

open Text (Bytes)
open Progress (Took)
open FileTree (LeafChange SameWays)

/-! ## Lockstep, however it ends -/

/-- What the accepted ones among the first few line pairs put into the output of one
side. -/
def share (side : Bytes × Bytes → Bytes) (range : WordRange)
    (pairs : List (Bytes × Bytes)) (count : Nat) : Bytes :=
  (((pairs.take count).filter range.keeps).map side).flatten

section Share

variable (side : Bytes × Bytes → Bytes) (range : WordRange)
  (pairs rest : List (Bytes × Bytes))

@[simp]
theorem share_zero : share side range pairs 0 = [] := by
  simp [share]

theorem share_append (count : Nat) :
    share side range (pairs ++ rest) (pairs.length + count) =
      ((pairs.filter range.keeps).map side).flatten ++ share side range rest count := by
  rw [share, List.take_length_add_append, List.filter_append, List.map_append,
    List.flatten_append]
  rfl

end Share

namespace Progress

/-- How progress grows by some of the line pairs that come next: to either output the
accepted ones among the first few are written. -/
structure Wrote (range : WordRange) (pairs : List (Bytes × Bytes))
    (before after : Progress) : Prop where
  sourceMedium : after.source.medium = before.source.medium
  targetMedium : after.target.medium = before.target.medium
  source :
    ∃ count, after.source.written = before.source.written ++
      share Prod.fst range pairs count
  target :
    ∃ count, after.target.written = before.target.written ++
      share Prod.snd range pairs count

variable {range : WordRange} {rules : Rules} {pairs rest : List (Bytes × Bytes)}
  {before between after progress : Progress}

theorem Wrote.refl (range : WordRange) (pairs : List (Bytes × Bytes))
    (progress : Progress) :
    Wrote range pairs progress progress :=
  ⟨rfl, rfl, ⟨0, by simp⟩, ⟨0, by simp⟩⟩

/-- What is written behind line pairs that were taken is some of all these. -/
theorem Wrote.of_took (hfirst : Took range pairs before between)
    (hrest : Wrote range rest between after) :
    Wrote range (pairs ++ rest) before after := by
  obtain ⟨sourceCount, hsource⟩ := hrest.source
  obtain ⟨targetCount, htarget⟩ := hrest.target
  refine ⟨hrest.sourceMedium.trans hfirst.sourceMedium,
    hrest.targetMedium.trans hfirst.targetMedium, ⟨pairs.length + sourceCount, ?_⟩,
    ⟨pairs.length + targetCount, ?_⟩⟩
  · rw [hsource, hfirst.source, List.append_assoc, share_append]
  · rw [htarget, hfirst.target, List.append_assoc, share_append]

/-- A line pair that an output refuses may still be in the other output. -/
theorem wrote_of_take_error {sourceLine targetLine : Bytes} {halt : Halt}
    (htake : progress.take rules sourceLine targetLine = .error halt) :
    Wrote rules.range ((sourceLine, targetLine) :: rest) progress halt.progress := by
  rw [take] at htake
  simp only at htake
  split at htake
  · rename_i haccepts
    have hkept : rules.range.keeps (sourceLine, targetLine) = true := haccepts
    split at htake
    · cases htake
      exact .refl _ _ _
    · rename_i source hsource
      obtain ⟨hmedium, hwritten⟩ := Output.write_ok hsource
      split at htake
      · cases htake
        exact ⟨hmedium, rfl, ⟨1, by simpa [share, hkept] using hwritten⟩, ⟨0, by simp⟩⟩
      · cases htake
  · cases htake

/-- Handing on writes nothing, whether or not it is refused. -/
theorem wrote_flush (pairs : List (Bytes × Bytes)) (progress : Progress) :
    Wrote range pairs progress (lastProgress progress.flush) := by
  rw [flush]
  cases hsource : progress.source.flush with
  | error fault => exact .refl _ _ _
  | ok source =>
  have hsourceAfter := Output.flush_ok hsource
  subst hsourceAfter
  cases htarget : progress.target.flush with
  | error fault =>
      exact ⟨rfl, rfl, ⟨0, by simp [lastProgress, Output.written]⟩,
        ⟨0, by simp [lastProgress]⟩⟩
  | ok target =>
      have htargetAfter := Output.flush_ok htarget
      subst htargetAfter
      exact ⟨rfl, rfl, ⟨0, by simp [lastProgress, Output.written]⟩,
        ⟨0, by simp [lastProgress, Output.written]⟩⟩

end Progress

open Progress (Wrote)

theorem wrote_finish {range : WordRange} (rules : Rules) (pairs : List (Bytes × Bytes))
    (target : Input) (progress : Progress) :
    Wrote range pairs progress (lastProgress (finish rules target progress)) := by
  rw [finish]
  split
  · split
    · exact .refl _ _ _
    · exact Progress.wrote_flush pairs progress
    · exact .refl _ _ _
  · exact Progress.wrote_flush pairs progress

/-- However reading in lockstep ends, the accepted line pairs up to some place have been
written. -/
theorem wrote_lockstep (rules : Rules) (source target : Input) (progress : Progress) :
    Wrote rules.range (linePairs source.lines target.lines) progress
      (lastProgress (lockstep rules source target progress)) := by
  -- Every early end leaves the line pairs behind it unread, so it counts none of them;
  -- only a line that an output refuses can be in the other one.
  fun_induction lockstep rules source target progress with
  | case1 => exact .refl _ _ _
  | case2 source target progress hend => exact wrote_finish rules _ target progress
  | case3 => exact .refl _ _ _
  | case4 source target progress sourceLine source' hread targetLine target'
      hother counted halt htake =>
      have hwrote : Wrote rules.range ((sourceLine, targetLine) :: linePairs source'.lines
          target'.lines) counted halt.progress := Progress.wrote_of_take_error htake
      rw [Input.lines_of_next_some hread, Input.lines_of_next_some hother]
      exact ⟨hwrote.sourceMedium, hwrote.targetMedium, hwrote.source, hwrote.target⟩
  | case5 source target progress sourceLine source' hread targetLine target'
      hother counted taken htake ih =>
      have hcounted := Progress.take_ok htake
      have hfirst : Took rules.range [(sourceLine, targetLine)] progress taken :=
        ⟨hcounted.tally, hcounted.sourceMedium, hcounted.targetMedium, hcounted.source,
          hcounted.target⟩
      rw [Input.lines_of_next_some hread, Input.lines_of_next_some hother]
      exact .of_took hfirst ih
  | case6 => exact .refl _ _ _
  | case7 => exact .refl _ _ _
  | case8 source target progress sourceLine source' hread hother hstrict halt htake =>
      rw [Input.lines_of_next_some hread, Input.lines_of_next_none hother]
      exact Progress.wrote_of_take_error htake
  | case9 source target progress sourceLine source' hread hother hstrict taken htake ih =>
      rw [Input.lines_of_next_none hother] at ih
      rw [Input.lines_of_next_some hread, Input.lines_of_next_none hother]
      exact .of_took (Progress.take_ok htake) ih

/-! ## Outputs that are files -/

/-- A file grows at its end.  Where nothing stands, a file may come into being. -/
inductive Grown : Option Entry → Option Entry → Bytes → Prop
  | file (content added : Bytes) :
      Grown (some (.file content)) (some (.file (content ++ added))) added
  | made (added : Bytes) : Grown none (some (.file added)) added
  | absent : Grown none none []

namespace FileTree

variable {tree opened : FileTree} {place : Location} {kept added : Bytes}

theorem Keeps.grown_self (hkeeps : tree.Keeps place kept) :
    Grown (tree.get? place) (tree.get? place) [] := by
  rcases hkeeps with hfile | ⟨hvacant, -⟩
  · rw [hfile]
    have hgrown := Grown.file kept []
    rwa [List.append_nil] at hgrown
  · rw [hvacant]
    exact .absent

theorem Keeps.grown (hkeeps : tree.Keeps place kept)
    (hafter : opened.get? place = some (.file (kept ++ added))) :
    Grown (tree.get? place) (opened.get? place) added := by
  rw [hafter]
  rcases hkeeps with hfile | ⟨hvacant, rfl⟩
  · rw [hfile]
    exact .file kept added
  · rw [hvacant]
    exact .made added

/-- Where an output opens on a file or makes one, the file stands with what it kept. -/
theorem Keeps.of_openOutput (hkeeps : tree.Keeps place kept) {path : Path}
    {handle : Handle} (hplace : tree.WritesTo path place)
    (hopen : tree.openOutput path = .ok (handle, opened)) :
    handle = ⟨place, .file⟩ ∧ opened.get? place = some (.file kept) := by
  obtain ⟨opened', hopen', -, hfile⟩ := openOutput_of_keeps hplace hkeeps
  rw [hopen] at hopen'
  cases hopen'
  exact ⟨rfl, hfile⟩

/-- Nothing can be written to a place exactly where a directory or a link that is not
followed stands there. -/
theorem openOutput_error_iff {path : Path} :
    (∃ fault, tree.openOutput path = .error fault) ↔
      ∀ site, tree.locate .write path = .ok site →
        tree.get? site.location = some .directory ∨
          ∃ target, tree.get? site.location = some (.link target) := by
  rw [openOutput]
  cases hsite : tree.locate .write path with
  | error fault => simp [bind, Except.bind]
  | ok site =>
      rcases hentry : tree.get? site.location with _ | (_ | _ | _ | _) <;>
        simp [bind, Except.bind, pure, Except.pure, throw, throwThe,
          MonadExceptOf.throw, hentry]

/-- Whether an output opens is decided by directories and links. -/
theorem openOutput_error_of_sameWays (hways : SameWays tree opened) {path : Path}
    (hfails : ∃ fault, tree.openOutput path = .error fault) :
    ∃ fault, opened.openOutput path = .error fault := by
  rw [openOutput_error_iff] at hfails ⊢
  intro site hsite
  rcases hfails site (hways.locate_ok_iff.1 hsite) with hdirectory | ⟨target, hlink⟩
  · exact .inl (hways.directory_iff.2 hdirectory)
  · exact .inr ⟨target, hways.link_iff.2 hlink⟩

end FileTree

/-! ## One pair, however it ends -/

section Pair

variable {rules : Rules} {pair : DocumentPair} {outputs : OutputPaths} {tree : FileTree}
  {source target : Input} {sourceHandle targetHandle : FileTree.Handle} {place : Location}
  {kept : Bytes}

theorem tree_filterOpened (rules : Rules) (pair : DocumentPair) (outputs : OutputPaths)
    (source target : Input) (sourceHandle targetHandle : FileTree.Handle)
    (tree : FileTree) :
    let reached := lastProgress (lockstep rules source target
      (.start sourceHandle.medium targetHandle.medium))
    (filterOpened rules pair outputs source target sourceHandle targetHandle tree).tree =
      (tree.receive sourceHandle reached.source.close).receive targetHandle
        reached.target.close := by
  intro reached
  rw [filterOpened]
  cases hran :
    lockstep rules source target (.start sourceHandle.medium targetHandle.medium) <;>
    simp only [reached, hran] <;> rfl

/-- A source output that is a file receives the accepted lines up to some place. -/
theorem filterOpened_source (rules : Rules) (pair : DocumentPair) (outputs : OutputPaths)
    (source target : Input) (hfile : tree.get? place = some (.file kept))
    (hapart : place ≠ targetHandle.location) :
    ∃ count, (filterOpened rules pair outputs source target ⟨place, .file⟩ targetHandle
      tree).tree.get? place =
        some (.file (kept ++
          share Prod.fst rules.range (linePairs source.lines target.lines) count)) := by
  have hwrote := wrote_lockstep rules source target (.start .file targetHandle.medium)
  obtain ⟨count, hcount⟩ := hwrote.source
  refine ⟨count, ?_⟩
  rw [tree_filterOpened, (FileTree.leafChange_receive _ targetHandle _).elsewhere place
    hapart, FileTree.get?_receive hfile,
    Output.handed_close_file hwrote.sourceMedium, hcount]
  rfl

/-- A target output that is a file receives the accepted lines up to some place. -/
theorem filterOpened_target (rules : Rules) (pair : DocumentPair) (outputs : OutputPaths)
    (source target : Input) (hfile : tree.get? place = some (.file kept))
    (hapart : place ≠ sourceHandle.location) :
    ∃ count, (filterOpened rules pair outputs source target sourceHandle ⟨place, .file⟩
      tree).tree.get? place =
        some (.file (kept ++
          share Prod.snd rules.range (linePairs source.lines target.lines) count)) := by
  have hwrote := wrote_lockstep rules source target (.start sourceHandle.medium .file)
  obtain ⟨count, hcount⟩ := hwrote.target
  refine ⟨count, ?_⟩
  have hreceived (output : Output) :
      (tree.receive sourceHandle output).get? place = some (.file kept) := by
    rw [(FileTree.leafChange_receive tree sourceHandle output).elsewhere place hapart,
      hfile]
  rw [tree_filterOpened, FileTree.get?_receive (hreceived _),
    Output.handed_close_file hwrote.targetMedium, hcount]
  rfl

theorem documentLines_of_openInput {path : Path} {input : Input}
    (hopen : tree.openInput path = .ok input) :
    documentLines tree path = input.lines := by
  rw [documentLines, hopen]

/-- Outputs of their own lead to different places. -/
theorem places_ne_of_apart (hapart : ¬tree.SameFile outputs.source outputs.target)
    {sourcePlace targetPlace : Location}
    (hsource : tree.WritesTo outputs.source sourcePlace)
    (htarget : tree.WritesTo outputs.target targetPlace) : sourcePlace ≠ targetPlace := by
  rintro rfl
  exact hapart (FileTree.sameFile_of_writesTo hsource htarget)

/-- However filtering a pair ends, a source output that leads to a file grows by the
accepted lines up to some place. -/
theorem filterPair_grown_source (rules : Rules) (pair : DocumentPair)
    (hapart : ¬tree.SameFile outputs.source outputs.target)
    (hplace : tree.WritesTo outputs.source place) (hkeeps : tree.Keeps place kept) :
    ∃ count, Grown (tree.get? place)
      ((filterPair rules pair outputs tree).tree.get? place) (share Prod.fst rules.range
        (linePairs (documentLines tree pair.source) (documentLines tree pair.target))
          count) := by
  rcases filterPair_cases rules pair outputs tree with
    ⟨failure, hrun⟩ | ⟨failure, handle, opened, hfirst, hrun⟩ |
    ⟨source, target, sourceHandle, opened, targetHandle, ready, hsource, htarget,
      hfirst, hsecond, hrun⟩
  · refine ⟨0, ?_⟩
    rw [hrun, share_zero]
    exact hkeeps.grown_self
  · obtain ⟨-, hfile⟩ := hkeeps.of_openOutput hplace hfirst
    refine ⟨0, ?_⟩
    rw [hrun, share_zero]
    exact hkeeps.grown (by rw [List.append_nil]; exact hfile)
  · obtain ⟨rfl, hfile⟩ := hkeeps.of_openOutput hplace hfirst
    obtain ⟨htargetPlace, hchange⟩ := FileTree.openOutput_ok hsecond
    rw [(FileTree.openOutput_ok hfirst).2.ways.writesTo_iff] at htargetPlace
    have hne : place ≠ targetHandle.location :=
      places_ne_of_apart hapart hplace htargetPlace
    have hready : ready.get? place = some (.file kept) := by
      rw [hchange.elsewhere place hne, hfile]
    obtain ⟨count, hcount⟩ := filterOpened_source rules pair outputs source
      target hready hne
    refine ⟨count, ?_⟩
    rw [hrun, documentLines_of_openInput hsource, documentLines_of_openInput htarget]
    exact hkeeps.grown hcount

/-- However filtering a pair ends, a target output that leads to a file grows by the
accepted lines up to some place. -/
theorem filterPair_grown_target (rules : Rules) (pair : DocumentPair)
    (hapart : ¬tree.SameFile outputs.source outputs.target)
    (hplace : tree.WritesTo outputs.target place) (hkeeps : tree.Keeps place kept) :
    ∃ count, Grown (tree.get? place)
      ((filterPair rules pair outputs tree).tree.get? place) (share Prod.snd rules.range
        (linePairs (documentLines tree pair.source) (documentLines tree pair.target))
          count) := by
  have hsourceElsewhere {handle : FileTree.Handle} {opened : FileTree}
      (hopen : tree.openOutput outputs.source = .ok (handle, opened)) :
      place ≠ handle.location ∧ opened.get? place = tree.get? place := by
    obtain ⟨hsourcePlace, hchange⟩ := FileTree.openOutput_ok hopen
    have hne : place ≠ handle.location :=
      (places_ne_of_apart hapart hsourcePlace hplace).symm
    exact ⟨hne, hchange.elsewhere place hne⟩
  rcases filterPair_cases rules pair outputs tree with
    ⟨failure, hrun⟩ | ⟨failure, handle, opened, hfirst, hrun⟩ |
    ⟨source, target, sourceHandle, opened, targetHandle, ready, hsource, htarget,
      hfirst, hsecond, hrun⟩
  · refine ⟨0, ?_⟩
    rw [hrun, share_zero]
    exact hkeeps.grown_self
  · have hopened : (PairRun.unopened failure opened).tree.get? place = tree.get? place :=
      (hsourceElsewhere hfirst).2
    refine ⟨0, ?_⟩
    rw [hrun, share_zero, hopened]
    exact hkeeps.grown_self
  · obtain ⟨hne, hopened⟩ := hsourceElsewhere hfirst
    have hplace' : opened.WritesTo outputs.target place :=
      (FileTree.openOutput_ok hfirst).2.ways.writesTo_iff.2 hplace
    have hkeeps' : opened.Keeps place kept := by
      rw [FileTree.Keeps, hopened]
      exact hkeeps
    obtain ⟨rfl, hready⟩ := hkeeps'.of_openOutput hplace' hsecond
    obtain ⟨count, hcount⟩ := filterOpened_target rules pair outputs source
      target hready hne
    refine ⟨count, ?_⟩
    rw [hrun, documentLines_of_openInput hsource, documentLines_of_openInput htarget]
    exact hkeeps.grown hcount

/-! ## Pairs that cannot be opened -/

/-- Of two paths that are opened one after the other, one is the first that cannot be. -/
def FailsFirst {α : Type} (attempt : Path → Except FileFault α) (first second path : Path)
    (fault : FileFault) : Prop :=
  (path = first ∧ attempt first = .error fault) ∨
    (path = second ∧ (∃ value, attempt first = .ok value) ∧ attempt second = .error fault)

/-- A document that cannot be opened is named, and nothing is touched. -/
theorem filterPair_of_input_fails (rules : Rules) (outputs : OutputPaths) {path : Path}
    {fault : FileFault}
    (hfails : FailsFirst tree.openInput pair.source pair.target path fault) :
    filterPair rules pair outputs tree = .unopened (.openInput path fault) tree := by
  rcases hfails with ⟨rfl, hfails⟩ | ⟨rfl, ⟨source, hsource⟩, hfails⟩
  · simp only [filterPair, hfails]
  · simp only [filterPair, hsource, hfails]

/-- An output that cannot be opened is named, and at most an empty source output has
been made. -/
theorem filterPair_of_output_fails (rules : Rules)
    (hsource : tree.openInput pair.source = .ok source)
    (htarget : tree.openInput pair.target = .ok target) {path : Path} {fault : FileFault}
    (hfails : FailsFirst tree.openOutput outputs.source outputs.target path fault) :
    ∃ cause left, filterPair rules pair outputs tree = .unopened
      (.openOutput path cause) left ∧
      (left = tree ∨ ∃ place, tree.WritesTo outputs.source place ∧
        tree.get? place = none ∧
        left = tree.create place (.file [])) := by
  rcases hfails with ⟨rfl, hfails⟩ | ⟨rfl, ⟨⟨handle, opened⟩, hfirst⟩, hfails⟩
  · refine ⟨fault, tree, ?_, .inl rfl⟩
    simp only [filterPair, hsource, htarget, hfails]
  · obtain ⟨hplace, hchange⟩ := FileTree.openOutput_ok hfirst
    -- What was made for the source output can change why the target output fails, not
    -- whether.
    obtain ⟨cause, hcause⟩ := FileTree.openOutput_error_of_sameWays hchange.ways
      ⟨fault, hfails⟩
    refine ⟨cause, opened, ?_, ?_⟩
    · simp only [filterPair, hsource, htarget, hfirst, hcause]
    · have hopened := FileTree.eq_of_openOutput hfirst
      split at hopened
      · rename_i hvacant
        exact .inr ⟨handle.location, hplace, hvacant, hopened⟩
      · exact .inl hopened

/-- A file that cannot be opened is named in the order of opening, and leaves everything
as it was but for an empty source output.  However a pair ends, each output that leads
to a file keeps what it held and grows by the accepted lines of the line pairs up to
some place. -/
theorem filterPair_appends (rules : Rules) (pair : DocumentPair) (outputs : OutputPaths)
    {tree : FileTree}
    (hapart : [pair.source, pair.target, outputs.source, outputs.target].Pairwise
      fun path other => ¬tree.SameFile path other) :
    let run := filterPair rules pair outputs tree
    let pairs := linePairs (documentLines tree pair.source)
      (documentLines tree pair.target)
    (∀ path fault, FailsFirst tree.openInput pair.source pair.target path fault →
        run = .unopened (.openInput path fault) tree) ∧
      (∀ source target, tree.openInput pair.source = .ok source →
        tree.openInput pair.target = .ok target → ∀ path fault,
        FailsFirst tree.openOutput outputs.source outputs.target path fault →
        ∃ cause left, run = .unopened (.openOutput path cause) left ∧
          (left = tree ∨ ∃ place, tree.WritesTo outputs.source place ∧
            tree.get? place = none ∧
            left = tree.create place (.file []))) ∧
      ∀ place kept, tree.Keeps place kept →
        (tree.WritesTo outputs.source place → ∃ count,
          Grown (tree.get? place) (run.tree.get? place)
            (share Prod.fst rules.range pairs count)) ∧
        (tree.WritesTo outputs.target place → ∃ count,
          Grown (tree.get? place) (run.tree.get? place)
            (share Prod.snd rules.range pairs count)) := by
  intro run pairs
  have houtputs : ¬tree.SameFile outputs.source outputs.target := by
    simp only [List.pairwise_cons, List.mem_cons, List.not_mem_nil, or_false, forall_eq]
      at hapart
    exact hapart.2.2.1
  refine ⟨?_, ?_, ?_⟩
  · intro path fault hfails
    exact filterPair_of_input_fails rules outputs hfails
  · intro source target hsource htarget path fault hfails
    exact filterPair_of_output_fails rules hsource htarget hfails
  · intro place kept hkeeps
    exact ⟨fun hplace => filterPair_grown_source rules pair houtputs hplace hkeeps,
      fun hplace => filterPair_grown_target rules pair houtputs hplace hkeeps⟩

/-- Of a source that fails behind its first line, that line is written and the rest is
lost. -/
example :
    let tree : FileTree := ⟨
      [ ([⟨"worn", by decide⟩], .device (.broken (Text.utf8 "x\ny"))),
        ([⟨"right", by decide⟩], .file (Text.utf8 "u\nv\n")) ], [], by decide⟩
    let run := filterPair ⟨.standard, false⟩ ⟨⟨"worn"⟩, ⟨"right"⟩⟩ ⟨⟨"s"⟩, ⟨"t"⟩⟩ tree
    run.result = .error (.readLine ⟨"worn"⟩ .deviceError) ∧
      run.tree.get? [⟨"s", by decide⟩] = some (.file (Text.utf8 "x\n")) ∧
      run.tree.get? [⟨"t", by decide⟩] = some (.file (Text.utf8 "u\n")) := by
  decide +kernel

end Pair

/-- Two documents, an output with earlier content, a device that is full and a
directory. -/
def fullDevice : FileTree where
  entries :=
    [ ([⟨"left", by decide⟩], .file (Text.utf8 "x y\n\nz\n")),
      ([⟨"right", by decide⟩], .file (Text.utf8 "u\nv\nw")),
      ([⟨"kept", by decide⟩], .file (Text.utf8 "old\n")),
      ([⟨"brim", by decide⟩], .device .full),
      ([⟨"drawer", by decide⟩], .directory) ]
  base := []
  distinct := by decide

/-- The device refuses its lines when all have been written; the other output keeps its
own.  With a directory in the place of the device nothing is written, but the other
output is made. -/
theorem filterPair_appends_fullDevice :
    let rules : Rules := ⟨.standard, false⟩
    let pair : DocumentPair := ⟨⟨"left"⟩, ⟨"right"⟩⟩
    let run := filterPair rules pair ⟨⟨"kept"⟩, ⟨"brim"⟩⟩ fullDevice
    let pairs := linePairs (documentLines fullDevice ⟨"left"⟩)
      (documentLines fullDevice ⟨"right"⟩)
    ([⟨"left"⟩, ⟨"right"⟩, ⟨"kept"⟩, ⟨"brim"⟩].Pairwise fun path other =>
        ¬fullDevice.SameFile path other) ∧
      run.result = .error (.writeLine ⟨"brim"⟩ .noSpace) ∧
      (∃ count, Grown (some (.file (Text.utf8 "old\n")))
        (run.tree.get? [⟨"kept", by decide⟩]) (share Prod.fst rules.range pairs count)) ∧
      ∃ cause left, filterPair rules pair ⟨⟨"fresh"⟩, ⟨"drawer"⟩⟩ fullDevice =
        .unopened (.openOutput ⟨"drawer"⟩ cause) left := by
  intro rules pair run pairs
  have hapart : [⟨"left"⟩, ⟨"right"⟩, ⟨"kept"⟩, ⟨"brim"⟩].Pairwise fun path other =>
      ¬fullDevice.SameFile path other := by
    decide +kernel
  have hfile : fullDevice.get? [⟨"kept", by decide⟩] =
      some (.file (Text.utf8 "old\n")) := by
    decide +kernel
  obtain ⟨-, -, hgrows⟩ := filterPair_appends rules pair ⟨⟨"kept"⟩, ⟨"brim"⟩⟩ hapart
  obtain ⟨hsource, -⟩ := hgrows [⟨"kept", by decide⟩] (Text.utf8 "old\n") (.inl hfile)
  have hapart' : [⟨"left"⟩, ⟨"right"⟩, ⟨"fresh"⟩, ⟨"drawer"⟩].Pairwise fun path other =>
      ¬fullDevice.SameFile path other := by
    decide +kernel
  have hopens :
      FailsFirst fullDevice.openOutput ⟨"fresh"⟩ ⟨"drawer"⟩ ⟨"drawer"⟩ .isADirectory :=
    .inr ⟨rfl, ⟨_, rfl⟩, rfl⟩
  obtain ⟨-, hfails, -⟩ := filterPair_appends rules pair ⟨⟨"fresh"⟩, ⟨"drawer"⟩⟩ hapart'
  obtain ⟨cause, left, hleft, -⟩ := hfails (.text (Text.utf8 "x y\n\nz\n"))
    (.text (Text.utf8 "u\nv\nw")) (by decide +kernel) (by decide +kernel) _ _ hopens
  refine ⟨hapart, by decide +kernel, ?_, cause, left, hleft⟩
  rw [← hfile]
  exact hsource ⟨⟨[⟨"kept", by decide⟩], true, false⟩, by decide +kernel, rfl⟩

end ParallelCorpus
