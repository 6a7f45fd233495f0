import ParallelCorpus.Filter.Pair
import ParallelCorpus.Proofs.Lockstep
import ParallelCorpus.Proofs.Ways

/-!
# What filtering a document pair does

Whatever comes of it, filtering a document pair touches files where the two outputs lead
and nothing else.  Where both documents can be opened and both outputs lead to files of
their own, new or not, each file grows by exactly what was handed on to it; and when the
run succeeds, that is the accepted lines, in order and unchanged.  Without strict
alignment the run of readable documents does succeed, and everything it does has a
closed form in the lines of the two documents.
-/

namespace ParallelCorpus

open Text (Bytes wordCount)

namespace FileTree

/-! ## Opening and receiving -/

/-- A file with these bytes stands at a place, or nothing does and there are no bytes. -/
def Keeps (tree : FileTree) (location : Location) (bytes : Bytes) : Prop :=
  tree.get? location = some (.file bytes) ∨ (tree.get? location = none ∧ bytes = [])

/-- Opening an output keeps what the file there holds. -/
theorem openOutput_of_keeps {tree : FileTree} {path : Path} {location : Location}
    {bytes : Bytes} (hplace : tree.WritesTo path location)
    (hkeeps : tree.Keeps location bytes) :
    ∃ opened, tree.openOutput path = .ok (⟨location, .file⟩, opened) ∧
      LeafChange (· = location) tree opened ∧
      opened.get? location = some (.file bytes) := by
  obtain ⟨site, hsite, rfl⟩ := hplace
  rcases hkeeps with hfile | ⟨hvacant, rfl⟩
  · refine ⟨tree, ?_, .refl _ tree, hfile⟩
    simp [openOutput, hsite, hfile, bind, Except.bind, pure, Except.pure]
  · have hbelow : site.location ≠ [] := ne_nil_of_signpost (by rw [hvacant]; rfl)
    refine ⟨tree.create site.location (.file []), ?_, leafChange_create hvacant [],
      get?_create_self tree _ hbelow⟩
    simp [openOutput, hsite, hvacant, bind, Except.bind, pure, Except.pure]

theorem openOutput_ok {tree opened : FileTree} {path : Path} {handle : Handle}
    (hopen : tree.openOutput path = .ok (handle, opened)) :
    tree.WritesTo path handle.location ∧
    LeafChange (· = handle.location) tree opened := by
  rw [openOutput, bind_eq_ok_iff] at hopen
  obtain ⟨site, hsite, hopen⟩ := hopen
  split at hopen
  · rename_i hvacant
    cases hopen
    exact ⟨⟨site, hsite, rfl⟩, leafChange_create hvacant []⟩
  · cases hopen
    exact ⟨⟨site, hsite, rfl⟩, .refl _ tree⟩
  · cases hopen
    exact ⟨⟨site, hsite, rfl⟩, .refl _ tree⟩
  · cases hopen
  · cases hopen

theorem leafChange_receive (tree : FileTree) (handle : Handle) (output : Output) :
    LeafChange (· = handle.location) tree (tree.receive handle output) := by
  rw [receive]
  split
  · exact leafChange_append tree handle.location output.handed
  · exact .refl _ tree

/-- A file receives behind its content what was handed on. -/
theorem get?_receive {tree : FileTree} {location : Location} {content : Bytes}
    (hfile : tree.get? location = some (.file content)) (output : Output) :
    (tree.receive ⟨location, .file⟩ output).get? location =
      some (.file (content ++ output.handed)) := by
  have hbelow : location ≠ [] := ne_nil_of_signpost (by rw [hfile]; rfl)
  simp only [receive, append, content?, hfile]
  exact get?_put_self tree _ hbelow

end FileTree

open FileTree (SameWays LeafChange SameFile)

/-! ## What is touched -/

def OutputPaths.LeadTo (outputs : OutputPaths) (tree : FileTree)
    (location : Location) : Prop :=
  tree.WritesTo outputs.source location ∨ tree.WritesTo outputs.target location

theorem OutputPaths.leadTo_iff (outputs : OutputPaths) {tree other : FileTree}
    (hways : SameWays tree other) (location : Location) :
    outputs.LeadTo other location ↔ outputs.LeadTo tree location := by
  rw [LeadTo, LeadTo, hways.writesTo_iff, hways.writesTo_iff]

theorem filterOpened_leafChange (rules : Rules) (pair : DocumentPair)
    (outputs : OutputPaths) (source target : Input)
    (sourceHandle targetHandle : FileTree.Handle) (tree : FileTree) :
    LeafChange
      (fun location =>
        location = sourceHandle.location ∨ location = targetHandle.location) tree
      (filterOpened rules pair outputs source target sourceHandle targetHandle
        tree).tree := by
  rw [filterOpened]
  exact ((FileTree.leafChange_receive tree sourceHandle _).mono fun _ => Or.inl).trans
    ((FileTree.leafChange_receive _ targetHandle _).mono fun _ => Or.inr)

/-- Whatever the rules, a file is at fault before anything is opened for writing, or
once the source output is, or everything is open and the documents are filtered. -/
theorem filterPair_opens (pair : DocumentPair) (outputs : OutputPaths) (tree : FileTree) :
    (∃ failure fault, failure.fault? = some fault ∧
        ∀ rules, filterPair rules pair outputs tree = .unopened failure tree) ∨
      (∃ failure fault handle opened, failure.fault? = some fault ∧
        tree.openOutput outputs.source = .ok (handle, opened) ∧
        ∀ rules, filterPair rules pair outputs tree = .unopened failure opened) ∨
      ∃ source target sourceHandle opened targetHandle ready,
        tree.openInput pair.source = .ok source ∧
        tree.openInput pair.target = .ok target ∧
        tree.openOutput outputs.source = .ok (sourceHandle, opened) ∧
        opened.openOutput outputs.target = .ok (targetHandle, ready) ∧
        ∀ rules, filterPair rules pair outputs tree =
          filterOpened rules pair outputs source target sourceHandle
            targetHandle ready := by
  cases hsource : tree.openInput pair.source with
  | error fault =>
      refine .inl ⟨.openInput pair.source fault, fault, rfl, fun rules => ?_⟩
      simp only [filterPair, hsource]
  | ok source =>
  cases htarget : tree.openInput pair.target with
  | error fault =>
      refine .inl ⟨.openInput pair.target fault, fault, rfl, fun rules => ?_⟩
      simp only [filterPair, hsource, htarget]
  | ok target =>
  cases hfirst : tree.openOutput outputs.source with
  | error fault =>
      refine .inl ⟨.openOutput outputs.source fault, fault, rfl, fun rules => ?_⟩
      simp only [filterPair, hsource, htarget, hfirst]
  | ok first =>
  obtain ⟨sourceHandle, opened⟩ := first
  cases hsecond : opened.openOutput outputs.target with
  | error fault =>
      refine .inr
        (.inl ⟨.openOutput outputs.target fault, fault, sourceHandle, opened, rfl, rfl,
          fun rules => ?_⟩)
      simp only [filterPair, hsource, htarget, hfirst, hsecond]
  | ok second =>
      obtain ⟨targetHandle, ready⟩ := second
      refine .inr
        (.inr ⟨source, target, sourceHandle, opened, targetHandle, ready, rfl, rfl, rfl,
          hsecond, fun rules => ?_⟩)
      simp only [filterPair, hsource, htarget, hfirst, hsecond]

/-- Either nothing is opened for writing, or the source output is and the target output
is not, or the documents are filtered. -/
theorem filterPair_cases (rules : Rules) (pair : DocumentPair) (outputs : OutputPaths)
    (tree : FileTree) :
    let run := filterPair rules pair outputs tree
    (∃ failure, run = .unopened failure tree) ∨
      (∃ failure handle opened, tree.openOutput outputs.source = .ok (handle, opened) ∧
        run = .unopened failure opened) ∨
      ∃ source target sourceHandle opened targetHandle ready,
        tree.openInput pair.source = .ok source ∧
        tree.openInput pair.target = .ok target ∧
        tree.openOutput outputs.source = .ok (sourceHandle, opened) ∧
        opened.openOutput outputs.target = .ok (targetHandle, ready) ∧
        run = filterOpened rules pair outputs source target sourceHandle
          targetHandle ready := by
  intro run
  rcases filterPair_opens pair outputs tree with
    ⟨failure, fault, -, hrun⟩ | ⟨failure, fault, handle, opened, -, hfirst, hrun⟩ |
    ⟨source, target, sourceHandle, opened, targetHandle, ready, hsource, htarget,
      hfirst, hsecond, hrun⟩
  · exact .inl ⟨failure, hrun rules⟩
  · exact .inr (.inl ⟨failure, handle, opened, hfirst, hrun rules⟩)
  · exact .inr
      (.inr ⟨source, target, sourceHandle, opened, targetHandle, ready, hsource, htarget,
        hfirst, hsecond, hrun rules⟩)

/-- Filtering a document pair touches files where the outputs lead, and nothing else. -/
theorem filterPair_leafChange (rules : Rules) (pair : DocumentPair)
    (outputs : OutputPaths) (tree : FileTree) :
    LeafChange (outputs.LeadTo tree) tree (filterPair rules pair outputs tree).tree := by
  have hopened {handle : FileTree.Handle} {opened : FileTree}
      (hopen : tree.openOutput outputs.source = .ok (handle, opened)) :
      outputs.LeadTo tree handle.location ∧
        LeafChange (outputs.LeadTo tree) tree opened := by
    obtain ⟨hplace, hchange⟩ := FileTree.openOutput_ok hopen
    refine ⟨.inl hplace, hchange.mono ?_⟩
    rintro location rfl
    exact .inl hplace
  rcases filterPair_cases rules pair outputs tree with
    ⟨failure, hrun⟩ | ⟨failure, handle, opened, hfirst, hrun⟩ |
    ⟨source, target, sourceHandle, opened, targetHandle, ready, -, -,
      hfirst, hsecond, hrun⟩
  · rw [hrun]
    exact .refl _ tree
  · rw [hrun]
    exact (hopened hfirst).2
  · obtain ⟨hsourcePlace, hfirstChange⟩ := hopened hfirst
    obtain ⟨htargetPlace, hsecondChange⟩ := FileTree.openOutput_ok hsecond
    rw [hfirstChange.ways.writesTo_iff] at htargetPlace
    have hready : LeafChange (outputs.LeadTo tree) tree ready := by
      apply hfirstChange.trans
      apply hsecondChange.mono
      rintro location rfl
      exact .inr htargetPlace
    rw [hrun]
    apply hready.trans
    apply LeafChange.mono (filterOpened_leafChange ..)
    rintro location (rfl | rfl)
    · exact hsourcePlace
    · exact .inr htargetPlace

/-! ## What the outputs receive -/

/-- Opened onto files, a run depends on the two documents only. -/
theorem filterOpened_congr (rules : Rules) (pair : DocumentPair) (outputs : OutputPaths)
    (source target : Input) (sourcePlace targetPlace sourcePlace' targetPlace' : Location)
    (tree tree' : FileTree) :
    let run := filterOpened rules pair outputs source target ⟨sourcePlace, .file⟩
      ⟨targetPlace, .file⟩ tree
    let run' := filterOpened rules pair outputs source target ⟨sourcePlace', .file⟩
      ⟨targetPlace', .file⟩ tree'
    run.result = run'.result ∧ run.sourceAdded = run'.sourceAdded ∧
      run.targetAdded = run'.targetAdded :=
  ⟨rfl, rfl, rfl⟩

section Opened

variable (rules : Rules) {pair : DocumentPair} {outputs : OutputPaths}
  {source target : Input} {tree : FileTree} {sourcePlace targetPlace : Location}
  {sourceKept targetKept : Bytes}

/-- Once everything could be opened, both outputs stand with what they kept. -/
theorem filterPair_opened (hsource : tree.openInput pair.source = .ok source)
    (htarget : tree.openInput pair.target = .ok target)
    (hsourcePlace : tree.WritesTo outputs.source sourcePlace)
    (htargetPlace : tree.WritesTo outputs.target targetPlace)
    (hsourceKeeps : tree.Keeps sourcePlace sourceKept)
    (htargetKeeps : tree.Keeps targetPlace targetKept)
    (hapart : sourcePlace ≠ targetPlace) :
    ∃ opened, filterPair rules pair outputs tree =
        filterOpened rules pair outputs source target ⟨sourcePlace, .file⟩
          ⟨targetPlace, .file⟩ opened ∧
      opened.get? sourcePlace = some (.file sourceKept) ∧
      opened.get? targetPlace = some (.file targetKept) := by
  obtain ⟨first, hfirst, hfirstChange, hfirstFile⟩ :=
    FileTree.openOutput_of_keeps hsourcePlace hsourceKeeps
  have htargetPlace' : first.WritesTo outputs.target targetPlace :=
    hfirstChange.ways.writesTo_iff.2 htargetPlace
  have htargetKeeps' : first.Keeps targetPlace targetKept := by
    rw [FileTree.Keeps, hfirstChange.elsewhere targetPlace (Ne.symm hapart)]
    exact htargetKeeps
  obtain ⟨second, hsecond, hsecondChange, hsecondFile⟩ :=
    FileTree.openOutput_of_keeps htargetPlace' htargetKeeps'
  refine ⟨second, ?_, ?_, hsecondFile⟩
  · simp only [filterPair, hsource, htarget, hfirst, hsecond]
  · rw [hsecondChange.elsewhere sourcePlace hapart, hfirstFile]

/-- Each output grows by what was handed on to it. -/
theorem get?_filterOpened (pair : DocumentPair) (outputs : OutputPaths)
    (source target : Input)
    (hsourceFile : tree.get? sourcePlace = some (.file sourceKept))
    (htargetFile : tree.get? targetPlace = some (.file targetKept))
    (hapart : sourcePlace ≠ targetPlace) :
    let run := filterOpened rules pair outputs source target ⟨sourcePlace, .file⟩
      ⟨targetPlace, .file⟩ tree
    run.tree.get? sourcePlace = some (.file (sourceKept ++ run.sourceAdded)) ∧
      run.tree.get? targetPlace = some (.file (targetKept ++ run.targetAdded)) := by
  intro run
  constructor
  · have hsecond (received : FileTree) :=
      FileTree.leafChange_receive received ⟨targetPlace, .file⟩
    exact ((hsecond _ _).elsewhere sourcePlace hapart).trans
      (FileTree.get?_receive hsourceFile _)
  · apply FileTree.get?_receive
    have hfirst := FileTree.leafChange_receive tree ⟨sourcePlace, .file⟩
    exact ((hfirst _).elsewhere targetPlace (Ne.symm hapart)).trans htargetFile

end Opened

/-- The result of a document pair whose lines are read to this end. -/
def lockstepResult (pair : DocumentPair) (outputs : OutputPaths) :
    Except Halt Progress → Except Failure Tally
  | .ok progress => .ok progress.tally
  | .error halt => .error (halt.stop.failure pair outputs)

theorem result_filterOpened (rules : Rules) (pair : DocumentPair) (outputs : OutputPaths)
    (source target : Input) (sourceHandle targetHandle : FileTree.Handle)
    (tree : FileTree) :
    (filterOpened rules pair outputs source target sourceHandle targetHandle
        tree).result =
      lockstepResult pair outputs
        (lockstep rules source target
          (.start sourceHandle.medium targetHandle.medium)) := by
  cases hran : lockstep rules source target
      (.start sourceHandle.medium targetHandle.medium) with
  | ok progress => simp only [filterOpened, hran, lockstepResult]
  | error halt => simp only [filterOpened, hran, lockstepResult]

/-! ## What a successful run has done -/

theorem filterOpened_ok {rules : Rules} {pair : DocumentPair} {outputs : OutputPaths}
    {source target : Input} {sourceHandle targetHandle : FileTree.Handle}
    {tree : FileTree} {tally : Tally}
    (hresult : (filterOpened rules pair outputs source target sourceHandle targetHandle
      tree).result = .ok tally) :
    let run := filterOpened rules pair outputs source target sourceHandle
      targetHandle tree
    let pairs := linePairs source.lines target.lines
    tally = .ofDocument rules.range pairs ∧
      run.sourceAdded = ((pairs.filter rules.range.keeps).map Prod.fst).flatten ∧
      run.targetAdded = ((pairs.filter rules.range.keeps).map Prod.snd).flatten := by
  rw [filterOpened] at hresult ⊢
  cases hran : lockstep rules source target
      (.start sourceHandle.medium targetHandle.medium) with
  | error halt => simp [hran] at hresult
  | ok progress =>
      simp only [hran, Except.ok.injEq] at hresult
      obtain ⟨htook, hsourceEmpty, htargetEmpty⟩ := lockstep_ok hran
      refine ⟨?_, ?_, ?_⟩
      · rw [← hresult, htook.tally]
        exact Tally.foldl_recordPair_document rules.range _
      · simp only [Progress.close, lastProgress]
        rw [Output.handed_close hsourceEmpty, htook.source]
        rfl
      · simp only [Progress.close, lastProgress]
        rw [Output.handed_close htargetEmpty, htook.target]
        rfl

/-- A successful run has opened both documents, tallied their line pairs and added the
accepted ones. -/
theorem filterPair_ok {rules : Rules} {pair : DocumentPair} {outputs : OutputPaths}
    {tree : FileTree} {tally : Tally}
    (hresult : (filterPair rules pair outputs tree).result = .ok tally) :
    let run := filterPair rules pair outputs tree
    ∃ source target, tree.openInput pair.source = .ok source ∧
      tree.openInput pair.target = .ok target ∧
      tally = .ofDocument rules.range (linePairs source.lines target.lines) ∧
      run.sourceAdded = (((linePairs source.lines target.lines).filter
        rules.range.keeps).map Prod.fst).flatten ∧
      run.targetAdded = (((linePairs source.lines target.lines).filter
        rules.range.keeps).map Prod.snd).flatten := by
  intro run
  rcases filterPair_cases rules pair outputs tree with
    ⟨failure, hrun⟩ | ⟨failure, handle, opened, -, hrun⟩ |
    ⟨source, target, sourceHandle, opened, targetHandle, ready, hsource,
      htarget, -, -, hrun⟩
  · rw [hrun] at hresult
    cases hresult
  · rw [hrun] at hresult
    cases hresult
  · rw [hrun] at hresult
    simp only [run, hrun]
    exact ⟨source, target, hsource, htarget, filterOpened_ok hresult⟩

/-- The run of two readable documents onto files succeeds, unless strict alignment
objects. -/
theorem filterOpened_onFiles {rules : Rules} (pair : DocumentPair) (outputs : OutputPaths)
    {source target : Input} (hsource : source.Readable) (htarget : target.Readable)
    (haligned : rules.Aligns source.lines target.lines)
    (sourcePlace targetPlace : Location) (tree : FileTree) :
    ∃ tally, (filterOpened rules pair outputs source target ⟨sourcePlace, .file⟩
      ⟨targetPlace, .file⟩ tree).result = .ok tally := by
  have hfiles : (Progress.start .file .file).OnFiles := ⟨rfl, rfl⟩
  obtain ⟨progress, hran⟩ := lockstep_onFiles hsource htarget haligned hfiles
  refine ⟨progress.tally, ?_⟩
  simp only [filterOpened, hran]

/-! ## The closed form of a run -/

/-- Four different files: two documents that can be read, and two outputs that are
regular files or absent, with what they hold. -/
structure PairFiles (tree : FileTree) (pair : DocumentPair) (outputs : OutputPaths)
    (source target sourceKept targetKept : Bytes) (sourcePlace targetPlace : Location) :
    Prop where
  source : tree.openInput pair.source = .ok (.text source)
  target : tree.openInput pair.target = .ok (.text target)
  sourceLeads : tree.WritesTo outputs.source sourcePlace
  targetLeads : tree.WritesTo outputs.target targetPlace
  sourceKeeps : tree.Keeps sourcePlace sourceKept
  targetKeeps : tree.Keeps targetPlace targetKept
  apart : [pair.source, pair.target, outputs.source, outputs.target].Pairwise
    fun path other => ¬tree.SameFile path other

section Readable

variable {rules : Rules} {tree : FileTree} {pair : DocumentPair} {outputs : OutputPaths}
  {source target sourceKept targetKept : Bytes} {sourcePlace targetPlace : Location}

theorem PairFiles.places_ne (hfiles : PairFiles tree pair outputs source target sourceKept
    targetKept sourcePlace targetPlace) : sourcePlace ≠ targetPlace := by
  have houtputs : ¬tree.SameFile outputs.source outputs.target := by
    have hapart := hfiles.apart
    simp only [List.pairwise_cons, List.mem_cons, List.not_mem_nil, or_false, forall_eq]
      at hapart
    exact hapart.2.2.1
  intro hsame
  apply houtputs
  apply FileTree.sameFile_of_writesTo hfiles.sourceLeads
  rw [hsame]
  exact hfiles.targetLeads

/-- Filtering two readable documents that strict alignment does not object to, from the
line pairs that are read. -/
theorem filterPair_of_aligned
    (haligned : rules.Aligns (Text.lines source) (Text.lines target))
    (hfiles : PairFiles tree pair outputs source target sourceKept targetKept
      sourcePlace targetPlace) :
    let run := filterPair rules pair outputs tree
    let pairs := linePairs (Text.lines source) (Text.lines target)
    let kept := pairs.filter rules.range.keeps
    run.result = .ok (.ofDocument rules.range pairs) ∧
      run.tree.get? sourcePlace =
        some (.file (sourceKept ++ (kept.map Prod.fst).flatten)) ∧
      run.tree.get? targetPlace =
        some (.file (targetKept ++ (kept.map Prod.snd).flatten)) := by
  intro run pairs kept
  obtain ⟨opened, hrun, hsourceFile, htargetFile⟩ :=
    filterPair_opened rules hfiles.source hfiles.target hfiles.sourceLeads
      hfiles.targetLeads hfiles.sourceKeeps hfiles.targetKeeps hfiles.places_ne
  have hsource : (Input.text source).Readable := trivial
  have htarget : (Input.text target).Readable := trivial
  obtain ⟨tally, hresult⟩ := filterOpened_onFiles pair outputs hsource htarget
    haligned sourcePlace targetPlace opened
  obtain ⟨hsourceGrows, htargetGrows⟩ :=
    get?_filterOpened rules pair outputs (.text source) (.text target) hsourceFile
      htargetFile hfiles.places_ne
  rw [← hrun] at hresult hsourceGrows htargetGrows
  obtain ⟨source', target', hsource', htarget', htally, hsourceAdded, htargetAdded⟩ :=
    filterPair_ok hresult
  rw [hfiles.source] at hsource'
  rw [hfiles.target] at htarget'
  cases hsource'
  cases htarget'
  rw [hsourceAdded] at hsourceGrows
  rw [htargetAdded] at htargetGrows
  rw [htally] at hresult
  exact ⟨hresult, hsourceGrows, htargetGrows⟩

theorem filterPair_eq_linePairs (hstrict : rules.strict = false)
    (hfiles : PairFiles tree pair outputs source target sourceKept targetKept sourcePlace
      targetPlace) :
    let run := filterPair rules pair outputs tree
    let pairs := linePairs (Text.lines source) (Text.lines target)
    let kept := pairs.filter rules.range.keeps
    run.result = .ok (.ofDocument rules.range pairs) ∧
      run.tree.get? sourcePlace =
        some (.file (sourceKept ++ (kept.map Prod.fst).flatten)) ∧
      run.tree.get? targetPlace =
        some (.file (targetKept ++ (kept.map Prod.snd).flatten)) := by
  have haligned : rules.Aligns (Text.lines source) (Text.lines target) := by
    intro hnot
    rw [hstrict] at hnot
    cases hnot
  exact filterPair_of_aligned haligned hfiles

end Readable

/-- The tally of the line pairs of two documents, place by place. -/
theorem ofDocument_linePairs (range : WordRange) (source target : List Bytes) :
    let count := source.length
    let kept := (List.range count).filter fun place =>
      range.accepts (wordCount (source.getD place [])) (wordCount (target.getD place []))
    Tally.ofDocument range (linePairs source target) =
      { approved := kept.length
        discarded := count - kept.length
        lines := count
        documents := 1
        source := .ofCounts
          ((List.range count).map fun place => wordCount (source.getD place []))
        target :=
          .ofCounts
            ((List.range count).map fun place => wordCount (target.getD place [])) } := by
  intro count kept
  have hcount : (linePairs source target).length = count := by
    rw [linePairs_eq_map, List.length_map, List.length_range]
  have hkept : ((linePairs source target).filter range.keeps).length = kept.length := by
    rw [filter_linePairs, List.length_map]
  have hsource : (linePairs source target).map (wordCount ·.1) =
      (List.range count).map fun place => wordCount (source.getD place []) := by
    rw [linePairs_eq_map, List.map_map]
    rfl
  have htarget : (linePairs source target).map (wordCount ·.2) =
      (List.range count).map fun place => wordCount (target.getD place []) := by
    rw [linePairs_eq_map, List.map_map]
    rfl
  rw [Tally.ofDocument, Tally.discarded_ofPairs]
  simp only [Tally.ofPairs, hcount, hkept, hsource, htarget]

/-- What filtering two readable documents does, place by place: the accepted lines are
added to what the outputs held, everything is tallied, nothing else changes, and a
target line without a source line does not matter. -/
theorem filterPair_lines {rules : Rules} (hstrict : rules.strict = false)
    {tree : FileTree} {pair : DocumentPair} {outputs : OutputPaths}
    {source target sourceKept targetKept : Bytes} {sourcePlace targetPlace : Location}
    (hfiles : PairFiles tree pair outputs source target sourceKept targetKept sourcePlace
      targetPlace) :
    let sourceLine := fun place => (Text.lines source).getD place []
    let targetLine := fun place => (Text.lines target).getD place []
    let count := (Text.lines source).length
    let kept := (List.range count).filter fun place =>
      rules.range.accepts (wordCount (sourceLine place)) (wordCount (targetLine place))
    let run := filterPair rules pair outputs tree
    run.result = .ok
        { approved := kept.length
          discarded := count - kept.length
          lines := count
          documents := 1
          source := .ofCounts
            ((List.range count).map fun place => wordCount (sourceLine place))
          target := .ofCounts
            ((List.range count).map fun place => wordCount (targetLine place)) } ∧
      run.tree.get? sourcePlace =
        some (.file (sourceKept ++ (kept.map sourceLine).flatten)) ∧
      run.tree.get? targetPlace =
        some (.file (targetKept ++ (kept.map targetLine).flatten)) ∧
      (∀ location, location ≠ sourcePlace → location ≠ targetPlace →
        run.tree.get? location = tree.get? location) ∧
      (∀ place ∈ kept, place < (Text.lines target).length) ∧
      ∀ tree' target',
        PairFiles tree' pair outputs source target' sourceKept targetKept
          sourcePlace targetPlace →
        (∀ place < count, (Text.lines target').getD place [] = targetLine place) →
        let run' := filterPair rules pair outputs tree'
        run'.result = run.result ∧
        run'.tree.get? sourcePlace = run.tree.get? sourcePlace ∧
          run'.tree.get? targetPlace = run.tree.get? targetPlace := by
  intro sourceLine targetLine count kept run
  obtain ⟨hresult, hsourceFile, htargetFile⟩ := filterPair_eq_linePairs hstrict hfiles
  refine ⟨?_, ?_, ?_, ?_, ?_, ?_⟩
  · rw [hresult, ofDocument_linePairs]
  · rw [hsourceFile, filter_linePairs, List.map_map]
    rfl
  · rw [htargetFile, filter_linePairs, List.map_map]
    rfl
  · intro location hsource htarget
    apply (filterPair_leafChange rules pair outputs tree).elsewhere
    rintro (hplace | hplace)
    · exact hsource (hplace.unique hfiles.sourceLeads)
    · exact htarget (hplace.unique hfiles.targetLeads)
  · intro place hplace
    have haccepts := (List.mem_filter.1 hplace).2
    rcases Nat.lt_or_ge place (Text.lines target).length with hwithin | hbeyond
    · exact hwithin
    -- Beyond the end of the target a line has no words, which no range admits.
    · have hempty : targetLine place = [] := by
        simp [targetLine, List.getD_eq_getElem?_getD, hbeyond]
      rw [hempty, accepts_empty] at haccepts
      cases haccepts
  · intro tree' target' hfiles' hsame run'
    obtain ⟨hresult', hsourceFile', htargetFile'⟩ :=
      filterPair_eq_linePairs hstrict hfiles'
    have hpairs : linePairs (Text.lines source) (Text.lines target') =
        linePairs (Text.lines source) (Text.lines target) := linePairs_congr hsame
    rw [hpairs] at hresult' hsourceFile' htargetFile'
    exact ⟨hresult'.trans hresult.symm, hsourceFile'.trans hsourceFile.symm,
      htargetFile'.trans htargetFile.symm⟩

/-- Two documents of two and three lines, an output that is there and one that is not. -/
def twoDocuments : FileTree where
  entries :=
    [ ([⟨"s", by decide⟩], .file (Text.utf8 "x y\n\n")),
      ([⟨"t", by decide⟩], .file (Text.utf8 "u\nv\nw")),
      ([⟨"p", by decide⟩], .file (Text.utf8 "old")) ]
  base := []
  distinct := by decide

theorem twoDocuments_files :
    PairFiles twoDocuments ⟨⟨"s"⟩, ⟨"t"⟩⟩ ⟨⟨"p"⟩, ⟨"q"⟩⟩ (Text.utf8 "x y\n\n")
      (Text.utf8 "u\nv\nw") (Text.utf8 "old") []
      [⟨"p", by decide⟩] [⟨"q", by decide⟩] where
  source := by decide +kernel
  target := by decide +kernel
  sourceLeads := ⟨⟨[⟨"p", by decide⟩], true, false⟩, by decide +kernel, rfl⟩
  targetLeads := ⟨⟨[⟨"q", by decide⟩], true, false⟩, by decide +kernel, rfl⟩
  sourceKeeps := .inl (by decide +kernel)
  targetKeeps := .inr ⟨by decide +kernel, rfl⟩
  apart := by decide +kernel

theorem filterPair_lines_twoDocuments :
    let run := filterPair ⟨.standard, false⟩ ⟨⟨"s"⟩, ⟨"t"⟩⟩ ⟨⟨"p"⟩, ⟨"q"⟩⟩ twoDocuments
    run.result = .ok ⟨1, 1, 2, 1, ⟨2, 2, some 2⟩, ⟨2, 1, some 1⟩⟩ ∧
      run.tree.get? [⟨"p", by decide⟩] = some (.file (Text.utf8 "oldx y\n")) ∧
      run.tree.get? [⟨"q", by decide⟩] = some (.file (Text.utf8 "u\n")) := by
  have hstrict : (Rules.mk .standard false).strict = false := rfl
  obtain ⟨hresult, hsource, htarget, -⟩ := filterPair_lines hstrict twoDocuments_files
  refine ⟨hresult.trans ?_, hsource.trans ?_, htarget.trans ?_⟩
  · decide +kernel
  · decide +kernel
  · decide +kernel

end ParallelCorpus
