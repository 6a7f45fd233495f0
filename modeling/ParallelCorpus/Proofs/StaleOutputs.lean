import ParallelCorpus.Proofs.Footprint

/-!
# Clearing an output path

Whether an output path leads to anything is looked up through links, but what is removed
is what the path itself names.  So a link goes and what it leads to stays, and a link
that leads nowhere stays too.  Either way a cleared path leads nowhere, and an output
that is opened there is a new and empty file.  Clearing fails where the path itself
names a directory and nowhere else, and touches nothing then.
-/

namespace ParallelCorpus

namespace FileTree

section Naming

variable {tree : FileTree} {path : Path} {entry : Entry}

/-! ## What a path itself names -/

/-- Purposes that stop at a link in the last place lead to the same site, unless a slash
is behind it. -/
theorem locate_of_stops {purpose other : Purpose} {site : Site}
    (hsite : tree.locate purpose path = .ok site) (hslash : site.slash = false)
    (hstops : purpose.follows false = false) (hother : other.follows false = false) :
    tree.locate other path = .ok site := by
  obtain ⟨hwalk, hreach⟩ := locate_eq_ok_iff.1 hsite
  have hplain := hreach.slash_eq_false hslash
  rw [hplain] at hreach
  rw [locate_eq_ok_iff, hplain]
  exact ⟨hwalk, hreach.of_stops hstops hother (Bool.and_false _)⟩

/-- What a path leads to is no link. -/
theorem WellFormed.status_ne_link (hformed : tree.WellFormed) (target : String) :
    tree.status path ≠ .ok (.link target) := by
  intro hstatus
  obtain ⟨site, hsite, hstands⟩ := status_eq_ok_iff.1 hstatus
  have hlink := (entryAt_eq_ok_iff.1 hstands).1
  cases hnamed : site.named with
  | true => exact (locate_eq_ok_iff.1 hsite).2.plain_of_read hnamed target hlink
  | false =>
      rw [hformed.directory_of_unnamed hsite hnamed] at hlink
      cases hlink

/-- A path that leads to something names it, or a link. -/
theorem ownStatus_of_status (hstatus : tree.status path = .ok entry) :
    tree.ownStatus path = .ok entry ∨
    ∃ target, tree.ownStatus path = .ok (.link target) := by
  obtain ⟨site, hsite, hstands⟩ := status_eq_ok_iff.1 hstatus
  obtain ⟨hwalk, hreach⟩ := locate_eq_ok_iff.1 hsite
  obtain ⟨own, hown, hends⟩ := hreach.exists_inspect
  have hinspect : tree.locate .inspect path = .ok own := locate_eq_ok_iff.2 ⟨hwalk, hown⟩
  rcases hends with rfl | ⟨hslash, target, hlink⟩
  · exact .inl (bind_eq_ok_iff.2 ⟨own, hinspect, hstands⟩)
  · exact .inr ⟨target, bind_eq_ok_iff.2 ⟨own, hinspect,
      entryAt_eq_ok_iff.2 ⟨hlink, fun _ => hslash⟩⟩⟩

/-- A path leads to what it names unless that is a link. -/
theorem status_of_ownStatus (hown : tree.ownStatus path = .ok entry)
    (hplain : ∀ target, entry ≠ .link target) : tree.status path = .ok entry := by
  obtain ⟨site, hsite, hstands⟩ := bind_eq_ok_iff.1 hown
  obtain ⟨hwalk, hreach⟩ := locate_eq_ok_iff.1 hsite
  have hread :
      Reaches tree .read linkLimit (Route.ofText path.text).slash (tree.start path)
        (Route.ofText path.text).steps site := by
    apply hreach.read_of_plain
    intro target hlink
    rw [(entryAt_eq_ok_iff.1 hstands).1] at hlink
    exact hplain target (Option.some.inj hlink)
  exact status_eq_ok_iff.2 ⟨site, locate_eq_ok_iff.2 ⟨hwalk, hread⟩, hstands⟩

/-! ## Removing it -/

/-- What a path itself names can be removed unless it is a directory. -/
theorem WellFormed.remove_of_ownStatus (hformed : tree.WellFormed)
    (hown : tree.ownStatus path = .ok entry) (hplain : entry ≠ .directory) :
    ∃ place, tree.NamesPlace path place ∧ tree.get? place = some entry ∧
      tree.remove path = .ok (tree.erase place) := by
  obtain ⟨site, hinspect, hstands⟩ := bind_eq_ok_iff.1 hown
  obtain ⟨hentry, hslash⟩ := entryAt_eq_ok_iff.1 hstands
  have hslash := hslash hplain
  have hnamed : site.named = true := by
    rw [← Bool.not_eq_false]
    intro hunnamed
    have hdirectory := hformed.directory_of_unnamed hinspect hunnamed
    exact hplain (Option.some.inj (hentry.symm.trans hdirectory))
  refine ⟨site.location, ⟨site, hinspect, rfl⟩, hentry, ?_⟩
  rw [remove, locate_of_stops hinspect hslash rfl rfl]
  cases entry with
  | directory => exact absurd rfl hplain
  | file content => simp [bind, Except.bind, hnamed, hslash, hentry, pure, Except.pure]
  | link target => simp [bind, Except.bind, hnamed, hslash, hentry, pure, Except.pure]
  | device kind => simp [bind, Except.bind, hnamed, hslash, hentry, pure, Except.pure]

/-- A directory that a path itself names cannot be removed. -/
theorem remove_of_directory (hown : tree.ownStatus path = .ok .directory)
    (cleared : FileTree) :
    tree.remove path ≠ .ok cleared := by
  intro hremove
  obtain ⟨site, hsite, hslash, hplain, -⟩ := remove_ok hremove
  obtain ⟨own, hinspect, hstands⟩ := bind_eq_ok_iff.1 hown
  have hsame : own = site :=
    Except.ok.inj (hinspect.symm.trans (locate_of_stops hsite hslash rfl rfl))
  rw [hsame] at hstands
  exact hplain (entryAt_eq_ok_iff.1 hstands).1

end Naming

/-! ## Opening what was cleared -/

/-- An output that is opened where a path led nowhere is a new and empty file, and the
path leads to it. -/
theorem WellFormed.openOutput_of_not_holds {tree opened : FileTree} {path : Path}
    {handle : Handle} (hformed : tree.WellFormed) (hholds : tree.holds path = false)
    (hopen : tree.openOutput path = .ok (handle, opened)) :
    handle.medium = .file ∧ tree.get? handle.location = none ∧
      opened.get? handle.location = some (.file []) ∧
      opened.status path = .ok (.file []) := by
  obtain ⟨hplace, hchange⟩ := openOutput_ok hopen
  have hvacant : tree.get? handle.location = none := (hformed.vacant hholds).get? hplace
  obtain ⟨opened', hopen', -, hfile⟩ := openOutput_of_keeps hplace (.inr ⟨hvacant, rfl⟩)
  obtain ⟨hhandle, rfl⟩ := Prod.mk.inj (Except.ok.inj (hopen.symm.trans hopen'))
  obtain ⟨site, hsite, hlocation⟩ := hplace
  have hslash : site.slash = false := by
    apply hformed.slash_of_write hsite
    rw [hlocation, hvacant]
    exact (Option.some_ne_none _).symm
  have hread : opened.locate .read path = .ok site :=
    hchange.ways.locate_ok_iff.2 (locate_read_of_write hsite)
  rw [← hlocation] at hfile
  refine ⟨congrArg Handle.medium hhandle, hvacant, hlocation ▸ hfile, ?_⟩
  exact status_eq_ok_iff.2 ⟨site, hread, entryAt_eq_ok_iff.2 ⟨hfile, fun _ => hslash⟩⟩

end FileTree

/-! ## Clearing -/

section Clearing

variable {tree cleared : FileTree} {path : Path}

/-- Nothing goes but the entry that the path itself names. -/
theorem removeStale_erases (hremove : removeStale path tree = .ok cleared) :
    cleared = tree ∨ ∃ place, tree.NamesPlace path place ∧
    cleared = tree.erase place := by
  rcases (removeStale_ok hremove).2 with rfl | ⟨site, hsite, hslash, -, rfl⟩
  · exact .inl rfl
  · exact .inr ⟨site.location,
      ⟨site, FileTree.locate_of_stops hsite hslash rfl rfl, rfl⟩, rfl⟩

/-- Clearing a path fails where it names a directory, and nowhere else. -/
theorem removeStale_fails_iff (hformed : tree.WellFormed) :
    (∃ failure, removeStale path tree = .error failure) ↔
      tree.ownStatus path = .ok .directory := by
  constructor
  · rintro ⟨failure, hfails⟩
    cases hholds : tree.holds path with
    | false =>
        rw [removeStale_of_not_holds hholds] at hfails
        cases hfails
    | true =>
        have hnamed : ∃ entry, tree.ownStatus path = .ok entry := by
          obtain ⟨entry, hstatus⟩ := FileTree.holds_iff.1 hholds
          rcases FileTree.ownStatus_of_status hstatus with hown | ⟨target, hown⟩
          · exact ⟨entry, hown⟩
          · exact ⟨.link target, hown⟩
        obtain ⟨own, hown⟩ := hnamed
        by_cases hplain : own = .directory
        · rw [hown, hplain]
        · obtain ⟨place, -, -, hremove⟩ := hformed.remove_of_ownStatus hown hplain
          rw [removeStale, if_pos hholds, hremove] at hfails
          cases hfails
  · intro hown
    have hstatus : tree.status path = .ok .directory :=
      FileTree.status_of_ownStatus hown fun target => by simp
    rw [removeStale, if_pos (FileTree.holds_iff.2 ⟨_, hstatus⟩)]
    cases hremove : tree.remove path with
    | ok cleared => exact absurd hremove (FileTree.remove_of_directory hown cleared)
    | error fault => exact ⟨_, rfl⟩

/-- A link that leads somewhere goes, and what it leads to stays. -/
theorem removeStale_of_link {target : String} {entry : Entry} (hformed : tree.WellFormed)
    (hlink : tree.ownStatus path = .ok (.link target))
    (hstatus : tree.status path = .ok entry) :
    ∃ link aim, tree.locate .inspect path = .ok link ∧ tree.locate .read path = .ok aim ∧
      removeStale path tree = .ok (tree.erase link.location) ∧
      (tree.erase link.location).get? link.location = none ∧
      (tree.erase link.location).get? aim.location = some entry := by
  obtain ⟨place, ⟨link, hinspect, rfl⟩, hstands, hremove⟩ :=
    hformed.remove_of_ownStatus hlink (by simp)
  obtain ⟨aim, hread, haim⟩ := FileTree.status_eq_ok_iff.1 hstatus
  have hentry := (FileTree.entryAt_eq_ok_iff.1 haim).1
  refine ⟨link, aim, hinspect, hread, ?_, ?_, ?_⟩
  · rw [removeStale, if_pos (FileTree.holds_iff.2 ⟨entry, hstatus⟩), hremove]
  · apply FileTree.get?_erase_self
    intro hroot
    rw [hroot, FileTree.get?_root] at hstands
    cases hstands
  · rw [FileTree.get?_erase_of_ne tree, hentry]
    intro hsame
    rw [hsame, hstands] at hentry
    exact hformed.status_ne_link target
      (hstatus.trans (congrArg _ (Option.some.inj hentry).symm))

/-- Where a run clears a path: the target output in the tree that it starts from, and
the source output in what is left of that. -/
inductive Job.Clears (job : Job) (start : FileTree) : Path → FileTree → Prop
  | target {range : WordRange} (admits : admitted job start = .ok range) :
      Clears job start job.outputs.target start
  | source {range : WordRange} {between : FileTree}
      (admits : admitted job start = .ok range)
      (first : removeStale job.outputs.target start = .ok between) :
      Clears job start job.outputs.source between

/-- A run that cannot clear a path ends there, in the tree as it was. -/
theorem Job.Clears.run_of_error {job : Job} {start : FileTree} {failure : Failure}
    (hclears : job.Clears start path tree)
    (hfails : removeStale path tree = .error failure) :
    (filterCorpus job start).result = .error failure ∧
    (filterCorpus job start).tree = tree := by
  cases hclears with
  | target admits =>
      simp only [filterCorpus, admits, hfails, and_self]
  | source admits first =>
      simp only [filterCorpus, admits, first, hfails, and_self]

end Clearing

/-- A path that has been cleared leads nowhere, an output opened there is a new and
empty file, and nothing has changed but what the path itself names: of a link that leads
somewhere, only the link is gone.  Clearing it again changes nothing.  Where clearing
fails, which is where the path itself names a directory, the failure is about this path,
and a run that comes to it ends in the tree as it was. -/
theorem removeStale_clears {tree : FileTree} (hformed : tree.WellFormed) (path : Path) :
    (∀ cleared, removeStale path tree = .ok cleared →
      (∀ entry, cleared.status path ≠ .ok entry) ∧
      (∀ handle opened, cleared.openOutput path = .ok (handle, opened) →
        handle.medium = .file ∧ cleared.get? handle.location = none ∧
          opened.get? handle.location = some (.file []) ∧
          opened.status path = .ok (.file [])) ∧
      (cleared = tree ∨ ∃ place,
        tree.NamesPlace path place ∧ cleared = tree.erase place) ∧
      (∀ location, ¬tree.NamesPlace path location →
        cleared.get? location = tree.get? location) ∧
      removeStale path cleared = .ok cleared) ∧
    (∀ target entry, tree.ownStatus path = .ok (.link target) →
      tree.status path = .ok entry →
      ∃ link aim, tree.locate .inspect path = .ok link ∧
        tree.locate .read path = .ok aim ∧
        removeStale path tree = .ok (tree.erase link.location) ∧
        (tree.erase link.location).get? link.location = none ∧
        (tree.erase link.location).get? aim.location = some entry) ∧
    (∀ failure, removeStale path tree = .error failure →
      (∃ cause, failure = .removeOutput path cause) ∧
      ∀ job start, job.Clears start path tree →
        (filterCorpus job start).result = .error failure ∧
          (filterCorpus job start).tree = tree) ∧
    ((∃ failure, removeStale path tree = .error failure) ↔
      tree.ownStatus path = .ok .directory) := by
  refine ⟨fun cleared hremove => ?_,
    fun target entry hlink hstatus => removeStale_of_link hformed hlink hstatus,
    fun failure hfails => ⟨removeStale_error hfails, fun job start hclears =>
      hclears.run_of_error hfails⟩,
    removeStale_fails_iff hformed⟩
  have hholds : cleared.holds path = false := (removeStale_ok hremove).1
  have hcleared : cleared.WellFormed := removeStale_wellFormed hremove hformed
  have herases := removeStale_erases hremove
  refine ⟨fun entry hstatus => ?_,
    fun handle opened hopen => hcleared.openOutput_of_not_holds hholds hopen,
    herases, fun location helsewhere => ?_, removeStale_of_not_holds hholds⟩
  · rw [FileTree.holds_iff.2 ⟨entry, hstatus⟩] at hholds
    cases hholds
  · rcases herases with rfl | ⟨place, hplace, rfl⟩
    · rfl
    · apply FileTree.get?_erase_of_ne
      rintro rfl
      exact helsewhere hplace

/-- A run removes the link to the target documents that stands in the place of its
target output, and leaves the documents; the directory in the place of the source output
ends it.  Through a link that leads nowhere an empty file is made. -/
theorem removeStale_clears_links :
    let job : Job := { inputDir := ⟨"c"⟩, outName := "news" }
    let sourcePlace : Location := ⟨"news_Short.en", by decide⟩ :: corpusRoot
    let targetPlace : Location := ⟨"news_Short.fa", by decide⟩ :: corpusRoot
    let document : Location := ⟨"a.ixml", by decide⟩ :: targetRoot
    let corpus := twoPairs (.file (Text.utf8 "x\n"), .file (Text.utf8 "y\n"))
      (.file (Text.utf8 "z"), .link "../../new")
    let tree := (corpus.put sourcePlace .directory).put targetPlace (.link "fa")
    let left := tree.erase targetPlace
    tree.WellFormed ∧ left.WellFormed ∧
      removeStale job.outputs.target tree = .ok left ∧
      left.get? targetRoot = some .directory ∧
      left.get? document = some (.file (Text.utf8 "y\n")) ∧
      (∃ cause, (filterCorpus job tree).result =
        .error (.removeOutput job.outputs.source cause)) ∧
      (filterCorpus job tree).tree = left ∧
      removeStale ⟨"c/fa/b.ixml"⟩ tree = .ok tree ∧
      ∃ handle opened, tree.openOutput ⟨"c/fa/b.ixml"⟩ = .ok (handle, opened) ∧
        tree.get? handle.location = none ∧ opened.status ⟨"c/fa/b.ixml"⟩ =
          .ok (.file []) := by
  intro job sourcePlace targetPlace document corpus tree left
  have htree : tree.WellFormed := ⟨by decide +kernel, by decide +kernel⟩
  have hleft : left.WellFormed := ⟨by decide +kernel, by decide +kernel⟩
  have hinspect : tree.locate .inspect job.outputs.target =
      .ok ⟨targetPlace, true, false⟩ := by
    decide +kernel
  have hread : tree.locate .read job.outputs.target = .ok ⟨targetRoot, true, false⟩ := by
    decide +kernel
  obtain ⟨hclears, hlinks, -, -⟩ := removeStale_clears htree job.outputs.target
  obtain ⟨link, aim, hlink, haim, hremove, -, hstays⟩ :=
    hlinks "fa" .directory (by decide +kernel) (by decide +kernel)
  obtain rfl : ⟨targetPlace, true, false⟩ = link :=
    Except.ok.inj (hinspect.symm.trans hlink)
  obtain rfl : ⟨targetRoot, true, false⟩ = aim := Except.ok.inj (hread.symm.trans haim)
  obtain ⟨-, -, -, helsewhere, -⟩ := hclears left hremove
  have hdocument : left.get? document = tree.get? document := by
    apply helsewhere
    rintro ⟨site, hsite, hplace⟩
    rw [← Except.ok.inj (hinspect.symm.trans hsite)] at hplace
    exact absurd hplace (by decide)
  -- The source output cannot be cleared in what is left, so the run ends there.
  obtain ⟨-, -, hfails, hdirectory⟩ := removeStale_clears hleft job.outputs.source
  obtain ⟨failure, hfailure⟩ := hdirectory.2 (by decide +kernel)
  obtain ⟨⟨cause, rfl⟩, hruns⟩ := hfails failure hfailure
  have hadmits : admitted job tree = .ok .standard := by decide +kernel
  obtain ⟨hresult, hrun⟩ := hruns job tree (.source hadmits hremove)
  -- The link among the documents leads nowhere: it stays, and opening makes what it
  -- names.
  have hnowhere : removeStale ⟨"c/fa/b.ixml"⟩ tree = .ok tree :=
    removeStale_of_not_holds (by decide +kernel)
  obtain ⟨hcleared, -⟩ := removeStale_clears htree ⟨"c/fa/b.ixml"⟩
  obtain ⟨-, hopens, -⟩ := hcleared tree hnowhere
  have hopenable : (tree.openOutput ⟨"c/fa/b.ixml"⟩).isOk = true := by decide +kernel
  cases hopen : tree.openOutput ⟨"c/fa/b.ixml"⟩ with
  | error fault =>
      rw [hopen] at hopenable
      cases hopenable
  | ok made =>
      obtain ⟨handle, opened⟩ := made
      obtain ⟨-, hvacant, -, hempty⟩ := hopens handle opened hopen
      exact ⟨htree, hleft, hremove, hstays, hdocument.trans (by decide +kernel),
        ⟨cause, hresult⟩, hrun, hnowhere, handle, opened, rfl, hvacant, hempty⟩

end ParallelCorpus
