import ParallelCorpus.Filter.Corpus
import ParallelCorpus.Proofs.PairFilter

/-!
# Removing what an earlier run left

A run removes the target output and then the source output, and only then looks for
documents.  What is removed is what the path itself names, a link and not the file
behind it.  Afterwards neither path leads to anything, and an output written there
starts from nothing.
-/

namespace ParallelCorpus

namespace FileTree

/-! ## Trees without some entries -/

/-- All that stands in one tree stands in the other. -/
structure Within (other tree : FileTree) : Prop where
  base : other.base = tree.base
  entry : ∀ location entry, other.get? location = some entry →
    tree.get? location = some entry

theorem Within.refl (tree : FileTree) : Within tree tree :=
  ⟨rfl, fun _ _ hentry => hentry⟩

theorem Within.trans {first second third : FileTree} (hfirst : Within first second)
    (hsecond : Within second third) : Within first third :=
  ⟨hfirst.base.trans hsecond.base, fun location entry hentry =>
    hsecond.entry location entry (hfirst.entry location entry hentry)⟩

theorem within_erase (tree : FileTree) (gone : Location) :
    Within (tree.erase gone) tree := by
  refine ⟨rfl, fun location entry hentry => ?_⟩
  by_cases hgone : location = gone
  · subst hgone
    by_cases hroot : location = []
    · subst hroot
      rwa [get?_root] at hentry ⊢
    · rw [get?_erase_self tree hroot] at hentry
      cases hentry
  · rwa [get?_erase_of_ne tree hgone] at hentry

/-- A walk that ends where something stands goes the same way when more does. -/
theorem Reaches.of_within {other tree : FileTree} (hwithin : Within other tree)
    {purpose : Purpose} {links : Nat} {slash : Bool} {here : Location}
    {steps : List String} {site : Site} {entry : Entry}
    (hreach : Reaches other purpose links slash here steps site)
    (hentry : other.get? site.location = some entry) :
    Reaches tree purpose links slash here steps site := by
  induction hreach with
  | done => exact .done
  | stay _ ih => exact .stay (ih hentry)
  | up _ ih => exact .up (ih hentry)
  | last hname hrefuse hfollow =>
      apply Reaches.last hname hrefuse
      intro target hlink
      rw [hwithin.entry _ _ hentry] at hlink
      rw [hlink] at hentry
      exact hfollow target hentry
  | enter hname hrest hdirectory _ ih =>
      exact .enter hname hrest (hwithin.entry _ _ hdirectory) (ih hentry)
  | detour hname hlink htarget hlast _ ih =>
      exact .detour hname (hwithin.entry _ _ hlink) htarget hlast (ih hentry)

theorem Within.locate_ok {other tree : FileTree} (hwithin : Within other tree)
    {purpose : Purpose} {path : Path} {site : Site} {entry : Entry}
    (hlocate : other.locate purpose path = .ok site)
    (hentry : other.get? site.location = some entry) :
    tree.locate purpose path = .ok site := by
  rw [locate_eq_ok_iff] at hlocate ⊢
  obtain ⟨hwalk, hreach⟩ := hlocate
  have hstart : other.start path = tree.start path := by rw [start, start, hwithin.base]
  rw [hstart] at hreach
  exact ⟨hwalk, hreach.of_within hwithin hentry⟩

theorem entryAt_eq_ok_iff {tree : FileTree} {site : Site} {entry : Entry} :
    tree.entryAt site = .ok entry ↔ tree.get? site.location = some entry ∧
      (entry ≠ .directory → site.slash = false) := by
  rw [entryAt]
  rcases tree.get? site.location with _ | (_ | _ | _ | _) <;> cases entry <;>
    cases site.slash <;>
    simp

theorem status_eq_ok_iff {tree : FileTree} {path : Path} {entry : Entry} :
    tree.status path = .ok entry ↔
      ∃ site, tree.locate .read path = .ok site ∧ tree.entryAt site = .ok entry :=
  bind_eq_ok_iff

theorem isDirectory_iff_status {tree : FileTree} {path : Path} :
    tree.isDirectory path = true ↔ tree.status path = .ok .directory := by
  rw [isDirectory]
  split
  · rename_i hstatus
    exact iff_of_true rfl hstatus
  · rename_i hother
    exact iff_of_false Bool.false_ne_true fun hstatus => hother hstatus

theorem isDirectory_iff {tree : FileTree} {path : Path} :
    tree.isDirectory path = true ↔
      ∃ site, tree.locate .read path = .ok site ∧
        tree.get? site.location = some .directory := by
  rw [isDirectory_iff_status, status_eq_ok_iff]
  simp only [entryAt_eq_ok_iff, ne_eq, not_true_eq_false, false_implies, and_true]

theorem get?_of_isDirectory {tree : FileTree} {path : Path} {site : Site}
    (hsite : tree.locate .read path = .ok site)
    (hdirectory : tree.isDirectory path = true) :
    tree.get? site.location = some .directory := by
  obtain ⟨site', hsite', hentry⟩ := isDirectory_iff.1 hdirectory
  rwa [Except.ok.inj (hsite.symm.trans hsite')]

theorem holds_iff {tree : FileTree} {path : Path} :
    tree.holds path = true ↔ ∃ entry, tree.status path = .ok entry := by
  rw [holds]
  cases tree.status path <;> simp [Except.isOk, Except.toBool]

/-- What a path leads to is still led to when more stands in the tree. -/
theorem Within.holds {other tree : FileTree} (hwithin : Within other tree) {path : Path}
    (hholds : other.holds path = true) : tree.holds path = true := by
  rw [holds_iff] at hholds ⊢
  obtain ⟨entry, hstatus⟩ := hholds
  obtain ⟨site, hsite, hentry⟩ := status_eq_ok_iff.1 hstatus
  rw [entryAt_eq_ok_iff] at hentry
  refine ⟨entry, status_eq_ok_iff.2 ⟨site, hwithin.locate_ok hsite hentry.1, ?_⟩⟩
  exact entryAt_eq_ok_iff.2 ⟨hwithin.entry _ _ hentry.1, hentry.2⟩

/-! ## Taking away one entry -/

/-- Once the entry that a path names is gone, the path leads to its place or nowhere. -/
theorem Reaches.of_erased {tree : FileTree} {links : Nat} {slash : Bool} {here : Location}
    {steps : List String} {site : Site}
    (hreach : Reaches tree .remove links slash here steps site)
    (hplain : tree.get? site.location ≠ some .directory) {purpose : Purpose}
    {site' : Site}
    (hreach' : Reaches (tree.erase site.location) purpose links slash here steps site') :
    site'.location = site.location := by
  induction hreach with
  | done =>
      cases hreach'
      rfl
  | stay _ ih => exact ih hplain (reaches_dot_iff.1 hreach')
  | up _ ih => exact ih hplain (reaches_dots_iff.1 hreach')
  | @last links slash here step name hname _ _ =>
      rcases hreach'.of_last hname with rfl | ⟨target, hlink, -⟩
      · rfl
      · rw [get?_erase_self tree (List.cons_ne_nil name here)] at hlink
        cases hlink
  | @enter links slash here step name rest site hname hrest hentry _ ih =>
      have hother : name :: here ≠ site.location := by
        intro hsame
        rw [hsame] at hentry
        exact hplain hentry
      have hentry' : (tree.erase site.location).get? (name :: here) =
          some .directory := by
        rw [get?_erase_of_ne tree hother, hentry]
      exact ih hplain ((reaches_enter_iff hname hrest hentry').1 hreach')
  | @detour links slash here step name rest target site hname hentry htarget hlast _ ih =>
      have hrest : rest ≠ [] := by
        intro hnil
        cases (hlast hnil).2
      by_cases hother : name :: here = site.location
      · -- The link on the way is what was removed, so there is no way any more.
        have hgone : (tree.erase site.location).get? (name :: here) = none := by
          rw [← hother, get?_erase_self tree (List.cons_ne_nil name here)]
        rw [← walk_eq_ok_iff, walk_inner _ _ _ _ _ hname hrest, hgone] at hreach'
        cases hreach'
      · have hentry' : (tree.erase site.location).get? (name :: here) =
            some (.link target) := by
          rw [get?_erase_of_ne tree hother, hentry]
        exact ih hplain ((reaches_detour_iff hname hrest htarget hentry').1 hreach')

theorem holds_erase {tree : FileTree} {path : Path} {site : Site}
    (hsite : tree.locate .remove path = .ok site)
    (hplain : tree.get? site.location ≠ some .directory) :
    (tree.erase site.location).holds path = false := by
  rw [← Bool.not_eq_true, holds_iff]
  rintro ⟨entry, hstatus⟩
  obtain ⟨site', hsite', hentry⟩ := status_eq_ok_iff.1 hstatus
  rw [locate_eq_ok_iff] at hsite hsite'
  have hplace : site'.location = site.location := hsite.2.of_erased hplain hsite'.2
  have hbelow : site.location ≠ [] := by
    intro hroot
    rw [hroot, get?_root] at hplain
    exact hplain rfl
  have hstands := (entryAt_eq_ok_iff.1 hentry).1
  rw [hplace, get?_erase_self tree hbelow] at hstands
  cases hstands

theorem remove_ok {tree cleared : FileTree} {path : Path}
    (hremove : tree.remove path = .ok cleared) :
    ∃ site, tree.locate .remove path = .ok site ∧ site.slash = false ∧
      tree.get? site.location ≠ some .directory ∧ cleared = tree.erase site.location := by
  rw [remove, bind_eq_ok_iff] at hremove
  obtain ⟨site, hsite, hremove⟩ := hremove
  cases hnamed : site.named with
  | false =>
      rw [hnamed] at hremove
      cases hremove
  | true =>
  rw [hnamed] at hremove
  simp only [Bool.not_true, Bool.false_eq_true, if_false] at hremove
  split at hremove
  · cases hremove
  · cases hremove
  · rename_i entry hplain hentry
    split at hremove
    · cases hremove
    · rename_i hslash
      cases hremove
      refine ⟨site, hsite, Bool.eq_false_iff.2 hslash, ?_, rfl⟩
      rw [hentry]
      exact fun hdirectory => hplain (Option.some.inj hdirectory)

/-! ## Trees as they come -/

/-- Every entry stands in a directory, and so does whoever works in the tree. -/
structure WellFormed (tree : FileTree) : Prop where
  base : tree.get? tree.base = some .directory
  parents : ∀ stored ∈ tree.entries, tree.get? stored.1.tail = some .directory

theorem WellFormed.parent {tree : FileTree} (hformed : tree.WellFormed)
    {location : Location} {entry : Entry} (hentry : tree.get? location = some entry) :
    tree.get? location.tail = some .directory := by
  by_cases hroot : location = []
  · subst hroot
    exact get?_root tree
  · rw [get?, if_neg hroot, List.lookup_eq_some_iff] at hentry
    obtain ⟨before, after, hstored, -⟩ := hentry
    exact hformed.parents (location, entry) (by rw [hstored]; simp)

theorem WellFormed.erase {tree : FileTree} (hformed : tree.WellFormed) {gone : Location}
    (hplain : tree.get? gone ≠ some .directory) : (tree.erase gone).WellFormed := by
  have hkept {location : Location} (hdirectory : tree.get? location = some .directory) :
      (tree.erase gone).get? location = some .directory := by
    rw [get?_erase_of_ne tree, hdirectory]
    rintro rfl
    exact hplain hdirectory
  exact ⟨hkept hformed.base, fun stored hstored =>
    hkept (hformed.parents stored (List.mem_filter.1 hstored).1)⟩

/-- A walk that does not end with a name ends in a directory. -/
theorem Reaches.directory_of_unnamed {tree : FileTree} (hformed : tree.WellFormed)
    {purpose : Purpose} {links : Nat} {slash : Bool} {here : Location}
    {steps : List String} {site : Site}
    (hreach : Reaches tree purpose links slash here steps site)
    (hhere : tree.get? here = some .directory) (hunnamed : site.named = false) :
    tree.get? site.location = some .directory := by
  induction hreach with
  | done => exact hhere
  | stay _ ih => exact ih hhere hunnamed
  | up _ ih => exact ih (hformed.parent hhere) hunnamed
  | last => cases hunnamed
  | enter _ _ hentry _ ih => exact ih hentry hunnamed
  | @detour links slash here step name rest target site _ _ _ _ _ ih =>
      refine ih ?_ hunnamed
      rw [detourStart]
      split
      · exact get?_root tree
      · exact hhere

/-- A path that leads to nothing can only be written to where nothing stands, unless it
has no last name. -/
theorem get?_of_not_holds {tree : FileTree} {path : Path} {site : Site}
    (hsite : tree.locate .write path = .ok site) (hholds : tree.holds path = false) :
    tree.get? site.location = none ∨
      (site.named = false ∧ tree.get? site.location ≠ some .directory) := by
  have hstatus (entry : Entry) : tree.entryAt site ≠ .ok entry := by
    intro hentry
    rw [← Bool.not_eq_true, holds_iff] at hholds
    exact hholds ⟨entry, status_eq_ok_iff.2 ⟨site, locate_read_of_write hsite, hentry⟩⟩
  cases hentry : tree.get? site.location with
  | none => exact .inl rfl
  | some entry =>
      have hunslashed : ¬(entry ≠ .directory → site.slash = false) := fun hslash =>
        hstatus entry (entryAt_eq_ok_iff.2 ⟨hentry, hslash⟩)
      refine .inr ⟨?_, ?_⟩
      · rw [← Bool.not_eq_true]
        intro hnamed
        exact hunslashed fun _ => (locate_eq_ok_iff.1 hsite).2.slash_of_write hnamed
      · rintro hdirectory
        cases hdirectory
        exact hunslashed fun hplain => absurd rfl hplain

/-- Wherever a path leads to write, it does so by name, and nothing stands there. -/
def Vacant (tree : FileTree) (path : Path) : Prop :=
  ∀ site, tree.locate .write path = .ok site →
    site.named = true ∧ tree.get? site.location = none

theorem Vacant.get? {tree : FileTree} {path : Path} (hvacant : tree.Vacant path)
    {location : Location} (hplace : tree.WritesTo path location) :
    tree.get? location = none := by
  obtain ⟨site, hsite, rfl⟩ := hplace
  exact (hvacant site hsite).2

/-- A path that does not end in a name leads to a directory. -/
theorem WellFormed.directory_of_unnamed {tree : FileTree} (hformed : tree.WellFormed)
    {purpose : Purpose} {path : Path} {site : Site}
    (hsite : tree.locate purpose path = .ok site) (hunnamed : site.named = false) :
    tree.get? site.location = some .directory := by
  obtain ⟨-, hreach⟩ := locate_eq_ok_iff.1 hsite
  apply hreach.directory_of_unnamed hformed _ hunnamed
  rw [start]
  split
  · exact get?_root tree
  · exact hformed.base

theorem WellFormed.vacant {tree : FileTree} (hformed : tree.WellFormed) {path : Path}
    (hholds : tree.holds path = false) : tree.Vacant path := by
  intro site hsite
  rcases get?_of_not_holds hsite hholds with hvacant | ⟨hnot, hplain⟩
  · refine ⟨?_, hvacant⟩
    rw [← Bool.not_eq_false]
    intro hnot
    rw [hformed.directory_of_unnamed hsite hnot] at hvacant
    cases hvacant
  · exact absurd (hformed.directory_of_unnamed hsite hnot) hplain

/-- Where a path leads to write and no directory stands, no slash follows its last
name. -/
theorem WellFormed.slash_of_write {tree : FileTree}
    (hformed : tree.WellFormed) {path : Path} {site : Site}
    (hsite : tree.locate .write path = .ok site)
    (hplain : tree.get? site.location ≠ some .directory) : site.slash = false := by
  cases hnamed : site.named with
  | true => exact (locate_eq_ok_iff.1 hsite).2.slash_of_write hnamed
  | false => exact absurd (hformed.directory_of_unnamed hsite hnamed) hplain

/-- The file that a path leads to is opened with what it holds. -/
theorem openInput_of_locate {tree : FileTree} {path : Path} {site : Site}
    {content : Text.Bytes} (hsite : tree.locate .read path = .ok site)
    (hslash : site.slash = false)
    (hfile : tree.get? site.location = some (.file content)) :
    tree.openInput path = .ok (.text content) := by
  have hentry : tree.entryAt site = .ok (.file content) :=
    entryAt_eq_ok_iff.2 ⟨hfile, fun _ => hslash⟩
  simp [openInput, status, hsite, hentry, bind, Except.bind, pure, Except.pure]

def LinkFree (tree : FileTree) : Prop :=
  ∀ location target, tree.get? location ≠ some (.link target)

theorem linkFree_of_entries {tree : FileTree}
    (hentries : ∀ stored ∈ tree.entries, signpost (some stored.2) ≠ none →
      stored.2 = .directory) : tree.LinkFree := by
  intro location target hlink
  by_cases hroot : location = []
  · rw [hroot, get?_root] at hlink
    cases hlink
  · rw [get?, if_neg hroot, List.lookup_eq_some_iff] at hlink
    obtain ⟨before, after, hstored, -⟩ := hlink
    have hmem : (location, Entry.link target) ∈ tree.entries := by
      rw [hstored]
      simp
    cases hentries _ hmem (by simp [signpost])

end FileTree

open FileTree (Within LeafChange)

/-! ## Clearing the outputs -/

def clearOutputs (outputs : OutputPaths) (tree : FileTree) : Except Failure FileTree := do
  let tree ← removeStale outputs.target tree
  removeStale outputs.source tree

/-- Where a path leads nowhere, nothing is removed. -/
theorem removeStale_of_not_holds {path : Path} {tree : FileTree}
    (hholds : tree.holds path = false) : removeStale path tree = .ok tree := by
  rw [removeStale, hholds, if_neg Bool.false_ne_true]

theorem removeStale_ok {path : Path} {tree cleared : FileTree}
    (hremove : removeStale path tree = .ok cleared) :
    cleared.holds path = false ∧ (cleared = tree ∨
      ∃ site, tree.locate .remove path = .ok site ∧ site.slash = false ∧
        tree.get? site.location ≠ some .directory ∧
        cleared = tree.erase site.location) := by
  rw [removeStale] at hremove
  split at hremove
  · split at hremove
    · rename_i cleared' hcleared
      cases hremove
      obtain ⟨site, hsite, hslash, hplain, rfl⟩ := FileTree.remove_ok hcleared
      exact ⟨FileTree.holds_erase hsite hplain, .inr ⟨site, hsite, hslash, hplain, rfl⟩⟩
    · cases hremove
  · rename_i hholds
    cases hremove
    exact ⟨Bool.eq_false_iff.2 hholds, .inl rfl⟩

theorem removeStale_within {path : Path} {tree cleared : FileTree}
    (hremove : removeStale path tree = .ok cleared) : Within cleared tree := by
  rcases (removeStale_ok hremove).2 with rfl | ⟨site, -, -, -, rfl⟩
  · exact .refl cleared
  · exact FileTree.within_erase tree site.location

theorem removeStale_wellFormed {path : Path} {tree cleared : FileTree}
    (hremove : removeStale path tree = .ok cleared) (hformed : tree.WellFormed) :
    cleared.WellFormed := by
  rcases (removeStale_ok hremove).2 with rfl | ⟨site, -, -, hplain, rfl⟩
  · exact hformed
  · exact hformed.erase hplain

/-- Where there are no links, what is removed is what could have been written. -/
theorem removeStale_leafChange {path : Path} {tree cleared : FileTree}
    (hremove : removeStale path tree = .ok cleared) (hfree : tree.LinkFree) :
    LeafChange (tree.WritesTo path) tree cleared := by
  rcases (removeStale_ok hremove).2 with rfl | ⟨site, hsite, hslash, hplain, rfl⟩
  · exact .refl _ cleared
  · have hplace : tree.WritesTo path site.location := by
      rw [FileTree.locate_eq_ok_iff] at hsite
      obtain ⟨hwalk, hreach⟩ := hsite
      exact ⟨site, FileTree.locate_eq_ok_iff.2
        ⟨hwalk, hreach.write_of_remove hfree hslash⟩, rfl⟩
    have hpost : FileTree.signpost (tree.get? site.location) = none := by
      rcases hentry : tree.get? site.location with _ | (_ | _ | target | _)
      · rfl
      · rfl
      · exact absurd hentry hplain
      · exact absurd hentry (hfree site.location target)
      · rfl
    apply (FileTree.leafChange_erase hpost).mono
    rintro location rfl
    exact hplace

theorem clearOutputs_ok {outputs : OutputPaths} {tree cleared : FileTree}
    (hclear : clearOutputs outputs tree = .ok cleared) :
    ∃ between, removeStale outputs.target tree = .ok between ∧
      removeStale outputs.source between = .ok cleared :=
  bind_eq_ok_iff.1 hclear

theorem clearOutputs_of_not_holds {outputs : OutputPaths} {tree : FileTree}
    (hsource : tree.holds outputs.source = false)
    (htarget : tree.holds outputs.target = false) :
    clearOutputs outputs tree = .ok tree := by
  simp [clearOutputs, removeStale_of_not_holds, hsource, htarget, bind, Except.bind]

theorem clearOutputs_within {outputs : OutputPaths} {tree cleared : FileTree}
    (hclear : clearOutputs outputs tree = .ok cleared) : Within cleared tree := by
  obtain ⟨between, hfirst, hsecond⟩ := clearOutputs_ok hclear
  exact (removeStale_within hsecond).trans (removeStale_within hfirst)

/-- Nothing is left of the outputs. -/
theorem clearOutputs_holds {outputs : OutputPaths} {tree cleared : FileTree}
    (hclear : clearOutputs outputs tree = .ok cleared) :
    cleared.holds outputs.source = false ∧ cleared.holds outputs.target = false := by
  obtain ⟨between, hfirst, hsecond⟩ := clearOutputs_ok hclear
  refine ⟨(removeStale_ok hsecond).1, ?_⟩
  rw [← Bool.not_eq_true]
  intro hholds
  have hearlier := (removeStale_within hsecond).holds hholds
  rw [(removeStale_ok hfirst).1] at hearlier
  cases hearlier

theorem clearOutputs_vacant {outputs : OutputPaths} {tree cleared : FileTree}
    (hclear : clearOutputs outputs tree = .ok cleared) (hformed : tree.WellFormed) :
    cleared.Vacant outputs.source ∧ cleared.Vacant outputs.target := by
  obtain ⟨between, hfirst, hsecond⟩ := clearOutputs_ok hclear
  obtain ⟨hsource, htarget⟩ := clearOutputs_holds hclear
  have hcleared : cleared.WellFormed :=
    removeStale_wellFormed hsecond (removeStale_wellFormed hfirst hformed)
  exact ⟨hcleared.vacant hsource, hcleared.vacant htarget⟩

/-! ## What is left of a run -/

def Job.pairs (job : Job) (tree : FileTree) : List DocumentPair :=
  discoverPairs tree job.sourceDir job.targetDir job.suffix job.lookup

theorem filterCleared_eq (job : Job) (range : WordRange) (events : List Event)
    (tree : FileTree) :
    let run := filterPairs ⟨range, job.strictAlignment⟩ job.outputs (job.pairs tree) tree
    let whole := filterCleared job range events tree
    whole.reports = run.reports ∧ whole.tree = run.tree ∧
      whole.result = match run.failure? with
        | some failure => .error failure
        | none => .ok (totals run.reports) := by
  intro run whole
  have hwhole : whole = filterCleared job range events tree := rfl
  rw [hwhole, filterCleared]
  cases hends : run.failure? with
  | none =>
      simp only [run, Job.pairs] at hends
      simp only [hends]
      exact ⟨rfl, rfl, rfl⟩
  | some failure =>
      simp only [run, Job.pairs] at hends
      simp only [hends]
      exact ⟨rfl, rfl, trivial⟩

theorem filterCorpus_uncleared {job : Job} {range : WordRange} {tree : FileTree}
    {failure : Failure} (hadmitted : admitted job tree = .ok range)
    (hclear : clearOutputs job.outputs tree = .error failure) :
    (filterCorpus job tree).result = .error failure := by
  rw [clearOutputs, bind_eq_error_iff] at hclear
  rw [filterCorpus]
  rcases hclear with hfirst | ⟨between, hfirst, hsecond⟩
  · simp only [hadmitted, hfirst]
  · simp only [hadmitted, hfirst, hsecond]

/-- Once the job is admitted and the outputs are cleared, a run filters the pairs it
finds. -/
theorem filterCorpus_of_cleared {job : Job} {range : WordRange} {tree cleared : FileTree}
    (hadmitted : admitted job tree = .ok range)
    (hclear : clearOutputs job.outputs tree = .ok cleared) :
    ∃ events, filterCorpus job tree = filterCleared job range events cleared := by
  obtain ⟨between, hfirst, hsecond⟩ := clearOutputs_ok hclear
  rw [filterCorpus]
  simp only [hadmitted, hfirst, hsecond]
  exact ⟨_, rfl⟩

/-- What filtering pairs comes to: the first failure, or the totals. -/
def PairsRun.verdict (run : PairsRun) : Except Failure Tally :=
  match run.failure? with
  | some failure => .error failure
  | none => .ok (totals run.reports)

theorem PairsRun.verdict_eq_error_iff {run : PairsRun} {failure : Failure} :
    run.verdict = .error failure ↔ run.failure? = some failure := by
  cases hends : run.failure? <;> simp [verdict, hends]

theorem PairsRun.verdict_eq_ok_iff {run : PairsRun} {total : Tally} :
    run.verdict = .ok total ↔ run.failure? = none ∧ totals run.reports = total := by
  cases hends : run.failure? <;> simp [verdict, hends]

/-- How far a run of a job comes in a tree, and what it gives: the job is refused, an
output cannot be removed, or pairs are filtered in what is left of the tree. -/
inductive Job.Course (job : Job) (tree : FileTree) (run : CorpusRun) : Prop
  | refused {failure} (refusal : admitted job tree = .error failure)
      (result : run.result = .error failure) (reports : run.reports = [])
      (left : run.tree = tree)
  /-- The target output is removed first. -/
  | targetStays {range failure} (admits : admitted job tree = .ok range)
      (removal : removeStale job.outputs.target tree = .error failure)
      (result : run.result = .error failure) (reports : run.reports = [])
      (left : run.tree = tree)
  | sourceStays {range between failure} (admits : admitted job tree = .ok range)
      (first : removeStale job.outputs.target tree = .ok between)
      (removal : removeStale job.outputs.source between = .error failure)
      (result : run.result = .error failure) (reports : run.reports = [])
      (left : run.tree = between)
  | filters {range between cleared} (admits : admitted job tree = .ok range)
      (first : removeStale job.outputs.target tree = .ok between)
      (second : removeStale job.outputs.source between = .ok cleared)
      (follows :
        let filtered := filterPairs ⟨range, job.strictAlignment⟩ job.outputs
          (job.pairs cleared) cleared
        run.reports = filtered.reports ∧ run.tree = filtered.tree ∧
          run.result = filtered.verdict)

theorem filterCorpus_course (job : Job) (tree : FileTree) :
    job.Course tree (filterCorpus job tree) := by
  cases hadmitted : admitted job tree with
  | error failure =>
      have hrun : filterCorpus job tree = ⟨[], [], .error failure, tree⟩ := by
        simp only [filterCorpus, hadmitted]
      rw [hrun]
      exact .refused hadmitted rfl rfl rfl
  | ok range =>
  cases hfirst : removeStale job.outputs.target tree with
  | error failure =>
      have hrun : filterCorpus job tree =
          ⟨staleEvents job.outputs.target tree, [], .error failure, tree⟩ := by
        simp only [filterCorpus, hadmitted, hfirst]
      rw [hrun]
      exact .targetStays hadmitted hfirst rfl rfl rfl
  | ok between =>
  cases hsecond : removeStale job.outputs.source between with
  | error failure =>
      have hrun : filterCorpus job tree = ⟨staleEvents job.outputs.target tree ++
          staleEvents job.outputs.source between, [], .error failure, between⟩ := by
        simp only [filterCorpus, hadmitted, hfirst, hsecond]
      rw [hrun]
      exact .sourceStays hadmitted hfirst hsecond rfl rfl rfl
  | ok cleared =>
      obtain ⟨events, hrun⟩ :=
        filterCorpus_of_cleared hadmitted (bind_eq_ok_iff.2 ⟨between, hfirst, hsecond⟩)
      rw [hrun]
      exact .filters hadmitted hfirst hsecond (filterCleared_eq job range events cleared)

end ParallelCorpus
