import ParallelCorpus.Proofs.Listing
import ParallelCorpus.Proofs.Unlinked

/-!
# Leftovers of earlier runs

An earlier run, whatever became of it, may have left files where the outputs of a job
lead.  A tree with such leftovers leads every path the way it would without them, and
they can be removed.  So two trees that differ in leftovers only lead every path alike,
and are one tree once these are gone.
-/

namespace ParallelCorpus

open FileTree (SameWays Within)

/-- Whether an entry is a file with a content of its own. -/
def Entry.isFile : Entry → Bool
  | file _ => true
  | _ => false

namespace FileTree

/-! ## Trees that agree beyond some places -/

/-- Two trees in which the same stands, in the same order, beyond some places. -/
structure SameBeyond (places : List Location) (tree other : FileTree) : Prop where
  base : other.base = tree.base
  entry : ∀ location, location ∉ places → other.get? location = tree.get? location
  order : ∀ directory,
    ((other.names directory).filter fun name => name :: directory ∉ places) =
      (tree.names directory).filter fun name => name :: directory ∉ places

namespace SameBeyond

variable {places : List Location} {first second third : FileTree}

theorem refl (places : List Location) (tree : FileTree) : SameBeyond places tree tree :=
  ⟨rfl, fun _ _ => rfl, fun _ => rfl⟩

theorem symm (hsame : SameBeyond places first second) : SameBeyond places second first :=
  ⟨hsame.base.symm, fun location hbeyond => (hsame.entry location hbeyond).symm,
    fun directory => (hsame.order directory).symm⟩

theorem trans (hfirst : SameBeyond places first second)
    (hsecond : SameBeyond places second third) :
    SameBeyond places first third :=
  ⟨hsecond.base.trans hfirst.base,
    fun location hbeyond => (hsecond.entry location hbeyond).trans
      (hfirst.entry location hbeyond),
      fun directory => (hsecond.order directory).trans (hfirst.order directory)⟩

/-- Where nothing stands, nothing is listed. -/
theorem filter_names {tree : FileTree}
    (hvacant : ∀ place ∈ places, tree.get? place = none) (directory : Location) :
    ((tree.names directory).filter fun name => name :: directory ∉ places) =
      tree.names directory := by
  apply List.filter_eq_self.2
  intro name hname
  rw [decide_eq_true_eq]
  intro hplace
  rw [mem_names_iff, hvacant _ hplace] at hname
  cases hname

/-- Trees that have nothing where they could differ do not differ. -/
theorem sameListing (hsame : SameBeyond places first second)
    (hfirst : ∀ place ∈ places, first.get? place = none)
    (hsecond : ∀ place ∈ places, second.get? place = none) :
    SameListing first second := by
  refine ⟨⟨hsame.base, fun location => ?_⟩, fun directory => ?_⟩
  · by_cases hplace : location ∈ places
    · rw [hfirst location hplace, hsecond location hplace]
    · exact hsame.entry location hplace
  · rw [← filter_names hfirst, ← filter_names hsecond, hsame.order]

end SameBeyond

section Changes

variable {places : List Location} {tree : FileTree}

theorem sameBeyond_erase (tree : FileTree) {gone : Location} (hplace : gone ∈ places) :
    SameBeyond places tree (tree.erase gone) := by
  refine ⟨rfl, fun location hbeyond => ?_, fun directory => ?_⟩
  · apply get?_erase_of_ne
    rintro rfl
    exact hbeyond hplace
  · rw [names_erase, List.filter_filter]
    apply List.filter_congr
    intro name _
    by_cases hgone : name :: directory = gone
    · simp [hgone, hplace]
    · simp [hgone]

theorem sameBeyond_create {location : Location} (hvacant : tree.get? location = none)
    (hplace : location ∈ places) (entry : Entry) :
    SameBeyond places tree (tree.create location entry) := by
  refine ⟨base_create .., fun other hbeyond => ?_, fun directory => ?_⟩
  · apply get?_create_of_ne
    rintro rfl
    exact hbeyond hplace
  · have hhidden : ((nameIn directory location).toList.filter
        fun name => name :: directory ∉ places) = [] := by
      rw [List.filter_eq_nil_iff]
      intro name hname
      rw [Option.mem_toList, nameIn_eq_some_iff] at hname
      simpa [← hname] using hplace
    rw [names_create hvacant, List.filter_append, hhidden, List.nil_append]

theorem sameBeyond_openOutput {path : Path} {handle : Handle} {opened : FileTree}
    (hopen : tree.openOutput path = .ok (handle, opened))
    (hplace : handle.location ∈ places) :
    SameBeyond places tree opened := by
  rw [eq_of_openOutput hopen]
  split
  · rename_i hvacant
    exact sameBeyond_create hvacant hplace _
  · exact .refl places tree

theorem sameBeyond_receive (tree : FileTree) {handle : Handle}
    (hplace : handle.location ∈ places) (output : Output) :
    SameBeyond places tree (tree.receive handle output) := by
  have hchange := leafChange_receive tree handle output
  refine ⟨hchange.ways.base, fun location hbeyond => ?_, fun directory => ?_⟩
  · apply hchange.elsewhere
    rintro rfl
    exact hbeyond hplace
  · rw [names_receive]

end Changes

/-- What a path itself names it still names when more stands in the tree, since the last
link is not followed. -/
theorem Reaches.remove_of_within {other tree : FileTree} (hwithin : Within other tree)
    {links : Nat} {slash : Bool} {here : Location} {steps : List String} {site : Site}
    (hreach : Reaches other .remove links slash here steps site) :
    Reaches tree .remove links slash here steps site := by
  induction hreach with
  | done => exact .done
  | stay _ ih => exact .stay ih
  | up _ ih => exact .up ih
  | last hname => exact .last hname rfl fun _ _ => rfl
  | enter hname hrest hdirectory _ ih =>
      exact .enter hname hrest (hwithin.entry _ _ hdirectory) ih
  | detour hname hlink htarget hlast _ ih =>
      exact .detour hname (hwithin.entry _ _ hlink) htarget hlast ih

theorem Within.locate_remove {other tree : FileTree}
    (hwithin : Within other tree) {path : Path} {site : Site}
    (hlocate : other.locate .remove path = .ok site) :
    tree.locate .remove path = .ok site := by
  rw [locate_eq_ok_iff] at hlocate ⊢
  obtain ⟨hwalk, hreach⟩ := hlocate
  have hstart : other.start path = tree.start path := by rw [start, start, hwithin.base]
  rw [hstart] at hreach
  exact ⟨hwalk, hreach.remove_of_within hwithin⟩

/-! ## Paths that lead to a file or to nothing -/

/-- A path that itself leads to a file or to nothing. -/
def Leftover (tree : FileTree) (path : Path) : Prop :=
  ∀ entry ∈ (tree.ownStatus path).toOption, entry.isFile = true

instance (tree : FileTree) (path : Path) : Decidable (tree.Leftover path) :=
  inferInstanceAs
    (Decidable (∀ entry ∈ (tree.ownStatus path).toOption, entry.isFile = true))

theorem leftover_iff {tree : FileTree} {path : Path} :
    tree.Leftover path ↔ ∀ entry, tree.ownStatus path = .ok entry →
    entry.isFile = true := by
  rw [Leftover]
  cases tree.ownStatus path <;> simp [Except.toOption]

/-- Where such a path leads, it leads for every purpose, and by name. -/
structure LeadsPlainly (tree : FileTree) (path : Path) (site : Site) : Prop where
  named : site.named = true
  slash : site.slash = false
  locate : ∀ purpose, tree.locate purpose path = .ok site
  stands : ∀ entry, tree.get? site.location = some entry → entry.isFile = true

section Leftover

variable {tree other : FileTree} {path : Path} {site : Site}

theorem Leftover.unlinked (hleft : tree.Leftover path) : tree.Unlinked path :=
  fun _ hown => Bool.false_ne_true (leftover_iff.1 hleft _ hown)

theorem Leftover.leadsPlainly (hleft : tree.Leftover path) (hends : path.EndsInName)
    {purpose : Purpose} (hsite : tree.locate purpose path = .ok site) :
    tree.LeadsPlainly path site := by
  obtain ⟨hnamed, hslash, hleads⟩ := hleft.unlinked.locate hends hsite
  refine ⟨hnamed, hslash, hleads, fun entry hentry => leftover_iff.1 hleft entry ?_⟩
  exact bind_eq_ok_iff.2 ⟨site, hleads .inspect,
    entryAt_eq_ok_iff.2 ⟨hentry, fun _ => hslash⟩⟩

theorem Leftover.of_within (hleft : tree.Leftover path) (hwithin : Within other tree) :
    other.Leftover path :=
  leftover_iff.2 fun entry hown => leftover_iff.1 hleft entry (hwithin.ownStatus_ok hown)

theorem LeadsPlainly.writesTo (hleads : tree.LeadsPlainly path site) :
    tree.WritesTo path site.location :=
  ⟨site, hleads.locate .write, rfl⟩

theorem LeadsPlainly.signpost (hleads : tree.LeadsPlainly path site) :
    FileTree.signpost (tree.get? site.location) = none := by
  rcases hentry : tree.get? site.location with _ | (_ | _ | _ | _)
  · rfl
  · rfl
  · cases hleads.stands _ hentry
  · cases hleads.stands _ hentry
  · cases hleads.stands _ hentry

end Leftover

end FileTree

open FileTree (Leftover LeadsPlainly SameBeyond)

/-! ## Removing leftovers -/

structure RemovedAt (gone : Location → Prop) (tree cleared : FileTree) : Prop where
  within : Within cleared tree
  ways : SameWays tree cleared
  vacant : ∀ location, gone location → cleared.get? location = none
  beyond : ∀ places, (∀ location, gone location → location ∈ places) →
    SameBeyond places tree cleared

theorem RemovedAt.trans {gone others : Location → Prop} {tree between cleared : FileTree}
    (hfirst : RemovedAt gone tree between) (hsecond : RemovedAt others between cleared) :
    RemovedAt (fun location => others location ∨ gone location) tree cleared where
  within := hsecond.within.trans hfirst.within
  ways := hfirst.ways.trans hsecond.ways
  vacant := by
    rintro location (hothers | hgone)
    · exact hsecond.vacant location hothers
    · rw [Option.eq_none_iff_forall_ne_some]
      intro entry hentry
      have hbetween := hsecond.within.entry location entry hentry
      rw [hfirst.vacant location hgone] at hbetween
      cases hbetween
  beyond := fun places hplaces =>
    (hfirst.beyond places fun location hgone => hplaces location (.inr hgone)).trans
      (hsecond.beyond places fun location hothers => hplaces location (.inl hothers))

theorem removeStale_leftover {tree : FileTree} {path : Path} (hleft : tree.Leftover path)
    (hends : path.EndsInName) :
    ∃ cleared, removeStale path tree = .ok cleared ∧
      RemovedAt (tree.WritesTo path) tree cleared := by
  cases hholds : tree.holds path with
  | false =>
      refine ⟨tree, removeStale_of_not_holds hholds, .refl tree, .refl tree, ?_,
        fun places _ => .refl places tree⟩
      rintro location ⟨site, hsite, rfl⟩
      rw [Option.eq_none_iff_forall_ne_some]
      intro entry hentry
      have hleads := hleft.leadsPlainly hends hsite
      rw [← Bool.not_eq_true, FileTree.holds_iff] at hholds
      exact hholds ⟨entry, FileTree.status_eq_ok_iff.2 ⟨site, hleads.locate .read,
        FileTree.entryAt_eq_ok_iff.2 ⟨hentry, fun _ => hleads.slash⟩⟩⟩
  | true =>
      obtain ⟨entry, hstatus⟩ := FileTree.holds_iff.1 hholds
      obtain ⟨site, hread, hstands⟩ := FileTree.status_eq_ok_iff.1 hstatus
      obtain ⟨hentry, -⟩ := FileTree.entryAt_eq_ok_iff.1 hstands
      have hleads := hleft.leadsPlainly hends hread
      have hpost := hleads.signpost
      have hremove : tree.remove path = .ok (tree.erase site.location) := by
        have hfile := hleads.stands entry hentry
        rw [FileTree.remove, hleads.locate .remove]
        cases entry with
        | file content =>
            simp [bind, Except.bind, hleads.named, hleads.slash, hentry,
              pure, Except.pure]
        | directory => cases hfile
        | link target => cases hfile
        | device kind => cases hfile
      refine ⟨tree.erase site.location, by rw [removeStale, if_pos hholds, hremove],
        FileTree.within_erase tree _, (FileTree.leafChange_erase hpost).ways, ?_, ?_⟩
      · intro location hlocation
        rw [hlocation.unique hleads.writesTo]
        exact FileTree.get?_erase_self tree (FileTree.ne_nil_of_signpost hpost)
      · intro places hplaces
        exact FileTree.sameBeyond_erase tree (hplaces _ hleads.writesTo)

def OutputPaths.places (outputs : OutputPaths) (tree : FileTree) : List Location :=
  [outputs.source, outputs.target].filterMap fun path =>
    (tree.locate .write path).toOption.map Site.location

theorem OutputPaths.mem_places_iff {outputs : OutputPaths} {tree : FileTree}
    {location : Location} :
    location ∈ outputs.places tree ↔ outputs.LeadTo tree location := by
  have hplace (path : Path) :
      (tree.locate .write path).toOption.map Site.location = some location ↔
      tree.WritesTo path location := by
    rw [FileTree.WritesTo]
    cases tree.locate .write path <;> simp [Except.toOption]
  simp only [places, List.mem_filterMap, List.mem_cons, List.not_mem_nil, or_false,
    exists_eq_or_imp, exists_eq_left, hplace, LeadTo]

section Outputs

variable {outputs : OutputPaths} {tree other : FileTree}
  (hends : ∀ output ∈ [outputs.source, outputs.target], output.EndsInName)
  (htree : ∀ output ∈ [outputs.source, outputs.target], tree.Leftover output)
include hends htree

theorem clearOutputs_leftovers :
    ∃ cleared, clearOutputs outputs tree = .ok cleared ∧
      RemovedAt (outputs.LeadTo tree) tree cleared := by
  obtain ⟨between, hfirst, hbetween⟩ :=
    removeStale_leftover (htree outputs.target (by simp)) (hends outputs.target (by simp))
  obtain ⟨cleared, hsecond, hcleared⟩ :=
    removeStale_leftover ((htree outputs.source (by simp)).of_within hbetween.within)
      (hends outputs.source (by simp))
  refine ⟨cleared, bind_eq_ok_iff.2 ⟨between, hfirst, hsecond⟩, ?_⟩
  have hboth := hbetween.trans hcleared
  simp only [hbetween.ways.writesTo_iff] at hboth
  exact hboth

/-- Trees that differ in leftovers only lead every path alike. -/
theorem sameWays_of_leftovers
    (hother : ∀ output ∈ [outputs.source, outputs.target], other.Leftover output)
    (hsame : SameBeyond (outputs.places tree) tree other) : SameWays tree other := by
  obtain ⟨cleared, -, hcleared⟩ := clearOutputs_leftovers hends htree
  have hbeyond : SameBeyond (outputs.places tree) tree cleared :=
    hcleared.beyond _ fun _ hplace => OutputPaths.mem_places_iff.2 hplace
  -- What stands in the cleared tree stands in the other one as well.
  have hwithin : Within cleared other := by
    refine ⟨hbeyond.base.trans hsame.base.symm, fun location entry hentry => ?_⟩
    by_cases hplace : location ∈ outputs.places tree
    · rw [hcleared.vacant location (OutputPaths.mem_places_iff.1 hplace)] at hentry
      cases hentry
    · rw [hsame.entry location hplace, ← hbeyond.entry location hplace, hentry]
  refine ⟨hsame.base, fun location => ?_⟩
  by_cases hplace : location ∈ outputs.places tree
  · have hleads : ∃ output ∈ [outputs.source, outputs.target],
        tree.WritesTo output location := by
      simpa [OutputPaths.LeadTo] using OutputPaths.mem_places_iff.1 hplace
    obtain ⟨output, houtput, site, hsite, rfl⟩ := hleads
    have hplain := (htree output houtput).leadsPlainly (hends output houtput) hsite
    have hremove : other.locate .remove output = .ok site :=
      hwithin.locate_remove (hcleared.ways.locate_ok_iff.2 (hplain.locate .remove))
    have hplain' := (hother output houtput).leadsPlainly (hends output houtput) hremove
    rw [hplain.signpost, hplain'.signpost]
  · rw [hsame.entry location hplace]

end Outputs

end ParallelCorpus
