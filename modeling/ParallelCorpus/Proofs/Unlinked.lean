import ParallelCorpus.Proofs.InputDirectories

/-!
# Paths that are no links

A path that ends with a name and is no link itself leads to one place whatever it is
wanted for, though there may be links on the way.  The outputs of a job end with names,
and part in their last step, so they are different files unless a link makes them one.
-/

namespace ParallelCorpus

/-- A path that ends with a name, not with dots or a slash. -/
def Path.EndsInName (path : Path) : Prop :=
  ∃ folder name, InFolder folder name path ∧ String.ofList name ≠ "." ∧
    String.ofList name ≠ ".."

namespace FileTree

/-- What a path itself names still is what it names when more stands in the tree. -/
theorem Within.ownStatus_ok {other tree : FileTree}
    (hwithin : Within other tree) {path : Path} {entry : Entry}
    (hown : other.ownStatus path = .ok entry) :
    tree.ownStatus path = .ok entry := by
  obtain ⟨site, hsite, hstands⟩ := bind_eq_ok_iff.1 hown
  rw [entryAt_eq_ok_iff] at hstands
  exact bind_eq_ok_iff.2 ⟨site, hwithin.locate_ok hsite hstands.1,
    entryAt_eq_ok_iff.2 ⟨hwithin.entry _ _ hstands.1, hstands.2⟩⟩

def Unlinked (tree : FileTree) (path : Path) : Prop :=
  ∀ target, tree.ownStatus path ≠ .ok (.link target)

section Unlinked

variable {tree other : FileTree} {path : Path}

theorem Unlinked.of_within (hunlinked : tree.Unlinked path)
    (hwithin : Within other tree) :
    other.Unlinked path :=
  fun target hown => hunlinked target (hwithin.ownStatus_ok hown)

/-- A path in a folder that is no link leads to the place of its name, whatever it is
wanted for. -/
theorem Unlinked.exists_place (hunlinked : tree.Unlinked path) {folder name : List Char}
    (hpath : InFolder folder name path)
    (hdots : String.ofList name ≠ "." ∧ String.ofList name ≠ "..") {links : Nat}
    {directory : Location} (hparts : tree.PartsIn folder links directory)
    {purpose : Purpose} {site : Site} (hsite : tree.locate purpose path = .ok site) :
    ∃ entryName, entryName.text = String.ofList name ∧
      site = ⟨entryName :: directory, true, false⟩ ∧
      ∀ another, tree.locate another path = .ok site := by
  obtain ⟨entryName, htext, hleads, hplace⟩ := hpath.exists_place hdots hparts hsite
  have hplain (target : String) :
      tree.get? (entryName :: directory) ≠ some (.link target) := by
    intro hlink
    have hinspect := hleads .inspect fun hfollow => by cases hfollow
    exact hunlinked target
      (bind_eq_ok_iff.2 ⟨_, hinspect, entryAt_eq_ok_iff.2 ⟨hlink, fun _ => rfl⟩⟩)
  rcases hplace with rfl | ⟨target, hlink⟩
  · exact ⟨entryName, htext, rfl, fun another => hleads another fun _ => hplain⟩
  · exact absurd hlink (hplain target)

/-- Such a path leads to one place for every purpose, and by name. -/
theorem Unlinked.locate (hunlinked : tree.Unlinked path) (hends : path.EndsInName)
    {purpose : Purpose} {site : Site} (hsite : tree.locate purpose path = .ok site) :
    site.named = true ∧ site.slash = false ∧ ∀ another,
      tree.locate another path = .ok site := by
  obtain ⟨folder, name, hpath, hdots⟩ := hends
  obtain ⟨links, directory, hparts⟩ := exists_partsIn hpath hsite
  obtain ⟨entryName, -, rfl, hleads⟩ := hunlinked.exists_place hpath hdots hparts hsite
  exact ⟨rfl, rfl, hleads⟩

/-- Where such a path leads to nothing, nothing stands. -/
theorem Unlinked.vacant (hunlinked : tree.Unlinked path) (hends : path.EndsInName)
    (hholds : tree.holds path = false) : tree.Vacant path := by
  intro site hsite
  obtain ⟨hnamed, -, -⟩ := hunlinked.locate hends hsite
  rcases get?_of_not_holds hsite hholds with hvacant | ⟨hunnamed, -⟩
  · exact ⟨hnamed, hvacant⟩
  · rw [hnamed] at hunnamed
    cases hunnamed

end Unlinked

end FileTree

/-! ## The outputs of a job -/

section Outputs

variable {job : Job} (hcheck : job.check = .ok ())
include hcheck

/-- The outputs of a job that makes sense stand in one folder. -/
theorem exists_inFolder_outputs :
    ∃ folder base, InFolder folder (base ++ outputTail job.sourceLang)
      job.outputs.source ∧
      InFolder folder (base ++ outputTail job.targetLang) job.outputs.target := by
  obtain ⟨hsourceName, htargetName, -⟩ := check_ok hcheck
  obtain ⟨-, -, -, hsourcePlain, -⟩ := isPlainName_iff.1 hsourceName
  obtain ⟨-, -, -, htargetPlain, -⟩ := isPlainName_iff.1 htargetName
  obtain ⟨folder, base, hfolder⟩ := job.exists_inFolder_output
  exact ⟨folder, base, hfolder job.sourceLang hsourcePlain,
    hfolder job.targetLang htargetPlain⟩

theorem endsInName_outputs :
    ∀ output ∈ [job.outputs.source, job.outputs.target], output.EndsInName := by
  obtain ⟨folder, base, hsource, htarget⟩ := exists_inFolder_outputs hcheck
  intro output houtput
  simp only [List.mem_cons, List.not_mem_nil, or_false] at houtput
  rcases houtput with rfl | rfl
  · exact ⟨folder, _, hsource, append_outputTail_ne_dots base _⟩
  · exact ⟨folder, _, htarget, append_outputTail_ne_dots base _⟩

/-- The outputs of a job that makes sense lead to different places, unless one of them
is a link. -/
theorem outputs_apart {tree : FileTree} (hsource : tree.Unlinked job.outputs.source)
    (htarget : tree.Unlinked job.outputs.target) {purpose purpose' : Purpose}
    {sourceSite targetSite : Site}
    (hsourceSite : tree.locate purpose job.outputs.source = .ok sourceSite)
    (htargetSite : tree.locate purpose' job.outputs.target = .ok targetSite) :
    sourceSite.location ≠ targetSite.location := by
  obtain ⟨-, -, hdiffer, -⟩ := check_ok hcheck
  obtain ⟨folder, base, hsourceFolder, htargetFolder⟩ := exists_inFolder_outputs hcheck
  obtain ⟨links, directory, hparts⟩ := FileTree.exists_partsIn hsourceFolder hsourceSite
  obtain ⟨sourceEntry, hsourceText, rfl, -⟩ := hsource.exists_place hsourceFolder
    (append_outputTail_ne_dots base _) hparts hsourceSite
  obtain ⟨targetEntry, htargetText, rfl, -⟩ := htarget.exists_place htargetFolder
    (append_outputTail_ne_dots base _) hparts htargetSite
  intro hsame
  obtain ⟨rfl, -⟩ := List.cons.inj hsame
  have htails := String.ofList_injective (hsourceText.symm.trans htargetText)
  rw [List.append_cancel_left_eq, outputTail, outputTail, List.append_cancel_left_eq]
    at htails
  exact hdiffer (String.toList_injective htails)

end Outputs

end ParallelCorpus
