import ParallelCorpus.Proofs.LineAlignment
import ParallelCorpus.Proofs.Splitting

/-!
# Filtering once more

What was filtered into empty outputs is read back as the very line pairs that were
accepted.  An unterminated line can only be the last of its document, and behind the end
of the target nothing is accepted; so in the outputs an unterminated line is the last
one as well.  Filtering the outputs with the same word range therefore accepts every
line pair and gives them again, also under strict alignment.
-/

namespace ParallelCorpus

open Text (Bytes IsLine Terminated)

/-! ## Terminators of accepted lines -/

/-- A line pair with another behind it has a terminated source line, and a terminated
target line unless the target has ended by then. -/
theorem pairwise_linePairs {source target : List Bytes}
    (hsource : source.Pairwise fun line _ => Terminated line)
    (htarget : target.Pairwise fun line _ => Terminated line) :
    (linePairs source target).Pairwise fun pair other =>
      Terminated pair.1 ∧ (other.2 ≠ [] → Terminated pair.2) := by
  induction source generalizing target with
  | nil => exact List.Pairwise.nil
  | cons line source ih =>
      obtain ⟨hline, hsource⟩ := List.pairwise_cons.1 hsource
      rw [linePairs, List.pairwise_cons]
      constructor
      · intro other hother
        obtain ⟨hfirst, hsecond⟩ := mem_linePairs hother
        refine ⟨hline other.1 hfirst, fun hne => ?_⟩
        have hbehind : other.2 ∈ target.tail := hsecond.resolve_right hne
        cases target with
        | nil => cases hbehind
        | cons targetLine target => exact (List.pairwise_cons.1 htarget).1 other.2 hbehind
      · apply ih hsource
        cases target with
        | nil => exact List.Pairwise.nil
        | cons targetLine target => exact (List.pairwise_cons.1 htarget).2

/-- Line pairs are those of their own sides. -/
theorem linePairs_map (pairs : List (Bytes × Bytes)) :
    linePairs (pairs.map Prod.fst) (pairs.map Prod.snd) = pairs := by
  induction pairs with
  | nil => rfl
  | cons pair pairs ih =>
      simp only [List.map_cons, linePairs, List.headD_cons, List.tail_cons, ih]

/-- One side of line pairs is read back from the text that it makes, unless an
unterminated line has another behind it. -/
theorem lines_flatten_side {pairs : List (Bytes × Bytes)} (side : Bytes × Bytes → Bytes)
    (hlines : ∀ pair ∈ pairs, IsLine (side pair))
    (hends : pairs.Pairwise fun pair _ => Terminated (side pair)) :
    Text.lines (pairs.map side).flatten = pairs.map side := by
  apply Text.lines_flatten_of_terminated
  · intro line hline
    obtain ⟨pair, hpair, rfl⟩ := List.mem_map.1 hline
    exact hlines pair hpair
  · have hpieces : (pairs.map side).Pairwise fun line _ => Terminated line :=
      List.pairwise_map.2 hends
    exact Text.pairwise_iff_dropLast.1 hpieces

section Kept

variable (range : WordRange) (source target : Bytes)

def keptPairs : List (Bytes × Bytes) :=
  (linePairs (Text.lines source) (Text.lines target)).filter range.keeps

theorem isLine_of_mem_keptPairs {pair : Bytes × Bytes}
    (hpair : pair ∈ keptPairs range source target) : IsLine pair.1 ∧ IsLine pair.2 :=
  isLine_of_mem_kept (fun _ => Text.isLine_of_mem_lines)
    (fun _ => Text.isLine_of_mem_lines) hpair

/-- An accepted line pair with another behind it is terminated on both sides. -/
theorem pairwise_keptPairs : (keptPairs range source target).Pairwise fun pair _ =>
    Terminated pair.1 ∧ Terminated pair.2 := by
  have hpairs := (pairwise_linePairs (Text.pairwise_lines source)
    (Text.pairwise_lines target)).filter range.keeps
  apply hpairs.imp_of_mem
  intro pair other _ hother hpair
  exact ⟨hpair.1, hpair.2 (isLine_of_mem_keptPairs range source target hother).2.1⟩

/-- Each side of the accepted line pairs is read back from the text that it makes. -/
theorem lines_keptPairs :
    let kept := keptPairs range source target
    Text.lines (kept.map Prod.fst).flatten = kept.map Prod.fst ∧
      Text.lines (kept.map Prod.snd).flatten = kept.map Prod.snd := by
  intro kept
  have hends := pairwise_keptPairs range source target
  have hlines {pair : Bytes × Bytes} (hpair : pair ∈ kept) :
      IsLine pair.1 ∧ IsLine pair.2 :=
    isLine_of_mem_keptPairs range source target hpair
  exact ⟨lines_flatten_side Prod.fst (fun _ hpair => (hlines hpair).1)
    (hends.imp And.left), lines_flatten_side Prod.snd (fun _ hpair => (hlines hpair).2)
    (hends.imp And.right)⟩

/-- Accepted line pairs are all accepted, and tallied as such. -/
theorem ofDocument_keptPairs :
    let kept := keptPairs range source target
    let tally := Tally.ofDocument range kept
    kept.filter range.keeps = kept ∧ tally.approved = kept.length ∧
    tally.lines = kept.length ∧
      tally.discarded = 0 := by
  intro kept tally
  have hkept : kept.filter range.keeps = kept :=
    List.filter_eq_self.2 fun _ hpair => (List.mem_filter.1 hpair).2
  refine ⟨hkept, congrArg List.length hkept, rfl, ?_⟩
  calc
    tally.discarded = kept.length - (kept.filter range.keeps).length :=
      Tally.discarded_ofPairs range kept
    _ = 0 := by rw [hkept, Nat.sub_self]

end Kept

/-! ## Filtering the outputs -/

section Outputs

variable {rules : Rules} {tree : FileTree} {pair : DocumentPair} {outputs : OutputPaths}
  {source target : Bytes} {sourcePlace targetPlace : Location} {tally : Tally}

/-- What a run into empty outputs leaves when it succeeds. -/
theorem PairFiles.result_ok
    (hfiles : PairFiles tree pair outputs source target [] [] sourcePlace targetPlace)
    (hresult : (filterPair rules pair outputs tree).result = .ok tally) :
    let run := filterPair rules pair outputs tree
    let kept := keptPairs rules.range source target
    tally.approved = kept.length ∧
      run.tree.get? sourcePlace = some (.file (kept.map Prod.fst).flatten) ∧
      run.tree.get? targetPlace = some (.file (kept.map Prod.snd).flatten) := by
  intro run kept
  obtain ⟨htally, hsourceAdded, htargetAdded⟩ := hfiles.undisturbed.result_ok hresult
  obtain ⟨hsource, htarget⟩ :=
    (filterPair_adds hresult).files sourcePlace targetPlace [] [] hfiles.sourceLeads
      hfiles.targetLeads hfiles.places_ne hfiles.sourceKeeps hfiles.targetKeeps
  rw [hsourceAdded] at hsource
  rw [htargetAdded] at htarget
  exact ⟨by rw [htally]; rfl, hsource, htarget⟩

/-- After a run, its outputs can be filtered into two others that were empty before it. -/
theorem PairFiles.outputs_again {sourceKept targetKept source' target' : Bytes}
    {others : OutputPaths} {sourcePlace' targetPlace' : Location}
    (hformed : tree.WellFormed)
    (hfiles : PairFiles tree pair outputs source target sourceKept targetKept
      sourcePlace targetPlace)
    (hsourceLeads : tree.WritesTo others.source sourcePlace')
    (htargetLeads : tree.WritesTo others.target targetPlace')
    (hsourceKeeps : tree.Keeps sourcePlace' [])
    (htargetKeeps : tree.Keeps targetPlace' [])
    (hapart : [outputs.source, outputs.target, others.source, others.target].Pairwise
      fun path other => ¬tree.SameFile path other)
    (hsource : (filterPair rules pair outputs tree).tree.get? sourcePlace =
      some (.file source'))
    (htarget : (filterPair rules pair outputs tree).tree.get? targetPlace =
      some (.file target')) :
    PairFiles
      (filterPair rules pair outputs tree).tree ⟨outputs.source, outputs.target⟩ others
      source' target' [] [] sourcePlace' targetPlace' := by
  have hchange := filterPair_leafChange rules pair outputs tree
  have hways := hchange.ways
  have hopen {path : Path} {place : Location} {kept content : Bytes}
      (hleads : tree.WritesTo path place) (hkeeps : tree.Keeps place kept)
      (hfile : (filterPair rules pair outputs tree).tree.get? place =
        some (.file content)) :
      (filterPair rules pair outputs tree).tree.openInput path = .ok (.text content) := by
    obtain ⟨site, hsite, rfl⟩ := hleads
    have hplain : tree.get? site.location ≠ some .directory := by
      rcases hkeeps with hkeeps | ⟨hkeeps, -⟩ <;> simp [hkeeps]
    exact FileTree.openInput_of_locate
      (hways.locate_ok_iff.2 (FileTree.locate_read_of_write hsite))
      (hformed.slash_of_write hsite hplain) hfile
  have hothers := hapart
  simp only [List.pairwise_cons, List.mem_cons, List.not_mem_nil, or_false,
    forall_eq_or_imp, forall_eq] at hothers
  obtain ⟨⟨-, hsourceSource, hsourceTarget⟩, ⟨htargetSource, htargetTarget⟩, -⟩ := hothers
  have hkeeps {path : Path} {place : Location} (hleads : tree.WritesTo path place)
      (hkeeps : tree.Keeps place []) (hfirst : ¬tree.SameFile outputs.source path)
      (hsecond : ¬tree.SameFile outputs.target path) :
      (filterPair rules pair outputs tree).tree.Keeps place [] := by
    have helsewhere : ¬outputs.LeadTo tree place := by
      rintro (hplace | hplace)
      · exact hfirst (FileTree.sameFile_of_writesTo hplace hleads)
      · exact hsecond (FileTree.sameFile_of_writesTo hplace hleads)
    rw [FileTree.Keeps, hchange.elsewhere place helsewhere]
    exact hkeeps
  exact {
    source := hopen hfiles.sourceLeads hfiles.sourceKeeps hsource
    target := hopen hfiles.targetLeads hfiles.targetKeeps htarget
    sourceLeads := hways.writesTo_iff.2 hsourceLeads
    targetLeads := hways.writesTo_iff.2 htargetLeads
    sourceKeeps := hkeeps hsourceLeads hsourceKeeps hsourceSource htargetSource
    targetKeeps := hkeeps htargetLeads htargetKeeps hsourceTarget htargetTarget
    apart := hapart.imp fun hother hsame => hother (hways.sameFile_iff.1 hsame) }

/-- What a successful run has put into empty outputs is accepted as a whole, line pair
by line pair, whenever it is filtered with the same word range into empty outputs,
strictly or not, and comes out unchanged.  In a tree as it comes, the outputs of the run
can be filtered like that right away. -/
theorem filterPair_refilter
    (hfiles : PairFiles tree pair outputs source target [] [] sourcePlace targetPlace)
    (hresult : (filterPair rules pair outputs tree).result = .ok tally) :
    let first := filterPair rules pair outputs tree
    ∃ source' target', first.tree.get? sourcePlace = some (.file source') ∧
      first.tree.get? targetPlace = some (.file target') ∧
      (∀ strict tree' pair' outputs' sourcePlace' targetPlace',
        PairFiles tree' pair' outputs' source' target' [] [] sourcePlace' targetPlace' →
          let second := filterPair ⟨rules.range, strict⟩ pair' outputs' tree'
          ∃ tally', second.result = .ok tally' ∧ tally'.approved = tally.approved ∧
            tally'.lines = tally.approved ∧ tally'.discarded = 0 ∧
            second.tree.get? sourcePlace' = some (.file source') ∧
            second.tree.get? targetPlace' = some (.file target')) ∧
      (tree.WellFormed → ∀ others sourcePlace' targetPlace',
        tree.WritesTo others.source sourcePlace' →
        tree.WritesTo others.target targetPlace' →
        tree.Keeps sourcePlace' [] → tree.Keeps targetPlace' [] →
        ([outputs.source, outputs.target, others.source, others.target].Pairwise
          fun path other => ¬tree.SameFile path other) →
          PairFiles first.tree ⟨outputs.source, outputs.target⟩ others
            source' target' [] [] sourcePlace' targetPlace') := by
  intro first
  obtain ⟨happroved, hsource, htarget⟩ := hfiles.result_ok hresult
  refine ⟨_, _, hsource, htarget, ?_, ?_⟩
  · intro strict tree' pair' outputs' sourcePlace' targetPlace' hfiles' second
    obtain ⟨hsourceLines, htargetLines⟩ := lines_keptPairs rules.range source target
    obtain ⟨hall, htallied, hlines, hdiscarded⟩ :=
      ofDocument_keptPairs rules.range source target
    -- What is read are the accepted line pairs, so the two sides have as many lines.
    have haligned : (Rules.mk rules.range strict).Aligns
        (Text.lines ((keptPairs rules.range source target).map Prod.fst).flatten)
        (Text.lines ((keptPairs rules.range source target).map Prod.snd).flatten) := by
      intro _
      rw [hsourceLines, htargetLines, List.length_map, List.length_map]
    obtain ⟨hresult', hsource', htarget'⟩ := filterPair_of_aligned haligned hfiles'
    rw [hsourceLines, htargetLines, linePairs_map] at hresult' hsource' htarget'
    simp only [hall, List.nil_append] at hsource' htarget'
    exact ⟨_, hresult', htallied.trans happroved.symm,
      hlines.trans happroved.symm, hdiscarded, hsource', htarget'⟩
  · intro hformed others sourcePlace' targetPlace' hsourceLeads htargetLeads hsourceKeeps
      htargetKeeps hapart
    exact hfiles.outputs_again hformed hsourceLeads htargetLeads hsourceKeeps
      htargetKeeps hapart hsource htarget

end Outputs

/-- Two documents without a last terminator or with a line too many. -/
def unevenDocuments : FileTree where
  entries :=
    [ ([⟨"m", by decide⟩], .file (Text.utf8 "x y\n\nz")),
      ([⟨"n", by decide⟩], .file (Text.utf8 "u\nw\nv\nk")) ]
  base := []
  distinct := by decide

theorem unevenDocuments_files :
    PairFiles unevenDocuments ⟨⟨"m"⟩, ⟨"n"⟩⟩ ⟨⟨"p"⟩, ⟨"q"⟩⟩ (Text.utf8 "x y\n\nz")
      (Text.utf8 "u\nw\nv\nk") [] [] [⟨"p", by decide⟩] [⟨"q", by decide⟩] where
  source := by decide +kernel
  target := by decide +kernel
  sourceLeads := ⟨⟨[⟨"p", by decide⟩], true, false⟩, by decide +kernel, rfl⟩
  targetLeads := ⟨⟨[⟨"q", by decide⟩], true, false⟩, by decide +kernel, rfl⟩
  sourceKeeps := .inr ⟨by decide +kernel, rfl⟩
  targetKeeps := .inr ⟨by decide +kernel, rfl⟩
  apart := by decide +kernel

theorem filterPair_refilter_unevenDocuments :
    let first := filterPair ⟨.standard, false⟩ ⟨⟨"m"⟩, ⟨"n"⟩⟩ ⟨⟨"p"⟩, ⟨"q"⟩⟩
      unevenDocuments
    let second := filterPair ⟨.standard, true⟩ ⟨⟨"p"⟩, ⟨"q"⟩⟩ ⟨⟨"p2"⟩, ⟨"q2"⟩⟩ first.tree
    first.result = .ok ⟨2, 1, 3, 1, ⟨3, 2, some 1⟩, ⟨3, 1, some 1⟩⟩ ∧
      (∃ tally, second.result = .ok tally ∧ tally.approved = 2 ∧ tally.lines = 2 ∧
        tally.discarded = 0) ∧
      second.tree.get? [⟨"p2", by decide⟩] = some (.file (Text.utf8 "x y\nz")) ∧
      second.tree.get? [⟨"q2", by decide⟩] = some (.file (Text.utf8 "u\nv\n")) := by
  intro first second
  have hleads {path : Path} {name : Name}
      (hsite : unevenDocuments.locate .write path = .ok ⟨[name], true, false⟩) :
      unevenDocuments.WritesTo path [name] := ⟨_, hsite, rfl⟩
  have hempty {name : Name} (hvacant : unevenDocuments.get? [name] = none) :
      unevenDocuments.Keeps [name] [] := .inr ⟨hvacant, rfl⟩
  have hresult : first.result = .ok ⟨2, 1, 3, 1, ⟨3, 2, some 1⟩, ⟨3, 1, some 1⟩⟩ := by
    decide +kernel
  obtain ⟨source', target', hsource, htarget, hagain, hready⟩ :=
    filterPair_refilter unevenDocuments_files hresult
  have hsource' : first.tree.get? [⟨"p", by decide⟩] =
      some (.file (Text.utf8 "x y\nz")) := by
    decide +kernel
  have htarget' : first.tree.get? [⟨"q", by decide⟩] =
      some (.file (Text.utf8 "u\nv\n")) := by
    decide +kernel
  cases hsource.symm.trans hsource'
  cases htarget.symm.trans htarget'
  have hformed : unevenDocuments.WellFormed := ⟨by decide +kernel, by decide +kernel⟩
  obtain ⟨tally, hsecond, happroved, hlines, hdiscarded, hsourceSame, htargetSame⟩ :=
    hagain true first.tree ⟨⟨"p"⟩, ⟨"q"⟩⟩ ⟨⟨"p2"⟩, ⟨"q2"⟩⟩ [⟨"p2", by decide⟩]
      [⟨"q2", by decide⟩]
      (hready hformed ⟨⟨"p2"⟩, ⟨"q2"⟩⟩ [⟨"p2", by decide⟩] [⟨"q2", by decide⟩]
        (hleads (by decide +kernel)) (hleads (by decide +kernel))
        (hempty (by decide +kernel)) (hempty (by decide +kernel)) (by decide +kernel))
  exact ⟨hresult, ⟨tally, hsecond, happroved, hlines, hdiscarded⟩,
    hsourceSame, htargetSame⟩

end ParallelCorpus
