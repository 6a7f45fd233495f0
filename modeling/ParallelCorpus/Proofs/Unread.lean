import ParallelCorpus.Filter.Corpus
import ParallelCorpus.Proofs.PairFilter

/-!
# What filtering does not read

Two trees are alike on some places when they differ in the contents of files elsewhere
and in nothing else.  Every path leads the same way in both.  So filtering document
pairs comes to the same in both, as long as they are alike where the documents and the
outputs lead: the content of any other file is not read.
-/

namespace ParallelCorpus

open Text (Bytes)
open FileTree (SameWays LeafChange)

/-- Two trees that differ, apart from the places that are read, in the contents of files
only. -/
structure Alike (read : Location → Prop) (tree other : FileTree) : Prop where
  base : other.base = tree.base
  read : ∀ location, read location → other.get? location = tree.get? location
  rest : ∀ location, other.get? location = tree.get? location ∨
    ∃ content content', tree.get? location = some (.file content) ∧
      other.get? location = some (.file content')

namespace Alike

variable {read : Location → Prop} {tree other : FileTree}

theorem ways (halike : Alike read tree other) : SameWays tree other := by
  refine ⟨halike.base, fun location => ?_⟩
  rcases halike.rest location with hsame | ⟨content, content', hfile, hfile'⟩
  · rw [hsame]
  · rw [hfile, hfile']
    rfl

/-- A path leads to the same site in both trees, or fails in both for one reason. -/
theorem locate_eq (halike : Alike read tree other) (purpose : Purpose) (path : Path) :
    other.locate purpose path = tree.locate purpose path := by
  rcases halike.ways.locate_eq_or_barred purpose path with hsame | ⟨location, hbarred⟩
  · exact hsame
  · rw [hbarred other halike.ways, hbarred tree (.refl tree)]
    rcases halike.rest location with hsame | ⟨content, content', hfile, hfile'⟩
    · rw [hsame]
    · rw [hfile, hfile']
      rfl

theorem openInput_eq (halike : Alike read tree other) {path : Path}
    (hread : ∀ site, tree.locate .read path = .ok site → read site.location) :
    other.openInput path = tree.openInput path := by
  apply FileTree.openInput_congr (halike.locate_eq .read path)
  intro site hsite
  exact halike.read site.location (hread site hsite)

theorem of_changes {tree' other' : FileTree} {location : Location}
    (halike : Alike read tree other) (hchange : LeafChange (· = location) tree tree')
    (hchange' : LeafChange (· = location) other other')
    (hsame : other'.get? location = tree'.get? location) : Alike read tree' other' := by
  have helsewhere (place : Location) (hplace : place ≠ location) :
      tree'.get? place = tree.get? place ∧ other'.get? place = other.get? place :=
    ⟨hchange.elsewhere place hplace, hchange'.elsewhere place hplace⟩
  refine ⟨?_, fun place hplaceRead => ?_, fun place => ?_⟩
  · rw [hchange'.ways.base, hchange.ways.base, halike.base]
  · by_cases hplace : place = location
    · rw [hplace, hsame]
    · rw [(helsewhere place hplace).1, (helsewhere place hplace).2,
        halike.read place hplaceRead]
  · by_cases hplace : place = location
    · left
      rw [hplace, hsame]
    · rw [(helsewhere place hplace).1, (helsewhere place hplace).2]
      exact halike.rest place

theorem openOutput (halike : Alike read tree other) {path : Path}
    (hread : ∀ location, tree.WritesTo path location → read location) :
    (∃ fault, tree.openOutput path = .error fault ∧
      other.openOutput path = .error fault) ∨
      ∃ handle opened opened', tree.openOutput path = .ok (handle, opened) ∧
        other.openOutput path = .ok (handle, opened') ∧ Alike read opened opened' := by
  cases hsite : tree.locate .write path with
  | error fault =>
      left
      have hsite' := (halike.locate_eq .write path).trans hsite
      exact ⟨fault, by simp only [FileTree.openOutput, hsite]; rfl,
        by simp only [FileTree.openOutput, hsite']; rfl⟩
  | ok site =>
      have hsite' := (halike.locate_eq .write path).trans hsite
      have hplace : read site.location := hread site.location ⟨site, hsite, rfl⟩
      have hentry := halike.read site.location hplace
      simp only [FileTree.openOutput, hsite, hsite', bind, Except.bind, hentry]
      rcases hstands : tree.get? site.location with _ | (content | _ | _ | kind)
      · right
        rw [hstands] at hentry
        have hbelow : site.location ≠ [] :=
          FileTree.ne_nil_of_signpost (by rw [hstands]; rfl)
        refine ⟨_, _, _, rfl, rfl,
          halike.of_changes (FileTree.leafChange_create hstands [])
          (FileTree.leafChange_create hentry []) ?_⟩
        rw [FileTree.get?_create_self tree _ hbelow,
          FileTree.get?_create_self other _ hbelow]
      · right
        exact ⟨_, _, _, rfl, rfl, halike⟩
      · left
        exact ⟨_, rfl, rfl⟩
      · left
        exact ⟨_, rfl, rfl⟩
      · right
        exact ⟨_, _, _, rfl, rfl, halike⟩

theorem append (halike : Alike read tree other) {location : Location}
    (hread : read location) (bytes : Bytes) :
    Alike read (tree.append location bytes) (other.append location bytes) := by
  apply halike.of_changes (FileTree.leafChange_append tree location bytes)
    (FileTree.leafChange_append other location bytes)
  have hentry := halike.read location hread
  simp only [FileTree.append, FileTree.content?, hentry]
  rcases hstands : tree.get? location with _ | (content | _ | _ | kind)
  · exact hentry
  · have hbelow : location ≠ [] := FileTree.ne_nil_of_signpost (by rw [hstands]; rfl)
    simp only
    rw [FileTree.get?_put_self tree _ hbelow, FileTree.get?_put_self other _ hbelow]
  · exact hentry
  · exact hentry
  · exact hentry

theorem receive (halike : Alike read tree other) {handle : FileTree.Handle}
    (hread : read handle.location) (output : Output) :
    Alike read (tree.receive handle output) (other.receive handle output) := by
  rw [FileTree.receive, FileTree.receive]
  split
  · exact halike.append hread output.handed
  · exact halike

end Alike

def DocumentPair.LeadsTo (pair : DocumentPair) (tree : FileTree)
    (location : Location) : Prop :=
  ∃ document ∈ [pair.source, pair.target], ∃ site, tree.locate .read document = .ok site ∧
    site.location = location

/-- One pair comes to the same in trees that are alike where it leads. -/
theorem Alike.filterPair {read : Location → Prop} {tree other : FileTree}
    (halike : Alike read tree other) (rules : Rules) {pair : DocumentPair}
    {outputs : OutputPaths}
    (hpair : ∀ location, pair.LeadsTo tree location → read location)
    (houtputs : ∀ location, outputs.LeadTo tree location → read location) :
    let run := filterPair rules pair outputs tree
    let run' := filterPair rules pair outputs other
    run'.result = run.result ∧ run'.sourceAdded = run.sourceAdded ∧
      run'.targetAdded = run.targetAdded ∧ Alike read run.tree run'.tree := by
  have hsource : other.openInput pair.source = tree.openInput pair.source :=
    halike.openInput_eq fun site hsite =>
      hpair site.location ⟨pair.source, by simp, site, hsite, rfl⟩
  have htarget : other.openInput pair.target = tree.openInput pair.target :=
    halike.openInput_eq fun site hsite =>
      hpair site.location ⟨pair.target, by simp, site, hsite, rfl⟩
  simp only [ParallelCorpus.filterPair, hsource, htarget]
  cases tree.openInput pair.source with
  | error fault => exact ⟨rfl, rfl, rfl, halike⟩
  | ok sourceInput =>
  cases tree.openInput pair.target with
  | error fault => exact ⟨rfl, rfl, rfl, halike⟩
  | ok targetInput =>
  rcases halike.openOutput (fun location hplace => houtputs location (Or.inl hplace)) with
    ⟨fault, hfirst, hfirst'⟩ | ⟨sourceHandle, opened, opened', hfirst, hfirst', hopened⟩
  · simp only [hfirst, hfirst']
    exact ⟨rfl, rfl, rfl, halike⟩
  obtain ⟨hsourcePlace, hsourceChange⟩ := FileTree.openOutput_ok hfirst
  simp only [hfirst, hfirst']
  have htargetRead (location : Location)
      (hplace : opened.WritesTo outputs.target location) :
      read location :=
    houtputs location (Or.inr (hsourceChange.ways.writesTo_iff.1 hplace))
  rcases hopened.openOutput htargetRead with
    ⟨fault, hsecond, hsecond'⟩ | ⟨targetHandle, ready, ready', hsecond, hsecond', hready⟩
  · simp only [hsecond, hsecond']
    exact ⟨rfl, rfl, rfl, hopened⟩
  obtain ⟨htargetPlace, -⟩ := FileTree.openOutput_ok hsecond
  simp only [hsecond, hsecond']
  refine ⟨rfl, rfl, rfl, ?_⟩
  apply Alike.receive _ (htargetRead _ htargetPlace)
  exact hready.receive (houtputs _ (Or.inl hsourcePlace)) _

/-- Pairs come to the same in trees that are alike where they lead. -/
theorem Alike.filterPairs {read : Location → Prop} {tree other : FileTree}
    (halike : Alike read tree other) (rules : Rules) {pairs : List DocumentPair}
    {outputs : OutputPaths}
    (hpairs : ∀ pair ∈ pairs, ∀ location, pair.LeadsTo tree location → read location)
    (houtputs : ∀ location, outputs.LeadTo tree location → read location) :
    let run := filterPairs rules outputs pairs tree
    let run' := filterPairs rules outputs pairs other
    run'.reports = run.reports ∧ run'.failure? = run.failure? ∧
    Alike read run.tree run'.tree := by
  induction pairs generalizing tree other with
  | nil => exact ⟨rfl, rfl, halike⟩
  | cons pair pairs ih =>
      obtain ⟨hresult, hsource, htarget, hnext⟩ :=
        halike.filterPair rules (hpairs pair List.mem_cons_self) houtputs
      simp only [ParallelCorpus.filterPairs, hresult, hsource, htarget]
      cases (ParallelCorpus.filterPair rules pair outputs tree).result with
      | error failure => exact ⟨rfl, rfl, hnext⟩
      | ok tally =>
          have hways := (filterPair_leafChange rules pair outputs tree).ways
          obtain ⟨hreports, hfailure, htree⟩ := ih hnext
            (fun later hlater location hleads => by
              obtain ⟨document, hdocument, site, hsite, hplace⟩ := hleads
              exact hpairs later (List.mem_cons_of_mem pair hlater) location
                ⟨document, hdocument, site, hways.locate_ok_iff.1 hsite, hplace⟩)
            (fun location hleads =>
              houtputs location ((outputs.leadTo_iff hways location).1 hleads))
          exact ⟨by rw [hreports], hfailure, htree⟩

/-- What filtering pairs into outputs may read: where the documents and the outputs
lead. -/
def ReadBy (pairs : List DocumentPair) (outputs : OutputPaths) (tree : FileTree)
    (location : Location) : Prop :=
  outputs.LeadTo tree location ∨ ∃ pair ∈ pairs, pair.LeadsTo tree location

/-- Nothing comes behind a failure. -/
theorem filterPairs_append_of_failure {rules : Rules} {outputs : OutputPaths}
    {pairs : List DocumentPair} {tree : FileTree} {failure : Failure}
    (hfails : (filterPairs rules outputs pairs tree).failure? = some failure)
    (others : List DocumentPair) :
    filterPairs rules outputs (pairs ++ others) tree =
      filterPairs rules outputs pairs tree := by
  induction pairs generalizing tree with
  | nil => cases hfails
  | cons pair pairs ih =>
      rw [List.cons_append, filterPairs, filterPairs]
      rw [filterPairs] at hfails
      simp only at hfails ⊢
      cases hresult : (filterPair rules pair outputs tree).result with
      | error failure => rfl
      | ok tally =>
          rw [hresult] at hfails
          simp only
          rw [ih hfails]

/-- Pairs that succeed are followed by the rest. -/
theorem filterPairs_append_of_success {rules : Rules} {outputs : OutputPaths}
    {pairs : List DocumentPair} {tree : FileTree}
    (hsucceeds : (filterPairs rules outputs pairs tree).failure? = none)
    (others : List DocumentPair) :
    let run := filterPairs rules outputs pairs tree
    let rest := filterPairs rules outputs others run.tree
    filterPairs rules outputs (pairs ++ others) tree =
      ⟨run.reports ++ rest.reports, rest.failure?, rest.tree⟩ := by
  induction pairs generalizing tree with
  | nil => rfl
  | cons pair pairs ih =>
      rw [List.cons_append, filterPairs, filterPairs]
      rw [filterPairs] at hsucceeds
      simp only at hsucceeds ⊢
      cases hresult : (filterPair rules pair outputs tree).result with
      | error failure =>
          rw [hresult] at hsucceeds
          cases hsucceeds
      | ok tally =>
          rw [hresult] at hsucceeds
          simp only [ih hsucceeds, List.cons_append]

/-- A run that fails at a pair reads no document behind it: the rest of the pairs and
the contents of all other files make no difference. -/
theorem filterPairs_unread {rules : Rules} {outputs : OutputPaths}
    {pairs : List DocumentPair} {tree other : FileTree} {failure : Failure}
    (hfails : (filterPairs rules outputs pairs tree).failure? = some failure)
    (halike : Alike (ReadBy pairs outputs tree) tree other) (others : List DocumentPair) :
    let run := filterPairs rules outputs pairs tree
    let run' := filterPairs rules outputs (pairs ++ others) other
    run'.reports = run.reports ∧ run'.failure? = some failure ∧
      Alike (ReadBy pairs outputs tree) run.tree run'.tree := by
  intro run run'
  obtain ⟨hreports, hfailure, htree⟩ := halike.filterPairs rules
    (fun pair hpair _ hleads => .inr ⟨pair, hpair, hleads⟩) fun _ hleads => .inl hleads
  have hsame : run' = filterPairs rules outputs pairs other :=
    filterPairs_append_of_failure (hfailure.trans hfails) others
  rw [hsame]
  exact ⟨hreports, hfailure.trans hfails, htree⟩

end ParallelCorpus
