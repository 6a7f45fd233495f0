import ParallelCorpus.FileTree.Access
import ParallelCorpus.Proofs.Walk

/-!
# Ways through changing trees

Walks see directories and links, and what else stands in a place only bars them.  So two
trees with the same directories and links lead a path to the same site, or bar it in the
same place; and what is reached once an entry is gone was reached before.  In a tree
whose entries all stand in directories, a walk that does not end with a name ends in a
directory.
-/

namespace ParallelCorpus

namespace FileTree

/-! ## Trees with the same directories and links -/

/-- What leads a walk on. -/
def signpost : Option Entry → Option Entry
  | some .directory => some .directory
  | some (.link target) => some (.link target)
  | _ => none

/-- Why a walk cannot go on where nothing leads it on. -/
def barrier : Option Entry → FileFault
  | none => .notFound
  | some _ => .notADirectory

theorem signpost_eq_directory {entry : Option Entry} :
    signpost entry = some .directory ↔ entry = some .directory := by
  rcases entry with _ | (_ | _ | _ | _) <;> simp [signpost]

theorem signpost_eq_link {entry : Option Entry} {target : String} :
    signpost entry = some (.link target) ↔ entry = some (.link target) := by
  rcases entry with _ | (_ | _ | _ | _) <;> simp [signpost]

/-- Two trees with the same directories and links. -/
structure SameWays (tree other : FileTree) : Prop where
  base : other.base = tree.base
  signpost : ∀ location, signpost (other.get? location) = signpost (tree.get? location)

theorem SameWays.refl (tree : FileTree) : SameWays tree tree :=
  ⟨rfl, fun _ => rfl⟩

theorem SameWays.symm {tree other : FileTree} (hways : SameWays tree other) :
    SameWays other tree :=
  ⟨hways.base.symm, fun location => (hways.signpost location).symm⟩

theorem SameWays.trans {first second third : FileTree} (hfirst : SameWays first second)
    (hsecond : SameWays second third) : SameWays first third :=
  ⟨hsecond.base.trans hfirst.base,
    fun location => (hsecond.signpost location).trans (hfirst.signpost location)⟩

theorem SameWays.link_iff {tree other : FileTree} (hways : SameWays tree other)
    {location : Location} {target : String} :
    other.get? location = some (.link target) ↔
      tree.get? location = some (.link target) := by
  rw [← signpost_eq_link, hways.signpost, signpost_eq_link]

theorem SameWays.directory_iff {tree other : FileTree} (hways : SameWays tree other)
    {location : Location} :
    other.get? location = some .directory ↔ tree.get? location = some .directory := by
  rw [← signpost_eq_directory, hways.signpost, signpost_eq_directory]

theorem SameWays.reaches {tree other : FileTree} (hways : SameWays tree other)
    {purpose : Purpose} {links : Nat} {slash : Bool} {here : Location}
    {steps : List String} {site : Site}
    (hreach : Reaches tree purpose links slash here steps site) :
    Reaches other purpose links slash here steps site := by
  induction hreach with
  | done => exact .done
  | stay _ ih => exact .stay ih
  | up _ ih => exact .up ih
  | last hname hrefuse hfollow =>
      exact .last hname hrefuse fun target hlink =>
        hfollow target (hways.link_iff.1 hlink)
  | enter hname hrest hentry _ ih =>
      exact .enter hname hrest (hways.directory_iff.2 hentry) ih
  | detour hname hentry htarget hlast _ ih =>
      exact .detour hname (hways.link_iff.2 hentry) htarget hlast ih

theorem SameWays.start_eq {tree other : FileTree} (hways : SameWays tree other)
    (path : Path) :
    other.start path = tree.start path := by
  rw [start, start, hways.base]

/-- A path leads to the same site in both trees. -/
theorem SameWays.locate_ok_iff {tree other : FileTree} (hways : SameWays tree other)
    {purpose : Purpose} {path : Path} {site : Site} :
    other.locate purpose path = .ok site ↔ tree.locate purpose path = .ok site := by
  rw [locate_eq_ok_iff, locate_eq_ok_iff, hways.start_eq]
  constructor
  · rintro ⟨hwalk, hreach⟩
    exact ⟨hwalk, hways.symm.reaches hreach⟩
  · rintro ⟨hwalk, hreach⟩
    exact ⟨hwalk, hways.reaches hreach⟩

/-- A path is barred at a place: wherever the directories and links are these, the walk
ends there for want of a directory. -/
def Barred (tree : FileTree) (purpose : Purpose) (path : Path)
    (location : Location) : Prop :=
  ∀ other, SameWays tree other →
    other.locate purpose path = .error (barrier (other.get? location))

/-- A computation that only directories and links decide, or that is barred in a place
which only directories and links decide. -/
def Determined {α : Type} (tree : FileTree)
    (result : FileTree → Except FileFault α) : Prop :=
  (∃ value, ∀ other, SameWays tree other → result other = value) ∨
    ∃ location, ∀ other, SameWays tree other →
      result other = .error (barrier (other.get? location))

theorem Determined.congr {α : Type} {tree : FileTree}
    {result result' : FileTree → Except FileFault α}
    (hsame : ∀ other, SameWays tree other → result other = result' other)
    (hresult : Determined tree result') : Determined tree result := by
  rcases hresult with ⟨value, hvalue⟩ | ⟨location, hbarred⟩
  · exact .inl ⟨value, fun other hways => (hsame other hways).trans (hvalue other hways)⟩
  · exact .inr
      ⟨location, fun other hways => (hsame other hways).trans (hbarred other hways)⟩

theorem Determined.const {α : Type} {tree : FileTree} (value : Except FileFault α) :
    Determined tree fun _ => value :=
  .inl ⟨value, fun _ _ => rfl⟩

/-- A detour is decided by directories and links when every walk with fewer links is. -/
theorem determined_detour {tree : FileTree} {purpose : Purpose} {links : Nat}
    (hfewer : ∀ fewer < links, ∀ slash here steps,
      Determined tree fun other => other.walk purpose fewer slash here steps)
    (slash : Bool) (here : Location) (target : String) (rest : List String) :
    Determined tree fun other => other.detour purpose links slash here target rest := by
  cases links with
  | zero => exact .const _
  | succ fewer =>
      by_cases htarget : target = ""
      · refine .congr (fun other _ => ?_) (.const (.error .notFound))
        rw [detour, if_pos htarget]
      · refine .congr (fun other _ => ?_) (hfewer fewer (Nat.lt_succ_self fewer)
          (detourSlash slash target rest) (detourStart here target)
          ((Route.ofText target).steps ++ rest))
        rw [detour, if_neg htarget]

/-- Directories and links decide where a walk ends. -/
theorem determined_walk (tree : FileTree) (purpose : Purpose) (links : Nat) (slash : Bool)
    (here : Location) (steps : List String) :
    Determined tree fun other => other.walk purpose links slash here steps := by
  induction links using Nat.strongRecOn generalizing slash here steps with
  | ind links ihLinks =>
  induction steps generalizing here with
  | nil => exact .congr (fun other _ => walk_nil ..) (.const _)
  | cons step rest ih =>
      by_cases hdot : step = "."
      · subst hdot
        exact .congr (fun other _ => walk_dot ..) (ih here)
      by_cases hdots : step = ".."
      · subst hdots
        exact .congr (fun other _ => walk_dots ..) (ih here.tail)
      cases hname : Name.ofText? step with
      | none =>
          exact .congr
            (fun other _ => walk_unnamed other purpose links slash here hdot hdots hname
              rest) (.const _)
      | some name =>
          by_cases hrest : rest = []
          · subst hrest
            by_cases hfollowed : purpose.refuses slash = false ∧
              purpose.follows slash = true ∧
                ∃ target, tree.get? (name :: here) = some (.link target)
            · obtain ⟨hrefuse, hfollow, target, hlink⟩ := hfollowed
              refine .congr (fun other hways => ?_)
                (determined_detour ihLinks slash here target [])
              rw [walk_last _ _ _ _ _ hname, hways.link_iff.2 hlink]
              simp [hrefuse, hfollow]
            · refine .congr (fun other hways => ?_) (.const (if purpose.refuses slash then
                .error .isADirectory else .ok ⟨name :: here, true, slash⟩))
              rw [walk_last _ _ _ _ _ hname]
              cases hrefuse : purpose.refuses slash with
              | true => rfl
              | false =>
                  rw [if_neg Bool.false_ne_true, if_neg Bool.false_ne_true]
                  split
                  · rename_i target hlink
                    rw [if_neg]
                    exact fun hfollow =>
                      hfollowed ⟨hrefuse, hfollow, target, hways.link_iff.1 hlink⟩
                  · rfl
          · cases hpost : signpost (tree.get? (name :: here)) with
            | none =>
                refine .inr ⟨name :: here, fun other hways => ?_⟩
                have hother : signpost (other.get? (name :: here)) = none :=
                  (hways.signpost _).trans hpost
                simp only [walk_inner other purpose links slash here hname hrest]
                rcases hentry : other.get? (name :: here) with _ | (_ | _ | _ | _)
                · rfl
                · rfl
                · rw [hentry] at hother; cases hother
                · rw [hentry] at hother; cases hother
                · rfl
            | some entry =>
                rcases hentry : tree.get? (name :: here) with _ | (_ | _ | target | _)
                · rw [hentry] at hpost; cases hpost
                · rw [hentry] at hpost; cases hpost
                · refine .congr (fun other hways => ?_) (ih (name :: here))
                  rw [walk_inner _ _ _ _ _ hname hrest, hways.directory_iff.2 hentry]
                · refine .congr (fun other hways => ?_)
                    (determined_detour ihLinks slash here target rest)
                  rw [walk_inner _ _ _ _ _ hname hrest, hways.link_iff.2 hentry]
                · rw [hentry] at hpost; cases hpost

/-- Trees with the same directories and links treat a path alike, unless it is barred. -/
theorem SameWays.locate_eq_or_barred {tree other : FileTree} (hways : SameWays tree other)
    (purpose : Purpose) (path : Path) :
    other.locate purpose path = tree.locate purpose path ∨
      ∃ location, Barred tree purpose path location := by
  by_cases hwalk : Walkable path
  · rcases determined_walk tree purpose linkLimit (Route.ofText path.text).slash
      (tree.start path) (Route.ofText path.text).steps
      with ⟨value, hvalue⟩ | ⟨location, hbarred⟩
    · left
      rw [locate_of_walkable hwalk, locate_of_walkable hwalk, hways.start_eq]
      exact (hvalue other hways).trans (hvalue tree (.refl tree)).symm
    · right
      refine ⟨location, fun third hthird => ?_⟩
      rw [locate_of_walkable hwalk, hthird.start_eq]
      exact hbarred third hthird
  · left
    obtain ⟨fault, hfault⟩ := locate_of_not_walkable hwalk
    rw [hfault, hfault]

/-! ## Where paths lead for writing and reading -/

/-- A path leads to a place where a file could be written. -/
def WritesTo (tree : FileTree) (path : Path) (location : Location) : Prop :=
  ∃ site, tree.locate .write path = .ok site ∧ site.location = location

theorem WritesTo.unique {tree : FileTree} {path : Path} {location other : Location}
    (hplace : tree.WritesTo path location) (hother : tree.WritesTo path other) :
    location = other := by
  obtain ⟨site, hsite, rfl⟩ := hplace
  obtain ⟨site', hsite', rfl⟩ := hother
  rw [hsite] at hsite'
  cases hsite'
  rfl

theorem SameWays.writesTo_iff {tree other : FileTree}
    (hways : SameWays tree other) {path : Path} {location : Location} :
    other.WritesTo path location ↔ tree.WritesTo path location := by
  simp only [WritesTo, hways.locate_ok_iff]

theorem locate_read_of_write {tree : FileTree} {path : Path} {site : Site}
    (hwrite : tree.locate .write path = .ok site) :
    tree.locate .read path = .ok site := by
  rw [locate_eq_ok_iff] at hwrite ⊢
  exact ⟨hwrite.1, hwrite.2.read_of_write⟩

theorem locate_write_of_read {tree : FileTree} {path : Path} {site : Site}
    (hread : tree.locate .read path = .ok site) (hslash : site.slash = false) :
    tree.locate .write path = .ok site := by
  rw [locate_eq_ok_iff] at hread ⊢
  exact ⟨hread.1, hread.2.write_of_read hslash⟩

theorem openInput_congr {tree other : FileTree} {path : Path}
    (hlocate : other.locate .read path = tree.locate .read path)
    (hentry : ∀ site, tree.locate .read path = .ok site →
      other.get? site.location = tree.get? site.location) :
    other.openInput path = tree.openInput path := by
  simp only [openInput, status, hlocate]
  cases hsite : tree.locate .read path with
  | error fault => rfl
  | ok site => simp only [bind, Except.bind, entryAt, hentry site hsite]

theorem openInput_of_locate_error {tree : FileTree} {path : Path} {fault : FileFault}
    (hlocate : tree.locate .read path = .error fault) :
    tree.openInput path = .error fault := by
  simp only [openInput, status, hlocate]
  rfl

/-- Two paths that lead to one place, whether or not anything stands there. -/
def SameFile (tree : FileTree) (path other : Path) : Prop :=
  ∃ site site', tree.locate .read path = .ok site ∧ tree.locate .read other = .ok site' ∧
    site.location = site'.location

instance (tree : FileTree) (path other : Path) : Decidable (tree.SameFile path other) :=
  match hsite : tree.locate .read path, hsite' : tree.locate .read other with
  | .ok site, .ok site' =>
      decidable_of_iff (site.location = site'.location)
        (by simp only [SameFile, hsite, hsite', Except.ok.injEq, exists_eq_left',
          exists_and_left])
  | .error _, _ => isFalse (by simp [SameFile, hsite])
  | _, .error _ => isFalse (by simp [SameFile, hsite'])

/-- Paths that would be written to in one place are one file. -/
theorem sameFile_of_writesTo {tree : FileTree} {path other : Path} {location : Location}
    (hplace : tree.WritesTo path location) (hother : tree.WritesTo other location) :
    tree.SameFile path other := by
  obtain ⟨site, hsite, hlocation⟩ := hplace
  obtain ⟨site', hsite', hlocation'⟩ := hother
  exact ⟨site, site', locate_read_of_write hsite, locate_read_of_write hsite',
    hlocation.trans hlocation'.symm⟩

theorem SameWays.sameFile_iff {tree other : FileTree} (hways : SameWays tree other)
    {path path' : Path} : other.SameFile path path' ↔ tree.SameFile path path' := by
  simp only [SameFile, hways.locate_ok_iff]

/-! ## Changes that leave the ways -/

/-- A change that touches some places only and neither makes nor takes away a directory
or a link. -/
structure LeafChange (places : Location → Prop) (tree other : FileTree) : Prop where
  ways : SameWays tree other
  elsewhere : ∀ location, ¬places location → other.get? location = tree.get? location

namespace LeafChange

variable {places : Location → Prop} {first second third : FileTree}

theorem refl (places : Location → Prop) (tree : FileTree) : LeafChange places tree tree :=
  ⟨.refl tree, fun _ _ => rfl⟩

theorem trans (hfirst : LeafChange places first second)
    (hsecond : LeafChange places second third) :
    LeafChange places first third :=
  ⟨hfirst.ways.trans hsecond.ways, fun location hplace =>
    (hsecond.elsewhere location hplace).trans (hfirst.elsewhere location hplace)⟩

theorem mono {others : Location → Prop} (hchange : LeafChange places first second)
    (hplaces : ∀ location, places location → others location) :
    LeafChange others first second :=
  ⟨hchange.ways, fun location hother =>
    hchange.elsewhere location fun hplace => hother (hplaces location hplace)⟩

/-- A single place changes, and leads no walk on before or after. -/
theorem single {tree other : FileTree} {place : Location} (hbase : other.base = tree.base)
    (hbefore : FileTree.signpost (tree.get? place) = none)
    (hafter : FileTree.signpost (other.get? place) = none)
    (helsewhere : ∀ location, location ≠ place →
      other.get? location = tree.get? location) :
    LeafChange (· = place) tree other := by
  refine ⟨⟨hbase, fun location => ?_⟩, helsewhere⟩
  by_cases hplace : location = place
  · subst hplace
    rw [hbefore, hafter]
  · rw [helsewhere location hplace]

end LeafChange

/-- What leads no walk on is not the root. -/
theorem ne_nil_of_signpost {tree : FileTree} {location : Location}
    (hpost : signpost (tree.get? location) = none) : location ≠ [] := by
  rintro rfl
  simp [signpost] at hpost

theorem leafChange_create {tree : FileTree} {location : Location}
    (hvacant : tree.get? location = none) (content : Text.Bytes) :
    LeafChange (· = location) tree (tree.create location (.file content)) := by
  have hbelow : location ≠ [] := ne_nil_of_signpost (by rw [hvacant]; rfl)
  refine .single (base_create ..) (by rw [hvacant]; rfl) ?_ fun other hother =>
    get?_create_of_ne tree _ hother
  rw [get?_create_self tree _ hbelow]
  rfl

theorem leafChange_append (tree : FileTree) (location : Location) (bytes : Text.Bytes) :
    LeafChange (· = location) tree (tree.append location bytes) := by
  rw [append, content?]
  rcases hentry : tree.get? location with _ | (_ | _ | _ | _)
  · exact .refl _ tree
  · have hpost : signpost (tree.get? location) = none := by rw [hentry]; rfl
    refine .single (base_put ..) hpost ?_ fun other hother => get?_put_of_ne tree _ hother
    rw [get?_put_self tree _ (ne_nil_of_signpost hpost)]
    rfl
  · exact .refl _ tree
  · exact .refl _ tree
  · exact .refl _ tree

theorem leafChange_erase {tree : FileTree} {location : Location}
    (hpost : signpost (tree.get? location) = none) :
    LeafChange (· = location) tree (tree.erase location) := by
  refine .single rfl hpost ?_ fun other hother => get?_erase_of_ne tree hother
  rw [get?_erase_self tree (ne_nil_of_signpost hpost)]
  rfl

end FileTree
end ParallelCorpus
