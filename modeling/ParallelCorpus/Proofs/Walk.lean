import ParallelCorpus.FileTree.Lemmas
import ParallelCorpus.FileTree.Walk

/-!
# Walks that arrive

A walk along a path looks at directories and links only.  The relation below says where
a walk arrives, one rule for each kind of step, and agrees with the function that walks.
From it follow what changes of a tree leave the way as it is, how the ways for reading,
writing and removing compare, and that paths which differ in their last step only part
in one directory.
-/

namespace ParallelCorpus

namespace FileTree

/-! ## The relation -/

def detourStart (here : Location) (target : String) : Location :=
  if (Route.ofText target).absolute then [] else here

/-- Whether a slash follows the last step once a link has been replaced. -/
def detourSlash (slash : Bool) (target : String) (rest : List String) : Bool :=
  if rest.isEmpty then slash || (Route.ofText target).slash else slash

/-- A walk with so many links to spare arrives at a site. -/
inductive Reaches (tree : FileTree) (purpose : Purpose) :
    Nat → Bool → Location → List String → Site → Prop
  | done {links : Nat} {slash : Bool} {here : Location} :
      Reaches tree purpose links slash here [] ⟨here, false, slash⟩
  | stay {links : Nat} {slash : Bool} {here : Location} {rest : List String}
      {site : Site} :
      Reaches tree purpose links slash here rest site →
      Reaches tree purpose links slash here ("." :: rest) site
  | up {links : Nat} {slash : Bool} {here : Location} {rest : List String} {site : Site} :
      Reaches tree purpose links slash here.tail rest site →
      Reaches tree purpose links slash here (".." :: rest) site
  | last {links : Nat} {slash : Bool} {here : Location} {step : String} {name : Name} :
      Name.ofText? step = some name →
      purpose.refuses slash = false →
      (∀ target, tree.get? (name :: here) = some (.link target) →
        purpose.follows slash = false) →
      Reaches tree purpose links slash here [step] ⟨name :: here, true, slash⟩
  | enter {links : Nat} {slash : Bool} {here : Location} {step : String} {name : Name}
      {rest : List String} {site : Site} :
      Name.ofText? step = some name →
      rest ≠ [] →
      tree.get? (name :: here) = some .directory →
      Reaches tree purpose links slash (name :: here) rest site →
      Reaches tree purpose links slash here (step :: rest) site
  | detour {links : Nat} {slash : Bool} {here : Location} {step : String} {name : Name}
      {rest : List String} {target : String} {site : Site} :
      Name.ofText? step = some name →
      tree.get? (name :: here) = some (.link target) →
      target ≠ "" →
      (rest = [] → purpose.refuses slash = false ∧ purpose.follows slash = true) →
      Reaches tree purpose links (detourSlash slash target rest) (detourStart here target)
        ((Route.ofText target).steps ++ rest) site →
      Reaches tree purpose (links + 1) slash here (step :: rest) site

/-- Dots are no names. -/
theorem ne_dots_of_name {step : String} {name : Name}
    (hname : Name.ofText? step = some name) :
    step ≠ "." ∧ step ≠ ".." := by
  constructor
  · rintro rfl
    cases hname
  · rintro rfl
    cases hname

/-- What becomes of a walk at a link. -/
def detour (tree : FileTree) (purpose : Purpose) :
    Nat → Bool → Location → String → List String → Except FileFault Site
  | 0, _, _, _, _ => .error .tooManyLinks
  | links + 1, slash, here, target, rest =>
      if target = "" then .error .notFound
      else tree.walk purpose links (detourSlash slash target rest)
        (detourStart here target) ((Route.ofText target).steps ++ rest)

theorem walk_eq_walkSteps (tree : FileTree) (purpose : Purpose) (links : Nat)
    (slash : Bool) :
    tree.walk purpose links slash =
      tree.walkSteps purpose slash (tree.detour purpose links slash) := by
  cases links with
  | zero =>
      funext here steps
      rw [walk]
      rfl
  | succ links =>
      funext here steps
      rw [walk]
      rfl

section Steps

variable (tree : FileTree) (purpose : Purpose) (links : Nat) (slash : Bool)
  (here : Location)

theorem walk_nil : tree.walk purpose links slash here [] = .ok ⟨here, false, slash⟩ := by
  rw [walk_eq_walkSteps, walkSteps]

theorem walk_dot (rest : List String) :
    tree.walk purpose links slash here ("." :: rest) =
      tree.walk purpose links slash here rest := by
  rw [walk_eq_walkSteps, walkSteps, if_pos rfl]

theorem walk_dots (rest : List String) :
    tree.walk purpose links slash here (".." :: rest) =
      tree.walk purpose links slash here.tail rest := by
  rw [walk_eq_walkSteps, walkSteps, if_neg (by decide), if_pos rfl]

variable {step : String} {name : Name} (hname : Name.ofText? step = some name)
include hname

theorem walk_last :
    tree.walk purpose links slash here [step] =
      if purpose.refuses slash then .error .isADirectory
      else match tree.get? (name :: here) with
        | some (.link target) =>
            if purpose.follows slash then tree.detour purpose links slash here target []
            else .ok ⟨name :: here, true, slash⟩
        | _ => .ok ⟨name :: here, true, slash⟩ := by
  rw [walk_eq_walkSteps, walkSteps, if_neg (ne_dots_of_name hname).1,
    if_neg (ne_dots_of_name hname).2]
  simp only [List.isEmpty_nil, Bool.true_and, hname]
  cases tree.get? (name :: here) with
  | none => rfl
  | some entry => cases entry <;> rfl

theorem walk_inner {rest : List String} (hrest : rest ≠ []) :
    tree.walk purpose links slash here (step :: rest) =
      match tree.get? (name :: here) with
      | some (.link target) => tree.detour purpose links slash here target rest
      | some .directory => tree.walk purpose links slash (name :: here) rest
      | some _ => .error .notADirectory
      | none => .error .notFound := by
  obtain ⟨next, others, rfl⟩ := List.exists_cons_of_ne_nil hrest
  rw [walk_eq_walkSteps, walkSteps, if_neg (ne_dots_of_name hname).1,
    if_neg (ne_dots_of_name hname).2]
  simp only [List.isEmpty_cons, Bool.false_and, Bool.false_eq_true, if_false, hname]
  cases tree.get? (name :: here) with
  | none => rfl
  | some entry => cases entry <;> rfl

end Steps

theorem walk_unnamed (tree : FileTree) (purpose : Purpose) (links : Nat) (slash : Bool)
    (here : Location) {step : String} (hdot : step ≠ ".") (hdots : step ≠ "..")
    (hname : Name.ofText? step = none) (rest : List String) :
    tree.walk purpose links slash here (step :: rest) =
      if rest.isEmpty && purpose.refuses slash then .error .isADirectory
      else .error .nameTooLong := by
  rw [walk_eq_walkSteps, walkSteps, if_neg hdot, if_neg hdots, hname]

/-! ## The relation and the function -/

theorem Reaches.walk_eq {tree : FileTree} {purpose : Purpose} {links : Nat} {slash : Bool}
    {here : Location} {steps : List String} {site : Site}
    (hreach : Reaches tree purpose links slash here steps site) :
    tree.walk purpose links slash here steps = .ok site := by
  induction hreach with
  | done => exact walk_nil ..
  | stay _ ih => rw [walk_dot, ih]
  | up _ ih => rw [walk_dots, ih]
  | last hname hrefuse hfollow =>
      rw [walk_last _ _ _ _ _ hname, hrefuse, if_neg Bool.false_ne_true]
      split
      · rename_i target hlink
        rw [hfollow target hlink, if_neg Bool.false_ne_true]
      · rfl
  | enter hname hrest hentry _ ih => rw [walk_inner _ _ _ _ _ hname hrest, hentry, ih]
  | @detour links slash here step name rest target site hname hentry htarget hlast _ ih =>
      by_cases hrest : rest = []
      · obtain ⟨hrefuse, hfollow⟩ := hlast hrest
        subst hrest
        rw [walk_last _ _ _ _ _ hname, hentry]
        simp only [hrefuse, hfollow, Bool.false_eq_true, if_false, if_true]
        rw [FileTree.detour, if_neg htarget, ih]
      · rw [walk_inner _ _ _ _ _ hname hrest, hentry]
        simp only
        rw [FileTree.detour, if_neg htarget, ih]

/-- A walk through a link that arrives has a link to spare and a path to go on with. -/
theorem detour_ok {tree : FileTree} {purpose : Purpose} {links : Nat} {slash : Bool}
    {here : Location} {target : String} {rest : List String} {site : Site}
    (harrive : tree.detour purpose links slash here target rest = .ok site) :
    ∃ fewer, links = fewer + 1 ∧ target ≠ "" ∧
      tree.walk purpose fewer (detourSlash slash target rest) (detourStart here target)
        ((Route.ofText target).steps ++ rest) = .ok site := by
  cases links with
  | zero => cases harrive
  | succ fewer =>
      rw [FileTree.detour] at harrive
      split at harrive
      · cases harrive
      · rename_i htarget
        exact ⟨fewer, rfl, htarget, harrive⟩

theorem reaches_of_walk {tree : FileTree} {purpose : Purpose} {links : Nat} {slash : Bool}
    {here : Location} {steps : List String} {site : Site}
    (harrive : tree.walk purpose links slash here steps = .ok site) :
    Reaches tree purpose links slash here steps site := by
  -- On the links to spare, since a link restarts the steps; within one path on the steps.
  induction links using Nat.strongRecOn generalizing slash here steps site with
  | ind links ihLinks =>
  induction steps generalizing here with
  | nil =>
      rw [walk_nil] at harrive
      cases harrive
      exact .done
  | cons step rest ih =>
      by_cases hdot : step = "."
      · subst hdot
        rw [walk_dot] at harrive
        exact .stay (ih harrive)
      by_cases hdots : step = ".."
      · subst hdots
        rw [walk_dots] at harrive
        exact .up (ih harrive)
      cases hname : Name.ofText? step with
      | none =>
          rw [walk_unnamed tree purpose links slash here hdot hdots hname rest] at harrive
          split at harrive <;> cases harrive
      | some name =>
          by_cases hrest : rest = []
          · subst hrest
            rw [walk_last _ _ _ _ _ hname] at harrive
            cases hrefuse : purpose.refuses slash with
            | true => simp [hrefuse] at harrive
            | false =>
                rw [hrefuse, if_neg Bool.false_ne_true] at harrive
                split at harrive
                · rename_i target hlink
                  cases hfollow : purpose.follows slash with
                  | true =>
                      rw [hfollow, if_pos rfl] at harrive
                      obtain ⟨fewer, rfl, htarget, hbehind⟩ := detour_ok harrive
                      exact .detour hname hlink htarget (fun _ => ⟨hrefuse, hfollow⟩)
                        (ihLinks fewer (Nat.lt_succ_self fewer) hbehind)
                  | false =>
                      rw [hfollow, if_neg Bool.false_ne_true] at harrive
                      cases harrive
                      exact .last hname hrefuse fun _ _ => hfollow
                · rename_i hother
                  cases harrive
                  exact .last hname hrefuse fun target hlink =>
                    absurd hlink (hother target)
          · rw [walk_inner _ _ _ _ _ hname hrest] at harrive
            split at harrive
            · rename_i target hlink
              obtain ⟨fewer, rfl, htarget, hbehind⟩ := detour_ok harrive
              exact .detour hname hlink htarget (fun hnil => absurd hnil hrest)
                (ihLinks fewer (Nat.lt_succ_self fewer) hbehind)
            · rename_i hentry
              exact .enter hname hrest hentry (ih harrive)
            · cases harrive
            · cases harrive

/-- The walk arrives where the relation says, and nowhere else. -/
theorem walk_eq_ok_iff {tree : FileTree} {purpose : Purpose} {links : Nat} {slash : Bool}
    {here : Location} {steps : List String} {site : Site} :
    tree.walk purpose links slash here steps = .ok site ↔
      Reaches tree purpose links slash here steps site :=
  ⟨reaches_of_walk, Reaches.walk_eq⟩

/-- A path that a walk can be made along at all. -/
def Walkable (path : Path) : Prop :=
  path.text.toList.any (·.toNat == 0) = false ∧ path.text ≠ "" ∧
    path.text.utf8ByteSize < 4096

def start (tree : FileTree) (path : Path) : Location :=
  if (Route.ofText path.text).absolute then [] else tree.base

theorem locate_of_walkable {path : Path} (hwalk : Walkable path) (tree : FileTree)
    (purpose : Purpose) :
    tree.locate purpose path =
      tree.walk purpose linkLimit (Route.ofText path.text).slash (tree.start path)
        (Route.ofText path.text).steps := by
  obtain ⟨hzero, hempty, hshort⟩ := hwalk
  rw [locate, hzero, if_neg Bool.false_ne_true, if_neg hempty,
    if_neg (Nat.not_le.2 hshort), start]

/-- A path that no walk can be made along fails in every tree alike. -/
theorem locate_of_not_walkable {path : Path} (hwalk : ¬Walkable path) :
    ∃ fault, ∀ (tree : FileTree) (purpose : Purpose),
      tree.locate purpose path = .error fault := by
  by_cases hzero : path.text.toList.any (·.toNat == 0) = true
  · refine ⟨.zeroByte, fun tree purpose => ?_⟩
    rw [locate, if_pos hzero]
  by_cases hempty : path.text = ""
  · refine ⟨.notFound, fun tree purpose => ?_⟩
    rw [locate, if_neg hzero, if_pos hempty]
  by_cases hlong : 4096 ≤ path.text.utf8ByteSize
  · refine ⟨.nameTooLong, fun tree purpose => ?_⟩
    rw [locate, if_neg hzero, if_neg hempty, if_pos hlong]
  exact absurd ⟨Bool.not_eq_true _ ▸ hzero, hempty, Nat.not_le.1 hlong⟩ hwalk

theorem locate_eq_ok_iff {tree : FileTree} {purpose : Purpose} {path : Path}
    {site : Site} :
    tree.locate purpose path = .ok site ↔
      Walkable path ∧ Reaches tree purpose linkLimit (Route.ofText path.text).slash
        (tree.start path) (Route.ofText path.text).steps site := by
  constructor
  · intro hlocate
    have hwalk : Walkable path := by
      apply Classical.byContradiction
      intro hwalk
      obtain ⟨fault, hfault⟩ := locate_of_not_walkable hwalk
      rw [hfault] at hlocate
      cases hlocate
    rw [locate_of_walkable hwalk] at hlocate
    exact ⟨hwalk, reaches_of_walk hlocate⟩
  · rintro ⟨hwalk, hreach⟩
    rw [locate_of_walkable hwalk, hreach.walk_eq]

/-! ## Ways for different purposes -/

section Purposes

variable {tree : FileTree} {purpose : Purpose} {links : Nat} {slash : Bool}
  {here : Location} {steps : List String} {site : Site}

/-- A slash behind a path stays behind what links make of it. -/
theorem Reaches.slash_eq_false (hreach : Reaches tree purpose links slash here steps site)
    (hsite : site.slash = false) : slash = false := by
  induction hreach with
  | done => exact hsite
  | stay _ ih => exact ih hsite
  | up _ ih => exact ih hsite
  | last => exact hsite
  | enter _ _ _ _ ih => exact ih hsite
  | @detour links slash here step name rest target site _ _ _ _ _ ih =>
      have hbehind := ih hsite
      rw [detourSlash] at hbehind
      split at hbehind
      · exact (Bool.or_eq_false_iff.1 hbehind).1
      · exact hbehind

/-- What can be written at can be read at. -/
theorem Reaches.read_of_write (hreach : Reaches tree .write links slash here steps site) :
    Reaches tree .read links slash here steps site := by
  induction hreach with
  | done => exact .done
  | stay _ ih => exact .stay ih
  | up _ ih => exact .up ih
  | last hname _ hfollow => exact .last hname rfl hfollow
  | enter hname hrest hentry _ ih => exact .enter hname hrest hentry ih
  | detour hname hentry htarget _ _ ih =>
      exact .detour hname hentry htarget (fun _ => ⟨rfl, rfl⟩) ih

/-- What can be read at without a slash behind it can be written at. -/
theorem Reaches.write_of_read (hreach : Reaches tree .read links slash here steps site)
    (hsite : site.slash = false) : Reaches tree .write links slash here steps site := by
  induction hreach with
  | done => exact .done
  | stay _ ih => exact .stay (ih hsite)
  | up _ ih => exact .up (ih hsite)
  | @last links slash here step name hname _ hfollow =>
      have hslash : slash = false := hsite
      exact .last hname (by rw [hslash]; rfl) hfollow
  | enter hname hrest hentry _ ih => exact .enter hname hrest hentry (ih hsite)
  | @detour links slash here step name rest target site hname hentry htarget
      hlast hbehind ih =>
      have hslash : slash = false :=
        (Reaches.detour hname hentry htarget hlast hbehind).slash_eq_false hsite
      exact .detour hname hentry htarget (fun _ => ⟨by rw [hslash]; rfl, rfl⟩) (ih hsite)

/-- Nothing with a slash behind its name can be written at. -/
theorem Reaches.slash_of_write (hreach : Reaches tree .write links slash here steps site)
    (hnamed : site.named = true) : site.slash = false := by
  induction hreach with
  | done => cases hnamed
  | stay _ ih => exact ih hnamed
  | up _ ih => exact ih hnamed
  | last _ hrefuse _ => simpa [Purpose.refuses] using hrefuse
  | enter _ _ _ _ ih => exact ih hnamed
  | detour _ _ _ _ _ ih => exact ih hnamed

/-- Where no link is on the way, what can be removed can be written at. -/
theorem Reaches.write_of_remove
    (hlinks : ∀ location target, tree.get? location ≠ some (.link target))
    (hreach : Reaches tree .remove links slash here steps site)
    (hsite : site.slash = false) :
    Reaches tree .write links slash here steps site := by
  induction hreach with
  | done => exact .done
  | stay _ ih => exact .stay (ih hsite)
  | up _ ih => exact .up (ih hsite)
  | @last links slash here step name hname _ _ =>
      have hslash : slash = false := hsite
      exact .last hname (by rw [hslash]; rfl) fun target hlink =>
        absurd hlink (hlinks _ target)
  | enter hname hrest hentry _ ih => exact .enter hname hrest hentry (ih hsite)
  | detour _ hentry _ _ _ _ => exact absurd hentry (hlinks _ _)

/-- Purposes that stop at a link in the last place lead to the same site. -/
theorem Reaches.of_stops {other : Purpose}
    (hreach : Reaches tree purpose links slash here steps site)
    (hstops : purpose.follows slash = false) (hother : other.follows slash = false)
    (hopen : other.refuses slash = false) :
    Reaches tree other links slash here steps site := by
  induction hreach with
  | done => exact .done
  | stay _ ih => exact .stay (ih hstops hother hopen)
  | up _ ih => exact .up (ih hstops hother hopen)
  | last hname _ _ => exact .last hname hopen fun _ _ => hother
  | enter hname hrest hentry _ ih =>
      exact .enter hname hrest hentry (ih hstops hother hopen)
  | @detour links slash here step name rest target site hname hentry htarget hlast _ ih =>
      have hrest : rest ≠ [] := by
        intro hnil
        rw [(hlast hnil).2] at hstops
        cases hstops
      have hbehind : detourSlash slash target rest = slash := by
        rw [detourSlash, if_neg (by simpa using hrest)]
      rw [hbehind] at ih
      refine .detour hname hentry htarget (fun hnil => absurd hnil hrest) ?_
      rw [hbehind]
      exact ih hstops hother hopen

/-- What is not a link is read where it stands. -/
theorem Reaches.read_of_plain (hreach : Reaches tree purpose links slash here steps site)
    (hplain : ∀ target, tree.get? site.location ≠ some (.link target)) :
    Reaches tree .read links slash here steps site := by
  induction hreach with
  | done => exact .done
  | stay _ ih => exact .stay (ih hplain)
  | up _ ih => exact .up (ih hplain)
  | last hname _ _ =>
      exact .last hname rfl fun target hlink => absurd hlink (hplain target)
  | enter hname hrest hentry _ ih => exact .enter hname hrest hentry (ih hplain)
  | detour hname hentry htarget _ _ ih =>
      exact .detour hname hentry htarget (fun _ => ⟨rfl, rfl⟩) (ih hplain)

/-- A name that is read at is none of a link. -/
theorem Reaches.plain_of_read (hreach : Reaches tree .read links slash here steps site)
    (hnamed : site.named = true) (target : String) :
    tree.get? site.location ≠ some (.link target) := by
  induction hreach with
  | done => cases hnamed
  | stay _ ih => exact ih hnamed
  | up _ ih => exact ih hnamed
  | last _ _ hfollow =>
      intro hlink
      cases hfollow target hlink
  | enter _ _ _ _ ih => exact ih hnamed
  | detour _ _ _ _ _ ih => exact ih hnamed

/-- What is read at is what the path itself names, unless that is a link. -/
theorem Reaches.exists_inspect (hreach : Reaches tree .read links slash here steps site) :
    ∃ own, Reaches tree .inspect links slash here steps own ∧
      (own = site ∨ own.slash = false ∧
        ∃ target, tree.get? own.location = some (.link target)) := by
  induction hreach with
  | done => exact ⟨_, .done, .inl rfl⟩
  | stay _ ih =>
      obtain ⟨own, hown, hends⟩ := ih
      exact ⟨own, .stay hown, hends⟩
  | up _ ih =>
      obtain ⟨own, hown, hends⟩ := ih
      exact ⟨own, .up hown, hends⟩
  | last hname _ hfollow =>
      refine ⟨_, .last hname rfl fun target hlink => ?_, .inl rfl⟩
      cases hfollow target hlink
  | enter hname hrest hentry _ ih =>
      obtain ⟨own, hown, hends⟩ := ih
      exact ⟨own, .enter hname hrest hentry hown, hends⟩
  | @detour links slash here step name rest target site hname hentry htarget _ _ ih =>
      by_cases hstops : rest = [] ∧ slash = false
      · obtain ⟨rfl, rfl⟩ := hstops
        exact ⟨_, .last hname rfl fun _ _ => rfl, .inr ⟨rfl, target, hentry⟩⟩
      · obtain ⟨own, hown, hends⟩ := ih
        refine ⟨own, .detour hname hentry htarget (fun hnil => ⟨rfl, ?_⟩) hown, hends⟩
        exact Bool.not_eq_false _ ▸ fun hslash => hstops ⟨hnil, hslash⟩

end Purposes

/-! ## Taking a walk apart -/

section Inversion

variable {tree : FileTree} {purpose : Purpose} {links : Nat} {slash : Bool}
  {here : Location} {rest : List String} {site : Site}

theorem reaches_dot_iff :
    Reaches tree purpose links slash here ("." :: rest) site ↔
      Reaches tree purpose links slash here rest site := by
  rw [← walk_eq_ok_iff, walk_dot, walk_eq_ok_iff]

theorem reaches_dots_iff :
    Reaches tree purpose links slash here (".." :: rest) site ↔
      Reaches tree purpose links slash here.tail rest site := by
  rw [← walk_eq_ok_iff, walk_dots, walk_eq_ok_iff]

variable {step : String} {name : Name} (hname : Name.ofText? step = some name)
include hname

theorem reaches_enter_iff (hrest : rest ≠ [])
    (hentry : tree.get? (name :: here) = some .directory) :
    Reaches tree purpose links slash here (step :: rest) site ↔
      Reaches tree purpose links slash (name :: here) rest site := by
  rw [← walk_eq_ok_iff, walk_inner _ _ _ _ _ hname hrest, hentry, walk_eq_ok_iff]

theorem reaches_detour_iff (hrest : rest ≠ []) {target : String} (htarget : target ≠ "")
    (hentry : tree.get? (name :: here) = some (.link target)) :
    Reaches tree purpose (links + 1) slash here (step :: rest) site ↔
      Reaches tree purpose links (detourSlash slash target rest) (detourStart here target)
        ((Route.ofText target).steps ++ rest) site := by
  rw [← walk_eq_ok_iff, walk_inner _ _ _ _ _ hname hrest, hentry]
  simp only
  rw [detour, if_neg htarget, walk_eq_ok_iff]

/-- A walk that ends with a name arrives there, unless a link stands there that it
follows. -/
theorem Reaches.of_last (hreach : Reaches tree purpose links slash here [step] site) :
    site = ⟨name :: here, true, slash⟩ ∨
      ∃ target, tree.get? (name :: here) = some (.link target) ∧
        purpose.follows slash = true := by
  cases hreach with
  | stay => cases hname
  | up => cases hname
  | last hother =>
      rw [hname] at hother
      cases hother
      exact .inl rfl
  | enter _ hrest => exact absurd rfl hrest
  | detour hother hentry _ hlast _ =>
      rw [hname] at hother
      cases hother
      exact .inr ⟨_, hentry, (hlast rfl).2⟩

end Inversion

/-- A walk that arrives by one step other than the dots takes that step by name. -/
theorem Reaches.exists_name {tree : FileTree} {purpose : Purpose}
    {links : Nat} {slash : Bool} {here : Location} {step : String} {site : Site}
    (hreach : Reaches tree purpose links slash here [step] site) (hdot : step ≠ ".")
    (hdots : step ≠ "..") : ∃ name, Name.ofText? step = some name := by
  cases hreach with
  | stay => exact absurd rfl hdot
  | up => exact absurd rfl hdots
  | last hname => exact ⟨_, hname⟩
  | enter hname => exact ⟨_, hname⟩
  | detour hname => exact ⟨_, hname⟩

theorem detourSlash_append (slash : Bool) (target : String) (steps : List String)
    (last : String) :
    detourSlash slash target (steps ++ [last]) = slash := by
  cases steps <;> rfl

/-- Paths that differ in their last step only part in one directory, whatever they are
wanted for. -/
theorem Reaches.parting {tree : FileTree} {purpose : Purpose} {links : Nat} {slash : Bool}
    {here : Location} {steps : List String} {last : String} {site : Site}
    (hreach : Reaches tree purpose links slash here (steps ++ [last]) site) :
    ∃ fewer directory, ∀ (other : Purpose) (step : String) (site' : Site),
      Reaches tree other links slash here (steps ++ [step]) site' ↔
        Reaches tree other fewer slash directory [step] site' := by
  generalize hpath : steps ++ [last] = path at hreach
  induction hreach generalizing steps with
  | done => simp at hpath
  | stay _ ih =>
      cases steps with
      | nil => exact ⟨_, _, fun _ _ _ => Iff.rfl⟩
      | cons step steps =>
          obtain ⟨rfl, rfl⟩ := List.cons.inj hpath
          obtain ⟨fewer, directory, hparting⟩ := ih rfl
          exact ⟨fewer, directory, fun _ _ _ => reaches_dot_iff.trans (hparting _ _ _)⟩
  | up _ ih =>
      cases steps with
      | nil => exact ⟨_, _, fun _ _ _ => Iff.rfl⟩
      | cons step steps =>
          obtain ⟨rfl, rfl⟩ := List.cons.inj hpath
          obtain ⟨fewer, directory, hparting⟩ := ih rfl
          exact ⟨fewer, directory, fun _ _ _ => reaches_dots_iff.trans (hparting _ _ _)⟩
  | last =>
      cases steps with
      | nil => exact ⟨_, _, fun _ _ _ => Iff.rfl⟩
      | cons step steps => simp at hpath
  | enter hname _ hentry _ ih =>
      cases steps with
      | nil => exact ⟨_, _, fun _ _ _ => Iff.rfl⟩
      | cons step steps =>
          obtain ⟨rfl, rfl⟩ := List.cons.inj hpath
          obtain ⟨fewer, directory, hparting⟩ := ih rfl
          exact ⟨fewer, directory, fun _ _ _ =>
            (reaches_enter_iff hname (by simp) hentry).trans (hparting _ _ _)⟩
  | @detour links slash here step name rest target site hname hentry htarget _ _ ih =>
      cases steps with
      | nil => exact ⟨_, _, fun _ _ _ => Iff.rfl⟩
      | cons step steps =>
          obtain ⟨rfl, rfl⟩ := List.cons.inj hpath
          have happend : (Route.ofText target).steps ++ steps ++ [last] =
              (Route.ofText target).steps ++ (steps ++ [last]) := List.append_assoc ..
          obtain ⟨fewer, directory, hparting⟩ := ih happend
          refine ⟨fewer, directory, fun other step' site' => ?_⟩
          have hbehind := hparting other step' site'
          simp only [List.append_eq, detourSlash_append] at hbehind
          rw [← hbehind, List.cons_append,
            reaches_detour_iff hname (by simp) htarget hentry, detourSlash_append,
            List.append_assoc]

end FileTree
end ParallelCorpus
