import ParallelCorpus.Failure
import ParallelCorpus.FileTree.Basic

/-!
# Where a path leads

A path is followed step by step from the root or from the working directory. Every step
but the last has to lead to a directory; links on the way are replaced by the paths that
they name, forty of them at most. What happens in the last place depends on what the
path is wanted for, so the walk is told.
-/

namespace ParallelCorpus

/-- What stands between the slashes of a path in order, dots included, and whether a
slash follows the last. -/
structure Route where
  absolute : Bool
  steps : List String
  slash : Bool
  deriving DecidableEq, Repr

def Route.ofText (text : String) : Route where
  absolute := text.toList.head? == some '/'
  steps := ((text.toList.splitOnP (· == '/')).filter (!·.isEmpty)).map String.ofList
  slash := text.toList.getLast? == some '/'

/-- The end of a walk. Its directory exists; whether anything stands there, the tree
tells. -/
structure Site where
  location : Location
  /-- The path ended in a name and not in a dot, in two dots or at the root. -/
  named : Bool
  /-- A slash followed the last name. -/
  slash : Bool
  deriving DecidableEq, Repr

inductive Purpose
  /-- To read what it leads to. -/
  | read
  /-- To learn what stands there, be it a link. -/
  | inspect
  /-- To write a file there, new or not. -/
  | write
  /-- To take away what stands there. -/
  | remove
  deriving DecidableEq, Repr

namespace Purpose

/-- Whether a link in the last place is followed, from whether a slash follows it. -/
def follows (purpose : Purpose) (slash : Bool) : Bool :=
  match purpose with
  | read | write => true
  | inspect => slash
  | remove => false

/-- A name with a slash behind it is none of a file, so nothing can be written there. -/
def refuses (purpose : Purpose) (slash : Bool) : Bool :=
  purpose == write && slash

end Purpose

namespace FileTree

/-- Follows the steps of a route from a directory. A step that is neither dots nor a
name can only be too long. A link is handed to `expand`, with the directory that holds
it, the path it names and the steps behind it. -/
def walkSteps (tree : FileTree) (purpose : Purpose) (slash : Bool)
    (expand : Location → String → List String → Except FileFault Site) :
    Location → List String → Except FileFault Site
  | here, [] => .ok ⟨here, false, slash⟩
  | here, step :: rest =>
    if step = "." then walkSteps tree purpose slash expand here rest
    else if step = ".." then walkSteps tree purpose slash expand here.tail rest
    else if rest.isEmpty && purpose.refuses slash then .error .isADirectory
    else
      match Name.ofText? step with
      | none => .error .nameTooLong
      | some name =>
        match tree.get? (name :: here), rest with
        | some (.link target), [] =>
          if purpose.follows slash then expand here target []
          else .ok ⟨name :: here, true, slash⟩
        | _, [] => .ok ⟨name :: here, true, slash⟩
        | some (.link target), next :: others => expand here target (next :: others)
        | some .directory, next :: others =>
          walkSteps tree purpose slash expand (name :: here) (next :: others)
        | some _, _ :: _ => .error .notADirectory
        | none, _ :: _ => .error .notFound

/-- Follows the steps of a route from a directory through at most `links` links. A slash
behind a link that stood in the last place goes on behind the path that it names. -/
def walk (tree : FileTree) (purpose : Purpose) :
    Nat → Bool → Location → List String → Except FileFault Site
  | 0, slash => walkSteps tree purpose slash fun _ _ _ => .error .tooManyLinks
  | links + 1, slash =>
    walkSteps tree purpose slash fun here target rest =>
      let route := Route.ofText target
      let behind := if rest.isEmpty then slash || route.slash else slash
      if target = "" then .error .notFound
      else
        let start := if route.absolute then [] else here
        tree.walk purpose links behind start (route.steps ++ rest)

def linkLimit : Nat := 40

def locate (tree : FileTree) (purpose : Purpose) (path : Path) : Except FileFault Site :=
  let route := Route.ofText path.text
  if path.text.toList.any (·.toNat == 0) then .error .zeroByte
  else if path.text = "" then .error .notFound
  else if 4096 ≤ path.text.utf8ByteSize then .error .nameTooLong
  else
    let start := if route.absolute then [] else tree.base
    tree.walk purpose linkLimit route.slash start route.steps

/-- What stands at a site, if it is what the path asked for: behind a slash, a
directory. -/
def entryAt (tree : FileTree) (site : Site) : Except FileFault Entry :=
  match tree.get? site.location with
  | none => .error .notFound
  | some .directory => .ok .directory
  | some entry => if site.slash then .error .notADirectory else .ok entry

/-- What a path leads to, through links. -/
def status (tree : FileTree) (path : Path) : Except FileFault Entry := do
  tree.entryAt (← tree.locate .read path)

/-- What a path leads to; a link in the last place stands for itself unless a slash
follows it. -/
def ownStatus (tree : FileTree) (path : Path) : Except FileFault Entry := do
  tree.entryAt (← tree.locate .inspect path)

def holds (tree : FileTree) (path : Path) : Bool :=
  (tree.status path).isOk

def isDirectory (tree : FileTree) (path : Path) : Bool :=
  match tree.status path with
  | .ok .directory => true
  | _ => false

/-- Whether what is written to a path is printed. -/
def isStandardOutput (tree : FileTree) (path : Path) : Bool :=
  match tree.status path with
  | .ok (.device .standardOutput) => true
  | _ => false

end FileTree
end ParallelCorpus
