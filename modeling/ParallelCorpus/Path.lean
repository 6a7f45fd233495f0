import ParallelCorpus.Text.Bytes

/-!
# Paths

A path is kept as it was written, since messages show it that way. Its meaning is the
sequence of its components: repeated slashes, a slash at the end, and a dot that does
not open the path say nothing. Joining works on the text; relating one path to another
works on the components and keeps the text of what is left.
-/

namespace ParallelCorpus

/-- A path as it was written. -/
structure Path where
  text : String
  deriving DecidableEq, Repr, Inhabited

/-- One step of a path. -/
inductive Component
  /-- The slash that opens an absolute path. -/
  | root
  /-- The dot that opens a relative path. -/
  | here
  | parent
  | name (text : String)
  deriving DecidableEq, Repr

namespace Path

/-- What stands between the slashes of a path. -/
def segments (path : Path) : List (List Char) :=
  path.text.toList.splitOnP (· == '/')

/-- The component that a segment behind a slash stands for, if it says anything. -/
def component? (segment : List Char) : Option Component :=
  if segment = [] ∨ segment = ['.'] then none
  else if segment = ['.', '.'] then some .parent
  else some (.name (String.ofList segment))

def firstComponent? (segment : List Char) (alone : Bool) : Option Component :=
  if segment = [] then (if alone then none else some .root)
  else if segment = ['.'] then some .here
  else component? segment

/-- Every segment of a path with the component that it stands for. -/
def marked (path : Path) : List (List Char × Option Component) :=
  match path.segments with
  | [] => []
  | first :: rest =>
    (first, firstComponent? first rest.isEmpty) ::
      rest.map fun segment => (segment, component? segment)

def components (path : Path) : List Component :=
  path.marked.filterMap (·.2)

def fileName? (path : Path) : Option String :=
  match path.components.getLast? with
  | some (.name text) => some text
  | _ => none

/-- A path that opens with a slash starts at the root. -/
def isAbsolute (path : Path) : Bool :=
  path.text.toList.head? == some '/'

/-- The path `other` as seen from `path`: an absolute path stands for itself. -/
def join (path other : Path) : Path :=
  if other.isAbsolute then other
  else if path.text.toList = [] ∨ path.text.toList.getLast? = some '/' then
    ⟨path.text ++ other.text⟩
  else ⟨path.text ++ "/" ++ other.text⟩

/-- Segments without those at the end that say nothing. -/
def trimEnd (segments : List (List Char × Option Component)) :
    List (List Char × Option Component) :=
  (segments.reverse.dropWhile (·.2.isNone)).reverse

def ofSegments (segments : List (List Char × Option Component)) : Path :=
  match segments with
  | (_, some .root) :: rest => ⟨String.ofList ('/' :: ['/'].intercalate (rest.map (·.1)))⟩
  | _ => ⟨String.ofList (['/'].intercalate (segments.map (·.1)))⟩

/-- The segments behind those that stand for the given components, which come first. -/
def dropComponents? : List Component → List (List Char × Option Component) →
    Option (List (List Char × Option Component))
  | [], segments => some segments
  | _ :: _, [] => none
  | component :: components, (_, none) :: segments =>
    dropComponents? (component :: components) segments
  | component :: components, (_, some found) :: segments =>
    if component = found then dropComponents? components segments else none

/-- The rest of a path whose first components are those of `base`, as it was written. -/
def relativeTo? (path base : Path) : Option Path :=
  match base.components with
  | [] => some (ofSegments (trimEnd path.marked))
  | components =>
    (dropComponents? components path.marked).map fun rest =>
      ofSegments (trimEnd (rest.dropWhile (·.2.isNone)))

end Path
end ParallelCorpus
