import ParallelCorpus.Path

/-!
# Documents and their counterparts

A document is recognised by the end of its file name. Its counterpart in the other
language has the same name, either directly in the directory of that language or at the
same place below it.
-/

namespace ParallelCorpus

/-- Whether the file name of a path ends with these very bytes. -/
def Path.hasSuffix (path : Path) (suffix : String) : Bool :=
  match path.fileName? with
  | some name => (Text.utf8 suffix).isSuffixOf (Text.utf8 name)
  | none => false

inductive Lookup
  /-- Directly in the target directory, however deep the document lies in the source
  directory. -/
  | flat
  /-- At the place below the target directory that the document has below the source
  directory. -/
  | mirrored
  deriving DecidableEq, Repr

/-- The path in the target directory that has the file name of the source document. -/
def flatCounterpart (source targetDir : Path) : Path :=
  match source.fileName? with
  | some name => targetDir.join ⟨name⟩
  | none => targetDir

/-- The path of the counterpart of a source document. A document that does not lie below
the source directory is looked up flat. -/
def Lookup.counterpart (lookup : Lookup) (source sourceDir targetDir : Path) : Path :=
  match lookup with
  | .flat => flatCounterpart source targetDir
  | .mirrored =>
    match source.relativeTo? sourceDir with
    | some rest => targetDir.join rest
    | none => flatCounterpart source targetDir

structure DocumentPair where
  source : Path
  target : Path
  deriving DecidableEq, Repr

end ParallelCorpus
