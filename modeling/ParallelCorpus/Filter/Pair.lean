import ParallelCorpus.Document
import ParallelCorpus.FileTree.Access
import ParallelCorpus.Filter.Lockstep

/-!
# Filtering one document pair

Both documents are opened before any output, and both outputs before any line is read.
Whatever happens after that, each output receives what was handed on and what its buffer
still held.

Documents are read as they are when they are opened, and the outputs receive their bytes
when the pair is done. For files of their own that is all the same; what comes of a
document that is one of the outputs, or of outputs that are one file, depends on how
reading and handing on take turns, and is not described here.
-/

namespace ParallelCorpus

open Text (Bytes)

structure OutputPaths where
  source : Path
  target : Path
  deriving DecidableEq, Repr

def Stop.failure (pair : DocumentPair) (outputs : OutputPaths) : Stop → Failure
  | sourceLine fault => .readLine pair.source fault
  | targetLine fault => .readLine pair.target fault
  | sourceOutput fault => .writeLine outputs.source fault
  | targetOutput fault => .writeLine outputs.target fault
  | misaligned sourceLines targetLines =>
    .misaligned pair.source pair.target sourceLines targetLines

structure PairRun where
  result : Except Failure Tally
  /-- What was handed on to each output. -/
  sourceAdded : Bytes
  targetAdded : Bytes
  tree : FileTree

def PairRun.unopened (failure : Failure) (tree : FileTree) : PairRun :=
  ⟨.error failure, [], [], tree⟩

def filterOpened (rules : Rules) (pair : DocumentPair) (outputs : OutputPaths)
    (source target : Input) (sourceHandle targetHandle : FileTree.Handle)
    (tree : FileTree) :
    PairRun :=
  let ran := lockstep rules source target (.start sourceHandle.medium targetHandle.medium)
  let reached := (lastProgress ran).close
  { result := match ran with
      | .ok progress => .ok progress.tally
      | .error halt => .error (halt.stop.failure pair outputs)
    sourceAdded := reached.source.handed
    targetAdded := reached.target.handed
    tree :=
      (tree.receive sourceHandle reached.source).receive targetHandle reached.target }

def filterPair (rules : Rules) (pair : DocumentPair) (outputs : OutputPaths)
    (tree : FileTree) :
    PairRun :=
  match tree.openInput pair.source with
  | .error fault => .unopened (.openInput pair.source fault) tree
  | .ok source =>
    match tree.openInput pair.target with
    | .error fault => .unopened (.openInput pair.target fault) tree
    | .ok target =>
      match tree.openOutput outputs.source with
      | .error fault => .unopened (.openOutput outputs.source fault) tree
      | .ok (sourceHandle, tree) =>
        match tree.openOutput outputs.target with
        | .error fault => .unopened (.openOutput outputs.target fault) tree
        | .ok (targetHandle, tree) =>
          filterOpened rules pair outputs source target sourceHandle targetHandle tree

end ParallelCorpus
