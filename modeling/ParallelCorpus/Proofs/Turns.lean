import ParallelCorpus.Proofs.LineAlignment

/-!
# The turns of a run

In a run each document pair has its turn, in the tree that the pairs before it have
left.  Turns come in the order of the pairs and end with the first pair that fails; what
the run reports is what filtering comes to in its turns.  All that changes from turn to
turn is where the outputs lead, so every other document is read as it was at first.
-/

namespace ParallelCorpus

open Text (Bytes)
open FileTree (LeafChange Within)

/-! ## What is read of a document -/

/-- The bytes that can still be read of an input. -/
def Input.content : Input → Bytes
  | text rest | failing rest _ => rest

theorem Input.size_eq (input : Input) : input.size = input.content.length := by
  cases input <;> rfl

/-- The bytes that can be read of a document; none where it cannot be opened. -/
def documentText (tree : FileTree) (path : Path) : Bytes :=
  match tree.openInput path with
  | .ok input => input.content
  | .error _ => []

theorem documentText_of_ok {tree : FileTree} {path : Path} {input : Input}
    (hopen : tree.openInput path = .ok input) :
    documentText tree path = input.content := by
  rw [documentText, hopen]

structure Turn where
  pair : DocumentPair
  tree : FileTree

def Turn.source (turn : Turn) : Bytes :=
  documentText turn.tree turn.pair.source

def Turn.target (turn : Turn) : Bytes :=
  documentText turn.tree turn.pair.target

def Turn.report? (rules : Rules) (outputs : OutputPaths) (turn : Turn) : Option Report :=
  Report.alone? rules outputs turn.tree turn.pair

section Turns

variable {rules : Rules} {outputs : OutputPaths} {pairs : List DocumentPair}
  {tree : FileTree}

end Turns
end ParallelCorpus
