import ParallelCorpus.FileTree.Basic

/-!
# What stands where after a change

A tree is looked at through `get?`. Putting an entry at a location or making one there
changes what stands there and nowhere else, and so does erasing one; the working
directory stays.
-/

namespace ParallelCorpus

namespace FileTree

theorem lookup_map_replaceAt_self {location : Location} (entry : Entry)
    {entries : List (Location × Entry)} (present : location ∈ entries.map Prod.fst) :
    (entries.map (replaceAt location entry)).lookup location = some entry := by
  induction entries with
  | nil => simp at present
  | cons stored rest ih =>
      obtain ⟨key, value⟩ := stored
      by_cases same : key = location
      · simp [replaceAt, same]
      · have inRest : location ∈ rest.map Prod.fst := by
          simpa [Ne.symm same] using present
        have differs : (location == key) = false := by simpa using Ne.symm same
        simp only [List.map_cons, replaceAt, same, if_false, List.lookup_cons, differs]
        exact ih inRest

theorem lookup_map_replaceAt_of_ne {location other : Location} (entry : Entry)
    (differs : other ≠ location) (entries : List (Location × Entry)) :
    (entries.map (replaceAt location entry)).lookup other = entries.lookup other := by
  induction entries with
  | nil => rfl
  | cons stored rest ih =>
      obtain ⟨key, value⟩ := stored
      by_cases same : key = location
      · subst same
        have elsewhere : (other == key) = false := by simpa using differs
        simp only [List.map_cons, replaceAt, if_true, List.lookup_cons, elsewhere]
        exact ih
      · simp only [List.map_cons, replaceAt, same, if_false, List.lookup_cons]
        rw [ih]

theorem lookup_filter_of_ne {location other : Location} (differs : other ≠ location)
    (entries : List (Location × Entry)) :
    (entries.filter fun stored => stored.1 != location).lookup other =
      entries.lookup other := by
  induction entries with
  | nil => rfl
  | cons stored rest ih =>
      obtain ⟨key, value⟩ := stored
      by_cases same : key = location
      · subst same
        have elsewhere : (other == key) = false := by simpa using differs
        rw [List.filter_cons_of_neg (by simp), ih, List.lookup_cons, elsewhere]
      · rw [List.filter_cons_of_pos (by simpa using same), List.lookup_cons,
          List.lookup_cons, ih]

theorem lookup_eq_none {location : Location} {entries : List (Location × Entry)}
    (absent : location ∉ entries.map Prod.fst) : entries.lookup location = none := by
  rw [List.lookup_eq_none_iff]
  intro stored isStored
  have differs : location ≠ stored.1 := fun same =>
    absent (same ▸ List.mem_map_of_mem isStored)
  simpa using differs

/-- The root is a directory whatever is stored. -/
@[simp]
theorem get?_root (tree : FileTree) : tree.get? [] = some .directory := by
  simp [get?]

theorem get?_put_self (tree : FileTree) {location : Location} (entry : Entry)
    (below : location ≠ []) : (tree.put location entry).get? location = some entry := by
  unfold put
  split
  · rename_i present
    simp only [get?, below, if_false]
    exact lookup_map_replaceAt_self entry present
  · rename_i absent
    simp [get?, below, List.lookup_append, lookup_eq_none absent]

theorem get?_put_of_ne (tree : FileTree) {location other : Location} (entry : Entry)
    (differs : other ≠ location) :
    (tree.put location entry).get? other = tree.get? other := by
  unfold put
  split
  · simp only [get?, lookup_map_replaceAt_of_ne entry differs]
  · have elsewhere : (other == location) = false := by simpa using differs
    simp [get?, List.lookup_append, List.lookup_cons, elsewhere]

theorem get?_create_self (tree : FileTree) {location : Location} (entry : Entry)
    (below : location ≠ []) :
    (tree.create location entry).get? location = some entry := by
  unfold create
  split
  · exact get?_put_self tree entry below
  · simp [get?, below]

theorem get?_create_of_ne (tree : FileTree) {location other : Location} (entry : Entry)
    (differs : other ≠ location) :
    (tree.create location entry).get? other = tree.get? other := by
  unfold create
  split
  · exact get?_put_of_ne tree entry differs
  · have elsewhere : (other == location) = false := by simpa using differs
    simp [get?, List.lookup_cons, elsewhere]

theorem get?_erase_self (tree : FileTree) {location : Location} (below : location ≠ []) :
    (tree.erase location).get? location = none := by
  simp only [get?, below, if_false, erase]
  exact lookup_eq_none (by simp)

theorem get?_erase_of_ne (tree : FileTree) {location other : Location}
    (differs : other ≠ location) :
    (tree.erase location).get? other = tree.get? other := by
  simp only [get?, erase, lookup_filter_of_ne differs]

@[simp]
theorem base_put (tree : FileTree) (location : Location) (entry : Entry) :
    (tree.put location entry).base = tree.base := by
  unfold put
  split <;> rfl

@[simp]
theorem base_create (tree : FileTree) (location : Location) (entry : Entry) :
    (tree.create location entry).base = tree.base := by
  unfold create
  split
  · exact base_put tree location entry
  · rfl

@[simp]
theorem base_erase (tree : FileTree) (location : Location) :
    (tree.erase location).base = tree.base := rfl

end FileTree
end ParallelCorpus
