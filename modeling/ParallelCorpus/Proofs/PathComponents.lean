import Mathlib.Data.List.Basic
import Mathlib.Data.List.TakeWhile
import ParallelCorpus.Document
import ParallelCorpus.Proofs.OutputPaths

/-!
# Components of joined paths

A relative path that is joined to another adds its own components behind those of the
other, however either of them is written.  Seen from that other path, what was joined
comes back without the slashes and dots at its ends, which say nothing; a path of plain
names comes back as it is.
-/

namespace ParallelCorpus

namespace Path

/-! ## Segments behind a slash -/

/-- Segments behind a slash, each with the component that it stands for. -/
def behind (segments : List (List Char)) : List (List Char × Option Component) :=
  segments.map fun segment => (segment, component? segment)

/-- The components that a relative path adds behind another path. -/
def inner (path : Path) : List Component :=
  path.segments.filterMap component?

theorem filterMap_behind (segments : List (List Char)) :
    (behind segments).filterMap Prod.snd = segments.filterMap component? := by
  rw [behind, List.filterMap_map]
  rfl

theorem not_mem_of_mem_segments {path : Path} {segment : List Char}
    (hsegment : segment ∈ path.segments) : '/' ∉ segment := by
  rw [segments] at hsegment
  generalize path.text.toList = text at hsegment
  induction text generalizing segment with
  | nil =>
      rw [List.splitOnP_nil, List.mem_singleton] at hsegment
      rw [hsegment]
      exact List.not_mem_nil
  | cons c text ih =>
      rw [List.splitOnP_cons_eq_if_modifyHead] at hsegment
      split at hsegment
      · rcases List.mem_cons.1 hsegment with rfl | hrest
        · exact List.not_mem_nil
        · exact ih hrest
      · rename_i hc
        obtain ⟨first, rest, hsplit⟩ :=
          List.exists_cons_of_ne_nil (List.splitOnP_ne_nil (· == '/') text)
        rw [hsplit, List.modifyHead_cons, List.mem_cons] at hsegment
        rcases hsegment with rfl | hrest
        · rw [List.mem_cons, not_or]
          refine ⟨?_, ih (by rw [hsplit]; exact List.mem_cons_self)⟩
          rintro rfl
          exact hc (by rfl)
        · exact ih (by rw [hsplit]; exact List.mem_cons_of_mem first hrest)

/-- Segments without slashes are those of the path that they make up. -/
theorem segments_intercalate {parts : List (List Char)}
    (hparts : ∀ part ∈ parts, '/' ∉ part) (hne : parts ≠ []) :
    (Path.mk (String.ofList (['/'].intercalate parts))).segments = parts := by
  rw [segments, String.toList_ofList, ← List.splitOn_eq_splitOnP]
  exact List.splitOn_intercalate '/' hparts hne

/-- What a join puts before a name ends with a slash. -/
theorem exists_folder_eq {path : Path} (hpath : path.text ≠ "") :
    ∃ body, path.folder = body ++ ['/'] ∧
      (path.text.toList = body ∨ path.text.toList = body ++ ['/']) := by
  have hne : path.text.toList ≠ [] := fun hnil => hpath (String.toList_eq_nil_iff.1 hnil)
  rw [folder]
  split
  · rename_i hslash
    obtain ⟨body, hbody⟩ := List.getLast?_eq_some_iff.1 (hslash.resolve_left hne)
    exact ⟨body, hbody, .inr hbody⟩
  · exact ⟨path.text.toList, rfl, .inl rfl⟩

/-- The segments of a joined path are some that stand for the components of the first
path, and those of the second. -/
theorem marked_join {path other : Path} (hpath : path.text ≠ "")
    (hother : other.isAbsolute = false) :
    ∃ front, (path.join other).marked = front ++ behind other.segments ∧
      front.filterMap Prod.snd = path.components := by
  obtain ⟨body, hfolder, hbody⟩ := exists_folder_eq hpath
  obtain ⟨first, more, hcut⟩ :=
    List.exists_cons_of_ne_nil (List.splitOnP_ne_nil (· == '/') body)
  have hjoined : (path.join other).segments = first :: (more ++ other.segments) := by
    rw [segments, toList_join path hother, hfolder, List.append_assoc,
      List.singleton_append, List.splitOnP_append_cons body _ (by rfl), hcut]
    rfl
  have hmore : (more ++ other.segments).isEmpty = false := by
    rw [List.isEmpty_eq_false_iff]
    exact List.append_ne_nil_of_right_ne_nil more (List.splitOnP_ne_nil _ _)
  refine ⟨(first, firstComponent? first false) :: behind more, ?_, ?_⟩
  · simp only [marked, hjoined, hmore, behind, List.map_append, List.cons_append]
  · rcases hbody with hplain | hslash
    · have hsegments : path.segments = first :: more := by rw [segments, hplain, hcut]
      -- Only an empty text is an empty segment on its own.
      have halone : firstComponent? first more.isEmpty = firstComponent? first false := by
        rw [firstComponent?, firstComponent?]
        by_cases hfirst : first = []
        · have hmoreNe : more ≠ [] := by
            rintro rfl
            apply hpath
            have hwhole : ['/'].intercalate (body.splitOn '/') = body :=
              List.intercalate_splitOn '/'
            rw [List.splitOn_eq_splitOnP, hcut, hfirst] at hwhole
            exact String.toList_eq_nil_iff.1 (hplain.trans hwhole.symm)
          rw [List.isEmpty_eq_false_iff.2 hmoreNe]
        · rw [if_neg hfirst, if_neg hfirst]
      simp only [components, marked, hsegments, halone]
      rfl
    · have hsegments : path.segments = first :: (more ++ [[]]) := by
        rw [segments, hslash, List.splitOnP_append_cons body [] (by rfl), hcut]
        rfl
      have hmoreNe : (more ++ [[]] : List (List Char)).isEmpty = false := by
        rw [List.isEmpty_eq_false_iff]
        exact List.append_ne_nil_of_right_ne_nil more (List.cons_ne_nil _ _)
      have hempty : component? [] = none := by rfl
      simp only [components, marked, hsegments, hmoreNe, List.map_append,
        List.filterMap_cons, List.filterMap_append, List.map_cons, List.map_nil, hempty,
        List.filterMap_nil, List.append_nil]
      rfl

/-- A relative path that is joined adds its components. -/
theorem components_join {path other : Path} (hpath : path.text ≠ "")
    (hother : other.isAbsolute = false) :
    (path.join other).components = path.components ++ other.inner := by
  obtain ⟨front, hmarked, hfront⟩ := marked_join hpath hother
  rw [components, hmarked, List.filterMap_append, hfront, filterMap_behind]
  rfl

/-- Only the empty path has no components. -/
theorem components_ne_nil {path : Path} (hpath : path.text ≠ "") :
    path.components ≠ [] := by
  obtain ⟨first, rest, hcut⟩ :=
    List.exists_cons_of_ne_nil (List.splitOnP_ne_nil (· == '/') path.text.toList)
  have hsegments : path.segments = first :: rest := hcut
  have hfirst : firstComponent? first rest.isEmpty ≠ none := by
    rw [firstComponent?]
    split
    · rename_i hempty
      have hrest : rest ≠ [] := by
        rintro rfl
        have hwhole : ['/'].intercalate (path.text.toList.splitOn '/') =
            path.text.toList :=
          List.intercalate_splitOn '/'
        rw [List.splitOn_eq_splitOnP, hcut, hempty] at hwhole
        exact hpath (String.toList_eq_nil_iff.1 hwhole.symm)
      rw [List.isEmpty_eq_false_iff.2 hrest]
      exact Option.some_ne_none _
    · rename_i hne
      split
      · exact Option.some_ne_none _
      · rename_i hdot
        rw [component?, if_neg (not_or.2 ⟨hne, hdot⟩)]
        split <;> exact Option.some_ne_none _
  obtain ⟨component, hcomponent⟩ := Option.ne_none_iff_exists'.1 hfirst
  simp only [components, marked, hsegments, List.filterMap_cons, hcomponent]
  exact List.cons_ne_nil _ _

/-! ## What is left of a joined path -/

/-- Taking off the components that come first leaves what stands behind them, perhaps
behind segments that say nothing. -/
theorem dropComponents?_append {front : List (List Char × Option Component)}
    {components : List Component} (hfront : front.filterMap Prod.snd = components)
    (rest : List (List Char × Option Component)) :
    ∃ blank, (∀ segment ∈ blank, segment.2.isNone = true) ∧
      dropComponents? components (front ++ rest) = some (blank ++ rest) := by
  induction front generalizing components with
  | nil =>
      subst hfront
      refine ⟨[], by simp, ?_⟩
      rw [List.filterMap_nil, dropComponents?]
  | cons segment front ih =>
      obtain ⟨text, found⟩ := segment
      cases found with
      | none =>
          rw [List.filterMap_cons_none rfl] at hfront
          cases components with
          | nil =>
              refine ⟨(text, none) :: front, ?_, rfl⟩
              intro segment hsegment
              rcases List.mem_cons.1 hsegment with rfl | hsegment
              · rfl
              · rw [List.filterMap_eq_nil_iff.1 hfront segment hsegment]
                rfl
          | cons component components =>
              obtain ⟨blank, hblank, hdrop⟩ := ih hfront
              exact ⟨blank, hblank, hdrop⟩
      | some component =>
          have hcomponents : component :: front.filterMap Prod.snd = components := hfront
          subst hcomponents
          obtain ⟨blank, hblank, hdrop⟩ := ih rfl
          refine ⟨blank, hblank, ?_⟩
          rw [List.cons_append, dropComponents?, if_pos rfl, hdrop]

/-- A path without the segments at its ends that say nothing. -/
def trimmed (path : Path) : Path :=
  ofSegments (trimEnd ((behind path.segments).dropWhile (·.2.isNone)))

/-- A relative path that was joined comes back trimmed. -/
theorem relativeTo?_join {path other : Path} (hpath : path.text ≠ "")
    (hother : other.isAbsolute = false) :
    (path.join other).relativeTo? path = some other.trimmed := by
  obtain ⟨front, hmarked, hfront⟩ := marked_join hpath hother
  obtain ⟨blank, hblank, hdrop⟩ := dropComponents?_append hfront (behind other.segments)
  rw [relativeTo?]
  split
  · rename_i hnone
    exact absurd hnone (components_ne_nil hpath)
  · rw [hmarked, hdrop, Option.map_some, List.dropWhile_append_of_pos hblank]
    rfl

/-- Seen from itself a path is nothing. -/
theorem relativeTo?_self {path : Path} (hpath : path.text ≠ "") :
    path.relativeTo? path = some ⟨""⟩ := by
  obtain ⟨blank, hblank, hdrop⟩ := @dropComponents?_append path.marked _ rfl []
  rw [List.append_nil, List.append_nil] at hdrop
  rw [relativeTo?]
  split
  · rename_i hnone
    exact absurd hnone (components_ne_nil hpath)
  · have hnothing : blank.dropWhile (·.2.isNone) = [] :=
      List.dropWhile_eq_nil_iff.2 hblank
    rw [components, hdrop, Option.map_some, hnothing]
    rfl

theorem component?_ne_root (segment : List Char) : component? segment ≠ some .root := by
  rw [component?]
  split
  · exact fun hnone => by cases hnone
  · split
    · exact fun hparent => by cases hparent
    · exact fun hname => by cases hname

/-- Segments behind a slash are put together with slashes between them. -/
theorem ofSegments_of_subset {segments : List (List Char × Option Component)}
    {all : List (List Char)} (hsubset : segments ⊆ behind all) :
    ofSegments segments =
      ⟨String.ofList (['/'].intercalate (segments.map Prod.fst))⟩ := by
  unfold ofSegments
  split
  · obtain ⟨segment, -, hsegment⟩ := List.mem_map.1 (hsubset List.mem_cons_self)
    exact absurd (congrArg Prod.snd hsegment) (component?_ne_root segment)
  · rfl

theorem filterMap_dropWhile_isNone (segments : List (List Char × Option Component)) :
    (segments.dropWhile (·.2.isNone)).filterMap Prod.snd =
      segments.filterMap Prod.snd := by
  induction segments with
  | nil => rfl
  | cons segment segments ih =>
      obtain ⟨text, found⟩ := segment
      cases found with
      | none => exact ih
      | some component => rfl

theorem filterMap_trimEnd (segments : List (List Char × Option Component)) :
    (trimEnd segments).filterMap Prod.snd = segments.filterMap Prod.snd := by
  rw [trimEnd, List.filterMap_reverse, filterMap_dropWhile_isNone, List.filterMap_reverse,
    List.reverse_reverse]

theorem trimEnd_prefix (segments : List (List Char × Option Component)) :
    trimEnd segments <+: segments := by
  rw [trimEnd, ← List.reverse_suffix, List.reverse_reverse]
  exact List.dropWhile_suffix _

/-- The segments that trimming leaves, which make up the trimmed path. -/
structure TrimmedSegments (path : Path) (parts : List (List Char)) : Prop where
  trimmed : path.trimmed = ⟨String.ofList (['/'].intercalate parts)⟩
  plain : ∀ part ∈ parts, '/' ∉ part
  inner : parts.filterMap component? = path.inner
  head : parts.head? ≠ some []

theorem exists_trimmedSegments (path : Path) : ∃ parts, TrimmedSegments path parts := by
  have hprefix := trimEnd_prefix ((behind path.segments).dropWhile (·.2.isNone))
  generalize hkept : trimEnd ((behind path.segments).dropWhile (·.2.isNone)) =
    kept at hprefix
  have hsubset : kept ⊆ behind path.segments :=
    List.Subset.trans hprefix.subset (List.dropWhile_subset _)
  have hmarked (segment : List Char × Option Component) (hsegment : segment ∈ kept) :
      segment.1 ∈ path.segments ∧ segment.2 = component? segment.1 := by
    obtain ⟨text, htext, rfl⟩ := List.mem_map.1 (hsubset hsegment)
    exact ⟨htext, rfl⟩
  refine ⟨kept.map Prod.fst, ?_, ?_, ?_, ?_⟩
  · rw [trimmed, hkept, ofSegments_of_subset hsubset]
  · intro part hpart
    obtain ⟨segment, hsegment, rfl⟩ := List.mem_map.1 hpart
    exact not_mem_of_mem_segments (hmarked segment hsegment).1
  · calc
      (kept.map Prod.fst).filterMap component? = kept.filterMap Prod.snd := by
        rw [List.filterMap_map]
        exact List.filterMap_congr fun segment hsegment =>
          (hmarked segment hsegment).2.symm
      _ = (behind path.segments).filterMap Prod.snd := by
        rw [← hkept, filterMap_trimEnd, filterMap_dropWhile_isNone]
      _ = path.inner := filterMap_behind path.segments
  · intro hhead
    rw [List.head?_map, Option.map_eq_some_iff] at hhead
    obtain ⟨⟨text, found⟩, hfirst, rfl⟩ := hhead
    have hfound : found = none := (hmarked _ (List.mem_of_head? hfirst)).2
    obtain ⟨others, hothers⟩ := hprefix
    have hdropped := List.head?_dropWhile_not (·.2.isNone) (behind path.segments)
    rw [← hothers, List.head?_append, hfirst, hfound] at hdropped
    cases hdropped

theorem inner_trimmed (path : Path) : path.trimmed.inner = path.inner := by
  obtain ⟨parts, hparts⟩ := exists_trimmedSegments path
  rw [hparts.trimmed, ← hparts.inner]
  by_cases hnil : parts = []
  · subst hnil
    rfl
  · rw [inner, segments_intercalate hparts.plain hnil]

theorem isAbsolute_trimmed (path : Path) : path.trimmed.isAbsolute = false := by
  obtain ⟨parts, hparts⟩ := exists_trimmedSegments path
  rw [hparts.trimmed, isAbsolute, String.toList_ofList, beq_eq_false_iff_ne]
  intro hslash
  obtain ⟨text, htext⟩ := List.head?_eq_some_iff.1 hslash
  by_cases hnil : parts = []
  · rw [hnil] at htext
    cases htext
  · have hsplit := List.splitOn_intercalate '/' hparts.plain hnil
    rw [htext, List.splitOn_cons_eq_if_modifyHead, if_pos (by rfl)] at hsplit
    apply hparts.head
    rw [← hsplit, List.head?_cons]

/-! ## Paths of names -/

theorem eq_of_toList {path other : Path} (hsame : path.text.toList = other.text.toList) :
    path = other := by
  cases path
  cases other
  cases String.toList_injective hsame
  rfl

section Plain

variable {text : String}
  (hplain : text ≠ "" ∧ text ≠ "." ∧ text ≠ ".." ∧ '/' ∉ text.toList)

include hplain

/-- A text without a slash that is neither empty nor dots stands for itself. -/
theorem component?_of_plain : component? text.toList = some (.name text) := by
  obtain ⟨hempty, hdot, hdots, -⟩ := hplain
  have hempty' : text.toList ≠ [] := fun hnil => hempty (String.toList_eq_nil_iff.1 hnil)
  have hdot' : text.toList ≠ ['.'] := fun hsame => hdot (String.toList_injective hsame)
  have hdots' : text.toList ≠ ['.', '.'] :=
    fun hsame => hdots (String.toList_injective hsame)
  rw [component?, if_neg (not_or.2 ⟨hempty', hdot'⟩), if_neg hdots', String.ofList_toList]

theorem inner_of_plain : (Path.mk text).inner = [.name text] := by
  rw [inner, segments, splitOnP_of_no_slash hplain.2.2.2,
    List.filterMap_cons_some (component?_of_plain hplain), List.filterMap_nil]

/-- Such a text adds one component to every path, the empty one included. -/
theorem components_join_of_plain (path : Path) :
    (path.join ⟨text⟩).components = path.components ++ [.name text] := by
  by_cases hpath : path.text = ""
  · obtain rfl : path = ⟨""⟩ := by rw [← hpath]
    have hjoin : (Path.mk "").join ⟨text⟩ = ⟨text⟩ := by
      apply eq_of_toList
      rw [toList_join _ (isAbsolute_of_no_slash hplain.2.2.2)]
      rfl
    have hfirst : firstComponent? text.toList true = some (.name text) := by
      have hempty : text.toList ≠ [] :=
        fun hnil => hplain.1 (String.toList_eq_nil_iff.1 hnil)
      have hdot : text.toList ≠ ['.'] :=
        fun hsame => hplain.2.1 (String.toList_injective hsame)
      rw [firstComponent?, if_neg hempty, if_neg hdot, component?_of_plain hplain]
    have hnothing : (Path.mk "").components = [] := rfl
    rw [hjoin, hnothing]
    simp [components, marked, segments, splitOnP_of_no_slash hplain.2.2.2, hfirst]
  · rw [components_join hpath (isAbsolute_of_no_slash hplain.2.2.2),
      inner_of_plain hplain]

end Plain

/-- The path that names lead to, one after the other. -/
def descend (path : Path) (names : List Name) : Path :=
  names.foldl (fun path name => path.join ⟨name.text⟩) path

def ofNames (names : List Name) : Path :=
  ⟨"/".intercalate (names.map Name.text)⟩

end Path

namespace Name

theorem plain (name : Name) :
    name.text ≠ "" ∧ name.text ≠ "." ∧ name.text ≠ ".." ∧ '/' ∉ name.text.toList := by
  have hvalid := name.valid
  simp only [isName, Bool.and_eq_true, bne_iff_ne, Bool.not_eq_true',
    List.contains_eq_mem, decide_eq_false_iff_not] at hvalid
  obtain ⟨⟨⟨⟨hempty, hdot⟩, hdots⟩, hslash⟩, -⟩ := hvalid
  exact ⟨hempty, hdot, hdots, hslash⟩

theorem isAbsolute_text (name : Name) : (Path.mk name.text).isAbsolute = false :=
  isAbsolute_of_no_slash name.plain.2.2.2

theorem component?_text (name : Name) :
    Path.component? name.text.toList = some (.name name.text) :=
  Path.component?_of_plain name.plain

theorem inner_text (name : Name) : (Path.mk name.text).inner = [.name name.text] :=
  Path.inner_of_plain name.plain

theorem ofText?_text (name : Name) : Name.ofText? name.text = some name := by
  rw [ofText?, dif_pos name.valid]

theorem text_injective {name other : Name} (hsame : name.text = other.text) :
    name = other := by
  cases name
  cases other
  cases hsame
  rfl

end Name

namespace Path

section Names

variable {path : Path}

theorem join_name_ne_empty (path : Path) (name : Name) :
    (path.join ⟨name.text⟩).text ≠ "" := by
  intro hempty
  have hlist := toList_join path name.isAbsolute_text
  rw [String.toList_eq_nil_iff.2 hempty] at hlist
  exact name.plain.1 (String.toList_eq_nil_iff.1 (List.append_eq_nil_iff.1 hlist.symm).2)

theorem descend_concat (path : Path) (names : List Name) (last : Name) :
    path.descend (names ++ [last]) = (path.descend names).join ⟨last.text⟩ := by
  rw [descend, descend, List.foldl_append, List.foldl_cons, List.foldl_nil]

/-- Names add one component each. -/
theorem components_descend (hpath : path.text ≠ "") (names : List Name) :
    (path.descend names).components = path.components ++ names.map (.name ·.text) := by
  induction names generalizing path with
  | nil => exact (List.append_nil _).symm
  | cons name names ih =>
      have hrest := ih (join_name_ne_empty path name)
      rw [components_join hpath name.isAbsolute_text, name.inner_text, List.append_assoc]
        at hrest
      exact hrest

/-- Different names lead to paths with different components. -/
theorem descend_injective (hpath : path.text ≠ "") {names others : List Name}
    (hsame : (path.descend names).components = (path.descend others).components) :
    names = others := by
  rw [components_descend hpath, components_descend hpath, List.append_cancel_left_eq]
    at hsame
  refine List.map_injective_iff.2 ?_ hsame
  intro name other htexts
  exact Name.text_injective (Component.name.inj htexts)

/-- The last of some names is the name of the file. -/
theorem fileName?_descend (hpath : path.text ≠ "") (names : List Name) (last : Name) :
    (path.descend (names ++ [last])).fileName? = some last.text := by
  rw [fileName?, components_descend hpath, List.map_append,
    ← List.append_assoc, List.map_cons, List.map_nil, List.getLast?_concat]

theorem segments_ofNames {names : List Name} (hne : names ≠ []) :
    (ofNames names).segments = names.map (·.text.toList) := by
  have hparts : ∀ part ∈ names.map (·.text.toList), '/' ∉ part := by
    intro part hpart
    obtain ⟨name, -, rfl⟩ := List.mem_map.1 hpart
    exact name.plain.2.2.2
  have htext : ofNames names =
      ⟨String.ofList (['/'].intercalate (names.map (·.text.toList)))⟩ := by
    have hslash : "/".toList = ['/'] := by rfl
    rw [ofNames, ← String.ofList_toList (s := "/".intercalate _),
      String.toList_intercalate, hslash, List.map_map]
    rfl
  rw [htext]
  exact segments_intercalate hparts fun hnil => hne (List.map_eq_nil_iff.1 hnil)

/-- Nothing of a path of names is trimmed. -/
theorem trimmed_ofNames (names : List Name) :
    (ofNames names).trimmed = ofNames names := by
  by_cases hne : names = []
  · subst hne
    rfl
  have hnamed (segment : List Char × Option Component)
      (hsegment : segment ∈ behind (ofNames names).segments) :
      segment.2.isNone = false := by
    rw [segments_ofNames hne] at hsegment
    obtain ⟨text, htext, rfl⟩ := List.mem_map.1 hsegment
    obtain ⟨name, -, rfl⟩ := List.mem_map.1 htext
    rw [name.component?_text]
    rfl
  have hkept {segments : List (List Char × Option Component)}
      (hsegments : segments ⊆ behind (ofNames names).segments) :
      segments.dropWhile (·.2.isNone) = segments := by
    cases segments with
    | nil => rfl
    | cons segment segments =>
        apply List.dropWhile_cons_of_neg
        rw [hnamed segment (hsegments List.mem_cons_self)]
        exact Bool.false_ne_true
  have hbehind : (behind (ofNames names).segments).map Prod.fst =
      (ofNames names).segments := by
    rw [behind, List.map_map]
    exact List.map_id _
  have hwhole : ['/'].intercalate ((ofNames names).text.toList.splitOn '/') =
      (ofNames names).text.toList := List.intercalate_splitOn '/'
  rw [List.splitOn_eq_splitOnP] at hwhole
  rw [trimmed, hkept (List.Subset.refl _), trimEnd,
    hkept (List.reverse_subset.2 (.refl _)), List.reverse_reverse,
    ofSegments_of_subset (List.Subset.refl _), hbehind, segments, hwhole,
    String.ofList_toList]

theorem isAbsolute_ofNames (names : List Name) : (ofNames names).isAbsolute = false := by
  rw [← trimmed_ofNames]
  exact isAbsolute_trimmed _

theorem inner_ofNames (names : List Name) :
    (ofNames names).inner = names.map (.name ·.text) := by
  by_cases hne : names = []
  · subst hne
    rfl
  · rw [inner, segments_ofNames hne, List.filterMap_map, ← List.filterMap_eq_map]
    exact List.filterMap_congr fun name _ => name.component?_text

/-- A name is followed by a slash before the next one. -/
theorem folder_join_name (path : Path) (name : Name) :
    (path.join ⟨name.text⟩).folder = path.folder ++ name.text.toList ++ ['/'] := by
  have htext := toList_join path name.isAbsolute_text
  obtain ⟨hempty, -, -, hplain⟩ := name.plain
  have hne : name.text.toList ≠ [] := fun hnil => hempty (String.toList_eq_nil_iff.1 hnil)
  have hlast : (path.join ⟨name.text⟩).text.toList.getLast? ≠ some '/' := by
    rw [htext, List.getLast?_append_of_ne_nil _ hne]
    exact fun hslash => hplain (List.mem_of_getLast? hslash)
  have hjoined : (path.join ⟨name.text⟩).text.toList ≠ [] := by
    rw [htext]
    exact List.append_ne_nil_of_right_ne_nil _ hne
  rw [folder, if_neg (not_or.2 ⟨hjoined, hlast⟩), htext]

/-- Following names one after the other is joining them at once. -/
theorem descend_eq_join (path : Path) {names : List Name} (hne : names ≠ []) :
    path.descend names = path.join (ofNames names) := by
  induction names generalizing path with
  | nil => exact absurd rfl hne
  | cons name names ih =>
      by_cases hlast : names = []
      · subst hlast
        rw [descend, List.foldl_cons, List.foldl_nil, ofNames,
          List.map_cons, List.map_nil, String.intercalate_singleton]
      · have hrest : path.descend (name :: names) =
            (path.join ⟨name.text⟩).join (ofNames names) :=
          ih (path.join ⟨name.text⟩) hlast
        have hwhole : (ofNames (name :: names)).text.toList =
            name.text.toList ++ ['/'] ++ (ofNames names).text.toList := by
          have hslash : "/".toList = ['/'] := by rfl
          simp only [ofNames, List.map_cons]
          rw [String.intercalate_cons_of_ne_nil (by simpa using hlast),
            String.toList_append, String.toList_append, hslash]
        rw [hrest]
        apply eq_of_toList
        rw [toList_join _ (isAbsolute_ofNames names),
          toList_join _ (isAbsolute_ofNames _), folder_join_name, hwhole]
        simp only [List.append_assoc]

/-- Names that were followed come back as they are. -/
theorem relativeTo?_descend (hpath : path.text ≠ "") (names : List Name) :
    (path.descend names).relativeTo? path = some (ofNames names) := by
  by_cases hne : names = []
  · subst hne
    exact relativeTo?_self hpath
  · rw [descend_eq_join path hne, relativeTo?_join hpath (isAbsolute_ofNames names),
      trimmed_ofNames]

end Names

end Path
end ParallelCorpus
