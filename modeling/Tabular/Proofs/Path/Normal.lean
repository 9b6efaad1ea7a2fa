import Mathlib.Data.List.DropRight
import Tabular.Path

/-!
This module tells how paths are written in normal form: a root, and names with one slash between them.
The directory of such a text and the text of a path inside a directory are told by the texts alone.
-/

namespace Tabular.Path

/-! ## Texts of paths -/

/-- What stands before the last slash of a text. The slashes at its end are left out where anything
stands before them. -/
def directoryText (text : String) : String :=
  let start := text.toList.rdropWhile (· ≠ '/')
  if start.all (· = '/') then String.ofList start else String.ofList (start.rdropWhile (· = '/'))

/-- The text of a path behind the text of its directory. -/
def joinTexts (directory text : String) : String :=
  if isAbsolute text then text
  else if directory.toList.getLast?.all (· = '/') then directory ++ text
  else directory ++ "/" ++ text

/-- A name has no slash, and it is neither empty nor dots that stand for a directory. -/
structure IsName (name : String) : Prop where
  filled : name ≠ ""
  slashless : '/' ∉ name.toList
  notDot : name ≠ "."
  notDots : name ≠ ".."

/-- The root has two spellings. -/
inductive Root where
  | single
  | double
  deriving DecidableEq, Repr

namespace Root

def text : Root → String
  | .single => "/"
  | .double => "//"

def path : Root → Path
  | .single => .root
  | .double => .doubleRoot

end Root

/-- An absolute path in normal form, with its names from the outermost one inwards. -/
structure Normal where
  root : Root
  names : List String
  areNames : ∀ name ∈ names, IsName name

namespace Normal

def text (normal : Normal) : String := normal.root.text ++ String.intercalate "/" normal.names

def path (normal : Normal) : Path := ⟨normal.names.reverse ++ normal.root.path.segments⟩

/-- The directory that has only the outermost names of a path. -/
def upTo (normal : Normal) (count : Nat) : Normal where
  root := normal.root
  names := normal.names.take count
  areNames name member := normal.areNames name (List.mem_of_mem_take member)

/-- The directory that is so many directories above a path. There is none above the root. -/
def above (normal : Normal) (distance : Nat) : Normal := normal.upTo (normal.names.length - distance)

/-- A path inside a directory. -/
def inside (directory : Normal) {name : String} (isName : IsName name) : Normal where
  root := directory.root
  names := directory.names ++ [name]
  areNames := List.forall_mem_append.mpr
    ⟨directory.areNames, List.forall_mem_singleton.mpr isName⟩

end Normal

/-! ## Texts that start with a slash -/

/-- What is added to an absolute path leaves it absolute. -/
theorem isAbsolute_append {first : String} (absolute : isAbsolute first = true) (second : String) :
    isAbsolute (first ++ second) = true := by
  rw [isAbsolute, decide_eq_true_iff] at absolute ⊢
  rw [String.toList_append, List.head?_append, absolute]
  rfl

/-- The text of a path is absolute. -/
theorem isAbsolute_toText (path : Path) : isAbsolute path.toText = true := by
  rw [toText]
  split
  · rfl
  · exact isAbsolute_append rfl _

/-- A text joined to a directory is absolute. -/
theorem isAbsolute_join (directory : Path) (written : String) :
    isAbsolute (directory.join written) = true := by
  rw [join]
  split
  · assumption
  · split
    · exact isAbsolute_append directory.isAbsolute_toText _
    · exact isAbsolute_append (isAbsolute_append directory.isAbsolute_toText _) _

/-! ## Names between slashes -/

/-- Splitting at slashes is the splitting of lists. -/
theorem splitSlashes_eq (cs : List Char) : splitSlashes cs = cs.splitOn '/' := by
  induction cs with
  | nil => rfl
  | cons c rest inductionHypothesis =>
      rw [List.splitOn_cons_eq_if_modifyHead, ← inductionHypothesis]
      by_cases slash : c = '/'
      · subst slash
        simp [splitSlashes]
      · cases split : splitSlashes rest with
        | nil => exact absurd (inductionHypothesis.symm.trans split) (List.splitOn_ne_nil '/' rest)
        | cons first others => simp [splitSlashes, split, slash]

/-- No part holds a slash. -/
theorem slash_notMem_splitSlashes (cs : List Char) : ∀ part ∈ splitSlashes cs, '/' ∉ part := by
  induction cs with
  | nil => simp [splitSlashes]
  | cons c rest inductionHypothesis =>
      intro part member
      unfold splitSlashes at member
      split at member
      · rcases List.mem_cons.mp member with rfl | later
        · exact List.not_mem_nil
        · exact inductionHypothesis part later
      · next first others other split =>
          rw [split] at inductionHypothesis
          obtain ⟨slashless, inOthers⟩ := List.forall_mem_cons.mp inductionHypothesis
          rcases List.mem_cons.mp member with rfl | later
          · intro slash
            rcases List.mem_cons.mp slash with rfl | inside
            · exact other rfl
            · exact slashless inside
          · exact inOthers part later
      · next empty => exact absurd empty (by rw [splitSlashes_eq]; exact List.splitOn_ne_nil '/' rest)

/-- An empty part leads nowhere. -/
theorem follow_empty (path : Path) : follow path "" = path := by
  simp [follow]

/-- A name leads to the child of this name. -/
theorem follow_name (path : Path) {name : String} (isName : IsName name) :
    follow path name = path.child name := by
  simp [follow, isName.filled, isName.notDot, isName.notDots]

/-- Names lead down one by one. -/
theorem foldl_follow (path : Path) {names : List String} (areNames : ∀ name ∈ names, IsName name) :
    names.foldl follow path = ⟨names.reverse ++ path.segments⟩ := by
  induction names generalizing path with
  | nil => rfl
  | cons name rest inductionHypothesis =>
      obtain ⟨isName, others⟩ := List.forall_mem_cons.mp areNames
      rw [List.foldl_cons, follow_name path isName, inductionHypothesis _ others]
      simp [child]

/-- A text between slashes is followed name by name. -/
theorem foldl_follow_split (path : Path) {names : List String}
    (areNames : ∀ name ∈ names, IsName name) :
    ((splitSlashes (String.intercalate "/" names).toList).map String.ofList).foldl follow path =
      ⟨names.reverse ++ path.segments⟩ := by
  by_cases empty : names = []
  · subst empty
    exact follow_empty path
  · have slashless : ∀ cs ∈ names.map String.toList, '/' ∉ cs :=
      List.forall_mem_map.mpr fun name member => (areNames name member).slashless
    have single : "/".toList = ['/'] := rfl
    rw [splitSlashes_eq, String.toList_intercalate, single,
      List.splitOn_intercalate '/' slashless (by simpa using empty), List.map_map]
    have same : String.ofList ∘ String.toList = id := funext fun _ => String.ofList_toList
    rw [same, List.map_id, foldl_follow path areNames]

/-- Joined names do not start with a slash. -/
theorem head?_intercalate {names : List String} (areNames : ∀ name ∈ names, IsName name) :
    (String.intercalate "/" names).toList.head? ≠ some '/' := by
  cases names with
  | nil => simp
  | cons name rest =>
      have isName := areNames name List.mem_cons_self
      obtain ⟨c, cs, split⟩ := List.exists_cons_of_ne_nil (l := name.toList) (by simpa using isName.filled)
      have begins : (String.intercalate "/" (name :: rest)).toList.head? = some c := by
        rw [String.toList_intercalate, List.map_cons, split]
        cases rest <;> simp [List.intercalate_cons_cons]
      rw [begins]
      intro slash
      exact isName.slashless (by simp [split, Option.some.inj slash])

namespace Normal

variable (normal directory : Normal)

/-! ## Reading and writing -/

/-- A path in normal form is a root where it has no names. -/
theorem isRoot_path : normal.path.isRoot = true ↔ normal.names = [] := by
  constructor
  · intro isRoot
    by_contra filled
    obtain ⟨name, member⟩ := List.exists_mem_of_ne_nil _ filled
    have isName := normal.areNames name member
    have inside : name ∈ normal.path.segments := by simp [path, member]
    rw [Path.isRoot, Bool.or_eq_true, decide_eq_true_iff, decide_eq_true_iff] at isRoot
    rcases isRoot with same | same
    · rw [same] at inside
      exact absurd inside List.not_mem_nil
    · rw [same] at inside
      exact isName.filled (List.mem_singleton.mp inside)
  · intro empty
    rw [path, empty]
    cases normal.root <;> rfl

/-- A text in normal form is read as its root and its names. -/
@[simp] theorem ofText_text (working : Path) : ofText working normal.text = normal.path := by
  obtain ⟨root, names, areNames⟩ := normal
  have other := head?_intercalate areNames
  have follows := foldl_follow_split root.path areNames
  rw [text, path]
  dsimp only
  generalize String.intercalate "/" names = rest at other follows
  have starts : startOf working (root.text ++ rest) = root.path := by
    cases chars : rest.toList with
    | nil => cases root <;> simp [startOf, Root.text, Root.path, chars]
    | cons c cs =>
        have apart : c ≠ '/' := by simpa [chars] using other
        cases root <;> simp [startOf, Root.text, Root.path, chars, apart]
  rw [ofText, starts, ← follows, String.toList_append]
  cases root <;> simp [Root.text, splitSlashes, follow_empty]

/-- A path in normal form is written with its root and its names. -/
@[simp] theorem toText_path : normal.path.toText = normal.text := by
  by_cases filled : normal.names = []
  · rw [path, text, filled]
    cases normal.root <;> rfl
  · have other : normal.path ≠ doubleRoot := by
      intro same
      exact filled (normal.isRoot_path.mp (by rw [same]; rfl))
    rw [toText, if_neg other, path, text]
    cases normal.root with
    | single => simp [Root.text, Root.path, Path.root]
    | double =>
        simp only [Root.text, Root.path, doubleRoot, List.reverse_append, List.reverse_reverse,
          List.reverse_singleton, List.singleton_append]
        rw [String.intercalate_cons_of_ne_nil filled]
        simp [← String.append_assoc]

/-- The directory of a path in normal form has all names but the last. -/
theorem parent_path : normal.path.parent = (normal.above 1).path := by
  by_cases empty : normal.names = []
  · rw [parent, if_pos (normal.isRoot_path.mpr empty)]
    simp [path, above, upTo, empty]
  · rw [parent, if_neg (by rwa [isRoot_path])]
    obtain ⟨outer, last, names⟩ := (List.eq_nil_or_concat normal.names).resolve_left empty
    simp [path, above, upTo, names]

/-- A name, nothing, or dots lead from a path in normal form to another one. -/
theorem follow_path {segment : String} (slashless : '/' ∉ segment.toList) :
    ∃ reached : Normal, normal.path.follow segment = reached.path := by
  rw [follow]
  split
  · exact ⟨normal, rfl⟩
  · next other =>
      simp only [Bool.or_eq_true, decide_eq_true_iff, not_or] at other
      split
      · exact ⟨_, normal.parent_path⟩
      · next notDots => exact ⟨normal.inside ⟨other.1, slashless, other.2, notDots⟩, by
          simp [path, inside, child]⟩

/-- Parts without slashes lead from a normal path to a normal path. -/
theorem foldl_follow_path {segments : List String}
    (slashless : ∀ segment ∈ segments, '/' ∉ segment.toList) :
    ∃ reached : Normal, segments.foldl follow normal.path = reached.path := by
  induction segments generalizing normal with
  | nil => exact ⟨normal, rfl⟩
  | cons segment rest inductionHypothesis =>
      obtain ⟨first, others⟩ := List.forall_mem_cons.mp slashless
      obtain ⟨next, follows⟩ := normal.follow_path first
      rw [List.foldl_cons, follows]
      exact inductionHypothesis next others

/-- A text that is absolute and is read and written back as it stands is one in normal form. -/
theorem exists_text_iff (working : Path) (text : String) : (∃ normal : Normal, normal.text = text) ↔
    isAbsolute text = true ∧ (ofText working text).toText = text := by
  constructor
  · rintro ⟨normal, rfl⟩
    refine ⟨?_, by rw [ofText_text, toText_path]⟩
    rw [← toText_path]
    exact isAbsolute_toText _
  · rintro ⟨absolute, same⟩
    have starts : ∃ root : Root, startOf working text = root.path := by
      rw [isAbsolute, decide_eq_true_iff] at absolute
      unfold startOf
      split
      · exact ⟨.single, rfl⟩
      · exact ⟨.double, rfl⟩
      · exact ⟨.single, rfl⟩
      · next other =>
          cases chars : text.toList with
          | nil => simp [chars] at absolute
          | cons c cs => exact absurd (by simpa [chars] using absolute) (by rintro rfl; exact other cs chars)
    obtain ⟨root, starts⟩ := starts
    have rootPath : root.path = (⟨root, [], by simp⟩ : Normal).path := rfl
    have slashless : ∀ segment ∈ (splitSlashes text.toList).map String.ofList, '/' ∉ segment.toList :=
      List.forall_mem_map.mpr fun part member => by
        simpa using slash_notMem_splitSlashes _ part member
    obtain ⟨reached, follows⟩ := (⟨root, [], by simp⟩ : Normal).foldl_follow_path slashless
    refine ⟨reached, ?_⟩
    rw [← toText_path, ← follows, ← rootPath, ← starts]
    exact same

/-! ## Directories -/

/-- A path up to its own length is the path. -/
theorem upTo_length : normal.upTo normal.names.length = normal := by
  simp [upTo]

/-- A directory with one name more is inside the one before. -/
theorem upTo_succ {count : Nat} (within : count < normal.names.length) :
    normal.upTo (count + 1) =
      (normal.upTo count).inside (normal.areNames _ (List.getElem_mem within)) := by
  simp [upTo, inside]

/-- No step up leads to the path itself. -/
theorem above_zero : normal.above 0 = normal := by
  rw [above, Nat.sub_zero, upTo_length]

variable {name : String} (isName : IsName name)

/-- A path inside a directory has one more name. -/
theorem length_inside : (directory.inside isName).names.length = directory.names.length + 1 := by
  simp [inside]

/-- A path inside a directory is not the root. -/
theorem isRoot_inside : (directory.inside isName).path.isRoot = false := by
  rw [Bool.eq_false_iff, ne_eq, isRoot_path]
  simp [inside]

/-- What is above a path inside a directory is the directory and what is above it. -/
theorem above_inside (distance : Nat) :
    (directory.inside isName).above (distance + 1) = directory.above distance := by
  rw [above, length_inside, Nat.add_sub_add_right]
  simp [above, upTo, inside, List.take_append_of_le_length]

/-- The parent of a path inside a directory is the directory. -/
theorem parent_inside : (directory.inside isName).path.parent = directory.path := by
  rw [parent_path, above_inside, above_zero]

/-- A path inside a directory is its child. -/
theorem path_inside : (directory.inside isName).path = directory.path.child name := by
  simp [path, inside, child]

/-- The names of a directory and a name inside it have a slash between them, unless the directory is a
root. -/
theorem text_inside : (directory.inside isName).text =
    if directory.names = [] then directory.text ++ name else directory.text ++ "/" ++ name := by
  rw [text, text, inside]
  split
  · next empty => simp [empty]
  · next filled =>
      rw [String.intercalate_append_of_ne_nil filled (List.cons_ne_nil _ _)]
      simp [String.append_assoc]

/-- No directory is a path inside itself. -/
theorem text_ne_inside : directory.text ≠ (directory.inside isName).text := by
  have filled : name.length ≠ 0 := by simpa using isName.filled
  intro same
  have lengths := congrArg String.length same
  rw [text_inside] at lengths
  split at lengths <;> simp only [String.length_append] at lengths <;> omega

include isName in
/-- A name is not an absolute path. -/
theorem not_isAbsolute : isAbsolute name = false := by
  rw [isAbsolute, decide_eq_false_iff_not]
  intro slash
  exact isName.slashless (List.mem_of_mem_head? slash)

/-- Every path except the root is inside a directory. -/
theorem eq_inside (filled : normal.names ≠ []) :
    ∃ (directory : Normal) (name : String) (isName : IsName name),
      normal = directory.inside isName := by
  obtain ⟨count, length⟩ := Nat.exists_eq_succ_of_ne_zero (List.length_pos_iff.mpr filled).ne'
  have short : count < normal.names.length := by omega
  have whole := normal.upTo_succ short
  rw [← Nat.succ_eq_add_one, ← length, upTo_length] at whole
  exact ⟨_, _, _, whole⟩

/-- A property of the roots that every directory hands on to the paths inside it is one of all paths. -/
theorem insideInduction {motive : Normal → Prop}
    (root : ∀ normal : Normal, normal.names = [] → motive normal)
    (inside : ∀ (directory : Normal) (name : String) (isName : IsName name),
      motive directory → motive (directory.inside isName)) (normal : Normal) : motive normal := by
  generalize length : normal.names.length = count
  induction count generalizing normal with
  | zero => exact root normal (List.length_eq_zero_iff.mp length)
  | succ count inductionHypothesis =>
      obtain ⟨directory, name, isName, rfl⟩ := normal.eq_inside (List.ne_nil_of_length_eq_add_one length)
      exact inside directory name isName (inductionHypothesis directory (by
        simpa [Normal.inside] using length))

/-- The text of a path except the root does not end with a slash. -/
theorem text_ends (filled : normal.names ≠ []) :
    ∃ start last, normal.text.toList = start ++ [last] ∧ last ≠ '/' := by
  obtain ⟨directory, name, isName, rfl⟩ := normal.eq_inside filled
  obtain ⟨start, last, chars⟩ := (List.eq_nil_or_concat name.toList).resolve_left
    (by simpa using isName.filled)
  rw [List.concat_eq_append] at chars
  have apart : last ≠ '/' := by
    rintro rfl
    exact isName.slashless (by simp [chars])
  rw [text_inside]
  split
  · exact ⟨directory.text.toList ++ start, last, by simp [chars], apart⟩
  · exact ⟨directory.text.toList ++ '/' :: start, last, by simp [chars], apart⟩

/-- A text in normal form ends with a slash exactly where it is a root. -/
theorem getLast?_text :
    normal.text.toList.getLast?.all (· = '/') = true ↔ normal.names = [] := by
  by_cases empty : normal.names = []
  · rw [text, empty]
    cases normal.root <;> decide +kernel
  · obtain ⟨start, last, ends, apart⟩ := normal.text_ends empty
    simp [ends, apart, empty]

/-- A path behind a directory is written in the texts as in the paths. -/
theorem joinTexts_text (written : String) : joinTexts normal.text written = normal.path.join written := by
  simp only [joinTexts, join, getLast?_text, isRoot_path, toText_path]

/-- Joining a name to the text of a directory gives the text of the path inside it. -/
theorem joinTexts_inside : joinTexts directory.text name = (directory.inside isName).text := by
  simp only [joinTexts, not_isAbsolute isName, text_inside, getLast?_text, Bool.false_eq_true,
    if_false]

/-- The directory of the root is the root. -/
theorem directoryText_root (empty : normal.names = []) : directoryText normal.text = normal.text := by
  rw [text, empty]
  cases normal.root <;> decide +kernel

include isName in
/-- A name is left out up to the slash before it. -/
theorem rdropWhile_name (start : List Char) :
    (start ++ ['/'] ++ name.toList).rdropWhile (· ≠ '/') = start ++ ['/'] := by
  have others : ∀ c ∈ name.toList.reverse, decide (c ≠ '/') = true := by
    intro c member
    rw [decide_eq_true_iff]
    rintro rfl
    exact isName.slashless (List.mem_reverse.mp member)
  rw [List.rdropWhile, List.reverse_append, List.dropWhile_append_of_pos others]
  simp

/-- The text of the directory can be read off the text of a path inside it. -/
theorem directoryText_inside : directoryText (directory.inside isName).text = directory.text := by
  have slash : "/".toList = ['/'] := rfl
  rw [text_inside, directoryText]
  split
  · next empty =>
      obtain ⟨start, ends⟩ : ∃ start, directory.text.toList = start ++ ['/'] := by
        rw [text, empty]
        cases directory.root
        · exact ⟨[], rfl⟩
        · exact ⟨['/'], rfl⟩
      have whole : directory.text.toList.all (· = '/') = true := by
        rw [text, empty]
        cases directory.root <;> decide +kernel
      rw [String.toList_append, ends, rdropWhile_name isName, ← ends]
      simp only [whole, if_true, String.ofList_toList]
  · next filled =>
      obtain ⟨start, last, ends, apart⟩ := directory.text_ends filled
      have other : ¬ (directory.text.toList ++ ['/']).all (· = '/') = true := by
        simp [ends, apart]
      have kept : (directory.text.toList ++ ['/']).rdropWhile (· = '/') = directory.text.toList := by
        rw [List.rdropWhile_concat_pos _ _ _ (by simp), ends,
          List.rdropWhile_concat_neg _ _ _ (by simpa using apart)]
      rw [String.toList_append, String.toList_append, slash, rdropWhile_name isName]
      simp only [other, Bool.false_eq_true, if_false, kept, String.ofList_toList]

/-- The directory of a text in normal form is the text of the path above. -/
theorem directoryText_text : directoryText normal.text = (normal.above 1).text := by
  by_cases empty : normal.names = []
  · have same : normal.above 1 = normal := by
      conv_rhs => rw [← normal.above_zero]
      simp [above, empty]
    rw [same, normal.directoryText_root empty]
  · obtain ⟨directory, name, isName, rfl⟩ := normal.eq_inside empty
    rw [directoryText_inside, above_inside, above_zero]

end Normal

end Tabular.Path
