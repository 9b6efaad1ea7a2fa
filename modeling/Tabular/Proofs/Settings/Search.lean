import Tabular.Proofs.Path.Normal
import Tabular.Settings.File

/-!
This module tells where the search for a settings file ends: in the nearest directory that has the file,
or at the root.
-/

namespace Tabular

namespace Path

/-! ## A search by texts -/

/-- A search for a name looks into a directory and goes on in the one above it. It ends where the name is
found, and where a directory is its own directory. The number counts how often the search went on. -/
inductive Searched (isFile : String → Bool) (name : String) : String → Option String → Nat → Prop where
  | found {directory : String} (present : isFile (joinTexts directory name) = true) :
      Searched isFile name directory (some (joinTexts directory name)) 0
  | ended {directory : String} (missing : isFile (joinTexts directory name) = false)
      (fixed : directoryText directory = directory) : Searched isFile name directory none 0
  | wentOn {directory : String} {result : Option String} {steps : Nat}
      (missing : isFile (joinTexts directory name) = false)
      (moves : directoryText directory ≠ directory)
      (rest : Searched isFile name (directoryText directory) result steps) :
      Searched isFile name directory result (steps + 1)

/-- A search has one result and takes one number of steps. -/
theorem Searched.unique {isFile : String → Bool} {name directory : String}
    {first second : Option String} {steps others : Nat}
    (one : Searched isFile name directory first steps)
    (another : Searched isFile name directory second others) : second = first ∧ others = steps := by
  induction one generalizing others with
  | found present =>
      cases another with
      | found => exact ⟨rfl, rfl⟩
      | ended missing => simp [present] at missing
      | wentOn missing => simp [present] at missing
  | ended missing fixed =>
      cases another with
      | found present => simp [present] at missing
      | ended => exact ⟨rfl, rfl⟩
      | wentOn _ moves => exact absurd fixed moves
  | wentOn missing moves _ inductionHypothesis =>
      cases another with
      | found present => simp [present] at missing
      | ended _ fixed => exact absurd fixed moves
      | wentOn _ _ rest =>
          obtain ⟨same, sameSteps⟩ := inductionHypothesis rest
          exact ⟨same, by rw [sameSteps]⟩

/-! ## A search by paths -/

/-- The search for a name looks into a directory, and then into the one above it unless that is the
root. -/
theorem nearest_eq (isFile : Path → Bool) (name : String) (directory : Path) :
    nearest isFile name directory =
      if isFile (directory.child name) then some (directory.child name)
      else if directory.isRoot then none else nearest isFile name directory.parent := by
  obtain ⟨segments⟩ := directory
  cases segments with
  | nil =>
      have isRoot : isRoot ⟨[]⟩ = true := rfl
      simp only [nearest, nearestFrom, isRoot, if_true]
      rfl
  | cons segment rest =>
      simp only [nearest, nearestFrom]
      split
      · rfl
      · split
        · rfl
        · next other =>
            rw [parent, if_neg other]
            rfl

section Nearest

variable (isFile : Path → Bool) {name : String} (isName : IsName name)

/-- The search for a name finds the first of the paths above that is a file. -/
theorem nearest_eq_find? (start : Normal) : nearest isFile name start.path =
    ((List.range (start.names.length + 1)).map fun distance =>
      ((start.above distance).inside isName).path).find? isFile := by
  induction start using Normal.insideInduction with
  | root normal empty =>
      rw [nearest_eq, normal.isRoot_path.mpr empty, empty, ← Normal.path_inside normal isName]
      cases here : isFile (normal.inside isName).path <;>
        simp [here, Normal.above_zero]
  | inside directory last isLast inductionHypothesis =>
      rw [nearest_eq, Normal.isRoot_inside, Normal.parent_inside, inductionHypothesis,
        ← Normal.path_inside _ isName, Normal.length_inside,
        List.range_succ_eq_map (n := directory.names.length + 1), List.map_cons, List.find?_cons,
        Normal.above_zero, List.map_map]
      simp only [Function.comp_def, Nat.succ_eq_add_one, Normal.above_inside]
      cases isFile ((directory.inside isLast).inside isName).path <;> simp

include isName in
/-- The search by texts ends, with what the search by paths finds. It goes on at most once for each name
of the path. -/
theorem searched_nearest (working : Path) (start : Normal) :
    ∃ steps ≤ start.names.length, Searched (fun text => isFile (ofText working text)) name start.text
      ((nearest isFile name start.path).map toText) steps := by
  have candidate (directory : Normal) : isFile (ofText working (joinTexts directory.text name)) =
      isFile (directory.path.child name) := by
    rw [Normal.joinTexts_inside directory isName, Normal.ofText_text, Normal.path_inside]
  have written (directory : Normal) :
      (directory.path.child name).toText = joinTexts directory.text name := by
    rw [← Normal.path_inside directory isName, Normal.toText_path, Normal.joinTexts_inside]
  have foundHere (directory : Normal) (present : isFile (directory.path.child name) = true) :
      Searched (fun text => isFile (ofText working text)) name directory.text
        ((some (directory.path.child name)).map toText) 0 := by
    rw [Option.map_some, written]
    exact .found (by rw [candidate, present])
  induction start using Normal.insideInduction with
  | root normal empty =>
      refine ⟨0, Nat.zero_le _, ?_⟩
      rw [nearest_eq, normal.isRoot_path.mpr empty]
      split
      · next present => exact foundHere normal present
      · next missing =>
          exact .ended (by rw [candidate, Bool.eq_false_iff.mpr missing])
            (normal.directoryText_root empty)
  | inside directory last isLast inductionHypothesis =>
      obtain ⟨steps, few, rest⟩ := inductionHypothesis
      rw [nearest_eq, Normal.isRoot_inside, Normal.parent_inside, Normal.length_inside]
      split
      · next present => exact ⟨0, Nat.zero_le _, foundHere _ present⟩
      · next missing =>
          refine ⟨steps + 1, by omega, .wentOn (by rw [candidate, Bool.eq_false_iff.mpr missing]) ?_ ?_⟩
          · rw [Normal.directoryText_inside]
            exact directory.text_ne_inside isLast
          · rw [Normal.directoryText_inside]
            exact rest

end Nearest

end Path

namespace Settings

theorem fileName_isName : Path.IsName fileName where
  filled := by decide
  slashless := by decide
  notDot := by decide
  notDots := by decide

/-- The search for the settings file by the texts of directories ends from any path in normal form. It
finds the file in the nearest of the directories above, the path itself and the root among them, and
nothing exactly where none of them has the file. -/
theorem find_nearest (surroundings : Surroundings) (start : Path.Normal) :
    let isFile (text : String) : Bool := surroundings.isFile (surroundings.path text)
    let found := (find surroundings (some start.text)).map Path.toText
    let candidate (distance : Nat) : String := Path.joinTexts (start.above distance).text fileName
    (∃ steps ≤ start.names.length, ∀ result others,
      Path.Searched isFile fileName start.text result others ↔ result = found ∧ others = steps) ∧
    (∀ file, found = some file ↔
      ∃ distance ≤ start.names.length, file = candidate distance ∧ isFile (candidate distance) = true ∧
        ∀ nearer < distance, isFile (candidate nearer) = false) ∧
    (found = none ↔ ∀ distance ≤ start.names.length, isFile (candidate distance) = false) := by
  intro isFile found candidate
  have looked : found = (Path.nearest surroundings.isFile fileName start.path).map Path.toText := by
    simp only [found, find, Option.map_some, Option.getD_some, Surroundings.path, Path.Normal.ofText_text]
  have candidateText (distance : Nat) :
      candidate distance = ((start.above distance).inside fileName_isName).path.toText := by
    rw [Path.Normal.toText_path, ← Path.Normal.joinTexts_inside]
  have candidateFile (distance : Nat) : isFile (candidate distance) =
      surroundings.isFile ((start.above distance).inside fileName_isName).path := by
    rw [candidateText, Path.Normal.toText_path]
    simp only [isFile, Surroundings.path, Path.Normal.ofText_text]
  -- The search up the directories is a search for the first distance with a file.
  have first : found = ((List.range (start.names.length + 1)).find? fun distance =>
      isFile (candidate distance)).map candidate := by
    rw [looked, Path.nearest_eq_find? _ fileName_isName, List.find?_map, Option.map_map]
    simp only [Function.comp_def, ← candidateText, ← candidateFile]
  refine ⟨?_, ?_, ?_⟩
  · obtain ⟨steps, few, searched⟩ :=
      Path.searched_nearest surroundings.isFile fileName_isName surroundings.working start
    rw [← looked] at searched
    refine ⟨steps, few, fun result others => ⟨searched.unique, ?_⟩⟩
    rintro ⟨rfl, rfl⟩
    exact searched
  · intro file
    simp only [first, Option.map_eq_some_iff, List.find?_range_eq_some, List.mem_range, Nat.lt_succ_iff,
      Bool.not_eq_true']
    constructor
    · rintro ⟨distance, ⟨present, within, missing⟩, rfl⟩
      exact ⟨distance, within, rfl, present, missing⟩
    · rintro ⟨distance, within, rfl, present, missing⟩
      exact ⟨distance, ⟨present, within, missing⟩, rfl⟩
  · simp only [first, Option.map_eq_none_iff, List.find?_range_eq_none, Nat.lt_succ_iff, Bool.not_eq_true']

end Settings

end Tabular
