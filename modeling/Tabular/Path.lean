/-!
This module holds absolute paths and the search for the nearest file of a name.
-/

namespace Tabular

/-- An absolute path. Its segments come from the innermost one outwards, and none of them is one dot or
two dots. Only the outermost segment may be empty, where the path is below the root that is written
with two slashes. -/
structure Path where
  segments : List String
  deriving DecidableEq, Repr

namespace Path

def root : Path := ⟨[]⟩

/-- The root that is written with two slashes. It is kept apart from the other one. -/
def doubleRoot : Path := ⟨[""]⟩

def isRoot (path : Path) : Bool := path = root || path = doubleRoot

/-- This function gives the directory of a path. A root is its own directory. -/
def parent (path : Path) : Path := if path.isRoot then path else ⟨path.segments.tail⟩

def child (path : Path) (name : String) : Path := ⟨name :: path.segments⟩

def toText (path : Path) : String :=
  if path = doubleRoot then "//" else "/" ++ String.intercalate "/" path.segments.reverse

/-- This function follows one segment of a written path. -/
def follow (path : Path) (segment : String) : Path :=
  if segment = "" || segment = "." then path
  else if segment = ".." then path.parent
  else path.child segment

/-- This function splits at every slash. -/
def splitSlashes : List Char → List (List Char)
  | [] => [[]]
  | c :: rest =>
      match c, splitSlashes rest with
      | '/', parts => [] :: parts
      | _, first :: parts => (c :: first) :: parts
      | _, [] => [[c]]

def isAbsolute (text : String) : Bool := text.toList.head? = some '/'

/-- This function tells where a written path starts. Three slashes or more count as one. -/
def startOf (working : Path) (text : String) : Path :=
  match text.toList with
  | '/' :: '/' :: '/' :: _ => root
  | '/' :: '/' :: _ => doubleRoot
  | '/' :: _ => root
  | _ => working

/-- This function reads a written path. One that is not absolute starts at the working directory. -/
def ofText (working : Path) (text : String) : Path :=
  ((splitSlashes text.toList).map String.ofList).foldl follow (startOf working text)

/-- This function writes a path that is relative to a directory as it stands, behind the directory. -/
def join (directory : Path) (text : String) : String :=
  if isAbsolute text then text
  else if directory.isRoot then directory.toText ++ text
  else directory.toText ++ "/" ++ text

/-- This function finds the file of a name in a directory or in the nearest one above it. -/
def nearestFrom (isFile : Path → Bool) (name : String) : List String → Option Path
  | [] => if isFile (root.child name) then some (root.child name) else none
  | segment :: rest =>
      let directory : Path := ⟨segment :: rest⟩
      if isFile (directory.child name) then some (directory.child name)
      else if directory.isRoot then none
      else nearestFrom isFile name rest

def nearest (isFile : Path → Bool) (name : String) (start : Path) : Option Path :=
  nearestFrom isFile name start.segments

example : (ofText ⟨["b", "a"]⟩ "x/../../y/.").toText = "/a/y" ∧
    (ofText root "//x/../../y").toText = "//y" := by decide +kernel

end Path

end Tabular
