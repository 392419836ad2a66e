/-
# Folders

A folder and all that lies in it, as the texts of its files under their paths from it. A path
is walked part by part: every part but the last has to name a folder that is there, or to stay
(`.`), or to go back (`..`), which does not lead out of the folder. The last part names a file.
-/

import Rollout.Path

namespace Rollout

/-- The texts of files by path; none where a file cannot be read. -/
abbrev Files := String → Option String

/-- Files under the parts of their paths. -/
structure Folder where
  files : List (List String × String)

namespace Folder

/-- The folder of files given by path. -/
def ofFiles (files : List (String × String)) : Folder where
  files := files.map fun f => ((Path.parts f.1).filter fun p => !Path.isVoid p, f.2)

/-- Whether there is a folder at a place. -/
def hasFolder (d : Folder) (place : List String) : Bool :=
  d.files.any fun f => place.isPrefixOf f.1 && place ≠ f.1

/-- Walks the parts of a path from a place to a file. -/
def walk (d : Folder) : List String → List String → Option (List String)
  | _, [] => none
  | place, [name] => if Path.isVoid name || name = ".." then none else some (place ++ [name])
  | place, part :: next :: r =>
    if Path.isVoid part then d.walk place (next :: r)
    else if part = ".." then
      if place.isEmpty then none else d.walk place.dropLast (next :: r)
    else if d.hasFolder (place ++ [part]) then d.walk (place ++ [part]) (next :: r)
    else none

/-- The text of the file at a path. -/
def read? (d : Folder) : Files := fun p =>
  if Path.isAbsolute p then none else do d.files.lookup (← d.walk [] (Path.parts p))

end Folder
end Rollout
