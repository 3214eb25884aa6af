import Scss.Text.Basic

/-!
# Failures of a file system

What can go wrong when a file is read or written or a folder is made, and how it is told.

* `Failure`: the causes.
* `Failure.text`: the text of each.
-/

namespace Scss

/-- Why a file system refused an operation. -/
inductive Failure where
  /-- There is no entry at the path. -/
  | missing
  /-- The path names a folder where a file is needed. -/
  | isFolder
  /-- The path leads through a file. -/
  | notFolder
  /-- There is an entry at the path already. -/
  | occupied
  /-- The contents are not text in UTF-8. -/
  | notText
  /-- A name in the path, or the path itself, is longer than the system allows. -/
  | nameTooLong
  /-- The path holds a NUL, which ends paths for the system. -/
  | nulInPath
  /-- A collection of files has none under this name. -/
  | unknown (path : Text)
  /-- Any other cause, in the words of the system. -/
  | other (text : String)
deriving DecidableEq

/-- How a failure is told. -/
def Failure.text : Failure → String
  | missing => "No such file or directory (os error 2)"
  | isFolder => "Is a directory (os error 21)"
  | notFolder => "Not a directory (os error 20)"
  | occupied => "File exists (os error 17)"
  | notText => "stream did not contain valid UTF-8"
  | nameTooLong => "File name too long (os error 36)"
  | nulInPath => "file name contained an unexpected NUL byte"
  | unknown path => "Could not find file '" ++ path.str ++ "'"
  | other text => text

end Scss
