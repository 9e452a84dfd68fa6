/-! # Failures of file operations

  The causes for which an operation on the file tree can fail, with the text
  under which each is reported.
-/

namespace StructFill.Files

/-- Why a file operation failed. -/
inductive Failure where
  /-- A component of the path does not exist. -/
  | notFound
  /-- A component that is not the last one is no directory. -/
  | notDirectory
  /-- A file was wanted, and the path leads to a directory. -/
  | isDirectory
  /-- The entry that was to be made exists. -/
  | exists
  /-- The file's bytes are not a text. -/
  | notText
  /-- The file is meant to be run, and no program can run it. -/
  | notProgram
deriving DecidableEq

/-- The report of a failure. -/
def Failure.message : Failure → String
  | .notFound => "No such file or directory (os error 2)"
  | .notDirectory => "Not a directory (os error 20)"
  | .isDirectory => "Is a directory (os error 21)"
  | .exists => "File exists (os error 17)"
  | .notText => "stream did not contain valid UTF-8"
  | .notProgram => "Exec format error (os error 8)"

end StructFill.Files
