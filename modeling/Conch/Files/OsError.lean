/-!
# Operating-system errors

The causes for which the operating system fails an operation, and their wording.
-/

namespace Conch.Files

/-- Why the operating system refuses an operation. -/
inductive OsError where
  | noEntry
  | inputOutput
  /-- There is no more of something for now, as of threads. -/
  | unavailable
  /-- The process may not do this. -/
  | denied
  | notDirectory
  | isDirectory
  | noSpace
  | nameTooLong
  | tooManyLinks
  /-- The path holds the null character, so it is no path at all. -/
  | nullInPath
  /-- A directory was to be read as a file. -/
  | directoryAsFile
  deriving DecidableEq, Repr, Inhabited

/-- The wording of an error. -/
def OsError.message : OsError → String
  | .noEntry => "No such file or directory (os error 2)"
  | .inputOutput => "Input/output error (os error 5)"
  | .unavailable => "Resource temporarily unavailable (os error 11)"
  | .denied => "Permission denied (os error 13)"
  | .notDirectory => "Not a directory (os error 20)"
  | .isDirectory => "Is a directory (os error 21)"
  | .noSpace => "No space left on device (os error 28)"
  | .nameTooLong => "File name too long (os error 36)"
  | .tooManyLinks => "Too many levels of symbolic links (os error 40)"
  | .nullInPath => "file name contained an unexpected NUL byte"
  | .directoryAsFile => "is a directory"

end Conch.Files
