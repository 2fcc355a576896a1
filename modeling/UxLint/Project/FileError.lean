import UxLint.Text.Quoted

/-!
# Errors of files

Why a path cannot be used, and which of these reasons mean no more than that there is no file.
-/

set_option autoImplicit false

namespace UxLint

/-- Why something cannot be done with a path. -/
inductive FileError where
  | missing
  /-- There is something at the path already. -/
  | alreadyThere
  /-- The path leads through a file. -/
  | notDirectory
  /-- The path leads to a directory. -/
  | isDirectory
  /-- The path or one of the names in it is too long. -/
  | nameTooLong
  /-- Too many links follow one another on the way. -/
  | tooManyLinks
  /-- The path holds a null character, so that no file system is asked for it. -/
  | nullCharacter
  deriving DecidableEq, Repr

namespace FileError

/-- The name of the kind of error. -/
def kind : FileError → String
  | missing => "FileNotFoundError"
  | alreadyThere => "FileExistsError"
  | notDirectory => "NotADirectoryError"
  | isDirectory => "IsADirectoryError"
  | nameTooLong => "OSError"
  | tooManyLinks => "OSError"
  | nullCharacter => "ValueError"

/-- What an error says about a path. -/
def message (path : String) : FileError → String
  | missing => "[Errno 2] No such file or directory: " ++ quoted path
  | alreadyThere => "[Errno 17] File exists: " ++ quoted path
  | notDirectory => "[Errno 20] Not a directory: " ++ quoted path
  | isDirectory => "[Errno 21] Is a directory: " ++ quoted path
  | nameTooLong => "[Errno 36] File name too long: " ++ quoted path
  | tooManyLinks => "[Errno 40] Too many levels of symbolic links: " ++ quoted path
  | nullCharacter => "embedded null byte"

/-- Whether an error, met while a path is looked up, means that nothing is there. Of the errors that a
lookup can meet only a name that is too long means something else. -/
def isAbsence : FileError → Bool
  | nameTooLong => false
  | _ => true

/-- Whether an error comes from the file system, so that a reader may pass the file over. -/
def isOfFileSystem : FileError → Bool
  | nullCharacter => false
  | _ => true

end FileError

end UxLint
