/-!
# Errors that stop a build

Whatever can be left out is recorded and left out. These are the causes that cannot: a
specification that cannot be read or makes no sense, and an archive that cannot be written.
-/

namespace SpecBundle

/-- Why the operating system refuses something. -/
inductive IoError where
  /-- There is nothing of that name. -/
  | notFound
  /-- A file stands where a directory is needed. -/
  | notADirectory
  /-- A directory stands where a file is needed. -/
  | isADirectory
  /-- A directory is not empty. -/
  | directoryNotEmpty
  /-- The name is taken. -/
  | alreadyExists
  /-- The name is too long. -/
  | nameTooLong
  /-- The name cannot be the name of a file. -/
  | invalidName
  /-- It is not allowed. -/
  | permissionDenied
  /-- It makes no sense. -/
  | invalidArgument
  /-- The file is no program. -/
  | notAProgram
  /-- A text for a program holds the character that ends such texts. -/
  | unexpectedNul
  /-- The content is not text. -/
  | invalidData
  deriving DecidableEq, Repr

/-- The cause as the operating system words it. -/
def IoError.message : IoError → String
  | .notFound => "No such file or directory (os error 2)"
  | .notADirectory => "Not a directory (os error 20)"
  | .isADirectory => "Is a directory (os error 21)"
  | .directoryNotEmpty => "Directory not empty (os error 39)"
  | .alreadyExists => "File exists (os error 17)"
  | .nameTooLong => "File name too long (os error 36)"
  | .invalidName => "file name contained an unexpected NUL byte"
  | .permissionDenied => "Permission denied (os error 13)"
  | .invalidArgument => "Invalid argument (os error 22)"
  | .notAProgram => "Exec format error (os error 8)"
  | .unexpectedNul => "nul byte found in provided data"
  | .invalidData => "File contains invalid UTF-8"

/-- Why a build stops. -/
inductive BuildError where
  /-- A specification file cannot be read. -/
  | unreadableSpec (path : String) (cause : IoError)
  /-- A specification file is not JSON or does not have the shape that is expected. What a reader of
  the file says about it, which a program prints as the cause of this error, is left out. -/
  | malformedSpec (path : String)
  /-- The specifications make no sense as a whole. -/
  | invalidSpec (message : String)
  /-- A table has no column of the name that it declares as primary. -/
  | primaryColumnNotFound (table column : String)
  /-- Something on the way to the archive cannot be written. -/
  | unwritable (path : String) (cause : IoError)
  deriving DecidableEq, Repr

/-- The error in words. -/
def BuildError.message : BuildError → String
  | .unreadableSpec path _ => "Failed to read spec file: " ++ path
  | .malformedSpec path => "Failed to parse spec file: " ++ path
  | .invalidSpec message => "Invalid spec: " ++ message
  | .primaryColumnNotFound table column => "Primary column " ++ column ++ " not found in " ++ table
  | .unwritable path _ => "Failed to write solution package to " ++ path

/-- What the operating system says about it, if it was asked. It is printed as the cause of the
error, and the error of a malformed file is printed without one. -/
def BuildError.cause? : BuildError → Option IoError
  | .unreadableSpec _ cause => some cause
  | .unwritable _ cause => some cause
  | _ => none

end SpecBundle
