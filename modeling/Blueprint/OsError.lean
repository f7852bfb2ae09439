/-!
# Errors of the operating system

Why reading or writing a file failed, as far as the program tells it: a text, and the system's
number for the error if it comes from the system.
-/

namespace Blueprint

/-- Why reading or writing a file failed. -/
inductive OsError where
  /-- A part of the path does not exist. -/
  | notFound
  /-- Something is there already. -/
  | alreadyExists
  /-- A part of the path is no directory. -/
  | notADirectory
  /-- A directory stands where a file is wanted. -/
  | isADirectory
  /-- A part of the path, or the whole, is too long. -/
  | nameTooLong
  /-- The path holds the character NUL. -/
  | nulInName
  /-- The content is not UTF-8. -/
  | notUtf8
  /-- Any other error, in the system's words. -/
  | other (text : String) (number : Option Nat)
  deriving DecidableEq, Repr

namespace OsError

/-- The text of an error. -/
def text : OsError → String
  | notFound => "No such file or directory"
  | alreadyExists => "File exists"
  | notADirectory => "Not a directory"
  | isADirectory => "Is a directory"
  | nameTooLong => "File name too long"
  | nulInName => "file name contained an unexpected NUL byte"
  | notUtf8 => "stream did not contain valid UTF-8"
  | other text _ => text

/-- The system's number for an error. -/
def number? : OsError → Option Nat
  | notFound => some 2
  | alreadyExists => some 17
  | notADirectory => some 20
  | isADirectory => some 21
  | nameTooLong => some 36
  | nulInName | notUtf8 => none
  | other _ number => number

/-- An error in words. -/
def message (e : OsError) : String :=
  match e.number? with
  | some n => e.text ++ " (os error " ++ toString n ++ ")"
  | none => e.text

end OsError

end Blueprint
