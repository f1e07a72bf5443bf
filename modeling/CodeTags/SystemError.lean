/-!
# Errors of the operating system

The errors that opening a file, starting a program or writing to one can meet.
`SystemError.message` is their usual text, which ends with the number of the error.
-/

namespace CodeTags

/-- Why the operating system refused something. -/
inductive SystemError where
  | notFound
  | denied
  | notDirectory
  | brokenPipe
  | nameTooLong
deriving DecidableEq, Repr

/-- The text of the error. -/
def SystemError.message : SystemError → String
  | notFound => "No such file or directory (os error 2)"
  | denied => "Permission denied (os error 13)"
  | notDirectory => "Not a directory (os error 20)"
  | brokenPipe => "Broken pipe (os error 32)"
  | nameTooLong => "File name too long (os error 36)"

end CodeTags
