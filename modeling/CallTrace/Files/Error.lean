/-!
# Why a file cannot be used
-/

namespace CallTrace

inductive FileError
  | notFound
  | isADirectory
  | notADirectory
  | notText
  | nulInPath
  | nameTooLong
deriving DecidableEq, Repr

def FileError.message : FileError → String
  | .notFound => "No such file or directory (os error 2)"
  | .isADirectory => "Is a directory (os error 21)"
  | .notADirectory => "Not a directory (os error 20)"
  | .notText => "stream did not contain valid UTF-8"
  | .nulInPath => "file name contained an unexpected NUL byte"
  | .nameTooLong => "File name too long (os error 36)"

end CallTrace
