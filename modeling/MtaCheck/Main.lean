import MtaCheck.CommandLine.Run

/-!
# The program

The program takes its arguments and the environment, looks at the disk, and writes
what the run of the command line leaves.  A run asks for one file and for the
directories of the modules in it; these answers are collected first.
-/

namespace MtaCheck

/-- A number of the system for an error, whichever sign it has. -/
def unsigned (code : UInt32) : Nat := min code.toNat (0 - code).toNat

/-- What the system says when a file cannot be read. -/
def FileError.ofSystem (error : IO.Error) : FileError :=
  match error with
  | .noFileOrDirectory _ _ _ => .notFound
  | .inappropriateType _ code _ | .invalidArgument _ code _ =>
      match unsigned code with
      | 20 => .notDirectory
      | 21 => .isDirectory
      | 36 => .nameTooLong
      | 40 => .tooManyLinks
      | _ => .other (toString error)
  | error => .other (toString error)

/-- The content of a file on the disk. -/
def contentOf (path : Path) : IO (Except FileError (List UInt8)) :=
  match path.fault? with
  | some error => return .error error
  | none => do
      try
        let content ← IO.FS.readBinFile path.text
        return .ok content.toList
      catch error => return .error (FileError.ofSystem error)

/-- Whether a path leads to a directory on the disk: the system refuses to read from
one, and says why. -/
def isDirectoryOnDisk (path : Path) : IO Bool :=
  if path.fault?.isSome then return false
  else do
    try
      let handle ← IO.FS.Handle.mk path.text .read
      let _ ← handle.read 1
      return false
    catch error => return FileError.ofSystem error == .isDirectory

/-- The answers of the disk that a run of the arguments asks for. -/
def answersOf (arguments : CommandLine.Arguments) : IO Disk := do
  let content ← contentOf arguments.file
  let asked := match content with
    | .ok octets => arguments.directories octets
    | .error _ => []
  let found ← asked.filterM isDirectoryOnDisk
  return { read := fun _ => content, isDirectory := fun path => found.contains path }

/-- The environment variables that the program obeys. -/
def currentEnvironment : IO CommandLine.Environment := do
  return ⟨← IO.getEnv "MBT_SOURCE", ← IO.getEnv "MBT_VALIDATION_MODE"⟩

end MtaCheck

/-- Runs the command line of the program. -/
def main (words : List String) : IO UInt32 := do
  let environment ← MtaCheck.currentEnvironment
  let outcome ←
    match MtaCheck.CommandLine.Arguments.parse words environment with
    | .error stop => pure stop.outcome
    | .ok arguments => do
        let disk ← MtaCheck.answersOf arguments
        pure (arguments.run disk)
  (← IO.getStdout).putStr outcome.output
  (← IO.getStderr).putStr outcome.errors
  return outcome.code.toUInt32
