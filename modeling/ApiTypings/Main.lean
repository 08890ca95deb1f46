import ApiTypings.CommandLine.Run

/-! # The program -/

namespace ApiTypings.CommandLine

/-- What an error of the system says about a file. -/
def FileError.ofSystem : IO.Error → FileError
  | .noFileOrDirectory .. => .notFound
  | .permissionDenied .. => .permissionDenied
  | .inappropriateType _ code _ => if code = 20 then .notDirectory else .isDirectory
  | .invalidArgument _ 36 _ => .nameTooLong
  | e => .other (toString e)

/-- The files of the system as a disk. -/
def systemDisk : Disk IO where
  read path := do
    try
      match String.fromUTF8? (← IO.FS.readBinFile path) with
      | some text => return .ok text
      | none => return .error .notText
    catch e => return .error (.ofSystem e)
  write path text := do
    try
      IO.FS.writeFile path text
      return .ok ()
    catch e => return .error (.ofSystem e)

end ApiTypings.CommandLine

/-- Runs the program on the files of the system. -/
def main (arguments : List String) : IO UInt32 := do
  let report ← ApiTypings.CommandLine.run ApiTypings.CommandLine.systemDisk arguments
  for message in report.stderr do
    IO.eprintln message
  IO.print report.stdout
  return report.exitCode.toUInt32
