import RegexInsight.CommandLine

/-! The program: files, the environment and the exit status. -/
namespace RegexInsight

def FileError.ofSystem (e : IO.Error) : FileError :=
  match e with
  | .noFileOrDirectory .. => .notFound
  | .alreadyExists .. => .alreadyExists
  | .inappropriateType _ code _ => if code.toNat = 20 then .notDirectory else .isDirectory
  | .permissionDenied _ code _ =>
    .system code.toNat (if code.toNat = 1 then "Operation not permitted" else "Permission denied")
  | e => .system 5 (toString e)

def machineFiles : FileAccess IO where
  read path := do
    match ← (IO.FS.readBinFile path).toBaseIO with
    | .error e => return .error (FileError.ofSystem e)
    | .ok bytes => return fileText bytes
  write path text := do
    match ← (IO.FS.writeFile path text).toBaseIO with
    | .error e => return .error (FileError.ofSystem e)
    | .ok () => return .ok ()
  isPresent path := do
    match ← (IO.FS.realPath path).toBaseIO with
    | .error _ => return false
    | .ok _ => return true

def machineStopwatch (run : Unit → Except RunError Bool) : IO Nat := do
  let start ← IO.monoNanosNow
  let _ ← IO.lazyPure run
  return (← IO.monoNanosNow) - start

end RegexInsight

open RegexInsight in
def main (words : List String) : IO UInt32 := do
  let color := CommandLine.wantsColor (← IO.getEnv "CLICOLOR") (← IO.getEnv "NO_COLOR")
    (← IO.getEnv "CLICOLOR_FORCE") (← (← IO.getStdout).isTty)
  let directory := (← IO.currentDir).toString
  let completion ← CommandLine.run machineFiles machineStopwatch directory color words
  IO.print completion.output
  IO.eprint completion.errors
  return UInt32.ofNat completion.status
