import OpeningTimes.Command.Run

/-!
The command `ohfmt`: it reads rules as JSON from the standard input or a file, and writes them, or
groups of them, as opening-times text.
-/

namespace OpeningTimes.Command

def FileError.ofIO : IO.Error → FileError
  | .noFileOrDirectory .. => .notFound
  | .inappropriateType .. => .isDirectory
  | error => .other (toString error)

partial def readAll (stream : IO.FS.Stream) (bytes : ByteArray) : IO ByteArray := do
  let more ← stream.read 65536
  if more.isEmpty then pure bytes else readAll stream (bytes ++ more)

def machine : Host IO where
  readInput := do readAll (← IO.getStdin) ByteArray.empty
  readFile path := do
    match ← (IO.FS.readBinFile path).toBaseIO with
    | .ok content => pure (.ok content)
    | .error error => pure (.error (.ofIO error))
  writeFile path content := do
    match ← (IO.FS.writeBinFile path content).toBaseIO with
    | .ok () => pure (.ok ())
    | .error error => pure (.error (.ofIO error))

end OpeningTimes.Command

def main (arguments : List String) : IO UInt32 := do
  let setting ← IO.getEnv "OHFMT_LOG"
  let outcome ← OpeningTimes.Command.run OpeningTimes.Command.machine setting arguments
  (← IO.getStdout).putStr outcome.stdout
  (← IO.getStderr).putStr outcome.stderr
  pure (UInt32.ofNat outcome.status)
