import SpokenEditor.Terminal

/-!
# The program

Runs the terminal on the files and the standard streams of the machine.
-/

namespace SpokenEditor.Machine

/-- What a file of the machine holds. -/
def readFile (path : Text) : IO Contents := do
  try return .file (← IO.FS.readBinFile (String.ofList path)).toList
  catch _ => return .unreadable

/-- What is found under a path of the machine. -/
def readContents (path : Text) : IO Contents := do
  match ← (IO.FS.Handle.mk (String.ofList path) .read).toBaseIO with
  | .ok _ => readFile path
  | .error (.permissionDenied ..) => return .unreadable
  | .error _ => return .missing

/-- Whether the action succeeds. -/
def succeeds (action : IO Unit) : IO Bool := do
  try
    action
    return true
  catch _ => return false

instance : FileStore IO where
  contents := readContents
  write path bytes := succeeds <|
    IO.FS.writeBinFile (String.ofList path) bytes.toByteArray
  makeDirectory path := succeeds <|
    unless path.isEmpty do IO.FS.createDirAll (String.ofList path)
  append path bytes := succeeds do
    let file ← IO.FS.Handle.mk (String.ofList path) .append
    file.write bytes.toByteArray

/-- Print lines. -/
def printLines (lines : List Text) : IO Unit :=
  lines.forM fun l => IO.println (String.ofList l)

/-- Print lines as errors. -/
def printErrors (lines : List Text) : IO Unit :=
  lines.forM fun l => IO.eprintln (String.ofList l)

/-- The bytes of the input up to the next line feed; `read` holds those read so far, last first. -/
partial def readLine (input : IO.FS.Stream) (read : List UInt8) : IO (List UInt8) := do
  match (← input.read 1).toList with
  | [] => return read.reverse
  | b :: _ => if b = 10 then return (b :: read).reverse else readLine input (b :: read)

/-- Handle the lines of the input until it ends or is no text, or the listener has ended. -/
partial def listen (input : IO.FS.Stream) (h : Terminal.Host) : IO Terminal.Host := do
  if h.phase.hasEnded then return h
  match Text.textLines (← readLine input []) with
  | [] => return h
  | transcripts =>
    let next := transcripts.foldl Terminal.say h
    if next.session.engine.mode != h.session.engine.mode then
      printLines [Terminal.modeLine next]
    listen input next

/-- Run the program; its exit status. -/
def run : IO UInt32 := do
  let (printed, settings) ← Terminal.prepare ((← IO.getEnv "HOME").map String.toList)
  printLines printed
  match settings with
  | .error e =>
    printErrors [Terminal.errorLine e]
    return 1
  | .ok s =>
    let h := Terminal.start s
    printLines [Terminal.modeLine h]
    let h ← listen (← IO.getStdin) h
    match Terminal.closing h with
    | .error lines =>
      printErrors lines
      return 1
    | .ok lines =>
      printLines lines
      return 0

end SpokenEditor.Machine

def main : IO UInt32 :=
  SpokenEditor.Machine.run
