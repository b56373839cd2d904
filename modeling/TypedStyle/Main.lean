import Std.Time.Format
import TypedStyle.Tool.Console
/-!
# The program

The first argument names a tool, the others are its command line.  Scripts are performed on the
files of the system that the program runs on.
-/

namespace TypedStyle

/-- The fault that an error of the system is, if it is one that scripts know. -/
def FileFault.ofSystem? : IO.Error → Option FileFault
  | .noFileOrDirectory .. => some .notFound
  | .alreadyExists .. => some .exists
  | .inappropriateType _ code _ => some (if code = 21 then .isFolder else .notFolder)
  | .invalidArgument _ code _ => if code = 36 then some .nameTooLong else none
  | .permissionDenied _ code _ => if code = 13 then some .denied else none
  | .resourceExhausted _ code _ => if code = 28 then some .noSpace else none
  | _ => none

/-- The answer of the system to a request about a path. -/
def answered {α : Type} (path : Path) (request : String → IO α) : IO (Except FileFault α) := do
  if List.contains path '\x00' then return .error .nullInPath
  match ← (request (String.ofList path)).toBaseIO with
  | .ok answer => pure (.ok answer)
  | .error failure =>
    match FileFault.ofSystem? failure with
    | some fault => pure (.error fault)
    | none => throw failure

/-- What stands where a path leads: a folder is what cannot be read for being one. -/
def inspected (path : Path) : IO (Except FileFault FileKind) := do
  match ← answered path fun name => IO.FS.readBinFile name with
  | .ok _ => pure (.ok .file)
  | .error .isFolder => pure (.ok .folder)
  | .error fault => pure (.error fault)

/-- The time that the clock shows. -/
def currentTime : IO Text := do
  pure (Text.ofString ((← Std.Time.DateTime.now).format "uuuu-MM-dd'T'HH:mm:ssXXX"))

/-- Performs a script on the files of the system. -/
def Script.perform {α : Type} : Script α → IO α
  | .done result => pure result
  | .inspect path next => do (next (← inspected path)).perform
  | .read path next => do (next (← answered path fun name => IO.FS.readBinFile name)).perform
  | .write path content next => do
    (next (← answered path fun name => IO.FS.writeBinFile name content)).perform
  | .makeFolder path next => do (next (← answered path fun name => IO.FS.createDir name)).perform
  | .timestamp next => do (next (← currentTime)).perform

end TypedStyle

open TypedStyle

/-- Runs the tool that the first argument names. -/
def main (args : List String) : IO UInt32 := do
  let args := args.map Text.ofString
  match args.head?.bind Tool.ofName? with
  | none =>
    IO.eprintln "error: the first argument is cssgen or mdnvalidate"
    pure 2
  | some tool =>
    let outcome ← (tool.run "not well-formed" args).perform
    IO.print (String.ofList outcome.output)
    IO.eprint (String.ofList outcome.error)
    pure (UInt32.ofNat outcome.code)
