import PictureTransfer.CommandLine.Run

/-!
# The program

Reads the words of the command line and the configuration file, and carries out what the command
comes to. Cameras and the network are not reached from here: no device is ever found, and a command
that would go on over the network ends with a message.
-/

namespace PictureTransfer.CommandLine

/-- The text of the configuration file, if one is named and can be read. -/
def readConfig (path : Option String) : IO (Option String) := do
  match path with
  | none => pure none
  | some path =>
    try
      let text ← IO.FS.readFile path
      pure (some text)
    catch _ => pure none

/-- Carries out what a command comes to, and says with which code the program ends. -/
def conclude (outcome : Outcome) : IO UInt32 := do
  IO.print outcome.printed
  match outcome with
  | .save path text =>
    try
      IO.FS.writeFile path text
      pure outcome.exitCode
    catch _ =>
      IO.eprintln "Error: the file cannot be written"
      pure (Outcome.fail (.config .io)).exitCode
  | .network =>
    IO.eprintln "Error: no network"
    pure 1
  | .fail f =>
    IO.eprintln ("Error: " ++ f.message?.getD "the configuration cannot be used")
    pure outcome.exitCode
  | .print _ => pure outcome.exitCode

end PictureTransfer.CommandLine

open PictureTransfer CommandLine

def main (words : List String) : IO UInt32 := do
  match Invocation.parse words with
  | .error refusal =>
    IO.print refusal.printed
    pure refusal.exitCode
  | .ok invocation =>
    let configText ← readConfig invocation.config
    conclude (run invocation { configText }).outcome
