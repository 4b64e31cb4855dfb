import PictureTransfer.CommandLine.HexNumber
import PictureTransfer.CommandLine.Options
import PictureTransfer.Personality
import PictureTransfer.Relay.Translator

/-!
# Commands

The four commands of the program and their options. `Invocation.parse` reads the words behind the
program's name. The options that all commands share may stand before a command or behind it.
-/

namespace PictureTransfer.CommandLine

/-- What the program is to do. -/
inductive Command where
  | serve (personality : Option Personality) (bind : Option String) (proxyPort : Option UInt16)
  | relay (device : String) (camera : Bool) (vid pid : Option UInt16)
      (replyLayout : Relay.ReplyLayout)
  | probe (vid pid : Option UInt16)
  | configTemplate (output : Option String)
  deriving DecidableEq, Repr

/-- What an option sets. -/
inductive Setting where
  | verbose
  | config (path : String)
  | personality (p : Personality)
  | bind (text : String)
  | proxyPort (n : UInt16)
  | device (text : String)
  | camera
  | vid (n : UInt16)
  | pid (n : UInt16)
  | replyLayout (l : Relay.ReplyLayout)
  | output (path : String)
  deriving DecidableEq, Repr

/-! ## Values -/

/-- A path is any text but the empty one. -/
def readPath (text : String) : Except Refusal String :=
  if text.isEmpty then .error .missingValue else .ok text

/-- Any fault of a value is a bad value. -/
def orBadValue {ε α : Type} : Except ε α → Except Refusal α
  | .ok a => .ok a
  | .error _ => .error .badValue

/-- Decimal digits of a number of 16 bits. -/
def readDigits (text : List Char) : Option Nat :=
  let n := Text.Numeral.value 10 text
  if !text.isEmpty && text.all (Text.Numeral.isDigit 10) && n < UInt16.size then some n else none

/-- A port in decimal digits with an optional sign; a negative one can only be zero. -/
def readPort (text : String) : Except Refusal UInt16 :=
  let port := match text.toList with
    | '+' :: rest => readDigits rest
    | '-' :: rest => (readDigits rest).filter (· = 0)
    | rest => readDigits rest
  match port with
  | some n => .ok (UInt16.ofNat n)
  | none => .error .badValue

def readHex (text : String) : Except Refusal UInt16 := orBadValue (HexNumber.read text)

/-! ## Options -/

/-- The options of every command. -/
def sharedOptions : List (OptionRule Setting) :=
  [⟨"verbose", some 'v', .set .verbose⟩,
   ⟨"config", none, .read fun text => .config <$> readPath text⟩,
   ⟨"help", some 'h', .stop .help⟩]

def vidOption : OptionRule Setting := ⟨"vid", none, .read fun text => .vid <$> readHex text⟩

def pidOption : OptionRule Setting := ⟨"pid", none, .read fun text => .pid <$> readHex text⟩

def serveOptions : List (OptionRule Setting) :=
  [⟨"personality", none,
      .read fun text => .personality <$> orBadValue (Personality.ofRequest text)⟩,
   ⟨"bind", none, .read fun text => .ok (.bind text)⟩,
   ⟨"proxy-port", none, .read fun text => .proxyPort <$> readPort text⟩]

def relayOptions : List (OptionRule Setting) :=
  [⟨"device", none, .read fun text => .ok (.device text)⟩,
   ⟨"camera", none, .set .camera⟩,
   vidOption,
   pidOption,
   ⟨"reply-layout", none,
     .read fun text => .replyLayout <$> orBadValue (Relay.ReplyLayout.ofName? text)⟩]

def templateOptions : List (OptionRule Setting) :=
  [⟨"output", some 'o', .read fun text => .output <$> readPath text⟩]

/-! ## From settings to a command -/

/-- Settings by kind: the value of the first one that a function picks. -/
abbrev Settings := List Setting

namespace Settings

def pick? {α : Type} (f : Setting → Option α) (s : Settings) : Option α := s.findSome? f

def vid? (s : Settings) : Option UInt16 :=
  s.pick? fun | .vid n => some n | _ => none

def pid? (s : Settings) : Option UInt16 :=
  s.pick? fun | .pid n => some n | _ => none

def config? (s : Settings) : Option String :=
  s.pick? fun | .config path => some path | _ => none

end Settings

def serveOf (s : Settings) : Except Refusal Command :=
  .ok (.serve
    (s.pick? fun | .personality p => some p | _ => none)
    (s.pick? fun | .bind text => some text | _ => none)
    (s.pick? fun | .proxyPort n => some n | _ => none))

/-- A relay needs the address of its device. -/
def relayOf (s : Settings) : Except Refusal Command :=
  match s.pick? fun | .device text => some text | _ => none with
  | none => .error .missingArgument
  | some device =>
    .ok (.relay device (s.contains .camera) s.vid? s.pid?
      ((s.pick? fun | .replyLayout l => some l | _ => none).getD .standard))

def probeOf (s : Settings) : Except Refusal Command := .ok (.probe s.vid? s.pid?)

def templateOf (s : Settings) : Except Refusal Command :=
  .ok (.configTemplate (s.pick? fun | .output path => some path | _ => none))

/-- The commands by name, with their own options and what settings make of them. -/
def commands : List (String × List (OptionRule Setting) × (Settings → Except Refusal Command)) :=
  [("serve", serveOptions, serveOf),
   ("relay", relayOptions, relayOf),
   ("probe", [vidOption, pidOption], probeOf),
   ("config-template", templateOptions, templateOf)]

/-- The name of the command that explains the others. -/
def helpName : String := "help"

/-- The words before a command. -/
def mainForm : Form Setting where
  options := sharedOptions ++ [⟨"version", some 'V', .stop .version⟩]
  subcommands := commands.map (·.1) ++ [helpName]

/-- What the command of help gives for the words behind it: at most the name of one command. -/
def helpRefusal : List String → Refusal
  | [] => .help
  | [name] => if mainForm.subcommands.contains name then .help else .unknownSubcommand
  | _ => .unknownSubcommand

/-! ## The whole command line -/

/-- The settings of options that all took effect. -/
def Given.finish (g : Given Setting) : Except Refusal Settings :=
  g.settle.map fun settled => settled.settings.map (·.2)

/-- A command, and the options that all commands share. -/
structure Invocation where
  verbose : Bool
  config : Option String
  command : Command
  deriving DecidableEq, Repr

namespace Invocation

/-- Reads the words behind the name of a command: its settings and the command they make. -/
def parseCommand (name : String) (words : List String) : Except Refusal (Settings × Command) :=
  match commands.find? (·.1 = name) with
  | none => .error (helpRefusal words)
  | some (_, options, make) => do
    let form : Form Setting := { options := options ++ sharedOptions }
    let settings ← (← form.scan words {}).given.finish
    let command ← make settings
    pure (settings, command)

/-- Reads the words behind the program's name. A fault behind the command comes before a fault that
was left open in front of it, and a shared option counts most where it stands last. -/
def parse (words : List String) : Except Refusal Invocation := do
  let scanned ← mainForm.scan words {}
  match scanned.subcommand with
  | none =>
    let settings ← scanned.given.finish
    throw (if settings.isEmpty then .nothingGiven else .missingSubcommand)
  | some (name, rest) =>
    let (inner, command) ← parseCommand name rest
    -- Only now does a last option in front of the command take effect.
    let outer ← scanned.given.finish
    pure
      { verbose := outer.contains .verbose || inner.contains .verbose
        config := inner.config? <|> outer.config?
        command }

end Invocation

end PictureTransfer.CommandLine
