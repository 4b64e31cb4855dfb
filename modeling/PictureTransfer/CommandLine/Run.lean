import PictureTransfer.Camera.Report
import PictureTransfer.CommandLine.Arguments
import PictureTransfer.Config
import PictureTransfer.Relay.Camera

/-!
# Running a command

What a command does, up to the point where it would go to the network. `run` works on the text of
the configuration file and on the cameras of the host; it prints nothing and writes no file itself,
but says what is to be printed or written.
-/

namespace PictureTransfer.CommandLine

/-- What a command finds: the text of the configuration file, if it can be read, the devices of the
host, and the pipes of the camera among them. -/
structure Surroundings where
  configText : Option String := none
  host : Camera.Host := {}
  pipes : Camera.Pipes := { script := fun _ => .ok [] }

/-- Why the text of a relay's device is no address: it has no port, its port is no number of 16
bits, or its host has a zero character and so cannot be looked up. -/
inductive AddressFault where
  | noPort
  | badPort
  | zeroInHost
  deriving DecidableEq, Repr

def AddressFault.message : AddressFault → String
  | noPort => "invalid socket address"
  | badPort => "invalid port value"
  | zeroInHost => "file name contained an unexpected NUL byte"

/-- Why a command fails. -/
inductive Failure where
  | config (e : ConfigError)
  | camera (e : Camera.Error)
  | unresolved (device : String) (fault : AddressFault)
  deriving DecidableEq, Repr

namespace Failure

/-- The text of a failure with its causes, where this library fixes it. A bad container is named
once more as the cause of the camera's error. -/
def message? : Failure → Option String
  | config e => e.message?
  | camera (.badContainer cause) =>
    some ((Camera.Error.badContainer cause).message ++ ": " ++ cause.message)
  | camera e => some e.message
  | unresolved device fault => some ("resolving " ++ device ++ ": " ++ fault.message)

end Failure

/-- What is left to do after a command has been worked out. -/
inductive Outcome where
  | print (text : String)
  | save (path text : String)
  | network
  | fail (f : Failure)
  deriving DecidableEq, Repr

/-- The outcome of a command, and the pipes of the camera after it. -/
structure Report where
  outcome : Outcome
  pipes : Camera.Pipes

/-! ## The program as a process -/

/-- What the program prints for its version. -/
def versionText : String := "ptpcam-cli 0.1.0\n"

/-- What is printed in place of a run. -/
def Refusal.printed : Refusal → String
  | .version => versionText
  | _ => ""

/-- Help and version are given as asked for; all other refusals are faults of the words. -/
def Refusal.exitCode : Refusal → UInt32
  | .help | .version => 0
  | _ => 2

namespace Outcome

/-- What an outcome prints. -/
def printed : Outcome → String
  | print text => text
  | _ => ""

/-- A command that fails ends the program with one. -/
def exitCode : Outcome → UInt32
  | fail _ => 1
  | _ => 0

end Outcome

/-! ## Addresses of devices -/

/-- The texts in front of the last colon and behind it. -/
def splitLastColon? (text : List Char) : Option (List Char × List Char) :=
  let backwards := text.reverse
  match backwards.dropWhile (· ≠ ':') with
  | [] => none
  | _ :: front => some (front.reverse, (backwards.takeWhile (· ≠ ':')).reverse)

/-- Whether a text has the zero character, which no name of a host or a file has. -/
def hasZero (text : List Char) : Bool := text.contains '\x00'

/-- Whether a text is a port in decimal digits, behind a plus sign or not. -/
def isPort (text : List Char) : Bool :=
  match text with
  | '+' :: rest => (readDigits rest).isSome
  | rest => (readDigits rest).isSome

/-- The fault of a device's address. An address in digits has none; the name of a host needs a port
behind the last colon, which is looked at before the name. -/
def addressFault? (device : String) : Option AddressFault :=
  if (SocketAddress.read? device).isSome then none
  else match splitLastColon? device.toList with
    | none => some .noPort
    | some (host, port) =>
      if !isPort port then some .badPort
      else if hasZero host then some .zeroInHost
      else none

/-! ## Commands -/

/-- The configuration of a run: the one in the file that is named, or the defaults. -/
def configuration (path : Option String) (s : Surroundings) : Except ConfigError Config :=
  match path, s.configText with
  | none, _ => .ok {}
  | some _, none => .error .io
  | some path, some text => if hasZero path.toList then .error .io else Config.ofToml text

/-- A configuration with the settings that the command line gives. -/
def override (personality : Option Personality) (bind : Option String)
    (proxyPort : Option UInt16) (c : Config) : Config :=
  { c with
    personality := personality.getD c.personality
    usbip := { c.usbip with bind := bind.getD c.usbip.bind }
    proxy := { c.proxy with port := proxyPort.getD c.proxy.port } }

/-- The tunnel waits for its relay on the network before anything is exported; the other
personalities are exported at once. -/
def serve (c : Config) : Outcome :=
  match c.personality, c.bindAddress with
  | .rawProxy, _ => .network
  | .standard, .ok _ | .legacy, .ok _ => .network
  | .standard, .error e | .legacy, .error e => .fail (.config e)

/-- Goes to the device that a relay answers, if there is an address to go to. -/
def connect (device : String) : Outcome :=
  match addressFault? device with
  | some fault => .fail (.unresolved device fault)
  | none => .network

/-- A relay to a real camera makes sure of the camera before it looks at the address. -/
def relay (device : String) (camera : Bool) (vid pid : Option UInt16)
    (layout : Relay.ReplyLayout) (s : Surroundings) : Report :=
  if camera then
    match s.host.locate vid pid with
    | .error e => ⟨.fail (.camera e), s.pipes⟩
    | .ok _ => ⟨connect device, (Relay.CameraRelay.start layout s.pipes).port⟩
  else ⟨connect device, s.pipes⟩

/-- Reports on the first camera with the numbers that are asked for. -/
def probe (vid pid : Option UInt16) (s : Surroundings) : Report :=
  match s.host.locate vid pid with
  | .error e => ⟨.fail (.camera e), s.pipes⟩
  | .ok found =>
    match (Camera.Port.deviceInfo : Camera.Use Camera.Pipes DeviceInfo) s.pipes with
    | .ok info pipes => ⟨.print (Camera.Report.text found info), pipes⟩
    | .error e pipes => ⟨.fail (.camera e), pipes⟩

/-- Prints the configuration or saves it. -/
def configTemplate (output : Option String) (c : Config) : Outcome :=
  match c.toToml, output with
  | .error e, _ => .fail (.config e)
  | .ok text, none => .print text
  | .ok text, some path => if hasZero path.toList then .fail (.config .io) else .save path text

/-- Runs a command. The configuration is loaded whatever the command is. -/
def run (i : Invocation) (s : Surroundings) : Report :=
  match configuration i.config s with
  | .error e => ⟨.fail (.config e), s.pipes⟩
  | .ok c =>
    match i.command with
    | .serve personality bind proxyPort =>
      ⟨serve (override personality bind proxyPort c), s.pipes⟩
    | .relay device camera vid pid layout => relay device camera vid pid layout s
    | .probe vid pid => probe vid pid s
    | .configTemplate output => ⟨configTemplate output c, s.pipes⟩

end PictureTransfer.CommandLine
