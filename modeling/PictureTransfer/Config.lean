import PictureTransfer.Identity
import PictureTransfer.Personality
import PictureTransfer.SocketAddress
import PictureTransfer.Toml.Reader
import PictureTransfer.Toml.Writer

/-!
# Configuration

What a run of the emulated device is configured with, kept as a TOML document. `Config.ofToml`
takes a document in which any setting may be missing, and `Config.toToml` writes them all.
-/

namespace PictureTransfer

/-- Settings of the tunnel to a relay. -/
structure ProxySettings where
  port : UInt16 := 1235
  frameTimeout : UInt64 := 1500
  frameBudget : UInt64 := 8
  deriving DecidableEq, Repr

/-- Settings of the USB/IP export. -/
structure ExportSettings where
  bind : String := "0.0.0.0:3240"
  busId : String := "1-1"
  deriving DecidableEq, Repr

/-- All settings of a run. -/
structure Config where
  personality : Personality := .legacy
  usb : Identity := {}
  proxy : ProxySettings := {}
  usbip : ExportSettings := {}
  deriving DecidableEq, Repr

/-- Why there is no configuration, or no address in it. -/
inductive ConfigError where
  | io
  | parse
  | serialize
  | badAddress (text : String)
  deriving DecidableEq, Repr

namespace ConfigError

/-- The part of a message that says what is wrong with the text of an address. -/
def addressFault : String := "invalid socket address syntax"

/-- The text of an error, where this library fixes it. -/
def message? : ConfigError → Option String
  | badAddress text => some ("Invalid address '" ++ text ++ "': " ++ addressFault)
  | io | parse | serialize => none

end ConfigError

/-! ## Settings in a document -/

/-- The settings of a section: under their names or at their places. -/
inductive Section where
  | named (entries : Toml.Entries)
  | placed (items : List Toml.Value)

namespace Section

/-- A table gives settings by name and an array by place. A moment counts as a table without
settings. -/
def ofValue? : Toml.Value → Option Section
  | .table _ entries => some (named entries)
  | .array items => some (placed items)
  | .tables items => some (placed (items.map (.table .header ·)))
  | .moment => some (named [])
  | .text _ | .integer _ | .float | .boolean => none

/-- The value of a setting, by its place or its name. -/
def value? (place : Nat) (name : String) : Section → Option Toml.Value
  | named entries => entries.get? name
  | placed items => items[place]?

/-- A setting, or its default if it is missing. -/
def setting {α : Type} (decode : Toml.Value → Option α) (place : Nat) (name : String)
    (default : α) (s : Section) : Option α :=
  match s.value? place name with
  | none => some default
  | some v => decode v

end Section

namespace Config

def text? : Toml.Value → Option String
  | .text s => some s
  | _ => none

/-- An integer from zero up to a bound. -/
def natBelow? (bound : Nat) : Toml.Value → Option Nat
  | .integer n => if 0 ≤ n ∧ n < bound then some n.toNat else none
  | _ => none

def word16? (v : Toml.Value) : Option UInt16 := (natBelow? UInt16.size v).map UInt16.ofNat

def word64? (v : Toml.Value) : Option UInt64 := (natBelow? UInt64.size v).map UInt64.ofNat

/-- Whether a value is an empty table or array. -/
def isEmpty : Toml.Value → Bool
  | .table _ entries => entries.isEmpty
  | .array items => items.isEmpty
  | .tables items => items.isEmpty
  | _ => false

/-- A personality is its name, or a table with its name as the one key and nothing under it. -/
def personality? : Toml.Value → Option Personality
  | .text name => Personality.ofName? name
  | .table _ [(name, v)] => if isEmpty v then Personality.ofName? name else none
  | _ => none

def identity? (v : Toml.Value) : Option Identity := do
  let s ← Section.ofValue? v
  let default : Identity := {}
  let vid ← s.setting word16? 0 "vid" default.vid
  let pid ← s.setting word16? 1 "pid" default.pid
  let bcdDevice ← s.setting word16? 2 "bcd_device" default.bcdDevice
  let manufacturer ← s.setting text? 3 "manufacturer" default.manufacturer
  let product ← s.setting text? 4 "product" default.product
  let serial ← s.setting text? 5 "serial" default.serial
  pure { vid, pid, bcdDevice, manufacturer, product, serial }

def proxy? (v : Toml.Value) : Option ProxySettings := do
  let s ← Section.ofValue? v
  let default : ProxySettings := {}
  let port ← s.setting word16? 0 "port" default.port
  let frameTimeout ← s.setting word64? 1 "frame_timeout_ms" default.frameTimeout
  let frameBudget ← s.setting word64? 2 "frame_budget" default.frameBudget
  pure { port, frameTimeout, frameBudget }

def usbip? (v : Toml.Value) : Option ExportSettings := do
  let s ← Section.ofValue? v
  let default : ExportSettings := {}
  let bind ← s.setting text? 0 "bind" default.bind
  let busId ← s.setting text? 1 "bus_id" default.busId
  pure { bind, busId }

/-- The configuration in the table of a document. Missing sections have their defaults, and
entries of other names are ignored. -/
def ofEntries? (entries : Toml.Entries) : Option Config := do
  let s := Section.named entries
  let default : Config := {}
  let personality ← s.setting personality? 0 "personality" default.personality
  let usb ← s.setting identity? 1 "usb" default.usb
  let proxy ← s.setting proxy? 2 "proxy" default.proxy
  let usbip ← s.setting usbip? 3 "usbip" default.usbip
  pure { personality, usb, proxy, usbip }

/-- The configuration in the text of a document. -/
def ofToml (text : String) : Except ConfigError Config :=
  match Toml.Document.read? text >>= ofEntries? with
  | some config => .ok config
  | none => .error .parse

/-! ## Writing -/

/-- The configuration as the statements of a document. -/
def statements (c : Config) : List Toml.Statement :=
  let key (name : String) : Toml.KeyPath := ⟨[], name⟩
  let text (name s : String) : Toml.Statement := .entry (key name) (.text s)
  let nat (name : String) (n : Nat) : Toml.Statement := .entry (key name) (.integer n)
  [text "personality" c.personality.name,
   .table (key "usb"),
   nat "vid" c.usb.vid.toNat,
   nat "pid" c.usb.pid.toNat,
   nat "bcd_device" c.usb.bcdDevice.toNat,
   text "manufacturer" c.usb.manufacturer,
   text "product" c.usb.product,
   text "serial" c.usb.serial,
   .table (key "proxy"),
   nat "port" c.proxy.port.toNat,
   nat "frame_timeout_ms" c.proxy.frameTimeout.toNat,
   nat "frame_budget" c.proxy.frameBudget.toNat,
   .table (key "usbip"),
   text "bind" c.usbip.bind,
   text "bus_id" c.usbip.busId]

/-- The text of a document with all settings; it fails for a number that is too large for an
integer of 64 bits with a sign. -/
def toToml (c : Config) : Except ConfigError String :=
  match Toml.Document.write? c.statements with
  | some text => .ok text
  | none => .error .serialize

/-! ## Derived settings -/

/-- Frames taken from the relay for one transfer of the host, at least one. -/
def frameBudget (c : Config) : Nat := max c.proxy.frameBudget.toNat 1

/-- Where the tunnel listens: all addresses, at its port. -/
def listenAddress (c : Config) : SocketAddress := .short 0 0 0 0 c.proxy.port

/-- Where the device is exported. -/
def bindAddress (c : Config) : Except ConfigError SocketAddress :=
  match SocketAddress.read? c.usbip.bind with
  | some address => .ok address
  | none => .error (.badAddress c.usbip.bind)

end Config

end PictureTransfer
