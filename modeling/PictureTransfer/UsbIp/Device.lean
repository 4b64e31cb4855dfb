import PictureTransfer.Bus.Endpoints
import PictureTransfer.Responder
import PictureTransfer.UsbIp.Message

/-!
# An exported device

A device answers the URBs of one host at a time. Transfers to the device become completions for its
responder. Transfers to the host are parked until the responder has sent something on their
endpoint; whenever both are there they are matched, which is what `flush` does.
-/

namespace PictureTransfer.UsbIp

/-- A transfer to the host that has nothing to carry yet. -/
structure Parked where
  ep : UInt8
  seqnum : UInt32
  length : UInt32
  deriving DecidableEq, Repr

/-- What is parked is kept by endpoint, and nothing fixes the order in which an unlink comes to the
endpoints. A walk has that order for each unlink, by how many replies are written before it. -/
abbrev Walk := Nat → List UInt8

/-- The responder on its bus, what the device says about itself, the transfers that wait, oldest
first, and the selected configuration. -/
structure Device (σ : Type) where
  attached : Attached Bus.Endpoints σ
  descriptors : Descriptors
  exported : Exported
  parked : List Parked := []
  configuration : UInt8 := 0

namespace Device

variable {σ : Type}

/-- A device that no host has touched. -/
def fresh (responder : σ) (descriptors : Descriptors) (busId : String) : Device σ where
  attached := { bus := {}, responder }
  descriptors := descriptors
  exported := .ofDescriptors busId descriptors

def bus (d : Device σ) : Bus.Endpoints := d.attached.bus

/-- The lowest endpoint on which a transfer waits and something has been sent. -/
def ready? (d : Device σ) : Option UInt8 :=
  ((d.parked.map Parked.ep).filter fun ep => 0 < d.bus.queued ep).min?

/-- Takes the oldest of some parked transfers that is on an endpoint. -/
def unpark? (ep : UInt8) : List Parked → Option (Parked × List Parked)
  | [] => none
  | p :: rest =>
    if p.ep = ep then some (p, rest)
    else (unpark? ep rest).map fun (q, left) => (q, p :: left)

theorem length_of_unpark? {ep : UInt8} {parked left : List Parked} {p : Parked}
    (h : unpark? ep parked = some (p, left)) : left.length + 1 = parked.length := by
  induction parked generalizing left with
  | nil => cases h
  | cons q rest ih =>
    unfold unpark? at h
    split at h
    · cases h; rfl
    · obtain ⟨⟨r, s⟩, found, same⟩ := Option.map_eq_some_iff.1 h
      cases same
      simp [ih found]

/-- The endpoints on which a transfer of a number is parked, in the order in which it was. -/
def holders (seqnum : UInt32) (d : Device σ) : List UInt8 :=
  (d.parked.filter (·.seqnum = seqnum)).map Parked.ep

/-- The endpoint on which a transfer of a number is found first, where some endpoints come up in an
order and all others behind them. -/
def holder? (order : List UInt8) (seqnum : UInt32) (d : Device σ) : Option UInt8 :=
  (order ++ d.holders seqnum).find? (d.holders seqnum).contains

end Device

/-- A device and what it has written to its host, which takes at most so many bytes, with the walk
along which unlinks find what they are for. -/
structure Serving (σ : Type) where
  device : Device σ
  replies : List Reply := []
  limit : Option Nat := none
  walk : Walk := fun _ => []

namespace Serving

variable {σ : Type}

/-- What a step of serving leaves: it may fail, and the device is in some state either way. -/
abbrev Outcome (σ : Type) := EStateM.Result Error (Serving σ) Unit

/-- All bytes of the replies so far. -/
def output (s : Serving σ) : Bytes := s.replies.flatMap Reply.encode

/-- The bytes that the host took. -/
def written (s : Serving σ) : Bytes :=
  match s.limit with
  | none => s.output
  | some n => s.output.take n

/-- Writes a reply, which fails when the host does not take all of it. -/
def write (reply : Reply) (s : Serving σ) : Outcome σ :=
  let s := { s with replies := s.replies ++ [reply] }
  match s.limit with
  | none => .ok () s
  | some n => if s.output.length ≤ n then .ok () s else .error .brokenPipe s

/-- A device whose responder and bus have moved on. -/
def withAttached (s : Serving σ) (attached : Attached Bus.Endpoints σ) : Serving σ :=
  { s with device := { s.device with attached } }

theorem parked_of_write {reply : Reply} {s t : Serving σ} (h : s.write reply = .ok () t) :
    t.device.parked = s.device.parked := by
  unfold write at h
  dsimp only at h
  split at h
  · cases h; rfl
  · split at h <;> cases h; rfl

variable [Responder σ]

/-- Matches parked transfers with what the responder has sent, as long as there are both on some
endpoint. A transfer longer than the host's buffer is cut. Each match is a completion for the
responder, which may send more. -/
def flush (s : Serving σ) : Outcome σ :=
  match s.device.ready? with
  | none => .ok () s
  | some ep =>
    match found : Device.unpark? ep s.device.parked, s.device.bus.pop? ep with
    | some (urb, parked), some (data, bus) =>
      let data := data.take urb.length.toNat
      -- Both are gone from the device even if the host does not take the reply.
      let taken : Serving σ :=
        { s with device := { s.device with parked, attached := { s.device.attached with bus } } }
      match wrote : taken.write (.submitted urb.seqnum 0 (UInt32.ofNat data.length) data) with
      | .error e t => .error e t
      | .ok () t =>
        have _fewer : t.device.parked.length < s.device.parked.length := by
          have left := Device.length_of_unpark? found
          have same : t.device.parked = parked := parked_of_write wrote
          rw [same]
          omega
        flush (t.withAttached (t.device.attached.inCompleted ep))
    | _, _ => .ok () s
termination_by s.device.parked.length

/-- Hands the data of a transfer to the responder, in pieces of the size it armed last. -/
def receive (data : Bytes) (s : Serving σ) : Outcome σ :=
  let bus := s.device.bus
  -- A piece has at least one byte, whatever size was armed.
  let size := max (bus.armed.getD receiveSize) 1
  let attached : Attached Bus.Endpoints σ := { s.device.attached with bus := bus.disarm }
  match (s.withAttached (attached.outCompleted (data.take size))).flush with
  | .error e t => .error e t
  | .ok () t =>
    if _more : data.drop size = [] then .ok () t
    else receive (data.drop size) t
termination_by data.length
decreasing_by
  have : (data.drop size).length ≠ 0 := fun h => _more (List.length_eq_zero_iff.1 h)
  simp only [List.length_drop] at this ⊢
  omega

/-- The answers that every USB device gives on endpoint zero. Selecting the configuration opens the
interface. -/
def standardRequest (setup : Setup) (d : Device σ) : ControlResponse × Device σ :=
  let low := setup.value.toUInt8
  match setup.request.toNat with
  | 0x06 =>
    match (setup.value >>> 8).toUInt8.toNat with
    | 1 => (.data d.descriptors.device, d)
    | 2 => (.data d.descriptors.configuration, d)
    | 3 => ((d.descriptors.string? low).elim .unhandled .data, d)
    | _ => (.unhandled, d)
  | 0x09 =>
    let d := { d with configuration := low }
    if low = Descriptors.configurationValue then
      (.ack, { d with attached := d.attached.interfaceOpened 0 })
    else (.ack, d)
  | 0x08 => (.data [d.configuration], d)
  | 0x00 => (.data [0, 0], d)
  | 0x0A => (.data [0], d)
  | 0x05 | 0x0B => (.ack, d)
  | _ => (.unhandled, d)

/-- The reply to a control transfer. Data is cut to the length that the packet asks for. -/
def controlReply (submit : Submit) (setup : Setup) : ControlResponse → Reply
  | .data bytes =>
    let bytes := bytes.take setup.length.toNat
    .submitted submit.seqnum 0 (UInt32.ofNat bytes.length) bytes
  | .ack => .submitted submit.seqnum 0 (UInt32.ofNat submit.data.length) []
  | .unhandled => .submitted submit.seqnum Reply.brokenPipe 0 []

/-- A control transfer. What is no standard request, or concerns an endpoint, is for the
responder. -/
def control (submit : Submit) (s : Serving σ) : Outcome σ :=
  let setup := Setup.ofBytes submit.setup
  let (response, device) :=
    if setup.isStandard && !setup.toEndpoint then standardRequest setup s.device
    else
      let (attached, response) := s.device.attached.control setup submit.data
      (response, { s.device with attached })
  match { s with device }.write (controlReply submit setup response) with
  | .error e t => .error e t
  | .ok () t => t.flush

/-- A transfer of the host. -/
def submit (urb : Submit) (s : Serving σ) : Outcome σ :=
  if urb.ep = 0 then s.control urb
  else
    let address := urb.address
    if (s.device.descriptors.endpoint? address).isNone ∨ s.device.bus.stalled.contains address then
      s.write (.submitted urb.seqnum Reply.brokenPipe 0 [])
    else if urb.isIn then
      let parked := s.device.parked ++ [⟨address, urb.seqnum, urb.length⟩]
      { s with device := { s.device with parked } }.flush
    else
      match s.receive urb.data with
      | .error e t => .error e t
      | .ok () t =>
        match t.write (.submitted urb.seqnum 0 (UInt32.ofNat urb.data.length) []) with
        | .error e t => .error e t
        | .ok () t => t.flush

/-- Whether an unlink of a number that comes now can be for a parked transfer: it is on the endpoint
on which the number is found first. -/
def names (target : UInt32) (s : Serving σ) (p : Parked) : Bool :=
  p.seqnum = target ∧ s.device.holder? (s.walk s.replies.length) target = some p.ep

/-- A device from which the parked transfer of a number has been taken back, if there is one. -/
def takeBack (target : UInt32) (s : Serving σ) : Serving σ :=
  { s with device := { s.device with parked := s.device.parked.eraseP (s.names target) } }

/-- Takes back a parked transfer. -/
def unlink (seqnum target : UInt32) (s : Serving σ) : Outcome σ :=
  (s.takeBack target).write (.unlinked seqnum
    (if s.device.parked.any (·.seqnum = target) then Reply.connectionReset else 0))

/-- A command of the host. -/
def handle (urb : Urb) (s : Serving σ) : Outcome σ :=
  match urb with
  | .submit urb => s.submit urb
  | .unlink seqnum target => s.unlink seqnum target

/-- Handles the commands of a host until one fails or the connection ends. -/
def handleAll (source : Source) (s : Serving σ) : Error × Serving σ :=
  match read : Urb.read source with
  | .error e _ => (e, s)
  | .ok urb rest =>
    have _shorter := Urb.length_of_read read
    match s.handle urb with
    | .error e t => (e, t)
    | .ok () t => handleAll rest t
termination_by source.length
decreasing_by omega

/-- The host went away, which is a bus reset for the responder. -/
def detach (d : Device σ) : Device σ :=
  let attached : Attached Bus.Endpoints σ := { d.attached with bus := {} }
  { d with parked := [], configuration := 0, attached := attached.busReset }

/-- Serves one connection: an operation, and after an import the commands of the host. -/
def connection (source : Source) (s : Serving σ) : Outcome σ :=
  match OpRequest.read source with
  | .error e _ => .error e s
  | .ok .deviceList _ => s.write (.deviceList s.device.exported)
  | .ok (.import_ busId) rest =>
    if busId = s.device.exported.busId then
      match s.write (.imported s.device.exported) with
      | .error e t => .error e t
      | .ok () t =>
        let (e, t) := t.handleAll rest
        .error e { t with device := detach t.device }
    else
      match s.write .refused with
      | .error e t => .error e t
      | .ok () t => .error (.unknownBusId busId s.device.exported.busId) t

end Serving

end PictureTransfer.UsbIp
