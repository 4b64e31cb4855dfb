import PictureTransfer.Bus.Recorder
import PictureTransfer.Catalog
import PictureTransfer.Event.Dispatcher
import PictureTransfer.Main
import PictureTransfer.Proofs.Container.Layouts
import PictureTransfer.Proofs.Container.Reassembly
import PictureTransfer.Proofs.Container.Slices
import PictureTransfer.Proofs.DataStream.Sending
import PictureTransfer.Proofs.Legacy.Labels
import PictureTransfer.Proofs.Legacy.Recording
import PictureTransfer.Proofs.Recovery
import PictureTransfer.Proofs.Relay.Budget
import PictureTransfer.Proofs.Relay.Trace
import PictureTransfer.Proofs.Relay.Tunnel
import PictureTransfer.Proofs.UsbIp.Accounts
import PictureTransfer.Proofs.UsbIp.Delivery
import PictureTransfer.Proofs.UsbIp.Framing
import PictureTransfer.Proofs.UsbIp.Handover
import PictureTransfer.Proofs.UsbIp.Import
import PictureTransfer.Proofs.UsbIp.Isolation
import PictureTransfer.Proofs.UsbIp.Supersession
import PictureTransfer.Relay.Client
import PictureTransfer.Responder.Selected
import PictureTransfer.UsbIp.Device
import PictureTransfer.Proofs.Relay.Resynchronisation
import PictureTransfer.Proofs.Relay.Batches
import PictureTransfer.Proofs.Relay.Outline
import PictureTransfer.Proofs.Standard.Ledger
import PictureTransfer.Proofs.Standard.Description
import PictureTransfer.Proofs.Streaming
import PictureTransfer.Proofs.UsbIp.Abandonment
import PictureTransfer.Proofs.Relay.Translation
import PictureTransfer.Proofs.Standard.Specification
import PictureTransfer.Proofs.Relay.CameraStream
import PictureTransfer.Proofs.Relay.Pauses
import PictureTransfer.Proofs.Text.Units
import PictureTransfer.Proofs.Dataset.Strings
import PictureTransfer.Proofs.Relay.Exchange
import PictureTransfer.Proofs.Relay.Answers
import PictureTransfer.Proofs.Dataset.Truncation
import PictureTransfer.Proofs.UsbIp.Commands
import PictureTransfer.Proofs.Camera.Containers
import PictureTransfer.Proofs.UsbIp.Arming
import PictureTransfer.Proofs.Config
