import PictureTransfer.Container.Header

/-!
# Cutting a container into transfers

The device sends a container in bulk-IN transfers of at most 512 bytes. The host takes a transfer
that is empty, or no multiple of the packet size, as the end; a container that ends on a packet
boundary is therefore closed by an empty transfer.
-/

namespace PictureTransfer

/-- Bytes in a full bulk packet. -/
def packetSize : Nat := 64

/-- The largest transfer to the host. -/
def transferSize : Nat := 512

/-- The transfers that carry one container. -/
def containerTransfers (container : Bytes) : List Bytes :=
  if container.isEmpty then [[]]
  else if container.length % packetSize = 0 then Bytes.pieces transferSize container ++ [[]]
  else Bytes.pieces transferSize container

end PictureTransfer
