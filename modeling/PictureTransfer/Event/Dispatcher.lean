import PictureTransfer.Event

/-!
# Delivering record events

Publishers never wait: an event goes into a short queue or, when the queue is full, is dropped. A
worker takes one event at a time from the queue and hands it to every subscriber in turn.
-/

namespace PictureTransfer

/-- How many subscribers there are, the events that wait for the worker, and the deliveries so
far, each with the number of its subscriber. -/
structure Dispatcher where
  subscribers : Nat := 0
  waiting : List RecEvent := []
  delivered : List (Nat × RecEvent) := []

namespace Dispatcher

/-- The most events that wait. -/
def capacity : Nat := 8

/-- The most subscribers. -/
def maxSubscribers : Nat := 4

/-- The one refusal of a dispatcher. -/
inductive Error where
  | tooManySubscribers
  deriving DecidableEq, Repr

def Error.message : Error → String
  | tooManySubscribers =>
    "At most " ++ toString maxSubscribers ++ " REC subscribers are supported"

/-- Adds a subscriber behind the others. -/
def subscribe (d : Dispatcher) : Except Error Dispatcher :=
  if d.subscribers < maxSubscribers then .ok { d with subscribers := d.subscribers + 1 }
  else .error .tooManySubscribers

/-- Queues an event, and says whether there was room. -/
def publish (d : Dispatcher) (e : RecEvent) : Dispatcher × Bool :=
  if d.waiting.length < capacity then ({ d with waiting := d.waiting ++ [e] }, true)
  else (d, false)

/-- Publishes the record events among all events. -/
def observe (d : Dispatcher) : Event → Dispatcher
  | .recording e => (d.publish e).1
  | _ => d

/-- What the delivery of one event amounts to. -/
def deliveries (d : Dispatcher) (e : RecEvent) : List (Nat × RecEvent) :=
  (List.range d.subscribers).map fun subscriber => (subscriber, e)

/-- The worker takes the event that waits longest. -/
def deliverNext (d : Dispatcher) : Dispatcher :=
  match d.waiting with
  | [] => d
  | e :: rest => { d with waiting := rest, delivered := d.delivered ++ d.deliveries e }

/-- The worker delivers all that waits, and stops. -/
def close (d : Dispatcher) : Dispatcher :=
  { d with waiting := [], delivered := d.delivered ++ d.waiting.flatMap d.deliveries }

end Dispatcher

end PictureTransfer
