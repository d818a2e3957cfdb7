import RepositoryAccess.Events.Channel

namespace RepositoryAccess.Events

inductive Event
  | authorizationChanged
  | securityChanged
  | shutdown
  deriving DecidableEq, Repr

inductive Reaction
  | invalidate
  | shutdown
  deriving DecidableEq, Repr

def Event.reaction : Event → Reaction
  | .authorizationChanged | .securityChanged => .invalidate
  | .shutdown => .shutdown

-- A listener stops at a shutdown and at the end of its channel.
structure Listener where
  channel : Channel Event
  stopped : Bool := false

namespace Listener

def ofCapacity (wanted : Nat) : Listener := { channel := .create wanted }

def send (listener : Listener) (event : Event) : Listener :=
  { listener with channel := listener.channel.send event }

def close (listener : Listener) : Listener := { listener with channel := listener.channel.close }

-- One message; events that were lost may have been changes.
def turn (listener : Listener) : Option Reaction × Listener :=
  if listener.stopped then (none, listener)
  else
    let (received, channel) := listener.channel.receive
    match received with
    | .message event => (some event.reaction, { channel, stopped := event == .shutdown })
    | .lagged _ => (some .invalidate, { channel, stopped := false })
    | .ended => (none, { channel, stopped := true })
    | .nothing => (none, { channel, stopped := false })

def turns (listener : Listener) : Nat → List Reaction × Listener
  | 0 => ([], listener)
  | count + 1 =>
    let (reaction, listener) := listener.turn
    let (reactions, listener) := listener.turns count
    (reaction.toList ++ reactions, listener)

-- Everything that is in the channel: a message each turn, a lag before them and the end after them.
def drain (listener : Listener) : List Reaction × Listener :=
  listener.turns (listener.channel.kept.length + 2)

end Listener
end RepositoryAccess.Events
