namespace RepositoryAccess.Events

-- Of more messages than it keeps the oldest are lost, and the receiver is told once that it lagged.
-- `sent` and `next` are positions: how many messages were sent, and the one to receive next.
structure Channel (α : Type) where
  capacity : Nat
  kept : List α := []
  sent : Nat := 0
  next : Nat := 0
  closed : Bool := false

inductive Received (α : Type)
  | message (value : α)
  | lagged (lost : Nat)
  | ended
  | nothing
  deriving DecidableEq, Repr

namespace Channel
variable {α : Type}

-- Room is made in powers of two.
def create (wanted : Nat) : Channel α := { capacity := wanted.nextPowerOfTwo }

def send (channel : Channel α) (value : α) : Channel α :=
  let kept := channel.kept ++ [value]
  { channel with kept := kept.drop (kept.length - channel.capacity), sent := channel.sent + 1 }

def close (channel : Channel α) : Channel α := { channel with closed := true }

def oldest (channel : Channel α) : Nat := channel.sent - channel.kept.length

def receive (channel : Channel α) : Received α × Channel α :=
  if channel.next < channel.oldest then
    (.lagged (channel.oldest - channel.next), { channel with next := channel.oldest })
  else match channel.kept[channel.next - channel.oldest]? with
    | some value => (.message value, { channel with next := channel.next + 1 })
    | none => (if channel.closed then .ended else .nothing, channel)

end Channel
end RepositoryAccess.Events
