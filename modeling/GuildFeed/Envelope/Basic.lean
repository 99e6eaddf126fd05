import GuildFeed.Dispatch

namespace GuildFeed

structure Envelope where
  op : UInt8
  event : Option String
  sequence : Option UInt64
  payload : Json
  deriving DecidableEq

namespace Envelope

def opDispatch : UInt8 := 0
def opHeartbeat : UInt8 := 1
def opStatusUpdate : UInt8 := 3
def opReconnect : UInt8 := 7
def opInvalidSession : UInt8 := 9
def opHello : UInt8 := 10
def opHeartbeatAck : UInt8 := 11

def shape : Shape Envelope :=
  mk <$> .required "op" Reader.u8
    <*> .optional "t" Reader.string
    <*> .optional "s" Reader.u64
    <*> .defaulted "d" .null .ok

def read : Reader Envelope := shape.read "Envelope"

def render (e : Envelope) : Json :=
  .ofPresent
    [("op", some (.ofNat e.op.toNat)),
      ("t", e.event.map .string),
      ("s", e.sequence.map fun n => .ofNat n.toNat),
      ("d", some e.payload)]

def ofStatusUpdate (u : StatusUpdate) : Envelope := ⟨opStatusUpdate, none, none, u.render⟩

end Envelope
end GuildFeed
