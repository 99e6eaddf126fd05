import GuildFeed.Envelope.Text

namespace GuildFeed

inductive Signal
  | heartbeat
  | reconnect
  | invalidSession (resumable : Bool)
  | hello (heartbeatInterval : UInt64)
  | heartbeatAck
  | other (op : UInt8) (payload : Json)
  deriving DecidableEq

inductive Message
  | dispatch (sequence : Option UInt64) (dispatch : Dispatch)
  | signal (signal : Signal)
  deriving DecidableEq

inductive DecodeError
  | payload (event : String) (payload : Json) (fault : Fault)
  | unnamed (payload : Json)
  | envelope (text : String) (defect : Envelope.Defect)

namespace DecodeError

def event? : DecodeError → Option String
  | payload event _ _ => some event
  | _ => none

def content : DecodeError → Json
  | payload _ v _ | unnamed v => v
  | envelope text _ => .string text

def message : DecodeError → String
  | payload event _ fault => "invalid " ++ event ++ " payload: " ++ fault.message
  | unnamed _ => "malformed envelope: dispatch without an event name"
  | envelope _ defect => "malformed envelope: " ++ defect.message

end DecodeError

def Dispatch.decode (name : String) (payload : Json) : Except DecodeError Dispatch :=
  match Kind.ofName? name with
  | none => .ok (.unknown name payload)
  | some kind => (kind.read payload).mapError (.payload name payload)

def readHello : Reader UInt64 :=
  (Shape.required "heartbeat_interval" Reader.u64).read "Hello"

namespace Envelope

def decode (e : Envelope) : Except DecodeError Message :=
  if e.op = opDispatch then
    match e.event with
    | some name => (Dispatch.decode name e.payload).map (.dispatch e.sequence)
    | none => .error (.unnamed e.payload)
  else if e.op = opHeartbeat then .ok (.signal .heartbeat)
  else if e.op = opReconnect then .ok (.signal .reconnect)
  else if e.op = opInvalidSession then
    .ok (.signal (.invalidSession (decide (e.payload = .bool true))))
  else if e.op = opHello then
    ((readHello e.payload).map fun n => .signal (.hello n)).mapError
      (.payload "HELLO" e.payload)
  else if e.op = opHeartbeatAck then .ok (.signal .heartbeatAck)
  else .ok (.signal (.other e.op e.payload))

def decodeText (s : Json.Octets) : Except DecodeError Message := do
  let e ← (parse s).mapError (.envelope (Text.Utf8.decodeLenient s))
  e.decode

end Envelope
end GuildFeed
