import GuildFeed.Record.Shape
import GuildFeed.Timestamp

namespace GuildFeed

inductive ActivityKind
  | game
  | streaming
  | listening
  | watching
  | custom
  | competing
  deriving DecidableEq

namespace ActivityKind

def number : ActivityKind → Nat
  | game => 0
  | streaming => 1
  | listening => 2
  | watching => 3
  | custom => 4
  | competing => 5

def ofNumber? : Nat → Option ActivityKind
  | 0 => some game
  | 1 => some streaming
  | 2 => some listening
  | 3 => some watching
  | 4 => some custom
  | 5 => some competing
  | _ => none

def describe : ActivityKind → String
  | game => "Game"
  | streaming => "Streaming"
  | listening => "Listening"
  | watching => "Watching"
  | custom => "Custom"
  | competing => "Competing"

def read : Reader ActivityKind := fun v => do
  let n ← Reader.natural 8 v
  match ofNumber? n with
  | some k => pure k
  | none => throw (.unknownNumber n [0, 1, 2, 3, 4, 5])

def render (k : ActivityKind) : Json := .ofNat k.number

end ActivityKind

structure ActivitySpan where
  start : Option UInt64
  stop : Option UInt64
  deriving DecidableEq

namespace ActivitySpan

def shape : Shape ActivitySpan :=
  mk <$> .optional "start" Reader.u64 <*> .optional "end" Reader.u64

def read : Reader ActivitySpan := shape.read "ActivityTimestamps"

def render (t : ActivitySpan) : Json :=
  .ofPresent
    [("start", t.start.map fun n => .ofNat n.toNat),
      ("end", t.stop.map fun n => .ofNat n.toNat)]

def startTime? (t : ActivitySpan) : Option Timestamp :=
  t.start.bind fun n => Timestamp.ofMillis? n.toNat

def stopTime? (t : ActivitySpan) : Option Timestamp :=
  t.stop.bind fun n => Timestamp.ofMillis? n.toNat

end ActivitySpan

structure Activity where
  name : String
  kind : ActivityKind
  url : Option String
  span : Option ActivitySpan
  state : Option String
  deriving DecidableEq

namespace Activity

def shape : Shape Activity :=
  mk <$> .required "name" Reader.string
    <*> .required "type" ActivityKind.read
    <*> .optional "url" Reader.string
    <*> .optional "timestamps" ActivitySpan.read
    <*> .optional "state" Reader.string

def read : Reader Activity := shape.read "Activity"

def render (a : Activity) : Json :=
  .ofPresent
    [("name", some (.string a.name)),
      ("type", some a.kind.render),
      ("url", a.url.map .string),
      ("timestamps", a.span.map ActivitySpan.render),
      ("state", a.state.map .string)]

def plain (kind : ActivityKind) (name : String) : Activity := ⟨name, kind, none, none, none⟩

def streaming (name url : String) : Activity :=
  { plain .streaming name with url := some url }

def streamingUrl? (a : Activity) : Option String :=
  if a.kind = .streaming then a.url else none

def span? (a : Activity) : Option ActivitySpan :=
  if a.kind = .custom then none else a.span

end Activity
end GuildFeed
