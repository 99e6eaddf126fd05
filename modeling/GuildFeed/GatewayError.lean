import GuildFeed.Decoding
import GuildFeed.Invite
import GuildFeed.Settings

namespace GuildFeed

inductive GatewayError
  | decode (cause : DecodeError)
  | settings (cause : Settings.Fault)
  | unknownInvite (code : String)

namespace GatewayError

def kind : GatewayError → String
  | decode _ => "Decode"
  | settings _ => "Configuration"
  | unknownInvite _ => "Invite"

def cause : GatewayError → String
  | decode e => e.message
  | settings f => f.message
  | unknownInvite code => "unknown invite " ++ code

def summary : GatewayError → String
  | decode _ => "failed to decode a gateway payload"
  | settings _ => "invalid gateway configuration"
  | unknownInvite _ => "invite request failed"

def message (e : GatewayError) : String := e.summary ++ ": " ++ e.cause

end GatewayError

structure InviteBook where
  entries : List InviteDetails

namespace InviteBook

def ofList (known : List InviteDetails) : InviteBook := ⟨known.reverse⟩

def details (book : InviteBook) (i : Invite) : Except GatewayError InviteDetails :=
  match book.entries.find? (·.code = i.code) with
  | some d => .ok d
  | none => .error (.unknownInvite i.code)

def delete (book : InviteBook) (i : Invite) : Except GatewayError InviteBook := do
  let _ ← book.details i
  pure ⟨book.entries.filter (·.code ≠ i.code)⟩

end InviteBook
end GuildFeed
