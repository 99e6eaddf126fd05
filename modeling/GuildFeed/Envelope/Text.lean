import GuildFeed.Envelope.Basic
import GuildFeed.Json.Scan

/-!
# Envelopes as text

An envelope is read straight from its text, in the order of the text. The shape of a field is
checked when the field is met, before what follows is looked at, and a field may not be given
twice. Fields that an envelope does not have are ignored.
-/

namespace GuildFeed.Envelope
open Json

inductive Defect
  | text (defect : Json.Defect)
  | shape (fault : Fault)

def Defect.message : Defect → String
  | .text .malformed => "<syntax>"
  | .text .truncated => "<eof>"
  | .shape fault => fault.message

def ofText {α : Type} (r : Except Json.Defect α) : Except Defect α := r.mapError .text

def ofShape {α : Type} (r : Except Fault α) : Except Defect α := r.mapError .shape

def takeScalar {α : Type} (read : Reader α) (s : Octets) : Except Defect (α × Octets) := do
  match (skipSpace s).map glyph with
  | '[' :: _ => (ofShape (read (.array []))).map (·, s)
  | '\x7b' :: _ => (ofShape (read (.object []))).map (·, s)
  | _ =>
    let (v, s) ← ofText (scan (.kept 0) s)
    let a ← ofShape (read v)
    pure (a, s)

def takePayload (s : Octets) : Except Defect (Json × Octets) :=
  ofText (scan (.kept (maxNesting - 1)) s)

structure Draft where
  op : Option UInt8
  event : Option (Option String)
  sequence : Option (Option UInt64)
  payload : Option Json

def Draft.finish (d : Draft) : Except Defect Envelope :=
  match d.op with
  | none => throw (.shape (.missingField "op"))
  | some op => pure ⟨op, d.event.join, d.sequence.join, d.payload.getD .null⟩

def once {α : Type} (name : String) (met : Option α) : Except Defect Unit :=
  if met.isSome then throw (.shape (.duplicateField name)) else pure ()

def takeField (name : String) (d : Draft) (s : Octets) : Except Defect (Draft × Octets) :=
  if name = "op" then do
    once name d.op
    let (op, s) ← takeScalar Reader.u8 (← ofText (scanColon s))
    pure ({ d with op := some op }, s)
  else if name = "t" then do
    once name d.event
    let (event, s) ← takeScalar (Reader.option Reader.string) (← ofText (scanColon s))
    pure ({ d with event := some event }, s)
  else if name = "s" then do
    once name d.sequence
    let (sequence, s) ← takeScalar (Reader.option Reader.u64) (← ofText (scanColon s))
    pure ({ d with sequence := some sequence }, s)
  else if name = "d" then do
    once name d.payload
    let (payload, s) ← takePayload (← ofText (scanColon s))
    pure ({ d with payload := some payload }, s)
  else do
    let (_, s) ← ofText (scan .ignored (← ofText (scanColon s)))
    pure (d, s)

def takeFields : Nat → Bool → Draft → Octets → Except Defect (Draft × Octets)
  | 0, _, _, _ => throw (.text .truncated)
  | fuel + 1, first, d, s => do
    match ← ofText (scanNext '\x7d' first s) with
    | none => pure (d, afterClose s)
    | some s =>
      let (name, s) ← ofText (char '"' s >>= scanString fuel)
      let (d, s) ← takeField name d s
      takeFields fuel false d s

def takeItem {α : Type} (first : Bool) (take : Octets → Except Defect (α × Octets))
    (absent : Except Defect α) (s : Octets) : Except Defect (α × Octets) := do
  match ← ofText (scanNext ']' first s) with
  | none => absent.map (·, s)
  | some s => take s

def takeItems (s : Octets) : Except Defect (Envelope × Octets) := do
  let (op, s) ← takeItem true (takeScalar Reader.u8) (throw (.shape (.tooShort 0 "Envelope" 4))) s
  let (event, s) ← takeItem false (takeScalar (Reader.option Reader.string)) (pure none) s
  let (sequence, s) ← takeItem false (takeScalar (Reader.option Reader.u64)) (pure none) s
  let (payload, s) ← takeItem false takePayload (pure .null) s
  let s ← ofText (char ']' (skipSpace s))
  pure (⟨op, event, sequence, payload⟩, s)

def take (s : Octets) : Except Defect (Envelope × Octets) :=
  match (skipSpace s).map glyph with
  | '[' :: _ => takeItems (skipSpace s).tail
  | '\x7b' :: _ => do
    let (d, r) ← takeFields (s.length + 1) true ⟨none, none, none, none⟩ (skipSpace s).tail
    let e ← d.finish
    pure (e, r)
  | _ => takeScalar (Reader.refuse (.record "Envelope")) s

def parse (s : Octets) : Except Defect Envelope := do
  let (e, s) ← take s
  ofText (finish s)
  pure e

end GuildFeed.Envelope
