import GuildFeed.Json.Basic
import GuildFeed.Text.Utf8

/-!
# Scanning JSON text

Scanners take the octets that are left and give a value with the octets after it. A text that
cannot be read is malformed, or truncated if more text could have mended it. Whichever comes first
in the text counts.

A value that is to be ignored is only looked at as far as its end has to be found: its strings may
hold any octets, its numbers may be out of range, and its nesting is not limited.
-/

namespace GuildFeed.Json

abbrev Octets := List UInt8

inductive Defect
  | malformed
  | truncated
  deriving DecidableEq

abbrev Scan (α : Type) := Except Defect (α × Octets)

def glyph (b : UInt8) : Char := Char.ofNat b.toNat

def isSpace (b : UInt8) : Bool := b = 0x20 || b = 0x0a || b = 0x09 || b = 0x0d

def skipSpace (s : Octets) : Octets := s.dropWhile isSpace

def word : List Char → Octets → Except Defect Octets
  | [], s => .ok s
  | _ :: _, [] => .error .truncated
  | c :: cs, b :: s => if glyph b = c then word cs s else .error .malformed

/-! ## Numbers -/

def digit? (b : UInt8) : Option Nat :=
  if 0x30 ≤ b ∧ b ≤ 0x39 then some (b.toNat - 0x30) else none

def digits : Octets → List Nat × Octets
  | [] => ([], [])
  | b :: s =>
    match digit? b with
    | some d => let r := digits s; (d :: r.1, r.2)
    | none => ([], b :: s)

def someDigits (s : Octets) : Scan (List Nat) :=
  match digits s with
  | ([], []) => .error .truncated
  | ([], _ :: _) => .error .malformed
  | r => .ok r

structure Literal where
  negative : Bool
  whole : List Nat
  fraction : Option (List Nat)
  exponent : Option (Bool × List Nat)

def scanSign (s : Octets) : Bool × Octets :=
  match s with
  | b :: r => if glyph b = '-' then (true, r) else (false, s)
  | [] => (false, s)

def scanFraction (s : Octets) : Scan (Option (List Nat)) :=
  match s with
  | b :: r =>
    if glyph b = '.' then (someDigits r).map fun r => (some r.1, r.2) else .ok (none, s)
  | [] => .ok (none, s)

def scanExponent (s : Octets) : Scan (Option (Bool × List Nat)) :=
  match s with
  | [] => .ok (none, s)
  | b :: r =>
    if glyph b = 'e' ∨ glyph b = 'E' then
      let (negative, r) :=
        match r with
        | c :: q => if glyph c = '+' then (false, q) else scanSign r
        | [] => (false, r)
      (someDigits r).map fun r => (some (negative, r.1), r.2)
    else .ok (none, s)

def scanLiteral (s : Octets) : Except Defect (Literal × Octets) := do
  let (negative, s) := scanSign s
  let (whole, s) ← someDigits s
  if whole.head? = some 0 ∧ 1 < whole.length then throw .malformed
  let (fraction, s) ← scanFraction s
  let (exponent, s) ← scanExponent s
  pure (⟨negative, whole, fraction, exponent⟩, s)

def absorb (n : Nat) : List Nat → Nat × Nat
  | [] => (n, 0)
  | d :: ds =>
    if 10 * n + d < UInt64.size then let r := absorb (10 * n + d) ds; (r.1, r.2 + 1) else (n, 0)

def Literal.power (l : Literal) : Int :=
  match l.exponent with
  | none => 0
  | some (negative, ds) =>
    let n : Nat := ds.foldl (fun n d => 10 * n + d) 0
    if negative then -n else n

def Literal.value? (l : Literal) : Option Json :=
  let (n, used) := absorb 0 l.whole
  let skipped := l.whole.length - used
  if l.fraction.isNone ∧ l.exponent.isNone ∧ skipped = 0 ∧ ¬ l.negative then
    some (.integer n)
  else if l.fraction.isNone ∧ l.exponent.isNone ∧ skipped = 0 ∧ 0 < n ∧ n ≤ 0x8000000000000000 then
    some (.integer (-n))
  else
    let (n, places) := absorb n (l.fraction.getD [])
    (Double.ofDecimal? l.negative (.ofNat n) (skipped - places + l.power)).map .double

/-! ## Strings -/

def hexDigit? (b : UInt8) : Option Nat :=
  let c := glyph b
  if '0' ≤ c ∧ c ≤ '9' then some (c.toNat - '0'.toNat)
  else if 'a' ≤ c ∧ c ≤ 'f' then some (c.toNat - 'a'.toNat + 10)
  else if 'A' ≤ c ∧ c ≤ 'F' then some (c.toNat - 'A'.toNat + 10)
  else none

def hex4 : Octets → Scan Nat
  | a :: b :: c :: d :: s =>
    match hexDigit? a, hexDigit? b, hexDigit? c, hexDigit? d with
    | some a, some b, some c, some d => .ok (((a * 16 + b) * 16 + c) * 16 + d, s)
    | _, _, _, _ => .error .malformed
  | _ => .error .truncated

def char (c : Char) : Octets → Except Defect Octets
  | [] => .error .truncated
  | b :: s => if glyph b = c then .ok s else .error .malformed

def scanTrail (high : Nat) (s : Octets) : Except Defect (Char × Octets) := do
  let s ← char '\\' s
  let s ← char 'u' s
  let (low, s) ← hex4 s
  if 0xdc00 ≤ low ∧ low ≤ 0xdfff then
    pure (Char.ofNat (0x10000 + (high - 0xd800) * 0x400 + (low - 0xdc00)), s)
  else throw .malformed

def scanCodePoint (s : Octets) : Except Defect (Char × Octets) := do
  let (n, s) ← hex4 s
  if 0xdc00 ≤ n ∧ n ≤ 0xdfff then throw .malformed
  else if 0xd800 ≤ n ∧ n ≤ 0xdbff then scanTrail n s
  else pure (Char.ofNat n, s)

def scanEscape : Octets → Scan Char
  | [] => .error .truncated
  | b :: s =>
    match glyph b with
    | '"' => .ok ('"', s)
    | '\\' => .ok ('\\', s)
    | '/' => .ok ('/', s)
    | 'b' => .ok ('\x08', s)
    | 'f' => .ok ('\x0c', s)
    | 'n' => .ok ('\n', s)
    | 'r' => .ok ('\r', s)
    | 't' => .ok ('\t', s)
    | 'u' => scanCodePoint s
    | _ => .error .malformed

def skipEscape : Octets → Scan Char
  | [] => .error .truncated
  | b :: s =>
    if glyph b = 'u' then (hex4 s).map fun r => (' ', r.2)
    else if (['"', '\\', '/', 'b', 'f', 'n', 'r', 't'].contains (glyph b)) then .ok (' ', s)
    else .error .malformed

def stringOctets (escape : Octets → Scan Char) : Nat → Octets → Except Defect (Octets × Octets)
  | 0, _ => .error .truncated
  | _ + 1, [] => .error .truncated
  | fuel + 1, b :: s =>
    match glyph b with
    | '"' => .ok ([], s)
    | '\\' => do
      let (c, s) ← escape s
      let (r, s) ← stringOctets escape fuel s
      pure (String.utf8EncodeChar c ++ r, s)
    | _ =>
      if b < 0x20 then .error .malformed
      else (stringOctets escape fuel s).map fun r => (b :: r.1, r.2)

def scanString (fuel : Nat) (s : Octets) : Except Defect (String × Octets) := do
  let (octets, s) ← stringOctets scanEscape fuel s
  match Text.Utf8.decode? octets with
  | some t => pure (t, s)
  | none => throw .malformed

def skipString (fuel : Nat) (s : Octets) : Except Defect Octets :=
  (stringOctets skipEscape fuel s).map (·.2)

/-! ## Values -/

/-- Whether a value is kept, and how many containers it may then open inside each other. -/
inductive Care
  | kept (nesting : Nat)
  | ignored

def Care.enter? : Care → Option Care
  | .kept 0 => none
  | .kept (n + 1) => some (.kept n)
  | .ignored => some .ignored

def scanNumber (care : Care) (s : Octets) : Scan Json :=
  match care, scanLiteral s with
  | .kept _, .ok (l, s) =>
    match l.value? with
    | some v => .ok (v, s)
    | none => .error .malformed
  | .kept _, .error e => .error e
  | .ignored, .ok (_, s) => .ok (.null, s)
  | .ignored, .error _ => .error .malformed

def scanText (care : Care) (fuel : Nat) (s : Octets) : Scan String :=
  match care with
  | .kept _ => scanString fuel s
  | .ignored => (skipString fuel s).map ("", ·)

def startsNumber (b : UInt8) : Bool := glyph b = '-' || (digit? b).isSome

def scanColon (s : Octets) : Except Defect Octets := char ':' (skipSpace s)

/-- What precedes the next item or the closing mark: nothing for the first item, a comma for the
others. `none` means that the container ends. -/
def scanNext (close : Char) (first : Bool) (s : Octets) : Except Defect (Option Octets) :=
  match skipSpace s with
  | [] => .error .truncated
  | b :: s =>
    if glyph b = close then .ok none
    else if first then .ok (some (b :: s))
    else if glyph b = ',' then
      match skipSpace s with
      | [] => .error .truncated
      | b :: s => if glyph b = close then .error .malformed else .ok (some (b :: s))
    else .error .malformed

def afterClose (s : Octets) : Octets := (skipSpace s).tail

mutual

/-- A value. The fuel is twice the number of octets that may be looked at. -/
def scanValue (care : Care) : Nat → Octets → Scan Json
  | 0, _ => .error .truncated
  | fuel + 1, s =>
    match skipSpace s with
    | [] => .error .truncated
    | b :: s =>
      match glyph b with
      | 'n' => (word "ull".toList s).map (.null, ·)
      | 't' => (word "rue".toList s).map (.bool true, ·)
      | 'f' => (word "alse".toList s).map (.bool false, ·)
      | '"' => (scanText care fuel s).map fun r => (.string r.1, r.2)
      | '[' =>
        match care.enter? with
        | none => .error .malformed
        | some care => (scanItems care fuel true s).map fun r => (.array r.1, r.2)
      | '\x7b' =>
        match care.enter? with
        | none => .error .malformed
        | some care => (scanFields care fuel true s).map fun r => (ofFields r.1, r.2)
      | _ => if startsNumber b then scanNumber care (b :: s) else .error .malformed

def scanItems (care : Care) : Nat → Bool → Octets → Except Defect (List Json × Octets)
  | 0, _, _ => .error .truncated
  | fuel + 1, first, s => do
    match ← scanNext ']' first s with
    | none => pure ([], afterClose s)
    | some s =>
      let (v, s) ← scanValue care fuel s
      let (vs, s) ← scanItems care fuel false s
      pure (v :: vs, s)

def scanFields (care : Care) : Nat → Bool → Octets → Except Defect (Fields × Octets)
  | 0, _, _ => .error .truncated
  | fuel + 1, first, s => do
    match ← scanNext '\x7d' first s with
    | none => pure ([], afterClose s)
    | some s =>
      let s ← char '"' s
      let (k, s) ← scanText care fuel s
      let s ← scanColon s
      let (v, s) ← scanValue care fuel s
      let (fs, s) ← scanFields care fuel false s
      pure ((k, v) :: fs, s)

end

def scan (care : Care) (s : Octets) : Scan Json := scanValue care (2 * s.length + 2) s

def maxNesting : Nat := 127

def finish (s : Octets) : Except Defect Unit :=
  if (skipSpace s).isEmpty then .ok () else .error .malformed

def parse (s : Octets) : Except Defect Json := do
  let (v, s) ← scan (.kept maxNesting) s
  finish s
  pure v

end GuildFeed.Json
