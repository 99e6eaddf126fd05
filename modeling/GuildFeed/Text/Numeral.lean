namespace GuildFeed.Text

def digit? (c : Char) : Option Nat :=
  if '0' ≤ c ∧ c ≤ '9' then some (c.toNat - '0'.toNat) else none

def digits? : List Char → Option Nat
  | [] => none
  | cs => cs.foldlM (fun n c => (digit? c).map (10 * n + ·)) 0

def dropPlus : List Char → List Char
  | '+' :: cs => cs
  | cs => cs

def word? (cs : List Char) : Option UInt64 := do
  let n ← digits? (dropPlus cs)
  if n < UInt64.size then some (.ofNat n) else none

def Denotes (cs : List Char) (n : Nat) : Prop :=
  ∃ ds, (cs = ds ∨ cs = '+' :: ds) ∧ ds ≠ [] ∧ (∀ c ∈ ds, c.isDigit) ∧ Nat.ofDigitChars 10 ds 0 = n

def numeral (n : Nat) : List Char := Nat.toDigits 10 n

end GuildFeed.Text
