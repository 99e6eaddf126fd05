/-!
# Octets as UTF-8

Reading goes from left to right. Where the octets stop being UTF-8, the longest beginning of a
character there counts as one broken part. Strict reading refuses a text with a broken part, and
lenient reading puts a replacement character in its place.
-/

namespace GuildFeed.Text.Utf8

def tails? (lead : UInt8) : Option Nat :=
  if lead < 0x80 then some 0
  else if lead < 0xc2 then none
  else if lead < 0xe0 then some 1
  else if lead < 0xf0 then some 2
  else if lead < 0xf5 then some 3
  else none

def leadBits (lead : UInt8) : Nat :=
  if lead < 0x80 then lead.toNat
  else if lead < 0xe0 then lead.toNat % 32
  else if lead < 0xf0 then lead.toNat % 16
  else lead.toNat % 8

/-- The octets that may come second. Overlong forms, surrogates and values past the last code point
are excluded here. -/
def second (lead : UInt8) : UInt8 × UInt8 :=
  if lead = 0xe0 then (0xa0, 0xbf)
  else if lead = 0xed then (0x80, 0x9f)
  else if lead = 0xf0 then (0x90, 0xbf)
  else if lead = 0xf4 then (0x80, 0x8f)
  else (0x80, 0xbf)

def follow : Nat → UInt8 × UInt8 → Nat → List UInt8 → Option Nat × List UInt8
  | 0, _, code, s => (some code, s)
  | _ + 1, _, _, [] => (none, [])
  | n + 1, bounds, code, b :: s =>
    if bounds.1 ≤ b ∧ b ≤ bounds.2 then
      follow n (0x80, 0xbf) (64 * code + b.toNat % 64) s
    else (none, b :: s)

theorem length_follow_le (n : Nat) (bounds : UInt8 × UInt8) (code : Nat) (s : List UInt8) :
    (follow n bounds code s).2.length ≤ s.length := by
  fun_induction follow n bounds code s with
  | case1 => simp
  | case2 => simp
  | case3 n bounds code b s h ih => simp only [List.length_cons]; omega
  | case4 => simp

def parts : List UInt8 → List (Option Char)
  | [] => []
  | lead :: s =>
    match tails? lead with
    | none => none :: parts s
    | some n =>
      let r := follow n (second lead) (leadBits lead) s
      have := length_follow_le n (second lead) (leadBits lead) s
      r.1.map Char.ofNat :: parts r.2
termination_by s => s.length
decreasing_by all_goals simp only [List.length_cons]; omega

def decode? (s : List UInt8) : Option String :=
  ((parts s).mapM id).map String.ofList

def decodeLenient (s : List UInt8) : String :=
  .ofList ((parts s).map (·.getD '\ufffd'))

def encode (s : String) : List UInt8 :=
  s.toList.flatMap String.utf8EncodeChar

end GuildFeed.Text.Utf8
