import GuildFeed.Decimal.Double

/-!
# The shortest decimal that reads back

Every double has an interval of reals that round to it. Among the decimals in that interval the
shortest are taken, and among those the nearest to the double. For a given number of digits only
the double's two neighbours on that decimal grid can be nearest, so these two are tested, with one
digit, with two, and so on. Seventeen digits always suffice.
-/

namespace GuildFeed.Double

structure Ratio where
  num : Nat
  den : Nat

def scaled (n : Nat) (e k : Int) : Ratio where
  num := (n <<< e.toNat) * Nat.pow 10 (-k).toNat
  den := (1 <<< (-e).toNat) * Nat.pow 10 k.toNat

/-- Four times the significand, and the ends of its interval in the same unit. Below a power of two
the neighbour is half as far. -/
def interval (x : Double) : Nat × Nat × Nat :=
  let m := 4 * x.significand
  let below := if x.fraction = 0 ∧ 1 < x.biased then 1 else 2
  (m - below, m, m + 2)

/-- The decimal `d * 10 ^ k` next to `x` that rounds to `x`, the nearer one if both do. A tie goes
to the even digit. -/
def neighbour? (x : Double) (k : Int) : Option Nat :=
  let (lo, mid, hi) := x.interval
  let at_ (n : Nat) : Ratio := scaled n (x.exponent - 2) k
  let den := (at_ mid).den
  let inside (d : Nat) : Bool :=
    if x.significand % 2 = 0 then (at_ lo).num ≤ d * den ∧ d * den ≤ (at_ hi).num
    else (at_ lo).num < d * den ∧ d * den < (at_ hi).num
  let d := (at_ mid).num / den
  let rest := 2 * ((at_ mid).num % den)
  match inside d, inside (d + 1) with
  | false, false => none
  | true, false => some d
  | false, true => some (d + 1)
  | true, true => some (if rest < den ∨ rest = den ∧ d % 2 = 0 then d else d + 1)

def magnitude (x : Double) : Int :=
  let r := scaled x.significand x.exponent (-400)
  (Nat.toDigits 10 (r.num / r.den)).length - 400

structure Decimal where
  digits : List Char
  point : Int

def dropZeros (ds : List Char) : List Char :=
  (ds.reverse.dropWhile (· = '0')).reverse

def Decimal.of (d : Nat) (k : Int) : Decimal where
  digits := dropZeros (Nat.toDigits 10 d)
  point := (Nat.toDigits 10 d).length + k

def shortest (x : Double) : Decimal :=
  let places : List Int := (List.range 17).map fun n : Nat => x.magnitude - (n + 1 : Int)
  let found := places.findSome? fun k => (x.neighbour? k).map (Decimal.of · k)
  if x.significand = 0 then ⟨['0'], 1⟩ else found.getD ⟨['0'], 1⟩

structure Layout where
  least : Int
  most : Int
  whole : List Char

def Layout.json : Layout := ⟨-5, 15, ['.', '0']⟩

def Layout.positional : Layout := ⟨-400, 400, []⟩

def exponentText (e : Int) : List Char :=
  'e' :: (if e < 0 then '-' else '+') :: Nat.toDigits 10 e.natAbs

def Layout.write (l : Layout) (r : Decimal) : List Char :=
  let n := r.digits.length
  let power := r.point - 1
  if power < l.least ∨ l.most < power then
    match r.digits with
    | [] => []
    | [d] => d :: exponentText power
    | d :: ds => d :: '.' :: ds ++ exponentText power
  else if r.point ≤ 0 then
    '0' :: '.' :: List.replicate r.point.natAbs '0' ++ r.digits
  else if r.point.toNat < n then
    r.digits.take r.point.toNat ++ '.' :: r.digits.drop r.point.toNat
  else
    r.digits ++ List.replicate (r.point.toNat - n) '0' ++ l.whole

def text (l : Layout) (x : Double) : List Char :=
  if x.isNegative then '-' :: l.write x.shortest else l.write x.shortest

end GuildFeed.Double
