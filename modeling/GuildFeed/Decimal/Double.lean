namespace GuildFeed

structure Double where
  bits : UInt64
  deriving DecidableEq

namespace Double

def isNegative (x : Double) : Bool := x.bits.toNat >>> 63 = 1

def fraction (x : Double) : Nat := x.bits.toNat % 0x10000000000000

def biased (x : Double) : Nat := (x.bits.toNat >>> 52) % 0x800

def significand (x : Double) : Nat :=
  if x.biased = 0 then x.fraction else 0x10000000000000 + x.fraction

def exponent (x : Double) : Int :=
  if x.biased = 0 then -1074 else (x.biased : Int) - 1075

def ofFloat (negative : Bool) (magnitude : Float) : Double :=
  ⟨(if negative then -magnitude else magnitude).toBits⟩

def ofInt (n : Int) : Double := ofFloat (decide (n < 0)) (UInt64.ofNat n.natAbs).toFloat

def maxPlaces : Nat := 308

def powerOfTen (k : Nat) : Float := .ofScientific 1 false k

def scaleDown (x : Float) (k : Nat) : Float :=
  if k ≤ maxPlaces then x / powerOfTen k
  else if x == 0 then x
  else scaleDown (x / powerOfTen maxPlaces) (k - maxPlaces)
termination_by k
decreasing_by simp [maxPlaces] at *; omega

def ofDecimal? (negative : Bool) (digits : UInt64) (exponent : Int) : Option Double :=
  let x := digits.toFloat
  match exponent with
  | .ofNat k =>
    if k ≤ maxPlaces then
      let y := x * powerOfTen k
      if y.isInf then none else some (ofFloat negative y)
    else if x == 0 then some (ofFloat negative x)
    else none
  | .negSucc k => some (ofFloat negative (scaleDown x (k + 1)))

end Double
end GuildFeed
