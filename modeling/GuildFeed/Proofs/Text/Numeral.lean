import Mathlib.Data.List.Induction
import Mathlib.Data.UInt
import GuildFeed.Text.Numeral

namespace GuildFeed.Text

theorem digit?_eq (c : Char) : digit? c = if c.isDigit then some (c.toNat - '0'.toNat) else none := by
  unfold digit?
  congr 1
  simp [Char.isDigit, Char.le_def]

theorem foldlM_digit?_eq_some {cs : List Char} {m n : Nat} :
    cs.foldlM (fun n c => (digit? c).map (10 * n + ·)) m = some n ↔
      (∀ c ∈ cs, c.isDigit) ∧ Nat.ofDigitChars 10 cs m = n := by
  induction cs generalizing m with
  | nil => simp
  | cons c cs ih =>
    rw [List.foldlM_cons, digit?_eq, List.forall_mem_cons, Nat.ofDigitChars_cons]
    by_cases digit : c.isDigit
    · simp [digit, ih]
    · simp [digit]

theorem digits?_eq_some {cs : List Char} {n : Nat} :
    digits? cs = some n ↔ cs ≠ [] ∧ (∀ c ∈ cs, c.isDigit) ∧ Nat.ofDigitChars 10 cs 0 = n := by
  cases cs with
  | nil => simp [digits?]
  | cons c cs =>
    rw [digits?, foldlM_digit?_eq_some]
    · simp
    · simp

theorem dropPlus_of_digits {ds : List Char} (digits : ∀ c ∈ ds, c.isDigit) : dropPlus ds = ds := by
  unfold dropPlus
  split
  · next ds =>
    have sign : '+'.isDigit = true := digits '+' List.mem_cons_self
    cases sign
  · rfl

theorem denotes_iff {cs : List Char} {n : Nat} : Denotes cs n ↔ digits? (dropPlus cs) = some n := by
  rw [digits?_eq_some]
  constructor
  · rintro ⟨ds, rfl | rfl, nonempty, digits, value⟩
    · rw [dropPlus_of_digits digits]
      exact ⟨nonempty, digits, value⟩
    · exact ⟨nonempty, digits, value⟩
  · intro accepted
    refine ⟨dropPlus cs, ?_, accepted⟩
    unfold dropPlus
    split
    · exact .inr rfl
    · exact .inl rfl

theorem word?_eq_some_iff {cs : List Char} {w : UInt64} : word? cs = some w ↔ Denotes cs w.toNat := by
  rw [denotes_iff, word?]
  cases value : digits? (dropPlus cs) with
  | none => simp
  | some n =>
    simp only [Option.bind_eq_bind, Option.bind_some, Option.some.injEq]
    constructor
    · intro fits
      split at fits
      · next small =>
        cases fits
        exact (UInt64.toNat_ofNat_of_lt' small).symm
      · cases fits
    · rintro rfl
      rw [if_pos w.toNat_lt, UInt64.ofNat_toNat]

structure Canonical (ds : List Char) (n : Nat) : Prop where
  nonempty : ds ≠ []
  digits : ∀ c ∈ ds, c.isDigit
  leading : ds.head? = some '0' → ds = ['0']
  value : Nat.ofDigitChars 10 ds 0 = n

theorem exists_digitChar {c : Char} (digit : c.isDigit) : ∃ d < 10, Nat.digitChar d = c := by
  obtain ⟨above, below⟩ : 48 ≤ c.toNat ∧ c.toNat ≤ 57 := Char.isDigit_iff_toNat.1 digit
  have small : c.toNat - 48 < 10 := by omega
  refine ⟨c.toNat - 48, small, Char.toNat_inj.1 ?_⟩
  rw [Nat.toNat_digitChar_of_lt_ten small]
  omega

theorem numeral_ne_nil (n : Nat) : numeral n ≠ [] := Nat.toDigits_ne_nil

theorem numeral_of_lt {d : Nat} (small : d < 10) : numeral d = [Nat.digitChar d] := Nat.toDigits_of_lt_base small

theorem numeral_concat {m d : Nat} (positive : 0 < m) (small : d < 10) :
    numeral (10 * m + d) = numeral m ++ [Nat.digitChar d] := by
  rw [← numeral_of_lt small]
  exact (Nat.toDigits_append_toDigits (by decide) positive small).symm

theorem ofDigitChars_concat {ds : List Char} {d : Nat} (small : d < 10) :
    Nat.ofDigitChars 10 (ds ++ [Nat.digitChar d]) 0 = 10 * Nat.ofDigitChars 10 ds 0 + d := by
  rw [Nat.ofDigitChars_append, Nat.ofDigitChars_cons_digitChar_of_lt_ten small, Nat.ofDigitChars_nil]

theorem head?_numeral (n : Nat) : (numeral n).head? = some '0' → n = 0 := by
  induction n using Nat.base_induction 10 (by decide) with
  | single d small => simp [numeral_of_lt small]
  | digit m d small positive ih =>
    intro head
    rw [numeral_concat positive small, List.head?_append_of_ne_nil _ (numeral_ne_nil m)] at head
    exact absurd (ih head) positive.ne'

theorem canonical_numeral (n : Nat) : Canonical (numeral n) n where
  nonempty := numeral_ne_nil n
  digits _ mem := Nat.isDigit_of_mem_toDigits (by decide) (by decide) mem
  leading head := by
    rw [head?_numeral n head]
    rfl
  value := Nat.ofDigitChars_ten_toDigits

theorem denotes_numeral (n : Nat) : Denotes (numeral n) n :=
  have canonical := canonical_numeral n
  ⟨numeral n, .inl rfl, canonical.nonempty, canonical.digits, canonical.value⟩

theorem Canonical.eq_numeral {ds : List Char} {n : Nat} (canonical : Canonical ds n) : ds = numeral n := by
  induction ds using List.reverseRecOn generalizing n with
  | nil => exact absurd rfl canonical.nonempty
  | append_singleton ds c ih =>
    obtain ⟨-, digits, leading, rfl⟩ := canonical
    obtain ⟨d, small, rfl⟩ := exists_digitChar (digits c (by simp))
    rw [ofDigitChars_concat small]
    by_cases empty : ds = []
    · subst empty
      simp [numeral_of_lt small]
    · -- What stands before the last digit has no zero in front, so its number is positive.
      rw [List.head?_append_of_ne_nil _ empty] at leading
      have ends : ds.head? ≠ some '0' := fun head => empty (by simpa using congrArg List.length (leading head))
      have rest : ds = numeral (Nat.ofDigitChars 10 ds 0) :=
        ih ⟨empty, fun c mem => digits c (List.mem_append_left _ mem), fun head => absurd head ends, rfl⟩
      have positive : 0 < Nat.ofDigitChars 10 ds 0 := by
        refine Nat.pos_of_ne_zero fun zero => ends ?_
        rw [rest, zero]
        rfl
      rw [numeral_concat positive small, ← rest]

theorem canonical_iff {ds : List Char} {n : Nat} : Canonical ds n ↔ ds = numeral n := by
  constructor
  · exact Canonical.eq_numeral
  · rintro rfl
    exact canonical_numeral n

end GuildFeed.Text
