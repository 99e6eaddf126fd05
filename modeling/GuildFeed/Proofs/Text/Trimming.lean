import Mathlib.Data.List.TakeWhile
import GuildFeed.Text.Blank

namespace GuildFeed.Text

variable {p : Char → Bool} {sep : Char} {cs ts seg : List Char}

structure Trimmed (ts : List Char) : Prop where
  first : ∀ c ∈ ts.head?, ¬ isBlank c
  last : ∀ c ∈ ts.getLast?, ¬ isBlank c

theorem trimmed_iff : Trimmed ts ↔ ts.head?.all (!isBlank ·) ∧ ts.getLast?.all (!isBlank ·) := by
  simp only [Option.all_eq_true, Bool.not_eq_true', ← Bool.not_eq_true]
  exact ⟨fun ⟨first, last⟩ => ⟨first, last⟩, fun ⟨first, last⟩ => ⟨first, last⟩⟩

instance (ts : List Char) : Decidable (Trimmed ts) := decidable_of_iff _ trimmed_iff.symm

def Trims (cs ts : List Char) : Prop :=
  Trimmed ts ∧ ∃ before after, cs = before ++ (ts ++ after) ∧ (∀ c ∈ before, isBlank c) ∧ ∀ c ∈ after, isBlank c

/-- `seg` follows the last `sep` of `cs`, or is all of it. -/
def LastSegment (sep : Char) (cs seg : List Char) : Prop :=
  sep ∉ seg ∧ (cs = seg ∨ ∃ before, cs = before ++ sep :: seg)

theorem dropWhile_eq_iff :
    cs.dropWhile p = ts ↔ (∀ c ∈ ts.head?, ¬ p c) ∧ ∃ before, cs = before ++ ts ∧ ∀ c ∈ before, p c := by
  constructor
  · rintro rfl
    refine ⟨fun c first => ?_, cs.takeWhile p, List.takeWhile_append_dropWhile.symm, fun _ => List.mem_takeWhile_imp⟩
    have stops := List.head?_dropWhile_not p cs
    rw [Option.mem_def.1 first] at stops
    simp [stops]
  · rintro ⟨first, before, rfl, all⟩
    rw [List.dropWhile_append_of_pos all]
    cases ts with
    | nil => rfl
    | cons c ts => exact List.dropWhile_cons_of_neg (first c rfl)

theorem dropWhileEnd_eq_iff :
    dropWhileEnd p cs = ts ↔ (∀ c ∈ ts.getLast?, ¬ p c) ∧ ∃ after, cs = ts ++ after ∧ ∀ c ∈ after, p c := by
  rw [dropWhileEnd, List.reverse_eq_iff, dropWhile_eq_iff, List.head?_reverse]
  refine and_congr_right fun _ => ⟨?_, ?_⟩
  · rintro ⟨before, parts, all⟩
    refine ⟨before.reverse, ?_, fun c mem => all c (List.mem_reverse.1 mem)⟩
    rw [← List.reverse_reverse cs, parts, List.reverse_append, List.reverse_reverse]
  · rintro ⟨after, rfl, all⟩
    exact ⟨after.reverse, List.reverse_append, fun c mem => all c (List.mem_reverse.1 mem)⟩

theorem trim_eq_iff : trim cs = ts ↔ Trims cs ts := by
  rw [trim, dropWhileEnd_eq_iff]
  constructor
  · rintro ⟨last, after, inner, blankAfter⟩
    obtain ⟨first, before, outer, blankBefore⟩ := dropWhile_eq_iff.1 inner
    refine ⟨⟨fun c mem => first c ?_, last⟩, before, after, outer, blankBefore, blankAfter⟩
    rw [Option.mem_def] at mem ⊢
    rw [List.head?_append, mem, Option.some_or]
  · rintro ⟨⟨first, last⟩, before, after, rfl, blankBefore, blankAfter⟩
    refine ⟨last, ?_⟩
    rw [List.dropWhile_append_of_pos blankBefore]
    cases ts with
    | nil => exact ⟨[], by rw [List.nil_append, List.append_nil, List.dropWhile_eq_nil_iff.2 blankAfter], nofun⟩
    | cons c ts => exact ⟨after, List.dropWhile_cons_of_neg (first c rfl), blankAfter⟩

theorem trims_trim (cs : List Char) : Trims cs (trim cs) := trim_eq_iff.1 rfl

theorem LastSegment.getLast? (segment : LastSegment sep cs seg) (nonempty : seg ≠ []) :
    seg.getLast? = cs.getLast? := by
  obtain ⟨-, rfl | ⟨before, rfl⟩⟩ := segment
  · rfl
  · cases seg with
    | nil => exact absurd rfl nonempty
    | cons c seg => rw [List.getLast?_append, List.getLast?_cons_cons, List.getLast?_cons, Option.some_or]

theorem lastSegment_eq_iff : lastSegment sep cs = seg ↔ LastSegment sep cs seg := by
  constructor
  · rintro rfl
    refine ⟨sep_not_mem_lastSegment sep cs, ?_⟩
    have parts := congrArg List.reverse (List.takeWhile_append_dropWhile (p := (· ≠ sep)) (l := cs.reverse))
    rw [List.reverse_append, List.reverse_reverse] at parts
    have stops := List.head?_dropWhile_not (· ≠ sep) cs.reverse
    cases rest : cs.reverse.dropWhile (· ≠ sep) with
    | nil =>
      rw [rest] at parts
      exact .inl parts.symm
    | cons c before =>
      rw [rest] at parts stops
      obtain rfl : c = sep := by simpa using stops
      rw [List.reverse_cons, List.append_assoc] at parts
      exact .inr ⟨before.reverse, parts.symm⟩
  · rintro ⟨free, parts⟩
    have others : ∀ c ∈ seg.reverse, decide (c ≠ sep) = true := fun c mem =>
      decide_eq_true fun same => free (same ▸ List.mem_reverse.1 mem)
    rw [lastSegment, List.reverse_eq_iff]
    obtain rfl | ⟨before, rfl⟩ := parts
    · exact List.takeWhile_eq_self_iff.2 others
    · rw [List.reverse_append, List.reverse_cons, List.append_assoc, List.takeWhile_append_of_pos others]
      simp

end GuildFeed.Text
