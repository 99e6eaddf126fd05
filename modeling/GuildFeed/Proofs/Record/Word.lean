import GuildFeed.Json.Scan
import GuildFeed.Proofs.Record.Reading
import GuildFeed.Proofs.Record.Writing

namespace GuildFeed

namespace Json

def Literal.append (n : Nat) (ds : List Nat) : Nat := ds.foldl (fun n d => 10 * n + d) n

structure Literal.Whole (l : Literal) (n : Nat) : Prop where
  unsigned : l.negative = false
  fraction : l.fraction = none
  exponent : l.exponent = none
  value : Literal.append 0 l.whole = n

namespace Literal

variable {l : Literal} {n : Nat} {ds : List Nat}

theorem append_cons (n d : Nat) (ds : List Nat) : append n (d :: ds) = append (10 * n + d) ds := rfl

theorem le_append (n : Nat) (ds : List Nat) : n ≤ append n ds := by
  induction ds generalizing n with
  | nil => exact le_rfl
  | cons d ds ih =>
    have rest := ih (10 * n + d)
    rw [append_cons]
    omega

theorem absorb_of_lt (fits : append n ds < UInt64.size) : absorb n ds = (append n ds, ds.length) := by
  induction ds generalizing n with
  | nil => rfl
  | cons d ds ih =>
    have here : 10 * n + d < UInt64.size := (le_append _ ds).trans_lt fits
    rw [absorb, if_pos here, ih fits]
    rfl

theorem absorb_of_le (small : n < UInt64.size) (past : UInt64.size ≤ append n ds) : (absorb n ds).2 < ds.length := by
  induction ds generalizing n with
  | nil => exact absurd past (not_le.2 small)
  | cons d ds ih =>
    rw [absorb]
    split
    · next here => exact Nat.succ_lt_succ (ih here past)
    · exact Nat.succ_pos _

theorem append_of_absorb {used : Nat} (absorbed : absorb 0 ds = (n, used)) (all : ds.length ≤ used) :
    append 0 ds = n := by
  obtain fits | past := lt_or_ge (append 0 ds) UInt64.size
  · exact congrArg Prod.fst ((absorb_of_lt fits).symm.trans absorbed)
  · have short := absorb_of_le (by decide) past
    rw [absorbed] at short
    exact absurd all (not_le.2 short)

theorem value?_eq_some {v : Json} (read : l.value? = some v) :
    (∃ n : Nat, v = .integer n ∧ l.Whole n) ∨ (∃ n : Nat, v = .integer (-n) ∧ 0 < n) ∨ ∃ x, v = .double x := by
  rw [value?] at read
  rcases absorbed : absorb 0 l.whole with ⟨n, used⟩
  simp only [absorbed] at read
  split at read
  · next plain =>
    obtain ⟨fraction, exponent, all, unsigned⟩ := plain
    have value : append 0 l.whole = n := append_of_absorb absorbed (Nat.le_of_sub_eq_zero all)
    refine .inl ⟨n, (Option.some.inj read).symm, eq_false_of_ne_true unsigned, ?_, ?_, value⟩
    · exact Option.isNone_iff_eq_none.1 fraction
    · exact Option.isNone_iff_eq_none.1 exponent
  · split at read
    · next negative => exact .inr (.inl ⟨n, (Option.some.inj read).symm, negative.2.2.2.1⟩)
    · obtain ⟨x, -, rfl⟩ := Option.map_eq_some_iff.1 read
      exact .inr (.inr ⟨x, rfl⟩)

theorem Whole.value?_eq (whole : l.Whole n) (fits : n < UInt64.size) : l.value? = some (.integer n) := by
  obtain ⟨unsigned, fraction, exponent, rfl⟩ := whole
  simp [value?, absorb_of_lt fits, unsigned, fraction, exponent]

end Literal
end Json

namespace Reader

variable {v v' : Json} {w w' : UInt64}

theorem stands_integer_iff {n : Int} : Rendering.word w (.integer n) ↔ n = w.toNat := by
  constructor
  · rintro ⟨⟩
    rfl
  · rintro rfl
    exact .number

theorem word_eq_ok : word v = .ok w ↔ Rendering.word w v := by
  refine ⟨fun read => ?_, (undoes_word w).read_eq⟩
  cases v with
  | integer n =>
    rw [word] at read
    split at read
    · next fits =>
      have small : n.toNat < UInt64.size := (Int.toNat_lt fits.1).2 fits.2
      obtain rfl := Except.ok.inj read
      rw [stands_integer_iff, UInt64.toNat_ofNat_of_lt' small, Int.toNat_of_nonneg fits.1]
    · cases read
  | string s =>
    rw [word] at read
    split at read
    · next reads =>
      obtain rfl := Except.ok.inj read
      exact .numeral (Text.word?_eq_some_iff.1 reads)
    · cases read
  | _ => cases read

theorem word_eq_error (none : ∀ w, ¬ Rendering.word w v) :
    word v = .error (.wrongType (.of v) .identifier) ∨ word v = .error (.wrongValue (.of v) .identifier) := by
  have refused : ∀ w, word v ≠ .ok w := fun w read => none w (word_eq_ok.1 read)
  cases v with
  | integer n =>
    rw [word] at refused ⊢
    split
    · next fits => exact absurd (if_pos fits) (refused _)
    · exact .inr rfl
  | string s =>
    rw [word] at refused ⊢
    split
    · next reads => exact absurd (by rw [reads]) (refused _)
    · exact .inr rfl
  | _ => exact .inl rfl

theorem word_literal {l : Json.Literal} (scanned : l.value? = some v) : Rendering.word w v ↔ l.Whole w.toNat := by
  constructor
  · intro stands
    obtain ⟨n, rfl, whole⟩ | ⟨n, rfl, positive⟩ | ⟨x, rfl⟩ := Json.Literal.value?_eq_some scanned
    · rwa [← Int.ofNat_inj.1 (stands_integer_iff.1 stands)]
    · have same := stands_integer_iff.1 stands
      omega
    · cases stands
  · intro whole
    obtain rfl := Option.some.inj ((whole.value?_eq w.toNat_lt).symm.trans scanned)
    exact .number

theorem eq_ofWord_iff : v = .ofWord w ↔ ∃ s, v = .string s ∧ Text.Canonical s.toList w.toNat := by
  simp only [Text.canonical_iff]
  constructor
  · rintro rfl
    exact ⟨_, rfl, String.toList_ofList⟩
  · rintro ⟨s, rfl, numeral⟩
    rw [Json.ofWord, ← numeral, String.ofList_toList]

/-- The values of a type are words, and they are read and written as words are. -/
structure Words {α : Type} (read : Reader α) (render : α → Json) (number : α → UInt64) : Prop where
  reads : ∀ v w, (read v).map number = .ok w ↔ Rendering.word w v
  refuses : ∀ v, (∀ w, ¬ Rendering.word w v) →
    read v = .error (.wrongType (.of v) .identifier) ∨ read v = .error (.wrongValue (.of v) .identifier)
  literals : ∀ (l : Json.Literal) v w, l.value? = some v → ((read v).map number = .ok w ↔ l.Whole w.toNat)
  writes : ∀ a v, v = render a ↔ ∃ s, v = .string s ∧ Text.Canonical s.toList (number a).toNat
  returns : ∀ a, read (render a) = .ok a
  identifies : ∀ v v' w w', Rendering.word w v → Rendering.word w' v' → (read v = read v' ↔ w = w')

theorem words_of_word {α : Type} {make : UInt64 → α} {number : α → UInt64} (number_make : ∀ w, number (make w) = w)
    (make_number : ∀ a, make (number a) = a) :
    Words (fun v => (word v).map make) (fun a => .ofWord (number a)) number := by
  have reads (v w) : ((word v).map make).map number = .ok w ↔ Rendering.word w v := by
    rw [← word_eq_ok]
    cases word v <;> simp [Except.map, number_make]
  have stands {v w} (renders : Rendering.word w v) : (word v).map make = .ok (make w) := by
    rw [word_eq_ok.2 renders, Except.map]
  exact
    { reads := reads
      refuses := by
        intro v none
        obtain fault | fault := word_eq_error none
        all_goals simp [fault, Except.map]
      literals := fun l v w scanned => (reads v w).trans (word_literal scanned)
      writes := fun a v => eq_ofWord_iff
      returns := fun a => by rw [stands (Rendering.word_ofWord _), make_number]
      identifies := by
        intro v v' w w' renders renders'
        rw [stands renders, stands renders', Except.ok.injEq]
        exact (Function.LeftInverse.injective number_make).eq_iff }

end Reader

/-- Identifiers of every kind and sets of permissions are read from just the numbers and numerals
below `2 ^ 64`. -/
theorem read_just_words :
    (∀ kind, Reader.Words (@Snowflake.read kind) Snowflake.render Snowflake.word) ∧
      Reader.Words Permissions.read Permissions.render Permissions.bits :=
  ⟨fun _ => Reader.words_of_word (fun _ => rfl) fun _ => rfl, Reader.words_of_word (fun _ => rfl) fun _ => rfl⟩

end GuildFeed
