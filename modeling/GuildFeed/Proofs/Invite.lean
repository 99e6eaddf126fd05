import GuildFeed.Invite
import GuildFeed.Proofs.Text.Trimming

namespace GuildFeed.Invite
open Text

variable {link code body slashes : List Char} {i : Invite}

structure Parts (text body slashes code : List Char) : Prop where
  text : text = body ++ slashes
  slashes : ∀ c ∈ slashes, c = '/'
  last : ∀ c ∈ body.getLast?, c ≠ '/'
  segment : LastSegment '/' body code

theorem codeOf_eq_iff : codeOf link = code ↔ ∃ body slashes, Parts (trim link) body slashes code := by
  have cut {body : List Char} : dropWhileEnd (· = '/') (trim link) = body ↔
      (∀ c ∈ body.getLast?, c ≠ '/') ∧ ∃ slashes, trim link = body ++ slashes ∧ ∀ c ∈ slashes, c = '/' := by
    simpa using @dropWhileEnd_eq_iff (· = '/') (trim link) body
  rw [codeOf, lastSegment_eq_iff]
  constructor
  · intro segment
    obtain ⟨last, slashes, text, all⟩ := cut.1 rfl
    exact ⟨_, slashes, text, all, last, segment⟩
  · rintro ⟨body, slashes, text, all, last, segment⟩
    rwa [cut.2 ⟨last, slashes, text, all⟩]

theorem last_ne_slash (segment : LastSegment '/' body code) (nonempty : code ≠ []) : ∀ c ∈ body.getLast?, c ≠ '/' := by
  rw [← segment.getLast? nonempty]
  rintro c last rfl
  exact segment.1 (List.mem_of_mem_getLast? last)

theorem codeOf_of_trimmed (trimmed : Trimmed code) (free : '/' ∉ code) (nonempty : code ≠ []) : codeOf code = code := by
  have whole : trim code = code := trim_eq_iff.2 ⟨trimmed, [], [], by simp⟩
  have segment : LastSegment '/' code code := ⟨free, .inl rfl⟩
  exact codeOf_eq_iff.2 ⟨code, [], by rw [whole, List.append_nil], nofun, last_ne_slash segment nonempty, segment⟩

theorem ofLink?_eq_some {link : String} : ofLink? link = some i ↔
    codeOf link.toList = i.code.toList ∧ i.phrase = none ∧ i.code.toList ≠ [] ∧ ':' ∉ i.code.toList := by
  simp only [ofLink?]
  constructor
  · intro read
    split at read
    · cases read
    · next usable =>
      obtain rfl := Option.some.inj read
      obtain ⟨present, colonless⟩ := not_or.1 usable
      simp only [String.toList_ofList]
      exact ⟨trivial, trivial, present, colonless⟩
  · rintro ⟨code, phrase, present, colonless⟩
    rw [code, if_neg (not_or.2 ⟨present, colonless⟩), String.ofList_toList, ← phrase]

structure Normal (i : Invite) : Prop where
  nonempty : i.code ≠ ""
  slashless : '/' ∉ i.code.toList
  colonless : ':' ∉ i.code.toList
  trimmed : Trimmed i.code.toList
  fixed : ofLink? i.code = some i

/-- A blank stands right before the slashes at the end of a text, or right after the last slash that
is not one of these. -/
def Loose (text : List Char) : Prop :=
  ∃ before b slashes, isBlank b ∧ (∀ c ∈ slashes, c = '/') ∧
    (text = before ++ b :: '/' :: slashes ∨
      ∃ rest, '/' ∉ rest ∧ text = before ++ '/' :: b :: (rest ++ slashes))

theorem ne_slash_of_isBlank {b : Char} (blank : isBlank b) : b ≠ '/' := by
  rintro rfl
  exact absurd blank (by decide)

theorem trimmed_of_tight (tight : ¬ Loose (trim link)) (parts : Parts (trim link) body slashes code)
    (nonempty : code ≠ []) : Trimmed code := by
  have trimmed := (trims_trim link).1
  rw [parts.text] at trimmed tight
  constructor
  · intro c first blank
    obtain ⟨free, rfl | ⟨before, rfl⟩⟩ := parts.segment
    · refine trimmed.first c ?_ blank
      rw [Option.mem_def] at first ⊢
      rw [List.head?_append, first, Option.some_or]
    · obtain ⟨rest, rfl⟩ := List.head?_eq_some_iff.1 first
      have rest_free : '/' ∉ rest := fun mem => free (List.mem_cons_of_mem c mem)
      exact tight ⟨before, c, slashes, blank, parts.slashes, .inr ⟨rest, rest_free, by simp⟩⟩
  · intro c last blank
    rw [parts.segment.getLast? nonempty] at last
    obtain ⟨before, rfl⟩ := List.getLast?_eq_some_iff.1 last
    cases slashes with
    | nil => exact trimmed.last c (by simp) blank
    | cons slash slashes =>
      obtain ⟨rfl, all⟩ := List.forall_mem_cons.1 parts.slashes
      exact tight ⟨before, c, slashes, blank, all, .inl (by simp)⟩

theorem tight_of_trimmed (nonempty : codeOf link ≠ []) (trimmed : Trimmed (codeOf link)) : ¬ Loose (trim link) := by
  rintro ⟨before, b, slashes, blank, all, text | ⟨rest, free, text⟩⟩
  · have segment : LastSegment '/' (before ++ [b]) (lastSegment '/' (before ++ [b])) := lastSegment_eq_iff.1 rfl
    have code : codeOf link = lastSegment '/' (before ++ [b]) := by
      refine codeOf_eq_iff.2 ⟨before ++ [b], '/' :: slashes, by simp [text], by simpa using all, ?_, segment⟩
      simpa using ne_slash_of_isBlank blank
    rw [code] at nonempty trimmed
    refine trimmed.last b ?_ blank
    rw [segment.getLast? nonempty]
    simp
  · have free : '/' ∉ b :: rest := by simp [(ne_slash_of_isBlank blank).symm, free]
    have segment : LastSegment '/' (before ++ '/' :: b :: rest) (b :: rest) := ⟨free, .inr ⟨before, rfl⟩⟩
    have last := last_ne_slash segment (List.cons_ne_nil b rest)
    have code : codeOf link = b :: rest := codeOf_eq_iff.2 ⟨_, slashes, by simp [text], all, last, segment⟩
    rw [code] at trimmed
    exact trimmed.first b rfl blank

/-- A code read from a link is not empty and has no slash and no colon. It is a normal form unless a
blank comes to light too late. -/
theorem normal_iff_tight {link : String} (read : ofLink? link = some i) :
    i.code ≠ "" ∧ '/' ∉ i.code.toList ∧ ':' ∉ i.code.toList ∧ (Normal i ↔ ¬ Loose (trim link.toList)) := by
  obtain ⟨code, phrase, present, colonless⟩ := ofLink?_eq_some.1 read
  have nonempty : i.code ≠ "" := fun empty => present (by rw [empty]; rfl)
  have slashless : '/' ∉ i.code.toList := code ▸ sep_not_mem_lastSegment '/' _
  refine ⟨nonempty, slashless, colonless, fun normal => ?_, fun tight => ?_⟩
  · exact tight_of_trimmed (code ▸ present) (code ▸ normal.trimmed)
  · obtain ⟨body, slashes, parts⟩ := codeOf_eq_iff.1 code
    have trimmed : Trimmed i.code.toList := trimmed_of_tight tight parts present
    have again := codeOf_of_trimmed trimmed slashless present
    exact ⟨nonempty, slashless, colonless, trimmed, ofLink?_eq_some.2 ⟨again, phrase, present, colonless⟩⟩

theorem normal_of_link :
    let link := " https://www.discord.gg/h4BGGyR/\n"
    ofLink? link = some ⟨"h4BGGyR", none⟩ ∧ Normal ⟨"h4BGGyR", none⟩ ∧ ¬ Loose (trim link.toList) := by
  intro link
  have read : ofLink? link = some ⟨"h4BGGyR", none⟩ := by decide +kernel
  have normal : Normal ⟨"h4BGGyR", none⟩ :=
    ⟨by decide, by decide, by decide, by decide +kernel, by decide +kernel⟩
  exact ⟨read, normal, (normal_iff_tight read).2.2.2.1 normal⟩

theorem not_normal_of_blank_before_slash :
    ¬ ∀ (link : String) (i : Invite), ofLink? link = some i → Normal i := by
  intro all
  have read : ofLink? "h4BGGyR /" = some ⟨"h4BGGyR ", none⟩ := by decide +kernel
  exact (all _ _ read).trimmed.last ' ' (by decide) (by decide)

end GuildFeed.Invite
