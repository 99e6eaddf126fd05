import Mathlib.Data.List.Basic
import GuildFeed.Proofs.Invite

namespace GuildFeed
open Text

structure Link.Plain (text : List Char) : Prop where
  slashless : '/' ∉ text
  colonless : ':' ∉ text
  blankless : ∀ c ∈ text, ¬ isBlank c

theorem Link.plain_iff {text : List Char} : Plain text ↔ text.all fun c => c ≠ '/' && c ≠ ':' && !isBlank c := by
  simp only [List.all_eq_true, Bool.and_eq_true, decide_eq_true_eq, Bool.not_eq_true', ← Bool.not_eq_true]
  constructor
  · rintro ⟨slashless, colonless, blankless⟩ c mem
    exact ⟨⟨ne_of_mem_of_not_mem mem slashless, ne_of_mem_of_not_mem mem colonless⟩, blankless c mem⟩
  · intro all
    exact ⟨fun mem => (all _ mem).1.1 rfl, fun mem => (all _ mem).1.2 rfl, fun c mem => (all c mem).2⟩

instance (text : List Char) : Decidable (Link.Plain text) := decidable_of_iff _ Link.plain_iff.symm

structure Link.Part where
  text : List Char
  nonempty : text ≠ []
  plain : Link.Plain text

structure Link where
  before : List Char
  scheme : List Char
  authority : Link.Part
  path : List Link.Part
  slashes : Nat
  after : List Char
  blankBefore : ∀ c ∈ before, isBlank c
  plainScheme : Link.Plain scheme
  blankAfter : ∀ c ∈ after, isBlank c

namespace Link

def body (l : Link) : List Char :=
  l.scheme ++ "://".toList ++ (l.authority.text ++ l.path.flatMap fun s => '/' :: s.text)

def text (l : Link) : String :=
  .ofList (l.before ++ (l.body ++ List.replicate l.slashes '/' ++ l.after))

def lastPart (l : Link) : Part := l.path.getLast?.getD l.authority

def invite? (l : Link) : Option Invite := l.path.getLast?.map fun s => ⟨.ofList s.text, none⟩

theorem body_eq (l : Link) : ∃ before, l.body = before ++ '/' :: l.lastPart.text := by
  rcases List.eq_nil_or_concat l.path with path | ⟨segments, last, path⟩
  · refine ⟨l.scheme ++ [':', '/'], ?_⟩
    simp [body, lastPart, path]
  · refine ⟨l.scheme ++ "://".toList ++ (l.authority.text ++ segments.flatMap fun s => '/' :: s.text), ?_⟩
    simp [body, lastPart, path]

theorem trims_text (l : Link) : Trims l.text.toList (l.body ++ List.replicate l.slashes '/') := by
  refine ⟨⟨?_, ?_⟩, l.before, l.after, by rw [text, String.toList_ofList], l.blankBefore, l.blankAfter⟩
  · intro c first
    rw [body, List.append_assoc, List.head?_append_of_ne_nil _ (by simp)] at first
    have marks : ∀ c ∈ "://".toList, ¬ isBlank c := by simp [isBlank, blanks]
    obtain mem | mem := List.mem_append.1 (List.mem_of_mem_head? first)
    · exact l.plainScheme.blankless c mem
    · exact marks c mem
  · intro c last
    obtain ⟨before, body⟩ := l.body_eq
    rw [body, List.append_assoc, List.getLast?_append_of_ne_nil _ (by simp)] at last
    have mem : c ∈ l.lastPart.text ∨ c = '/' := by
      have mem := List.mem_of_mem_getLast? last
      simp only [List.cons_append, List.mem_cons, List.mem_append, List.mem_replicate] at mem
      tauto
    obtain mem | rfl := mem
    · exact l.lastPart.plain.blankless c mem
    · decide

theorem codeOf_text (l : Link) : Invite.codeOf l.text.toList = l.lastPart.text := by
  obtain ⟨before, body⟩ := l.body_eq
  have segment : LastSegment '/' l.body l.lastPart.text := ⟨l.lastPart.plain.slashless, .inr ⟨before, body⟩⟩
  refine Invite.codeOf_eq_iff.2 ⟨l.body, List.replicate l.slashes '/', ?_⟩
  exact
    { text := trim_eq_iff.2 l.trims_text
      slashes := fun c mem => List.eq_of_mem_replicate mem
      last := Invite.last_ne_slash segment l.lastPart.nonempty
      segment := segment }

/-- The part after the last slash is read, and nothing else of the link. It is the code that is meant
exactly if the link has a path. -/
theorem ofLink?_text (l : Link) :
    Invite.ofLink? l.text = some ⟨.ofList l.lastPart.text, none⟩ ∧
      (Invite.ofLink? l.text = l.invite? ↔ l.path ≠ []) := by
  have read : Invite.ofLink? l.text = some ⟨.ofList l.lastPart.text, none⟩ := by
    refine Invite.ofLink?_eq_some.2 ?_
    simp only [String.toList_ofList]
    exact ⟨l.codeOf_text, trivial, l.lastPart.nonempty, l.lastPart.plain.colonless⟩
  refine ⟨read, ?_⟩
  rw [read, invite?, lastPart]
  cases path : l.path.getLast? with
  | none => simp [List.getLast?_eq_none_iff.1 path]
  | some s =>
    have nonempty : l.path ≠ [] := fun empty => by simp [empty] at path
    simp [nonempty]

def site : Link where
  before := []
  scheme := "https".toList
  authority := ⟨"discord.gg".toList, by decide, by decide⟩
  path := []
  slashes := 0
  after := []
  blankBefore := nofun
  plainScheme := by decide
  blankAfter := nofun

def invitation : Link where
  before := ['\t', ' ']
  scheme := site.scheme
  authority := site.authority
  path := [⟨"invite".toList, by decide, by decide⟩, ⟨"h4BGGyR".toList, by decide, by decide⟩]
  slashes := 2
  after := ['\n']
  blankBefore := by simp [isBlank, blanks]
  plainScheme := site.plainScheme
  blankAfter := by simp [isBlank, blanks]

theorem ofLink?_invitation :
    invitation.text = "\t https://discord.gg/invite/h4BGGyR//\n" ∧
      Invite.ofLink? invitation.text = some ⟨"h4BGGyR", none⟩ := by
  have text : invitation.text = "\t https://discord.gg/invite/h4BGGyR//\n" := by decide +kernel
  exact ⟨text, (ofLink?_text invitation).1⟩

theorem site_has_code : ¬ ∀ l : Link, Invite.ofLink? l.text = l.invite? := by
  intro all
  have read : Invite.ofLink? site.text = some ⟨"discord.gg", none⟩ := by decide +kernel
  have meant : site.invite? = none := rfl
  rw [all site, meant] at read
  cases read

end Link
end GuildFeed
