import Mathlib.Data.List.Forall2
import GuildFeed.Patch
import GuildFeed.Text.Numeral

/-!
# Renderings

Which JSON values stand for a value. Of an object only the fields count that the record is known
by, each with a freedom of its own: what is empty or has its default may be left out, and a word may
be sent as a number or as any numeral of it. Whatever else an object holds says nothing.
-/

namespace GuildFeed

abbrev Rendering (α : Type) := α → Json → Prop

namespace Rendering
variable {α : Type}

def exactly (write : α → Json) : Rendering α := fun a v => v = write a

inductive word (w : UInt64) : Json → Prop
  | number : word w (.integer w.toNat)
  | numeral {s : String} (denotes : Text.Denotes s.toList w.toNat) : word w (.string s)

inductive list (r : Rendering α) (as : List α) : Json → Prop
  | items {vs : List Json} (each : List.Forall₂ r as vs) : list r as (.array vs)

inductive object (p : α → Json.Fields → Prop) (a : α) : Json → Prop
  | fields {fs : Json.Fields} (known : p a fs) : object p a (.object fs)

end Rendering

namespace Json.Fields
variable {α : Type}

theorem lookup_cons (f : String × Json) (fs : Json.Fields) (name : String) :
    List.lookup name (f :: fs) = if name = f.1 then some f.2 else fs.lookup name := by
  rw [List.lookup_cons]
  by_cases here : name = f.1
  · rw [beq_iff_eq.2 here, if_pos here]
  · rw [beq_eq_false_iff_ne.2 here, if_neg here]

def Required (fs : Json.Fields) (name : String) (r : Rendering α) (a : α) : Prop :=
  ∃ v, fs.lookup name = some v ∧ r a v

inductive Defaulted (fs : Json.Fields) (name : String) (default : α) (r : Rendering α) : α → Prop
  | omitted (lacks : fs.lookup name = none) : Defaulted fs name default r default
  | given {a : α} (holds : fs.Required name r a) : Defaulted fs name default r a

inductive Optional (fs : Json.Fields) (name : String) (r : Rendering α) : Option α → Prop
  | omitted (lacks : fs.lookup name = none) : Optional fs name r none
  | null (holds : fs.lookup name = some .null) : Optional fs name r none
  | given {a : α} (holds : fs.Required name r a) : Optional fs name r (some a)

inductive Patched (fs : Json.Fields) (name : String) (r : Rendering α) : Patch α → Prop
  | absent (lacks : fs.lookup name = none) : Patched fs name r .absent
  | null (holds : fs.lookup name = some .null) : Patched fs name r .null
  | value {a : α} (holds : fs.Required name r a) : Patched fs name r (.value a)

def PatchedEither (fs : Json.Fields) (name other : String) (r : Rendering α) (p : Patch α) : Prop :=
  fs.Patched name r p ∧ fs.lookup other = none ∨ fs.Patched other r p ∧ fs.lookup name = none

end Json.Fields
end GuildFeed
