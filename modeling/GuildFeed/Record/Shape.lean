import GuildFeed.Patch

/-!
# Shapes of records

A shape lists the fields of a record in the order of their declaration. It can be read from an
object, where fields are found by name and unknown keys are ignored, and from an array, where they
are found by position.

In an object the fault at the first key counts, in the order of the keys; only if there is none, a
missing field, in the order of declaration. In an array the first fault from the left counts.
-/

namespace GuildFeed

inductive Gathered (α : Type)
  | ok (a : α)
  | bad (place : Nat) (fault : Fault)
  | missing (name : String)

namespace Gathered
variable {α β : Type}

def seq (f : Gathered (α → β)) (x : Gathered α) : Gathered β :=
  match f, x with
  | ok f, ok a => ok (f a)
  | bad i e, bad j e' => if j < i then bad j e' else bad i e
  | bad i e, _ => bad i e
  | _, bad j e => bad j e
  | missing n, _ => missing n
  | _, missing n => missing n

def ofExcept (place : Nat) : Except Fault α → Gathered α
  | .ok a => ok a
  | .error e => bad place e

def toExcept : Gathered α → Except Fault α
  | ok a => .ok a
  | bad _ e => .error e
  | missing name => .error (.missingField name)

theorem seq_eq_ok {f : Gathered (α → β)} {x : Gathered α} {b : β} :
    f.seq x = ok b ↔ ∃ g a, f = ok g ∧ x = ok a ∧ g a = b := by
  cases f <;> cases x <;> simp [seq]
  split <;> simp

end Gathered

structure Shape (α : Type) where
  size : Nat
  fromObject : Json.Fields → Gathered α
  fromArray : (short : Nat → Fault) → (i : Nat) → List Json → Except Fault α

namespace Shape
variable {α β : Type}

instance : Functor Shape where
  map f s :=
    { size := s.size
      fromObject := fun fs => (Gathered.ok f).seq (s.fromObject fs)
      fromArray := fun short i vs => (s.fromArray short i vs).map f }

instance : Seq Shape where
  seq f s :=
    let s := s ()
    { size := f.size + s.size
      fromObject := fun fs => (f.fromObject fs).seq (s.fromObject fs)
      fromArray := fun short i vs => do
        let g ← f.fromArray short i vs
        let a ← s.fromArray short (i + f.size) (vs.drop f.size)
        pure (g a) }

def orElse {γ : Type} (absent : Option α) (refused : γ) (accept : α → γ) : γ :=
  match absent with
  | some a => accept a
  | none => refused

def field (name : String) (read : Reader α) (inObject inArray : Option α) : Shape α where
  size := 1
  fromObject fs :=
    match Json.field? fs name with
    | some (i, v) => .ofExcept i (read v)
    | none => orElse inObject (.missing name) .ok
  fromArray short i vs :=
    match vs with
    | v :: _ => read v
    | [] => orElse inArray (.error (short i)) .ok

def required (name : String) (read : Reader α) : Shape α := field name read none none

def defaulted (name : String) (default : α) (read : Reader α) : Shape α :=
  field name read (some default) (some default)

def optional (name : String) (read : Reader α) : Shape (Option α) :=
  defaulted name none (.option read)

/-- May be left out of an object, but not of an array. -/
def named (name : String) (read : Reader α) : Shape (Option α) :=
  field name (.option read) (some none) none

def patched (name : String) (read : Reader α) : Shape (Patch α) :=
  defaulted name .absent (Patch.read read)

/-- A patch under either of two names, of which `name` comes first. Both at once are a fault. -/
def patchedEither (name other : String) (read : Reader α) : Shape (Patch α) where
  size := 1
  fromObject fs :=
    match Json.field? fs name, Json.field? fs other with
    | some (i, v), some (j, _) =>
      match Patch.read read v with
      | .ok _ => .bad j (.duplicateField name)
      | .error e => .bad i e
    | some (i, v), none | none, some (i, v) => .ofExcept i (Patch.read read v)
    | none, none => .ok .absent
  fromArray short i vs := (patched name read).fromArray short i vs

def readWith (tooLong : Nat → Fault) (name : String) (s : Shape α) : Reader α
  | .object fs => (s.fromObject fs).toExcept
  | .array vs => do
    let a ← s.fromArray (.tooShort · name s.size) 0 vs
    if s.size < vs.length then throw (tooLong vs.length)
    pure a
  | v => Reader.refuse (.record name) v

def read (name : String) (s : Shape α) : Reader α := s.readWith .tooLong name

def readInside (name : String) (s : Shape α) : Reader α :=
  s.readWith (.tooLongInside · s.size) name

end Shape
end GuildFeed
