import GuildFeed.Decimal.Double

namespace GuildFeed

inductive Json
  | null
  | bool (b : Bool)
  | integer (n : Int)
  | double (x : Double)
  | string (s : String)
  | array (items : List Json)
  | object (fields : List (String × Json))

namespace Json

abbrev Fields := List (String × Json)

def insertField (k : String) (v : Json) : Fields → Fields
  | [] => [(k, v)]
  | f :: fs =>
    if k < f.1 then (k, v) :: f :: fs
    else if k = f.1 then (k, v) :: fs
    else f :: insertField k v fs

/-- Fields in order of their keys; of a key written twice the last value counts. -/
def sortFields (fs : Fields) : Fields :=
  fs.foldl (fun acc f => insertField f.1 f.2 acc) []

def ofFields (fs : Fields) : Json := .object (sortFields fs)

def ofPresent (fs : List (String × Option Json)) : Json :=
  ofFields (fs.filterMap fun f => f.2.map (f.1, ·))

def field? (fs : Fields) (k : String) : Option (Nat × Json) :=
  (fs.zipIdx.find? (·.1.1 = k)).map fun e => (e.2, e.1.2)

def get? (v : Json) (k : String) : Option Json :=
  match v with
  | .object fs => (field? fs k).map (·.2)
  | _ => none

def ofOption {α : Type} (render : α → Json) (o : Option α) : Json := (o.map render).getD .null

def ofList {α : Type} (render : α → Json) (xs : List α) : Json := .array (xs.map render)

def ofNat (n : Nat) : Json := .integer n

mutual

def decEq : (a b : Json) → Decidable (a = b)
  | .null, .null => isTrue rfl
  | .bool a, .bool b => decidable_of_iff (a = b) (by simp)
  | .integer a, .integer b => decidable_of_iff (a = b) (by simp)
  | .double a, .double b => decidable_of_iff (a = b) (by simp)
  | .string a, .string b => decidable_of_iff (a = b) (by simp)
  | .array a, .array b =>
    have := decEqItems a b
    decidable_of_iff (a = b) (by simp)
  | .object a, .object b =>
    have := decEqFields a b
    decidable_of_iff (a = b) (by simp)
  | .null, .bool _ | .null, .integer _ | .null, .double _ | .null, .string _ | .null, .array _
  | .null, .object _ | .bool _, .null | .bool _, .integer _ | .bool _, .double _
  | .bool _, .string _ | .bool _, .array _ | .bool _, .object _ | .integer _, .null
  | .integer _, .bool _ | .integer _, .double _ | .integer _, .string _ | .integer _, .array _
  | .integer _, .object _ | .double _, .null | .double _, .bool _ | .double _, .integer _
  | .double _, .string _ | .double _, .array _ | .double _, .object _ | .string _, .null
  | .string _, .bool _ | .string _, .integer _ | .string _, .double _ | .string _, .array _
  | .string _, .object _ | .array _, .null | .array _, .bool _ | .array _, .integer _
  | .array _, .double _ | .array _, .string _ | .array _, .object _ | .object _, .null
  | .object _, .bool _ | .object _, .integer _ | .object _, .double _ | .object _, .string _
  | .object _, .array _ => isFalse (by simp)

def decEqItems : (a b : List Json) → Decidable (a = b)
  | [], [] => isTrue rfl
  | x :: a, y :: b =>
    have := decEq x y
    have := decEqItems a b
    decidable_of_iff (x = y ∧ a = b) (by simp)
  | [], _ :: _ | _ :: _, [] => isFalse (by simp)

def decEqFields : (a b : List (String × Json)) → Decidable (a = b)
  | [], [] => isTrue rfl
  | (k, x) :: a, (l, y) :: b =>
    have := decEq x y
    have := decEqFields a b
    decidable_of_iff ((k = l ∧ x = y) ∧ a = b) (by simp)
  | [], _ :: _ | _ :: _, [] => isFalse (by simp)

end

instance : DecidableEq Json := decEq

end Json
end GuildFeed
