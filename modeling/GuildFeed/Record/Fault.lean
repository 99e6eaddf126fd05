import GuildFeed.Decimal.Shortest
import GuildFeed.Json.Basic
import GuildFeed.Text.Quoted

namespace GuildFeed

inductive Found
  | null
  | bool (b : Bool)
  | integer (n : Int)
  | double (x : Double)
  | string (s : String)
  | sequence
  | map
  deriving DecidableEq

inductive Wanted
  | string
  | boolean
  | sequence
  | unsigned (bits : Nat)
  | signed (bits : Nat)
  | record (name : String)
  | identifier
  | variant
  | unit
  | singleKey
  deriving DecidableEq

inductive Fault
  | wrongType (found : Found) (wanted : Wanted)
  | wrongValue (found : Found) (wanted : Wanted)
  | missingField (name : String)
  | duplicateField (name : String)
  | unknownVariant (name : String) (known : List String)
  | unknownNumber (n : Nat) (known : List Nat)
  | tooShort (index : Nat) (record : String) (size : Nat)
  | tooLong (length : Nat)
  | tooLongInside (length size : Nat)
  deriving DecidableEq

def Found.of : Json → Found
  | .null => .null
  | .bool b => .bool b
  | .integer n => .integer n
  | .double x => .double x
  | .string s => .string s
  | .array _ => .sequence
  | .object _ => .map

def ticked (s : String) : String := "`" ++ s ++ "`"

def Found.message : Found → String
  | .null => "null"
  | .bool b => "boolean " ++ ticked (if b then "true" else "false")
  | .integer n => "integer " ++ ticked (toString n)
  | .double x => "floating point " ++ ticked (.ofList (x.text .json))
  | .string s => "string " ++ Text.quote s
  | .sequence => "sequence"
  | .map => "map"

def Wanted.message : Wanted → String
  | .string => "a string"
  | .boolean => "a boolean"
  | .sequence => "a sequence"
  | .unsigned bits => "u" ++ toString bits
  | .signed bits => "i" ++ toString bits
  | .record name => "struct " ++ name
  | .identifier => "an unsigned integer or a string containing one"
  | .variant => "string or map"
  | .unit => "unit"
  | .singleKey => "map with a single key"

def elements (n : Nat) : String := toString n ++ if n = 1 then " element" else " elements"

def Fault.message : Fault → String
  | .wrongType found wanted => "invalid type: " ++ found.message ++ ", expected " ++ wanted.message
  | .wrongValue found wanted =>
    "invalid value: " ++ found.message ++ ", expected " ++ wanted.message
  | .missingField name => "missing field " ++ ticked name
  | .duplicateField name => "duplicate field " ++ ticked name
  | .unknownVariant name known =>
    "unknown variant " ++ ticked name ++ ", expected one of "
      ++ ", ".intercalate (known.map ticked)
  | .unknownNumber n known =>
    "invalid value: " ++ toString n ++ ", expected one of: "
      ++ ", ".intercalate (known.map toString)
  | .tooShort index record size =>
    "invalid length " ++ toString index ++ ", expected struct " ++ record
      ++ " with " ++ elements size
  | .tooLong length => "invalid length " ++ toString length ++ ", expected fewer elements in array"
  | .tooLongInside length size =>
    "invalid length " ++ toString length ++ ", expected " ++ elements size ++ " in sequence"

end GuildFeed
