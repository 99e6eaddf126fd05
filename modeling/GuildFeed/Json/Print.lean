import GuildFeed.Decimal.Shortest
import GuildFeed.Json.Basic

namespace GuildFeed.Json

def printChar (c : Char) : String :=
  match c with
  | '"' => "\\\""
  | '\\' => "\\\\"
  | '\x08' => "\\b"
  | '\x0c' => "\\f"
  | '\n' => "\\n"
  | '\r' => "\\r"
  | '\t' => "\\t"
  | c =>
    if c.toNat < 16 then "\\u000" ++ .ofList (Nat.toDigits 16 c.toNat)
    else if c.toNat < 32 then "\\u00" ++ .ofList (Nat.toDigits 16 c.toNat)
    else c.toString

def printString (s : String) : String :=
  s.foldl (fun acc c => acc ++ printChar c) "\"" ++ "\""

mutual

def printOnto (acc : String) : Json → String
  | .null => acc ++ "null"
  | .bool true => acc ++ "true"
  | .bool false => acc ++ "false"
  | .integer n => acc ++ toString n
  | .double x => acc ++ .ofList (x.text .json)
  | .string s => acc ++ printString s
  | .array items => printItems (acc.push '[') items ++ "]"
  | .object fields => printFields (acc.push '\x7b') fields ++ "\x7d"

def printItems (acc : String) : List Json → String
  | [] => acc
  | [v] => printOnto acc v
  | v :: w :: vs => printItems ((printOnto acc v).push ',') (w :: vs)

def printFields (acc : String) : List (String × Json) → String
  | [] => acc
  | [(k, v)] => printOnto (acc ++ printString k ++ ":") v
  | (k, v) :: f :: fs =>
    printFields ((printOnto (acc ++ printString k ++ ":") v).push ',') (f :: fs)

end

def print (v : Json) : String := printOnto "" v

end GuildFeed.Json
