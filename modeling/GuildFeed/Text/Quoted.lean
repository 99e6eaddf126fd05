import GuildFeed.Text.Visible

namespace GuildFeed.Text

def codePoint (c : Char) : List Char :=
  "\\u\x7b".toList ++ Nat.toDigits 16 c.toNat ++ "\x7d".toList

def escape (c : Char) : List Char :=
  match c with
  | '"' => ['\\', '"']
  | '\\' => ['\\', '\\']
  | '\t' => ['\\', 't']
  | '\r' => ['\\', 'r']
  | '\n' => ['\\', 'n']
  | '\x00' => ['\\', '0']
  | c => if isVisible c then [c] else codePoint c

def quote (s : String) : String :=
  .ofList ('"' :: (s.toList.flatMap escape ++ ['"']))

end GuildFeed.Text
