namespace GuildFeed.Text

def blanks : List Char :=
  ['\t', '\n', '\x0b', '\x0c', '\r', ' ', '\u0085', '\u00a0', '\u1680', '\u2000', '\u2001',
    '\u2002', '\u2003', '\u2004', '\u2005', '\u2006', '\u2007', '\u2008', '\u2009', '\u200a',
    '\u2028', '\u2029', '\u202f', '\u205f', '\u3000']

def isBlank (c : Char) : Bool := blanks.contains c

def dropWhileEnd (p : Char → Bool) (cs : List Char) : List Char :=
  (cs.reverse.dropWhile p).reverse

def trim (cs : List Char) : List Char :=
  dropWhileEnd isBlank (cs.dropWhile isBlank)

def lastSegment (sep : Char) (cs : List Char) : List Char :=
  (cs.reverse.takeWhile (· ≠ sep)).reverse

theorem sep_not_mem_lastSegment (sep : Char) (cs : List Char) : sep ∉ lastSegment sep cs := by
  intro h
  have := List.all_takeWhile (p := (· ≠ sep)) (l := cs.reverse)
  rw [List.all_eq_true] at this
  simpa using this sep (by simpa [lastSegment] using h)

end GuildFeed.Text
