/-!
# White space

Three sets of white space are in use. Variable lists are separated by the six
blanks of the wire format, all of them ASCII. Numbers that people write may be
surrounded by any character with the Unicode property White_Space. Where a
server's text is searched for a number, the four ASCII information separators
count as white space too.
-/

namespace NtpQuery.Text

/-- Space, tab, line feed, carriage return, vertical tab and form feed. -/
def isSpacing (c : Char) : Bool :=
  c = ' ' || (9 ≤ c.toNat && c.toNat ≤ 13)

/-- Closed ranges of code points with the property White_Space, ascending and apart. -/
def blankRanges : List (Nat × Nat) :=
  [(0x09, 0x0D), (0x20, 0x20), (0x85, 0x85), (0xA0, 0xA0), (0x1680, 0x1680), (0x2000, 0x200A),
   (0x2028, 0x2029), (0x202F, 0x202F), (0x205F, 0x205F), (0x3000, 0x3000)]

/-- White space of any script. -/
def isBlank (c : Char) : Bool :=
  blankRanges.any fun (first, last) => first ≤ c.toNat && c.toNat ≤ last

/-- White space of any script or an information separator. -/
def isBlankOrSeparator (c : Char) : Bool :=
  isBlank c || (0x1C ≤ c.toNat && c.toNat ≤ 0x1F)

/-- The text without the characters of a class at its two ends. -/
def trim (drop : Char → Bool) (text : List Char) : List Char :=
  ((text.dropWhile drop).reverse.dropWhile drop).reverse

example :
    blankRanges.foldr (fun (first, last) count => last + 1 - first + count) 0 = 25 := by decide

end NtpQuery.Text
