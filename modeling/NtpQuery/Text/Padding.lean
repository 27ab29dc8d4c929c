/-!
# Text in columns

A column pads what is shorter than its width with blanks, or with zeros for
numbers of a fixed number of digits. What is longer is left whole.
-/

namespace NtpQuery.Text

def fill (width : Nat) (c : Char) (text : String) : String :=
  String.ofList (List.replicate (width - text.length) c)

def padLeft (width : Nat) (text : String) : String :=
  fill width ' ' text ++ text

def padRight (width : Nat) (text : String) : String :=
  text ++ fill width ' ' text

/-- A number with leading zeros up to the given number of digits. -/
def zeroPadded (width n : Nat) : String :=
  fill width '0' (toString n) ++ toString n

end NtpQuery.Text
