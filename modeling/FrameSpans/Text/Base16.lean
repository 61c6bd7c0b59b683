/-!
# Hexadecimal digits

Numbers are shown in lower case hexadecimal, padded with zeros to a least width. In the other
direction a digit is read in either case; only the ASCII digits count.
-/

namespace FrameSpans.Text

/-- The value of a hexadecimal digit of either case. -/
def hexDigit? (c : Char) : Option UInt8 :=
  if '0' ≤ c ∧ c ≤ '9' then some (UInt8.ofNat (c.toNat - '0'.toNat))
  else if 'a' ≤ c ∧ c ≤ 'f' then some (UInt8.ofNat (c.toNat - 'a'.toNat + 10))
  else if 'A' ≤ c ∧ c ≤ 'F' then some (UInt8.ofNat (c.toNat - 'A'.toNat + 10))
  else none

/-- Spaces, or whatever `fill` is, in front of a text up to a least width. -/
def padLeft (fill : Char) (width : Nat) (text : String) : String :=
  String.ofList (List.replicate (width - text.length) fill) ++ text

/-- Spaces behind a text up to a least width. -/
def padRight (width : Nat) (text : String) : String :=
  text ++ String.ofList (List.replicate (width - text.length) ' ')

/-- A number in lower case hexadecimal with at least `width` digits. -/
def hex (width n : Nat) : String :=
  padLeft '0' width (String.ofList (Nat.toDigits 16 n))

/-- A number in lower case hexadecimal behind its marker, with at least `width` digits. -/
def hexMarked (width n : Nat) : String :=
  "0x" ++ hex width n

end FrameSpans.Text
