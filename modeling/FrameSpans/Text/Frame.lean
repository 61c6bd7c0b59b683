import FrameSpans.Octets
import FrameSpans.Text.Base16
import FrameSpans.Text.Blank

/-!
# Frames in hexadecimal text

A frame is written as hexadecimal digits of either case, two for each octet. Blanks, colons and
hyphens are passed over, and so is one marker `0x` at the start of the text. The digits are collected
first and paired afterwards. A character that is no digit is reported before an odd number of digits
is.
-/

namespace FrameSpans.Text

/-- Why a text is not a frame. -/
inductive FrameError
  /-- A character is neither a digit nor a separator. -/
  | invalidDigit (c : Char)
  /-- The digits do not form whole octets. -/
  | oddLength
  deriving DecidableEq, Repr

/-- The text shown for a text that is not a frame. -/
def FrameError.message : FrameError → String
  | .invalidDigit c => String.ofList ['\x60', c, '\x60'] ++ " is not a hex digit"
  | .oddLength => "frame ends in half an octet"

/-- Whether a character is passed over. -/
def isSeparator (c : Char) : Bool :=
  c == ':' || c == '-' || isBlank c

/-- The text without the marker of a hexadecimal number. -/
def dropMarker : List Char → List Char
  | '0' :: 'x' :: rest => rest
  | text => text

/-- The values of the digits of a text, separators passed over. -/
def digits : List Char → Except FrameError (List UInt8)
  | [] => .ok []
  | c :: rest =>
    if isSeparator c then digits rest
    else
      match hexDigit? c with
      | none => .error (.invalidDigit c)
      | some digit =>
        match digits rest with
        | .error error => .error error
        | .ok more => .ok (digit :: more)

/-- The octets of a list of digits, the upper half of each first. -/
def pairUp : List UInt8 → Except FrameError (List UInt8)
  | [] => .ok []
  | [_] => .error .oddLength
  | high :: low :: rest =>
    match pairUp rest with
    | .error error => .error error
    | .ok more => .ok ((high <<< 4 ||| low) :: more)

/-- The octets of a frame that is written in hexadecimal. -/
def parseFrame (text : String) : Except FrameError Octets :=
  match digits (dropMarker (trimBlanks text.toList)) with
  | .error error => .error error
  | .ok values =>
    match pairUp values with
    | .error error => .error error
    | .ok octets => .ok octets.toArray

end FrameSpans.Text
