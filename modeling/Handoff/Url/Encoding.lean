import Handoff.Text.Escape

/-!
Percent encoding. What may not stand for itself in a part of an address is written as the bytes of
its UTF-8 form, and so is everything outside ASCII.
-/
namespace Handoff.Url

/-- A byte as a percent sign and two capital hexadecimal digits. -/
def percentByte (byte : UInt8) : List Char := '%' :: (Text.hexPair byte.toNat).map Char.toUpper

def percentChar (c : Char) : List Char := (String.utf8EncodeChar c).flatMap percentByte

/-- Characters that stand for themselves nowhere. -/
def isControl (c : Char) : Bool := decide (c < ' ') || decide ('\x7e' < c)

/-- Text in which controls and the given characters are encoded. -/
def percentEncode (reserved : List Char) (chars : List Char) : List Char :=
  chars.flatMap fun c => if isControl c || reserved.contains c then percentChar c else [c]

/-- What is encoded in a fragment. -/
def fragmentReserved : List Char := [' ', '"', '<', '>', '\x60']

/-- What is encoded in a path. -/
def pathReserved : List Char := fragmentReserved ++ ['#', '?', '\x7b', '\x7d']

/-- What is encoded in names of users and in passwords. -/
def userReserved : List Char := pathReserved ++ ['/', ':', ';', '=', '@', '[', '\\', ']', '^', '|']

/-- What is encoded in a query. -/
def queryReserved : List Char := [' ', '"', '#', '<', '>']

/-- Text as a value of a form: letters, digits and four marks stay, and a space becomes a plus
sign. -/
def formEncode (s : String) : String :=
  String.ofList (s.toList.flatMap fun c =>
    if c.isAlphanum || ['*', '-', '.', '_'].contains c then [c]
    else if c = ' ' then ['+']
    else percentChar c)

/-- The bytes of a text in which percent signs before two hexadecimal digits stand for bytes. -/
def percentDecode : List Char → List UInt8
  | [] => []
  | '%' :: high :: low :: rest =>
    match Text.hexNumber? [high, low] with
    | some byte => .ofNat byte :: percentDecode rest
    | none => String.utf8EncodeChar '%' ++ percentDecode (high :: low :: rest)
  | c :: rest => String.utf8EncodeChar c ++ percentDecode rest

end Handoff.Url
