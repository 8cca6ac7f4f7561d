import DhcpDecoder.Text.Graphic
import DhcpDecoder.Text.Hex
import DhcpDecoder.Text.Utf8

/-!
Quoted text: a string between double quotes, with every character that is not graphic written as
an escape.
-/

namespace DhcpDecoder.Quoted

open DhcpDecoder.Utf8

def byteEscape (n : Nat) : String :=
  String.ofList ('\\' :: 'x' :: Hex.fixedDigits Hex.digit 2 n)

def escapeChar (c : Char) : String :=
  let n := c.toNat
  if c = '"' then "\\\""
  else if c = '\\' then "\\\\"
  else if Text.isGraphic n then String.singleton c
  else if c = '\x07' then "\\a"
  else if c = '\x08' then "\\b"
  else if c = '\x0c' then "\\f"
  else if c = '\n' then "\\n"
  else if c = '\r' then "\\r"
  else if c = '\t' then "\\t"
  else if c = '\x0b' then "\\v"
  else if n < 0x20 || n = 0x7F then byteEscape n
  else if n < 0x10000 then String.ofList ('\\' :: 'u' :: Hex.fixedDigits Hex.digit 4 n)
  else String.ofList ('\\' :: 'U' :: Hex.fixedDigits Hex.digit 8 n)

def escapePiece : Piece → String
  | .char c => escapeChar c
  | .stray b => byteEscape b.toNat

def quotePieces (ps : List Piece) : String :=
  "\"" ++ String.join (ps.map escapePiece) ++ "\""

def quote (s : String) : String :=
  quotePieces (ofString s)

def quoteBytes (bytes : List UInt8) : String :=
  quotePieces (pieces bytes)

/-- A code point as `U+` and at least four uppercase hex digits, followed by the character in single
quotes when it is graphic. -/
def codePoint (n : Nat) : String :=
  let base := "U+" ++ Hex.upperPadded 4 n
  if n ≤ 0x10FFFF && Text.isGraphic n then
    base ++ " '" ++ String.singleton (Char.ofNat n) ++ "'"
  else base

end DhcpDecoder.Quoted
