import DhcpDecoder.Text.Hex
import DhcpDecoder.Text.Utf8

/-!
JSON values and their compact text.
-/

namespace DhcpDecoder

inductive Json where
  | null
  | bool (b : Bool)
  | num (n : Int)
  | str (s : String)
  | bytes (b : List UInt8)
  | arr (items : List Json)
  | obj (members : List (String × Json))
  deriving Inhabited, Repr

namespace Json

open DhcpDecoder.Utf8

def unicodeEscape (n : Nat) : String :=
  String.ofList ('\\' :: 'u' :: Hex.fixedDigits Hex.digit 4 n)

def escapeChar (c : Char) : String :=
  let n := c.toNat
  if c = '"' then "\\\""
  else if c = '\\' then "\\\\"
  else if c = '<' || c = '>' || c = '&' then unicodeEscape n
  else if c = '\x08' then "\\b"
  else if c = '\x0c' then "\\f"
  else if c = '\n' then "\\n"
  else if c = '\r' then "\\r"
  else if c = '\t' then "\\t"
  else if n < 0x20 then unicodeEscape n
  else if n = 0x2028 || n = 0x2029 then unicodeEscape n
  else String.singleton c

def escapePiece : Piece → String
  | .char c => escapeChar c
  | .stray _ => "\\ufffd"

def quotePieces (ps : List Piece) : String :=
  "\"" ++ String.join (ps.map escapePiece) ++ "\""

def quote (s : String) : String :=
  quotePieces (ofString s)

def intText (n : Int) : String :=
  match n with
  | .ofNat k => toString k
  | .negSucc k => "-" ++ toString (k + 1)

mutual
def render : Json → String
  | .null => "null"
  | .bool true => "true"
  | .bool false => "false"
  | .num n => intText n
  | .str s => quote s
  | .bytes b => quotePieces (pieces b)
  | .arr items => "[" ++ renderItems items ++ "]"
  | .obj members => "\x7b" ++ renderMembers members ++ "\x7d"

def renderItems : List Json → String
  | [] => ""
  | [x] => render x
  | x :: rest => render x ++ "," ++ renderItems rest

def renderMembers : List (String × Json) → String
  | [] => ""
  | [(k, v)] => quote k ++ ":" ++ render v
  | (k, v) :: rest => quote k ++ ":" ++ render v ++ "," ++ renderMembers rest
end

def nat (n : Nat) : Json := .num n

def strs (xs : List String) : Json := .arr (xs.map .str)

def nats (xs : List Nat) : Json := .arr (xs.map nat)

def get? (key : String) : Json → Option Json
  | .obj members => (members.find? (fun m => m.1 == key)).map Prod.snd
  | _ => none

end Json

end DhcpDecoder
