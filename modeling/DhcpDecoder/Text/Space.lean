import DhcpDecoder.Text.Utf8

/-!
White space and trimming.
-/

namespace DhcpDecoder.Text

def isSpace (c : Char) : Bool :=
  let n := c.toNat
  (0x09 ≤ n && n ≤ 0x0D) || n = 0x20 || n = 0x85 || n = 0xA0 || n = 0x1680
    || (0x2000 ≤ n && n ≤ 0x200A) || n = 0x2028 || n = 0x2029 || n = 0x202F || n = 0x205F
    || n = 0x3000

/-- Whether a character is ASCII white space: tab, line feed, vertical tab, form feed, carriage
return or space. -/
def isAsciiSpace (c : Char) : Bool :=
  let n := c.toNat
  (0x09 ≤ n && n ≤ 0x0D) || n = 0x20

def trimSpace (s : String) : String :=
  String.ofList ((s.toList.dropWhile isSpace).reverse.dropWhile isSpace).reverse

def pieceIsSpace : Utf8.Piece → Bool
  | .char c => isSpace c
  | .stray _ => false

def trimPieces (ps : List Utf8.Piece) : List Utf8.Piece :=
  ((ps.dropWhile pieceIsSpace).reverse.dropWhile pieceIsSpace).reverse

def asciiLower (s : String) : String :=
  String.ofList (s.toList.map Char.toLower)

def equalsIgnoringAsciiCase (a b : String) : Bool :=
  asciiLower a == asciiLower b

end DhcpDecoder.Text
