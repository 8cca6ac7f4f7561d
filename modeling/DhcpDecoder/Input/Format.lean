import DhcpDecoder.Text.Case
import DhcpDecoder.Text.Quoted
import DhcpDecoder.Text.Space

/-!
Input formats and hex text.
-/

namespace DhcpDecoder

inductive InputFormat where
  | auto
  | hex
  | raw
  | pcap
  deriving DecidableEq, Repr, Inhabited

namespace InputFormat

def name : InputFormat → String
  | .auto => "auto"
  | .hex => "hex"
  | .raw => "raw"
  | .pcap => "pcap"

def unknownMessage (text : String) : String :=
  "pipeline: unknown input format: " ++ Quoted.quote text

def parse (text : String) : Except String InputFormat :=
  match Text.toLower (Text.trimSpace text) with
  | "" => .ok .auto
  | "auto" => .ok .auto
  | "hex" => .ok .hex
  | "raw" => .ok .raw
  | "pcap" => .ok .pcap
  | _ => .error (unknownMessage text)

end InputFormat

inductive HexError where
  | invalidByte (b : UInt8)
  | oddLength
  deriving DecidableEq, Repr, Inhabited

def HexError.message : HexError → String
  | .invalidByte b => "pipeline: decode hex: encoding/hex: invalid byte: " ++ Quoted.codePoint b.toNat
  | .oddLength => "pipeline: decode hex: encoding/hex: odd length hex string"

namespace HexText

def digitValue? (b : UInt8) : Option Nat :=
  let n := b.toNat
  if 48 ≤ n ∧ n ≤ 57 then some (n - 48)
  else if 97 ≤ n ∧ n ≤ 102 then some (n - 87)
  else if 65 ≤ n ∧ n ≤ 70 then some (n - 55)
  else none

def pairs : List UInt8 → Except HexError (List UInt8)
  | [] => .ok []
  | [b] => if (digitValue? b).isNone then .error (.invalidByte b) else .error .oddLength
  | hi :: lo :: rest =>
    match digitValue? hi, digitValue? lo with
    | none, _ => .error (.invalidByte hi)
    | _, none => .error (.invalidByte lo)
    | some h, some l => ((h * 16 + l).toUInt8 :: ·) <$> pairs rest

def isSeparator (c : Char) : Bool :=
  c = ' ' || c = '\t' || c = '\n' || c = '\r' || c = ':' || c = '-'

def dropPrefix (pre : List Utf8.Piece) (ps : List Utf8.Piece) : List Utf8.Piece :=
  if ps.take pre.length = pre then ps.drop pre.length else ps

/-- The digit bytes of hex text: trimmed, one `0x` then one `0X` prefix removed, separators removed,
and each stray byte of malformed UTF-8 replaced by the encoding of U+FFFD. -/
def digitsOf (bytes : List UInt8) : List UInt8 :=
  let ps := Text.trimPieces (Utf8.pieces bytes)
  let ps := dropPrefix [.char '0', .char 'X'] (dropPrefix [.char '0', .char 'x'] ps)
  let kept := ps.filter fun p => match p with
    | .char c => !isSeparator c
    | .stray _ => true
  kept.flatMap fun p => Utf8.encode (String.singleton p.lossy)

def decodeBytes (bytes : List UInt8) : Except HexError (List UInt8) :=
  pairs (digitsOf bytes)

def decode (text : String) : Except HexError (List UInt8) :=
  decodeBytes (Utf8.encode text)

end HexText

def captureMagics : List (List UInt8) :=
  [[0xa1, 0xb2, 0xc3, 0xd4], [0xd4, 0xc3, 0xb2, 0xa1], [0xa1, 0xb2, 0x3c, 0x4d],
    [0x4d, 0x3c, 0xb2, 0xa1], [0x0a, 0x0d, 0x0d, 0x0a]]

def sniff (bytes : List UInt8) : InputFormat :=
  if bytes.length ≥ 4 && captureMagics.contains (bytes.take 4) then .pcap
  else if (Text.trimPieces (Utf8.pieces bytes)).isEmpty then .raw
  else match HexText.decodeBytes bytes with
    | .ok _ => .hex
    | .error _ => .raw

end DhcpDecoder
