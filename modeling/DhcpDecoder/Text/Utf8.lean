/-!
Reading byte strings as UTF-8, one piece at a time.
-/

namespace DhcpDecoder.Utf8

inductive Piece where
  | char (c : Char)
  | stray (b : UInt8)
  deriving DecidableEq, Repr, Inhabited

def within (lo hi : Nat) (b : UInt8) : Bool :=
  lo ≤ b.toNat && b.toNat ≤ hi

/-- The character and the number of continuation bytes it uses, when `lead` followed by `rest`
starts a well-formed encoding. -/
def decodeLead (lead : UInt8) (rest : List UInt8) : Option (Char × Nat) :=
  let b0 := lead.toNat
  if b0 < 0x80 then some (Char.ofNat b0, 0)
  else if b0 < 0xC2 then none
  else if b0 < 0xE0 then
    match rest with
    | b1 :: _ =>
      if within 0x80 0xBF b1 then some (Char.ofNat ((b0 % 32) * 64 + b1.toNat % 64), 1)
      else none
    | [] => none
  else if b0 < 0xF0 then
    let lo := if b0 = 0xE0 then 0xA0 else 0x80
    let hi := if b0 = 0xED then 0x9F else 0xBF
    match rest with
    | b1 :: b2 :: _ =>
      if within lo hi b1 && within 0x80 0xBF b2 then
        some (Char.ofNat ((b0 % 16) * 4096 + (b1.toNat % 64) * 64 + b2.toNat % 64), 2)
      else none
    | _ => none
  else if b0 < 0xF5 then
    let lo := if b0 = 0xF0 then 0x90 else 0x80
    let hi := if b0 = 0xF4 then 0x8F else 0xBF
    match rest with
    | b1 :: b2 :: b3 :: _ =>
      if within lo hi b1 && within 0x80 0xBF b2 && within 0x80 0xBF b3 then
        some (Char.ofNat ((b0 % 8) * 262144 + (b1.toNat % 64) * 4096
          + (b2.toNat % 64) * 64 + b3.toNat % 64), 3)
      else none
    | _ => none
  else none

def pieces : List UInt8 → List Piece
  | [] => []
  | b :: rest =>
    match decodeLead b rest with
    | some (c, width) => .char c :: pieces (rest.drop width)
    | none => .stray b :: pieces rest
termination_by bytes => bytes.length
decreasing_by
  all_goals simp only [List.length_drop, List.length_cons]
  all_goals omega

def Piece.isChar : Piece → Bool
  | .char _ => true
  | .stray _ => false

def Piece.lossy : Piece → Char
  | .char c => c
  | .stray _ => '�'

def valid (bytes : List UInt8) : Bool :=
  (pieces bytes).all Piece.isChar

def lossy (bytes : List UInt8) : String :=
  String.ofList ((pieces bytes).map Piece.lossy)

def ofString (s : String) : List Piece :=
  s.toList.map Piece.char

def encode (s : String) : List UInt8 :=
  s.toUTF8.toList

def runeCount (bytes : List UInt8) : Nat :=
  (pieces bytes).length

theorem pieces_nil : pieces [] = [] := by
  simp [pieces]

theorem valid_nil : valid [] = true := by
  simp [valid, pieces]

end DhcpDecoder.Utf8
