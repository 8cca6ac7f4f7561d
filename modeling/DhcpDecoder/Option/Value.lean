import DhcpDecoder.Json.Value
import DhcpDecoder.Net.Address
import DhcpDecoder.Option.Enum
import DhcpDecoder.Text.Quoted

/-!
Option values: what the value bytes of one record decode to, shape by shape.
-/

namespace DhcpDecoder

inductive ValueError where
  | length (got want : Nat)
  | lengthMultiple (got unit : Nat)
  | flagByte (b : UInt8)
  | utf8
  | enumByte (b : UInt8)
  deriving DecidableEq, Repr, Inhabited

namespace ValueError

def kind : ValueError → String
  | .length .. | .lengthMultiple .. => "InvalidLength"
  | .flagByte _ => "InvalidBool"
  | .utf8 => "InvalidUTF8"
  | .enumByte _ => "UnknownEnum"

def message : ValueError → String
  | .length got want =>
    "codec: malformed value: invalid length: got " ++ toString got ++ " want " ++ toString want
  | .lengthMultiple got unit =>
    "codec: malformed value: invalid length: got " ++ toString got
      ++ " want positive multiple of " ++ toString unit
  | .flagByte b => "codec: malformed value: invalid bool value: " ++ toString b.toNat
  | .utf8 => "codec: malformed value: invalid utf-8"
  | .enumByte b => "codec: malformed value: unknown enum value: " ++ toString b.toNat

end ValueError

def beU16 (hi lo : UInt8) : UInt16 :=
  (hi.toNat * 256 + lo.toNat).toUInt16

def beU32 (b0 b1 b2 b3 : UInt8) : UInt32 :=
  (((b0.toNat * 256 + b1.toNat) * 256 + b2.toNat) * 256 + b3.toNat).toUInt32

def u16Bytes (v : UInt16) : List UInt8 :=
  [(v.toNat / 256).toUInt8, (v.toNat % 256).toUInt8]

def u32Bytes (v : UInt32) : List UInt8 :=
  [(v.toNat / 16777216).toUInt8, (v.toNat / 65536 % 256).toUInt8,
    (v.toNat / 256 % 256).toUInt8, (v.toNat % 256).toUInt8]

namespace Wire

def exact (bytes : List UInt8) (n : Nat) : Except ValueError Unit :=
  if bytes.length = n then .ok () else .error (.length bytes.length n)

def multiple (bytes : List UInt8) (n : Nat) : Except ValueError Unit :=
  if bytes.length ≠ 0 ∧ bytes.length % n = 0 then .ok ()
  else .error (.lengthMultiple bytes.length n)

def chunks (n : Nat) (bytes : List UInt8) : List (List UInt8) :=
  if n = 0 ∨ bytes.length < n then []
  else bytes.take n :: chunks n (bytes.drop n)
termination_by bytes.length
decreasing_by
  simp only [List.length_drop]
  omega

def u8 (bytes : List UInt8) : Except ValueError UInt8 :=
  match bytes with
  | [b] => .ok b
  | _ => .error (.length bytes.length 1)

def u16 (bytes : List UInt8) : Except ValueError UInt16 :=
  match bytes with
  | [hi, lo] => .ok (beU16 hi lo)
  | _ => .error (.length bytes.length 2)

def u32 (bytes : List UInt8) : Except ValueError UInt32 :=
  match bytes with
  | [b0, b1, b2, b3] => .ok (beU32 b0 b1 b2 b3)
  | _ => .error (.length bytes.length 4)

def i32 (bytes : List UInt8) : Except ValueError Int32 :=
  (u32 bytes).map UInt32.toInt32

def flag (bytes : List UInt8) : Except ValueError Bool :=
  match bytes with
  | [b] => if b = 1 then .ok true else .error (.flagByte b)
  | _ => .error (.length bytes.length 1)

def ipv4 (bytes : List UInt8) : Except ValueError Ipv4 :=
  match bytes with
  | [b0, b1, b2, b3] => .ok ⟨b0, b1, b2, b3⟩
  | _ => .error (.length bytes.length 4)

def text (bytes : List UInt8) : Except ValueError String :=
  if Utf8.valid bytes then .ok (Utf8.lossy bytes) else .error .utf8

def ipv4List (bytes : List UInt8) : Except ValueError (List Ipv4) := do
  multiple bytes 4
  pure ((chunks 4 bytes).map Ipv4.ofPrefix)

def ipv4Pairs (bytes : List UInt8) : Except ValueError (List (Ipv4 × Ipv4)) := do
  multiple bytes 8
  pure ((chunks 8 bytes).map fun c => (Ipv4.ofPrefix c, Ipv4.ofPrefix (c.drop 4)))

def u16List (bytes : List UInt8) : Except ValueError (List UInt16) := do
  multiple bytes 2
  pure ((chunks 2 bytes).map fun c => beU16 (c.getD 0 0) (c.getD 1 0))

def enum (known : UInt8 → Bool) (bytes : List UInt8) : Except ValueError UInt8 := do
  let b ← u8 bytes
  if known b then pure b else throw (.enumByte b)

end Wire

inductive Layout where
  | u8 | u16 | u32 | i32 | flag | ipv4 | text | blob | ipv4List | ipv4Pairs | u16List
  | codeList | messageType | nodeType | overload | relay
  deriving DecidableEq, Repr, Inhabited

def Layout.shape : Layout → String
  | .u8 => "u8"
  | .u16 => "u16"
  | .u32 => "u32"
  | .i32 => "i32"
  | .flag => "bool"
  | .ipv4 => "ipv4"
  | .text => "string"
  | .blob => "blob"
  | .ipv4List => "ipv4-list"
  | .ipv4Pairs => "ipv4-pairs"
  | .u16List => "u16-list"
  | .codeList => "code-list"
  | .messageType | .nodeType | .overload => "enum"
  | .relay => "nested"

inductive Value where
  | u8 (v : UInt8)
  | u16 (v : UInt16)
  | u32 (v : UInt32)
  | i32 (v : Int32)
  | flag (v : Bool)
  | ipv4 (v : Ipv4)
  | text (v : String)
  | blob (v : List UInt8)
  | ipv4List (v : List Ipv4)
  | ipv4Pairs (v : List (Ipv4 × Ipv4))
  | u16List (v : List UInt16)
  | codeList (v : List UInt8)
  | messageType (v : MessageType)
  | nodeType (v : NodeType)
  | overload (v : Overload)
  deriving DecidableEq, Repr, Inhabited

namespace Value

def bracketed (parts : List String) : String :=
  "[" ++ " ".intercalate parts ++ "]"

/-- The text of a value: decimal numbers, `true`, quoted text, lowercase hex for a blob, dotted
addresses, bracketed space-separated lists, `addr/mask` pairs, enumeration names. -/
def toText : Value → String
  | .u8 v => toString v.toNat
  | .u16 v => toString v.toNat
  | .u32 v => toString v.toNat
  | .i32 v => Json.intText v.toInt
  | .flag v => if v then "true" else "false"
  | .ipv4 v => v.text
  | .text v => Quoted.quote v
  | .blob v => Hex.encode v
  | .ipv4List v => bracketed (v.map Ipv4.text)
  | .ipv4Pairs v => bracketed (v.map fun p => p.1.text ++ "/" ++ p.2.text)
  | .u16List v => bracketed (v.map fun n => toString n.toNat)
  | .codeList v => bracketed (v.map fun n => toString n.toNat)
  | .messageType v => v.text
  | .nodeType v => v.text
  | .overload v => v.text

/-- The JSON form of a value: numbers, `true`, strings, hex strings for blobs, dotted strings for
addresses, arrays for lists, `{addr, mask}` objects for pairs, and names for enumerations. -/
def json : Value → Json
  | .u8 v => .num v.toNat
  | .u16 v => .num v.toNat
  | .u32 v => .num v.toNat
  | .i32 v => .num v.toInt
  | .flag v => .bool v
  | .ipv4 v => .str v.text
  | .text v => .str v
  | .blob v => .str (Hex.encode v)
  | .ipv4List v => .arr (v.map fun a => .str a.text)
  | .ipv4Pairs v => .arr (v.map fun p => .obj [("addr", .str p.1.text), ("mask", .str p.2.text)])
  | .u16List v => .arr (v.map fun n => .num n.toNat)
  | .codeList v => .arr (v.map fun n => .num n.toNat)
  | .messageType v => .str v.text
  | .nodeType v => .str v.text
  | .overload v => .str v.text

end Value

def Layout.decodeFlat (layout : Layout) (bytes : List UInt8) : Except ValueError Value :=
  match layout with
  | .u8 => Value.u8 <$> Wire.u8 bytes
  | .u16 => Value.u16 <$> Wire.u16 bytes
  | .u32 => Value.u32 <$> Wire.u32 bytes
  | .i32 => Value.i32 <$> Wire.i32 bytes
  | .flag => Value.flag <$> Wire.flag bytes
  | .ipv4 => Value.ipv4 <$> Wire.ipv4 bytes
  | .text => Value.text <$> Wire.text bytes
  | .blob => .ok (.blob bytes)
  | .ipv4List => Value.ipv4List <$> Wire.ipv4List bytes
  | .ipv4Pairs => Value.ipv4Pairs <$> Wire.ipv4Pairs bytes
  | .u16List => Value.u16List <$> Wire.u16List bytes
  | .codeList => .ok (.codeList bytes)
  | .messageType => (fun b => Value.messageType ⟨b⟩) <$> Wire.enum (fun b => (MessageType.mk b).known) bytes
  | .nodeType => (fun b => Value.nodeType ⟨b⟩) <$> Wire.enum (fun b => (NodeType.mk b).known) bytes
  | .overload => (fun b => Value.overload ⟨b⟩) <$> Wire.enum (fun b => (Overload.mk b).known) bytes
  | .relay => .ok (.blob bytes)

theorem u16_encode (v : UInt16) : Wire.u16 (u16Bytes v) = .ok v := by
  have h := v.toNat_lt
  simp only [u16Bytes, Wire.u16, beU16, Except.ok.injEq]
  apply UInt16.toNat.inj
  simp
  omega

theorem u32_encode (v : UInt32) : Wire.u32 (u32Bytes v) = .ok v := by
  have h := v.toNat_lt
  simp only [u32Bytes, Wire.u32, beU32, Except.ok.injEq]
  apply UInt32.toNat.inj
  simp
  omega

theorem u16Bytes_beU16 (hi lo : UInt8) : u16Bytes (beU16 hi lo) = [hi, lo] := by
  have h0 := hi.toNat_lt
  have h1 := lo.toNat_lt
  simp only [u16Bytes, beU16, List.cons.injEq, and_true]
  constructor
  · apply UInt8.toNat.inj
    simp
    omega
  · apply UInt8.toNat.inj
    simp

theorem u32Bytes_beU32 (b0 b1 b2 b3 : UInt8) :
    u32Bytes (beU32 b0 b1 b2 b3) = [b0, b1, b2, b3] := by
  have h0 := b0.toNat_lt
  have h1 := b1.toNat_lt
  have h2 := b2.toNat_lt
  have h3 := b3.toNat_lt
  simp only [u32Bytes, beU32, List.cons.injEq, and_true]
  refine ⟨?_, ?_, ?_, ?_⟩ <;> apply UInt8.toNat.inj <;> simp <;> omega

end DhcpDecoder
