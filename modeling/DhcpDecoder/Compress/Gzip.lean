import DhcpDecoder.Compress.Checksum
import DhcpDecoder.Compress.Inflate

/-!
Reading gzip files (RFC 1952).
-/

namespace DhcpDecoder

namespace Gzip

inductive Fault where
  | endOfInput
  | truncated
  | badHeader
  | badChecksum
  | corrupt (offset : Nat)
  deriving DecidableEq, Repr, Inhabited

def Fault.message : Fault → String
  | .endOfInput => "EOF"
  | .truncated => "unexpected EOF"
  | .badHeader => "gzip: invalid header"
  | .badChecksum => "gzip: invalid checksum"
  | .corrupt offset => "flate: corrupt input before offset " ++ toString offset

end Gzip

structure ByteStream where
  bytes : List UInt8
  fault : Option Gzip.Fault := none
  deriving Repr, Inhabited

namespace Gzip

def littleAt (input : ByteArray) (pos n : Nat) : Nat :=
  (List.range n).foldr (fun i acc => acc * 256 + (input.get! (pos + i)).toNat) 0

/-- The position after a zero-terminated field at `pos`: the zero must come within 512 bytes;
running out of input first truncates the header. -/
def fieldEnd (input : ByteArray) (pos : Nat) : Except Fault Nat :=
  let avail := input.size - pos
  match (List.range (min 512 avail)).find? fun i => input.get! (pos + i) == 0 with
  | some i => .ok (pos + i + 1)
  | none => if avail < 512 then .error .truncated else .error .badHeader

def header (input : ByteArray) (pos : Nat) : Except Fault Nat := do
  let avail := input.size - pos
  if avail < 10 then throw (if avail = 0 then .endOfInput else .truncated)
  if input.get! pos != 0x1f || input.get! (pos + 1) != 0x8b || input.get! (pos + 2) != 8 then
    throw .badHeader
  let flags := (input.get! (pos + 3)).toNat
  let mut p := pos + 10
  if flags / 4 % 2 = 1 then
    if input.size - p < 2 then throw .truncated
    let len := littleAt input p 2
    p := p + 2
    if input.size - p < len then throw .truncated
    p := p + len
  if flags / 8 % 2 = 1 then p ← fieldEnd input p
  if flags / 16 % 2 = 1 then p ← fieldEnd input p
  if flags / 2 % 2 = 1 then
    if input.size - p < 2 then throw .truncated
    let digest := (Checksum.crc32 (input.extract pos p)).toNat % 65536
    if littleAt input p 2 != digest then throw .badHeader
    p := p + 2
  pure p

def members (input : ByteArray) (pos : Nat) (acc : ByteArray) : Nat → ByteStream
  | 0 => ⟨acc.toList, none⟩
  | fuel + 1 =>
    match header input pos with
    | .error .endOfInput => ⟨acc.toList, none⟩
    | .error f => ⟨acc.toList, some f⟩
    | .ok start =>
      let (out, stop, p) := Inflate.inflate input start
      let acc := acc ++ out
      match stop with
      | .truncated => ⟨acc.toList, some .truncated⟩
      | .corrupt offset => ⟨acc.toList, some (.corrupt offset)⟩
      | .finished =>
        if input.size - p < 8 then ⟨acc.toList, some .truncated⟩
        else if littleAt input p 4 != (Checksum.crc32 out).toNat ||
            littleAt input (p + 4) 4 != out.size % 4294967296 then
          ⟨acc.toList, some .badChecksum⟩
        else members input (p + 8) acc fuel

/-- Opens a gzip file: a fault in the first member's header is an error; after it, the stream of
every member's bytes and how it ends. -/
def open? (input : ByteArray) : Except Fault ByteStream :=
  match header input 0 with
  | .error f => .error f
  | .ok _ => .ok (members input 0 ByteArray.empty (input.size + 1))

end Gzip

end DhcpDecoder
