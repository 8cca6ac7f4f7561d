/-!
The CRC-32 checksum of gzip members (the reflected polynomial `0xEDB88320`).
-/

namespace DhcpDecoder.Checksum

def polynomial : UInt32 := 0xEDB88320

def bitStep (r : UInt32) : UInt32 :=
  if r &&& 1 = 1 then (r >>> 1) ^^^ polynomial else r >>> 1

def byteStep (r : UInt32) (b : UInt8) : UInt32 :=
  let r := r ^^^ b.toUInt32
  bitStep (bitStep (bitStep (bitStep (bitStep (bitStep (bitStep (bitStep r)))))))

def update (crc : UInt32) (bs : ByteArray) : UInt32 :=
  bs.foldl (fun r b => byteStep r b) (crc ^^^ 0xFFFFFFFF) ^^^ 0xFFFFFFFF

def crc32 (bs : ByteArray) : UInt32 := update 0 bs

end DhcpDecoder.Checksum
