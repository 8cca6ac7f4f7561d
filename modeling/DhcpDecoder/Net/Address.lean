/-!
Internet addresses: IPv4 addresses, the addresses a header field or an endpoint may hold, and
their text.
-/

namespace DhcpDecoder

structure Ipv4 where
  b0 : UInt8
  b1 : UInt8
  b2 : UInt8
  b3 : UInt8
  deriving DecidableEq, Repr, Inhabited

namespace Ipv4

def zero : Ipv4 := ⟨0, 0, 0, 0⟩

def broadcast : Ipv4 := ⟨255, 255, 255, 255⟩

def toBytes (ip : Ipv4) : List UInt8 := [ip.b0, ip.b1, ip.b2, ip.b3]

def ofBytes? : List UInt8 → Option Ipv4
  | [b0, b1, b2, b3] => some ⟨b0, b1, b2, b3⟩
  | _ => none

def ofPrefix (bytes : List UInt8) : Ipv4 :=
  ⟨bytes.getD 0 0, bytes.getD 1 0, bytes.getD 2 0, bytes.getD 3 0⟩

def text (ip : Ipv4) : String :=
  toString ip.b0.toNat ++ "." ++ toString ip.b1.toNat ++ "." ++ toString ip.b2.toNat ++ "."
    ++ toString ip.b3.toNat

/-- One decimal field of dotted-quad text: one to three digits, no leading zero unless the field is
`0`, value at most 255. -/
def field? (cs : List Char) : Option UInt8 :=
  if cs.isEmpty || cs.length > 3 || !cs.all Char.isDigit then none
  else if cs.length > 1 && cs.head? = some '0' then none
  else
    let v := cs.foldl (fun acc c => acc * 10 + (c.toNat - 48)) 0
    if v ≤ 255 then some v.toUInt8 else none

def parse? (s : String) : Option Ipv4 :=
  match s.toList.splitOn '.' with
  | [a, b, c, d] => do
    pure ⟨← field? a, ← field? b, ← field? c, ← field? d⟩
  | _ => none

theorem ofBytes?_toBytes (ip : Ipv4) : ofBytes? ip.toBytes = some ip := by
  rfl

end Ipv4

/-- The address an address field or endpoint holds: none, an IPv4 address, or an IPv6 address given
by its sixteen bytes (an IPv4-mapped IPv6 address counts as IPv6). -/
inductive HostAddr where
  | none
  | v4 (ip : Ipv4)
  | v6 (bytes : List UInt8)
  deriving DecidableEq, Repr, Inhabited

namespace HostAddr

def ipv4? : HostAddr → Option Ipv4
  | .v4 ip => some ip
  | _ => Option.none

/-- The IPv4 address an address stands for on an IPv4 wire: an IPv4 address, or the last four bytes
of an IPv4-mapped IPv6 address. -/
def wireIpv4? : HostAddr → Option Ipv4
  | .v4 ip => some ip
  | .v6 bytes =>
    if bytes.take 12 = List.replicate 10 0 ++ [255, 255] then Ipv4.ofBytes? (bytes.drop 12)
    else Option.none
  | .none => Option.none

def hexValue? (c : Char) : Option Nat :=
  if '0' ≤ c ∧ c ≤ '9' then some (c.toNat - 48)
  else if 'a' ≤ c ∧ c ≤ 'f' then some (c.toNat - 87)
  else if 'A' ≤ c ∧ c ≤ 'F' then some (c.toNat - 55)
  else Option.none

def group? (cs : List Char) : Option (List UInt8) :=
  if cs.isEmpty || cs.length > 4 then Option.none
  else do
    let v ← cs.foldlM (fun acc c => (fun d => acc * 16 + d) <$> hexValue? c) 0
    pure [(v / 256).toUInt8, (v % 256).toUInt8]

def groups? (parts : List (List Char)) : Option (List UInt8) :=
  match parts.reverse with
  | [] => some []
  | last :: before =>
    let tail := if last.contains '.' then (Ipv4.parse? (String.ofList last)).map Ipv4.toBytes
      else group? last
    do
      let front ← before.reverse.mapM group?
      let t ← tail
      pure (front.flatten ++ t)

def parseV6? (s : String) : Option (List UInt8) :=
  let cs := s.toList
  match (cs.splitOn ':').splitOn [] with
  | [whole] =>
    match groups? whole with
    | some bytes => if bytes.length = 16 then some bytes else Option.none
    | Option.none => Option.none
  | _ =>
    -- the text holds a `::`; split it there once
    let text := String.ofList cs
    match text.splitOn "::" with
    | [front, back] =>
      let fs := if front.isEmpty then [] else front.toList.splitOn ':'
      let bs := if back.isEmpty then [] else back.toList.splitOn ':'
      match groups? fs, groups? bs with
      | some f, some b =>
        if f.length + b.length ≤ 14 then some (f ++ List.replicate (16 - f.length - b.length) 0 ++ b)
        else Option.none
      | _, _ => Option.none
    | _ => Option.none

def parse? (s : String) : Option HostAddr :=
  if s.toList.contains ':' then (parseV6? s).map HostAddr.v6
  else (Ipv4.parse? s).map HostAddr.v4

end HostAddr

structure Endpoint where
  addr : HostAddr
  port : UInt16
  deriving DecidableEq, Repr, Inhabited

namespace Endpoint

def port? (cs : List Char) : Option UInt16 :=
  if cs.isEmpty || !cs.all Char.isDigit then none
  else
    let v := cs.foldl (fun acc c => acc * 10 + (c.toNat - 48)) 0
    if v < 65536 then some v.toUInt16 else none

def parse? (s : String) : Option Endpoint :=
  let cs := s.toList
  let portText := (cs.reverse.takeWhile (· ≠ ':')).reverse
  if portText.length = cs.length then none
  else
    let hostText := cs.take (cs.length - portText.length - 1)
    do
      let port ← port? portText
      match hostText with
      | '[' :: rest =>
        if rest.getLast? = some ']' then
          let inner := String.ofList rest.dropLast
          let bytes ← HostAddr.parseV6? inner
          pure ⟨.v6 bytes, port⟩
        else none
      | _ =>
        if hostText.contains ':' then none
        else
          let ip ← Ipv4.parse? (String.ofList hostText)
          pure ⟨.v4 ip, port⟩

def text (e : Endpoint) : String :=
  match e.addr with
  | .v4 ip => ip.text ++ ":" ++ toString e.port.toNat
  | _ => "invalid AddrPort"

end Endpoint

end DhcpDecoder
