import DhcpDecoder.Net.Address
import DhcpDecoder.Text.Space

/-!
Binding a socket to an address given as `host:port` text.
-/

namespace DhcpDecoder

inductive Network where
  | udp4
  | tcp
  deriving DecidableEq, Repr, Inhabited

def Network.name : Network → String
  | .udp4 => "udp4"
  | .tcp => "tcp"

def Network.serviceFamily : Network → String
  | .udp4 => "udp"
  | .tcp => "tcp"

/-- Why an address does not bind: a malformed address (the text named and the reason), a name that
does not resolve, or a bind the system refuses (the address and the reason). -/
inductive BindFault where
  | address (addr why : String)
  | lookup (name why : String)
  | refused (addr why : String)
  deriving DecidableEq, Repr, Inhabited

def BindFault.message (n : Network) : BindFault → String
  | .address a w => "listen " ++ n.name ++ ": " ++ (if a.isEmpty then w else "address " ++ a ++ ": " ++ w)
  | .lookup name w => "listen " ++ n.name ++ ": lookup " ++ name ++ ": " ++ w
  | .refused a w => "listen " ++ n.name ++ " " ++ a ++ ": bind: " ++ w

namespace SocketAddr

def lastIndex? (c : Char) (cs : List Char) : Option Nat :=
  (cs.reverse.findIdx? (· == c)).map (cs.length - 1 - ·)

def splitHostPort (s : String) : Except BindFault (String × String) :=
  let cs := s.toList
  let fault (why : String) : Except BindFault (String × String) := .error (.address s why)
  match lastIndex? ':' cs with
  | none => fault "missing port in address"
  | some i =>
    let bracketed : Except BindFault (List Char × Nat × Nat) :=
      if cs.head? = some '[' then
        match cs.findIdx? (· == ']') with
        | none => .error (.address s "missing ']' in address")
        | some e =>
          if e + 1 = cs.length then .error (.address s "missing port in address")
          else if e + 1 = i then .ok ((cs.take e).drop 1, 1, e + 1)
          else if cs[e + 1]? = some ':' then .error (.address s "too many colons in address")
          else .error (.address s "missing port in address")
      else
        let host := cs.take i
        if host.contains ':' then .error (.address s "too many colons in address")
        else .ok (host, 0, 0)
    match bracketed with
    | .error e => .error e
    | .ok (host, j, k) =>
      if (cs.drop j).contains '[' then fault "unexpected '[' in address"
      else if (cs.drop k).contains ']' then fault "unexpected ']' in address"
      else .ok (String.ofList host, String.ofList (cs.drop (i + 1)))

def digitsValue? : List Char → Option Nat :=
  List.foldl (fun acc c => do
    let n ← acc
    if c.isDigit then some (n * 10 + (c.toNat - '0'.toNat)) else none) (some 0)

def port (n : Network) (service : String) : Except BindFault Nat :=
  let (neg, digits) := match service.toList with
    | '+' :: rest => (false, rest)
    | '-' :: rest => (true, rest)
    | cs => (false, cs)
  match digitsValue? digits with
  | none => .error (.lookup (n.serviceFamily ++ "/" ++ service) "unknown port")
  | some v =>
    if neg && v != 0 || v > 65535 then .error (.address service "invalid port") else .ok v

/-- Whether an IPv4 address belongs to a local interface or may be bound anyway: the unspecified,
loopback, multicast and broadcast addresses. -/
def bindableV4 (ip : Ipv4) : Bool :=
  ip == Ipv4.zero || ip.b0 = 127 || (ip.b0 ≥ 224 && ip.b0 ≤ 239) || ip == Ipv4.broadcast

def bindableV6 (bytes : List UInt8) : Bool :=
  bytes == List.replicate 16 0 || bytes == List.replicate 15 0 ++ [1]

end SocketAddr

open SocketAddr in
def bindAddress (n : Network) (addr : String) : Except BindFault String := do
  let (host, service) ← splitHostPort addr
  let p ← port n service
  let portText := ":" ++ toString p
  if host.isEmpty then
    return (if n == .udp4 then "0.0.0.0" else "[::]") ++ portText
  if Text.equalsIgnoringAsciiCase host "localhost" then
    return "127.0.0.1" ++ portText
  match Ipv4.parse? host with
  | some ip =>
    if bindableV4 ip then return ip.text ++ portText
    else throw (.refused (ip.text ++ portText) "cannot assign requested address")
  | none =>
    match HostAddr.parseV6? host with
    | none => throw (.lookup host "no such host")
    | some bytes =>
      if n == .udp4 then throw (.address host "no suitable address found")
      else if bindableV6 bytes then return "[" ++ host ++ "]" ++ portText
      else throw (.refused ("[" ++ host ++ "]" ++ portText) "cannot assign requested address")

end DhcpDecoder
