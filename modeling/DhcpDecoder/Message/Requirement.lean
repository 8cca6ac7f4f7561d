import DhcpDecoder.Log.Event
import DhcpDecoder.Option.Decode

/-!
What each DHCP message type must and must not carry (RFC 2131, tables 3 and 5, without the rows
that depend on the client's state).
-/

namespace DhcpDecoder

structure Requirement where
  required : List UInt8
  forbidden : List UInt8
  deriving DecidableEq, Repr, Inhabited

namespace Requirement

def of? (m : MessageType) : Option Requirement :=
  match m.byte.toNat with
  | 1 => some ⟨[], [54]⟩
  | 2 => some ⟨[51, 54], [50, 55, 61, 57]⟩
  | 4 => some ⟨[50, 54], [51, 52, 60, 55, 57]⟩
  | 5 => some ⟨[54], [50, 55, 61, 57]⟩
  | 6 => some ⟨[54], [50, 51, 52, 55, 57]⟩
  | 7 => some ⟨[54], [50, 51, 52, 60, 55, 57]⟩
  | 8 => some ⟨[], [50, 51, 54]⟩
  | _ => none

end Requirement

inductive Violation where
  | missingMessageType
  | missingRequired (m : MessageType) (code : UInt8)
  | forbidden (m : MessageType) (code : UInt8)
  deriving DecidableEq, Repr, Inhabited

namespace Violation

def reason : Violation → String
  | .missingMessageType => "missing message type"
  | .missingRequired .. => "missing required option"
  | .forbidden .. => "option not allowed"

def messageTypeByte : Violation → Nat
  | .missingMessageType => 0
  | .missingRequired m _ | .forbidden m _ => m.byte.toNat

def code : Violation → Nat
  | .missingMessageType => 0
  | .missingRequired _ c | .forbidden _ c => c.toNat

def message (v : Violation) : String :=
  match v with
  | .missingMessageType => "schema: " ++ v.reason
  | .missingRequired m c | .forbidden m c =>
    if c = 0 then "schema: message_type=" ++ m.text ++ ": " ++ v.reason
    else "schema: message_type=" ++ m.text ++ " option=" ++ Catalog.optionName c ++ "("
      ++ toString c.toNat ++ "): " ++ v.reason

end Violation

def hasCode (opts : List DhcpOption) (code : UInt8) : Bool :=
  opts.any (·.code == code)

/-- Checks decoded options against the table of their message type: the first violation, or none. -/
def validate (opts : List DhcpOption) : Option Violation :=
  match messageTypeOf opts with
  | none => some .missingMessageType
  | some m =>
    match Requirement.of? m with
    | none => none
    | some r =>
      match r.required.find? (fun c => !hasCode opts c) with
      | some c => some (.missingRequired m c)
      | none => (r.forbidden.find? (hasCode opts)).map (Violation.forbidden m)

def validateEvents (opts : List DhcpOption) : List Log.Event :=
  match messageTypeOf opts with
  | none => [⟨.error, "schema.Validate missing message type", []⟩]
  | some m =>
    let start : Log.Event := ⟨.debug, "schema.Validate message_type=" ++ m.text ++ " options="
      ++ toString opts.length, []⟩
    let close : List Log.Event := match validate opts, Requirement.of? m with
      | _, none => [⟨.debug, "schema.Validate no table message_type=" ++ m.text, []⟩]
      | some (.missingRequired _ c), _ => [⟨.error, "schema.Validate missing option message_type="
          ++ m.text ++ " code=" ++ toString c.toNat, []⟩]
      | some (.forbidden _ c), _ => [⟨.error, "schema.Validate forbidden option message_type="
          ++ m.text ++ " code=" ++ toString c.toNat, []⟩]
      | _, some _ => [⟨.info, "schema.Validate ok message_type=" ++ m.text, []⟩]
    start :: close

end DhcpDecoder
