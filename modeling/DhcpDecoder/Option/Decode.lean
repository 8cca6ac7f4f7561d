import DhcpDecoder.Option.Catalog
import DhcpDecoder.Record.Walk

/-!
Decoding option regions: the record walk with the option catalog as its rules.
-/

namespace DhcpDecoder

open Record

inductive Scope where
  | option
  | relay
  deriving DecidableEq, Repr, Inhabited

inductive RecordError where
  | unknownTag (scope : Scope) (tag : UInt8)
  | badValue (scope : Scope) (tag : UInt8) (e : ValueError)
  | relayCut (cut : Cut)
  deriving DecidableEq, Repr, Inhabited

namespace RecordError

def message : RecordError → String
  | .unknownTag .option t => "options: unknown tag: option " ++ toString t.toNat
  | .unknownTag .relay t => "options: unknown tag: relay sub-option " ++ toString t.toNat
  | .badValue .option t e => "option " ++ toString t.toNat ++ ": " ++ e.message
  | .badValue .relay t e => "relay sub-option " ++ toString t.toNat ++ ": " ++ e.message
  | .relayCut c => "relay sub-options: " ++ c.message

def reason : RecordError → String
  | .unknownTag .. => "unknown_tag"
  | .relayCut _ => "truncated"
  | .badValue .. => "malformed_value"

end RecordError

structure SubOption where
  code : UInt8
  value : Value
  deriving DecidableEq, Repr, Inhabited

namespace SubOption

def name (s : SubOption) : String := Catalog.relayName s.code

def text (s : SubOption) : String := s.name ++ "(" ++ s.value.toText ++ ")"

def json (s : SubOption) : Json :=
  .obj [("code", .num s.code.toNat), ("name", .str s.name), ("value", s.value.json)]

def decode (tag : UInt8) (bytes : List UInt8) : Except RecordError SubOption :=
  match Catalog.relay? tag with
  | none => .error (.unknownTag .relay tag)
  | some e =>
    match e.layout.decodeFlat bytes with
    | .ok v => .ok ⟨tag, v⟩
    | .error err => .error (.badValue .relay tag err)

end SubOption

def relayRules : Rules SubOption RecordError :=
  ⟨false, fun tag => ⟨tag, .blob []⟩, SubOption.decode⟩

def walkRelay (bytes : List UInt8) : Walk SubOption RecordError :=
  Walk.ofBytes relayRules bytes

inductive DhcpOption where
  | sentinel (code : UInt8)
  | plain (code : UInt8) (value : Value)
  | relay (subs : List SubOption)
  deriving DecidableEq, Repr, Inhabited

namespace DhcpOption

def code : DhcpOption → UInt8
  | .sentinel c => c
  | .plain c _ => c
  | .relay _ => 82

def name (o : DhcpOption) : String := Catalog.optionName o.code

def isSentinel (o : DhcpOption) : Bool := o.code == 0 || o.code == 255

/-- `Name` for a sentinel, else `Name(value)`; a relay value is its sub-options' texts between
brackets. -/
def text : DhcpOption → String
  | .sentinel c => Catalog.optionName c
  | .plain c v => Catalog.optionName c ++ "(" ++ v.toText ++ ")"
  | .relay subs => "RelayAgentInformation(" ++ Value.bracketed (subs.map SubOption.text) ++ ")"

def json : DhcpOption → Json
  | .sentinel c => .obj [("code", .num c.toNat), ("name", .str (Catalog.optionName c))]
  | .plain c v => .obj [("code", .num c.toNat), ("name", .str (Catalog.optionName c)),
      ("value", v.json)]
  | .relay subs => .obj [("code", .num 82), ("name", .str "RelayAgentInformation"),
      ("value", .arr (subs.map SubOption.json))]

def valueText : DhcpOption → String
  | .sentinel _ => ""
  | .plain _ v => v.toText
  | .relay subs => Value.bracketed (subs.map SubOption.text)

def decode (tag : UInt8) (bytes : List UInt8) : Except RecordError DhcpOption :=
  match Catalog.option? tag with
  | none => .error (.unknownTag .option tag)
  | some e =>
    if e.layout = .relay then .ok (.relay (walkRelay bytes).items)
    else
      match e.layout.decodeFlat bytes with
      | .ok v => .ok (.plain tag v)
      | .error err => .error (.badValue .option tag err)

end DhcpOption

/-- The walk rules of a top-level options region: Pad and End are sentinels, the option catalog
decodes the rest. -/
def optionRules : Rules DhcpOption RecordError :=
  ⟨true, DhcpOption.sentinel, DhcpOption.decode⟩

def walkOptions (bytes : List UInt8) : Walk DhcpOption RecordError :=
  Walk.ofBytes optionRules bytes

/-- The options of a region in wire order; skipped records are dropped and a record that runs past
the end stops decoding with what was read before it. -/
def decodeOptions (bytes : List UInt8) : List DhcpOption :=
  (walkOptions bytes).items

def messageTypeOf (opts : List DhcpOption) : Option MessageType :=
  match opts.find? (·.code == 53) with
  | some (.plain _ (.messageType m)) => some m
  | _ => none

def overloadOf (opts : List DhcpOption) : Option Overload :=
  match opts.find? (·.code == 52) with
  | some (.plain _ (.overload o)) => some o
  | _ => none

end DhcpDecoder
