import DhcpDecoder.Decoding.Result
import DhcpDecoder.Text.Columns

/-!
Printing decode results: as one JSON object, or as aligned text.
-/

namespace DhcpDecoder

namespace DecodeResult

def rightAligned (width n : Nat) : String :=
  let s := toString n
  String.ofList (List.replicate (width - s.length) ' ') ++ s

def addrText (a : HostAddr) : String :=
  match a with
  | .v4 ip => ip.text
  | _ => "invalid IP"

def xidText (xid : UInt32) : String :=
  String.ofList ('0' :: 'x' :: Hex.fixedDigits Hex.digit 8 xid.toNat)

def headerJson (r : DecodeResult) (h : Header) : Json :=
  let base := [("op", Json.nat h.op.toNat), ("htype", Json.nat h.htype.toNat),
    ("hops", Json.nat h.hops.toNat), ("xid", .str (xidText h.xid)),
    ("secs", Json.nat h.secs.toNat), ("broadcast", .bool h.broadcast),
    ("ciaddr", .str (addrText h.ciaddr)), ("yiaddr", .str (addrText h.yiaddr)),
    ("siaddr", .str (addrText h.siaddr)), ("giaddr", .str (addrText h.giaddr)),
    ("chaddr", .str h.hardwareText)]
  let sname := if r.serverName.isEmpty then [] else [("sname", Json.bytes r.serverName)]
  let file := if r.bootFile.isEmpty then [] else [("file", Json.bytes r.bootFile)]
  .obj (base ++ sname ++ file)

def shownTime (r : DecodeResult) : Option Timestamp := r.time.filter (!·.isZero)

def json (r : DecodeResult) (report : Bool) : Json :=
  let time := match r.shownTime with
    | some t => [("time", Json.str t.rfc3339)]
    | none => []
  let header := match r.header with
    | some h => [("header", headerJson r h)]
    | none => []
  let sections := if report && !r.sections.isEmpty then
      [("sections", Json.arr (r.sections.map Section.json))] else []
  let validation := match r.validation with
    | some v => [("validation", Json.str v.message)]
    | none => []
  let error := match r.fault with
    | some e => [("error", Json.str e.message)]
    | none => []
  .obj ([("source", .str r.source)] ++ time ++ header
    ++ [("options", .arr (r.options.map DhcpOption.json))] ++ sections
    ++ [("truncated", .bool r.truncated)] ++ validation ++ error)

def sectionLines (s : Section) : List String :=
  let rep := s.report
  let head := "report " ++ s.region.name ++ ":\tlength=" ++ toString rep.length ++ " consumed="
    ++ toString rep.consumed ++ " ended=" ++ (if rep.ended then "true" else "false")
    ++ " skipped=" ++ toString rep.skipped.length
  let skips := rep.skipped.map fun sk =>
    "\tskipped offset=" ++ toString sk.offset ++ " tag=" ++ toString sk.tag.toNat ++ " len="
      ++ toString sk.length.toNat ++ " reason=" ++ sk.error.reason
  let stop := match rep.cut with
    | some c => ["\tstopped: " ++ c.message]
    | none => []
  head :: skips ++ stop

def lines (r : DecodeResult) (report : Bool) : List String :=
  let time := match r.shownTime with
    | some t => ["time:\t" ++ t.rfc3339]
    | none => []
  let header := match r.header with
    | some h =>
      let main := "header:\top=" ++ toString h.op.toNat ++ " xid=" ++ xidText h.xid ++ " ciaddr="
        ++ addrText h.ciaddr ++ " yiaddr=" ++ addrText h.yiaddr ++ " siaddr=" ++ addrText h.siaddr
        ++ " giaddr=" ++ addrText h.giaddr ++ " chaddr=" ++ h.hardwareText
      if r.serverName.isEmpty && r.bootFile.isEmpty then [main]
      else [main, "\tsname=" ++ Quoted.quoteBytes r.serverName ++ " file="
        ++ Quoted.quoteBytes r.bootFile]
    | none => []
  let error := match r.fault with
    | some e => ["error:\t" ++ e.message]
    | none => []
  let opts := r.options.map fun o =>
    rightAligned 4 o.code.toNat ++ "\t" ++ o.name ++ "\t" ++ o.valueText
  let reports := if report then r.sections.flatMap sectionLines else []
  let status := match r.validation with
    | some v => ["validation:\t" ++ v.message]
    | none => if r.truncated then ["status:\ttruncated"] else []
  ["source:\t" ++ r.source] ++ time ++ header ++ error ++ opts ++ reports ++ status

def render (r : DecodeResult) (report : Bool) : String :=
  Columns.align 0 2 (String.join ((r.lines report).map (· ++ "\n")))

end DecodeResult

/-- A catalogue listing as aligned text: the title in capitals, then one line per entry with the
code right-aligned in four places, the name and the shape. -/
def renderCatalog (title : String) (entries : List (UInt8 × String × String)) : String :=
  let head := String.ofList (title.toList.map Char.toUpper)
  let rows := entries.map fun e =>
    DecodeResult.rightAligned 4 e.1.toNat ++ "\t" ++ e.2.1 ++ "\t" ++ e.2.2
  Columns.align 0 2 (String.join ((head :: rows).map (· ++ "\n")))

end DhcpDecoder
