import DhcpDecoder.Frame.Header
import DhcpDecoder.Option.Report

/-!
DHCP datagrams: a BOOTP header, the magic cookie, and options.
-/

namespace DhcpDecoder

inductive FrameFault where
  | shortHeader (length : Nat)
  | badCookie
  | tooLarge (limit : Int)
  deriving DecidableEq, Repr, Inhabited

namespace FrameFault

def message : FrameFault → String
  | .shortHeader n => "frame: short fixed header: " ++ toString n ++ " bytes"
  | .badCookie => "frame: missing DHCP magic cookie"
  | .tooLarge limit => "frame: datagram too large: more than " ++ Json.intText limit ++ " bytes"

def kind : FrameFault → String
  | .shortHeader _ => "ShortHeader"
  | .badCookie => "BadCookie"
  | .tooLarge _ => "FrameTooLarge"

end FrameFault

inductive Region where
  | options
  | file
  | sname
  deriving DecidableEq, Repr, Inhabited

def Region.name : Region → String
  | .options => "options"
  | .file => "file"
  | .sname => "sname"

structure Section where
  region : Region
  report : Report
  deriving Inhabited

def Section.json (s : Section) : Json :=
  .obj [("region", .str s.region.name), ("report", s.report.json)]

/-- A parsed datagram: the header, whether the magic cookie was there, the options of all areas in
order (options, file, sname), one section per area inspected, and the overload. -/
structure Frame where
  header : Header
  cookie : Bool
  options : List DhcpOption
  sections : List Section
  overload : Overload
  deriving Inhabited

namespace Frame

def parse (bytes : List UInt8) : Except FrameFault Frame :=
  if bytes.length < Header.size then .error (.shortHeader bytes.length)
  else
    let h := Header.decode bytes
    if (bytes.drop Header.size).take 4 != magicCookie then
      .ok ⟨h, false, [], [], .none⟩
    else
      let main := Report.inspect (bytes.drop Header.optionsOffset)
      let first : Section := ⟨.options, main⟩
      match overloadOf main.options with
      | none => .ok ⟨h, true, main.options, [first], .none⟩
      | some ov =>
        let fileSecs := if ov.file then [⟨.file, Report.inspect h.file.bytes⟩] else []
        let snameSecs := if ov.sname then [⟨.sname, Report.inspect h.sname.bytes⟩] else []
        let secs : List Section := first :: fileSecs ++ snameSecs
        .ok ⟨h, true, secs.flatMap (·.report.options), secs, ov⟩

/-- The bytes read from a stream of `bytes` when at most `limit + 1` bytes are taken, the bound
computed in signed 64-bit arithmetic; a bound of zero or less reads nothing. -/
def readBound (limit : Int) (bytes : List UInt8) : List UInt8 :=
  let bound := (Int64.ofInt (limit + 1)).toInt
  if bound ≤ 0 then [] else bytes.take bound.toNat

def read (limit : Int) (bytes : List UInt8) : Except FrameFault Frame :=
  let data := readBound limit bytes
  if (data.length : Int) > limit then .error (.tooLarge limit) else parse data

def fault? (f : Frame) : Option FrameFault :=
  if f.cookie then none else some .badCookie

def serverName (f : Frame) : List UInt8 :=
  if f.overload.sname then [] else f.header.sname.cString

def bootFile (f : Frame) : List UInt8 :=
  if f.overload.file then [] else f.header.file.cString

def messageType? (f : Frame) : Option MessageType := messageTypeOf f.options

def truncated (f : Frame) : Bool := f.sections.any (·.report.truncated)

def events (f : Frame) : List Log.Event := f.sections.flatMap (·.report.events)

end Frame

def defaultMaxFrameBytes : Nat := 65507

end DhcpDecoder
