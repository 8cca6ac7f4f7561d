import DhcpDecoder.Frame.Datagram
import DhcpDecoder.Message.Requirement
import DhcpDecoder.Time.Stamp

/-!
Decode results: one input processed into options, with its classification.
-/

namespace DhcpDecoder

structure DecodeOptions where
  frame : Bool := false
  validate : Bool := false
  deriving DecidableEq, Repr, Inhabited

inductive Outcome where
  | ok
  | truncated
  | noCookie
  | error
  | invalid
  deriving DecidableEq, Repr, Inhabited

def Outcome.name : Outcome → String
  | .ok => "ok"
  | .truncated => "truncated"
  | .noCookie => "no_cookie"
  | .error => "error"
  | .invalid => "invalid"

structure DecodeResult where
  source : String
  time : Option Timestamp := none
  header : Option Header := none
  serverName : List UInt8 := []
  bootFile : List UInt8 := []
  options : List DhcpOption := []
  sections : List Section := []
  validation : Option Violation := none
  fault : Option FrameFault := none
  deriving Inhabited

namespace DecodeResult

def truncated (r : DecodeResult) : Bool := r.sections.any (·.report.truncated)

def skipped (r : DecodeResult) : Nat := (r.sections.map (·.report.skipped.length)).foldl (· + ·) 0

def outcome (r : DecodeResult) : Outcome :=
  match r.fault with
  | some .badCookie => .noCookie
  | some _ => .error
  | none => if r.truncated then .truncated else if r.validation.isSome then .invalid else .ok

def decodeOnly (source : String) (bytes : List UInt8) (frame : Bool) : DecodeResult :=
  if frame then
    match Frame.parse bytes with
    | .error e => { source, fault := some e }
    | .ok f => {
        source, header := some f.header, serverName := f.serverName, bootFile := f.bootFile,
        options := f.options, sections := f.sections, fault := f.fault? }
  else
    let r := Report.inspect bytes
    { source, options := r.options, sections := [⟨.options, r⟩] }

/-- Processes one input: decodes it and, when asked and the datagram did not fail, checks the
message. -/
def process (source : String) (bytes : List UInt8) (opts : DecodeOptions) : DecodeResult :=
  let r := decodeOnly source bytes opts.frame
  if opts.validate && r.fault.isNone then { r with validation := validate r.options } else r

/-- The events of processing: those of each area, those of the check, and a closing debug event with
the source, the input's size, the option count and the outcome. -/
def events (source : String) (bytes : List UInt8) (opts : DecodeOptions) : List Log.Event :=
  let r := process source bytes opts
  let areas := r.sections.flatMap (·.report.events)
  let check := if opts.validate && r.fault.isNone then validateEvents r.options else []
  areas ++ check ++ [⟨.debug, "pipeline.Process done",
    [Log.strField "source" source, Log.natField "bytes" bytes.length,
      Log.natField "options" r.options.length, Log.strField "result" r.outcome.name]⟩]

end DecodeResult

end DhcpDecoder
