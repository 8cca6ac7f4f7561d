import DhcpDecoder.Log.Event
import DhcpDecoder.Option.Decode

/-!
Inspection reports: what decoding an options region found, read and left out.
-/

namespace DhcpDecoder

open Record

structure Report where
  options : List DhcpOption
  length : Nat
  consumed : Nat
  skipped : List (Skip RecordError)
  ended : Bool
  cut : Option Cut
  deriving Inhabited

namespace Report

def relaySkipsAt (bytes : List UInt8) (off : Nat) : List (Skip RecordError) :=
  let start := off + 2
  let len := (bytes.getD (off + 1) 0).toNat
  let stop := start + len
  let nested := walkRelay ((bytes.drop start).take len)
  let moved := nested.skipped.map (Skip.shift start)
  match nested.cut with
  | none => moved
  | some c =>
    let pos := start + nested.consumed
    let length := if pos + 1 < stop then bytes.getD (pos + 1) 0 else 0
    moved ++ [⟨pos, bytes.getD pos 0, length, .relayCut c⟩]

def relaySkips (bytes : List UInt8) (w : Walk DhcpOption RecordError) :
    List (Skip RecordError) :=
  (w.items.zip w.offsets).flatMap fun (o, off) =>
    match o with
    | .relay _ => relaySkipsAt bytes off
    | _ => []

def inspect (bytes : List UInt8) : Report :=
  let w := walkOptions bytes
  let skips := (w.skipped ++ relaySkips bytes w).mergeSort (fun a b => a.offset ≤ b.offset)
  ⟨w.items, bytes.length, w.consumed, skips, w.ended, w.cut⟩

def truncated (r : Report) : Bool := r.cut.isSome

def complete (r : Report) : Bool := r.cut.isNone && r.skipped.isEmpty

def cutText (r : Report) : String :=
  match r.cut with
  | some c => c.message
  | none => ""

def skipJson (s : Skip RecordError) : Json :=
  .obj [("offset", .num s.offset), ("tag", .num s.tag.toNat), ("length", .num s.length.toNat),
    ("reason", .str s.error.reason), ("error", .str s.error.message)]

/-- The JSON of a report: `options`, `length`, `consumed`, `ended`, `skipped`, and `truncated` with
the cut's text when decoding stopped early. -/
def json (r : Report) : Json :=
  let base := [("options", .arr (r.options.map DhcpOption.json)), ("length", .num r.length),
    ("consumed", .num r.consumed), ("ended", .bool r.ended),
    ("skipped", .arr (r.skipped.map skipJson))]
  match r.cut with
  | some c => .obj (base ++ [("truncated", .str c.message)])
  | none => .obj base

/-- The events of an inspection: a debug event per skip, a warning when decoding stopped early, and
a closing debug event. -/
def events (r : Report) : List Log.Event :=
  let skips := r.skipped.map fun s =>
    ⟨.debug, "options.Inspect skipped record",
      [Log.natField "offset" s.offset, Log.natField "tag" s.tag.toNat,
        Log.natField "length" s.length.toNat, Log.strField "reason" s.error.reason,
        Log.errorField s.error.message]⟩
  let stopped := match r.cut with
    | some c => [⟨.warn, "options.Inspect stopped early",
        [Log.natField "consumed" r.consumed, Log.natField "length" r.length,
          Log.errorField c.message]⟩]
    | none => []
  skips ++ stopped ++
    [⟨.debug, "options.Inspect done",
      [Log.natField "options" r.options.length, Log.natField "consumed" r.consumed,
        Log.boolField "ended" r.ended]⟩]

end Report

end DhcpDecoder
