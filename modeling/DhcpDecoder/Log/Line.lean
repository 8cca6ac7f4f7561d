import DhcpDecoder.Json.Value
import DhcpDecoder.Log.Event
import DhcpDecoder.Text.Case
import DhcpDecoder.Text.Quoted
import DhcpDecoder.Text.Space

/-!
Log settings and log lines.
-/

namespace DhcpDecoder.Log

structure Settings where
  level : Level := .info
  timestamp : Bool := false
  noColor : Bool := true
  bypass : Bool := false
  deriving DecidableEq, Repr, Inhabited

inductive Profile where
  | runtime
  | test
  deriving DecidableEq, Repr, Inhabited

def Profile.name : Profile → String
  | .runtime => "runtime"
  | .test => "test"

/-- The settings a profile starts from: a tool logs from info up with timestamps, tests log from
debug up without. -/
def Settings.defaults : Profile → Settings
  | .runtime => { level := .info, timestamp := true, noColor := false, bypass := false }
  | .test => { level := .debug, timestamp := false, noColor := false, bypass := false }

def parseLevel? (text : String) : Option Level :=
  match Text.toLower (Text.trimSpace text) with
  | "trace" | "diagnostics" => some .trace
  | "debug" => some .debug
  | "info" => some .info
  | "warn" | "warning" => some .warn
  | "error" => some .error
  | "disabled" | "disable" | "off" | "none" | "inactive" => some .disabled
  | _ => none

def parseFlag? (text : String) : Option Bool :=
  match text with
  | "1" | "t" | "T" | "TRUE" | "true" | "True" => some true
  | "0" | "f" | "F" | "FALSE" | "false" | "False" => some false
  | _ => none

def parseTrimmedFlag? (text : String) : Option Bool :=
  let t := Text.trimSpace text
  if t.isEmpty then none else parseFlag? t

/-- Text in a JSON log line: quote and backslash escaped, backspace, form feed, line feed, carriage
return and tab by their letters, other controls and DEL as `\u00` and two digits; everything else as
it is. -/
def jsonText (s : String) : String :=
  let esc (c : Char) : String :=
    let n := c.toNat
    if c = '"' then "\\\"" else if c = '\\' then "\\\\"
    else if c = '\x08' then "\\b" else if c = '\x0c' then "\\f"
    else if c = '\n' then "\\n" else if c = '\r' then "\\r" else if c = '\t' then "\\t"
    else if n < 0x20 || n = 0x7F then String.ofList ('\\' :: 'u' :: Hex.fixedDigits Hex.digit 4 n)
    else String.singleton c
  "\"" ++ String.join (s.toList.map esc) ++ "\""

def FieldValue.jsonText : FieldValue → String
  | .int n => Json.intText n
  | .str s => Log.jsonText s
  | .bool b => if b then "true" else "false"

def jsonLine (context : List (String × FieldValue)) (e : Event) : String :=
  let all : List (String × FieldValue) := ("level", FieldValue.str e.level.name) :: context
    ++ e.fields ++ [("message", FieldValue.str e.message)]
  let members := all.map fun (k, v) => Log.jsonText k ++ ":" ++ FieldValue.jsonText v
  "\x7b" ++ ",".intercalate members ++ "\x7d\n"

def needsQuote (s : String) : Bool :=
  s.toList.any fun c => c.toNat < 0x20 || c.toNat > 0x7E || c = ' ' || c = '\\' || c = '"'

def colorize (color : Bool) (code : Nat) (s : String) : String :=
  if color && code != 0 then "\x1b[" ++ toString code ++ "m" ++ s ++ "\x1b[0m" else s

def Level.console : Level → String × Nat
  | .trace => ("TRC", 34)
  | .debug => ("DBG", 0)
  | .info => ("INF", 32)
  | .warn => ("WRN", 33)
  | .error => ("ERR", 31)
  | .disabled => ("???", 0)

def FieldValue.consoleText : FieldValue → String
  | .int n => Json.intText n
  | .str s => if needsQuote s then Quoted.quote s else s
  | .bool b => if b then "true" else "false"

def consoleLine (color : Bool) (context : List (String × FieldValue)) (e : Event) : String :=
  let time := colorize color 90 "<nil>"
  let (short, code) := e.level.console
  let level := colorize color code short
  let message :=
    if e.message.isEmpty then []
    else if e.level.rank ≥ Level.info.rank then [colorize color 1 e.message] else [e.message]
  let fields := (context ++ e.fields).mergeSort (fun a b => decide (a.1 ≤ b.1))
  let ordered := fields.filter (·.1 == "error") ++ fields.filter (·.1 != "error")
  let fieldTexts := ordered.map fun (k, v) =>
    if k == "error" then
      colorize color 36 (k ++ "=") ++ colorize color 31 (colorize color 1 v.consoleText)
    else colorize color 36 (k ++ "=") ++ v.consoleText
  " ".intercalate ([time, level] ++ message ++ fieldTexts) ++ "\n"

/-- The lines a writer with these settings and context fields writes for the events, in order;
events below the threshold are dropped. -/
def render (s : Settings) (context : List (String × FieldValue)) (events : List Event) : String :=
  String.join ((events.filter (s.level.passes ·.level)).map fun e =>
    if s.bypass then jsonLine context e else consoleLine (!s.noColor) context e)

end DhcpDecoder.Log
