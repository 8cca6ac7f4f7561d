import DhcpDecoder.Settings.Toml
import DhcpDecoder.Decoding.Result
import DhcpDecoder.Input.Format
import DhcpDecoder.Log.Line

/-!
The settings file.
-/

namespace DhcpDecoder

structure InputSettings where
  format : String := "auto"
  frame : Bool := false
  deriving DecidableEq, Repr, Inhabited

structure OutputSettings where
  format : String := "text"
  validate : Bool := false
  report : Bool := false
  deriving DecidableEq, Repr, Inhabited

/-- How the service listens: its address, the metrics address, the allowed CORS origins, the largest
frame read, a capture file to write and the bearer token for decoding. -/
structure ListenSettings where
  addr : String := "0.0.0.0:67"
  metricsAddr : String := "127.0.0.1:9167"
  corsOrigins : List String := []
  maxFrameBytes : Int := 65507
  writePcap : String := ""
  adminToken : String := ""
  deriving DecidableEq, Repr, Inhabited

structure LogSettings where
  level : String := "info"
  deriving DecidableEq, Repr, Inhabited

structure Config where
  input : InputSettings := {}
  output : OutputSettings := {}
  listen : ListenSettings := {}
  log : LogSettings := {}
  deriving DecidableEq, Repr, Inhabited

inductive ConfigFault where
  | inputFormat (text : String)
  | outputFormat (text : String)
  | addrMissing
  | metricsAddrMissing
  | frameBytes (n : Int)
  | logLevel (text : String)
  deriving DecidableEq, Repr, Inhabited

def ConfigFault.message : ConfigFault → String
  | .inputFormat t => "input.format: " ++ InputFormat.unknownMessage t
  | .outputFormat t => "output.format: unknown format " ++ Quoted.quote t
  | .addrMissing => "listen.addr is required"
  | .metricsAddrMissing => "listen.metrics_addr is required"
  | .frameBytes n => "listen.max_frame_bytes must be within [240, 65535], got " ++ toString n
  | .logLevel t => "log.level: unknown level " ++ Quoted.quote t

namespace Config

/-- Checks settings, in this order: the input format is a format name, the output format is `text`
or `json`, both addresses are not blank, the frame limit lies within 240 to 65535, and the log level
is a level name. -/
def check (c : Config) : Option ConfigFault :=
  if (InputFormat.parse c.input.format).toOption.isNone then some (.inputFormat c.input.format)
  else if c.output.format != "text" && c.output.format != "json" then
    some (.outputFormat c.output.format)
  else if (Text.trimSpace c.listen.addr).isEmpty then some .addrMissing
  else if (Text.trimSpace c.listen.metricsAddr).isEmpty then some .metricsAddrMissing
  else if c.listen.maxFrameBytes < 240 || c.listen.maxFrameBytes > 65535 then
    some (.frameBytes c.listen.maxFrameBytes)
  else if (Log.parseLevel? c.log.level).isNone then some (.logLevel c.log.level)
  else none

def inputFormat (c : Config) : InputFormat :=
  (InputFormat.parse c.input.format).toOption.getD .auto

def logLevel (c : Config) : Log.Level :=
  (Log.parseLevel? c.log.level).getD .info

def processOptions (c : Config) : DecodeOptions :=
  { frame := c.input.frame, validate := c.output.validate }

def toToml (c : Config) : String :=
  let flag (b : Bool) := if b then "true" else "false"
  "[input]\n" ++
  "  format = " ++ Toml.writeString c.input.format ++ "\n" ++
  "  frame = " ++ flag c.input.frame ++ "\n" ++
  "\n[output]\n" ++
  "  format = " ++ Toml.writeString c.output.format ++ "\n" ++
  "  validate = " ++ flag c.output.validate ++ "\n" ++
  "  report = " ++ flag c.output.report ++ "\n" ++
  "\n[listen]\n" ++
  "  addr = " ++ Toml.writeString c.listen.addr ++ "\n" ++
  "  metrics_addr = " ++ Toml.writeString c.listen.metricsAddr ++ "\n" ++
  "  cors_origins = " ++ Toml.writeStrings c.listen.corsOrigins ++ "\n" ++
  "  max_frame_bytes = " ++ toString c.listen.maxFrameBytes ++ "\n" ++
  "  write_pcap = " ++ Toml.writeString c.listen.writePcap ++ "\n" ++
  "  admin_token = " ++ Toml.writeString c.listen.adminToken ++ "\n" ++
  "\n[log]\n" ++
  "  level = " ++ Toml.writeString c.log.level ++ "\n"

def template : String :=
  "[input]\n# auto | hex | raw | pcap\nformat = \"auto\"\n" ++
  "# true: whole BOOTP datagrams, false: bare options region\nframe = false\n\n" ++
  "[output]\n# text | json\nformat = \"text\"\nvalidate = false\nreport = false\n\n" ++
  "[listen]\naddr = \"0.0.0.0:67\"\nmetrics_addr = \"127.0.0.1:9167\"\n" ++
  "cors_origins = [\"http://localhost:3000\"]\nmax_frame_bytes = 65507\nwrite_pcap = \"\"\n" ++
  "# bearer token required on POST /decode; empty disables the check\nadmin_token = \"\"\n\n" ++
  "[log]\nlevel = \"info\"\n"

end Config

/-! ### Loading -/

inductive SettingType where
  | text
  | flag
  | number
  | texts
  deriving DecidableEq, Repr, Inhabited

def SettingType.name : SettingType → String
  | .text => "string"
  | .flag => "boolean"
  | .number => "integer"
  | .texts => "slice"

/-- The tables of the settings file: the table's name, its name in messages, and its keys with their
types. -/
def settingTables : List (String × String × List (String × SettingType)) :=
  [("input", "config.InputConfig", [("format", .text), ("frame", .flag)]),
   ("output", "config.OutputConfig", [("format", .text), ("validate", .flag), ("report", .flag)]),
   ("listen", "config.ListenConfig", [("addr", .text), ("metrics_addr", .text),
      ("cors_origins", .texts), ("max_frame_bytes", .number), ("write_pcap", .text),
      ("admin_token", .text)]),
   ("log", "config.LogConfig", [("level", .text)])]

/-- A character folded for comparing names without case: ASCII letters to lower case, the Kelvin
sign to `k` and the long s to `s`, the two other characters whose case folds reach an ASCII letter.
-/
def foldChar (c : Char) : Char :=
  if c.toNat = 0x212A then 'k' else if c.toNat = 0x17F then 's' else c.toLower

def equalFold (a b : String) : Bool :=
  a.toList.map foldChar == b.toList.map foldChar

inductive LoadError where
  | unreadable (reason : String)
  | malformed (e : Toml.ParseError)
  | mistyped (path : List String) (line : Nat) (message : String)
  | unknownKey (path : List String)
  | invalid (fault : ConfigFault)
  deriving Inhabited

def LoadError.message (path : String) : LoadError → String
  | .unreadable r => "config load failed (" ++ path ++ "): " ++ r
  | .malformed e => "config load failed (" ++ path ++ "): " ++ e.text
  | .mistyped key line m =>
    let at_ := if line = 0 then "" else "line " ++ toString line ++ " "
    "config load failed (" ++ path ++ "): toml: " ++ at_ ++ "(last key "
      ++ Quoted.quote (Toml.keyText key) ++ "): " ++ m
  | .unknownKey key => "config parse failed (" ++ path ++ "): unknown key "
      ++ Quoted.quote (Toml.keyText key)
  | .invalid f => "config invalid (" ++ path ++ "): " ++ f.message

def incompatible (v : Toml.Value) (want : String) : String :=
  "incompatible types: TOML value has type " ++ v.typeName ++ "; destination has type " ++ want

def SettingType.check? (t : SettingType) (v : Toml.Value) : Option String :=
  match t, v with
  | .text, .str _ | .flag, .bool _ | .number, .int _ => none
  | .texts, .arr items =>
    (items.find? fun i => match i with | .str _ => false | _ => true).map (incompatible · "string")
  | .texts, .tableArray ts => if ts.isEmpty then none else some (incompatible (.table []) "string")
  | t, v => some (incompatible v t.name)

/-- Matching a document to the settings: the values given to each setting, in order, and the key
paths that matched. -/
structure Matched where
  values : List (String × String × Toml.Value) := []
  decoded : List (List String) := []
  deriving Inhabited

def matchKeys (doc : Toml.Document) (table : String) (path : String)
    (keys : List (String × SettingType)) :
    List (String × Toml.Value) → Matched → Except LoadError Matched
  | [], m => .ok m
  | (k, v) :: rest, m =>
    match keys.find? (fun s => equalFold s.1 k) with
    | none => matchKeys doc table path keys rest m
    | some (name, t) =>
      let keyPath := [path, k]
      let m := { m with decoded := m.decoded ++ [keyPath] }
      match t.check? v with
      | some msg => .error (.mistyped keyPath (doc.lineOf keyPath) msg)
      | none => matchKeys doc table path keys rest
          { m with values := m.values ++ [(table, name, v)] }

def matchTables (doc : Toml.Document) :
    List (String × Toml.Value) → Matched → Except LoadError Matched
  | [], m => .ok m
  | (k, v) :: rest, m =>
    match settingTables.find? (fun t => equalFold t.1 k) with
    | none => matchTables doc rest m
    | some (table, typeName, keys) =>
      let m := { m with decoded := m.decoded ++ [[k]] }
      match v with
      | .table members => do
        let m ← matchKeys doc table k keys members m
        matchTables doc rest m
      | other => .error (.mistyped [k] (doc.lineOf [k])
          ("type mismatch for " ++ typeName ++ ": expected table but found " ++ other.typeName))

def isDefined (doc : Toml.Document) (table key : String) : Bool :=
  match (doc.root.find? (·.1 == table)).map Prod.snd with
  | some (.table ms) => ms.any (·.1 == key)
  | _ => false

def normalizeOrigins (xs : List String) : List String :=
  (xs.map fun o =>
    String.ofList ((Text.trimSpace o).toList.reverse.dropWhile (· = '/')).reverse).filter
    (!·.isEmpty)

def textsOf : Toml.Value → List String
  | .arr items => items.filterMap fun i => match i with
    | .str s => some s
    | _ => none
  | _ => []

def textOf : Toml.Value → String
  | .str s => s
  | _ => ""

def flagOf : Toml.Value → Bool
  | .bool b => b
  | _ => false

def numberOf : Toml.Value → Int
  | .int n => n
  | _ => 0

/-- The settings a file is decoded into: every text empty, every flag false, no origins and a frame
limit of zero. -/
def Config.blank : Config :=
  { input := { format := "" }, output := { format := "" },
    listen := { addr := "", metricsAddr := "", maxFrameBytes := 0 }, log := { level := "" } }

def Config.setValue (c : Config) (table key : String) (v : Toml.Value) : Config :=
  match table, key with
  | "input", "format" => { c with input := { c.input with format := textOf v } }
  | "input", "frame" => { c with input := { c.input with frame := flagOf v } }
  | "output", "format" => { c with output := { c.output with format := textOf v } }
  | "output", "validate" => { c with output := { c.output with validate := flagOf v } }
  | "output", "report" => { c with output := { c.output with report := flagOf v } }
  | "listen", "addr" => { c with listen := { c.listen with addr := textOf v } }
  | "listen", "metrics_addr" => { c with listen := { c.listen with metricsAddr := textOf v } }
  | "listen", "cors_origins" => { c with listen := { c.listen with corsOrigins := textsOf v } }
  | "listen", "max_frame_bytes" =>
    { c with listen := { c.listen with maxFrameBytes := numberOf v } }
  | "listen", "write_pcap" => { c with listen := { c.listen with writePcap := textOf v } }
  | "listen", "admin_token" => { c with listen := { c.listen with adminToken := textOf v } }
  | "log", "level" => { c with log := { c.log with level := textOf v } }
  | _, _ => c

/-- What loading gets from the decoder of a settings file: the settings decoded into blank ones,
whether the file defines a key under a table, and the keys that no setting took, in document order.
-/
structure Decoded where
  raw : Config
  isDefined : String → String → Bool
  undecoded : List (List String)

/-- Decodes a settings file read as TOML; a later value for a setting replaces an earlier one. -/
def decodeToml (text : String) : Except LoadError Decoded := do
  let doc ← (Toml.parse text).mapError LoadError.malformed
  let m ← matchTables doc doc.root {}
  pure ⟨m.values.foldl (fun c (table, key, v) => c.setValue table key v) Config.blank,
    isDefined doc, doc.ordered.filter fun k => !m.decoded.contains k⟩

/-- Takes one setting from decoded settings: text without surrounding white space, origins
normalized, the rest as they are. -/
def Config.take (c raw : Config) (table key : String) : Config :=
  match table, key with
  | "input", "format" =>
    { c with input := { c.input with format := Text.trimSpace raw.input.format } }
  | "input", "frame" => { c with input := { c.input with frame := raw.input.frame } }
  | "output", "format" =>
    { c with output := { c.output with format := Text.trimSpace raw.output.format } }
  | "output", "validate" => { c with output := { c.output with validate := raw.output.validate } }
  | "output", "report" => { c with output := { c.output with report := raw.output.report } }
  | "listen", "addr" => { c with listen := { c.listen with addr := Text.trimSpace raw.listen.addr } }
  | "listen", "metrics_addr" =>
    { c with listen := { c.listen with metricsAddr := Text.trimSpace raw.listen.metricsAddr } }
  | "listen", "cors_origins" =>
    { c with listen := { c.listen with corsOrigins := normalizeOrigins raw.listen.corsOrigins } }
  | "listen", "max_frame_bytes" =>
    { c with listen := { c.listen with maxFrameBytes := raw.listen.maxFrameBytes } }
  | "listen", "write_pcap" =>
    { c with listen := { c.listen with writePcap := Text.trimSpace raw.listen.writePcap } }
  | "listen", "admin_token" =>
    { c with listen := { c.listen with adminToken := Text.trimSpace raw.listen.adminToken } }
  | "log", "level" => { c with log := { c.log with level := Text.trimSpace raw.log.level } }
  | _, _ => c

def settingKeys : List (String × String) :=
  settingTables.flatMap fun (table, _, keys) => keys.map fun k => (table, k.1)

def overlay (d : Decoded) : Config :=
  settingKeys.foldl (fun c (table, key) =>
    if d.isDefined table key then c.take d.raw table key else c) {}

/-- Loads settings from the text of a settings file and its decoder: a key that no setting took
stops loading, and the result is checked. -/
def Config.loadWith (decode : String → Except LoadError Decoded) (text : String) :
    Except LoadError Config := do
  let d ← decode text
  match d.undecoded with
  | k :: _ => .error (.unknownKey k)
  | [] =>
    let c := overlay d
    match c.check with
    | some f => .error (.invalid f)
    | none => .ok c

def Config.load (text : String) : Except LoadError Config :=
  Config.loadWith decodeToml text

end DhcpDecoder
