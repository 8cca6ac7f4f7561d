import DhcpDecoder.Capture.Packet
import DhcpDecoder.Capture.Writer
import DhcpDecoder.Cli.Command
import DhcpDecoder.Cli.Session
import DhcpDecoder.Decoding.Render
import DhcpDecoder.Net.Bind
import DhcpDecoder.Settings.Config

/-!
Running the `dhcpoptctl` tool: from arguments and environment to output, as a session.
-/

namespace DhcpDecoder

inductive CliFault where
  | flag (e : FlagError)
  | unknownCommand (c : Command) (typed : String)
  | tooManyArgs (limit given : Nat)
  | load (path : String) (e : LoadError)
  | invalid (f : ConfigFault)
  | hexWithFile
  | unreadable (source text : String)
  | capture (e : CaptureError)
  | hex (e : HexError)
  | failedInputs (failed total : Nat)
  | yearOutOfRange
  | catalogFormat (format : String)
  | configExists (path : String)
  | unwritable (text : String)
  | noConfigPath
  | udpBind (addr : String) (f : BindFault)
  | adminBind (f : BindFault)
  | badOrigin
  deriving Inhabited

def CliFault.message : CliFault → String
  | .flag e => e.message
  | .unknownCommand .root typed => unknownCommandText typed
  | .unknownCommand c typed => "unknown command " ++ Quoted.quote typed ++ " for " ++ Quoted.quote c.path
  | .tooManyArgs n k => "accepts at most " ++ toString n ++ " arg(s), received " ++ toString k
  | .load p e => e.message p
  | .invalid f => f.message
  | .hexWithFile => "decode: --hex and a file argument are mutually exclusive"
  | .unreadable s t => "decode: read " ++ s ++ ": " ++ t
  | .capture e => e.message
  | .hex e => e.message
  | .failedInputs f t =>
    "decode: " ++ toString f ++ " of " ++ toString t ++ " inputs failed to parse or validate"
  | .yearOutOfRange =>
    "json: error calling MarshalJSON for type *time.Time: year outside of range [0,9999]"
  | .catalogFormat f => "catalog: unknown format " ++ Quoted.quote f
  | .configExists p => "config already exists: " ++ p
  | .unwritable t => t
  | .noConfigPath => "config validate: no path given"
  | .udpBind a f => "capture: listen " ++ a ++ ": " ++ f.message .udp4
  | .adminBind f => f.message .tcp
  | .badOrigin => "bad origin: origins must contain '*' or include http://,https://"

inductive Ending where
  | finished
  | serving
  deriving DecidableEq, Repr, Inhabited

/-- What a run has produced so far: standard output, log events, and the log threshold the settings
imposed, if they did. -/
structure CliOutput where
  stdout : String := ""
  events : List Log.Event := []
  level : Option Log.Level := none
  deriving Inhabited

abbrev Cli := ExceptT CliFault (StateT CliOutput Session)

namespace Cli

def say (s : String) : Cli Unit :=
  modify fun o => { o with stdout := o.stdout ++ s }

def record (es : List Log.Event) : Cli Unit :=
  modify fun o => { o with events := o.events ++ es }

def ask {α : Type} (s : Session α) : Cli α :=
  monadLift s

def checked (c : Config) : Cli Config :=
  match c.check with
  | some f => throw (.invalid f)
  | none => pure c

def loadFile (path : String) : Cli Config := do
  match ← ask (Session.readFile path) with
  | .error f => throw (.load path (.unreadable (f.readText path)))
  | .ok bytes =>
    match Config.load (Utf8.lossy bytes) with
    | .error e => throw (.load path e)
    | .ok c => pure c

/-- The settings a command runs with: the file `--config` names or the defaults, with `--log-level`
over the level; when either flag is given, the level becomes the log threshold. -/
def prepare (flags : GivenFlags) : Cli Config := do
  let path := (flags.text? "config").getD ""
  let level := (flags.text? "log-level").getD ""
  let cfg ← if path.isEmpty then pure {} else loadFile path
  let cfg ← checked (if level.isEmpty then cfg else { cfg with log := { level } })
  if !path.isEmpty || !level.isEmpty then
    modify fun o => { o with level := some cfg.logLevel }
  pure cfg

end Cli

open Cli

/-! ### decode -/

def decodeSettings (flags : GivenFlags) (c : Config) : Config :=
  let c := match flags.text? "input-format" with
    | some f => { c with input := { c.input with format := f } }
    | none => c
  let c := match flags.text? "format" with
    | some f => { c with output := { c.output with format := f } }
    | none => c
  let c := if flags.changed "frame" then { c with input := { c.input with frame := flags.switch "frame" } } else c
  let c := if flags.changed "report" then { c with output := { c.output with report := flags.switch "report" } } else c
  if flags.changed "validate" then { c with output := { c.output with validate := flags.switch "validate" } } else c

/-- The input of `decode` and its source name: `--hex` text, standard input (no argument or `-`), or
a file. -/
def decodeSource (flags : GivenFlags) (args : List String) : Cli (String × List UInt8) := do
  if flags.changed "hex" then
    if !args.isEmpty then throw .hexWithFile
    pure ("hex", Utf8.encode ((flags.text? "hex").getD ""))
  else
    match args with
    | [] | "-" :: _ => return ("-", ← ask Session.readInput)
    | path :: _ =>
      match ← ask (Session.readFile path) with
      | .error f => throw (.unreadable path (f.readText path))
      | .ok bytes => pure (path, bytes)

def decodeOne (source : String) (bytes : List UInt8) (opts : DecodeOptions) : Cli DecodeResult := do
  record (DecodeResult.events source bytes opts)
  pure (DecodeResult.process source bytes opts)

/-- The results of an input in a format: one per DHCP packet of a capture (read as whole datagrams,
with their capture times), else one. -/
def decodeInputs (source : String) (data : List UInt8) (format : InputFormat) (c : Config) :
    Cli (List DecodeResult) := do
  let opts := c.processOptions
  match format with
  | .pcap =>
    let read := CaptureRead.ofBytes data
    match read.error with
    | some e => throw (.capture e)
    | none =>
      record read.events
      read.packets.mapM fun p => do
        let r ← decodeOne p.source p.payload { opts with frame := true }
        pure { r with time := some p.time }
  | .hex =>
    match HexText.decodeBytes data with
    | .error e => throw (.hex e)
    | .ok bytes => return [← decodeOne source bytes opts]
  | _ => return [← decodeOne source data opts]

def resultsText (json report : Bool) (rs : List DecodeResult) : String :=
  if json then String.join (rs.map fun r => Json.render (r.json report) ++ "\n")
  else "\n".intercalate (rs.map (·.render report))

def DecodeResult.failed (r : DecodeResult) : Bool :=
  r.fault.isSome || r.validation.isSome

def decodeCommand (c : Config) (flags : GivenFlags) (args : List String) : Cli Unit := do
  let c ← checked (decodeSettings flags c)
  let (source, data) ← decodeSource flags args
  let format := match c.inputFormat with
    | .auto => if flags.changed "hex" then InputFormat.hex else sniff data
    | f => f
  let results ← decodeInputs source data format c
  if c.output.format == "json" then
    let (printable, rest) := results.span fun r => r.shownTime.all (·.fourDigitYear)
    say (resultsText true c.output.report printable)
    if !rest.isEmpty then throw .yearOutOfRange
  else say (resultsText false c.output.report results)
  let failed := (results.filter DecodeResult.failed).length
  if failed > 0 then throw (.failedInputs failed results.length)

/-! ### catalog and config -/

def catalogCommand (c : Config) (flags : GivenFlags) : Cli Unit := do
  match (flags.text? "format").getD c.output.format with
  | "json" =>
    say (Json.render (.obj [("options", Catalog.listingJson Catalog.optionListing),
      ("suboptions", Catalog.listingJson Catalog.relayListing)]) ++ "\n")
  | "text" =>
    say (renderCatalog "options" Catalog.optionListing ++ "\n"
      ++ renderCatalog "relay agent sub-options" Catalog.relayListing)
  | f => throw (.catalogFormat f)

def configInitCommand (flags : GivenFlags) (args : List String) : Cli Unit := do
  let path := args.headD "config.toml"
  if !flags.switch "force" then
    if ← ask (Session.exists? path) then throw (.configExists path)
  match ← ask (Session.writeFile path (Utf8.encode Config.template)) with
  | some f => throw (.unwritable (f.writeText path))
  | none => say ("wrote " ++ path ++ "\n")

def configValidateCommand (flags : GivenFlags) (args : List String) : Cli Unit := do
  let path := args.headD ((flags.text? "config").getD "")
  if path.isEmpty then throw .noConfigPath
  let _ ← loadFile path
  say (path ++ ": ok\n")

/-! ### listen -/

def listenSettings (flags : GivenFlags) (c : Config) : Config :=
  let l := c.listen
  let l := match flags.text? "addr" with | some a => { l with addr := a } | none => l
  let l := match flags.text? "metrics-addr" with | some a => { l with metricsAddr := a } | none => l
  let l := match flags.text? "write-pcap" with | some p => { l with writePcap := p } | none => l
  { c with listen := l }

/-- Whether the admin server refuses an allowed origin: one without `*` that starts with neither
`http://` nor `https://`. -/
def refusedOrigin (o : String) : Bool :=
  !o.toList.contains '*' && !o.startsWith "http://" && !o.startsWith "https://"

def listenCommand (c : Config) (flags : GivenFlags) : Cli Ending := do
  let c ← checked (listenSettings flags c)
  let pcap := c.listen.writePcap
  if !pcap.isEmpty then
    if let some f ← ask (Session.writeFile pcap captureHeader) then
      throw (.unwritable (f.writeText pcap))
  let udp ← match bindAddress .udp4 c.listen.addr with
    | .error f => throw (.udpBind c.listen.addr f)
    | .ok a => pure a
  record [⟨.info, "capture.Listen bound", [Log.strField "addr" udp]⟩]
  let origins := if c.listen.corsOrigins.isEmpty then ["http://localhost:3000"] else c.listen.corsOrigins
  if origins.any refusedOrigin then throw .badOrigin
  record [⟨.info, "listen.listenService.Run started",
    [Log.strField "udp" udp, Log.strField "admin" c.listen.metricsAddr]⟩]
  match bindAddress .tcp c.listen.metricsAddr with
  | .error f =>
    record [⟨.info, "capture.Listener.Serve stopped", []⟩,
      ⟨.info, "listen.listenService.Run stopped", [Log.errorField (f.message .tcp)]⟩]
    throw (.adminBind f)
  | .ok admin =>
    record [⟨.info, "server.Serve listening", [Log.strField "addr" admin]⟩]
    pure .serving

/-! ### The tool -/

/-- A list of words as help's unknown-topic line shows it: each in backquotes when it can be, else
quoted, space-separated in brackets. -/
def topicText (words : List String) : String :=
  let tick := Char.ofNat 96
  let plain (s : String) := s.toList.all fun c =>
    c != tick && c.toNat != 0xFEFF && (c == '\t' || (c.toNat ≥ 0x20 && c.toNat != 0x7F))
  let one (s : String) := if plain s then String.ofList (tick :: s.toList ++ [tick]) else Quoted.quote s
  "[" ++ " ".intercalate (words.map one) ++ "]"

/-- Runs `help [command]`: the help of the command the words name, or the top's usage after an
unknown-topic line. -/
def helpCommand (words : List String) : Cli Unit := do
  let (target, rest) := findCommand .root words 3
  if target == .root && !(commandWords (Command.root.flags.filter (·.name != "help")) rest).isEmpty then
    say ("Unknown help topic " ++ topicText words ++ "\n" ++ Command.root.usage false)
  else say target.helpText

def execute (args : List String) : Cli Ending := do
  let (cmd, rest) := findCommand .root args 3
  if cmd == .root then
    if let w :: _ := commandWords (Command.root.flags.filter (·.name != "help")) rest then
      throw (.unknownCommand .root w)
  let parsed ← match parseArgs cmd.flags rest with
    | .error e => throw (.flag e)
    | .ok p => pure p
  if parsed.flags.switch "help" || !cmd.runnable then
    say cmd.helpText
    return .finished
  let positional := parsed.positional
  match cmd.argRule, positional with
  | .none, a :: _ => throw (.unknownCommand cmd a)
  | .atMost n, ps => if ps.length > n then throw (.tooManyArgs n ps.length)
  | _, _ => pure ()
  let c ← prepare parsed.flags
  match cmd with
  | .decode => decodeCommand c parsed.flags positional
  | .catalog => catalogCommand c parsed.flags
  | .configInit => configInitCommand parsed.flags positional
  | .configShow => say c.toToml
  | .configValidate => configValidateCommand parsed.flags positional
  | .listen => return (← listenCommand c parsed.flags)
  | .help => helpCommand positional
  | _ => pure ()
  return .finished

/-- The log settings the environment gives: the tool's defaults, with `DHCPOPT_LOG_LEVEL`,
`DHCPOPT_LOG_TIMESTAMP`, `DHCPOPT_LOG_NOCOLOR` and `DHCPOPT_LOG_BYPASS` over them where they read.
-/
def envLogSettings (env : List (String × String)) : Log.Settings :=
  let get (k : String) := ((env.find? (·.1 == k)).map Prod.snd).getD ""
  let s := Log.Settings.defaults .runtime
  let s := match Log.parseLevel? (get "DHCPOPT_LOG_LEVEL") with
    | some l => { s with level := l }
    | none => s
  let s := match Log.parseTrimmedFlag? (get "DHCPOPT_LOG_TIMESTAMP") with
    | some b => { s with timestamp := b }
    | none => s
  let s := match Log.parseTrimmedFlag? (get "DHCPOPT_LOG_NOCOLOR") with
    | some b => { s with noColor := b }
    | none => s
  match Log.parseTrimmedFlag? (get "DHCPOPT_LOG_BYPASS") with
  | some b => { s with bypass := b }
  | none => s

/-- How a run of the tool ended: exit code, standard output, standard error, and whether it went on
serving. -/
structure RunOutcome where
  exitCode : Nat
  stdout : String
  stderr : String
  serving : Bool
  deriving Inhabited

def runTool (args : List String) (env : List (String × String)) : Session RunOutcome := do
  let (result, out) ← (execute args).run.run {}
  let base := envLogSettings env
  let settings := match out.level with
    | some l => { base with level := l }
    | none => base
  let log := Log.render settings [Log.strField "app" "dhcpoptctl"] out.events
  pure <| match result with
    | .ok ending => ⟨0, out.stdout, log, ending == .serving⟩
    | .error .badOrigin => ⟨2, out.stdout, log ++ "panic: " ++ CliFault.badOrigin.message ++ "\n", false⟩
    | .error (.capture e) =>
      match e.crash? with
      | some m => ⟨2, out.stdout, log ++ "panic: " ++ m ++ "\n", false⟩
      | none => ⟨1, out.stdout, log ++ "dhcpoptctl: " ++ e.message ++ "\n", false⟩
    | .error f => ⟨1, out.stdout, log ++ "dhcpoptctl: " ++ f.message ++ "\n", false⟩

end DhcpDecoder
