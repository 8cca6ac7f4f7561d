import DhcpDecoder.Cli.Flags

/-!
The commands of the `dhcpoptctl` tool and how an argument list selects one.
-/

namespace DhcpDecoder

inductive Command where
  | root
  | decode
  | catalog
  | listen
  | config
  | configInit
  | configShow
  | configValidate
  | completion
  | help
  deriving DecidableEq, Repr, Inhabited

inductive ArgRule where
  | free
  | none
  | atMost (n : Nat)
  deriving DecidableEq, Repr, Inhabited

namespace Command

def name : Command → String
  | .root => "dhcpoptctl"
  | .decode => "decode"
  | .catalog => "catalog"
  | .listen => "listen"
  | .config => "config"
  | .configInit => "init"
  | .configShow => "show"
  | .configValidate => "validate"
  | .completion => "completion"
  | .help => "help"

def pattern : Command → String
  | .decode => " [file|-]"
  | .configInit | .configValidate => " [path]"
  | .help => " [command]"
  | _ => ""

def short : Command → String
  | .root => "Decode DHCP options from hex dumps, datagrams, captures and the wire"
  | .decode => "Decode DHCP options from a hex dump, raw datagram or pcap capture"
  | .catalog => "List known option and relay sub-option codes"
  | .listen => "Decode DHCP datagrams from a UDP socket and serve metrics"
  | .config => "Write, print and check dhcpoptctl config files"
  | .configInit => "Write the commented config template"
  | .configShow => "Print the effective config as TOML"
  | .configValidate => "Check a config file"
  | .completion => "Generate the autocompletion script for the specified shell"
  | .help => "Help about any command"

/-- What help says about the command: a longer text where there is one, else the one-line
description. -/
def description : Command → String
  | .help => "Help provides help for any command in the application.\n" ++
    "Simply type dhcpoptctl help [path to command] for full details."
  | .completion => "Generate the autocompletion script for dhcpoptctl for the specified shell.\n" ++
    "See each sub-command's help for details on how to use the generated script."
  | c => c.short

def children : Command → List Command
  | .root => [.catalog, .completion, .config, .decode, .help, .listen]
  | .config => [.configInit, .configShow, .configValidate]
  | _ => []

def parent? : Command → Option Command
  | .root => none
  | .configInit | .configShow | .configValidate => some .config
  | _ => some .root

def path : Command → String
  | .root => "dhcpoptctl"
  | .configInit => "dhcpoptctl config init"
  | .configShow => "dhcpoptctl config show"
  | .configValidate => "dhcpoptctl config validate"
  | c => "dhcpoptctl " ++ c.name

def runnable : Command → Bool
  | .root | .config | .completion => false
  | _ => true

def argRule : Command → ArgRule
  | .decode | .configInit | .configValidate => .atMost 1
  | .catalog | .listen | .configShow => .none
  | _ => .free

def globalFlags : List FlagSpec :=
  [{ name := "config", short := some 'c', kind := .text, usage := "path to a TOML config file" },
   { name := "log-level", kind := .text,
     usage := "log level override (trace|debug|info|warn|error|off)" }]

def helpFlag (c : Command) : FlagSpec :=
  { name := "help", short := some 'h', kind := .switch, usage := "help for " ++ c.name }

def ownFlags : Command → List FlagSpec
  | .decode =>
    [{ name := "hex", kind := .text, usage := "hex text to decode instead of reading a file" },
     { name := "input-format", kind := .text, usage := "input encoding: auto|hex|raw|pcap" },
     { name := "format", short := some 'o', kind := .text, usage := "output format: text|json" },
     { name := "frame", kind := .switch, usage := "input is a whole BOOTP datagram" },
     { name := "report", kind := .switch, usage := "include per-region decode reports" },
     { name := "validate", kind := .switch,
       usage := "check required and forbidden options per message type" }]
  | .catalog =>
    [{ name := "format", short := some 'o', kind := .text, usage := "output format: text|json",
       default := "text" }]
  | .listen =>
    [{ name := "addr", kind := .text, usage := "UDP address to read datagrams from" },
     { name := "metrics-addr", kind := .text, usage := "HTTP address of the admin server" },
     { name := "write-pcap", kind := .text, usage := "record received datagrams to this pcap file" }]
  | .configInit => [{ name := "force", kind := .switch, usage := "overwrite an existing file" }]
  | _ => []

def flags (c : Command) : List FlagSpec :=
  c.ownFlags ++ [c.helpFlag] ++ globalFlags

def child? (c : Command) (n : String) : Option Command :=
  c.children.find? (·.name == n)

end Command

/-! ### Finding the command -/

/-- The names among arguments, flags and the values they hide left out: a flag that is not a known
switch hides the next argument, unless that is the last one, where the scan stops. -/
def commandWords (flags : List FlagSpec) : List String → List String
  | [] => []
  | arg :: rest =>
    if arg == "--" then []
    else
      let takesValue :=
        if arg.startsWith "--" then
          !arg.toList.contains '=' &&
            !(flags.any fun f => f.name == String.ofList (arg.toList.drop 2) && f.kind == .switch)
        else if arg.startsWith "-" && arg.length == 2 && !arg.toList.contains '=' then
          !(flags.any fun f => f.short == (arg.toList.drop 1).head? && f.kind == .switch)
        else false
      if takesValue then
        match rest with
        | [] | [_] => []
        | _ :: rest' => commandWords flags rest'
      else if arg.isEmpty || arg.startsWith "-" then commandWords flags rest
      else arg :: commandWords flags rest
termination_by args => args.length

def removeFirst (x : String) : List String → List String
  | [] => []
  | a :: rest => if a == x then rest else a :: removeFirst x rest

/-- Finds the command an argument list names, with the arguments left for it; at most `fuel` levels
deep. -/
def findCommand (c : Command) (args : List String) : Nat → Command × List String
  | 0 => (c, args)
  | fuel + 1 =>
    match commandWords (c.flags.filter (·.name != "help")) args with
    | [] => (c, args)
    | w :: _ =>
      match c.child? w with
      | some sub => findCommand sub (removeFirst w args) fuel
      | none => (c, args)

def editDistance {α : Type} [BEq α] (a b : List α) : Nat :=
  let row0 := List.range (b.length + 1)
  let last := a.foldl (fun (row : List Nat) ca =>
    let first := row.headD 0 + 1
    let (_, newRow) := (b.zip (row.zip row.tail)).foldl
      (fun (acc : Nat × List Nat) (x : α × Nat × Nat) =>
        let (cb, diag, up) := x
        let left := acc.1
        let cost := if ca == cb then diag else diag + 1
        let v := min cost (min (up + 1) (left + 1))
        (v, acc.2 ++ [v]))
      (first, [first])
    newRow) row0
  last.getLastD 0

/-- The commands at the top in the order they were added, which is the order suggestions come in;
`help` is never suggested. -/
def suggestionOrder : List Command := [.decode, .catalog, .listen, .config, .completion]

/-- The command names suggested for a mistyped one: those whose names are within two edits of it,
counted in bytes of the lowercased texts, or start with it lowercased. -/
def suggestions (typed : String) : List String :=
  let t := Text.toLower typed
  (suggestionOrder.filter fun sub =>
    editDistance (Utf8.encode t) (Utf8.encode sub.name) ≤ 2 || sub.name.startsWith t).map Command.name

def unknownCommandText (typed : String) : String :=
  let base := "unknown command " ++ Quoted.quote typed ++ " for " ++ Quoted.quote Command.root.path
  match suggestions typed with
  | [] => base
  | ss => base ++ "\n\nDid you mean this?\n" ++ String.join (ss.map fun s => "\t" ++ s ++ "\n")

/-! ### Help -/

def rightPad (width : Nat) (s : String) : String :=
  s ++ String.ofList (List.replicate (width - s.length) ' ')

def flagUsages (flags : List FlagSpec) : String :=
  let sorted := flags.mergeSort fun a b => decide (a.name ≤ b.name)
  let heads := sorted.map fun f =>
    let base := match f.short with
      | some c => "  -" ++ String.singleton c ++ ", --" ++ f.name
      | none => "      --" ++ f.name
    if f.kind == .text then base ++ " string" else base
  let width := (heads.map (·.length)).foldl max 0 + 1
  let lines := (heads.zip sorted).map fun (h, f) =>
    let dflt := if f.default.isEmpty then "" else " (default " ++ Quoted.quote f.default ++ ")"
    h ++ " " ++ String.ofList (List.replicate (width - h.length) ' ') ++ " " ++ f.usage ++ dflt
  String.join (lines.map (· ++ "\n"))

def trimTrailing (s : String) : String :=
  String.ofList (s.toList.reverse.dropWhile Char.isWhitespace).reverse

/-- The entries help lists under a command: its subcommands, or for `completion` the shells it
writes scripts for. -/
def Command.listing (c : Command) : List (String × String) :=
  match c with
  | .completion => ["bash", "fish", "powershell", "zsh"].map fun sh =>
    (sh, "Generate the autocompletion script for " ++ sh)
  | _ => c.children.map fun s => (s.name, s.short)

def Command.usage (c : Command) (withHelp : Bool := true) : String :=
  let useLine := (match c.parent? with
    | some p => p.path ++ " " ++ c.name
    | none => c.name) ++ c.pattern
  let useLine := if c.flags.isEmpty then useLine else useLine ++ " [flags]"
  let runLine := if c.runnable then "\n  " ++ useLine else ""
  let subs := c.listing
  let subLine := if subs.isEmpty then "" else "\n  " ++ c.path ++ " [command]"
  let commands := if subs.isEmpty then ""
    else "\n\nAvailable Commands:" ++ String.join (subs.map fun (n, s) =>
      "\n  " ++ rightPad 11 n ++ " " ++ s)
  let help := if withHelp then [c.helpFlag] else []
  let local_ := if c == .root then c.ownFlags ++ help ++ Command.globalFlags
    else c.ownFlags ++ help
  let localText := "\n\nFlags:\n" ++ trimTrailing (flagUsages local_)
  let globalText := if c == .root then ""
    else "\n\nGlobal Flags:\n" ++ trimTrailing (flagUsages Command.globalFlags)
  let more := if subs.isEmpty then ""
    else "\n\nUse \"" ++ c.path ++ " [command] --help\" for more information about a command."
  "Usage:" ++ runLine ++ subLine ++ commands ++ localText ++ globalText ++ more ++ "\n"

def Command.helpText (c : Command) : String :=
  c.description ++ "\n\n" ++ c.usage

end DhcpDecoder
