import DhcpDecoder.Log.Line

/-!
Command-line flags.
-/

namespace DhcpDecoder

inductive FlagKind where
  | text
  | switch
  deriving DecidableEq, Repr, Inhabited

/-- A flag a command accepts: long name, short letter, kind, usage line and default value (as help
shows it; empty when the zero value). -/
structure FlagSpec where
  name : String
  short : Option Char := none
  kind : FlagKind
  usage : String
  default : String := ""
  deriving DecidableEq, Repr, Inhabited

structure GivenFlags where
  values : List (String × String) := []
  deriving DecidableEq, Repr, Inhabited

namespace GivenFlags

def changed (g : GivenFlags) (name : String) : Bool :=
  g.values.any (·.1 == name)

def text? (g : GivenFlags) (name : String) : Option String :=
  (g.values.reverse.find? (·.1 == name)).map Prod.snd

def switch (g : GivenFlags) (name : String) : Bool :=
  match g.text? name with
  | some v => (Log.parseFlag? v).getD false
  | none => false

end GivenFlags

inductive FlagError where
  | badSyntax (arg : String)
  | unknownLong (name : String)
  | unknownShort (c : Char) (group : String)
  | needsArgLong (arg : String)
  | needsArgShort (c : Char) (group : String)
  | invalidSwitch (value : String) (flagName : String)
  deriving DecidableEq, Repr, Inhabited

def quoteLetter (c : Char) : String :=
  if c = '\'' then "'\\''" else if c = '"' then "'\"'" else "'" ++ Quoted.escapeChar c ++ "'"

/-- The first byte of a character's UTF-8 encoding, read as a character of its own: short flags are
looked up byte by byte, so an unknown one is reported by that byte. -/
def leadByte (c : Char) : Char :=
  let n := c.toNat
  Char.ofNat (if n < 0x80 then n else if n < 0x800 then 0xC0 + n / 64
    else if n < 0x10000 then 0xE0 + n / 4096 else 0xF0 + n / 262144)

def FlagError.message : FlagError → String
  | .badSyntax a => "bad flag syntax: " ++ a
  | .unknownLong n => "unknown flag: --" ++ n
  | .unknownShort c g => "unknown shorthand flag: " ++ quoteLetter (leadByte c) ++ " in -" ++ g
  | .needsArgLong a => "flag needs an argument: " ++ a
  | .needsArgShort c g => "flag needs an argument: " ++ quoteLetter c ++ " in -" ++ g
  | .invalidSwitch v n => "invalid argument " ++ Quoted.quote v ++ " for " ++ Quoted.quote n
    ++ " flag: strconv.ParseBool: parsing " ++ Quoted.quote v ++ ": invalid syntax"

def FlagSpec.shownName (f : FlagSpec) : String :=
  match f.short with
  | some c => "-" ++ String.singleton c ++ ", --" ++ f.name
  | none => "--" ++ f.name

structure ParsedArgs where
  flags : GivenFlags := {}
  positional : List String := []
  deriving DecidableEq, Repr, Inhabited

namespace ParsedArgs

def give (p : ParsedArgs) (f : FlagSpec) (value : String) : Except FlagError ParsedArgs :=
  if f.kind == .switch && (Log.parseFlag? value).isNone then .error (.invalidSwitch value f.shownName)
  else .ok { p with flags := ⟨p.flags.values ++ [(f.name, value)]⟩ }

abbrev Rest (rest : List String) := { r : List String // r.length ≤ rest.length }

def shortGroup (specs : List FlagSpec) (p : ParsedArgs) (group : List Char)
    (rest : List String) : Except FlagError (ParsedArgs × Rest rest) :=
  match group with
  | [] => .ok (p, ⟨rest, Nat.le_refl _⟩)
  | c :: more =>
    match specs.find? (·.short == some c) with
    | none => .error (.unknownShort c (String.ofList group))
    | some f =>
      match more with
      | '=' :: value@(_ :: _) => do
        let p ← p.give f (String.ofList value)
        .ok (p, ⟨rest, Nat.le_refl _⟩)
      | _ =>
        if f.kind == .switch then do
          let p ← p.give f "true"
          shortGroup specs p more rest
        else
          match more with
          | _ :: _ => do
            let p ← p.give f (String.ofList more)
            .ok (p, ⟨rest, Nat.le_refl _⟩)
          | [] =>
            match rest with
            | value :: rest' => do
              let p ← p.give f value
              .ok (p, ⟨rest', by simp⟩)
            | [] => .error (.needsArgShort c (String.ofList group))

def longFlag (specs : List FlagSpec) (p : ParsedArgs) (arg : String) (body : List Char)
    (rest : List String) : Except FlagError (ParsedArgs × Rest rest) :=
  match body with
  | [] | '-' :: _ | '=' :: _ => .error (.badSyntax arg)
  | _ =>
    let name := String.ofList (body.takeWhile (· != '='))
    let value := match body.dropWhile (· != '=') with
      | '=' :: v => some (String.ofList v)
      | _ => none
    match specs.find? (·.name == name) with
    | none => .error (.unknownLong name)
    | some f =>
      match value, f.kind with
      | some v, _ => do
        let p ← p.give f v
        .ok (p, ⟨rest, Nat.le_refl _⟩)
      | none, .switch => do
        let p ← p.give f "true"
        .ok (p, ⟨rest, Nat.le_refl _⟩)
      | none, .text =>
        match rest with
        | v :: rest' => do
          let p ← p.give f v
          .ok (p, ⟨rest', by simp⟩)
        | [] => .error (.needsArgLong arg)

end ParsedArgs

def parseArgs (specs : List FlagSpec) (args : List String) : Except FlagError ParsedArgs :=
  go {} args
where
  go (p : ParsedArgs) : List String → Except FlagError ParsedArgs
    | [] => .ok p
    | arg :: rest =>
      match arg.toList with
      | ['-', '-'] => .ok { p with positional := p.positional ++ rest }
      | '-' :: '-' :: body => do
        let (p, ⟨rest', _⟩) ← p.longFlag specs arg body rest
        go p rest'
      | '-' :: group@(_ :: _) => do
        let (p, ⟨rest', _⟩) ← p.shortGroup specs group rest
        go p rest'
      | _ => go { p with positional := p.positional ++ [arg] } rest
  termination_by args => args.length
  decreasing_by all_goals simp_wf; all_goals omega

end DhcpDecoder
