import DhcpDecoder.Text.Quoted
import DhcpDecoder.Text.Letter

/-!
Reading TOML documents (TOML 1.1).
-/

namespace DhcpDecoder.Toml

inductive Value where
  | str (s : String)
  | int (n : Int)
  | float (text : String)
  | bool (b : Bool)
  | datetime (text : String)
  | arr (items : List Value)
  | table (members : List (String × Value))
  | tableArray (tables : List (List (String × Value)))
  deriving Inhabited, Repr

def Value.typeName : Value → String
  | .str _ => "string"
  | .int _ => "int64"
  | .float _ => "float64"
  | .bool _ => "bool"
  | .datetime _ => "time.Time"
  | .arr _ => "[]any"
  | .table _ => "map[string]any"
  | .tableArray _ => "[]map[string]any"

structure ParseError where
  line : Nat
  lastKey : String
  message : String
  deriving Inhabited, Repr

/-- `toml: line N: message`, with `(last key "k")` after the line when a key was being defined. -/
def ParseError.text (e : ParseError) : String :=
  if e.lastKey.isEmpty then "toml: line " ++ toString e.line ++ ": " ++ e.message
  else "toml: line " ++ toString e.line ++ " (last key " ++ Quoted.quote e.lastKey ++ "): "
    ++ e.message

def isBareChar (c : Char) : Bool :=
  c.isAlphanum || c = '_' || c = '-'

/-- A character of a quoted key part: quote and backslash escaped, controls as `\b \t \n \f \r` or
`\u00` and two hex digits. -/
def keyCharText (c : Char) : String :=
  if c = '"' then "\\\"" else if c = '\\' then "\\\\"
  else if c = '\x08' then "\\b" else if c = '\t' then "\\t" else if c = '\n' then "\\n"
  else if c = '\x0c' then "\\f" else if c = '\r' then "\\r"
  else if c.toNat < 0x20 || c.toNat = 0x7F then
    String.ofList ('\\' :: 'u' :: Hex.fixedDigits Hex.digit 4 c.toNat)
  else String.singleton c

def partText (p : String) : String :=
  if p.isEmpty then "\"\""
  else if p.toList.all isBareChar then p
  else "\"" ++ String.join (p.toList.map keyCharText) ++ "\""

def keyText (parts : List String) : String :=
  ".".intercalate (parts.map partText)

/-- A character between single quotes, escaped the way a quoted character literal is; the end of
input shows as the NUL character. -/
def quoteRune (c : Option Char) : String :=
  match c with
  | none => "'\\x00'"
  | some '\'' => "'\\''"
  | some '"' => "'\"'"
  | some c => "'" ++ Quoted.escapeChar c ++ "'"

def runeOrEnd (c : Option Char) : String :=
  match c with
  | none => "end of file"
  | some c => "'" ++ String.singleton c ++ "'"

/-- Where reading stands: the characters left, the current line, whether the last character read was
a line break, and whether the end was met. -/
structure Cursor where
  rest : List Char
  line : Nat := 1
  afterBreak : Bool := false
  atEnd : Bool := false
  deriving Inhabited

/-- The state of reading: the cursor, the tree so far, the implicit tables, the keys in definition
order, the line of each defined value, the current table, the key being defined, the line of the key
or table name last read, and the keys whose type last recorded is an array value. -/
structure State where
  cur : Cursor
  root : List (String × Value) := []
  implicit : List (List String) := []
  ordered : List (List String) := []
  lines : List (List String × Nat) := []
  context : List String := []
  currentKey : String := ""
  keyLine : Nat := 0
  arrays : List (List String) := []
  deriving Inhabited

abbrev Reader := StateT State (Except ParseError)

/-- The key being defined, as messages name it: the current table's path, then the key as written.
-/
def lastKey : Reader String := do
  let s ← get
  if s.currentKey.isEmpty then pure (keyText s.context)
  else if s.context.isEmpty then pure s.currentKey
  else pure (keyText s.context ++ "." ++ s.currentKey)

def failAt {α : Type} (line : Nat) (message : String) : Reader α := do
  throw ⟨line, ← lastKey, message⟩

/-- Fails at the current line; at the end of input right after a line break, at the line before. -/
def fail {α : Type} (message : String) : Reader α := do
  let c := (← get).cur
  failAt (if c.atEnd && c.afterBreak then c.line - 1 else c.line) message

def failPrevLine {α : Type} (message : String) : Reader α := do
  failAt ((← get).cur.line - 1) message

def line : Reader Nat := do
  return (← get).cur.line

def isControl (c : Char) : Bool :=
  (c.toNat ≤ 0x1F && c != '\t' && c != '\n' && c != '\r') || c.toNat = 0x7F

/-- The first of the characters left, when it may not stand in a document: a control character, or a
carriage return not followed by a line feed. -/
def badAhead : List Char → Option Char
  | c :: rest => if isControl c || (c = '\r' && rest.head? != some '\n') then some c else none
  | [] => none

def controlText (c : Char) : String :=
  "TOML files cannot contain control characters: '0x"
    ++ String.ofList (Hex.fixedDigits Hex.digit 2 c.toNat) ++ "'"

def peek : Reader (Option Char) := do
  let rest := (← get).cur.rest
  match badAhead rest with
  | some c => fail (controlText c)
  | none => pure rest.head?

def next : Reader (Option Char) := do
  let s ← get
  match s.cur.rest with
  | [] =>
    set { s with cur := { s.cur with atEnd := true } }
    pure none
  | c :: rest =>
    match badAhead s.cur.rest with
    | some c => fail (controlText c)
    | none =>
      let line := if c = '\n' then s.cur.line + 1 else s.cur.line
      set { s with cur := { s.cur with rest := rest, line := line, afterBreak := c = '\n' } }
      pure (some c)

def accept (c : Char) : Reader Bool := do
  if (← peek) = some c then
    let _ ← next
    pure true
  else pure false

def skipN : Nat → Reader Unit
  | 0 => pure ()
  | n + 1 => do
    let _ ← next
    skipN n

def isBlank (c : Char) : Bool := c = ' ' || c = '\t'

def isBreak (c : Char) : Bool := c = '\n' || c = '\r'

def takeWhile (p : Char → Bool) : Nat → Reader (List Char)
  | 0 => pure []
  | fuel + 1 => do
    match ← peek with
    | some c =>
      if p c then
        let _ ← next
        return c :: (← takeWhile p fuel)
      else pure []
    | none => pure []

def fuelLeft : Reader Nat := do
  return (← get).cur.rest.length + 1

def skipWhile (p : Char → Bool) : Reader Unit := do
  let _ ← takeWhile p (← fuelLeft)

def skipComment : Reader Unit :=
  skipWhile fun c => !isBreak c

def isHex (c : Char) : Bool :=
  c.isDigit || ('a' ≤ c ∧ c ≤ 'f') || ('A' ≤ c ∧ c ≤ 'F')

def hexValue (c : Char) : Nat :=
  if c.isDigit then c.toNat - 48 else if 'a' ≤ c ∧ c ≤ 'f' then c.toNat - 87 else c.toNat - 55

def digitsValue (base : Nat) (cs : List Char) : Nat :=
  cs.foldl (fun acc c => acc * base + hexValue c) 0

/-! ### Strings -/

/-- A piece of a string as read: a character, or the fault of an escape that the string's characters
allow but that stands for no character. -/
abbrev Piece := Except String Char

/-- Reads the `n` hex digits of a `\x`, `\u` or `\U` escape; `start` is the input from the string's
first character, so that a fault can show the string read so far. -/
def hexDigits (n : Nat) (letter word : String) (start : List Char) : Reader (List Char) := do
  let mut digits : List Char := []
  for _ in [0:n] do
    match ← next with
    | some d =>
      if isHex d then digits := digits ++ [d]
      else
        let now := (← get).cur.rest.length
        fail ("expected " ++ word ++ " hexadecimal digits after '\\" ++ letter
          ++ "', but got " ++ Quoted.quote (String.ofList (start.take (start.length - now)))
          ++ " instead")
    | none =>
      fail ("expected " ++ word ++ " hexadecimal digits after '\\" ++ letter
        ++ "', but got " ++ Quoted.quote (String.ofList start) ++ " instead")
  pure digits

/-- The character that the hex digits of a `\u` or `\U` escape name; a surrogate or a number past
U+10FFFF names none. -/
def codePoint (digits : List Char) : Piece :=
  let v := digitsValue 16 digits
  if v > 0x10FFFF || (0xD800 ≤ v && v ≤ 0xDFFF) then
    .error ("Escaped character '\\u" ++ String.ofList digits ++ "' is not valid UTF-8.")
  else .ok (Char.ofNat v)

def escape (start : List Char) : Reader Piece := do
  match ← next with
  | some 'b' => pure (.ok '\x08')
  | some 't' => pure (.ok '\t')
  | some 'n' => pure (.ok '\n')
  | some 'f' => pure (.ok '\x0c')
  | some 'r' => pure (.ok '\r')
  | some 'e' => pure (.ok '\x1b')
  | some '"' => pure (.ok '"')
  | some '\\' => pure (.ok '\\')
  | some ' ' => pure (.error "invalid escape: '\\ '")
  | some '\t' => pure (.error "invalid escape: '\\\t'")
  | some 'x' => return .ok (Char.ofNat (digitsValue 16 (← hexDigits 2 "x" "two" start)))
  | some 'u' => return codePoint (← hexDigits 4 "u" "four" start)
  | some 'U' => return codePoint (← hexDigits 8 "U" "eight" start)
  | some c => fail ("invalid escape in string '\\" ++ String.singleton c ++ "'")
  | none => failPrevLine "invalid escape in string '\\\x00'"

/-- The text of a string's pieces; the first fault among them fails on the current line, where the
string ends. -/
def cooked (pieces : List Piece) : Reader String :=
  match pieces.mapM id with
  | .ok cs => pure (String.ofList cs)
  | .error m => do failAt (← line) m

def basicString (start : List Char) : Nat → Reader (List Piece)
  | 0 => pure []
  | fuel + 1 => do
    match ← next with
    | none => fail "unexpected EOF; expected '\"'"
    | some '"' => pure []
    | some '\\' => return (← escape start) :: (← basicString start fuel)
    | some c =>
      if isBreak c then failPrevLine "strings cannot contain newlines"
      else return .ok c :: (← basicString start fuel)

def literalString : Nat → Reader String
  | 0 => pure ""
  | fuel + 1 => do
    match ← next with
    | none => fail "unexpected EOF; expected \"'\""
    | some '\'' => pure ""
    | some c =>
      if isBreak c then failPrevLine "strings cannot contain newlines"
      else return String.singleton c ++ (← literalString fuel)

def runOf (q : Char) (cs : List Char) : Nat :=
  (cs.takeWhile (· = q)).length

/-- Whether what follows a backslash in a multi-line basic string ends its line: blanks and line
breaks, among them a line feed. -/
def endsLine (cs : List Char) : Bool :=
  (cs.takeWhile fun c => isBlank c || isBreak c).contains '\n'

def skipFirstBreak : Reader Unit := do
  let rest := (← get).cur.rest
  if rest.head? = some '\n' then skipN 1
  else if rest.take 2 = ['\r', '\n'] then skipN 2

/-- Reads a multi-line basic string after its three opening quotes, up to and including the closing
ones. -/
def multiBasic (start : List Char) (slash : Bool) : Nat → Reader (List Piece)
  | 0 => pure []
  | fuel + 1 => do
    match ← next with
    | none => fail "unexpected EOF; expected '\"\"\"'"
    | some '"' =>
      let k := 1 + runOf '"' (← get).cur.rest
      if k < 3 then
        skipN (k - 1)
        return List.replicate k (.ok '"') ++ (← multiBasic start false fuel)
      else if k ≥ 7 || (k = 6 && !slash) then fail "unexpected '\"\"\"\"\"\"'"
      else
        skipN (k - 1)
        pure (List.replicate (k - 3) (.ok '"'))
    | some '\\' =>
      let rest := (← get).cur.rest
      if endsLine rest then
        skipWhile fun c => isBlank c || isBreak c
        multiBasic start false fuel
      else
        let e ← escape start
        return e :: (← multiBasic start (rest.head? = some '\\') fuel)
    | some c => return .ok c :: (← multiBasic start false fuel)

/-- Reads a multi-line literal string after its three opening quotes, up to and including the
closing ones. -/
def multiLiteral : Nat → Reader String
  | 0 => pure ""
  | fuel + 1 => do
    match ← next with
    | none => fail "unexpected EOF; expected \"'''\""
    | some '\'' =>
      let k := 1 + runOf '\'' (← get).cur.rest
      if k < 3 then
        skipN (k - 1)
        return String.ofList (List.replicate k '\'') ++ (← multiLiteral fuel)
      else if k ≥ 6 then fail "unexpected \"''''''\""
      else
        skipN (k - 1)
        pure (String.ofList (List.replicate (k - 3) '\''))
    | some c => return String.singleton c ++ (← multiLiteral fuel)

def namePart : Reader String := do
  let f ← fuelLeft
  match ← peek with
  | some '"' =>
    let _ ← next
    cooked (← basicString (← get).cur.rest f)
  | some '\'' =>
    let _ ← next
    literalString f
  | _ => return String.ofList (← takeWhile isBareChar f)

def keyParts : Nat → Reader (List String)
  | 0 => pure []
  | fuel + 1 => do
    skipWhile isBlank
    match ← peek with
    | none | some '=' => fail "unexpected '='"
    | some '.' => fail "unexpected '.'"
    | _ => pure ()
    let part ← namePart
    skipWhile isBlank
    match ← next with
    | none => fail "unexpected EOF; expected key separator '='"
    | some '.' => return part :: (← keyParts fuel)
    | some '=' => pure [part]
    | some '\n' => failPrevLine "expected '.' or '=', but got '\\n' instead"
    | c => fail ("expected '.' or '=', but got " ++ quoteRune c ++ " instead")

def key : Reader (List String) := do
  skipWhile isBlank
  match ← peek with
  | none | some '=' => fail "unexpected '=': key name appears blank"
  | some '.' => fail "unexpected '.': keys cannot start with a '.'"
  | _ =>
    modify fun s => { s with keyLine := s.cur.line }
    keyParts (← fuelLeft)

/-! ### Numbers and date-times -/

def underscoresOk (cs : List Char) : Bool :=
  go cs false
where
  go : List Char → Bool → Bool
    | [], ok => ok
    | '_' :: rest, ok => ok && go rest false
    | c :: rest, _ => go rest (isHex c)

/-- Whether a number has a leading zero: `0` then more than a base letter, or a sign then `0` then
more. -/
def hasLeadingZero (cs : List Char) : Bool :=
  match cs with
  | '0' :: c :: _ => !(c = 'b' || c = 'o' || c = 'x')
  | s :: '0' :: _ :: _ => s = '-' || s = '+'
  | _ => false

def periodsOk (cs : List Char) : Bool :=
  go cs false
where
  go : List Char → Bool → Bool
    | [], after => !after
    | c :: rest, after => (!after || c.isDigit) && go rest (c = '.')

def integerValue (text : List Char) (at_ : Nat) : Reader Value := do
  let shown := String.ofList text
  if !underscoresOk text then
    failAt at_ ("Invalid integer " ++ Quoted.quote shown
      ++ ": underscores must be surrounded by digits")
  if hasLeadingZero text then
    failAt at_ ("Invalid integer " ++ Quoted.quote shown ++ ": cannot have leading zeroes")
  let plain := text.filter (· != '_')
  let n : Int := match plain with
    | '0' :: 'x' :: ds => digitsValue 16 ds
    | '0' :: 'o' :: ds => digitsValue 8 ds
    | '0' :: 'b' :: ds => digitsValue 2 ds
    | '-' :: ds => -(digitsValue 10 ds : Int)
    | '+' :: ds => digitsValue 10 ds
    | ds => digitsValue 10 ds
  if n ≥ 9223372036854775808 || n < -9223372036854775808 then
    failAt at_ (shown ++ " is out of range for int64")
  pure (.int n)

def dropSign (cs : List Char) : List Char :=
  match cs with
  | '+' :: r | '-' :: r => r
  | r => r

/-- Whether a text reads as a decimal float: a sign, digits, a fraction, an exponent, or `inf` or
`nan` after a sign. -/
def isFloatText (cs : List Char) : Bool :=
  let body := dropSign cs
  if body = ['i', 'n', 'f'] || body = ['n', 'a', 'n'] then true
  else
    let int := body.takeWhile Char.isDigit
    let r := body.dropWhile Char.isDigit
    let (frac, r) := match r with
      | '.' :: r => (r.takeWhile Char.isDigit, r.dropWhile Char.isDigit)
      | _ => ([], r)
    let expOk := match r with
      | [] => true
      | e :: r => (e = 'e' || e = 'E') && !(dropSign r).isEmpty && (dropSign r).all Char.isDigit
    !(int.isEmpty && frac.isEmpty) && expOk

def decimalLength (n : Nat) : Nat :=
  (Nat.toDigits 10 n).length

/-- The least magnitude that rounds past the largest finite 64-bit float: 2^1024 - 2^970, halfway
between the largest finite value and 2^1024, where a tie goes to the even side, which is upwards. -/
def overflowBound : Nat :=
  Nat.pow 2 1024 - Nat.pow 2 970

def floatOverflows (cs : List Char) : Bool :=
  let body := dropSign cs
  let mant := body.takeWhile fun c => c != 'e' && c != 'E'
  let expPart := (body.dropWhile fun c => c != 'e' && c != 'E').drop 1
  let exp : Int := match expPart with
    | '-' :: ds => -(digitsValue 10 ds : Int)
    | ds => digitsValue 10 (dropSign ds)
  let intDigits := mant.takeWhile (· != '.')
  let fracDigits := (mant.dropWhile (· != '.')).drop 1
  let m := digitsValue 10 (intDigits ++ fracDigits)
  let e : Int := exp - fracDigits.length
  if m = 0 || body = ['i', 'n', 'f'] || body = ['n', 'a', 'n'] then false
  else
    let lead : Int := decimalLength m + e
    if lead ≥ 310 then true
    else if lead ≤ 308 then false
    else if 0 ≤ e then m * Nat.pow 10 e.toNat ≥ overflowBound
    else m ≥ overflowBound * Nat.pow 10 (-e).toNat

def floatValue (text : List Char) (at_ : Nat) : Reader Value := do
  let shown := String.ofList text
  let special := ["nan", "+nan", "-nan", "inf", "+inf", "-inf"].contains shown
  let parts := ((shown.splitOn ".").flatMap (·.splitOn "e")).flatMap (·.splitOn "E")
  let parts := parts.filter (!·.isEmpty)
  if !special && parts.any (fun p => !underscoresOk p.toList) then
    failAt at_ ("Invalid float " ++ Quoted.quote shown
      ++ ": underscores must be surrounded by digits")
  if !special && (parts.head?.map (fun p => hasLeadingZero p.toList)).getD false then
    failAt at_ ("Invalid float " ++ Quoted.quote shown ++ ": cannot have leading zeroes")
  if !periodsOk text then
    failAt at_ ("Invalid float " ++ Quoted.quote shown
      ++ ": '.' must be followed by one or more digits")
  let plain := text.filter (· != '_')
  if !isFloatText plain then failAt at_ ("Invalid float value: " ++ Quoted.quote shown)
  if floatOverflows plain then
    failAt at_ (shown ++ " is out of range for float64")
  pure (.float shown)

def fixedNumber (cs : List Char) (n : Nat) : Option (Nat × List Char) :=
  let ds := cs.take n
  if ds.length = n && ds.all Char.isDigit then some (digitsValue 10 ds, cs.drop n) else none

def daysIn (year month : Nat) : Nat :=
  if month = 2 then
    if year % 4 = 0 && (year % 100 != 0 || year % 400 = 0) then 29 else 28
  else if month = 4 || month = 6 || month = 9 || month = 11 then 30 else 31

inductive Field where
  | year
  | month
  | day
  | hour
  | minute
  | second
  | fraction
  | zone
  | sep (c : Char)
  deriving DecidableEq, Repr

/-- The date read so far: year, month and day; a time alone stands on the first of January of year
0. -/
structure DateParts where
  year : Nat := 0
  month : Nat := 1
  day : Nat := 1
  deriving Repr

def Field.read (d : DateParts) (cs : List Char) : Field → Option (DateParts × List Char)
  | .year => (fixedNumber cs 4).map fun (y, r) => ({ d with year := y }, r)
  | .month => match fixedNumber cs 2 with
    | some (m, r) => if 1 ≤ m && m ≤ 12 then some ({ d with month := m }, r) else none
    | none => none
  | .day => (fixedNumber cs 2).map fun (n, r) => ({ d with day := n }, r)
  | .hour => match fixedNumber cs 2 with
    | some (h, r) => if h < 24 then some (d, r) else none
    | none => none
  | .minute | .second => match fixedNumber cs 2 with
    | some (m, r) => if m < 60 then some (d, r) else none
    | none => none
  | .fraction => match cs with
    | '.' :: c :: r => if c.isDigit then some (d, r.dropWhile Char.isDigit) else some (d, cs)
    | _ => some (d, cs)
  | .zone => match cs with
    | 'Z' :: r => some (d, r)
    | s :: h1 :: h2 :: ':' :: m1 :: m2 :: r =>
      match fixedNumber [h1, h2] 2, fixedNumber [m1, m2] 2 with
      | some (h, _), some (m, _) =>
        if (s = '+' || s = '-') && h ≤ 24 && m ≤ 60 then some (d, r) else none
      | _, _ => none
    | _ => none
  | .sep c => match cs with
    | x :: r => if x = c then some (d, r) else none
    | [] => none

def matchesLayout (layout : List Field) (cs : List Char) : Bool :=
  match go layout cs {} with
  | some (d, []) => 1 ≤ d.day && d.day ≤ daysIn d.year d.month
  | _ => false
where
  go : List Field → List Char → DateParts → Option (DateParts × List Char)
    | [], cs, d => some (d, cs)
    | f :: fs, cs, d => match f.read d cs with
      | some (d, r) => go fs r d
      | none => none

def dateFields : List Field := [.year, .sep '-', .month, .sep '-', .day]

def shortTimeFields : List Field := [.hour, .sep ':', .minute]

def timeFields : List Field := shortTimeFields ++ [.sep ':', .second, .fraction]

/-- The accepted forms of a date-time, with `T` between date and time: an offset date-time, a local
date-time, a local date and a local time, each time with or without seconds. -/
def datetimeLayouts : List (List Field) :=
  [dateFields ++ [.sep 'T'] ++ timeFields ++ [.zone],
   dateFields ++ [.sep 'T'] ++ timeFields,
   dateFields,
   timeFields,
   dateFields ++ [.sep 'T'] ++ shortTimeFields ++ [.zone],
   dateFields ++ [.sep 'T'] ++ shortTimeFields,
   shortTimeFields]

/-- Whether a date-time text (with `T` between date and time, `Z` for the zone) has one of the
accepted forms. -/
def datetimeOk (cs : List Char) : Bool :=
  datetimeLayouts.any fun l => matchesLayout l cs

/-- Checks a date-time's text, with blanks around it trimmed and `t`, `z` and a blank written `T`,
`Z` and `T`. -/
def datetimeValue (text : List Char) (at_ : Nat) : Reader Value := do
  let trimmed := ((text.dropWhile isBlank).reverse.dropWhile isBlank).reverse
  let norm := trimmed.map fun c => if c = ' ' || c = 't' then 'T' else if c = 'z' then 'Z' else c
  if !datetimeOk norm then
    failAt at_ ("invalid datetime: " ++ Quoted.quote (String.ofList norm))
  pure (.datetime (String.ofList norm))

def isFloatChar (c : Char) : Bool :=
  c.isDigit || c = '_' || c = '.' || c = '-' || c = '+' || c = 'e' || c = 'E'

def isDateChar (c : Char) : Bool :=
  c.isDigit || c = '-' || c = ':' || c = 'T' || c = 't' || c = ' ' || c = '.' || c = 'Z'
    || c = 'z' || c = '+'

def floatRest (sofar : List Char) : Reader Value := do
  let more ← takeWhile isFloatChar (← fuelLeft)
  floatValue (sofar ++ more) (← line)

/-- Reads the rest of a decimal number (digits and underscores) whose text so far is `sofar`: an
integer, or a float when a point or an exponent follows. -/
def decimalRest (sofar : List Char) : Reader Value := do
  let more ← takeWhile (fun c => c.isDigit || c = '_') (← fuelLeft)
  match ← peek with
  | some '.' | some 'e' | some 'E' => floatRest (sofar ++ more)
  | _ => integerValue (sofar ++ more) (← line)

def baseRest (sofar : List Char) (ok : Char → Bool) (word : String) : Reader Value := do
  match ← peek with
  | some c =>
    if ok c then
      let more ← takeWhile (fun c => ok c || c = '_') (← fuelLeft)
      integerValue (sofar ++ more) (← line)
    else
      fail ("not a " ++ word ++ " number: '" ++ String.ofList sofar ++ String.singleton c ++ "'")
  | none => fail ("not a " ++ word ++ " number: '" ++ String.ofList sofar ++ "\x00'")

def digitsRest (sofar : List Char) : Reader Value := do
  let more ← takeWhile Char.isDigit (← fuelLeft)
  let sofar := sofar ++ more
  match ← peek with
  | some '-' | some ':' =>
    let rest ← takeWhile isDateChar (← fuelLeft)
    datetimeValue (sofar ++ rest) (← line)
  | some '_' => decimalRest sofar
  | some '.' | some 'e' | some 'E' => floatRest sofar
  | _ => integerValue sofar (← line)

def unsignedNumber (first : Char) : Reader Value := do
  if first = '0' then
    match ← peek with
    | some 'b' =>
      let _ ← next
      baseRest ['0', 'b'] (fun c => c = '0' || c = '1') "binary"
    | some 'o' =>
      let _ ← next
      baseRest ['0', 'o'] (fun c => '0' ≤ c ∧ c ≤ '7') "octal"
    | some 'x' =>
      let _ ← next
      baseRest ['0', 'x'] isHex "hexidecimal"
    | some '_' => decimalRest [first]
    | some '.' | some 'e' | some 'E' => floatRest [first]
    | some c => if c.isDigit then digitsRest [first] else integerValue [first] (← line)
    | none => integerValue [first] (← line)
  else digitsRest [first]

def signedNumber (sign : Char) : Reader Value := do
  match ← next with
  | some 'i' =>
    if (← accept 'n') then
      if (← accept 'f') then floatValue [sign, 'i', 'n', 'f'] (← line)
      else fail ("invalid float: '" ++ String.ofList [sign, 'i', 'n'] ++ "'")
    else fail ("invalid float: '" ++ String.ofList [sign, 'i'] ++ "'")
  | some 'n' =>
    if (← accept 'a') then
      if (← accept 'n') then floatValue [sign, 'n', 'a', 'n'] (← line)
      else fail ("invalid float: '" ++ String.ofList [sign, 'n', 'a'] ++ "'")
    else fail ("invalid float: '" ++ String.ofList [sign, 'n'] ++ "'")
  | some '.' => fail "floats must start with a digit, not '.'"
  | some c =>
    if c = '0' then
      match ← peek with
      | some 'b' | some 'o' | some 'x' =>
        let p ← peek
        fail ("cannot use sign with non-decimal numbers: '" ++ String.ofList [sign, '0']
          ++ String.ofList p.toList ++ "'")
      | _ => pure ()
    if c.isDigit then decimalRest [sign, c]
    else fail ("expected a digit but got " ++ quoteRune (some c))
  | none => fail ("expected a digit but got " ++ quoteRune none)

def boolWord : Reader Value := do
  let w ← takeWhile Text.isLetter (← fuelLeft)
  match String.ofList w with
  | "true" => pure (.bool true)
  | "false" => pure (.bool false)
  | other => fail ("expected value but found " ++ Quoted.quote other ++ " instead")

def unread (c : Char) : Reader Unit :=
  modify fun s => { s with cur := { s.cur with rest := c :: s.cur.rest } }

/-! ### The tree -/

def lookup : List (String × Value) → List String → Option Value
  | _, [] => none
  | members, [k] => (members.find? (·.1 == k)).map Prod.snd
  | members, k :: rest =>
    match (members.find? (·.1 == k)).map Prod.snd with
    | some (.table ms) => lookup ms rest
    | some (.tableArray ts) => match ts.getLast? with
      | some ms => lookup ms rest
      | none => none
    | _ => none

def setMember (members : List (String × Value)) (k : String) (v : Value) :
    List (String × Value) :=
  if members.any (·.1 == k) then members.map fun m => if m.1 == k then (k, v) else m
  else members ++ [(k, v)]

/-- The tree with `v` at a path, tables made on the way where missing; inside an array of tables its
last table changes. -/
def setAt : List (String × Value) → List String → Value → List (String × Value)
  | members, [], _ => members
  | members, [k], v => setMember members k v
  | members, k :: rest, v =>
    match (members.find? (·.1 == k)).map Prod.snd with
    | some (.table ms) => setMember members k (.table (setAt ms rest v))
    | some (.tableArray ts) =>
      match ts.getLast? with
      | some ms => setMember members k (.tableArray (ts.dropLast ++ [setAt ms rest v]))
      | none => members
    | _ => setMember members k (.table (setAt [] rest v))

def Value.isArray : Value → Bool
  | .arr _ => true
  | _ => false

def markImplicit (path : List String) : Reader Unit :=
  modify fun s => { s with implicit := s.implicit ++ [path] }

def isImplicit (path : List String) : Reader Bool := do
  return (← get).implicit.contains path

def unmarkImplicit (path : List String) : Reader Unit :=
  modify fun s => { s with implicit := s.implicit.filter (· != path) }

def isArrayTyped (path : List String) : Reader Bool := do
  return (← get).arrays.contains path

/-- Records the line of a key of the current table and whether its value is an array value; the
empty key records on the current table itself. -/
def setType (key : String) (isArray : Bool) (at_ : Nat) : Reader Unit :=
  modify fun s =>
    let path := if key.isEmpty then s.context else s.context ++ [key]
    let path := if path.isEmpty then [""] else path
    let others := s.arrays.filter (· != path)
    { s with lines := s.lines ++ [(path, at_)],
             arrays := if isArray then path :: others else others }

def conflict {α : Type} (message : String) : Reader α := do
  failAt (← get).keyLine message

def setValue (key : String) (v : Value) : Reader Unit := do
  let ctx := (← get).context
  for i in [1:ctx.length + 1] do
    let p := ctx.take i
    match lookup (← get).root p with
    | some (.table _) | some (.tableArray _) | none => pure ()
    | some _ => conflict ("Key '" ++ keyText p ++ "' has already been defined.")
  let path := ctx ++ [key]
  match lookup (← get).root path with
  | some _ =>
    if (← isArrayTyped path) then
      unmarkImplicit path
      modify fun s => { s with root := setAt s.root path v }
    else if (← isImplicit path) then unmarkImplicit path
    else conflict ("Key '" ++ keyText path ++ "' has already been defined.")
  | none => modify fun s => { s with root := setAt s.root path v }

def addContext (path : List String) (array : Bool) : Reader Unit := do
  for i in [1:path.length] do
    let p := path.take i
    match lookup (← get).root p with
    | none =>
      markImplicit p
      modify fun s => { s with root := setAt s.root p (.table []) }
    | some (.table _) | some (.tableArray _) => pure ()
    | some _ => conflict ("Key '" ++ keyText p ++ "' was already created as a hash.")
  modify fun s => { s with context := path.dropLast }
  if array then
    match lookup (← get).root path with
    | none => modify fun s => { s with root := setAt s.root path (.tableArray [[]]) }
    | some (.tableArray ts) =>
      modify fun s => { s with root := setAt s.root path (.tableArray (ts ++ [[]])) }
    | some _ => conflict ("Key '" ++ keyText path
        ++ "' was already created and cannot be used as an array.")
  else setValue (path.getLastD "") (.table [])
  modify fun s => { s with context := path }

def addImplicitContext (path : List String) : Reader Unit := do
  markImplicit path
  addContext path false

/-- Makes the parents of a dotted key, each under the one before, starting from the current table.
-/
def dottedParents (parents : List String) : Reader Unit := do
  for p in parents do
    addImplicitContext ((← get).context ++ [p])

def recordKey (path : List String) : Reader Unit :=
  modify fun s => { s with ordered := s.ordered ++ [path] }

/-! ### Values -/

def specialOrWord (c : Char) : Reader Value := do
  let n1 ← accept 'n'
  let f ← if n1 then accept 'f' else pure false
  if n1 && f then floatValue [c, 'n', 'f'] (← line)
  else
    let a ← accept 'a'
    let n2 ← if a then accept 'n' else pure false
    if a && n2 then floatValue ([c] ++ (if n1 then ['n'] else []) ++ ['a', 'n']) (← line)
    else
      unread (if a then 'a' else if n1 then 'n' else c)
      boolWord

mutual

def value (inArray : Bool) : Nat → Reader (Value × Nat)
  | 0 => fail "unexpected EOF; expected value"
  | fuel + 1 => do
    skipWhile isBlank
    match ← next with
    | none => fail "unexpected EOF; expected value"
    | some c =>
      if c.isDigit then
        let v ← unsignedNumber c
        return (v, ← line)
      else if c = '[' then
        let at_ ← line
        setType (← get).currentKey true at_
        return (.arr (← arrayItems fuel), at_)
      else if c = '{' then
        let at_ ← line
        return (← inlineTable inArray fuel, at_)
      else if c = '"' then
        let start := (← get).cur.rest
        if (← accept '"') then
          if (← accept '"') then
            let start := (← get).cur.rest
            skipFirstBreak
            let s ← cooked (← multiBasic start false (← fuelLeft))
            return (.str s, ← line)
          else return (.str "", ← line)
        else
          let s ← cooked (← basicString start (← fuelLeft))
          return (.str s, ← line)
      else if c = '\'' then
        if (← accept '\'') then
          if (← accept '\'') then
            skipFirstBreak
            let s ← multiLiteral (← fuelLeft)
            return (.str s, ← line)
          else return (.str "", ← line)
        else
          let s ← literalString (← fuelLeft)
          return (.str s, ← line)
      else if c = '.' then fail "floats must start with a digit, not '.'"
      else if c = '+' || c = '-' then
        let v ← signedNumber c
        return (v, ← line)
      else if c = 'i' || c = 'n' then
        let v ← specialOrWord c
        return (v, ← line)
      else if Text.isLetter c then
        unread c
        let v ← boolWord
        return (v, ← line)
      else if c = '\n' then failPrevLine "expected value but found '\\n' instead"
      else fail ("expected value but found " ++ quoteRune (some c) ++ " instead")

def arrayItems : Nat → Reader (List Value)
  | 0 => pure []
  | fuel + 1 => do
    skipWhile fun c => isBlank c || isBreak c
    match ← peek with
    | some '#' =>
      skipComment
      arrayItems fuel
    | some ',' =>
      let _ ← next
      fail "unexpected comma"
    | some ']' =>
      let _ ← next
      pure []
    | _ =>
      let (v, _) ← value true fuel
      return v :: (← arrayRest fuel)

def arrayRest : Nat → Reader (List Value)
  | 0 => pure []
  | fuel + 1 => do
    skipWhile fun c => isBlank c || isBreak c
    match ← next with
    | some '#' =>
      skipComment
      arrayRest fuel
    | some ',' => arrayItems fuel
    | some ']' => pure []
    | c => fail ("expected a comma (',') or array terminator (']'), but got " ++ runeOrEnd c)

def inlineTable (inArray : Bool) : Nat → Reader Value
  | 0 => pure (.table [])
  | fuel + 1 => do
    let saved ← get
    let ctx := saved.context ++ [saved.currentKey]
    modify fun s => { s with context := ctx, currentKey := "" }
    markImplicit ctx
    addContext ctx inArray
    let members ← inlineMembers ctx [] fuel
    modify fun s => { s with context := saved.context, currentKey := saved.currentKey }
    pure (.table members)

/-- Reads the members of an inline table up to and including `}`; `acc` holds the members read so
far. -/
def inlineMembers (ctx : List String) (acc : List (String × Value)) :
    Nat → Reader (List (String × Value))
  | 0 => pure acc
  | fuel + 1 => do
    skipWhile fun c => isBlank c || isBreak c
    match ← peek with
    | some '}' =>
      let _ ← next
      pure acc
    | some ',' =>
      let _ ← next
      fail "unexpected comma"
    | some '#' =>
      skipComment
      inlineMembers ctx acc fuel
    | _ => inlineMember ctx acc fuel

def inlineMember (ctx : List String) (acc : List (String × Value)) :
    Nat → Reader (List (String × Value))
  | 0 => pure acc
  | fuel + 1 => do
    let parts ← key
    let at_ := (← get).keyLine
    let last := parts.getLastD ""
    modify fun s => { s with currentKey := last }
    dottedParents parts.dropLast
    recordKey ((← get).context ++ [last])
    let (v, _) ← value false fuel
    setValue last v
    setType last v.isArray at_
    modify fun s => { s with context := ctx }
    inlineEnd ctx (setAt acc parts v) fuel

def inlineEnd (ctx : List String) (acc : List (String × Value)) :
    Nat → Reader (List (String × Value))
  | 0 => pure acc
  | fuel + 1 => do
    skipWhile fun c => isBlank c || isBreak c
    match ← next with
    | some '#' =>
      skipComment
      inlineEnd ctx acc fuel
    | some ',' =>
      skipWhile isBlank
      if (← peek) = some '}' then
        let _ ← next
        pure acc
      else inlineMembers ctx acc fuel
    | some '}' => pure acc
    | c => fail ("expected a comma or an inline table terminator '\x7d', but got "
        ++ runeOrEnd c ++ " instead")

end

/-! ### Documents -/

def itemEnd : Reader Unit := do
  skipWhile isBlank
  match ← peek with
  | some '#' => skipComment
  | some c =>
    if isBreak c then pure ()
    else
      let _ ← next
      fail ("expected a top-level item to end with a newline, comment, or EOF, but got "
        ++ quoteRune (some c) ++ " instead")
  | none => pure ()

def tableName : Nat → Reader (List String)
  | 0 => pure []
  | fuel + 1 => do
    skipWhile isBlank
    match ← peek with
    | none | some ']' => fail "unexpected end of table name (table names cannot be empty)"
    | some '.' => fail "unexpected table separator (table names cannot be empty)"
    | _ => pure ()
    let part ← namePart
    skipWhile isBlank
    match ← next with
    | some '.' => return part :: (← tableName fuel)
    | some ']' => pure [part]
    | c => fail ("expected '.' or ']' to end table name, but got " ++ quoteRune c ++ " instead")

def tableHeader : Reader Unit := do
  let isArray ← accept '['
  modify fun s => { s with keyLine := s.cur.line }
  let parts ← tableName (← fuelLeft)
  if isArray then
    match ← next with
    | some ']' => pure ()
    | c => fail ("expected end of table array name delimiter ']', but got " ++ quoteRune c
        ++ " instead")
  let at_ ← line
  addContext parts isArray
  setType "" false at_
  recordKey parts

def keyValue : Reader Unit := do
  let parts ← key
  let outer := (← get).context
  let last := parts.getLastD ""
  modify fun s => { s with currentKey := last }
  dottedParents parts.dropLast
  recordKey ((← get).context ++ [last])
  let (v, at_) ← value false (← fuelLeft)
  setValue last v
  setType last v.isArray at_
  modify fun s => { s with context := outer, currentKey := "" }
  itemEnd

def document : Nat → Reader Unit
  | 0 => pure ()
  | fuel + 1 => do
    skipWhile fun c => isBlank c || isBreak c
    match ← peek with
    | none => pure ()
    | some '#' =>
      skipComment
      document fuel
    | some '[' =>
      let _ ← next
      tableHeader
      itemEnd
      document fuel
    | some _ =>
      keyValue
      document fuel

/-- A read document: the tree, the keys in definition order, and the line of each defined value and
table header. -/
structure Document where
  root : List (String × Value)
  ordered : List (List String)
  lines : List (List String × Nat)
  deriving Inhabited

def Document.lineOf (d : Document) (path : List String) : Nat :=
  ((d.lines.reverse.find? (·.1 == path)).map Prod.snd).getD 0

def parse (text : String) : Except ParseError Document :=
  let cs := text.toList
  let cs := if cs.head? = some (Char.ofNat 0xFEFF) then cs.tail else cs
  if ((String.ofList cs).toUTF8.toList.take 6).contains 0 then
    .error ⟨1, "", "files cannot contain NULL bytes; probably using UTF-16; TOML files must be UTF-8"⟩
  else
    match (document (cs.length + 1)).run { cur := { rest := cs } } with
    | .ok ((), s) => .ok ⟨s.root, s.ordered, s.lines⟩
    | .error e => .error e

/-! ### Writing -/

/-- Whether a byte keeps a string from being written literally: a quote, a line break, or a control
character other than tab. -/
def needsBasic (c : Char) : Bool :=
  c = '\'' || c = '\r' || c = '\n' || (c.toNat < 0x20 && c != '\t') || c.toNat = 0x7F

/-- A character inside a basic string: quote and backslash escaped, backspace, form feed, line feed,
carriage return and tab by their letters, other controls as `\u00` and two uppercase hex digits. -/
def basicCharText (c : Char) : String :=
  if c = '\\' then "\\\\" else if c = '"' then "\\\""
  else if c = '\x08' then "\\b" else if c = '\x0c' then "\\f" else if c = '\n' then "\\n"
  else if c = '\r' then "\\r" else if c = '\t' then "\\t"
  else if c.toNat < 0x20 || c.toNat = 0x7F then
    String.ofList ('\\' :: 'u' :: Hex.fixedDigits Hex.upperDigit 4 c.toNat)
  else String.singleton c

/-- A string as a TOML value: a literal string between single quotes when it holds no single quote,
line break or control character other than tab, else a basic string. -/
def writeString (s : String) : String :=
  if s.toList.any needsBasic then "\"" ++ String.join (s.toList.map basicCharText) ++ "\""
  else "'" ++ s ++ "'"

def writeStrings (xs : List String) : String :=
  "[" ++ ", ".intercalate (xs.map writeString) ++ "]"

end DhcpDecoder.Toml
