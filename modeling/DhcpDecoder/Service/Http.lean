import DhcpDecoder.Decoding.Render
import DhcpDecoder.Input.Format
import DhcpDecoder.Log.Line
import DhcpDecoder.Option.Catalog
import DhcpDecoder.Service.Auth
import DhcpDecoder.Service.Stats

/-!
The admin HTTP service: health, the option catalogue, listener statistics and decoding on
request.
-/

namespace DhcpDecoder

structure HttpRequest where
  method : String
  target : String
  headers : List (String × String) := []
  body : List UInt8 := []
  deriving Inhabited

inductive ResponseBody where
  | json (j : Json)
  | text (s : String)
  deriving Inhabited

/-- An HTTP response: status, content type (empty when none), body and the CORS headers, each with
its values joined by `, `. -/
structure HttpResponse where
  status : Nat
  contentType : String
  body : ResponseBody
  headers : List (String × String) := []
  deriving Inhabited

structure ServiceClock where
  uptime : String
  lastSeen : String
  deriving Inhabited

/-- The admin service: allowed origins (none configured means the local front end), decode defaults,
the bearer token (empty for none), the listener statistics and the clock texts. -/
structure AdminService where
  origins : List String := []
  decode : DecodeOptions := {}
  token : String := ""
  stats : Stats := {}
  clock : ServiceClock := ⟨"", ""⟩
  host : String := "example.com"
  client : String := "192.0.2.1"
  deriving Inhabited

namespace Http

def version : String := "0.1.0"

def maxDecodeBody : Nat := 2 * 65535 + 1024

def hexDigit? (b : UInt8) : Option Nat :=
  HexText.digitValue? b

def unescape (plus : Bool) : List UInt8 → Option (List UInt8)
  | [] => some []
  | 37 :: a :: b :: rest => do
    let hi ← hexDigit? a
    let lo ← hexDigit? b
    ((hi * 16 + lo).toUInt8 :: ·) <$> unescape plus rest
  | 37 :: _ => none
  | 43 :: rest => ((if plus then 32 else 43) :: ·) <$> unescape plus rest
  | b :: rest => (b :: ·) <$> unescape plus rest

def splitTarget (target : String) : String × String :=
  match target.splitOn "?" with
  | [] => ("", "")
  | [p] => (p, "")
  | p :: rest => (p, "?".intercalate rest)

def path (target : String) : String :=
  let p := (splitTarget target).1
  match unescape false (Utf8.encode p) with
  | some bs => Utf8.lossy bs
  | none => p

/-- The parameters of a query in order: pairs split at `&`, each split at its first `=` and percent-
decoded; empty pairs, pairs holding `;` and pairs that do not decode are dropped. -/
def queryParams (query : String) : List (String × String) :=
  (query.splitOn "&").filterMap fun pair =>
    if pair.isEmpty || pair.toList.contains ';' then none
    else
      let (k, v) := match pair.splitOn "=" with
        | [] => ("", "")
        | [k] => (k, "")
        | k :: rest => (k, "=".intercalate rest)
      match unescape true (Utf8.encode k), unescape true (Utf8.encode v) with
      | some k, some v => some (Utf8.lossy k, Utf8.lossy v)
      | _, _ => none

def param? (target key : String) : Option String :=
  ((queryParams (splitTarget target).2).find? (·.1 == key)).map Prod.snd

/-- A flag parameter: absent keeps `default`, empty is true, a flag word is its value, and anything
else keeps `default`. -/
def flagParam (target key : String) (default : Bool) : Bool :=
  match param? target key with
  | none => default
  | some "" => true
  | some v => (Log.parseFlag? v).getD default

def header? (r : HttpRequest) (name : String) : Option String :=
  (r.headers.find? fun h => Text.equalsIgnoringAsciiCase h.1 name).map Prod.snd

def jsonResponse (status : Nat) (j : Json) : HttpResponse :=
  ⟨status, "application/json; charset=utf-8", .json j, []⟩

def errorResponse (status : Nat) (message : String) : HttpResponse :=
  jsonResponse status (.obj [("error", .str message)])

def emptyResponse (status : Nat) : HttpResponse :=
  ⟨status, "", .text "", []⟩

def routes : List (String × String) :=
  [("GET", "/health"), ("GET", "/metrics"), ("GET", "/catalog"), ("GET", "/catalog/relay"),
    ("GET", "/stats"), ("POST", "/decode")]

/-- The path a request is redirected to when only a trailing slash keeps it from a route of its
method. -/
def redirectPath? (method p : String) : Option String :=
  if p == "/" || !routes.any (·.1 == method) then none
  else if p.endsWith "/" then
    let q := String.ofList p.toList.dropLast
    if routes.contains (method, q) then some q else none
  else if routes.contains (method, p ++ "/") then some (p ++ "/") else none

def htmlEscape (s : String) : String :=
  String.join (s.toList.map fun c =>
    if c = '&' then "&amp;" else if c = '<' then "&lt;" else if c = '>' then "&gt;"
    else if c = '"' then "&#34;" else if c = '\'' then "&#39;" else String.singleton c)

/-- A slash-separated path with its redundant parts removed: repeated slashes become one, `.` steps
go, and a `..` step removes the step before it (at the root it goes, at the start of a relative path
it stays); an empty result is `.`. -/
def cleanPath (p : String) : String :=
  let rooted := p.startsWith "/"
  let steps := (p.splitOn "/").filter fun s => !s.isEmpty && s != "."
  let kept := steps.foldl (fun acc s =>
      if s == ".." then
        match acc with
        | top :: rest => if top == ".." then ".." :: acc else rest
        | [] => if rooted then [] else [".."]
      else s :: acc) []
  let body := "/".intercalate kept.reverse
  if rooted then "/" ++ body else if body.isEmpty then "." else body

/-- The forwarded prefix a redirect starts with: the `X-Forwarded-Prefix` header cleaned as a path,
keeping only ASCII letters, digits, `/` and `-`, with runs of slashes made one; none when the header
cleans to `.`. -/
def forwardedPrefix (r : HttpRequest) : Option String :=
  let cleaned := cleanPath ((header? r "X-Forwarded-Prefix").getD "")
  if cleaned == "." then none
  else
    let safe := cleaned.toList.filter fun c => c.isAlphanum || c = '/' || c = '-'
    let collapsed := safe.foldr (fun c acc =>
      if c = '/' && acc.head? = some '/' then acc else c :: acc) []
    some (String.ofList collapsed)

def directoryOf (p : String) : String :=
  String.ofList (p.toList.reverse.dropWhile (· != '/')).reverse

/-- The address a redirect to path `p` points at: the forwarded prefix and a slash before `p`, then
the request's query when its target has a `?`. -/
def redirectUrl (r : HttpRequest) (p : String) : String :=
  let newPath := match forwardedPrefix r with
    | some pre => pre ++ "/" ++ p
    | none => p
  let query := if r.target.toList.contains '?' then "?" ++ (splitTarget r.target).2 else ""
  let url := newPath ++ query
  if url.startsWith "//" && !url.startsWith "///" then url
  else
    let url := if url.startsWith "/" then url else directoryOf newPath ++ url
    let (pathPart, rest) := splitTarget url
    let cleaned := cleanPath pathPart
    let cleaned := if pathPart.endsWith "/" && !cleaned.endsWith "/" then cleaned ++ "/" else cleaned
    if url.toList.contains '?' then cleaned ++ "?" ++ rest else cleaned

def redirect (r : HttpRequest) (p : String) : HttpResponse :=
  let url := redirectUrl r p
  if r.method == "GET" then
    ⟨301, "text/html; charset=utf-8",
      .text ("<a href=\"" ++ htmlEscape url ++ "\">Moved Permanently</a>.\n\n"), []⟩
  else emptyResponse 307

def statsJson (s : AdminService) : Json :=
  let base := [("frames", Json.nat s.stats.frames), ("truncated", Json.nat s.stats.truncated),
    ("invalid", Json.nat s.stats.invalid), ("errors", Json.nat s.stats.errors)]
  .obj (if s.stats.seen then base ++ [("last_seen", .str s.clock.lastSeen)] else base)

def decode (s : AdminService) (r : HttpRequest) : HttpResponse :=
  let authorized := s.token.isEmpty ||
    (checkHeader s.token ((header? r "Authorization").getD "")).toOption.isSome
  if !authorized then errorResponse 401 "unauthorized"
  else if r.body.length > maxDecodeBody then errorResponse 413 "body too large"
  else
    match InputFormat.parse ((param? r.target "format").getD "") with
    | .error _ | .ok .pcap => errorResponse 400 "format must be hex or raw"
    | .ok format =>
      let format := match format with
        | .auto => match sniff r.body with
          | .pcap => InputFormat.raw
          | f => f
        | f => f
      let bytes := if format == .hex then HexText.decodeBytes r.body else .ok r.body
      match bytes with
      | .error e => errorResponse 400 e.message
      | .ok bytes =>
        let frame := flagParam r.target "frame" s.decode.frame
        let validate := flagParam r.target "validate" s.decode.validate
        let opts : DecodeOptions := { frame, validate }
        let report := flagParam r.target "report" false
        let res := DecodeResult.process ("http:" ++ s.client) bytes opts
        jsonResponse (if res.fault.isSome then 422 else 200) (res.json report)

def route (s : AdminService) (r : HttpRequest) (p : String) : HttpResponse :=
  if r.method == "POST" then decode s r
  else if p == "/health" then
    jsonResponse 200 (.obj [("status", .str "ok"), ("uptime", .str s.clock.uptime),
      ("service", .str "dhcpopt"), ("version", .str version)])
  else if p == "/catalog" then
    jsonResponse 200 (.obj [("options", Catalog.listingJson Catalog.optionListing)])
  else if p == "/catalog/relay" then
    jsonResponse 200 (.obj [("suboptions", Catalog.listingJson Catalog.relayListing)])
  else if p == "/stats" then jsonResponse 200 (statsJson s)
  else ⟨404, "text/plain", .text "404 page not found", []⟩

def allowedOrigins (s : AdminService) : List String :=
  if s.origins.isEmpty then ["http://localhost:3000"] else s.origins.map Text.toLower

def preflightHeaders (origin : String) : List (String × String) :=
  [("Access-Control-Allow-Headers", "Origin,Content-Type,Authorization"),
    ("Access-Control-Allow-Methods", "GET,POST"),
    ("Access-Control-Allow-Origin", origin),
    ("Access-Control-Max-Age", "43200"),
    ("Vary", "Origin, Access-Control-Request-Method, Access-Control-Request-Headers")]

/-- The cross-origin check: `none` to go on without headers, `some (.error r)` to answer `r` at
once, `some (.ok hs)` to go on and add headers `hs`. -/
def crossOrigin (s : AdminService) (r : HttpRequest) :
    Option (Except HttpResponse (List (String × String))) :=
  match header? r "Origin" with
  | none => none
  | some "" => none
  | some origin =>
    if origin == "http://" ++ s.host || origin == "https://" ++ s.host then none
    else if !(allowedOrigins s).contains origin then some (.error (emptyResponse 403))
    else if r.method == "OPTIONS" then
      some (.error { emptyResponse 204 with headers := preflightHeaders origin })
    else some (.ok [("Access-Control-Allow-Origin", origin), ("Vary", "Origin")])

end Http

open Http in
def AdminService.handle (s : AdminService) (r : HttpRequest) : HttpResponse :=
  let p := path r.target
  let matched := routes.contains (r.method, p)
  match matched, redirectPath? r.method p with
  | false, some q => redirect r q
  | _, _ =>
    let answer (hs : List (String × String)) : HttpResponse :=
      let resp := if matched then route s r p else ⟨404, "text/plain", .text "404 page not found", []⟩
      { resp with headers := hs ++ resp.headers }
    match crossOrigin s r with
    | none => answer []
    | some (.error resp) => resp
    | some (.ok hs) => answer hs

end DhcpDecoder
