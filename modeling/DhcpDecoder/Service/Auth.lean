import DhcpDecoder.Text.Space

/-!
Bearer tokens on admin requests.
-/

namespace DhcpDecoder

inductive AuthError where
  | missingToken
  | unauthorized
  deriving DecidableEq, Repr, Inhabited

namespace AuthError

def message : AuthError → String
  | .missingToken => "auth: missing bearer token"
  | .unauthorized => "auth: unauthorized"

def kind : AuthError → String
  | .missingToken => "MissingToken"
  | .unauthorized => "Unauthorized"

end AuthError

def bearerToken (header : String) : Except AuthError String :=
  let cs := (Text.trimSpace header).toList
  match cs.splitOn ' ' with
  | [] | [_] => .error .missingToken
  | scheme :: _ =>
    if !Text.equalsIgnoringAsciiCase (String.ofList scheme) "Bearer" then .error .missingToken
    else
      let token := Text.trimSpace (String.ofList (cs.drop (scheme.length + 1)))
      if token.isEmpty then .error .missingToken else .ok token

def staticCheck (configured token : String) : Except AuthError Unit :=
  if configured.isEmpty || configured != token then .error .unauthorized else .ok ()

def checkHeader (configured header : String) : Except AuthError Unit := do
  let token ← bearerToken header
  staticCheck configured token

end DhcpDecoder
