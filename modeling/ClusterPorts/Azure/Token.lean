import ClusterPorts.Azure.Credential
import ClusterPorts.Azure.Session
import ClusterPorts.Json.Record

/-!
# Access tokens

A client that was not given an access token asks for one, and asks again when
the one it has will soon have expired.
-/

namespace ClusterPorts.Azure

/-- What a client asks for access tokens with, and what they are to be good for. -/
structure TokenSource where
  credential : Credential
  scope : String
deriving Inhabited

namespace TokenSource

/-- The source of tokens for the cloud at an address. -/
def forEndpoint (credential : Credential) (endpoint : String) : TokenSource :=
  ⟨credential, withoutSlashes endpoint ++ "/.default"⟩

/-- A source of tokens without secrets. -/
def inspect (source : TokenSource) : String :=
  Inspect.record "TokenProvider"
    [("credential", source.credential.inspect), ("scope", Inspect.text source.scope)]

/-- Where a tenant's tokens are asked for. -/
def address (authorityHost tenantId : String) : String :=
  withoutSlashes authorityHost ++ "/" ++ tenantId ++ "/oauth2/v2.0/token"

/-- The request for a token. -/
def request (scope tenantId clientId secret authorityHost : String) :
    Except Http.Fault Http.Request :=
  Http.Request.to (address authorityHost tenantId) .post none "application/x-www-form-urlencoded"
    (.form [("grant_type", "client_credentials"), ("client_id", clientId),
      ("client_secret", secret), ("scope", scope)])

end TokenSource

/-- A token as it is answered: the token, and for how many seconds it is valid. -/
structure TokenGrant where
  secret : String
  lifetime : Int
deriving DecidableEq, Repr, Inhabited

/-- A token in a document. -/
def TokenGrant.codec : Json.Codec TokenGrant :=
  (Json.Record.both (.required "access_token" .string) (.required "expires_in" .int64)).closed
    "struct TokenResponse" (fun (secret, lifetime) => ⟨secret, lifetime⟩)
    (fun grant => (grant.secret, grant.lifetime))

namespace Token

/-- How long before its end a token is no longer used. -/
def margin : Span := .ofSecs 300

/-- Whether a token will be valid for longer than the margin. -/
def isFresh (token : Token) (now : Moment) : Bool :=
  (margin.nanos : Int) < token.expires.nanos - now.nanos

end Token

/-- What is said where an answer cannot be read. -/
def unreadable : String := "error decoding response body"

/-- The text of an answer that is an error. -/
def errorText (response : Http.Response) : String :=
  response.body.text?.getD "Unable to read error response"

namespace TokenSource

variable {σ : Type}

/-- The token that a session has, if it is still fresh. The clock is looked at
only when there is one. -/
def cached (world : World σ) : Act σ (Option String) := do
  match (← get).token with
  | none => return none
  | some token => do
    let now ← Act.now world
    return if token.isFresh now then some token.secret else none

/-- Keep a token that was granted. A lifetime that leads out of the calendar
breaks the program down. -/
def keep (world : World σ) (grant : TokenGrant) : Act σ String := do
  let now ← Act.now world
  match now.after? grant.lifetime with
  | none => throw .crash
  | some expires => do
    Act.log (.debug ("Azure AD token valid until " ++ expires.text))
    modify fun session => { session with token := some ⟨grant.secret, expires⟩ }
    return grant.secret

/-- Ask for a token and keep it. -/
def renew (world : World σ) (limit : Option Limit) (clientId : String)
    (request : Except Http.Fault Http.Request) : Act σ String := do
  Act.log (.debug ("Requesting Azure AD token for client " ++ clientId))
  match ← Act.send world limit request with
  | .error fault => Act.fail (.http ("Token request failed: " ++ fault.message))
  | .ok response =>
    if !response.status.isSuccess then
      Act.fail (.authentication ("Azure AD rejected client " ++ clientId ++ ": "
        ++ response.status.text ++ " - " ++ errorText response))
    else
      match response.body.read? TokenGrant.codec.decode with
      | none => Act.fail (.authentication ("Failed to parse token response: " ++ unreadable))
      | some grant => keep world grant

/-- A token that can be used now. -/
def token (source : TokenSource) (world : World σ) (limit : Option Limit) : Act σ String := do
  match source.credential with
  | .accessToken secret => return secret
  | .clientSecret tenantId clientId secret authorityHost =>
    match ← cached world with
    | some secret => return secret
    | none =>
      renew world limit clientId (request source.scope tenantId clientId secret authorityHost)

end TokenSource

end ClusterPorts.Azure
