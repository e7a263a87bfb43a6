import ClusterPorts.Settings

/-!
# Credentials

What a client is let in with: an access token that it was given, or what it takes
to ask for one. Inspecting a credential never shows a secret.
-/

namespace ClusterPorts.Azure

/-- How a client is let in. -/
inductive Credential where
  | accessToken (secret : String)
  | clientSecret (tenantId clientId secret authorityHost : String)
deriving Inhabited

namespace Credential

/-- Where access tokens are asked for. -/
def standardAuthority : String := "https://login.microsoftonline.com"

/-- A credential without its secret. -/
def inspect : Credential → String
  | accessToken _ => Inspect.wrapped "AccessToken" Inspect.redacted
  | clientSecret tenantId clientId _ authorityHost =>
    Inspect.record "ClientSecret"
      [("tenant_id", Inspect.text tenantId), ("client_id", Inspect.text clientId),
       ("client_secret", Inspect.redacted), ("authority_host", Inspect.text authorityHost)]

end Credential

/-- The text without the slashes at its end. -/
def withoutSlashes (s : String) : String :=
  String.ofList (s.toList.reverse.dropWhile (· = '/')).reverse

end ClusterPorts.Azure
