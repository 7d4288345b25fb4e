import PodReach.Json.Reader
import PodReach.Kubeconfig.Expiry
import PodReach.Text.Base64
import PodReach.Text.Utf8

/-!
# Tokens of providers

A user's entry can hold a token that a provider issued, with the time at which it expires. A token
that a provider's entry leaves out, or that does not look like one, is as good as none.
-/

namespace PodReach.Kubeconfig.Token

/-- Whether Google's entry has a token. Without one that still lasts it would have to be asked
for. -/
def google (now : Instant) (provider : Part) : Except Halt Bool := do
  if !(← provider.has "config") then throw (.notRenewed "gcp")
  let config ← provider.field "config"
  if !(← config.has "access-token") then throw (.notRenewed "gcp")
  if ← config.has "expiry" then
    let expiry ← config.field "expiry"
    if ← orHalt (Expiry.isTimestampPast now expiry.value) then throw (.notRenewed "gcp")
  let _ ← config.field "access-token"
  return true

/-- Whether Azure's entry has a token. -/
def azure (now : Instant) (provider : Part) : Except Halt Bool := do
  if !(← provider.has "config") then return false
  let config ← provider.field "config"
  if !(← config.has "access-token") then return false
  if ← config.has "expires-on" then
    match (← config.field "expires-on").value with
    | .text time => if ← orHalt (Expiry.isSpacedPast now time) then throw (.notRenewed "azure")
    | _ => throw (.mistake .noSuchPart)
  let _ ← config.field "access-token"
  return true

/-- The middle part of a token of three parts in the alphabet that is safe in addresses. -/
def claims? (token : String) : Option String :=
  match Text.split '.' token with
  | [_, claims, _] => if claims.length % 4 == 1 then none else some claims
  | _ => none

/-- The characters of a text in the usual alphabet of Base64, filled up. -/
def usualAlphabet (text : String) : List Char :=
  (text.toList.map fun c => if c == '-' then '+' else if c == '_' then '/' else c)
    ++ List.replicate (4 - text.length % 4) '='

/-- The text that another one stands for in Base64. -/
def plainText (cs : List Char) : Except Mistake String :=
  match (if cs.all (·.toNat < 128) then Text.base64? cs else none).bind Text.decodeStrictly? with
  | some decoded => .ok (String.ofList decoded)
  | none => .error .badValue

/-- The time at which the claims of a token end; null if they do not. -/
def endOf (claims : String) : Except Mistake Json := do
  match Json.read? (← plainText (usualAlphabet claims)) with
  | none => throw .badValue
  | some (.object fields) => return ((Json.object fields).field? "exp").getD .null
  | some _ => throw .noSuchPart

/-- Ask the issuer of a token for a new one. Nobody answers, but what is asked for has to be
there. -/
def renew (config : Part) : Except Halt Bool := do
  if ← config.has "idp-certificate-authority-data" then
    match (← config.field "idp-certificate-authority-data").value with
    | .text s => let _ ← orHalt (plainText s.toList)
    | .bytes b => let _ ← orHalt (plainText (b.map fun byte => Char.ofNat byte.toNat))
    | _ => throw (.mistake .wrongKind)
  else if ← config.has "idp-certificate-authority" then
    let _ ← config.field "idp-certificate-authority"
  let _ ← config.field "idp-issuer-url"
  throw (.fault (.http "no answer"))

/-- Whether the entry of an OpenID provider has a token. -/
def openId (now : Instant) (provider : Part) : Except Halt Bool := do
  if !(← provider.has "config") then return false
  let config ← provider.field "config"
  let token ← config.field "id-token"
  if ← ["=", "+", "/"].anyM token.has then return false
  match token.value with
  | .text token =>
    match claims? token with
    | none => return false
    | some claims =>
      match ← orHalt (endOf claims) with
      | .null => return true
      | ending => if ← orHalt (Expiry.isSecondsPast now ending) then renew config else return true
  | _ => throw (.mistake .noSuchPart)

/-- Whether a user's entry has a token of a provider that is known by name. -/
def ofProvider (now : Instant) (user : Part) : Except Halt Bool := do
  if !(← user.has "auth-provider") then return false
  let provider ← user.field "auth-provider"
  if !(← provider.has "name") then return false
  match (← provider.field "name").value with
  | .text "gcp" => google now provider
  | .text "azure" => azure now provider
  | .text "oidc" => openId now provider
  | _ => return false

end PodReach.Kubeconfig.Token
