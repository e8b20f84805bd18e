import PingPost.Json.Codec

/-! How a buyer wants requests to be authenticated. -/

namespace PingPost

/-- The credentials sent with every request. -/
inductive Auth where
  | none
  | apiKey (header key : String)
  | bearer (token : String)
  | basic (username password : String)
  | oauth (accessToken tokenType : String)
  deriving DecidableEq, Repr

namespace Auth

/-- The fields of an API key. -/
def apiKeyRecord : Record (String × String) :=
  .and (.withDefault "header" .text "X-API-Key") <| .one (.required "key" .text)

/-- The fields of a bearer token. -/
def bearerRecord : Record String := .one (.required "token" .text)

/-- The fields of a user name and password. -/
def basicRecord : Record (String × String) :=
  .and (.required "username" .text) <| .one (.required "password" .text)

/-- The fields of an access token. -/
def oauthRecord : Record (String × String) :=
  .and (.required "accessToken" .text) <| .one (.withDefault "tokenType" .text "Bearer")

/-- The kind of credentials, as the field `type` names it, and the other fields. -/
def parts : Auth → String × List (String × Json)
  | .none => ("none", [])
  | .apiKey header key => ("apiKey", apiKeyRecord.write (header, key))
  | .bearer token => ("bearer", bearerRecord.write token)
  | .basic username password => ("basic", basicRecord.write (username, password))
  | .oauth accessToken tokenType => ("oauth", oauthRecord.write (accessToken, tokenType))

/-- Reads the credentials of a kind; `read` reads the other fields of a record. -/
def ofKind? (kind : String) (isBare : Bool) (read : {α : Type} → Record α → Option α) :
    Option Auth :=
  if kind = "none" then if isBare then some .none else Option.none
  else if kind = "apiKey" then (read apiKeyRecord).map fun (header, key) => .apiKey header key
  else if kind = "bearer" then (read bearerRecord).map .bearer
  else if kind = "basic" then (read basicRecord).map fun (user, password) => .basic user password
  else if kind = "oauth" then (read oauthRecord).map fun (token, kind) => .oauth token kind
  else Option.none

/-- Reads credentials from an object with a field `type`, or from a list that begins with the
kind. -/
def decode? : Json → Option Auth
  | .object fields =>
    match fields.filter fun e => e.1 == "type" with
    | [(_, .text kind)] =>
      let others := fields.filter fun e => e.1 != "type"
      ofKind? kind true fun r => r.ofFields? others
    | _ => Option.none
  | .list (.text kind :: items) => ofKind? kind items.isEmpty fun r => r.ofAllItems? items
  | _ => Option.none

/-- Credentials as documents. -/
def codec : Codec Auth where
  encode a := .object (Table.ofList (("type", .text a.parts.1) :: a.parts.2))
  decode? := decode?

end Auth

end PingPost
