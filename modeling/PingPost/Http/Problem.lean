import PingPost.Template.Error
import PingPost.Webhook.Signature

/-!
Problems of requests to the exchange, as HTTP answers. Contexts are for the reader of the message;
they do not change the answer. An unauthorized request learns nothing of the reason.
-/

namespace PingPost

/-- An HTTP answer. -/
structure HttpAnswer where
  code : Nat
  body : Json

/-- Why a request to the exchange is not served. -/
inductive Problem where
  | notFound (text : String)
  | badRequest (text : String)
  | template (error : TemplateError)
  | unauthorized (text : String)
  | internal (text : String)
  | inContext (context : String) (cause : Problem)

namespace Problem

/-- Wording of a problem. -/
def message : Problem → String
  | notFound text => s!"Not found: {text}"
  | badRequest text => s!"Bad request: {text}"
  | template e => s!"Unprocessable: {e.message}"
  | unauthorized text => s!"Unauthorized: {text}"
  | internal text => s!"Internal error: {text}"
  | inContext context cause => s!"{context}: {cause.message}"

/-- A body that holds a text. -/
def errorBody (text : String) : Json := .object [("error", .text text)]

/-- The answer to a request with the problem. -/
def answer : Problem → HttpAnswer
  | notFound text => ⟨404, errorBody text⟩
  | badRequest text => ⟨400, errorBody text⟩
  | template e => ⟨422, .object [("error", .text e.message), ("errors", .list e.details)]⟩
  | unauthorized _ => ⟨401, errorBody "Unauthorized"⟩
  | internal _ => ⟨500, errorBody "Internal server error"⟩
  | inContext _ cause => cause.answer

/-- A webhook that was turned away. -/
def ofWebhook (e : WebhookError) : Problem := unauthorized e.message

/-- The problem inside some contexts, of which the last is the outermost. -/
def within (p : Problem) (contexts : List String) : Problem :=
  contexts.foldl (fun p context => inContext context p) p

end Problem

end PingPost
