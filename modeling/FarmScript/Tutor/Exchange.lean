import FarmScript.Json.Reader
import FarmScript.Json.Writer
import FarmScript.Tutor.Chat
import FarmScript.Tutor.Endpoint
import FarmScript.Tutor.ProviderFailure

/-! # The exchange with a provider

Which HTTP request asks for a completion (`Endpoint.request?`), and what an HTTP response to it
means (`Completion.ofResponse`). `Endpoint.complete` puts the two together for a given response, the
one that the transport hands over (`HttpResponse.delivered`).
-/

namespace FarmScript.Tutor
set_option autoImplicit false

/-- A request that is posted. Header names are in lower case. -/
structure HttpRequest where
  url : String
  headers : List (String × String)
  body : String
deriving DecidableEq

/-- A response, with the text of its `Retry-After` header if there is one. -/
structure HttpResponse where
  status : UInt16
  retryAfter : Option String
  body : String
deriving DecidableEq

/-! ## Headers -/

/-- The marks that may stand in the name of a header beside letters and digits. -/
def headerMarks : List Char := "!#$%&*+-.^_|~\x27\x60".toList

/-- Whether a text is the name of a header. -/
def isHeaderName (name : String) : Bool :=
  name ≠ "" && name.toList.all fun c => c.isAlphanum || c ∈ headerMarks

/-- Whether a text can be the value of a header: it has no control character but the tab. -/
def isHeaderValue (value : String) : Bool :=
  value.toList.all fun c => c = '\t' || (0x20 ≤ c.toNat && c.toNat ≠ 0x7F)

/-! ## Requests -/

/-- A contribution as it is sent; content that is missing is left out. -/
def ChatMessage.body (message : ChatMessage) : Json :=
  Json.record <|
    ("role", .text message.role.name)
      :: (message.content.map fun content => ("content", Json.text content)).toList

/-- The body of a request to a model; parts that are missing are left out. -/
def CompletionRequest.body (request : CompletionRequest) (model : String) : Json :=
  Json.record <|
    [("model", .text model), ("messages", .array (request.messages.map ChatMessage.body))]
    ++ (request.temperature.map fun t => ("temperature", Json.number (.decimal t))).toList
    ++ (request.maxTokens.map fun n => ("max_tokens", Json.nat n.toNat)).toList
    ++ [("stream", .bool false)]
    ++ (request.stop.map fun words => ("stop", Json.array (words.map Json.text))).toList

namespace Endpoint

/-- The headers of a request: the type of its body, the key unless it is empty, and those of the
endpoint. -/
def requestHeaders (endpoint : Endpoint) : List (String × String) :=
  [("content-type", "application/json")]
    ++ (match endpoint.apiKey with
        | none | some "" => []
        | some key => [("authorization", "Bearer " ++ key)])
    ++ endpoint.headers

/-- The request that asks for a completion; there is none if one of its headers is not allowed. -/
def request? (endpoint : Endpoint) (request : CompletionRequest) : Option HttpRequest :=
  let headers := endpoint.requestHeaders
  if headers.all fun (name, value) => isHeaderName name && isHeaderValue value then
    some {
      url := endpoint.completionUrl
      headers := headers.map fun (name, value) => (name.toLower, value)
      body := (request.body (request.model.getD endpoint.model)).write }
  else none

end Endpoint

/-! ## Responses -/

/-- The content of a contribution in a response. Its role is a text that is not looked at. -/
def replyContent? (json : Json) : Option (Option String) := do
  let [role, content] ← json.slots? ["role", "content"] | none
  let _ ← role.required? Json.toText?
  content.withDefault? none (Json.toOption? Json.toText?)

/-- The content and the reason of the end of one of the answers in a response. -/
def choice? (json : Json) : Option (Option String × Option String) := do
  let [message, reason] ← json.slots? ["message", "finish_reason"] | none
  return (← message.required? replyContent?, ← reason.optional? Json.toText?)

/-- The token counts of a response. -/
def Usage.ofJson? (json : Json) : Option Usage := do
  let [prompt, completion, total] ←
    json.slots? ["prompt_tokens", "completion_tokens", "total_tokens"] | none
  return {
    prompt := ← prompt.required? Json.toUInt64?
    completion := ← completion.required? Json.toUInt64?
    total := ← total.required? Json.toUInt64? }

/-- A response as it is decoded, with all its answers. -/
structure DecodedResponse where
  id : String
  model : String
  choices : List (Option String × Option String)
  usage : Option Usage
deriving DecidableEq

/-- The response of a JSON value. -/
def DecodedResponse.ofJson? (json : Json) : Option DecodedResponse := do
  let [id, model, choices, usage] ← json.slots? ["id", "model", "choices", "usage"] | none
  return {
    id := ← id.withDefault? "" Json.toText?
    model := ← model.withDefault? "" Json.toText?
    choices := ← choices.required? (Json.toList? choice?)
    usage := ← usage.optional? Usage.ofJson? }

namespace HttpResponse

/-- Whether a status says that the request succeeded. -/
def isSuccess (response : HttpResponse) : Bool := 200 ≤ response.status && response.status ≤ 299

/-- The response as the transport hands it over: with two statuses it never comes with a body. -/
def delivered (response : HttpResponse) : HttpResponse :=
  if response.status = 204 ∨ response.status = 304 then { response with body := "" } else response

/-- The body as a text for the player, without a byte order mark. -/
def contentText (response : HttpResponse) : String :=
  match response.body.toList with
  | '\uFEFF' :: rest => String.ofList rest
  | text => String.ofList text

/-- The seconds of the `Retry-After` header, if it gives any. -/
def retrySeconds? (response : HttpResponse) : Option UInt64 := do
  let text := (← response.retryAfter).toList
  let isPad (c : Char) : Bool := c = ' ' || c = '\t'
  let text := ((text.dropWhile isPad).reverse.dropWhile isPad).reverse
  Text.word64? (← Text.natural? text)

/-- What a response without success means. -/
def failure (response : HttpResponse) : ProviderFailure :=
  if response.status = 429 then .rateLimited response.retrySeconds?
  else if response.status = 401 ∨ response.status = 403 then .authentication
  else if response.status = 400 then .invalidRequest response.contentText
  else .api response.status response.contentText

/-- The decoded body. -/
def decode? (response : HttpResponse) : Option DecodedResponse :=
  (Json.read? response.body).bind DecodedResponse.ofJson?

end HttpResponse

/-- The completion that a response gives: its first answer. -/
def Completion.ofResponse (response : HttpResponse) : Except ProviderFailure Completion :=
  if response.isSuccess then
    match response.decode? with
    | none => .error (.parse "error decoding response body")
    | some decoded =>
      match decoded.choices with
      | [] => .error (.other "No choices in response")
      | (content, reason) :: _ =>
        .ok {
          id := decoded.id
          model := decoded.model
          content := content
          finishReason := FinishReason.ofWord? reason
          usage := decoded.usage.getD ⟨0, 0, 0⟩ }
  else .error response.failure

/-- The completion of a request, given which response to a posted request is handed over; none is
a failure of the network. -/
def Endpoint.complete (endpoint : Endpoint) (server : HttpRequest → Option HttpResponse)
    (request : CompletionRequest) : Except ProviderFailure Completion :=
  match endpoint.request? request with
  | none => .error (.network "builder error")
  | some posted =>
    match server posted with
    | none => .error (.network ("error sending request for url (" ++ posted.url ++ ")"))
    | some response => Completion.ofResponse response

end FarmScript.Tutor
