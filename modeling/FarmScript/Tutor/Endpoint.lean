/-! # Endpoints

Where a language model is reached, and with which key.
-/

namespace FarmScript.Tutor
set_option autoImplicit false

/-- The address of a provider and how to speak to it. -/
structure Endpoint where
  apiKey : Option String
  baseUrl : Option String
  defaultModel : Option String
  /-- Headers that are sent with every request. -/
  headers : List (String × String)
  timeoutSecs : Option UInt64
deriving DecidableEq

namespace Endpoint

/-- The address of the hosted provider. -/
def hostedUrl : String := "https://api.openai.com/v1"

/-- The model of the hosted provider. -/
def hostedModel : String := "gpt-4o-mini"

/-- The hosted provider with a key. -/
def hosted (apiKey : String) : Endpoint where
  apiKey := some apiKey
  baseUrl := some hostedUrl
  defaultModel := some hostedModel
  headers := []
  timeoutSecs := some 60

/-- A provider of one's own, without a key. -/
def ownServer (baseUrl model : String) : Endpoint where
  apiKey := none
  baseUrl := some baseUrl
  defaultModel := some model
  headers := []
  timeoutSecs := some 120

/-- The endpoint that the environment describes: a key asks for the hosted provider, and an
address or a model overrides what the provider comes with. -/
def ofEnvironment (apiKey baseUrl model : Option String) : Endpoint :=
  let endpoint := match apiKey with
    | some key => hosted key
    | none => ownServer "http://localhost:11434/v1" "llama3.1"
  { endpoint with
    baseUrl := baseUrl.or endpoint.baseUrl
    defaultModel := model.or endpoint.defaultModel }

/-- The endpoint with another model. -/
def withModel (endpoint : Endpoint) (model : String) : Endpoint :=
  { endpoint with defaultModel := some model }

/-- The endpoint at another address. -/
def withBaseUrl (endpoint : Endpoint) (baseUrl : String) : Endpoint :=
  { endpoint with baseUrl := some baseUrl }

/-- The endpoint with another time limit. -/
def withTimeout (endpoint : Endpoint) (seconds : UInt64) : Endpoint :=
  { endpoint with timeoutSecs := some seconds }

/-- The name of the way of speaking. -/
def protocolName : String := "openai"

/-- The model that is asked when a request names none. -/
def model (endpoint : Endpoint) : String := endpoint.defaultModel.getD hostedModel

/-- The address without slashes at its end. -/
def address (endpoint : Endpoint) : String :=
  let url := (endpoint.baseUrl.getD hostedUrl).toList
  String.ofList (url.reverse.dropWhile (· = '/')).reverse

/-- The address that completions are asked from. -/
def completionUrl (endpoint : Endpoint) : String := endpoint.address ++ "/chat/completions"

end Endpoint

end FarmScript.Tutor
