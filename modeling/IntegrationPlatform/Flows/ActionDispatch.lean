import IntegrationPlatform.Connectors.Registry
import IntegrationPlatform.Flows.EntryPoints
import IntegrationPlatform.Flows.UrlBuilding

/-!
# The action dispatcher

`dispatch_action` sets the credentials of a payload, coerces its fields, and makes a request of it, all
as the manifest of the connector says. It changes the payload that it is given.
-/

namespace IntegrationPlatform

namespace Flows

/-! ## Manifests -/

/-- Where the value of a credential comes from: a field of the credentials, or an object with its name
and a default. -/
inductive SourceSpec where
  | field (source : String)
  | detailed (source : Option String) (default : Option Value)

/-- `credential_provisioning`, by its mode. -/
inductive CredentialProvisioning where
  | account (payloadField : Option String)
  | inject (credentialMapping : Assoc SourceSpec)
  | injectNested (injectKey : Option String) (credentialMapping : Assoc SourceSpec)
  | none

/-- An entry of `enum_fields`. -/
structure EnumConfig where
  values : Assoc Value
  default : Option Value

/-- `payload_hints`, by action. -/
structure PayloadHints where
  listFields : Assoc (List String) := []
  enumFields : Assoc (Assoc EnumConfig) := []

/-- An entry of `action_routes`. -/
structure Route extends Routing.RouteEntry where
  method : String
  multipart : Bool := false

/-- What a manifest says of the actions of its connector. -/
structure ActionManifest where
  baseUrl : String
  actionRoutes : Assoc Route := []
  credentialProvisioning : CredentialProvisioning := .none
  payloadHints : PayloadHints := {}

/-! ## Credentials -/

/-- The field of the credentials that a value comes from. -/
def SourceSpec.source (targetKey : String) : SourceSpec → String
  | .field source => source
  | .detailed source _ => source.getD targetKey

/-- The value of a key of the nested credentials. -/
def SourceSpec.nested (credentials : Assoc String) (targetKey : String) (spec : SourceSpec) : Value :=
  let found := (credentials.find (spec.source targetKey)).getD ""
  match spec with
  | .field _ => .str found
  | .detailed _ default => if found = "" then default.getD (.str "") else .str found

/-- `credentials.get("account_name", "default")`. -/
def accountName (credentials : Assoc String) : String :=
  (credentials.find "account_name").getD "default"

/-- A field that is set unless it is there. -/
def setDefault (payload : Dict) (key : String) (value : Value) : Dict :=
  if payload.has key then payload else payload.put key value

/-- A credential that is there is put into the payload. -/
def injectField (credentials : Assoc String) (payload : Dict) (entry : String × SourceSpec) : Dict :=
  match credentials.find (entry.2.source entry.1) with
  | some value => payload.put entry.1 (.str value)
  | none => payload

/-- `_provision_credentials`, whose requests for the account go well. -/
def provisionCredentials (credentials : Assoc String) (payload : Dict) :
    CredentialProvisioning → Dict
  | .account payloadField =>
      payload.put (payloadField.getD "account_name") (.str (accountName credentials))
  | .inject credentialMapping =>
      let payload := credentialMapping.foldl (injectField credentials) payload
      setDefault payload "credentials" (.dict (credentialMapping.map fun entry =>
        (entry.1, .str ((credentials.find (entry.2.source entry.1)).getD ""))))
  | .injectNested injectKey credentialMapping =>
      payload.put (injectKey.getD "credentials") (.dict (credentialMapping.map fun entry =>
        (entry.1, entry.2.nested credentials entry.1)))
  | .none => setDefault payload "account_name" (.str (accountName credentials))

/-! ## Coercion -/

section Coercion

variable (texts : DispatchTexts)

/-- A text of a list field becomes a list, at its commas. -/
def coerceList : Value → Value
  | .str text =>
      let value := texts.strip text
      if ',' ∈ value.toList then
        .list (((value.toList.splitOn ',').map fun part => texts.strip (String.ofList part)).filter
          (· ≠ "") |>.map Value.str)
      else if value = "" then .list []
      else .list [.str value]
  | value => value

/-- A value of an enum field becomes the one that its text is mapped to, or the default. -/
def EnumConfig.coerce (config : EnumConfig) (value : Value) : Value :=
  (config.values.find (texts.lower (texts.strip (texts.str value)))).getD (config.default.getD value)

def coercePayload (hints : PayloadHints) (action : String) (payload : Dict) : Dict :=
  let payload := ((hints.listFields.find action).getD []).foldl
    (fun payload field => payload.update field (coerceList texts)) payload
  ((hints.enumFields.find action).getD []).foldl
    (fun payload field => payload.update field.1 (field.2.coerce texts)) payload

end Coercion

/-! ## Requests -/

/-- The body of a request: none, JSON, or a file with a form. -/
inductive Body where
  | none
  | json (fields : Dict)
  | form (filename : Value) (file : List UInt8) (data : Assoc String)

/-- What is sent to a connector. -/
structure Request where
  method : String
  url : String
  params : Dict
  headers : Assoc String
  body : Body

/-- The contents of a file, and its name. -/
def decodeFile (texts : DispatchTexts) : Value → Except String (Option (List UInt8 × Value))
  | .dict fields =>
      match (Assoc.find fields "content_base64").getD (.str "") with
      | .str "" => .ok none
      | .str content => (texts.b64decode content).map fun file =>
          some (file, (Assoc.find fields "filename").getD (.str "document.pdf"))
      | content =>
          if content.truthy then
            .error ("argument should be a bytes-like object or ASCII string, not '" ++
              content.typeName ++ "'")
          else .ok none
  | .str "" => .ok none
  | .str content =>
      -- An exception is logged here.
      match texts.b64decode content with
      | .ok file => .ok (some (file, .str "document.pdf"))
      | .error _ => .ok none
  | _ => .ok none

/-- `_extract_file_from_payload`: of a list it takes the first item. -/
def extractFileFromPayload (texts : DispatchTexts) (body : Dict) :
    Except String (Option (List UInt8 × Value)) :=
  match body.find "file" with
  | some (.list (file :: _)) => decodeFile texts file
  | some file => decodeFile texts file
  | none => .ok none

/-- A field of a form. -/
def formText (texts : DispatchTexts) : Value → String
  | .dict fields => texts.dumps (.dict fields)
  | .list items => texts.dumps (.list items)
  | value => texts.str value

/-- A field of a form: not the file, and nothing that is `None`. -/
def formField (texts : DispatchTexts) (key : String) (value : Value) : Option String :=
  if key = "file" then none else (given (some value)).map (formText texts)

/-- The fields of a form. -/
def formData (texts : DispatchTexts) (body : Dict) : Assoc String :=
  body.filterMap fun entry => (formField texts entry.1 entry.2).map (Prod.mk entry.1)

/-- The request with JSON, or without a body. A method that is not known is sent as `POST`. -/
def jsonBody (method : String) (body : Dict) : String × Body :=
  if method = "GET" ∨ method = "DELETE" then (method, .none)
  else if method = "PUT" ∨ method = "PATCH" then (method, .json body)
  else ("POST", .json body)

/-- The request that is made of a coerced payload, or the text of the exception that is raised
instead. -/
def makeRequest (texts : DispatchTexts) (baseUrl connectorName action : String) (route : Option Route)
    (payload : Dict) : Except String Request :=
  match route with
  | none => .ok ⟨"POST", baseUrl ++ "/actions/" ++ action, [], [], .json payload⟩
  | some route =>
      let parts := Routing.buildUrl texts route.toRouteEntry payload
      let url := baseUrl ++ String.ofList parts.path
      if route.multipart then
        if parts.body.has "file" then
          match extractFileFromPayload texts parts.body with
          | .ok (some (file, filename)) =>
              .ok ⟨"POST", url, parts.queryParams, parts.extraHeaders,
                .form filename file (formData texts parts.body)⟩
          | .ok none =>
              .error ("Action '" ++ action ++ "' on connector '" ++ connectorName ++
                "' requires a file attachment, but the provided 'file' field could not be decoded. " ++
                "Expected a base64-encoded string or an object with 'content_base64' and " ++
                "'filename' keys.")
          | .error message => .error message
        else
          .error ("Action '" ++ action ++ "' on connector '" ++ connectorName ++
            "' requires a file attachment, but no 'file' field was found in the payload. " ++
            "Ensure that the source node provides a file (e.g. an email attachment) and that the " ++
            "field mapping maps it to the 'file' field.")
      else
        let (method, body) := jsonBody route.method parts.body
        .ok ⟨method, url, parts.queryParams, parts.extraHeaders, body⟩

/-! ## `dispatch_action` -/

/-- The dispatcher, with the manifests of the registry by name and version. -/
structure Dispatcher where
  texts : DispatchTexts
  getByNameVersion : String → Option String → Option ActionManifest

/-- What happens at each attempt: a refusal of the rate limiter, the requests for the account, and the
answer of the connector. -/
structure Answers where
  rateLimiter : Nat → Option String
  ensureAccount : Nat → Except String Unit
  connector : Nat → Except String Value

/-- What comes of a call: an exception before the payload is changed, or a request, which is sent unless
an exception is raised instead, and the result. -/
inductive Outcome where
  | refused (error : String)
  | made (request : Option Request) (result : Except String Value)

/-- The result of a call. -/
def Outcome.result : Outcome → Except String Value
  | .refused error => .error error
  | .made _ result => result

/-- The request of a call that changes the payload. -/
def Outcome.made? : Outcome → Option (Option Request)
  | .refused _ => none
  | .made request _ => some request

/-- `_CONNECTOR_NAME_RE`, whose end may be before a line break. -/
def nameMatches (name : String) : Bool :=
  let letters := name.toList
  let letters := if letters.getLast? = some '\n' then letters.dropLast else letters
  let allowed (letter : Char) : Bool := letter.isLower || letter.isDigit
  match letters with
  | [] => false
  | first :: rest =>
      allowed first && decide (rest.length ≤ 62) && rest.all fun letter =>
        allowed letter || letter = '-'

namespace Dispatcher

variable (dispatcher : Dispatcher) (call : DispatchCall)

/-- The manifest of the connector. -/
def manifest : Option ActionManifest :=
  dispatcher.getByNameVersion call.connectorName call.connectorVersion

/-- The address of the connector, or the text of the `ValueError`. -/
def baseUrl : Except String String :=
  match dispatcher.manifest call with
  | some manifest => .ok manifest.baseUrl
  | none =>
      if nameMatches call.connectorName then
        .ok (Connectors.serviceUrl (Connectors.defaultServiceName call.connectorName))
      else .error ("Invalid connector_name: '" ++ call.connectorName ++ "'")

/-- The route of the action. -/
def route : Option Route :=
  (dispatcher.manifest call).bind fun manifest => manifest.actionRoutes.find call.action

/-- The credentials, unless there are none, and how they are provisioned. -/
def provisioning : Option (Assoc String × CredentialProvisioning) :=
  (call.credentials.filter (· ≠ [])).map fun credentials =>
    (credentials, ((dispatcher.manifest call).map ActionManifest.credentialProvisioning).getD .none)

/-- The hints of the manifest. -/
def hints : PayloadHints :=
  ((dispatcher.manifest call).map ActionManifest.payloadHints).getD {}

/-- The payload with its credentials. -/
def provision (payload : Dict) : Dict :=
  match dispatcher.provisioning call with
  | some (credentials, provisioning) => provisionCredentials credentials payload provisioning
  | none => payload

/-- The payload with its credentials, coerced. -/
def prepare (payload : Dict) : Dict :=
  coercePayload dispatcher.texts (dispatcher.hints call) call.action (dispatcher.provision call payload)

/-- The request that is made of a coerced payload. -/
def request (baseUrl : String) (payload : Dict) : Except String Request :=
  makeRequest dispatcher.texts baseUrl call.connectorName call.action (dispatcher.route call) payload

/-- `dispatch_action`, with what it makes of the payload. -/
def dispatchAction (answers : Answers) (attempt : Nat) : Outcome × Dict :=
  match dispatcher.baseUrl call with
  | .error message => (.refused message, call.payload)
  | .ok baseUrl =>
      match answers.rateLimiter attempt with
      | some message => (.refused message, call.payload)
      | none =>
          match dispatcher.provisioning call, answers.ensureAccount attempt with
          | some (_, .account _), .error message => (.refused message, call.payload)
          | _, _ =>
              let payload := dispatcher.prepare call call.payload
              match dispatcher.request call baseUrl payload with
              | .ok request => (.made (some request) (answers.connector attempt), payload)
              | .error message => (.made none (.error message), payload)

/-- A world in which the callbacks call the dispatcher. -/
def world (base : FlowWorld) (answers : Answers) : FlowWorld :=
  { base with dispatch := fun call attempt =>
      let (outcome, payload) := dispatcher.dispatchAction call answers attempt
      (outcome.result, payload) }

/-- The requests of the attempts of a flow that get as far as to make one, in order. An attempt that
raises an exception instead has none. -/
def requests (answers : Answers) (dispatched : List DispatchCall) : List (Option Request) :=
  dispatched.zipIdx.filterMap fun entry =>
    (dispatcher.dispatchAction entry.1 answers entry.2).1.made?

end Dispatcher

end Flows

end IntegrationPlatform
