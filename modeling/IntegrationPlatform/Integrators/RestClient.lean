import IntegrationPlatform.Json.Operators
import Mathlib.Algebra.Group.Nat.Defs

/-!
# The client of the REST connector

`RestClient.call` and `call_named`: the URL and the headers of a request, its attempts, and what the parser of
responses makes of the last one. What a call finds in the cache of tokens and what it is answered are given
as an `Exchange`.
-/

namespace IntegrationPlatform

namespace RestApi

/-! ## Accounts -/

inductive AuthType where
  | none
  | bearer
  | bearerWithCustomHeaders
  | basic
  | apiKeyHeader
  | apiKeyQuery
  | oauth2ClientCredentials
  deriving DecidableEq

structure AuthConfig where
  type : AuthType := .none
  bearerToken : String := ""
  username : String := ""
  password : String := ""
  apiKey : String := ""
  apiKeyHeaderName : String := "X-API-Key"
  apiKeyParamName : String := "api_key"
  tokenUrl : String := ""
  customHeaders : Assoc String := []

structure RetryConfig where
  maxAttempts : Nat := 3
  retryableStatusCodes : List Nat := [429, 502, 503, 504]
  maxAttempts_mem : 1 ≤ maxAttempts ∧ maxAttempts ≤ 10 := by decide

/-- `RetryConfig()`. -/
def RetryConfig.standard : RetryConfig := {}

/-- `ResponseMappingConfig`. -/
structure ResponseMapping where
  useHttpStatus : Bool := false
  statusField : String := ""
  statusOkValues : List String := ["OK"]
  messageField : String := ""
  dataField : Option String := none

structure ActionDefinition where
  endpoint : String
  method : String := ""
  description : String := ""
  inputSchema : Dict := []
  outputSchema : Dict := []
  source : String := "manual"

/-- `AccountConfig`. -/
structure Account where
  name : String
  profile : String := "auto"
  baseUrl : String
  pathPrefix : String := ""
  defaultMethod : String := "POST"
  defaultContentType : String := "application/json"
  auth : AuthConfig := {}
  retry : RetryConfig := .standard
  responseMapping : ResponseMapping := {}
  actionRegistry : Assoc ActionDefinition := []

/-- The functions of the standard library, and the profiles that have been loaded. -/
structure Functions where
  /-- `str(value)`. -/
  str : Value → String
  /-- `base64.b64encode(text.encode()).decode()`. -/
  base64 : String → String
  profiles : Assoc ResponseMapping

/-! ## Exchanges -/

/-- What comes of a request for a token: a response with its JSON or what decoding it raises, an
`httpx.RequestError`, or another exception. -/
inductive TokenReply where
  | response (status : Nat) (json : Except String Value)
  | requestError (message : String)
  | raised (message : String)

/-- What comes of an attempt: a response with its JSON, if it has some, and its text; an `httpx.RequestError`;
or another exception. -/
inductive Reply where
  | response (status : Nat) (json : Option Value) (text : String)
  | requestError (message : String)
  | raised (message : String)

/-- What a call finds and is answered: the token of the cache, if it has one that is valid, what comes of a
request for a token and of each attempt, and how long the attempts take. -/
structure Exchange where
  cachedToken : Option Value := none
  token : TokenReply := .requestError ""
  attempt : Nat → Reply
  elapsedMs : Nat := 0

/-- What a call raises: a `RestClientError`, an `AuthProviderError`, or another exception. -/
inductive Raised where
  | client (statusCode : Nat) (message : String)
  | auth (message : String)
  | other (message : String)

/-! ## Authentication -/

/-- An integer that Python makes no float of. -/
def overflows : Value → Bool
  | .int number => 2 ^ 1024 - 2 ^ 970 ≤ number.natAbs
  | _ => false

/-- `token_data["access_token"]`, and `time.time() + expires_in`. -/
def readToken : Value → Except String Value
  | .dict fields =>
      match Assoc.find fields "access_token" with
      | none => .error "'access_token'"
      | some token =>
          let expiresIn : Value := (Assoc.find fields "expires_in").getD (.int 3600)
          if overflows expiresIn then .error "int too large to convert to float"
          else if expiresIn.isNumber then .ok token
          else .error ("unsupported operand type(s) for +: 'float' and '" ++ expiresIn.typeName ++ "'")
  | .list _ => .error "list indices must be integers or slices, not str"
  | .str _ => .error "string indices must be integers, not 'str'"
  | value => .error ("'" ++ value.typeName ++ "' object is not subscriptable")

/-- The token that a request is answered with. -/
def answeredToken : TokenReply → Except Raised Value
  | .response status json =>
      if 200 ≤ status ∧ status < 300 then (json.bind readToken).mapError .other
      else .error (.auth ("OAuth2 token request failed: " ++ toString status))
  | .requestError message => .error (.auth ("OAuth2 token request connection error: " ++ message))
  | .raised message => .error (.other message)

def getOauth2Token (auth : AuthConfig) (exchange : Exchange) : Except Raised Value :=
  match exchange.cachedToken with
  | some token => .ok token
  | none =>
      if auth.tokenUrl = "" then .error (.auth "OAuth2 token_url not configured")
      else answeredToken exchange.token

def getHeaders (functions : Functions) (auth : AuthConfig) (exchange : Exchange) :
    Except Raised (Assoc String) :=
  match auth.type with
  | .none => .ok []
  | .bearer => .ok [("Authorization", "Bearer " ++ auth.bearerToken)]
  | .bearerWithCustomHeaders =>
      .ok (Assoc.merge [("Authorization", "Bearer " ++ auth.bearerToken)] auth.customHeaders)
  | .basic =>
      .ok [("Authorization", "Basic " ++ functions.base64 (auth.username ++ ":" ++ auth.password))]
  | .apiKeyHeader => .ok [(auth.apiKeyHeaderName, auth.apiKey)]
  | .apiKeyQuery => .ok []
  | .oauth2ClientCredentials =>
      (getOauth2Token auth exchange).map fun token =>
        [("Authorization", "Bearer " ++ functions.str token)]

def getQueryParams (auth : AuthConfig) : Assoc String :=
  if auth.type = .apiKeyQuery then [(auth.apiKeyParamName, auth.apiKey)] else []

/-! ## Requests -/

/-- `text.rstrip("/")`. -/
def rstripSlash (text : String) : String :=
  String.ofList (text.toList.reverse.dropWhile (· = '/')).reverse

/-- `text.lstrip("/")`. -/
def lstripSlash (text : String) : String :=
  String.ofList (text.toList.dropWhile (· = '/'))

def upper (method : String) : String :=
  String.ofList (method.toList.map Char.toUpper)

def buildUrl (account : Account) (endpoint : String) : String :=
  let base := rstripSlash account.baseUrl
  let pathPrefix := if account.pathPrefix = "" then "" else rstripSlash account.pathPrefix
  if endpoint = "" then (if pathPrefix = "" then base else base ++ pathPrefix)
  else base ++ pathPrefix ++ "/" ++ lstripSlash endpoint

/-- A request of the client. -/
structure HttpRequest where
  method : String
  url : String
  json : Option Dict
  headers : Assoc String
  params : Assoc String

/-- The arguments of a call. -/
structure CallArguments where
  body : Option Dict := none
  headers : Assoc String := []
  queryParams : Assoc String := []

/-- The request of a call, with the headers that authenticate it. -/
def requestOf (account : Account) (endpoint method : String) (arguments : CallArguments)
    (authHeaders : Assoc String) : HttpRequest where
  method := if method = "" then account.defaultMethod else method
  url := buildUrl account endpoint
  json := arguments.body
  headers := Assoc.merge (Assoc.merge [("Content-Type", account.defaultContentType)] authHeaders)
    arguments.headers
  params := Assoc.merge (getQueryParams account.auth) arguments.queryParams

/-- `_request_with_retry`, with the number of attempts that remain. -/
def requestWithRetry (retry : RetryConfig) (request : HttpRequest) (replies : Nat → Reply) :
    (remaining attempt : Nat) → Except Raised (Nat × Value)
  | 0, _ => .error (.client 502 ("All " ++ toString retry.maxAttempts ++ " attempts failed for " ++
      request.method ++ " " ++ request.url))
  | remaining + 1, attempt =>
      match replies attempt with
      | .response status json text =>
          if status ∈ retry.retryableStatusCodes ∧ remaining ≠ 0 then
            requestWithRetry retry request replies remaining (attempt + 1)
          else
            .ok (status, json.getD (.dict [("raw_text", .str (String.ofList (text.toList.take 2000)))]))
      | .requestError _ => requestWithRetry retry request replies remaining (attempt + 1)
      | .raised message => .error (.other message)

/-! ## Responses -/

structure RestCallResponse where
  status : String
  httpStatus : Nat
  responseStatus : String := ""
  message : String := ""
  data : Value
  rawResponse : Value
  elapsedMs : Nat
  account : String
  endpoint : String

/-- The value under keys of objects. -/
def nestedAt : List String → Value → Option Value
  | [], value => some value
  | part :: parts, .dict fields => (Assoc.find fields part).bind (nestedAt parts)
  | _ :: _, _ => none

/-- `_get_nested` of the parser. -/
def getNested (value : Value) (path : String) (default : Value) : Value :=
  if path = "" then default
  else
    match value with
    | .dict fields =>
        (nestedAt ((Value.splitDots path.toList).map String.ofList) (.dict fields)).getD default
    | _ => default

def resolveMapping (functions : Functions) (account : Account) : ResponseMapping :=
  if account.responseMapping.statusField ≠ "" ∨ account.responseMapping.useHttpStatus = true then
    account.responseMapping
  else if account.profile ≠ "" ∧ account.profile ≠ "auto" then
    (functions.profiles.find account.profile).getD { useHttpStatus := true }
  else { useHttpStatus := true }

def parse (functions : Functions) (account : Account) (httpStatus : Nat) (body : Value)
    (elapsedMs : Nat) (endpoint : String) : RestCallResponse :=
  let mapping := resolveMapping functions account
  if mapping.useHttpStatus then
    { status := if 200 ≤ httpStatus ∧ httpStatus < 400 then "success" else "error"
      httpStatus, data := body, rawResponse := body, elapsedMs, account := account.name, endpoint }
  else
    let responseStatus := functions.str (getNested body mapping.statusField (.str ""))
    let message := getNested body mapping.messageField (.str "")
    let data :=
      match mapping.dataField with
      | none | some "" => body
      | some path => getNested body path body
    { status := if responseStatus ∈ mapping.statusOkValues then "success" else "error"
      httpStatus, responseStatus
      message := if message.truthy then functions.str message else ""
      data, rawResponse := body, elapsedMs, account := account.name, endpoint }

/-! ## Calls -/

def call (functions : Functions) (account : Account) (endpoint method : String)
    (arguments : CallArguments) (exchange : Exchange) : Except Raised RestCallResponse :=
  (getHeaders functions account.auth exchange).bind fun authHeaders =>
    (requestWithRetry account.retry (requestOf account endpoint method arguments authHeaders)
      exchange.attempt account.retry.maxAttempts 0).map fun (httpStatus, body) =>
        parse functions account httpStatus body exchange.elapsedMs endpoint

def callNamed (functions : Functions) (account : Account) (namedAction : String)
    (arguments : CallArguments) (exchange : Exchange) : Except Raised RestCallResponse :=
  match account.actionRegistry.find namedAction with
  | none => .error (.client 400 ("Unknown action '" ++ namedAction ++ "' in account '" ++
      account.name ++ "'"))
  | some action => call functions account action.endpoint action.method arguments exchange

/-! ## What calls raise -/

/-- The attempt is followed by another one, if there is one left. -/
def Retried (retry : RetryConfig) : Reply → Prop
  | .response status _ _ => status ∈ retry.retryableStatusCodes
  | .requestError _ => True
  | .raised _ => False

/-- The attempt is made: those before it are followed by another one. -/
def Made (retry : RetryConfig) (replies : Nat → Reply) (attempt : Nat) : Prop :=
  attempt < retry.maxAttempts ∧ ∀ earlier < attempt, Retried retry (replies earlier)

/-- No attempt that is made raises anything but an `httpx.RequestError`. -/
def Settles (retry : RetryConfig) (replies : Nat → Reply) : Prop :=
  ∀ attempt, Made retry replies attempt → ∀ message, replies attempt ≠ .raised message

/-- The answer is an object with a token, and a lifetime, if it has one, that can be added to a float. -/
def Granted (reply : TokenReply) : Prop :=
  ∃ status fields token, reply = .response status (.ok (.dict fields)) ∧ (200 ≤ status ∧ status < 300) ∧
    Assoc.find fields "access_token" = some token ∧
    ((Assoc.find fields "expires_in").getD (.int 3600)).isNumber = true ∧
    overflows ((Assoc.find fields "expires_in").getD (.int 3600)) = false

/-- The headers are there: no token is needed, or there is a valid one, or one is granted. -/
def TokenReady (auth : AuthConfig) (exchange : Exchange) : Prop :=
  auth.type ≠ .oauth2ClientCredentials ∨ exchange.cachedToken.isSome = true ∨
    auth.tokenUrl ≠ "" ∧ Granted exchange.token

/-- A result that is there, or a `RestClientError`. -/
def Handled {α : Type} : Except Raised α → Prop
  | .ok _ => True
  | .error (.client _ _) => True
  | .error _ => False

section Results

variable {functions : Functions} {account : Account} {exchange : Exchange} {auth : AuthConfig}
  {endpoint method : String} {arguments : CallArguments}

theorem handled_answeredToken (reply : TokenReply) :
    Handled (answeredToken reply) ↔ Granted reply := by
  cases reply with
  | requestError message => simp [answeredToken, Granted, Handled]
  | raised message => simp [answeredToken, Granted, Handled]
  | response status json =>
      rw [answeredToken, Granted]
      by_cases hstatus : 200 ≤ status ∧ status < 300
      · cases json with
        | error message => simp [hstatus, Handled, Except.bind, Except.mapError]
        | ok json =>
            have hbind : (Except.ok json : Except String Value).bind readToken = readToken json := rfl
            rw [if_pos hstatus, hbind]
            cases json with
            | dict fields =>
                cases htoken : Assoc.find fields "access_token" with
                | none => simp [readToken, htoken, Handled, Except.mapError]
                | some token =>
                    generalize hexpires : (Assoc.find fields "expires_in").getD (.int 3600) = expiresIn
                    cases hover : overflows expiresIn with
                    | true => simp [readToken, htoken, hexpires, hover, Handled, Except.mapError]
                    | false =>
                        by_cases hnumber : expiresIn.isNumber = true
                        · simp [readToken, htoken, hexpires, hover, hnumber, hstatus, Handled, Except.mapError]
                        · simp [readToken, htoken, hexpires, hover, hnumber, Handled, Except.mapError]
            | _ => simp [readToken, Handled, Except.mapError]
      · rw [if_neg hstatus]
        refine iff_of_false id ?_
        rintro ⟨_, fields, token, heq, hgranted, -⟩
        obtain ⟨rfl, -⟩ := TokenReply.response.inj heq
        exact hstatus hgranted

theorem answeredToken_ne_client (reply : TokenReply) (statusCode : Nat) (message : String) :
    answeredToken reply ≠ .error (.client statusCode message) := by
  cases reply with
  | requestError text => simp [answeredToken]
  | raised text => simp [answeredToken]
  | response status json =>
      rw [answeredToken]
      by_cases hstatus : 200 ≤ status ∧ status < 300
      · rw [if_pos hstatus]
        cases json.bind readToken with
        | ok token => simp [Except.mapError]
        | error text => simp [Except.mapError]
      · simp [if_neg hstatus]

theorem getHeaders_ne_client (statusCode : Nat) (message : String) :
    getHeaders functions auth exchange ≠ .error (.client statusCode message) := by
  unfold getHeaders
  split
  case h_7 =>
    unfold getOauth2Token
    cases exchange.cachedToken with
    | some token => simp [Except.map]
    | none =>
        by_cases hurl : auth.tokenUrl = ""
        · simp [hurl, Except.map]
        · rw [if_neg hurl]
          cases htoken : answeredToken exchange.token with
          | ok token => simp [Except.map]
          | error raised =>
              intro h
              refine answeredToken_ne_client exchange.token statusCode message ?_
              rw [htoken, Except.error.inj h]
  all_goals simp

theorem handled_getHeaders :
    Handled (getHeaders functions auth exchange) ↔ TokenReady auth exchange := by
  by_cases htype : auth.type = .oauth2ClientCredentials
  · have hmap : Handled (getHeaders functions auth exchange) ↔ Handled (getOauth2Token auth exchange) := by
      unfold getHeaders
      rw [htype]
      cases getOauth2Token auth exchange with
      | ok token => exact Iff.rfl
      | error raised => cases raised <;> exact Iff.rfl
    rw [hmap, TokenReady, or_iff_right (not_not_intro htype), getOauth2Token]
    cases exchange.cachedToken with
    | some token => exact iff_of_true trivial (.inl rfl)
    | none =>
        by_cases hurl : auth.tokenUrl = ""
        · simp [hurl, Handled]
        · simp [hurl, handled_answeredToken]
  · refine iff_of_true ?_ (.inl htype)
    unfold getHeaders
    split
    case h_7 h => exact absurd h htype
    all_goals exact trivial

/-- The attempts raise nothing that is not handled exactly if no attempt that is made does. -/
theorem handled_requestWithRetry (retry : RetryConfig) (request : HttpRequest)
    (replies : Nat → Reply) (remaining attempt : Nat) :
    Handled (requestWithRetry retry request replies remaining attempt) ↔
      ∀ later, attempt ≤ later → later < attempt + remaining →
        (∀ earlier, attempt ≤ earlier → earlier < later → Retried retry (replies earlier)) →
        ∀ message, replies later ≠ .raised message := by
  induction remaining generalizing attempt with
  | zero =>
      refine iff_of_true trivial fun later hle hlt => ?_
      omega
  | succ remaining ih =>
      -- If the first attempt is retried, it is a matter of the later ones.
      have hrest : Retried retry (replies attempt) →
          ((∀ later, attempt ≤ later → later < attempt + (remaining + 1) →
            (∀ earlier, attempt ≤ earlier → earlier < later → Retried retry (replies earlier)) →
            ∀ message, replies later ≠ .raised message) ↔
          ∀ later, attempt + 1 ≤ later → later < attempt + 1 + remaining →
            (∀ earlier, attempt + 1 ≤ earlier → earlier < later → Retried retry (replies earlier)) →
            ∀ message, replies later ≠ .raised message) := by
        intro hfirst
        constructor
        · intro h later hle hlt hearlier
          refine h later (by omega) (by omega) fun earlier hge hbefore => ?_
          by_cases heq : earlier = attempt
          · exact heq ▸ hfirst
          · exact hearlier earlier (by omega) hbefore
        · intro h later hle hlt hearlier message
          by_cases heq : later = attempt
          · subst heq
            intro hraised
            rw [hraised] at hfirst
            exact hfirst
          · exact h later (by omega) (by omega)
              (fun earlier hge hbefore => hearlier earlier (by omega) hbefore) message
      have hlast : ¬Retried retry (replies attempt) ∨ remaining = 0 →
          (∀ message, replies attempt ≠ .raised message) →
          ∀ later, attempt ≤ later → later < attempt + (remaining + 1) →
            (∀ earlier, attempt ≤ earlier → earlier < later → Retried retry (replies earlier)) →
            ∀ message, replies later ≠ .raised message := by
        intro hend hfirst later hle hlt hearlier
        have heq : later = attempt := by
          by_contra hne
          rcases hend with hnot | hzero
          · exact hnot (hearlier attempt (Nat.le_refl _) (by omega))
          · omega
        exact heq ▸ hfirst
      rw [requestWithRetry]
      cases hreply : replies attempt with
      | response status json text =>
          by_cases hretried : status ∈ retry.retryableStatusCodes ∧ remaining ≠ 0
          · have hfirst : Retried retry (replies attempt) := by rw [hreply]; exact hretried.1
            simp only [if_pos hretried]
            rw [ih, hrest hfirst]
          · simp only [if_neg hretried]
            refine iff_of_true trivial (hlast ?_ fun message h => by rw [hreply] at h; cases h)
            rw [hreply]
            exact (not_and_or.mp hretried).imp_right not_not.mp
      | requestError message =>
          have hfirst : Retried retry (replies attempt) := by rw [hreply]; trivial
          simp only
          rw [ih, hrest hfirst]
      | raised message =>
          refine iff_of_false id fun h => ?_
          exact h attempt (Nat.le_refl _) (by omega) (fun earlier hge hlt => by omega) message hreply

theorem handled_attempts (retry : RetryConfig) (request : HttpRequest) (replies : Nat → Reply) :
    Handled (requestWithRetry retry request replies retry.maxAttempts 0) ↔ Settles retry replies := by
  rw [handled_requestWithRetry]
  constructor
  · rintro h attempt ⟨hlt, hearlier⟩
    exact h attempt (Nat.zero_le _) (by omega) fun earlier _ hbefore => hearlier earlier hbefore
  · intro h later _ hlt hearlier
    exact h later ⟨by omega, fun earlier hbefore => hearlier earlier (Nat.zero_le _) hbefore⟩

/-- **A call raises nothing but a `RestClientError` exactly if its headers are there and its attempts
settle.** -/
theorem handled_call : Handled (call functions account endpoint method arguments exchange) ↔
    TokenReady account.auth exchange ∧ Settles account.retry exchange.attempt := by
  rw [← @handled_getHeaders functions exchange account.auth, call]
  cases hheaders : getHeaders functions account.auth exchange with
  | error raised =>
      cases raised with
      | client statusCode message => exact absurd hheaders (getHeaders_ne_client statusCode message)
      | auth message => exact iff_of_false id fun h => h.1
      | other message => exact iff_of_false id fun h => h.1
  | ok authHeaders =>
      rw [← handled_attempts account.retry (requestOf account endpoint method arguments authHeaders)]
      show Handled ((requestWithRetry _ _ _ _ _).map _) ↔ _
      cases requestWithRetry account.retry (requestOf account endpoint method arguments authHeaders)
          exchange.attempt account.retry.maxAttempts 0 with
      | ok result => exact iff_of_true trivial ⟨trivial, trivial⟩
      | error raised => cases raised <;> simp [Handled, Except.map]

end Results

end RestApi

end IntegrationPlatform
