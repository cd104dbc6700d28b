import Mathlib.Data.List.DropRight
import Mathlib.Data.List.Find
import IntegrationPlatform.Integrators.RestClient
import IntegrationPlatform.Json.Fields
import IntegrationPlatform.Stores.Snapshots

/-!
# Discovery of REST operations

`rest_discover` of the REST connector: a document is found, its operations get names, and the names go over
those of the account. What is found under a URL is given. Read `faithful_iff` first: each operation has a name,
and each action that was registered by hand keeps what it calls, exactly if the names of the operations are
unambiguous.
-/

namespace IntegrationPlatform

namespace RestApi

/-! ## Documents -/

structure DiscoveredEndpoint where
  endpoint : String
  method : String := "POST"
  description : String := ""
  aliasName : String := ""
  inputSchema : Dict := []
  outputSchema : Dict := []

/-- An operation of a document, under its path and method. -/
structure Operation where
  path : String
  method : String
  operation : Dict

/-- The methods whose operations are discovered. -/
def httpMethods : List String :=
  ["get", "post", "put", "patch", "delete"]

def aliasMap : Assoc String :=
  [("tos_notification_rail_save", "awk.create"),
   ("tos_notification_rail_approve", "awk.approve"),
   ("tos_notification_rail_cancel", "awk.cancel"),
   ("tos_notification_rail_copy", "awk.copy"),
   ("tos_notification_rail_create_outbound", "awk.create_outbound"),
   ("tos_notification_road_save", "awd.create"),
   ("tos_notification_road_approve", "awd.approve"),
   ("tos_notification_road_cancel", "awd.cancel"),
   ("tos_train_wagon_add", "train.add_wagon"),
   ("tos_train_container_add", "train.add_container"),
   ("tos_logistic_unit_save", "logistic_unit.save"),
   ("tos_gate_rail_entry_confirm", "gate.rail_entry_confirm"),
   ("tos_gate_rail_entry_reject", "gate.rail_entry_reject"),
   ("tos_gate_rail_exit_confirm", "gate.rail_exit_confirm"),
   ("tos_gate_road_entry_confirm", "gate.road_entry_confirm"),
   ("tos_gate_road_entry_reject", "gate.road_entry_reject"),
   ("tos_gate_road_exit_confirm", "gate.road_exit_confirm"),
   ("tos_gate_road_zdb_confirm", "gate.road_zdb_confirm"),
   ("tos_gate_ocr_override", "gate.ocr_override"),
   ("tos_gate_assign_track", "gate.assign_track"),
   ("tos_movement_save", "movement.save"),
   ("tos_movement_execute", "movement.execute"),
   ("tos_movement_complete", "movement.complete"),
   ("tos_operation_start", "operation.start"),
   ("tos_operation_complete", "operation.complete"),
   ("tos_zt_rail_save", "zt_rail.save"),
   ("tos_zt_change_status", "zt.change_status"),
   ("tos_damage_report_save", "damage.report"),
   ("tos_photo_save", "photo.save"),
   ("tos_doc_file_add", "doc.file_add"),
   ("tos_doc_set_status", "doc.set_status"),
   ("tos_validate_vehicle_number", "validate.vehicle_number"),
   ("tos_validate_container_code", "validate.container_code"),
   ("tos_validate_slot_availability", "validate.slot_availability"),
   ("tos_doc_get_status", "doc.get_status"),
   ("tos_container_get_status", "container.get_status"),
   ("tos_get_events_since", "events.poll"),
   ("tos_get_doc_status_changes_since", "doc_status_changes.poll")]

/-- `re.sub(r"\.+", ".", text)`. -/
def collapseDots : List Char → List Char
  | [] => []
  | letter :: rest =>
      if letter = '.' ∧ rest.head? = some '.' then collapseDots rest else letter :: collapseDots rest

def autoAlias (endpoint : String) : String :=
  let dotted := endpoint.toList.map fun letter =>
    if letter = '/' then '.' else if letter = '-' then '_' else letter
  let clean := collapseDots (dotted.filter fun letter => letter ≠ '\x7b' ∧ letter ≠ '\x7d')
  String.ofList ((clean.rdropWhile (· = '.')).dropWhile (· = '.'))

/-- A path without the prefix, if it starts with it. -/
def cleanPath (pathPrefix path : String) : String :=
  if pathPrefix ≠ "" ∧ pathPrefix.toList.isPrefixOf path.toList = true then
    String.ofList (path.toList.drop pathPrefix.toList.length)
  else path

/-- The endpoint of a path: `clean_path.strip("/")`. -/
def endpointName (pathPrefix path : String) : String :=
  lstripSlash (rstripSlash (cleanPath pathPrefix path))

/-- `text.split("/")`, on the letters of a text. -/
def splitSlashes (text : List Char) : List (List Char) :=
  text.splitOn '/'

/-- The value under keys of objects, of a document: `None` for a key that is not there, and nothing below a
value that is no object. -/
def referenced : List String → Value → Option Value
  | [], value => some value
  | part :: parts, .dict fields => referenced parts ((Assoc.find fields part).getD .null)
  | _ :: _, _ => none

def resolveRef (schema : Value) (spec : Dict) : Dict :=
  match schema with
  | .dict fields =>
      match Assoc.find fields "$ref" with
      | some (.str ref) =>
          if ref = "" then fields
          else
            let parts := splitSlashes (ref.toList.dropWhile fun letter => letter = '#' ∨ letter = '/')
            match referenced (parts.map String.ofList) (.dict spec) with
            | some (.dict found) => found
            | _ => fields
      | _ => fields
  | _ => []

/-- The schema of the JSON content of a body. -/
def contentSchema (body : Dict) : Except String Value :=
  (((Assoc.find body "content").getD (.dict [])).get "application/json" (.dict [])).bind fun json =>
    json.get "schema" (.dict [])

def extractRequestSchema (operation spec : Dict) : Except String Dict :=
  match (Assoc.find operation "requestBody").getD (.dict []) with
  | .dict body => (contentSchema body).map fun schema => resolveRef schema spec
  | _ => .ok []

/-- The schema of the first of some responses that has one. -/
def firstSchema (responses : Value) (spec : Dict) : List String → Except String Dict
  | [] => .ok []
  | statusCode :: statusCodes =>
      (responses.get statusCode (.dict [])).bind fun response =>
        match response with
        | .dict response =>
            (contentSchema response).bind fun schema =>
              if schema.truthy then .ok (resolveRef schema spec)
              else firstSchema responses spec statusCodes
        | _ => firstSchema responses spec statusCodes

def extractResponseSchema (operation spec : Dict) : Except String Dict :=
  firstSchema ((Assoc.find operation "responses").getD (.dict [])) spec ["200", "201", "default"]

/-- The description of an operation, of at most 200 letters. -/
def describe (operation : Dict) : Except String String :=
  let summary := (Assoc.find operation "summary").getD (.str "")
  match if summary.truthy then summary else (Assoc.find operation "description").getD (.str "") with
  | .str text =>
      .ok (if 200 < text.length then String.ofList (text.toList.take 200) ++ "..." else text)
  | _ => .error "Input should be a valid string"

/-- The operations of a document, in its order. -/
def operationsOf (paths : Dict) : List Operation :=
  paths.flatMap fun (path, methods) =>
    match methods with
    | .dict methods =>
        methods.filterMap fun (method, operation) =>
          match operation with
          | .dict operation => if method ∈ httpMethods then some ⟨path, method, operation⟩ else none
          | _ => none
    | _ => []

/-- The alias of an endpoint. -/
def aliasOf (generateAliases : Bool) (endpoint : String) : String :=
  if generateAliases then (aliasMap.find endpoint).getD (autoAlias endpoint) else ""

/-- What is discovered of an operation. -/
def discovered (spec : Dict) (pathPrefix : String) (generateAliases : Bool) (operation : Operation) :
    Except String DiscoveredEndpoint :=
  let endpoint := endpointName pathPrefix operation.path
  (extractRequestSchema operation.operation spec).bind fun inputSchema =>
    (extractResponseSchema operation.operation spec).bind fun outputSchema =>
      (describe operation.operation).map fun description =>
        { endpoint, method := upper operation.method, description
          aliasName := aliasOf generateAliases endpoint, inputSchema, outputSchema }

def parseSpec (spec : Dict) (pathPrefix : String) (generateAliases : Bool) :
    Except String (List DiscoveredEndpoint) :=
  match (Assoc.find spec "paths").getD (.dict []) with
  | .dict paths => (operationsOf paths).mapM (discovered spec pathPrefix generateAliases)
  | value => .error ("'" ++ value.typeName ++ "' object has no attribute 'items'")

/-! ## Discovery -/

def probePaths : List String :=
  ["/openapi.json", "/swagger.json", "/api-docs", "/v3/api-docs", "/.well-known/openapi"]

def buildProbePaths (pathPrefix : String) : List String :=
  probePaths ++ if pathPrefix = "" then [] else [rstripSlash pathPrefix ++ "/openapi.json"]

/-- The URLs that are probed. -/
def probeUrls (baseUrl pathPrefix openapiUrl : String) : List String :=
  (if openapiUrl = "" then buildProbePaths pathPrefix else [openapiUrl]).map fun probePath =>
    if "http".toList.isPrefixOf probePath.toList then probePath else rstripSlash baseUrl ++ probePath

structure RestDiscoverResponse where
  status : String
  found : Bool := false
  openapiUrl : String := ""
  openapiVersion : String := ""
  endpoints : List DiscoveredEndpoint := []
  count : Nat := 0
  message : String := ""

/-- The first URL with a specification, and it. -/
def firstSpec (fetch : String → Option Dict) (urls : List String) : Option (String × Dict) :=
  urls.findSome? fun url => (fetch url).map (url, ·)

/-- `OpenAPIDiscovery.discover`, with what `_try_fetch_spec` gives. -/
def discover (functions : Functions) (fetch : String → Option Dict)
    (baseUrl pathPrefix openapiUrl : String) (generateAliases : Bool) :
    Except String RestDiscoverResponse :=
  match firstSpec fetch (probeUrls baseUrl pathPrefix openapiUrl) with
  | none => .ok { status := "success", message := "No OpenAPI specification found at any probed path" }
  | some (url, spec) =>
      (parseSpec spec pathPrefix generateAliases).map fun endpoints =>
        { status := "success", found := true, openapiUrl := url
          openapiVersion := functions.str ((Assoc.find spec "openapi").getD
            ((Assoc.find spec "swagger").getD (.str "unknown")))
          endpoints, count := endpoints.length
          message := "Discovered " ++ toString endpoints.length ++ " endpoints from " ++ url }

/-- The name of an endpoint: `ep.alias or ep.endpoint`. -/
def registryName (endpoint : DiscoveredEndpoint) : String :=
  if endpoint.aliasName = "" then endpoint.endpoint else endpoint.aliasName

/-- The action of an endpoint. -/
def actionOf (endpoint : DiscoveredEndpoint) : ActionDefinition where
  endpoint := endpoint.endpoint
  method := endpoint.method
  description := endpoint.description
  inputSchema := endpoint.inputSchema
  outputSchema := endpoint.outputSchema
  source := "openapi_discovery"

/-- The actions of endpoints. -/
def actionsOf (endpoints : List DiscoveredEndpoint) : Assoc ActionDefinition :=
  endpoints.foldl (fun actions endpoint => actions.put (registryName endpoint) (actionOf endpoint)) []

/-- `update_action_registry`, of an account. -/
def updateActionRegistry (account : Account) (actions : Assoc ActionDefinition) : Account :=
  { account with actionRegistry := account.actionRegistry.merge actions }

/-- `rest_discover`, for an account whose headers are there. -/
def restDiscover (functions : Functions) (fetch : String → Option Dict) (account : Account)
    (openapiUrl : String) (generateAliases : Bool) : Except String (Account × RestDiscoverResponse) :=
  (discover functions fetch account.baseUrl account.pathPrefix openapiUrl generateAliases).map
    fun result =>
      (if result.found then updateActionRegistry account (actionsOf result.endpoints) else account, result)

/-! ## Documents that are valid -/

/-- A field that is a text, if it is there. -/
def TextAt (fields : Dict) (key : String) : Prop :=
  ∀ value, Assoc.find fields key = some value → ∃ text, value = .str text

/-- A field that is an object with a property, if it is there. -/
def ObjectAt (fields : Dict) (key : String) (holds : Dict → Prop) : Prop :=
  ∀ value, Assoc.find fields key = some value → ∃ object, value = .dict object ∧ holds object

/-- A body or a response: its contents are objects. -/
def Media (body : Dict) : Prop :=
  ObjectAt body "content" fun content => ObjectAt content "application/json" fun _ => True

/-- An operation of an OpenAPI document, as far as it is read. -/
structure ValidOperation (operation : Dict) : Prop where
  summary : TextAt operation "summary"
  description : TextAt operation "description"
  requestBody : ObjectAt operation "requestBody" Media
  responses : ObjectAt operation "responses" fun responses => ∀ statusCode, ObjectAt responses statusCode Media

/-- An account and an OpenAPI document that is found for it. -/
structure Discovery where
  functions : Functions
  fetch : String → Option Dict
  account : Account
  openapiUrl : String
  generateAliases : Bool
  url : String
  document : Dict
  paths : Dict
  found : firstSpec fetch (probeUrls account.baseUrl account.pathPrefix openapiUrl) = some (url, document)
  hasPaths : (Assoc.find document "paths").getD (.dict []) = .dict paths
  rooted : ∀ operation ∈ operationsOf paths, operation.path.toList.head? = some '/'
  valid : ∀ operation ∈ operationsOf paths, ValidOperation operation.operation

/-! ## Faithful registries -/

/-- The method that `call` sends: `httpx` makes it one of capital letters. -/
def resolvedMethod (account : Account) (method : String) : String :=
  upper (if method = "" then account.defaultMethod else method)

/-- Whatever it is given, a call of the name sends the method to the URL. -/
def Sends (account : Account) (name method url : String) : Prop :=
  ∃ action, account.actionRegistry.find name = some action ∧
    ∀ arguments authHeaders,
      upper (requestOf account action.endpoint action.method arguments authHeaders).method = method ∧
        (requestOf account action.endpoint action.method arguments authHeaders).url = url

namespace Discovery

variable (run : Discovery)

/-- The operations of the document. -/
def operations : List Operation :=
  operationsOf run.paths

/-- The endpoint of an operation. -/
def endpoint (operation : Operation) : String :=
  endpointName run.account.pathPrefix operation.path

/-- The name of an operation: its alias, or its endpoint if that is empty. -/
def name (operation : Operation) : String :=
  if aliasOf run.generateAliases (run.endpoint operation) = "" then run.endpoint operation
  else aliasOf run.generateAliases (run.endpoint operation)

/-- The path of the operation is the prefix, a slash and the rest. -/
def Scoped (operation : Operation) (rest : List Char) : Prop :=
  operation.path.toList = run.account.pathPrefix.toList ++ '/' :: rest

/-- Each operation under the prefix has a name that calls it, and each manual action still calls what it did. -/
def Faithful : Prop :=
  ∃ account response,
    restDiscover run.functions run.fetch run.account run.openapiUrl run.generateAliases =
      .ok (account, response) ∧
    (∀ operation ∈ run.operations, (∃ rest, run.Scoped operation rest) →
      ∃ name, Sends account name (upper operation.method) (run.account.baseUrl ++ operation.path)) ∧
    ∀ name action, run.account.actionRegistry.find name = some action → action.source = "manual" →
      Sends account name (resolvedMethod run.account action.method)
        (buildUrl run.account action.endpoint)

/-- No later operation has the name of this one. -/
def Last (operation : Operation) : Prop :=
  ∃ earlier later, run.operations = earlier ++ operation :: later ∧
    ∀ other ∈ later, run.name other ≠ run.name operation

/-- A name of the registry with an endpoint and a method: those of the last operation of the name, or those of
an action that was there, if no operation has its name. -/
inductive Kept : (name endpoint method : String) → Prop where
  | operation (operation : Operation) (last : run.Last operation) :
      Kept (run.name operation) (run.endpoint operation) (upper operation.method)
  | action (name : String) (action : ActionDefinition)
      (found : run.account.actionRegistry.find name = some action)
      (unnamed : ∀ operation ∈ run.operations, run.name operation ≠ name) :
      Kept name action.endpoint (resolvedMethod run.account action.method)

/-- The names of the operations are unambiguous. -/
structure Unambiguous : Prop where
  bare : ∀ operation ∈ run.operations, (∃ rest, run.Scoped operation rest) →
    rstripSlash run.account.baseUrl = run.account.baseUrl ∧
      rstripSlash run.account.pathPrefix = run.account.pathPrefix
  kept : ∀ operation ∈ run.operations, ∀ rest, run.Scoped operation rest →
    ∃ name endpoint, run.Kept name endpoint (upper operation.method) ∧
      endpoint ≠ "" ∧ (lstripSlash endpoint).toList = rest
  manual : ∀ action name, run.account.actionRegistry.find name = some action → action.source = "manual" →
    ∀ operation, run.Last operation → run.name operation = name →
      upper operation.method = resolvedMethod run.account action.method ∧
        (run.endpoint operation = "" ↔ action.endpoint = "") ∧
        lstripSlash (run.endpoint operation) = lstripSlash action.endpoint

end Discovery

section Results

variable {account : Account} {run : Discovery}

/-! ## URLs -/

theorem rstripSlash_append (text : String) :
    ∃ count, text.toList = (rstripSlash text).toList ++ List.replicate count '/' := by
  refine ⟨(text.toList.rtakeWhile (· = '/')).length, ?_⟩
  have hslashes : text.toList.rtakeWhile (· = '/') =
      List.replicate (text.toList.rtakeWhile (· = '/')).length '/' := by
    refine List.eq_replicate_of_mem fun letter hmem => ?_
    simpa using List.mem_rtakeWhile_imp hmem
  rw [← hslashes]
  show _ = (String.ofList (text.toList.rdropWhile (· = '/'))).toList ++ _
  rw [String.toList_ofList]
  exact List.rdropWhile_append_rtakeWhile.symm

theorem head_lstripSlash (text : String) : (lstripSlash text).toList.head? ≠ some '/' := by
  rw [lstripSlash, String.toList_ofList]
  intro h
  have hhead := List.head?_dropWhile_not (· = '/') text.toList
  rw [h] at hhead
  simp at hhead

/-- Letters before a slash are the same with slashes in front of them and behind them only if there are none. -/
theorem slashes_cancel {letters stripped rest : List Char} {front back : Nat}
    (hstripped : stripped.head? ≠ some '/')
    (h : letters ++ '/' :: stripped =
      List.replicate front '/' ++ (letters ++ (List.replicate back '/' ++ '/' :: rest))) :
    front = 0 ∧ back = 0 ∧ stripped = rest := by
  have hback : ∀ back, stripped = List.replicate back '/' ++ rest → back = 0 := by
    intro back heq
    cases back with
    | zero => rfl
    | succ back =>
        rw [heq, List.replicate_succ] at hstripped
        exact absurd rfl hstripped
  have hslash : ∀ count, List.replicate count '/' ++ '/' :: rest =
      '/' :: (List.replicate count '/' ++ rest) := by
    intro count
    rw [← List.singleton_append, ← List.append_assoc, ← List.replicate_succ',
      List.replicate_succ, List.cons_append]
  induction letters with
  | nil =>
      rw [List.nil_append, List.nil_append, ← List.append_assoc, List.replicate_append_replicate,
        hslash] at h
      have htail := (List.cons.inj h).2
      have hsum := hback _ htail
      refine ⟨by omega, by omega, ?_⟩
      rw [htail, hsum]
      rfl
  | cons letter letters ih =>
      cases front with
      | zero =>
          rw [List.replicate_zero, List.nil_append, List.append_right_inj, hslash] at h
          have htail := (List.cons.inj h).2
          have hzero := hback _ htail
          refine ⟨rfl, hzero, ?_⟩
          rw [htail, hzero]
          rfl
      | succ front =>
          -- The first letter is a slash, and goes from the one side to the other.
          rw [List.replicate_succ, List.cons_append, List.cons_append] at h
          obtain ⟨rfl, htail⟩ := List.cons.inj h
          refine absurd (ih ?_).1 (by omega)
          rw [htail, List.replicate_succ', List.append_assoc]
          rfl

theorem toList_buildUrl (endpoint : String) : (buildUrl account endpoint).toList =
    (rstripSlash account.baseUrl).toList ++ ((rstripSlash account.pathPrefix).toList ++
      if endpoint = "" then [] else '/' :: (lstripSlash endpoint).toList) := by
  have hfront : (if account.pathPrefix = "" then "" else rstripSlash account.pathPrefix) =
      rstripSlash account.pathPrefix := by
    split
    · next hempty => rw [hempty]; rfl
    · rfl
  rw [buildUrl, hfront]
  by_cases hendpoint : endpoint = ""
  · rw [if_pos hendpoint, if_pos hendpoint]
    split
    · next hempty => rw [hempty]; simp
    · simp
  · rw [if_neg hendpoint, if_neg hendpoint]
    simp

/-- An endpoint has the URL of a path exactly if the base and the prefix do not end in slashes, and the
endpoint is the rest of the path. -/
theorem buildUrl_eq_path {endpoint path : String} {rest : List Char}
    (hpath : path.toList = account.pathPrefix.toList ++ '/' :: rest) :
    buildUrl account endpoint = account.baseUrl ++ path ↔
      (rstripSlash account.baseUrl = account.baseUrl ∧
        rstripSlash account.pathPrefix = account.pathPrefix) ∧
        endpoint ≠ "" ∧ (lstripSlash endpoint).toList = rest := by
  rw [← String.toList_inj, toList_buildUrl, String.toList_append, hpath]
  constructor
  · intro h
    obtain ⟨front, hfront⟩ := rstripSlash_append account.baseUrl
    obtain ⟨back, hback⟩ := rstripSlash_append account.pathPrefix
    rw [hfront, hback, List.append_assoc, List.append_assoc] at h
    have h := List.append_cancel_left h
    by_cases hendpoint : endpoint = ""
    · rw [if_pos hendpoint] at h
      have hlength := congrArg List.length h
      simp only [List.length_append, List.length_nil, List.length_cons] at hlength
      omega
    · rw [if_neg hendpoint] at h
      obtain ⟨rfl, rfl, hrest⟩ := slashes_cancel (head_lstripSlash endpoint) h
      rw [List.replicate_zero, List.append_nil] at hfront hback
      exact ⟨⟨String.toList_inj.mp hfront.symm, String.toList_inj.mp hback.symm⟩, hendpoint, hrest⟩
  · rintro ⟨⟨hbase, hfront⟩, hendpoint, hrest⟩
    rw [if_neg hendpoint, hbase, hfront, hrest]

theorem buildUrl_eq_iff {endpoint other : String} :
    buildUrl account endpoint = buildUrl account other ↔
      (endpoint = "" ↔ other = "") ∧ lstripSlash endpoint = lstripSlash other := by
  rw [← String.toList_inj, toList_buildUrl, toList_buildUrl, List.append_cancel_left_eq,
    List.append_cancel_left_eq]
  by_cases hendpoint : endpoint = ""
  · by_cases hother : other = ""
    · simp [hendpoint, hother]
    · simp [hendpoint, hother]
  · by_cases hother : other = ""
    · simp [hendpoint, hother]
    · simp [hendpoint, hother, String.toList_inj]

/-! ## Names -/

theorem nodup_actionsOf (endpoints : List DiscoveredEndpoint) :
    ((actionsOf endpoints).map Prod.fst).Nodup := by
  have hwrites : ∀ actions : Assoc ActionDefinition, (actions.map Prod.fst).Nodup →
      ((endpoints.foldl (fun actions endpoint =>
        actions.put (registryName endpoint) (actionOf endpoint)) actions).map Prod.fst).Nodup := by
    induction endpoints with
    | nil => exact fun _ h => h
    | cons endpoint endpoints ih => exact fun _ h => ih _ (Assoc.nodup_put h _ _)
  exact hwrites [] List.nodup_nil

variable {operation : Operation}

theorem Discovery.Last.mem (h : run.Last operation) :
    operation ∈ run.operations := by
  obtain ⟨earlier, later, hsplit, -⟩ := h
  rw [hsplit]
  exact List.mem_append_right _ List.mem_cons_self

theorem find_reverse_operations {name : String} :
    run.operations.reverse.find? (fun operation => run.name operation = name) = some operation ↔
      run.Last operation ∧ run.name operation = name := by
  rw [List.find?_eq_some_iff_append]
  constructor
  · rintro ⟨hname, later, earlier, hsplit, hlater⟩
    have hname : run.name operation = name := by simpa using hname
    refine ⟨⟨earlier.reverse, later.reverse, ?_, fun other hmem => ?_⟩, hname⟩
    · have hreverse := congrArg List.reverse hsplit
      simpa using hreverse
    · rw [hname]
      simpa using hlater other (List.mem_reverse.mp hmem)
  · rintro ⟨⟨earlier, later, hsplit, hlater⟩, hname⟩
    refine ⟨by simpa using hname, later.reverse, earlier.reverse, ?_, fun other hmem => ?_⟩
    · rw [hsplit]
      simp
    · have hne := hlater other (List.mem_reverse.mp hmem)
      rw [hname] at hne
      simpa using hne

/-! ## Operations of a valid document -/

theorem method_mem {paths : Dict} (h : operation ∈ operationsOf paths) :
    operation.method ∈ httpMethods := by
  obtain ⟨⟨path, methods⟩, -, hmem⟩ := List.mem_flatMap.mp h
  cases methods with
  | dict methods =>
      obtain ⟨⟨method, value⟩, -, hvalue⟩ := List.mem_filterMap.mp hmem
      cases value with
      | dict fields =>
          by_cases hmethod : method ∈ httpMethods
          · simp only [if_pos hmethod] at hvalue
            cases hvalue
            exact hmethod
          · simp only [if_neg hmethod] at hvalue
            cases hvalue
      | _ => cases hvalue
  | _ => cases hmem

theorem resolvedMethod_upper (h : operation ∈ run.operations) :
    resolvedMethod run.account (upper operation.method) = upper operation.method := by
  have hupper : ∀ method ∈ httpMethods, upper method ≠ "" ∧ upper (upper method) = upper method := by
    decide
  obtain ⟨hne, hagain⟩ := hupper _ (method_mem h)
  rw [resolvedMethod, if_neg hne, hagain]

theorem contentSchema_ok {body : Dict} (h : Media body) : ∃ schema, contentSchema body = .ok schema := by
  unfold contentSchema
  cases hcontent : Assoc.find body "content" with
  | none => exact ⟨_, rfl⟩
  | some content =>
      obtain ⟨fields, rfl, hjson⟩ := h content hcontent
      simp only [Option.getD_some, Value.get, Except.bind]
      cases hfind : Assoc.find fields "application/json" with
      | none => exact ⟨_, rfl⟩
      | some json =>
          obtain ⟨object, rfl, -⟩ := hjson json hfind
          exact ⟨_, rfl⟩

theorem firstSchema_ok {responses spec : Dict}
    (h : ∀ statusCode, ObjectAt responses statusCode Media) (statusCodes : List String) :
    ∃ schema, firstSchema (.dict responses) spec statusCodes = .ok schema := by
  induction statusCodes with
  | nil => exact ⟨_, rfl⟩
  | cons statusCode statusCodes ih =>
      have hmedia : ∃ response, (Assoc.find responses statusCode).getD (.dict []) = .dict response ∧
          Media response := by
        cases hfind : Assoc.find responses statusCode with
        | none => exact ⟨[], rfl, fun value hvalue => by cases hvalue⟩
        | some value =>
            obtain ⟨response, rfl, hmedia⟩ := h statusCode value hfind
            exact ⟨response, rfl, hmedia⟩
      obtain ⟨response, hresponse, hmedia⟩ := hmedia
      obtain ⟨schema, hschema⟩ := contentSchema_ok hmedia
      rw [firstSchema, Value.get, hresponse]
      simp only [Except.bind, hschema]
      by_cases htruthy : schema.truthy = true
      · rw [if_pos htruthy]
        exact ⟨_, rfl⟩
      · rw [if_neg htruthy]
        exact ih

theorem textAt_getD {fields : Dict} {key : String} (h : TextAt fields key) :
    ∃ text, (Assoc.find fields key).getD (.str "") = .str text := by
  cases hfind : Assoc.find fields key with
  | none => exact ⟨"", rfl⟩
  | some value =>
      obtain ⟨text, rfl⟩ := h value hfind
      exact ⟨text, rfl⟩

theorem discovered_ok (spec : Dict) (pathPrefix : String)
    (generateAliases : Bool) (h : ValidOperation operation.operation) :
    ∃ endpoint, discovered spec pathPrefix generateAliases operation = .ok endpoint := by
  have hrequest : ∃ schema, extractRequestSchema operation.operation spec = .ok schema := by
    unfold extractRequestSchema
    cases hbody : Assoc.find operation.operation "requestBody" with
    | none => exact ⟨_, rfl⟩
    | some body =>
        obtain ⟨fields, rfl, hmedia⟩ := h.requestBody body hbody
        obtain ⟨schema, hschema⟩ := contentSchema_ok hmedia
        simp only [Option.getD_some, hschema]
        exact ⟨_, rfl⟩
  have hresponse : ∃ schema, extractResponseSchema operation.operation spec = .ok schema := by
    unfold extractResponseSchema
    cases hresponses : Assoc.find operation.operation "responses" with
    | none => exact firstSchema_ok (fun statusCode value hvalue => by cases hvalue) _
    | some responses =>
        obtain ⟨fields, rfl, hmedia⟩ := h.responses responses hresponses
        exact firstSchema_ok hmedia _
  have hdescription : ∃ text, describe operation.operation = .ok text := by
    obtain ⟨summary, hsummary⟩ := textAt_getD h.summary
    obtain ⟨description, hdescription⟩ := textAt_getD h.description
    unfold describe
    rw [hsummary, hdescription]
    by_cases htruthy : (Value.str summary).truthy = true
    · simp only [if_pos htruthy]
      exact ⟨_, rfl⟩
    · simp only [if_neg htruthy]
      exact ⟨_, rfl⟩
  obtain ⟨inputSchema, hinput⟩ := hrequest
  obtain ⟨outputSchema, houtput⟩ := hresponse
  obtain ⟨description, htext⟩ := hdescription
  unfold discovered
  rw [hinput, houtput, htext]
  exact ⟨_, rfl⟩

theorem discovered_fields {endpoint : DiscoveredEndpoint}
    (h : discovered run.document run.account.pathPrefix run.generateAliases operation = .ok endpoint) :
    endpoint.endpoint = run.endpoint operation ∧ endpoint.method = upper operation.method ∧
      registryName endpoint = run.name operation := by
  unfold discovered at h
  obtain ⟨inputSchema, -, h⟩ := bind_eq_ok.mp h
  obtain ⟨outputSchema, -, h⟩ := bind_eq_ok.mp h
  cases hdescription : describe operation.operation with
  | error message =>
      rw [hdescription] at h
      cases h
  | ok description =>
      rw [hdescription] at h
      rw [← Except.ok.inj h]
      exact ⟨rfl, rfl, rfl⟩

/-! ## The registry after a discovery -/

/-- The endpoint of an operation of the document. -/
def discoveredOf (run : Discovery) (operation : Operation) : DiscoveredEndpoint :=
  ((discovered run.document run.account.pathPrefix run.generateAliases operation).toOption).getD
    { endpoint := "" }

theorem parseSpec_ok : parseSpec run.document run.account.pathPrefix run.generateAliases =
    .ok (run.operations.map (discoveredOf run)) := by
  have hmap : ∀ operations : List Operation,
      (∀ operation ∈ operations, ValidOperation operation.operation) →
      operations.mapM (discovered run.document run.account.pathPrefix run.generateAliases) =
        .ok (operations.map (discoveredOf run)) := by
    intro operations
    induction operations with
    | nil => exact fun _ => rfl
    | cons operation operations ih =>
        intro hvalid
        obtain ⟨endpoint, hendpoint⟩ := discovered_ok run.document run.account.pathPrefix
          run.generateAliases (hvalid operation List.mem_cons_self)
        have hof : discoveredOf run operation = endpoint := by
          rw [discoveredOf, hendpoint]
          rfl
        rw [List.mapM_cons, hendpoint, ih fun other hmem => hvalid other (List.mem_cons_of_mem _ hmem),
          List.map_cons, hof]
        rfl
  unfold parseSpec
  rw [run.hasPaths]
  exact hmap _ run.valid

theorem discoveredOf_fields (h : operation ∈ run.operations) :
    (discoveredOf run operation).endpoint = run.endpoint operation ∧
      (discoveredOf run operation).method = upper operation.method ∧
      registryName (discoveredOf run operation) = run.name operation := by
  obtain ⟨endpoint, hendpoint⟩ := discovered_ok run.document run.account.pathPrefix
    run.generateAliases (run.valid operation h)
  have hof : discoveredOf run operation = endpoint := by
    rw [discoveredOf, hendpoint]
    rfl
  rw [hof]
  exact discovered_fields hendpoint

/-- The account after the discovery. -/
def registered (run : Discovery) : Account :=
  updateActionRegistry run.account (actionsOf (run.operations.map (discoveredOf run)))

theorem restDiscover_ok : ∃ response,
    restDiscover run.functions run.fetch run.account run.openapiUrl run.generateAliases =
      .ok (registered run, response) := by
  unfold restDiscover discover
  rw [run.found]
  simp only [parseSpec_ok]
  exact ⟨_, rfl⟩

theorem find_registered (name : String) : (registered run).actionRegistry.find name =
    ((run.operations.reverse.find? (fun operation => run.name operation = name)).map
      (fun operation => actionOf (discoveredOf run operation))).or
      (run.account.actionRegistry.find name) := by
  have hnames : run.operations.reverse.find?
        (fun operation => registryName (discoveredOf run operation) = name) =
      run.operations.reverse.find? (fun operation => run.name operation = name) := by
    refine List.find?_congr fun operation hmem => ?_
    rw [(discoveredOf_fields (List.mem_reverse.mp hmem)).2.2]
  show ((run.account.actionRegistry).merge _).find name = _
  rw [Assoc.find_merge _ (nodup_actionsOf _), actionsOf, List.foldl_map, Assoc.find_foldl_put,
    Snapshots.latest, hnames]
  cases run.operations.reverse.find? (fun operation => run.name operation = name) with
  | some operation => rfl
  | none => rfl

/-- A name sends a method to a URL exactly if it is kept with an endpoint of the URL. -/
theorem sends_iff {name method url : String} : Sends (registered run) name method url ↔
    ∃ endpoint, run.Kept name endpoint method ∧ buildUrl run.account endpoint = url := by
  have hsends : Sends (registered run) name method url ↔
      ∃ action, (registered run).actionRegistry.find name = some action ∧
        resolvedMethod run.account action.method = method ∧
        buildUrl run.account action.endpoint = url := by
    refine exists_congr fun action => and_congr_right fun _ => ?_
    exact ⟨fun h => h {} [], fun h _ _ => h⟩
  rw [hsends]
  constructor
  · rintro ⟨action, haction, rfl, hurl⟩
    rw [find_registered] at haction
    cases hfound : run.operations.reverse.find? (fun operation => run.name operation = name) with
    | some operation =>
        rw [hfound] at haction
        obtain ⟨hlast, hname⟩ := find_reverse_operations.mp hfound
        have hmem := hlast.mem
        obtain ⟨hendpoint, hmethod, -⟩ := discoveredOf_fields hmem
        obtain rfl : actionOf (discoveredOf run operation) = action := Option.some.inj haction
        refine ⟨run.endpoint operation, ?_, ?_⟩
        · have hresolved : resolvedMethod run.account (actionOf (discoveredOf run operation)).method =
              upper operation.method := by
            show resolvedMethod run.account (discoveredOf run operation).method = _
            rw [hmethod, resolvedMethod_upper hmem]
          rw [hresolved, ← hname]
          exact .operation operation hlast
        · rw [← hurl, ← hendpoint]
          rfl
    | none =>
        rw [hfound] at haction
        refine ⟨action.endpoint, .action name action haction fun operation hmem hname => ?_, hurl⟩
        have hnot := List.find?_eq_none.mp hfound operation (List.mem_reverse.mpr hmem)
        exact hnot (decide_eq_true hname)
  · rintro ⟨endpoint, hkept, rfl⟩
    cases hkept with
    | operation operation hlast =>
        have hmem := hlast.mem
        obtain ⟨hendpoint, hmethod, -⟩ := discoveredOf_fields hmem
        refine ⟨actionOf (discoveredOf run operation), ?_, ?_, ?_⟩
        · rw [find_registered, find_reverse_operations.mpr ⟨hlast, rfl⟩]
          rfl
        · show resolvedMethod run.account (discoveredOf run operation).method = _
          rw [hmethod, resolvedMethod_upper hmem]
        · show buildUrl run.account (discoveredOf run operation).endpoint = _
          rw [hendpoint]
    | action name action hfound hunnamed =>
        refine ⟨action, ?_, rfl, rfl⟩
        have hnone : run.operations.reverse.find? (fun operation => run.name operation = name) = none :=
          List.find?_eq_none.mpr fun operation hmem hname =>
            hunnamed operation (List.mem_reverse.mp hmem) (of_decide_eq_true hname)
        rw [find_registered, hnone]
        exact hfound

theorem kept_of_last {name endpoint method : String}
    (hlast : run.Last operation) (hname : run.name operation = name)
    (h : run.Kept name endpoint method) :
    endpoint = run.endpoint operation ∧ method = upper operation.method := by
  have hfound := find_reverse_operations.mpr ⟨hlast, hname⟩
  cases h with
  | operation other hother =>
      have hfirst := find_reverse_operations.mpr ⟨hother, rfl⟩
      obtain rfl : operation = other := Option.some.inj (hfound.symm.trans hfirst)
      exact ⟨rfl, rfl⟩
  | action name action haction hunnamed => exact absurd hname (hunnamed operation hlast.mem)

theorem last_or_unnamed (run : Discovery) (name : String) :
    (∃ operation, run.Last operation ∧ run.name operation = name) ∨
      ∀ operation ∈ run.operations, run.name operation ≠ name := by
  cases hfound : run.operations.reverse.find? (fun operation => run.name operation = name) with
  | some operation => exact .inl ⟨operation, find_reverse_operations.mp hfound⟩
  | none =>
      refine .inr fun operation hmem hname => ?_
      exact List.find?_eq_none.mp hfound operation (List.mem_reverse.mpr hmem) (decide_eq_true hname)

theorem Discovery.Unambiguous.faithful (h : run.Unambiguous) : run.Faithful := by
  obtain ⟨found, hfound⟩ := @restDiscover_ok run
  refine ⟨registered run, found, hfound, ?_, ?_⟩
  · rintro operation hmem ⟨rest, hscoped⟩
    obtain ⟨name, endpoint, hentry, hrest⟩ := h.kept operation hmem rest hscoped
    refine ⟨name, sends_iff.mpr ⟨endpoint, hentry, ?_⟩⟩
    exact (buildUrl_eq_path hscoped).mpr ⟨h.bare operation hmem ⟨rest, hscoped⟩, hrest⟩
  · intro name action haction hsource
    rw [sends_iff]
    rcases last_or_unnamed run name with ⟨operation, hlast, hname⟩ | hunnamed
    · obtain ⟨hmethod, hsame⟩ := h.manual action name haction hsource operation hlast hname
      refine ⟨run.endpoint operation, ?_, buildUrl_eq_iff.mpr hsame⟩
      rw [← hmethod, ← hname]
      exact .operation operation hlast
    · exact ⟨action.endpoint, .action name action haction hunnamed, rfl⟩

/-- **A registry is faithful after a discovery exactly if the names of the operations are unambiguous.** -/
theorem faithful_iff : run.Faithful ↔ run.Unambiguous := by
  refine ⟨?_, Discovery.Unambiguous.faithful⟩
  rintro ⟨account, response, hok, hoperations, hmanual⟩
  obtain ⟨found, hfound⟩ := @restDiscover_ok run
  obtain rfl : registered run = account :=
    congrArg Prod.fst (Except.ok.inj (hfound.symm.trans hok))
  have hkept : ∀ operation ∈ run.operations, ∀ rest, run.Scoped operation rest →
      ∃ name endpoint, run.Kept name endpoint (upper operation.method) ∧
        (rstripSlash run.account.baseUrl = run.account.baseUrl ∧
          rstripSlash run.account.pathPrefix = run.account.pathPrefix) ∧
        endpoint ≠ "" ∧ (lstripSlash endpoint).toList = rest := by
    intro operation hmem rest hscoped
    obtain ⟨name, hsends⟩ := hoperations operation hmem ⟨rest, hscoped⟩
    obtain ⟨endpoint, hkept, hurl⟩ := sends_iff.mp hsends
    exact ⟨name, endpoint, hkept, (buildUrl_eq_path hscoped).mp hurl⟩
  constructor
  · rintro operation hmem ⟨rest, hscoped⟩
    obtain ⟨_, _, _, hbare, -⟩ := hkept operation hmem rest hscoped
    exact hbare
  · intro operation hmem rest hscoped
    obtain ⟨name, endpoint, hentry, -, hrest⟩ := hkept operation hmem rest hscoped
    exact ⟨name, endpoint, hentry, hrest⟩
  · intro action name haction hsource operation hlast hname
    obtain ⟨endpoint, hentry, hurl⟩ := sends_iff.mp (hmanual name action haction hsource)
    obtain ⟨rfl, hmethod⟩ := kept_of_last hlast hname hentry
    exact ⟨hmethod.symm, buildUrl_eq_iff.mp hurl⟩

end Results

/-! ## A path with two methods -/

/-- A document with two operations under one path. -/
def ordersDocument : Dict :=
  [("openapi", .str "3.1.0"),
   ("paths", .dict [("/orders", .dict [("get", .dict []), ("post", .dict [])])])]

/-- `GET /orders`. -/
def getOrders : Operation :=
  ⟨"/orders", "get", []⟩

/-- `POST /orders`. -/
def postOrders : Operation :=
  ⟨"/orders", "post", []⟩

theorem orders_rooted :
    ∀ operation ∈ operationsOf [("/orders", .dict [("get", .dict []), ("post", .dict [])])],
      operation.path.toList.head? = some '/' := by
  decide

/-- An account that finds the document. -/
def ordersDiscovery : Discovery where
  functions := { str := fun _ => "3.1.0", base64 := id, profiles := [] }
  fetch := fun _ => some ordersDocument
  account := { name := "erp", baseUrl := "https://erp.example.com" }
  openapiUrl := ""
  generateAliases := true
  url := "https://erp.example.com/openapi.json"
  document := ordersDocument
  paths := [("/orders", .dict [("get", .dict []), ("post", .dict [])])]
  found := rfl
  hasPaths := rfl
  rooted := orders_rooted
  valid := by
    have hempty : ValidOperation [] := ⟨nofun, nofun, nofun, nofun⟩
    intro operation hmem
    have hoperations : operationsOf [("/orders", .dict [("get", .dict []), ("post", .dict [])])] =
        [getOrders, postOrders] := rfl
    rw [hoperations] at hmem
    rcases List.mem_cons.mp hmem with rfl | hrest
    · exact hempty
    · obtain rfl := List.mem_singleton.mp hrest
      exact hempty

/-- No name of the registry calls the first of the two. -/
theorem orders_unfaithful : ¬ordersDiscovery.Faithful := by
  rintro ⟨account, response, hok, hoperations, -⟩
  obtain ⟨found, hfound⟩ := @restDiscover_ok ordersDiscovery
  obtain rfl : registered ordersDiscovery = account :=
    congrArg Prod.fst (Except.ok.inj (hfound.symm.trans hok))
  have hmem : getOrders ∈ ordersDiscovery.operations := List.mem_cons_self
  obtain ⟨name, hsends⟩ := hoperations getOrders hmem ⟨"orders".toList, rfl⟩
  obtain ⟨endpoint, hkept, -⟩ := sends_iff.mp hsends
  have hget : upper getOrders.method = "GET" := by decide
  rw [hget] at hkept
  generalize hmethod : "GET" = method at hkept
  cases hkept with
  | operation operation hlast =>
      rcases List.mem_cons.mp hlast.mem with rfl | hpost
      · -- The later one of the two has the name.
        have hfirst := find_reverse_operations.mpr ⟨hlast, rfl⟩
        have hlater : ordersDiscovery.operations.reverse.find?
            (fun operation => ordersDiscovery.name operation = ordersDiscovery.name getOrders) =
            some postOrders := List.find?_cons_of_pos (decide_eq_true rfl)
        have hsame : postOrders.method = getOrders.method :=
          congrArg Operation.method (Option.some.inj (hlater.symm.trans hfirst))
        exact absurd hsame (by decide)
      · obtain rfl : operation = postOrders := List.mem_singleton.mp hpost
        exact absurd hmethod (by decide)
  | action name action haction _ => cases haction

end RestApi

end IntegrationPlatform
