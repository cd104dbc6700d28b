import IntegrationPlatform.Json.Fields
import IntegrationPlatform.Texts.Brackets
import IntegrationPlatform.Texts.PercentEncoding

/-!
# The URL of a request

`_build_url` replaces the placeholders in the path of a route one field after the other, in a path that has
values in it already, and takes the query and the headers out of what is left.
-/

namespace IntegrationPlatform

namespace Flows

/-- The functions on texts and files. -/
structure DispatchTexts where
  /-- `str(value)`. -/
  str : Value → String
  /-- `text.strip()`. -/
  strip : String → String
  /-- `text.lower()`. -/
  lower : String → String
  /-- `text.capitalize()`. -/
  capitalize : String → String
  /-- `json.dumps(value)`. -/
  dumps : Value → String
  /-- `base64.b64decode(text)`, or the text of its exception. -/
  b64decode : String → Except String (List UInt8)

def fieldToHeaderName (texts : DispatchTexts) (field : String) : String :=
  "X-" ++ "-".intercalate ((field.toList.splitOn '_').map fun part =>
    texts.capitalize (String.ofList part))

/-- The value is there, and is not `None`. -/
def given (value : Option Value) : Option Value :=
  value.filter fun
    | .null => false
    | _ => true

/-- The fields of a list are taken out of the body, under their names and as they are sent. -/
def takeFields {α : Type} (name : String → String) (send : Value → α) :
    List String → Assoc α → Dict → Assoc α × Dict
  | [], taken, body => (taken, body)
  | field :: fields, taken, body =>
      takeFields name send fields
        (match given (body.find field) with
          | some value => taken.put (name field) (send value)
          | none => taken)
        (body.filter fun entry => entry.1 ≠ field)

variable {α : Type}

theorem takeFields_rest (name : String → String) (send : Value → α) (fields : List String)
    (taken : Assoc α) (body : Dict) :
    (takeFields name send fields taken body).2 = body.filter fun entry => decide (entry.1 ∉ fields) := by
  induction fields generalizing taken body with
  | nil => simp [takeFields]
  | cons field fields ih =>
      rw [takeFields, ih, List.filter_filter]
      refine List.filter_congr fun entry _ => ?_
      by_cases hfield : entry.1 = field <;> simp [hfield]

theorem find_takeFields (fields : List String) (taken body : Dict) (key : String) :
    (takeFields id id fields taken body).1.find key =
      if key ∈ fields then (given (body.find key)).or (taken.find key) else taken.find key := by
  induction fields generalizing taken body with
  | nil => rfl
  | cons field fields ih =>
      rw [takeFields, ih, Assoc.find_filter_key]
      by_cases hkey : key = field
      · subst hkey
        cases given (body.find key) <;> simp [Assoc.find_put, given]
      · have hne : field ≠ key := fun heq => hkey heq.symm
        cases given (body.find field) <;> simp [Assoc.find_put, hkey, hne]

theorem takeFields_eq_iff (fields : List String) (body body' : Dict) :
    (takeFields id id fields [] body).1 = (takeFields id id fields [] body').1 ↔
      ∀ key ∈ fields, given (body.find key) = given (body'.find key) := by
  constructor
  · intro heq key hkey
    have h := congrArg (fun taken => Assoc.find taken key) heq
    simpa only [find_takeFields, if_pos hkey, Assoc.find, Option.or_none] using h
  · have hall : ∀ taken body body' : Dict,
        (∀ key ∈ fields, given (body.find key) = given (body'.find key)) →
        (takeFields id id fields taken body).1 = (takeFields id id fields taken body').1 := by
      induction fields with
      | nil => exact fun _ _ _ _ => rfl
      | cons field fields ih =>
          intro taken body body' h
          rw [takeFields, takeFields, h field List.mem_cons_self]
          refine ih _ _ _ fun key hkey => ?_
          rw [Assoc.find_filter_key, Assoc.find_filter_key]
          split
          · rfl
          · exact h key (List.mem_cons_of_mem _ hkey)
    exact hall [] body body'

end Flows

namespace Routing

open Substitution Percent

/-- An entry of `action_routes`, with its path as it is written. -/
structure RouteEntry where
  path : String
  queryFromPayload : List String := []
  headerFromPayload : List String := []

/-- What `_build_url` returns: the path, the query parameters, the extra headers and the body. -/
structure UrlParts where
  path : List Char
  queryParams : Dict
  extraHeaders : Assoc String
  body : Dict

/-- The placeholder of a field. -/
def placeholder (key : String) : List Char :=
  bracketed '\x7b' '\x7d' key.toList

variable (texts : Flows.DispatchTexts)

/-- `urllib.parse.quote(str(value), safe="")`. -/
def written (value : Value) : List Char :=
  quote (texts.str value)

/-- The loop over the fields: one whose placeholder is in the path is taken out of the body and put in. -/
def takePath : Dict → List Char → Dict → List Char × Dict
  | [], path, body => (path, body)
  | (key, value) :: rest, path, body =>
      if placeholder key <:+: path then
        takePath rest (replace (placeholder key) (written texts value) path)
          (body.filter fun entry => entry.1 ≠ key)
      else takePath rest path body

/-- `_build_url`, without the address of the service. -/
def buildUrl (route : RouteEntry) (payload : Dict) : UrlParts :=
  let (path, body) := takePath texts payload route.path.toList payload
  let (queryParams, body) := Flows.takeFields id id route.queryFromPayload [] body
  let (extraHeaders, body) := Flows.takeFields (Flows.fieldToHeaderName texts) texts.str
    route.headerFromPayload [] body
  ⟨path, queryParams, extraHeaders, body⟩

theorem takePath_body (entries : Dict) (path : List Char) (body : Dict) :
    ∃ keeps : String → Bool, (takePath texts entries path body).2 = body.filter fun entry => keeps entry.1 := by
  induction entries generalizing path body with
  | nil => exact ⟨fun _ => true, (List.filter_true body).symm⟩
  | cons entry rest ih =>
      rw [takePath]
      split
      · obtain ⟨keeps, hkeeps⟩ := ih (replace (placeholder entry.1) (written texts entry.2) path)
          (body.filter fun field => field.1 ≠ entry.1)
        exact ⟨fun key => keeps key && decide (key ≠ entry.1), by rw [hkeeps, List.filter_filter]⟩
      · exact ih path body

theorem buildUrl_body (route : RouteEntry) (payload : Dict) :
    ∃ keeps : String → Bool,
      (buildUrl texts route payload).body = payload.filter fun entry => keeps entry.1 := by
  obtain ⟨keeps, hkeeps⟩ := takePath_body texts payload route.path.toList payload
  refine ⟨fun key => decide (key ∉ route.headerFromPayload) &&
    (decide (key ∉ route.queryFromPayload) && keeps key), ?_⟩
  unfold buildUrl
  simp only [Flows.takeFields_rest, hkeeps, List.filter_filter]

end Routing

end IntegrationPlatform
