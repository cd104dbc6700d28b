import IntegrationPlatform.Integrators.RestClient
import IntegrationPlatform.Json.Fields
import IntegrationPlatform.OAuth.SignatureBase
import IntegrationPlatform.Texts.HmacSha256

/-!
# Signed requests of the WooCommerce connector

`WooCommerceClient.request` for a store without TLS: the OAuth parameters that `WooCommerceAuth` makes of a URL,
and the requests that are sent with them. The HTTP client is given. Read `signatures_iff` first: the signatures
are those of the requests exactly if the parameters of a request are those of its path, the URI is spelled as it
is signed, and encoding keeps the order of the names.
-/

namespace IntegrationPlatform

namespace WooCommerce

open OAuth1
open RestApi (lstripSlash rstripSlash upper)

/-! ## Accounts -/

/-- An account of `WooCommerceAuth`. -/
structure Account where
  storeUrl : String
  consumerKey : String
  consumerSecret : String
  apiVersion : String := "wc/v3"

def registerAccount (storeUrl consumerKey consumerSecret apiVersion : String) : Account where
  storeUrl := rstripSlash storeUrl
  consumerKey := consumerKey
  consumerSecret := consumerSecret
  apiVersion := apiVersion

def getBaseUrl (account : Account) : String :=
  account.storeUrl ++ "/wp-json/" ++ account.apiVersion

/-- `text.startswith("https")`. -/
def startsHttps (text : String) : Bool :=
  "https".toList.isPrefixOf text.toList

def getBasicAuth (account : Account) : Option (String × String) :=
  if startsHttps account.storeUrl then some (account.consumerKey, account.consumerSecret) else none

/-! ## URLs -/

/-- A URL that is parsed, on its letters. -/
structure ParsedUrl where
  scheme : List Char
  netloc : List Char
  path : List Char
  query : List Char

/-- The scheme of a URL in lower case, and what follows it. -/
def splitScheme (text : List Char) : List Char × List Char :=
  let before := text.takeWhile (· ≠ ':')
  match before, text.drop before.length with
  | first :: _, ':' :: rest =>
      if first.isAlpha ∧ before.all (fun letter => letter.isAlphanum || letter ∈ ['+', '-', '.']) then
        (before.map Char.toLower, rest)
      else ([], text)
  | _, _ => ([], text)

/-- The authority of a URL, and what follows it. -/
def splitNetloc : List Char → List Char × List Char
  | '/' :: '/' :: rest =>
      let netloc := rest.takeWhile (· ∉ ['/', '?', '#'])
      (netloc, rest.drop netloc.length)
  | text => ([], text)

/-- `_splitparams(path)[0]`: the last segment of a path ends at its first semicolon. -/
def withoutParams (path : List Char) : List Char :=
  let last := (path.reverse.takeWhile (· ≠ '/')).reverse
  path.take (path.length - last.length) ++ last.takeWhile (· ≠ ';')

def urlparse (url : String) : ParsedUrl :=
  let text := (url.toList.dropWhile (fun letter => letter ≤ ' ')).filter (· ∉ ['\t', '\r', '\n'])
  let (scheme, rest) := splitScheme text
  let (netloc, rest) := splitNetloc rest
  let rest := rest.takeWhile (· ≠ '#')
  let path := rest.takeWhile (· ≠ '?')
  { scheme, netloc, path := withoutParams path, query := rest.drop (path.length + 1) }

/-- A character of UTF-8 that is begun: its value so far, how many bytes are missing, and the bounds of the
next one. -/
structure Pending where
  value : Nat
  missing : Nat
  low : UInt8
  high : UInt8

/-- What a byte begins. -/
def pendingOf (byte : UInt8) : Option Pending :=
  if 0xC2 ≤ byte ∧ byte ≤ 0xDF then some ⟨byte.toNat % 32, 1, 0x80, 0xBF⟩
  else if byte = 0xE0 then some ⟨0, 2, 0xA0, 0xBF⟩
  else if byte = 0xED then some ⟨13, 2, 0x80, 0x9F⟩
  else if 0xE1 ≤ byte ∧ byte ≤ 0xEF then some ⟨byte.toNat % 16, 2, 0x80, 0xBF⟩
  else if byte = 0xF0 then some ⟨0, 3, 0x90, 0xBF⟩
  else if byte = 0xF4 then some ⟨4, 3, 0x80, 0x8F⟩
  else if 0xF1 ≤ byte ∧ byte ≤ 0xF3 then some ⟨byte.toNat % 8, 3, 0x80, 0xBF⟩
  else none

/-- `bytes.decode("utf-8", "replace")`, after what is begun. -/
def decodeReplace : Option Pending → List UInt8 → List Char
  | none, [] => []
  | some _, [] => [Char.ofNat 0xFFFD]
  | pending, byte :: rest =>
      -- The byte on its own, after what was begun is replaced.
      let fresh : List Char × Option Pending :=
        if byte < 0x80 then ([Char.ofNat byte.toNat], none)
        else
          match pendingOf byte with
          | some begun => ([], some begun)
          | none => ([Char.ofNat 0xFFFD], none)
      let next : List Char × Option Pending :=
        match pending with
        | none => fresh
        | some begun =>
            if begun.low ≤ byte ∧ byte ≤ begun.high then
              let value := begun.value * 64 + byte.toNat % 64
              if begun.missing = 1 then ([Char.ofNat value], none)
              else ([], some ⟨value, begun.missing - 1, 0x80, 0xBF⟩)
            else (Char.ofNat 0xFFFD :: fresh.1, fresh.2)
      next.1 ++ decodeReplace next.2 rest

/-- `unquote(text.replace("+", " "))`. -/
def unquotePlus (text : List Char) : String :=
  String.ofList (decodeReplace none
    (Percent.percentDecode (text.map fun letter => if letter = '+' then ' ' else letter)))

/-- `parse_qsl(query, keep_blank_values=True)`. -/
def parseQsl (query : List Char) : List (String × String) :=
  ((query.splitOn '&').filter (· ≠ [])).map fun piece =>
    let name := piece.takeWhile (· ≠ '=')
    (unquotePlus name, unquotePlus (piece.drop (name.length + 1)))

/-- The first value of each name. -/
def firstValues (pairs : List (String × String)) : Assoc String :=
  pairs.foldl (fun values pair => if values.has pair.1 then values else values.put pair.1 pair.2) []

/-! ## Signatures -/

/-- The time and the nonce of a signature. -/
structure Stamp where
  timestamp : Nat
  nonce : String

/-- The OAuth parameters that are signed. -/
def oauthParams (account : Account) (stamp : Stamp) : Assoc String :=
  [("oauth_consumer_key", account.consumerKey),
   ("oauth_nonce", stamp.nonce),
   ("oauth_signature_method", "HMAC-SHA256"),
   ("oauth_timestamp", toString stamp.timestamp)]

/-- The names of the OAuth parameters that are signed. -/
def oauthNames : List String :=
  ["oauth_consumer_key", "oauth_nonce", "oauth_signature_method", "oauth_timestamp"]

/-- `all_params`: the first values of the query of a URL, and the OAuth parameters. -/
def allParams (account : Account) (stamp : Stamp) (url : String) : Assoc String :=
  (firstValues (parseQsl (urlparse url).query)).merge (oauthParams account stamp)

/-- `base_url` of a signature: a URL without its query. -/
def signedUri (url : String) : String :=
  String.ofList ((urlparse url).scheme ++ "://".toList ++ (urlparse url).netloc ++ (urlparse url).path)

/-- The text that is signed. -/
def signatureBase (account : Account) (method url : String) (stamp : Stamp) : String :=
  baseString (upper method) (signedUri url)
    (joinPairs (((allParams account stamp url).insertionSort pairLe).map encodePair))

/-- The HMAC-SHA256 of a text under the encoded secret and an ampersand, in Base64. -/
def signature (consumerSecret text : String) : String :=
  String.ofList (Base64.encode (Hmac.hmacSha256 (Percent.utf8 (percentEncode consumerSecret ++ "&"))
    (Percent.utf8 text)))

def buildOauthParams (account : Account) (method url : String) (stamp : Stamp) : Assoc String :=
  (oauthParams account stamp).put "oauth_signature"
    (signature account.consumerSecret (signatureBase account method url stamp))

def getAuthParams (account : Account) (method url : String) (stamp : Stamp) : Option (Assoc String) :=
  if startsHttps url then none else some (buildOauthParams account method url stamp)

/-! ## Requests -/

/-- The text of a primitive value among parameters. -/
def primitiveText (str : Value → String) : Value → String
  | .bool true => "true"
  | .bool false => "false"
  | .null => ""
  | .str text => text
  | value => str value

/-- The parameters of a name, one for each value of a list. -/
def itemsOf (str : Value → String) : String × Value → List (String × String)
  | (name, .list items) => items.map fun item => (name, primitiveText str item)
  | (name, value) => [(name, primitiveText str value)]

/-- The parameters of a dictionary. -/
def multiItems (str : Value → String) (params : Assoc Value) : List (String × String) :=
  params.flatMap (itemsOf str)

/-- An HTTP client: `str`, the URI of what is requested for a base URL and a path, by its scheme, authority and
path, and the parameters of its query. Parameters that are given take the place of those of the path. -/
structure HttpClient where
  str : Value → String
  uri : (baseUrl path : String) → String
  query : (path : String) → (params : Assoc Value) → List (String × String)
  query_given : ∀ path params, multiItems str params ≠ [] → query path params = multiItems str params

/-- A request that is sent. -/
structure Sent where
  method : String
  uri : String
  query : List (String × String)

/-- What comes of a request: a response with a status and what `int` makes of its `Retry-After`, or what is
raised. -/
inductive Reply where
  | response (status : Nat) (retryAfter : Except String Int)
  | raised (message : String)

/-- What `request` raises: a `WooCommerceApiError`, or another exception. -/
inductive Raised where
  | api (statusCode : Nat) (message : String)
  | other (message : String)

/-- A call of `request` for an account of a store without TLS. -/
structure Call where
  account : Account
  method : String
  path : String
  params : Assoc Value := []
  http : "http://".toList <+: account.storeUrl.toList
  distinct : (params.map Prod.fst).Nodup

namespace Call

variable (call : Call) (client : HttpClient)

def fullUrl : String :=
  getBaseUrl call.account ++ "/" ++ lstripSlash call.path

/-- `request_params`, with the OAuth parameters. -/
def requestParams (oauth : Option (Assoc String)) : Assoc Value :=
  match oauth with
  | some oauth => call.params.merge (oauth.map fun (name, value) => (name, .str value))
  | none => call.params

/-- The request of an attempt. -/
def sentAt (stamp : Stamp) : Sent where
  method := upper call.method
  uri := client.uri (getBaseUrl call.account) call.path
  query := client.query call.path
    (call.requestParams (getAuthParams call.account call.method call.fullUrl stamp))

/-- `WooCommerceClient.request`: the requests that are sent, and the status of the response or what is
raised. -/
def request (maxRetries : Nat) (stamps : Nat → Stamp) (replies : Nat → Reply) :
    (remaining attempt : Nat) → List Sent × Except Raised Nat
  | 0, _ => ([], .error (.api 0 ("Request failed after " ++ toString maxRetries ++ " retries")))
  | remaining + 1, attempt =>
      let sent := call.sentAt client (stamps attempt)
      let again := request maxRetries stamps replies remaining (attempt + 1)
      match replies attempt with
      | .raised message => ([sent], .error (.other message))
      | .response 401 _ =>
          if remaining = 0 then
            ([sent], .error (.api 401 "Authentication failed — invalid consumer key or secret"))
          else (sent :: again.1, again.2)
      | .response 429 (.error message) => ([sent], .error (.other message))
      | .response 429 (.ok _) => (sent :: again.1, again.2)
      | .response status _ => ([sent], .ok status)

end Call

/-! ## The law -/

/-- The parameters of a request but for its signature. -/
def Sent.unsigned (sent : Sent) : List (String × String) :=
  sent.query.filter fun pair => pair.1 ≠ "oauth_signature"

/-- The base string of a request that is sent. -/
def Sent.base (sent : Sent) : String :=
  baseString sent.method sent.uri (normalized sent.unsigned)

/-- The request has one signature, and it is that of its base string. -/
def Sent.Signed (consumerSecret : String) (sent : Sent) : Prop :=
  sent.query.filter (fun pair => pair.1 = "oauth_signature") =
    [("oauth_signature", signature consumerSecret sent.base)]

namespace Call

variable (call : Call) (client : HttpClient)

/-- The parameters that are given, but for those of OAuth. -/
def given : List (String × String) :=
  (multiItems client.str call.params).filter fun pair => pair.1 ∉ oauthNames ++ ["oauth_signature"]

/-- The parameters of the path, but for those of OAuth that are signed. -/
def inPath : List (String × String) :=
  (firstValues (parseQsl (urlparse call.fullUrl).query)).filter fun pair => pair.1 ∉ oauthNames

/-- What is signed is what is sent: the URI is spelled alike, the parameters that are given are those of the
path, and encoding keeps the order of their names. -/
structure Agrees : Prop where
  uri : signedUri call.fullUrl = client.uri (getBaseUrl call.account) call.path
  params : (call.inPath).Perm (call.given client)
  order : KeepsOrder (call.inPath.map Prod.fst ++ oauthNames)

/-- What is signed differs from the base string of what is sent, and has its signature. -/
def Collides (stamp : Stamp) : Prop :=
  signatureBase call.account call.method call.fullUrl stamp ≠ (call.sentAt client stamp).base ∧
    signature call.account.consumerSecret (signatureBase call.account call.method call.fullUrl stamp) =
      signature call.account.consumerSecret (call.sentAt client stamp).base

end Call

section Results

variable {call : Call} {client : HttpClient} {stamp : Stamp}

/-! ## Dictionaries -/

theorem put_perm {α : Type} {fields : Assoc α} (h : (fields.map Prod.fst).Nodup) (key : String)
    (value : α) : (fields.put key value).Perm (fields.filter (fun field => field.1 ≠ key) ++ [(key, value)]) := by
  induction fields with
  | nil => exact .refl _
  | cons field fields ih =>
      rw [List.map_cons, List.nodup_cons] at h
      by_cases hkey : field.1 = key
      · have hrest : fields.filter (fun field => field.1 ≠ key) = fields := by
          refine List.filter_eq_self.mpr fun other hmem => decide_eq_true fun hother => h.1 ?_
          rw [hkey, ← hother]
          exact List.mem_map_of_mem hmem
        rw [Assoc.put, if_pos hkey, List.filter_cons_of_neg (by simp [hkey]), hrest]
        exact (List.perm_append_singleton _ _).symm
      · rw [Assoc.put, if_neg hkey, List.filter_cons_of_pos (by simp [hkey]), List.cons_append]
        exact (ih h.2).cons _

theorem merge_perm {α : Type} {left right : Assoc α} (hleft : (left.map Prod.fst).Nodup)
    (hright : (right.map Prod.fst).Nodup) :
    (left.merge right).Perm (left.filter (fun field => field.1 ∉ right.map Prod.fst) ++ right) := by
  induction right generalizing left with
  | nil => simp [Assoc.merge]
  | cons field right ih =>
      rw [List.map_cons, List.nodup_cons] at hright
      have hstep : left.merge (field :: right) = (left.put field.1 field.2).merge right := rfl
      have hput := (put_perm hleft field.1 field.2).filter fun other => other.1 ∉ right.map Prod.fst
      have hfield : [field].filter (fun other => other.1 ∉ right.map Prod.fst) = [field] :=
        List.filter_cons_of_pos (by simpa using hright.1)
      have hkept : (left.filter (fun other => other.1 ≠ field.1)).filter
          (fun other => other.1 ∉ right.map Prod.fst) =
          left.filter (fun other => other.1 ∉ (field :: right).map Prod.fst) := by
        rw [List.filter_filter]
        refine List.filter_congr fun other _ => ?_
        by_cases hother : other.1 = field.1 <;> simp [hother]
      rw [List.filter_append, hfield, hkept] at hput
      rw [hstep]
      refine (ih (Assoc.nodup_put hleft field.1 field.2) hright.2).trans ?_
      refine (hput.append_right right).trans ?_
      rw [List.append_assoc]
      rfl

theorem nodup_firstValues (pairs : List (String × String)) :
    ((firstValues pairs).map Prod.fst).Nodup := by
  have hwrites : ∀ values : Assoc String, (values.map Prod.fst).Nodup →
      ((pairs.foldl (fun values pair =>
        if values.has pair.1 then values else values.put pair.1 pair.2) values).map Prod.fst).Nodup := by
    induction pairs with
    | nil => exact fun _ h => h
    | cons pair pairs ih =>
        intro values h
        refine ih _ ?_
        show ((if values.has pair.1 then values else values.put pair.1 pair.2).map Prod.fst).Nodup
        split
        · exact h
        · exact Assoc.nodup_put h _ _
  exact hwrites [] List.nodup_nil

theorem name_of_mem_itemsOf {str : Value → String} {field : String × Value} {pair : String × String}
    (h : pair ∈ itemsOf str field) : pair.1 = field.1 := by
  obtain ⟨name, value⟩ := field
  cases value with
  | list items =>
      obtain ⟨item, -, rfl⟩ := List.mem_map.mp h
      rfl
  | _ => rw [List.mem_singleton.mp h]

theorem multiItems_filter (str : Value → String) (params : Assoc Value) (kept : String → Bool) :
    multiItems str (params.filter fun field => kept field.1) =
      (multiItems str params).filter fun pair => kept pair.1 := by
  unfold multiItems
  induction params with
  | nil => rfl
  | cons field params ih =>
      rw [List.flatMap_cons, List.filter_append, ← ih]
      by_cases hkept : kept field.1 = true
      · have hall : (itemsOf str field).filter (fun pair => kept pair.1) = itemsOf str field :=
          List.filter_eq_self.mpr fun pair hmem => by rw [name_of_mem_itemsOf hmem, hkept]
        have hcons : (field :: params).filter (fun field => kept field.1) =
            field :: params.filter fun field => kept field.1 := List.filter_cons_of_pos hkept
        rw [hcons, List.flatMap_cons, hall]
      · have hnone : (itemsOf str field).filter (fun pair => kept pair.1) = [] :=
          List.filter_eq_nil_iff.mpr fun pair hmem => by rwa [name_of_mem_itemsOf hmem]
        have hcons : (field :: params).filter (fun field => kept field.1) =
            params.filter fun field => kept field.1 := List.filter_cons_of_neg hkept
        rw [hcons, hnone, List.nil_append]

/-! ## What is signed, and what is sent -/

theorem startsHttps_fullUrl : startsHttps call.fullUrl = false := by
  obtain ⟨rest, hrest⟩ := call.http
  have hletters : call.fullUrl.toList = 'h' :: 't' :: 't' :: 'p' :: ':' :: ('/' :: '/' :: rest ++
      ("/wp-json/" ++ call.account.apiVersion ++ "/" ++ lstripSlash call.path).toList) := by
    simp only [Call.fullUrl, getBaseUrl, String.toList_append, ← hrest, List.append_assoc]
    rfl
  rw [startsHttps, hletters]
  rfl

theorem names_oauthParams (account : Account) (stamp : Stamp) :
    (oauthParams account stamp).map Prod.fst = oauthNames := rfl

theorem allParams_perm : (allParams call.account stamp call.fullUrl).Perm
    (call.inPath ++ oauthParams call.account stamp) := by
  have hnames : ((oauthParams call.account stamp).map Prod.fst).Nodup := by
    rw [names_oauthParams]
    decide
  have hperm := merge_perm (nodup_firstValues (parseQsl (urlparse call.fullUrl).query)) hnames
  rwa [names_oauthParams] at hperm

theorem buildOauthParams_eq (account : Account) (method url : String) (stamp : Stamp) :
    buildOauthParams account method url stamp = oauthParams account stamp ++
      [("oauth_signature", signature account.consumerSecret (signatureBase account method url stamp))] := by
  simp [buildOauthParams, oauthParams, Assoc.put]

/-- The parameters that are sent are those that are given and those of OAuth. -/
theorem sent_query_perm : (call.sentAt client stamp).query.Perm
    (call.given client ++ (oauthParams call.account stamp ++
      [("oauth_signature", signature call.account.consumerSecret
        (signatureBase call.account call.method call.fullUrl stamp))])) := by
  have hsigned := buildOauthParams_eq call.account call.method call.fullUrl stamp
  generalize hsignature : signature call.account.consumerSecret
    (signatureBase call.account call.method call.fullUrl stamp) = text at hsigned ⊢
  have hauth : getAuthParams call.account call.method call.fullUrl stamp =
      some (oauthParams call.account stamp ++ [("oauth_signature", text)]) := by
    rw [getAuthParams, startsHttps_fullUrl, if_neg Bool.false_ne_true, hsigned]
  -- As parameters of the request, the OAuth parameters are texts.
  generalize hvalues : ((oauthParams call.account stamp ++ [("oauth_signature", text)]).map
      fun (name, value) => (name, Value.str value)) = values
  have hnames : values.map Prod.fst = oauthNames ++ ["oauth_signature"] := hvalues ▸ rfl
  have htexts : multiItems client.str values =
      oauthParams call.account stamp ++ [("oauth_signature", text)] := hvalues ▸ rfl
  have hnodup : (values.map Prod.fst).Nodup := by
    rw [hnames]
    decide
  have hmerge : (multiItems client.str (call.params.merge values)).Perm
      (call.given client ++ (oauthParams call.account stamp ++ [("oauth_signature", text)])) := by
    have hfields := (merge_perm call.distinct hnodup).flatMap_right (itemsOf client.str)
    rw [List.flatMap_append, hnames] at hfields
    have hgiven : (call.params.filter fun field => field.1 ∉ oauthNames ++ ["oauth_signature"]).flatMap
        (itemsOf client.str) = call.given client :=
      multiItems_filter client.str call.params fun name => name ∉ oauthNames ++ ["oauth_signature"]
    rw [hgiven] at hfields
    rw [← htexts]
    exact hfields
  have hparams : call.requestParams (getAuthParams call.account call.method call.fullUrl stamp) =
      call.params.merge values := by
    rw [hauth, ← hvalues]
    rfl
  have hne : multiItems client.str (call.params.merge values) ≠ [] := by
    intro hnil
    rw [hnil] at hmerge
    have hlength := hmerge.length_eq
    simp at hlength
  show (client.query call.path _).Perm _
  rw [hparams, client.query_given _ _ hne]
  exact hmerge

theorem filter_perm {query first second : List (String × String)} {kept : String × String → Bool}
    (hquery : query.Perm (first ++ second)) (hfirst : ∀ pair ∈ first, kept pair = true)
    (hsecond : ∀ pair ∈ second, ¬kept pair = true) : (query.filter kept).Perm first := by
  have hfilter := hquery.filter kept
  rwa [List.filter_append, List.filter_eq_self.mpr hfirst, List.filter_eq_nil_iff.mpr hsecond,
    List.append_nil] at hfilter

theorem name_ne_signature {pair : String × String}
    (h : pair ∈ call.given client ++ oauthParams call.account stamp) : pair.1 ≠ "oauth_signature" := by
  rcases List.mem_append.mp h with hgiven | hoauth
  · intro hname
    have hnot := of_decide_eq_true (List.mem_filter.mp hgiven).2
    exact hnot (List.mem_append_right _ (hname ▸ List.mem_singleton_self _))
  · have hmem : pair.1 ∈ oauthNames := names_oauthParams call.account stamp ▸ List.mem_map_of_mem hoauth
    intro hname
    rw [hname] at hmem
    exact absurd hmem (by decide)

theorem unsigned_perm : (call.sentAt client stamp).unsigned.Perm
    (call.given client ++ oauthParams call.account stamp) := by
  have hquery := @sent_query_perm call client stamp
  rw [← List.append_assoc] at hquery
  refine filter_perm hquery (fun pair hmem => decide_eq_true (name_ne_signature hmem)) ?_
  intro pair hmem hkept
  rw [List.mem_singleton.mp hmem] at hkept
  exact of_decide_eq_true hkept rfl

theorem signatures_eq : (call.sentAt client stamp).query.filter (fun pair => pair.1 = "oauth_signature") =
    [("oauth_signature", signature call.account.consumerSecret
      (signatureBase call.account call.method call.fullUrl stamp))] := by
  have hquery := @sent_query_perm call client stamp
  rw [← List.append_assoc] at hquery
  refine List.perm_singleton.mp (filter_perm (hquery.trans List.perm_append_comm) ?_ ?_)
  · intro pair hmem
    rw [List.mem_singleton.mp hmem]
    exact decide_eq_true rfl
  · intro pair hmem hkept
    exact name_ne_signature hmem (of_decide_eq_true hkept)

theorem signatureBase_eq_iff :
    signatureBase call.account call.method call.fullUrl stamp = (call.sentAt client stamp).base ↔
      call.Agrees client := by
  have hall := @allParams_perm call stamp
  have hkeys : ((allParams call.account stamp call.fullUrl).map Prod.fst).Perm
      (call.inPath.map Prod.fst ++ oauthNames) := by
    have hmap := hall.map Prod.fst
    rwa [List.map_append, names_oauthParams] at hmap
  have hnodup : ((allParams call.account stamp call.fullUrl).map Prod.fst).Nodup :=
    Assoc.nodup_merge (nodup_firstValues _) _
  have hparams : (allParams call.account stamp call.fullUrl).Perm (call.sentAt client stamp).unsigned ↔
      call.inPath.Perm (call.given client) := by
    rw [hall.congr_left, unsigned_perm.congr_right, List.perm_append_right_iff]
  show baseString (upper call.method) _ _ = baseString (upper call.method)
    (client.uri (getBaseUrl call.account) call.path) (normalized _) ↔ _
  rw [baseString_eq_iff, joinPairs_eq_normalized hnodup, hparams, keepsOrder_perm hkeys]
  exact ⟨fun h => ⟨h.1, h.2.1, h.2.2⟩, fun h => ⟨h.uri, h.params, h.order⟩⟩

theorem signed_sentAt_iff : (call.sentAt client stamp).Signed call.account.consumerSecret ↔
    call.Agrees client ∨ call.Collides client stamp := by
  rw [Sent.Signed, signatures_eq, ← @signatureBase_eq_iff call client stamp]
  constructor
  · intro h
    have hsame := congrArg Prod.snd (List.cons.inj h).1
    by_cases hbase : signatureBase call.account call.method call.fullUrl stamp =
        (call.sentAt client stamp).base
    · exact .inl hbase
    · exact .inr ⟨hbase, hsame⟩
  · rintro (hbase | ⟨-, hsame⟩)
    · rw [hbase]
    · rw [hsame]

/-! ## All attempts -/

theorem request_sent (maxRetries : Nat) (stamps : Nat → Stamp) (replies : Nat → Reply)
    (remaining attempt : Nat) :
    (call.request client maxRetries stamps replies remaining attempt).1 =
      (List.range' attempt (call.request client maxRetries stamps replies remaining attempt).1.length).map
        fun attempt => call.sentAt client (stamps attempt) := by
  induction remaining generalizing attempt with
  | zero => rfl
  | succ remaining ih =>
      have hagain : call.sentAt client (stamps attempt) ::
          (call.request client maxRetries stamps replies remaining (attempt + 1)).1 =
          (List.range' attempt ((call.request client maxRetries stamps replies remaining
            (attempt + 1)).1.length + 1)).map fun attempt => call.sentAt client (stamps attempt) := by
        rw [List.range'_succ, List.map_cons, ← ih]
      rw [Call.request]
      split
      · rfl
      · split
        · rfl
        · exact hagain
      · rfl
      · exact hagain
      · rfl

/-- **The requests of a call have their signatures exactly if what is signed agrees with what is sent, or
collides with it in each attempt that is made.** -/
theorem signatures_iff (maxRetries : Nat) (stamps : Nat → Stamp) (replies : Nat → Reply) :
    (∀ sent ∈ (call.request client maxRetries stamps replies maxRetries 0).1,
      sent.Signed call.account.consumerSecret) ↔
    call.Agrees client ∨
      ∀ attempt < (call.request client maxRetries stamps replies maxRetries 0).1.length,
        call.Collides client (stamps attempt) := by
  have hsent := @request_sent call client maxRetries stamps replies maxRetries 0
  have hattempts : (∀ sent ∈ (call.request client maxRetries stamps replies maxRetries 0).1,
      sent.Signed call.account.consumerSecret) ↔
      ∀ attempt < (call.request client maxRetries stamps replies maxRetries 0).1.length,
        call.Agrees client ∨ call.Collides client (stamps attempt) := by
    generalize (call.request client maxRetries stamps replies maxRetries 0).1.length = made at hsent ⊢
    rw [hsent, List.forall_mem_map]
    refine forall_congr' fun attempt => ?_
    rw [List.mem_range'_1, signed_sentAt_iff]
    simp
  rw [hattempts]
  constructor
  · intro h
    by_cases hagrees : call.Agrees client
    · exact .inl hagrees
    · exact .inr fun attempt hlt => (h attempt hlt).resolve_left hagrees
  · rintro (hagrees | hcollides) attempt hlt
    · exact .inl hagrees
    · exact .inr (hcollides attempt hlt)

end Results

/-! ## A page of orders -/

/-- A client that requests what it is given. -/
def plainClient : HttpClient where
  str
    | .int number => toString number
    | _ => ""
  uri := fun baseUrl path => baseUrl ++ "/" ++ lstripSlash path
  query := fun _ params => multiItems (fun
    | .int number => toString number
    | _ => "") params
  query_given := fun _ _ _ => rfl

/-- `list_orders` of a store without TLS. -/
def listOrders : Call where
  account := registerAccount "http://shop.example.com/" "ck_1" "cs_1" "wc/v3"
  method := "GET"
  path := "orders"
  params := [("per_page", .int 100), ("page", .int 1)]
  http := ⟨"shop.example.com".toList, by decide⟩
  distinct := by decide

/-- The parameters of the page are sent and not signed. -/
theorem listOrders_unsigned : ¬∀ sent ∈ (listOrders.request plainClient 3
    (fun _ => ⟨1767225600, "0123456789abcdef0123456789abcdef"⟩)
    (fun _ => .response 200 (.ok 5)) 3 0).1, sent.Signed listOrders.account.consumerSecret := by
  intro h
  have hsigned := h (listOrders.sentAt plainClient ⟨1767225600, "0123456789abcdef0123456789abcdef"⟩)
    List.mem_cons_self
  rcases signed_sentAt_iff.mp hsigned with hagrees | hcollides
  · have hlength := hagrees.params.length_eq
    exact absurd hlength (by decide +kernel)
  · have hcodes := String.ofList_injective hcollides.2
    unfold signatureBase Sent.base normalized at hcodes
    rw [utf8_baseString, utf8_baseString] at hcodes
    exact absurd hcodes (by decide +kernel)

end WooCommerce

end IntegrationPlatform
