import IntegrationPlatform.Gateway.Credentials
import IntegrationPlatform.Texts.Format

/-!
# Templates in OAuth2 configurations

`resolve_oauth2_config` takes every text of a configuration for a format string, also the credentials
that have been merged over it. `opaque_iff` says which secrets come out as they are: those in which
the parser finds neither an error nor a field with a name.
-/

namespace IntegrationPlatform

namespace OAuth

open Gateway (CredentialSet)
open Format

/-! ## `resolve_oauth2_config` -/

/-- What Python makes of values and of replacement fields. -/
structure ConfigFormats where
  /-- `str(value)`. -/
  str : Value → String
  /-- What `format_map` makes of a field that is not a name alone, or what it raises. -/
  special : Dict → Field → Except String (List Char)

/-- What `resolve_oauth2_config` raises. -/
inductive ResolveError where
  /-- A `ValueError` of the parser. -/
  | format (error : FormatError)
  /-- Missing OAuth2 config values, a `ValueError`. -/
  | missing (names : List String)
  /-- What `format_map` raises. -/
  | raises (message : String)
  deriving DecidableEq

/-- `isinstance(value, (str, int, float, bool))`. -/
def isScalar : Value → Bool
  | .str _ => true
  | .int _ => true
  | .float _ => true
  | .bool _ => true
  | _ => false

/-- `context`. -/
def contextOf (config : Dict) : Dict :=
  config.filter fun entry => isScalar entry.2

/-- The name of a field is the key of a value, and no path into one or position. -/
def isPlainName : List Char → Bool
  | [] => false
  | first :: rest => (first.isAlpha || first == '_') && rest.all fun letter => letter ≠ '.' && letter ≠ '['

/-- The names of the fields of a text. -/
def fieldNames (parsed : Parsed) : List String :=
  parsed.1.filterMap fun markup =>
    markup.field.bind fun field => if field.name.isEmpty then none else some (String.ofList field.name)

section Resolving

variable (formats : ConfigFormats) (context : Dict)

/-- A replacement field in `format_map`. -/
def renderField (field : Field) : Except ResolveError (List Char) :=
  if isPlainName field.name && field.conversion.isNone && field.spec.isEmpty then
    match context.find (String.ofList field.name) with
    | some value => .ok (formats.str value).toList
    | none => .error (.raises ("'" ++ String.ofList field.name ++ "'"))
  else
    match formats.special context field with
    | .ok shown => .ok shown
    | .error message => .error (.raises message)

/-- `_resolve`, of a text. -/
def resolveText (text : String) : Except ResolveError String :=
  let parsed := parse text.toList
  match parsed.2 with
  | some error => .error (.format error)
  | none =>
      let fields := fieldNames parsed
      if fields.isEmpty then .ok text
      else
        let missing := fields.filter fun field => !context.has field
        if missing.isEmpty then
          (format (renderField formats context) .format text.toList).map String.ofList
        else .error (.missing (missing.mergeSort fun left right => decide (left ≤ right)))

mutual

def resolve : Value → Except ResolveError Value
  | .str text => (resolveText formats context text).map .str
  | .dict fields => (resolveFields fields).map .dict
  | .list items => (resolveItems items).map .list
  | .null => .ok .null
  | .bool flag => .ok (.bool flag)
  | .int number => .ok (.int number)
  | .float number => .ok (.float number)

/-- The entries of an object, resolved. -/
def resolveFields : List (String × Value) → Except ResolveError (List (String × Value))
  | [] => .ok []
  | (key, value) :: rest =>
      (resolve value).bind fun resolved =>
        (resolveFields rest).map fun resolvedRest => (key, resolved) :: resolvedRest

/-- The items of a list, resolved. -/
def resolveItems : List Value → Except ResolveError (List Value)
  | [] => .ok []
  | item :: rest =>
      (resolve item).bind fun resolved =>
        (resolveItems rest).map fun resolvedRest => resolved :: resolvedRest

end

end Resolving

/-- `resolve_oauth2_config`. What it adds to the context in the end is not read. -/
def resolveOauth2Config (formats : ConfigFormats) (config : Dict) : Except ResolveError Dict :=
  resolveFields formats (contextOf config) config

/-- `{**oauth2_config, **credentials}`. -/
def mergedConfig (manifest : Dict) (credentials : CredentialSet) : Dict :=
  manifest.merge (credentials.entries.map fun entry => (entry.1, .str entry.2))

/-! ## Secrets and templates -/

/-- The parser finds neither an error nor a field with a name in the text. -/
def PlainText (text : String) : Prop :=
  (parse text.toList).2 = none ∧ fieldNames (parse text.toList) = []

/-- The text of the value of a name. -/
def valueOf (formats : ConfigFormats) (context : Dict) (name : List Char) : List Char :=
  (formats.str ((context.find (String.ofList name)).getD .null)).toList

/-- The names of a template are keys of the context. -/
def NamesConfigured (context : Dict) (template : Template) : Prop :=
  ∀ piece ∈ template.pieces,
    isPlainName piece.name = true ∧ context.has (String.ofList piece.name) = true

mutual

/-- The second value is the first one with every name of its templates replaced by its value. -/
inductive Filled (formats : ConfigFormats) (context : Dict) : Value → Value → Prop where
  | text (template : Template) : NamesConfigured context template →
      Filled formats context (.str (String.ofList template.spell))
        (.str (String.ofList (template.fill (valueOf formats context))))
  | null : Filled formats context .null .null
  | bool (flag : Bool) : Filled formats context (.bool flag) (.bool flag)
  | int (number : Int) : Filled formats context (.int number) (.int number)
  | float (number : Rat) : Filled formats context (.float number) (.float number)
  | list {items items' : List Value} :
      FilledItems formats context items items' → Filled formats context (.list items) (.list items')
  | dict {fields fields' : Dict} :
      FilledFields formats context fields fields' → Filled formats context (.dict fields) (.dict fields')

/-- So are the items of a list. -/
inductive FilledItems (formats : ConfigFormats) (context : Dict) : List Value → List Value → Prop where
  | nil : FilledItems formats context [] []
  | cons {item item' : Value} {rest rest' : List Value} : Filled formats context item item' →
      FilledItems formats context rest rest' → FilledItems formats context (item :: rest) (item' :: rest')

/-- So are the values of an object. -/
inductive FilledFields (formats : ConfigFormats) (context : Dict) : Dict → Dict → Prop where
  | nil : FilledFields formats context [] []
  | cons (key : String) {value value' : Value} {rest rest' : Dict} : Filled formats context value value' →
      FilledFields formats context rest rest' →
      FilledFields formats context ((key, value) :: rest) ((key, value') :: rest')

end

/-- The entries of a manifest that no credential replaces have templates whose names are configured. -/
structure Templated (formats : ConfigFormats) (manifest : Dict) (credentials : CredentialSet) : Prop where
  distinct : (manifest.map Prod.fst).Nodup
  filled : ∀ key value, credentials.find key = none → manifest.find key = some value →
    ∃ value', Filled formats (contextOf (mergedConfig manifest credentials)) value value'

/-- The resolved configuration has the credentials as they are, and the templates of the manifest with
their names replaced. -/
structure Resolves (formats : ConfigFormats) (manifest : Dict) (credentials : CredentialSet)
    (resolved : Dict) : Prop where
  secrets : ∀ key secret, credentials.find key = some secret → resolved.find key = some (.str secret)
  templates : ∀ key value, credentials.find key = none → manifest.find key = some value →
    ∃ value', Filled formats (contextOf (mergedConfig manifest credentials)) value value' ∧
      resolved.find key = some value'

/-- Every configuration with the secret among its credentials resolves, if the other credentials are
plain texts. -/
def Opaque (formats : ConfigFormats) (secret : String) : Prop :=
  ∀ (manifest : Dict) (credentials : CredentialSet) (key : String),
    Templated formats manifest credentials → credentials.find key = some secret →
      (∀ key' other, credentials.find key' = some other → key' ≠ key → PlainText other) →
        ∃ resolved, resolveOauth2Config formats (mergedConfig manifest credentials) = .ok resolved ∧
          Resolves formats manifest credentials resolved

section Results

variable {formats : ConfigFormats} {context : Dict}

theorem resolveText_of_plain {text : String} (h : PlainText text) :
    resolveText formats context text = .ok text := by
  unfold resolveText
  simp only [h.1, h.2]
  rfl

theorem fieldNames_markups (template : Template) :
    fieldNames (template.markups, none) =
      template.pieces.map fun piece => String.ofList piece.name := by
  obtain ⟨pieces, last, hlast⟩ := template
  unfold fieldNames Template.markups
  induction pieces with
  | nil => cases last <;> rfl
  | cons piece rest ih =>
      have hname : piece.name.isEmpty = false := List.isEmpty_eq_false_iff.mpr piece.named
      rw [List.map_cons, List.map_cons, List.cons_append, ← ih]
      refine List.filterMap_cons_some ?_
      show (if piece.name.isEmpty = true then none else some (String.ofList piece.name)) = _
      rw [hname]
      rfl

theorem renderField_plain {name : List Char} (hname : isPlainName name = true)
    (hhas : context.has (String.ofList name) = true) :
    renderField formats context { name } = .ok (valueOf formats context name) := by
  obtain ⟨value, hvalue⟩ := Option.isSome_iff_exists.mp hhas
  unfold renderField valueOf
  simp [hname, hvalue]

theorem resolveText_spell {template : Template} (h : NamesConfigured context template) :
    resolveText formats context (String.ofList template.spell) =
      .ok (String.ofList (template.fill (valueOf formats context))) := by
  have hmissing : (template.pieces.map fun piece => String.ofList piece.name).filter
      (fun name => !context.has name) = [] := by
    rw [List.filter_eq_nil_iff]
    intro name hname
    obtain ⟨piece, hpiece, rfl⟩ := List.mem_map.mp hname
    rw [(h piece hpiece).2]
    decide
  have hformat : format (renderField formats context) ResolveError.format template.spell =
      .ok (template.fill (valueOf formats context)) :=
    format_spell fun piece hpiece => renderField_plain (h piece hpiece).1 (h piece hpiece).2
  unfold resolveText
  rw [String.toList_ofList, parse_spell]
  simp only [fieldNames_markups, hmissing, hformat]
  obtain ⟨pieces, last, hlast⟩ := template
  cases pieces <;> rfl

mutual

theorem resolve_of_filled {value value' : Value} (h : Filled formats context value value') :
    resolve formats context value = .ok value' := by
  cases h with
  | text template hnames =>
      rw [resolve, resolveText_spell hnames]
      rfl
  | null => rw [resolve]
  | bool flag => rw [resolve]
  | int number => rw [resolve]
  | float number => rw [resolve]
  | list hitems =>
      rw [resolve, resolveItems_of_filled hitems]
      rfl
  | dict hfields =>
      rw [resolve, resolveFields_of_filled hfields]
      rfl

theorem resolveItems_of_filled {items items' : List Value} (h : FilledItems formats context items items') :
    resolveItems formats context items = .ok items' := by
  cases h with
  | nil => rw [resolveItems]
  | cons hitem hrest =>
      rw [resolveItems, resolve_of_filled hitem, resolveItems_of_filled hrest]
      rfl

theorem resolveFields_of_filled {fields fields' : Dict} (h : FilledFields formats context fields fields') :
    resolveFields formats context fields = .ok fields' := by
  cases h with
  | nil => rw [resolveFields]
  | cons key hvalue hrest =>
      rw [resolveFields, resolve_of_filled hvalue, resolveFields_of_filled hrest]
      rfl

end

theorem resolveFields_of_forall {fields : Dict}
    (h : ∀ entry ∈ fields, ∃ value, resolve formats context entry.2 = .ok value) :
    ∃ fields', resolveFields formats context fields = .ok fields' ∧
      ∀ key value, fields.find key = some value →
        ∃ value', resolve formats context value = .ok value' ∧ Assoc.find fields' key = some value' := by
  induction fields with
  | nil => exact ⟨[], by rw [resolveFields], fun _ _ hfind => by cases hfind⟩
  | cons entry rest ih =>
      obtain ⟨key, value⟩ := entry
      obtain ⟨⟨resolved, hresolved⟩, hrest⟩ := List.forall_mem_cons.mp h
      obtain ⟨rest', hrest', hfound⟩ := ih hrest
      have hcons : resolveFields formats context ((key, value) :: rest) = .ok ((key, resolved) :: rest') := by
        rw [resolveFields, hresolved, hrest']
        rfl
      refine ⟨_, hcons, fun other found hfind => ?_⟩
      rw [Assoc.find] at hfind
      rw [Assoc.find]
      split
      · next hkey =>
        rw [if_pos hkey] at hfind
        obtain rfl := Option.some.inj hfind
        exact ⟨resolved, hresolved, rfl⟩
      · next hkey =>
        rw [if_neg hkey] at hfind
        exact hfound other found hfind

variable {manifest : Dict} {credentials : CredentialSet}

theorem find_mergedConfig (manifest : Dict) (credentials : CredentialSet) (key : String) :
    (mergedConfig manifest credentials).find key =
      ((credentials.find key).map Value.str).or (manifest.find key) := by
  have hkeys : (credentials.entries.map fun entry => (entry.1, Value.str entry.2)).map Prod.fst =
      credentials.entries.map Prod.fst := by
    rw [List.map_map]
    rfl
  have hfind : ∀ entries : Assoc String,
      Assoc.find (entries.map fun entry => (entry.1, Value.str entry.2)) key =
        (entries.find key).map Value.str := by
    intro entries
    induction entries with
    | nil => rfl
    | cons entry rest ih =>
        simp only [List.map_cons, Assoc.find]
        split
        · rfl
        · exact ih
  unfold mergedConfig
  rw [Assoc.find_merge manifest (hkeys ▸ credentials.distinct), hfind]
  rfl

theorem resolves_of_plain (hmanifest : Templated formats manifest credentials)
    (hplain : ∀ key secret, credentials.find key = some secret → PlainText secret) :
    ∃ resolved, resolveOauth2Config formats (mergedConfig manifest credentials) = .ok resolved ∧
      Resolves formats manifest credentials resolved := by
  have hvalue : ∀ key value, (mergedConfig manifest credentials).find key = some value →
      ∃ value', resolve formats (contextOf (mergedConfig manifest credentials)) value = .ok value' := by
    intro key value hfind
    rw [find_mergedConfig] at hfind
    cases hsecret : credentials.find key with
    | some secret =>
        rw [hsecret] at hfind
        obtain rfl := Option.some.inj hfind
        exact ⟨.str secret, by rw [resolve, resolveText_of_plain (hplain key secret hsecret)]; rfl⟩
    | none =>
        rw [hsecret] at hfind
        obtain ⟨value', hfilled⟩ := hmanifest.filled key value hsecret hfind
        exact ⟨value', resolve_of_filled hfilled⟩
  have hentries : ∀ entry ∈ mergedConfig manifest credentials,
      ∃ value', resolve formats (contextOf (mergedConfig manifest credentials)) entry.2 = .ok value' :=
    fun entry hentry =>
      hvalue entry.1 entry.2 (Assoc.find_of_mem (Assoc.nodup_merge hmanifest.distinct _) hentry)
  obtain ⟨resolved, hresolved, hfound⟩ := resolveFields_of_forall hentries
  refine ⟨resolved, hresolved, ⟨fun key secret hsecret => ?_, fun key value hnone hfind => ?_⟩⟩
  · obtain ⟨value', hvalue', hkey⟩ := hfound key (.str secret) (by rw [find_mergedConfig, hsecret]; rfl)
    rw [resolve, resolveText_of_plain (hplain key secret hsecret)] at hvalue'
    obtain rfl : Value.str secret = value' := Except.ok.inj hvalue'
    exact hkey
  · obtain ⟨filled, hfilled⟩ := hmanifest.filled key value hnone hfind
    obtain ⟨value', hvalue', hkey⟩ := hfound key value (by rw [find_mergedConfig, hnone]; exact hfind)
    obtain rfl := Except.ok.inj ((resolve_of_filled hfilled).symm.trans hvalue')
    exact ⟨filled, hfilled, hkey⟩

theorem resolve_single_raises {secret key : String} (hnot : ¬ PlainText secret)
    (hkey : ∀ name, (fieldNames (parse secret.toList)).head? = some name → key ≠ name) :
    ∃ error, resolveOauth2Config formats [(key, .str secret)] = .error error := by
  have hraises : ∃ error, resolveText formats (contextOf [(key, .str secret)]) secret =
      .error error := by
    unfold resolveText
    dsimp only
    cases herror : (parse secret.toList).2 with
    | some error => exact ⟨_, rfl⟩
    | none =>
        cases hnames : fieldNames (parse secret.toList) with
        | nil => exact absurd ⟨herror, hnames⟩ hnot
        | cons name rest =>
            -- The only key of the context is not the name.
            have hne : key ≠ name := hkey name (by rw [hnames]; rfl)
            have habsent : Assoc.has (contextOf [(key, .str secret)]) name = false := by
              show (if key = name then some (Value.str secret) else none).isSome = false
              rw [if_neg hne]
              rfl
            dsimp only
            rw [List.isEmpty_cons, if_neg Bool.false_ne_true, List.filter_cons_of_pos (by simp [habsent]),
              List.isEmpty_cons, if_neg Bool.false_ne_true]
            exact ⟨_, rfl⟩
  obtain ⟨error, herror⟩ := hraises
  refine ⟨error, ?_⟩
  unfold resolveOauth2Config
  rw [resolveFields, resolve, herror]
  rfl

end Results

/-- A secret comes out of every configuration as it is, and lets every template be filled in, exactly
if the parser of format strings finds neither an error nor a field with a name in it. -/
theorem opaque_iff (formats : ConfigFormats) (secret : String) :
    Opaque formats secret ↔ PlainText secret := by
  constructor
  · intro hopaque
    by_contra hnot
    -- A key that is not the name of the first field.
    have hkey : ∃ key : String, ∀ name,
        (fieldNames (parse secret.toList)).head? = some name → key ≠ name := by
      cases hhead : (fieldNames (parse secret.toList)).head? with
      | none => exact ⟨"", fun name heq => by cases heq⟩
      | some first =>
          refine ⟨first ++ "_", fun name heq => ?_⟩
          obtain rfl := Option.some.inj heq
          intro hlong
          have hlength := congrArg String.length hlong
          rw [String.length_append] at hlength
          have hone : "_".length = 1 := rfl
          omega
    obtain ⟨key, hkey⟩ := hkey
    have hmanifest : Templated formats [] (CredentialSet.empty.put key secret) :=
      ⟨List.nodup_nil, fun _ _ _ hfind => by cases hfind⟩
    have hfind : (CredentialSet.empty.put key secret).find key = some secret := by
      rw [CredentialSet.find_put, if_pos rfl]
    have hothers : ∀ key' other, (CredentialSet.empty.put key secret).find key' = some other →
        key' ≠ key → PlainText other := by
      intro key' other hother hne
      rw [CredentialSet.find_put, if_neg (Ne.symm hne)] at hother
      cases hother
    obtain ⟨resolved, hresolved, -⟩ := hopaque [] _ key hmanifest hfind hothers
    obtain ⟨error, herror⟩ := @resolve_single_raises formats secret key hnot hkey
    have hmerged : mergedConfig [] (CredentialSet.empty.put key secret) = [(key, .str secret)] := rfl
    rw [hmerged, herror] at hresolved
    cases hresolved
  · intro hplain manifest credentials key hmanifest hfind hothers
    refine resolves_of_plain hmanifest fun key' other hother => ?_
    by_cases hkey : key' = key
    · subst hkey
      obtain rfl := Option.some.inj (hfind.symm.trans hother)
      exact hplain
    · exact hothers key' other hother hkey

/-- Values that are texts, and fields with nothing but a name. -/
def nameFormats : ConfigFormats where
  str
    | .str text => text
    | _ => ""
  special _ _ := .error "unsupported format string"

/-- The credentials of an application with this secret. -/
def applicationSecret (secret : String) : CredentialSet :=
  (CredentialSet.empty.put "client_id" "app").put "client_secret" secret

/-- A secret with a brace in it raises, and one with the name of a credential between braces is
rewritten. -/
theorem secret_rewritten :
    resolveOauth2Config nameFormats (mergedConfig [] (applicationSecret "s3cr\x7bet")) =
        .error (.format .unclosedName) ∧
      resolveOauth2Config nameFormats (mergedConfig [] (applicationSecret "a\x7bclient_id\x7db")) =
        .ok [("client_id", .str "app"), ("client_secret", .str "aappb")] ∧
      ¬ Opaque nameFormats "s3cr\x7bet" ∧ ¬ Opaque nameFormats "a\x7bclient_id\x7db" := by
  have hmanifest : ∀ secret, Templated nameFormats [] (applicationSecret secret) :=
    fun _ => ⟨List.nodup_nil, fun _ _ _ hfind => by cases hfind⟩
  have hid : PlainText "app" := ⟨rfl, rfl⟩
  have hothers : ∀ secret key other, (applicationSecret secret).find key = some other →
      key ≠ "client_secret" → PlainText other := by
    intro secret key other hfind hkey
    rw [applicationSecret, CredentialSet.find_put, if_neg (Ne.symm hkey), CredentialSet.find_put] at hfind
    split at hfind
    · obtain rfl := Option.some.inj hfind
      exact hid
    · cases hfind
  have hraises : resolveOauth2Config nameFormats (mergedConfig [] (applicationSecret "s3cr\x7bet")) =
      .error (.format .unclosedName) := rfl
  have hrewritten : resolveOauth2Config nameFormats
        (mergedConfig [] (applicationSecret "a\x7bclient_id\x7db")) =
      .ok [("client_id", .str "app"), ("client_secret", .str "aappb")] := rfl
  refine ⟨hraises, hrewritten, fun hopaque => ?_, fun hopaque => ?_⟩
  · obtain ⟨resolved, hresolved, -⟩ := hopaque [] _ "client_secret" (hmanifest _) rfl (hothers _)
    rw [hraises] at hresolved
    cases hresolved
  · obtain ⟨resolved, hresolved, hsecret⟩ :=
      hopaque [] _ "client_secret" (hmanifest _) rfl (hothers _)
    obtain rfl := Except.ok.inj (hrewritten.symm.trans hresolved)
    have hkept := hsecret.secrets "client_secret" _ rfl
    have hchanged : "aappb" = "a\x7bclient_id\x7db" := Value.str.inj (Option.some.inj hkept)
    exact absurd hchanged (by decide)

end OAuth

end IntegrationPlatform
