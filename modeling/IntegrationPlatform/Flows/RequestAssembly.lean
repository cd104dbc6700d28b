import IntegrationPlatform.Flows.UrlBuilding

/-!
# The assembly of a request

`_build_url` replaces the placeholders in the path of a route one field after the other, in a path that has
values in it already, and takes the query and the headers out of what is left. `assembles_iff` says for which
routes and payloads every field is sent in one place, in every order of the fields.
-/

namespace IntegrationPlatform

namespace Routing

open Substitution Percent

variable (texts : Flows.DispatchTexts)

/-! ## Where the fields belong -/

/-- The places of a request. -/
inductive Place where
  | path
  | query
  | header
  | body
  deriving DecidableEq

/-- Where a field is to be sent: in the path if the route has a placeholder for it, and otherwise in the
query, the headers or the body. -/
def placeOf (route : RouteEntry) (key : String) : Place :=
  if placeholder key <:+: route.path.toList then .path
  else if key ∈ route.queryFromPayload then .query
  else if key ∈ route.headerFromPayload then .header
  else .body

/-- The placeholders of the fields, with what is put in for them. -/
def bindings (payload : Dict) : List (List Char × List Char) :=
  payload.map fun entry => (placeholder entry.1, written texts entry.2)

/-- A request has every field of a payload where it belongs, all placeholders replaced at once, and nothing
else. -/
structure Partitions (route : RouteEntry) (payload : Dict) (parts : UrlParts) : Prop where
  path_eq : parts.path = fill (bindings texts payload) route.path.toList
  path_closed : ∀ entry ∈ payload, ¬ placeholder entry.1 <:+: parts.path
  query_eq : ∀ key, parts.queryParams.find key =
    if placeOf route key = .query then Flows.given (payload.find key) else none
  headers_eq : ∀ entry ∈ payload, placeOf route entry.1 = .header →
    parts.extraHeaders.find (Flows.fieldToHeaderName texts entry.1) =
      (Flows.given (some entry.2)).map texts.str
  headers_only : ∀ name ∈ parts.extraHeaders.map Prod.fst, ∃ entry ∈ payload,
    placeOf route entry.1 = .header ∧ Flows.fieldToHeaderName texts entry.1 = name
  body_eq : ∀ key, parts.body.find key = if placeOf route key = .body then payload.find key else none

/-- Two requests are the same but for the order of the fields in the body. -/
structure SameParts (parts parts' : UrlParts) : Prop where
  path_eq : parts.path = parts'.path
  query_eq : parts.queryParams = parts'.queryParams
  headers_eq : parts.extraHeaders = parts'.extraHeaders
  body_perm : parts.body.Perm parts'.body

/-- In every order of its fields, a payload has them all where they belong, and makes the same request. -/
def Assembles (route : RouteEntry) (payload : Dict) : Prop :=
  ∀ payload', payload'.Perm payload → Partitions texts route payload (buildUrl texts route payload') ∧
    SameParts (buildUrl texts route payload') (buildUrl texts route payload)

variable {texts} {route : RouteEntry} {payload payload' : Dict}

/-! ## Placeholders -/

theorem placeholder_inj {key key' : String} (h : placeholder key = placeholder key') : key = key' :=
  String.toList_injective (bracketed_inj h)

theorem keysOf_bindings (payload : Dict) :
    keysOf (bindings texts payload) = (payload.map Prod.fst).map placeholder := by
  simp [keysOf, bindings]

theorem bracketed_bindings
    (h : ∀ key ∈ payload.map Prod.fst, '\x7b' ∉ key.toList ∧ '\x7d' ∉ key.toList) :
    Bracketed '\x7b' '\x7d' (keysOf (bindings texts payload)) := by
  intro key hkey
  rw [keysOf_bindings] at hkey
  obtain ⟨name, hname, rfl⟩ := List.mem_map.mp hkey
  exact ⟨name.toList, rfl, h name hname⟩

theorem quoted_of_mem_binding {binding : List Char × List Char} (h : binding ∈ bindings texts payload)
    {letter : Char} (hletter : letter ∈ binding.2) : quoted letter = true := by
  obtain ⟨entry, -, rfl⟩ := List.mem_map.mp h
  exact quoted_of_mem_quote hletter

theorem unbracketed_bindings (payload : Dict) :
    Unbracketed '\x7b' '\x7d' (bindings texts payload) := by
  intro binding hbinding
  constructor
  · intro hletter
    exact absurd (quoted_of_mem_binding hbinding hletter) (by decide)
  · intro hletter
    exact absurd (quoted_of_mem_binding hbinding hletter) (by decide)

theorem nodup_placeholders (h : (payload.map Prod.fst).Nodup) :
    (keysOf (bindings texts payload)).Nodup := by
  rw [keysOf_bindings]
  exact h.map fun _ _ => placeholder_inj

/-! ## The loop -/

/-- Without nested brackets the loop puts all values in, and takes out the fields of which the path has
placeholders. -/
theorem takePath_eq (route : RouteEntry) (hnodup : (payload.map Prod.fst).Nodup)
    (hkeys : ∀ key ∈ payload.map Prod.fst, '\x7b' ∉ key.toList ∧ '\x7d' ∉ key.toList)
    (hflat : ¬ Nested '\x7b' '\x7d' (bindings texts payload) route.path.toList)
    {earlier rest : Dict} (hpayload : payload = earlier ++ rest) (body : Dict) :
    takePath texts rest (fill (bindings texts earlier) route.path.toList) body =
      (fill (bindings texts payload) route.path.toList,
        body.filter fun entry => decide (¬ (entry.1 ∈ rest.map Prod.fst ∧
          placeholder entry.1 <:+: route.path.toList))) := by
  have hbracketed : Bracketed '\x7b' '\x7d' (keysOf (bindings texts payload)) := bracketed_bindings hkeys
  have hpool := independent_of_bracketed (by decide) hbracketed
  have hdistinct : (keysOf (bindings texts payload)).Nodup := nodup_placeholders hnodup
  induction rest generalizing earlier body with
  | nil =>
      rw [List.append_nil] at hpayload
      rw [takePath, hpayload]
      simp
  | cons entry rest ih =>
      obtain ⟨key, value⟩ := entry
      have hnext : payload = (earlier ++ [(key, value)]) ++ rest := by
        rw [hpayload, List.append_assoc, List.singleton_append]
      have hall : bindings texts payload =
          bindings texts earlier ++ (placeholder key, written texts value) :: bindings texts rest := by
        rw [hpayload, bindings, List.map_append, List.map_cons]
        rfl
      have hsubset : bindings texts earlier ⊆ bindings texts payload := by
        rw [hall]
        exact List.subset_append_left _ _
      have hmem : placeholder key ∈ keysOf (bindings texts payload) := by
        rw [hall]
        simp [keysOf]
      have hother : placeholder key ∉ keysOf (bindings texts earlier) := by
        rw [keysOf_bindings, hpayload, List.map_append, List.map_cons, List.map_append] at hdistinct
        rw [keysOf_bindings]
        intro hin
        exact (List.nodup_append.mp hdistinct).2.2 _ hin _ List.mem_cons_self rfl
      have hnonempty := hpool.nonempty _ hmem
      have hcount := occurrences_fill_of_not_nested (by decide) hbracketed hdistinct
        (unbracketed_bindings payload) hsubset hmem hother hflat
      -- The placeholder is in the path now exactly if it is in the path of the route.
      have hin : placeholder key <:+: fill (bindings texts earlier) route.path.toList ↔
          placeholder key <:+: route.path.toList := by
        rw [← not_iff_not, ← occurrences_eq_zero hnonempty, ← occurrences_eq_zero hnonempty, hcount]
      have hconcat : bindings texts (earlier ++ [(key, value)]) =
          bindings texts earlier ++ [(placeholder key, written texts value)] := by
        simp [bindings]
      rw [takePath]
      by_cases hpath : placeholder key <:+: route.path.toList
      · rw [if_pos (hin.mpr hpath), replace_fill hpool (List.map_subset _ hsubset) hmem hother _ hcount,
          ← hconcat, ih hnext, List.filter_filter]
        refine Prod.ext rfl (List.filter_congr fun entry _ => ?_)
        rw [← Bool.decide_and, decide_eq_decide, List.map_cons, List.mem_cons]
        by_cases hentry : entry.1 = key
        · simp [hentry, hpath]
        · simp [hentry]
      · have hzero := (occurrences_eq_zero hnonempty).mpr hpath
        rw [if_neg fun h => hpath (hin.mp h),
          ← fill_concat_of_occurrences_eq_zero hnonempty (written texts value) hzero, ← hconcat, ih hnext]
        refine Prod.ext rfl (List.filter_congr fun entry _ => ?_)
        rw [decide_eq_decide, List.map_cons, List.mem_cons]
        by_cases hentry : entry.1 = key
        · simp [hentry, hpath]
        · simp [hentry]

/-! ## Query and headers -/

variable {α : Type}

theorem takeFields_congr (name : String → String) (send : Value → α) {fields : List String}
    {body body' : Dict} (h : ∀ key, body.find key = body'.find key) (taken : Assoc α) :
    (Flows.takeFields name send fields taken body).1 =
      (Flows.takeFields name send fields taken body').1 := by
  induction fields generalizing taken body body' with
  | nil => rfl
  | cons field fields ih =>
      rw [Flows.takeFields, Flows.takeFields, h field]
      refine ih (fun key => ?_) _
      rw [Assoc.find_filter_key, Assoc.find_filter_key, h key]

variable {key : String}

/-- What has been taken under a name that no other field of the list has. -/
theorem find_takeFields_name (name : String → String) (send : Value → α) (fields : List String)
    {body : Dict}
    (h : ∀ field ∈ fields, body.find field ≠ none → name field = name key → field = key)
    (taken : Assoc α) :
    (Flows.takeFields name send fields taken body).1.find (name key) =
      if key ∈ fields then ((Flows.given (body.find key)).map send).or (taken.find (name key))
      else taken.find (name key) := by
  induction fields generalizing taken body with
  | nil => rfl
  | cons field fields ih =>
      have hrest : ∀ other ∈ fields, Assoc.find (body.filter fun entry => entry.1 ≠ field) other ≠ none →
          name other = name key → other = key := by
        intro other hother hfound
        refine h other (List.mem_cons_of_mem _ hother) fun hnone => hfound ?_
        rw [Assoc.find_filter_key, hnone, ite_self]
      rw [Flows.takeFields, ih hrest, Assoc.find_filter_key]
      by_cases hkey : key = field
      · subst hkey
        cases Flows.given (body.find key) <;> simp [Assoc.find_put, Flows.given]
      · cases hgiven : Flows.given (body.find field) with
        | none => simp [hkey]
        | some value =>
            have hne : name field ≠ name key := by
              refine fun hname => hkey (h field List.mem_cons_self (fun hnone => ?_) hname).symm
              rw [hnone] at hgiven
              cases hgiven
            simp [hkey, Assoc.find_put, hne]

theorem name_of_mem_takeFields (name : String → String) (send : Value → α)
    (fields : List String) {body : Dict} {taken : Assoc α} {header : String}
    (h : header ∈ (Flows.takeFields name send fields taken body).1.map Prod.fst) :
    header ∈ taken.map Prod.fst ∨ ∃ field ∈ fields, body.find field ≠ none ∧ name field = header := by
  induction fields generalizing taken body with
  | nil => exact .inl h
  | cons field fields ih =>
      rw [Flows.takeFields] at h
      rcases ih h with htaken | ⟨other, hother, hfound, hname⟩
      · cases hgiven : Flows.given (body.find field) with
        | none =>
            rw [hgiven] at htaken
            exact .inl htaken
        | some value =>
            rw [hgiven] at htaken
            rcases (Assoc.mem_keys_put taken (name field) header (send value)).mp htaken with hnew | hold
            · refine .inr ⟨field, List.mem_cons_self, fun hnone => ?_, hnew.symm⟩
              rw [hnone] at hgiven
              cases hgiven
            · exact .inl hold
      · refine .inr ⟨other, List.mem_cons_of_mem _ hother, fun hnone => hfound ?_, hname⟩
        rw [Assoc.find_filter_key, hnone, ite_self]

/-! ## The places of the fields -/

theorem placeOf_query : placeOf route key = .query ↔
    ¬ placeholder key <:+: route.path.toList ∧ key ∈ route.queryFromPayload := by
  unfold placeOf
  grind

theorem placeOf_header : placeOf route key = .header ↔
    (¬ placeholder key <:+: route.path.toList ∧ key ∉ route.queryFromPayload) ∧
      key ∈ route.headerFromPayload := by
  unfold placeOf
  grind

theorem placeOf_body : placeOf route key = .body ↔
    (¬ placeholder key <:+: route.path.toList ∧ key ∉ route.queryFromPayload) ∧
      key ∉ route.headerFromPayload := by
  unfold placeOf
  grind

/-- The fields that the path leaves. -/
def behindPath (route : RouteEntry) (payload : Dict) : Dict :=
  payload.filter fun entry => decide (¬ placeholder entry.1 <:+: route.path.toList)

/-- The fields that the query leaves. -/
def behindQuery (route : RouteEntry) (payload : Dict) : Dict :=
  payload.filter fun entry => decide (¬ placeholder entry.1 <:+: route.path.toList ∧
    entry.1 ∉ route.queryFromPayload)

/-- The request of a payload without nested brackets. -/
theorem buildUrl_eq (hnodup : (payload.map Prod.fst).Nodup)
    (hkeys : ∀ key ∈ payload.map Prod.fst, '\x7b' ∉ key.toList ∧ '\x7d' ∉ key.toList)
    (hflat : ¬ Nested '\x7b' '\x7d' (bindings texts payload) route.path.toList) :
    buildUrl texts route payload =
      ⟨fill (bindings texts payload) route.path.toList,
        (Flows.takeFields id id route.queryFromPayload [] (behindPath route payload)).1,
        (Flows.takeFields (Flows.fieldToHeaderName texts) texts.str route.headerFromPayload []
          (behindQuery route payload)).1,
        payload.filter fun entry => decide (placeOf route entry.1 = .body)⟩ := by
  have hpath : takePath texts payload (fill (bindings texts []) route.path.toList) payload = _ :=
    takePath_eq route hnodup hkeys hflat rfl payload
  rw [show bindings texts [] = [] from rfl, fill_nil] at hpath
  have hbehind : (payload.filter fun entry => decide (¬ (entry.1 ∈ payload.map Prod.fst ∧
      placeholder entry.1 <:+: route.path.toList))) = behindPath route payload := by
    refine List.filter_congr fun entry hentry => ?_
    simp [List.mem_map_of_mem hentry]
  have hquery : ((behindPath route payload).filter fun entry =>
      decide (entry.1 ∉ route.queryFromPayload)) = behindQuery route payload := by
    unfold behindPath behindQuery
    rw [List.filter_filter]
    refine List.filter_congr fun entry _ => ?_
    rw [Bool.decide_and, Bool.and_comm]
  have hbody : ((behindQuery route payload).filter fun entry =>
      decide (entry.1 ∉ route.headerFromPayload)) =
      payload.filter fun entry => decide (placeOf route entry.1 = .body) := by
    unfold behindQuery
    rw [List.filter_filter]
    refine List.filter_congr fun entry _ => ?_
    rw [← Bool.decide_and, decide_eq_decide, placeOf_body, and_comm]
  unfold buildUrl
  rw [hpath, hbehind]
  simp only [Flows.takeFields_rest, hquery, hbody]

theorem find_behindPath (payload : Dict) (key : String) : (behindPath route payload).find key =
    if placeholder key <:+: route.path.toList then none else payload.find key := by
  unfold behindPath
  rw [Assoc.find_filter payload fun key => decide (¬ placeholder key <:+: route.path.toList)]
  by_cases hpath : placeholder key <:+: route.path.toList <;> simp [hpath]

theorem find_behindQuery (payload : Dict) (key : String) : (behindQuery route payload).find key =
    if ¬ placeholder key <:+: route.path.toList ∧ key ∉ route.queryFromPayload then payload.find key
    else none := by
  unfold behindQuery
  rw [Assoc.find_filter payload fun key => decide (¬ placeholder key <:+: route.path.toList ∧
    key ∉ route.queryFromPayload)]
  simp only [decide_eq_true_eq]

/-! ## Every order -/

theorem find_perm {fields fields' : Assoc α} (hperm : fields'.Perm fields)
    (hnodup : (fields.map Prod.fst).Nodup) (key : String) : fields'.find key = fields.find key := by
  have hnodup' : (fields'.map Prod.fst).Nodup := (hperm.map Prod.fst).nodup_iff.mpr hnodup
  refine Option.ext fun value => ⟨fun h => ?_, fun h => ?_⟩
  · exact Assoc.find_of_mem hnodup (hperm.mem_iff.mp (Assoc.mem_of_find h))
  · exact Assoc.find_of_mem hnodup' (hperm.mem_iff.mpr (Assoc.mem_of_find h))

theorem fill_bindings_perm (hnodup : (payload.map Prod.fst).Nodup)
    (hkeys : ∀ key ∈ payload.map Prod.fst, '\x7b' ∉ key.toList ∧ '\x7d' ∉ key.toList)
    (hperm : payload'.Perm payload) (text : List Char) :
    fill (bindings texts payload') text = fill (bindings texts payload) text := by
  have hbracketed : Bracketed '\x7b' '\x7d' (keysOf (bindings texts payload)) := bracketed_bindings hkeys
  exact fill_perm (independent_of_bracketed (by decide) hbracketed) (nodup_placeholders hnodup)
    (hperm.map _) text

theorem nested_perm (hnodup : (payload.map Prod.fst).Nodup)
    (hkeys : ∀ key ∈ payload.map Prod.fst, '\x7b' ∉ key.toList ∧ '\x7d' ∉ key.toList)
    (hperm : payload'.Perm payload) {text : List Char}
    (h : Nested '\x7b' '\x7d' (bindings texts payload') text) :
    Nested '\x7b' '\x7d' (bindings texts payload) text := by
  obtain ⟨inside, hinside, hchanged, hkey⟩ := h
  rw [fill_bindings_perm hnodup hkeys hperm] at hchanged hkey
  refine ⟨inside, hinside, hchanged, ?_⟩
  rw [keysOf_bindings] at hkey ⊢
  exact ((hperm.map Prod.fst).map placeholder).mem_iff.mp hkey

/-- Without nested brackets the request has every field where it belongs. -/
theorem partitions_buildUrl (route : RouteEntry) (hnodup : (payload.map Prod.fst).Nodup)
    (hkeys : ∀ key ∈ payload.map Prod.fst, '\x7b' ∉ key.toList ∧ '\x7d' ∉ key.toList)
    (hheaders : ∀ first ∈ payload, ∀ second ∈ payload, placeOf route first.1 = .header →
      placeOf route second.1 = .header →
      Flows.fieldToHeaderName texts first.1 = Flows.fieldToHeaderName texts second.1 → first.1 = second.1)
    (hflat : ¬ Nested '\x7b' '\x7d' (bindings texts payload) route.path.toList) :
    Partitions texts route payload (buildUrl texts route payload) := by
  have hbracketed : Bracketed '\x7b' '\x7d' (keysOf (bindings texts payload)) := bracketed_bindings hkeys
  -- A field that the query leaves and the list of headers names belongs to the headers.
  have hheader : ∀ key ∈ route.headerFromPayload, (behindQuery route payload).find key ≠ none →
      placeOf route key = .header ∧ ∃ value, (key, value) ∈ payload := by
    intro key hlisted hfound
    rw [find_behindQuery] at hfound
    split at hfound
    · next hleft =>
      obtain ⟨value, hvalue⟩ := Option.ne_none_iff_exists'.mp hfound
      exact ⟨placeOf_header.mpr ⟨hleft, hlisted⟩, value, Assoc.mem_of_find hvalue⟩
    · exact absurd rfl hfound
  rw [buildUrl_eq hnodup hkeys hflat]
  refine ⟨rfl, ?_, ?_, ?_, ?_, ?_⟩
  · intro entry hentry hin
    refine hflat ((infix_fill_iff (by decide) hbracketed (unbracketed_bindings payload) _).mp ⟨_, ?_, hin⟩)
    rw [keysOf_bindings]
    exact List.mem_map_of_mem (List.mem_map_of_mem hentry)
  · intro key
    show (Flows.takeFields id id route.queryFromPayload [] (behindPath route payload)).1.find key = _
    rw [Flows.find_takeFields, find_behindPath]
    by_cases hpath : placeholder key <:+: route.path.toList <;>
      by_cases hquery : key ∈ route.queryFromPayload <;>
      simp [placeOf_query, hpath, hquery, Assoc.find, Flows.given]
  · intro entry hentry hplace
    obtain ⟨hleft, hlisted⟩ := placeOf_header.mp hplace
    have hunique : ∀ field ∈ route.headerFromPayload, (behindQuery route payload).find field ≠ none →
        Flows.fieldToHeaderName texts field = Flows.fieldToHeaderName texts entry.1 →
        field = entry.1 := by
      intro field hfield hfound hname
      obtain ⟨hother, value, hmem⟩ := hheader field hfield hfound
      exact hheaders _ hmem entry hentry hother hplace hname
    show (Flows.takeFields _ _ _ [] (behindQuery route payload)).1.find _ = _
    rw [find_takeFields_name _ _ _ hunique, if_pos hlisted, find_behindQuery, if_pos hleft,
      Assoc.find_of_mem hnodup hentry]
    exact Option.or_none
  · intro name hname
    rcases name_of_mem_takeFields _ _ _ hname with hnil | ⟨field, hfield, hfound, rfl⟩
    · cases hnil
    · obtain ⟨hplace, value, hmem⟩ := hheader field hfield hfound
      exact ⟨_, hmem, hplace, rfl⟩
  · intro key
    have hfind := Assoc.find_filter payload (fun key => decide (placeOf route key = .body)) key
    simpa only [decide_eq_true_eq] using hfind

theorem sameParts_buildUrl (route : RouteEntry) (hnodup : (payload.map Prod.fst).Nodup)
    (hkeys : ∀ key ∈ payload.map Prod.fst, '\x7b' ∉ key.toList ∧ '\x7d' ∉ key.toList)
    (hflat : ¬ Nested '\x7b' '\x7d' (bindings texts payload) route.path.toList)
    (hperm : payload'.Perm payload) :
    SameParts (buildUrl texts route payload') (buildUrl texts route payload) := by
  have hnames := hperm.map Prod.fst
  have hkeys' : ∀ key ∈ payload'.map Prod.fst, '\x7b' ∉ key.toList ∧ '\x7d' ∉ key.toList :=
    fun key hkey => hkeys key (hnames.mem_iff.mp hkey)
  have hflat' : ¬ Nested '\x7b' '\x7d' (bindings texts payload') route.path.toList :=
    fun h => hflat (nested_perm hnodup hkeys hperm h)
  have hfind := find_perm hperm hnodup
  rw [buildUrl_eq (hnames.nodup_iff.mpr hnodup) hkeys' hflat', buildUrl_eq hnodup hkeys hflat]
  refine ⟨fill_bindings_perm hnodup hkeys hperm _, takeFields_congr _ _ (fun key => ?_) [],
    takeFields_congr _ _ (fun key => ?_) [], hperm.filter _⟩
  · rw [find_behindPath, find_behindPath, hfind key]
  · rw [find_behindQuery, find_behindQuery, hfind key]

/-- **A payload is assembled exactly if no brackets of the path are nested.** A field is then sent in one
place, in every order of the fields. -/
theorem assembles_iff (texts : Flows.DispatchTexts) (route : RouteEntry) (payload : Dict)
    (hnodup : (payload.map Prod.fst).Nodup)
    (hkeys : ∀ key ∈ payload.map Prod.fst, '\x7b' ∉ key.toList ∧ '\x7d' ∉ key.toList)
    (hheaders : ∀ first ∈ payload, ∀ second ∈ payload, placeOf route first.1 = .header →
      placeOf route second.1 = .header →
      Flows.fieldToHeaderName texts first.1 = Flows.fieldToHeaderName texts second.1 →
      first.1 = second.1) :
    Assembles texts route payload ↔
      ¬ Nested '\x7b' '\x7d' (bindings texts payload) route.path.toList := by
  have hbracketed : Bracketed '\x7b' '\x7d' (keysOf (bindings texts payload)) := bracketed_bindings hkeys
  constructor
  · intro h hnested
    obtain ⟨hparts, -⟩ := h payload (List.Perm.refl _)
    obtain ⟨key, hkey, hin⟩ :=
      (infix_fill_iff (by decide) hbracketed (unbracketed_bindings payload) _).mpr hnested
    rw [keysOf_bindings] at hkey
    obtain ⟨name, hname, rfl⟩ := List.mem_map.mp hkey
    obtain ⟨entry, hentry, rfl⟩ := List.mem_map.mp hname
    rw [← hparts.path_eq] at hin
    exact hparts.path_closed entry hentry hin
  · intro hflat payload' hperm
    have hparts := partitions_buildUrl route hnodup hkeys hheaders hflat
    have hsame := sameParts_buildUrl route hnodup hkeys hflat hperm
    have hbody : ((buildUrl texts route payload).body.map Prod.fst).Nodup := by
      rw [buildUrl_eq hnodup hkeys hflat]
      exact (List.filter_sublist.map Prod.fst).nodup hnodup
    refine ⟨⟨?_, ?_, ?_, ?_, ?_, ?_⟩, hsame⟩
    · rw [hsame.path_eq]
      exact hparts.path_eq
    · rw [hsame.path_eq]
      exact hparts.path_closed
    · rw [hsame.query_eq]
      exact hparts.query_eq
    · rw [hsame.headers_eq]
      exact hparts.headers_eq
    · rw [hsame.headers_eq]
      exact hparts.headers_only
    · intro key
      rw [find_perm hsame.body_perm hbody, hparts.body_eq]

/-! ## Orders -/

/-- Texts whose first letter is made a capital, and `str` of texts. -/
def orderTexts : Flows.DispatchTexts where
  str
    | .str text => text
    | _ => "None"
  strip text := text
  lower text := text
  capitalize text := text.capitalize
  dumps _ := ""
  b64decode _ := .ok []

/-- The route of the status of an order. -/
def statusRoute : RouteEntry where
  path := "/orders/\x7bid\x7d/status"
  queryFromPayload := ["notify"]
  headerFromPayload := ["api_token"]

/-- A status of an order, with a number that has to be quoted. -/
def statusPayload : Dict :=
  [("id", .str "7/8"), ("status", .str "sent"), ("notify", .null), ("api_token", .str "secret")]

/-- The request for the status of an order is assembled. -/
theorem status_assembled : Assembles orderTexts statusRoute statusPayload := by
  refine (assembles_iff orderTexts statusRoute statusPayload (by decide) (by decide) ?_).mpr ?_
  · decide +kernel
  · rw [← infix_fill_iff (by decide) (bracketed_bindings (by decide)) (unbracketed_bindings _)]
    decide +kernel

/-- A value between two braces of the route names another field, which is put in after it: the path is not the
same in both orders. -/
theorem nested_braces_refilled :
    ¬ Assembles orderTexts ⟨"/orders/\x7b\x7bid\x7d\x7d", [], []⟩
      [("id", .str "key"), ("key", .str "7")] := by
  intro h
  have hpath := (h _ (List.Perm.refl _)).1.path_eq
  revert hpath
  decide +kernel

end Routing

end IntegrationPlatform
