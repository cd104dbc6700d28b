import IntegrationPlatform.Flows.RequestAssembly
import IntegrationPlatform.Texts.DotSegments
import Mathlib.Data.List.TakeWhile

/-!
# The parameters of a path

The fields of a payload that a path has placeholders for are quoted, and the client removes the dot segments
of the path that comes out. `keepsToRoute_iff` says when the path that is requested has the segments of the
route, with the values of the fields in them.
-/

namespace IntegrationPlatform

namespace Routing

open Substitution Percent DotSegments

/-! ## Requested paths -/

/-- A route whose path begins with a slash and has neither a query nor a fragment behind it. -/
structure PathRoute extends RouteEntry where
  rooted : path.toList.head? = some '/'
  plain : '?' ∉ path.toList ∧ '#' ∉ path.toList

/-- The path of a URL, up to its query or fragment. -/
def pathOf (url : List Char) : List Char :=
  url.takeWhile fun letter => letter ≠ '?' && letter ≠ '#'

/-- The names that a placeholder in a segment can have: they have neither braces nor slashes. -/
def nameable (key : String) : Bool :=
  decide ('\x7b' ∉ key.toList ∧ '\x7d' ∉ key.toList ∧ '/' ∉ key.toList)

/-- The fields with such names. -/
def named (payload : Dict) : Dict :=
  payload.filter fun entry => nameable entry.1

section Requests

variable (texts : Flows.DispatchTexts) (route : PathRoute) (payload : Dict)

/-- The segments of the path that the client requests. -/
def requested : List (List Char) :=
  removeDotSegments (segments (pathOf (buildUrl texts route.toRouteEntry payload).path))

/-- The path that is requested has the segments of the route, with the values of the fields in the place of
their placeholders; a segment that is a placeholder decodes to the value. -/
structure Routed : Prop where
  segments_eq : requested texts route payload =
    (segments route.path.toList).map (fill (bindings texts (named payload)))
  decodes : ∀ entry ∈ named payload, ∀ index : Nat,
    (segments route.path.toList)[index]? = some (placeholder entry.1) →
      (requested texts route payload)[index]?.map percentDecode = some (utf8 (texts.str entry.2))

/-- The values bring no placeholder with them, no other field is put in, and no segment becomes a dot
segment. -/
structure Safe : Prop where
  untouched : Untouched (bindings texts (named payload)) route.path.toList
  hidden : ∀ earlier key value later, payload = earlier ++ (key, value) :: later →
    nameable key = false →
      ¬ placeholder key <:+: fill (bindings texts (named earlier)) route.path.toList
  dotless : ∀ segment ∈ segments route.path.toList,
    isDots (fill (bindings texts (named payload)) segment) = false

end Requests

variable {texts : Flows.DispatchTexts} {route : PathRoute} {payload : Dict}

/-! ## The path -/

theorem takePath_path (rest : Dict) (path : List Char) (body : Dict) :
    (takePath texts rest path body).1 = substitute (bindings texts rest) path := by
  induction rest generalizing path body with
  | nil => rfl
  | cons entry rest ih =>
      obtain ⟨key, value⟩ := entry
      rw [takePath]
      split
      · exact ih _ _
      · next habsent =>
        have hzero := (occurrences_eq_zero (List.cons_ne_nil '\x7b' (key.toList ++ ['\x7d']))).mpr habsent
        have hkept : replace (placeholder key) (written texts value) path = path :=
          replace_of_occurrences_eq_zero _ hzero
        rw [ih]
        show _ = substitute (bindings texts rest) (replace (placeholder key) (written texts value) path)
        rw [hkept]

theorem buildUrl_path (texts : Flows.DispatchTexts) (route : RouteEntry) (payload : Dict) :
    (buildUrl texts route payload).path = substitute (bindings texts payload) route.path.toList := by
  rw [← takePath_path payload route.path.toList payload]
  rfl

variable {path : List Char}

theorem mem_substitute {rest : Dict} {letter : Char}
    (h : letter ∈ substitute (bindings texts rest) path) : letter ∈ path ∨ quoted letter = true := by
  induction rest generalizing path with
  | nil => exact .inl h
  | cons entry rest ih =>
      rcases ih h with hbefore | hquoted
      · exact (mem_of_mem_replace hbefore).imp_right quoted_of_mem_quote
      · exact .inr hquoted

theorem pathOf_substitute (route : PathRoute) (payload : Dict) :
    pathOf (substitute (bindings texts payload) route.path.toList) =
      substitute (bindings texts payload) route.path.toList := by
  refine List.takeWhile_eq_self_iff.mpr fun letter hletter => ?_
  have hother : letter ≠ '?' ∧ letter ≠ '#' := by
    rcases mem_substitute hletter with hroute | hquoted
    · constructor
      · rintro rfl
        exact route.plain.1 hroute
      · rintro rfl
        exact route.plain.2 hroute
    · constructor
      · rintro rfl
        exact absurd hquoted (by decide)
      · rintro rfl
        exact absurd hquoted (by decide)
  simp [hother.1, hother.2]

theorem substitute_slash (payload : Dict) (rest : List Char) :
    substitute (bindings texts payload) ('/' :: rest) =
      '/' :: substitute (bindings texts payload) rest := by
  induction payload generalizing rest with
  | nil => rfl
  | cons entry payload ih =>
      show substitute (bindings texts payload) (replace (placeholder entry.1) _ ('/' :: rest)) = _
      have hkept : replace (placeholder entry.1) (written texts entry.2) ('/' :: rest) =
          '/' :: replace (placeholder entry.1) (written texts entry.2) rest :=
        replace_cons (by decide) _ _
      rw [hkept, ih]
      rfl

/-! ## Names of placeholders -/

variable {key : String}

theorem plain_of_mem_named (h : key ∈ (named payload).map Prod.fst) :
    '\x7b' ∉ key.toList ∧ '\x7d' ∉ key.toList ∧ '/' ∉ key.toList := by
  obtain ⟨entry, hentry, rfl⟩ := List.mem_map.mp h
  exact of_decide_eq_true (List.mem_filter.mp hentry).2

theorem named_concat (h : nameable key = true) (earlier : Dict) (value : Value) :
    named (earlier ++ [(key, value)]) = named earlier ++ [(key, value)] := by
  rw [named, List.filter_append, List.filter_cons_of_pos (by exact h), List.filter_nil]
  rfl

theorem named_concat_other (h : nameable key = false) (earlier : Dict) (value : Value) :
    named (earlier ++ [(key, value)]) = named earlier := by
  rw [named, List.filter_append, List.filter_cons_of_neg (by simp [h]), List.filter_nil, List.append_nil]
  rfl

/-- One binding more. -/
theorem substitute_concat (earlier : Dict) (key : String) (value : Value) (path : List Char) :
    substitute (bindings texts (earlier ++ [(key, value)])) path =
      replace (placeholder key) (written texts value) (substitute (bindings texts earlier) path) := by
  rw [bindings, List.map_append, substitute, List.foldl_append]
  rfl

theorem bracketed_named (payload : Dict) :
    Bracketed '\x7b' '\x7d' (keysOf (bindings texts (named payload))) :=
  bracketed_bindings fun _ hkey => ⟨(plain_of_mem_named hkey).1, (plain_of_mem_named hkey).2.1⟩

theorem independent_named (payload : Dict) : Independent (keysOf (bindings texts (named payload))) :=
  independent_of_bracketed (by decide) (bracketed_named payload)

theorem slash_not_mem_named {key : List Char} (h : key ∈ keysOf (bindings texts (named payload))) :
    '/' ∉ key := by
  rw [keysOf_bindings] at h
  obtain ⟨name, hname, rfl⟩ := List.mem_map.mp h
  have hslash := (plain_of_mem_named hname).2.2
  simp [placeholder, bracketed, hslash]

theorem nodup_named (h : (payload.map Prod.fst).Nodup) :
    (keysOf (bindings texts (named payload))).Nodup :=
  nodup_placeholders ((List.filter_sublist.map Prod.fst).nodup h)

theorem slash_not_mem_value {binding : List Char × List Char} (h : binding ∈ bindings texts payload) :
    '/' ∉ binding.2 :=
  fun hslash => absurd (quoted_of_mem_binding h hslash) (by decide)

variable {earlier later : Dict}

theorem substitute_named
    (h : ∀ earlier key value later, payload = earlier ++ (key, value) :: later → nameable key = false →
      substitute (bindings texts earlier) path = substitute (bindings texts (named earlier)) path →
      occurrences (placeholder key) (substitute (bindings texts earlier) path) = 0)
    (hpayload : payload = earlier ++ later) :
    substitute (bindings texts earlier) path = substitute (bindings texts (named earlier)) path := by
  induction earlier using List.reverseRecOn generalizing later with
  | nil => rfl
  | append_singleton earlier entry ih =>
      obtain ⟨key, value⟩ := entry
      rw [List.append_assoc, List.singleton_append] at hpayload
      have hearlier := ih hpayload
      rw [substitute_concat]
      cases hname : nameable key with
      | true => rw [named_concat hname, substitute_concat, hearlier]
      | false =>
          have hzero := h earlier key value later hpayload hname hearlier
          rw [named_concat_other hname, replace_of_occurrences_eq_zero _ hzero, hearlier]

/-! ## Requests that keep to the route -/

theorem PathRoute.exists_rest (route : PathRoute) : ∃ rest, route.path.toList = '/' :: rest :=
  List.head?_eq_some_iff.mp route.rooted

theorem substitute_untouched (hnodup : (payload.map Prod.fst).Nodup)
    (huntouched : Untouched (bindings texts (named payload)) path)
    (hpayload : payload = earlier ++ later) :
    substitute (bindings texts (named earlier)) path = fill (bindings texts (named earlier)) path := by
  have hall := (substitute_eq_fill_iff (independent_named payload) (nodup_named hnodup) path).mpr huntouched
  have hnamed : named payload = named earlier ++ named later := by
    rw [hpayload]
    exact List.filter_append _ _
  have htake : (bindings texts (named payload)).take (named earlier).length =
      bindings texts (named earlier) := by
    rw [hnamed, bindings, List.map_append]
    exact List.take_left' (List.length_map _)
  have hlength : (named earlier).length ≤ (bindings texts (named payload)).length := by
    rw [hnamed, bindings, List.length_map, List.length_append]
    omega
  have hearlier := hall _ hlength
  rwa [htake] at hearlier

theorem fill_placeholder (hnodup : (payload.map Prod.fst).Nodup) {entry : String × Value}
    (hentry : entry ∈ named payload) :
    fill (bindings texts (named payload)) (placeholder entry.1) = written texts entry.2 := by
  have hkey : placeholder entry.1 ∈ keysOf (bindings texts (named payload)) := by
    rw [keysOf_bindings]
    exact List.mem_map_of_mem (List.mem_map_of_mem hentry)
  have hfill := fill_key (independent_named payload) hkey []
  have hmem : (placeholder entry.1, written texts entry.2) ∈ bindings texts (named payload) :=
    List.mem_map.mpr ⟨entry, hentry, rfl⟩
  rw [List.append_nil, lookup_of_mem (nodup_named hnodup) hmem] at hfill
  exact hfill.trans (List.append_nil _)

theorem segments_fill (payload : Dict) (route : PathRoute) :
    segments (fill (bindings texts (named payload)) route.path.toList) =
      (segments route.path.toList).map (fill (bindings texts (named payload))) := by
  obtain ⟨rest, hrest⟩ := route.exists_rest
  rw [hrest, fill_letter (find_other (bracketed_named payload) (by decide) rest)]
  exact splitOn_fill (independent_named payload) (fun _ => slash_not_mem_named)
    (fun _ => slash_not_mem_value) rest

theorem substitute_of_safe (hnodup : (payload.map Prod.fst).Nodup) (h : Safe texts route payload) :
    substitute (bindings texts payload) route.path.toList =
      fill (bindings texts (named payload)) route.path.toList := by
  have hall : payload = payload ++ [] := (List.append_nil payload).symm
  refine (substitute_named (fun earlier key value later hpayload hname hearlier => ?_) hall).trans
    (substitute_untouched hnodup h.untouched hall)
  rw [hearlier, substitute_untouched hnodup h.untouched hpayload]
  exact (occurrences_eq_zero (List.cons_ne_nil _ _)).mpr (h.hidden earlier key value later hpayload hname)

theorem routed_of_safe (hnodup : (payload.map Prod.fst).Nodup) (h : Safe texts route payload) :
    Routed texts route payload := by
  have hsegments : requested texts route payload =
      (segments route.path.toList).map (fill (bindings texts (named payload))) := by
    rw [requested, buildUrl_path, pathOf_substitute, substitute_of_safe hnodup h, segments_fill]
    refine removeDotSegments_eq fun segment hsegment => ?_
    obtain ⟨whole, hwhole, rfl⟩ := List.mem_map.mp hsegment
    exact h.dotless whole hwhole
  refine ⟨hsegments, fun entry hentry index hindex => ?_⟩
  rw [hsegments, List.getElem?_map, hindex, Option.map_some, Option.map_some,
    fill_placeholder hnodup hentry]
  exact congrArg some (percentDecode_quote _)

theorem count_slash_le (h : Routed texts route payload) :
    route.path.toList.count '/' ≤ (substitute (bindings texts payload) route.path.toList).count '/' := by
  obtain ⟨rest, hrest⟩ := route.exists_rest
  have hlength := congrArg List.length h.segments_eq
  have hle := length_removeDotSegments_le (segments (substitute (bindings texts payload) route.path.toList))
  rw [requested, buildUrl_path, pathOf_substitute, List.length_map] at hlength
  rw [hlength, hrest, substitute_slash] at hle
  rw [hrest, substitute_slash, List.count_cons_self, List.count_cons_self]
  show rest.count '/' + 1 ≤ (substitute (bindings texts payload) rest).count '/' + 1
  rw [← length_splitOn, ← length_splitOn]
  exact hle

theorem count_brace_le (h : Routed texts route payload) :
    (fill (bindings texts (named payload)) route.path.toList).count '\x7b' ≤
      (substitute (bindings texts payload) route.path.toList).count '\x7b' := by
  obtain ⟨rest, hrest⟩ := route.exists_rest
  have hle := count_removeDotSegments_le '\x7b'
    (segments (substitute (bindings texts payload) route.path.toList))
  have hrequested := h.segments_eq
  rw [requested, buildUrl_path, pathOf_substitute, ← segments_fill] at hrequested
  rw [hrequested, hrest, substitute_slash,
    fill_letter (find_other (bracketed_named payload) (by decide) rest)] at hle
  rw [hrest, substitute_slash, fill_letter (find_other (bracketed_named payload) (by decide) rest),
    List.count_cons_of_ne (by decide), List.count_cons_of_ne (by decide), ← count_splitOn (by decide),
    ← count_splitOn (by decide) (substitute (bindings texts payload) rest)]
  exact hle

theorem dotless_of_routed (h : Routed texts route payload) {segment : List Char}
    (hsegment : segment ∈ segments route.path.toList) :
    isDots (fill (bindings texts (named payload)) segment) = false := by
  have hmem : fill (bindings texts (named payload)) segment ∈ requested texts route payload := by
    rw [h.segments_eq]
    exact List.mem_map_of_mem hsegment
  exact isDots_of_mem hmem

/-- The route is safe if it is kept to, for fields whose names have no brace without a slash. -/
theorem safe_of_routed (hnodup : (payload.map Prod.fst).Nodup)
    (hnames : ∀ key ∈ payload.map Prod.fst, nameable key = true ∨ '/' ∈ key.toList)
    (h : Routed texts route payload) : Safe texts route payload := by
  have hnonempty : ∀ key ∈ keysOf (bindings texts payload), key ≠ [] := by
    rintro key hkey rfl
    rw [keysOf_bindings] at hkey
    obtain ⟨name, -, hname⟩ := List.mem_map.mp hkey
    exact List.cons_ne_nil _ _ hname
  -- A field with a slash in its name would take a slash away.
  have hzero : ∀ earlier key value later, payload = earlier ++ (key, value) :: later →
      nameable key = false →
      occurrences (placeholder key) (substitute (bindings texts earlier) route.path.toList) = 0 := by
    intro earlier key value later hpayload hname
    have hslash : '/' ∈ key.toList := by
      refine (hnames key ?_).resolve_left (by simp [hname])
      rw [hpayload]
      simp
    have hsplit : bindings texts payload = bindings texts earlier ++
        (placeholder key, written texts value) :: bindings texts later := by
      rw [hpayload, bindings, List.map_append, List.map_cons]
      rfl
    have hkey : '/' ∈ placeholder key := List.mem_cons_of_mem _ (List.mem_append_left _ hslash)
    have hvalues : ∀ binding ∈ bindings texts payload, '/' ∉ binding.2 := fun _ => slash_not_mem_value
    have hcount := count_slash_le h
    rw [hsplit] at hcount hnonempty hvalues
    exact occurrences_eq_zero_of_count hnonempty hvalues hkey hcount
  have hnamed : ∀ {earlier later : Dict}, payload = earlier ++ later →
      substitute (bindings texts earlier) route.path.toList =
        substitute (bindings texts (named earlier)) route.path.toList := fun hpayload =>
    substitute_named (fun earlier key value later hsplit hname _ =>
      hzero earlier key value later hsplit hname) hpayload
  have huntouched : Untouched (bindings texts (named payload)) route.path.toList := by
    have hcount := count_brace_le h
    rw [hnamed (List.append_nil payload).symm] at hcount
    refine (count_substitute (independent_named payload) (nodup_named hnodup) (fun key hkey => ?_)
      (fun binding hbinding => (unbracketed_bindings _ binding hbinding).1) _).2 hcount
    obtain ⟨name, rfl, -⟩ := bracketed_named payload key hkey
    exact List.mem_cons_self
  refine ⟨huntouched, fun earlier key value later hpayload hname => ?_, fun segment hsegment => ?_⟩
  · have hnone := hzero earlier key value later hpayload hname
    rw [hnamed hpayload, substitute_untouched hnodup huntouched hpayload] at hnone
    exact (occurrences_eq_zero (List.cons_ne_nil _ _)).mp hnone
  · exact dotless_of_routed h hsegment

theorem safe_of_append (hnodup : ((earlier ++ later).map Prod.fst).Nodup)
    (h : Safe texts route (earlier ++ later)) : Safe texts route earlier := by
  have hnamed : named (earlier ++ later) = named earlier ++ named later := List.filter_append _ _
  have hbindings : bindings texts (named (earlier ++ later)) =
      bindings texts (named earlier) ++ bindings texts (named later) := by
    rw [hnamed, bindings, List.map_append]
    rfl
  refine ⟨untouched_of_append (hbindings ▸ h.untouched), ?_, fun segment hsegment => ?_⟩
  · intro first key value second hsplit hname
    refine h.hidden first key value (second ++ later) ?_ hname
    rw [hsplit, List.append_assoc, List.cons_append]
  · -- A dot segment has no brace, and nothing more is put into it.
    by_contra hdots
    have hbrace : '\x7b' ∉ fill (bindings texts (named earlier)) segment := by
      intro hmem
      rcases eq_dots_of_isDots (Bool.eq_true_of_not_eq_false hdots) with heq | heq
      · rw [heq] at hmem
        exact absurd hmem (by decide)
      · rw [heq] at hmem
        exact absurd hmem (by decide)
    have hmore := fill_more (by decide) (bracketed_named (earlier ++ later)) (nodup_named hnodup)
      (by rw [hbindings]; exact List.subset_append_left _ _) hbrace
    exact hdots (by rw [← hmore]; exact h.dotless segment hsegment)

/-- A request that keeps to the route leaves it safe for one field more. -/
theorem safe_concat {earlier : Dict} {value : Value}
    (hnodup : ((earlier ++ [(key, value)]).map Prod.fst).Nodup) (hearlier : Safe texts route earlier)
    (h : Routed texts route (earlier ++ [(key, value)])) :
    Safe texts route (earlier ++ [(key, value)]) := by
  have hfirst : (earlier.map Prod.fst).Nodup :=
    ((List.prefix_append earlier [(key, value)]).map Prod.fst).sublist.nodup hnodup
  have hcount := count_brace_le h
  rw [substitute_concat, substitute_of_safe hfirst hearlier] at hcount
  have hnonempty : placeholder key ≠ [] := List.cons_ne_nil _ _
  have hvalue : '\x7b' ∉ written texts value := fun hmem => absurd (quoted_of_mem_quote hmem) (by decide)
  have hbrace : 0 < (placeholder key).count '\x7b' := List.count_pos_iff.mpr List.mem_cons_self
  have hreplace := count_replace hnonempty hvalue
    (fill (bindings texts (named earlier)) route.path.toList)
  -- A field before the last one is hidden as it has been.
  have hhidden : (nameable key = false →
      ¬ placeholder key <:+: fill (bindings texts (named earlier)) route.path.toList) →
      ∀ first other otherValue later,
        earlier ++ [(key, value)] = first ++ (other, otherValue) :: later → nameable other = false →
          ¬ placeholder other <:+: fill (bindings texts (named first)) route.path.toList := by
    intro hlast first other otherValue later hsplit hname
    induction later using List.reverseRecOn with
    | nil =>
        obtain ⟨rfl, heq⟩ := List.append_inj' hsplit rfl
        obtain ⟨rfl, rfl⟩ := Prod.mk.inj (List.cons.inj heq).1
        exact hlast hname
    | append_singleton later last _ =>
        rw [← List.cons_append, ← List.append_assoc] at hsplit
        exact hearlier.hidden first other otherValue later (List.append_inj' hsplit rfl).1 hname
  cases hname : nameable key with
  | true =>
      have hall : bindings texts (named (earlier ++ [(key, value)])) =
          bindings texts (named earlier) ++ [(placeholder key, written texts value)] := by
        rw [named_concat hname, bindings, List.map_append]
        rfl
      have hpool : Independent (keysOf (bindings texts (named (earlier ++ [(key, value)])))) :=
        independent_named _
      have hdistinct : (keysOf (bindings texts (named (earlier ++ [(key, value)])))).Nodup :=
        nodup_named hnodup
      rw [hall] at hpool hdistinct hcount
      have hkeys : keysOf (bindings texts (named earlier) ++ [(placeholder key, written texts value)]) =
          keysOf (bindings texts (named earlier)) ++ [placeholder key] := by simp [keysOf]
      rw [hkeys] at hpool hdistinct
      have hnot : placeholder key ∉ keysOf (bindings texts (named earlier)) := fun hmem =>
        (List.nodup_append.mp hdistinct).2.2 _ hmem _ (List.mem_singleton_self _) rfl
      have hsubset : keysOf (bindings texts (named earlier)) ⊆
          keysOf (bindings texts (named earlier)) ++ [placeholder key] := List.subset_append_left _ _
      have hfill := count_fill_concat hpool hsubset (by simp) hnot hvalue route.path.toList
      obtain ⟨more, hmore⟩ := Nat.exists_eq_add_of_le
        (occurrences_le_fill hpool hsubset (by simp) hnot route.path.toList)
      rw [hmore, Nat.add_mul] at hreplace
      have hnone : more = 0 := by
        by_contra hne
        have hproduct := Nat.mul_pos (Nat.pos_of_ne_zero hne) hbrace
        omega
      rw [hnone, Nat.add_zero] at hmore
      refine ⟨?_, hhidden (by simp [hname]), fun segment hsegment => dotless_of_routed h hsegment⟩
      rw [hall]
      exact untouched_concat hearlier.untouched hmore
  | false =>
      rw [named_concat_other hname] at hcount
      have hproduct : occurrences (placeholder key)
          (fill (bindings texts (named earlier)) route.path.toList) * (placeholder key).count '\x7b' = 0 := by
        omega
      have hzero := (Nat.mul_eq_zero.mp hproduct).resolve_right (Nat.ne_of_gt hbrace)
      refine ⟨?_, hhidden fun _ => (occurrences_eq_zero hnonempty).mp hzero,
        fun segment hsegment => dotless_of_routed h hsegment⟩
      rw [named_concat_other hname]
      exact hearlier.untouched

/-- **A payload and every part of it from its beginning keep to the route exactly if it is safe,** and the
payload alone does as long as no field has a brace but no slash in its name. -/
theorem keepsToRoute_iff (texts : Flows.DispatchTexts) (route : PathRoute) (payload : Dict)
    (hnodup : (payload.map Prod.fst).Nodup) :
    ((∀ earlier later, payload = earlier ++ later → Routed texts route earlier) ↔
        Safe texts route payload) ∧
      ((∀ key ∈ payload.map Prod.fst, nameable key = true ∨ '/' ∈ key.toList) →
        (Routed texts route payload ↔ Safe texts route payload)) := by
  refine ⟨⟨fun h => ?_, fun h earlier later hpayload => ?_⟩,
    fun hnames => ⟨safe_of_routed hnodup hnames, routed_of_safe hnodup⟩⟩
  · induction payload using List.reverseRecOn with
    | nil => exact safe_of_routed hnodup (fun _ hkey => by cases hkey) (h [] [] rfl)
    | append_singleton earlier entry ih =>
        have hfirst : (earlier.map Prod.fst).Nodup :=
          ((List.prefix_append earlier [entry]).map Prod.fst).sublist.nodup hnodup
        refine safe_concat hnodup (ih hfirst fun first second hsplit => ?_)
          (h _ [] (List.append_nil _).symm)
        exact h first (second ++ [entry]) (by rw [hsplit, List.append_assoc])
  · subst hpayload
    have hfirst : (earlier.map Prod.fst).Nodup :=
      ((List.prefix_append earlier later).map Prod.fst).sublist.nodup hnodup
    exact routed_of_safe hfirst (safe_of_append hnodup h)

/-- A route to an order. -/
def orderRoute : PathRoute where
  path := "/orders/\x7bid\x7d"
  rooted := by decide +kernel
  plain := by decide +kernel

/-- The number of an order is quoted. -/
theorem order_routed : Routed orderTexts orderRoute [("id", .str "../7")] := by
  refine ((keepsToRoute_iff orderTexts orderRoute [("id", .str "../7")] (by decide)).2
    (by decide)).mpr ⟨?_, ?_, ?_⟩
  · unfold Untouched
    decide +kernel
  · intro earlier key value later hpayload hname
    have hall : ∀ entry ∈ [("id", Value.str "../7")], nameable entry.1 = true := by decide
    have hkey := hall (key, value) (by rw [hpayload]; simp)
    rw [hname] at hkey
    cases hkey
  · decide +kernel

/-- The number `..` leads away from the orders, and a field whose name spans two placeholders to another
path. -/
theorem order_rerouted :
    ¬ Routed orderTexts orderRoute [("id", .str "..")] ∧
      ¬ Routed orderTexts ⟨⟨"/\x7bid\x7d/items/\x7bitem\x7d", [], []⟩, by decide +kernel, by decide +kernel⟩
        [("id\x7d/items/\x7bitem", .str "admin")] := by
  constructor
  · intro h
    have hsegments := h.segments_eq
    revert hsegments
    decide +kernel
  · intro h
    have hsegments := h.segments_eq
    revert hsegments
    decide +kernel

end Routing

end IntegrationPlatform
