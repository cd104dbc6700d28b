import IntegrationPlatform.Json.Injectivity

/-!
# Content hashes

`compute_content_hash` is the SHA-256 of the sorted JSON text of the relevant part of an event. If
SHA-256 is injective, two events have the same hash exactly if their relevant parts are the same, except
for the order of keys (`contentHash_eq_iff`).
-/

namespace IntegrationPlatform

namespace Sync

open Value (Alike Exact dumps)

/-- A field of an event that is hashed if no fields are listed. -/
def isContent (key : String) : Bool :=
  !List.isPrefixOf ['_'] key.toList && key != "account_name" && key != "polled_at"

/-- The fields of an event without its metadata. -/
def content (data : Dict) : Dict :=
  data.filter fun field => isContent field.1

/-- `{k: data.get(k) for k in hash_fields}`. -/
def listedFields (data : Dict) (hashFields : List String) : Dict :=
  hashFields.foldl (fun subset key => Assoc.put subset key ((Assoc.find data key).getD .null)) []

/-- All of an event is hashed. -/
def hashesAll (hashFields : Option (List String)) : Bool :=
  match hashFields with
  | none => true
  | some fields => fields.isEmpty || fields == ["*"]

/-- `subset`. -/
def hashedPart (data : Dict) (hashFields : Option (List String)) : Dict :=
  if hashesAll hashFields then content data else listedFields data (hashFields.getD [])

/-- `compute_content_hash`, where `repr` writes a float. -/
def computeContentHash (sha256 : String → String) (repr : Rat → String) (data : Dict)
    (hashFields : Option (List String)) : String :=
  sha256 (dumps repr (.dict (hashedPart data hashFields)))

/-- The events do not differ in what is hashed. -/
def SameContent (hashFields : Option (List String)) (data data' : Dict) : Prop :=
  if hashesAll hashFields then Alike (.dict (content data)) (.dict (content data'))
  else ∀ key ∈ hashFields.getD [],
    Alike ((Assoc.find data key).getD .null) ((Assoc.find data' key).getD .null)

section Listed

variable {data : Dict}

theorem nodup_listedFields (data : Dict) (hashFields : List String) :
    ((listedFields data hashFields).map Prod.fst).Nodup := by
  have hfold : ∀ (keys : List String) (subset : Dict), (subset.map Prod.fst).Nodup →
      ((keys.foldl (fun subset key => Assoc.put subset key ((Assoc.find data key).getD .null)) subset).map
        Prod.fst).Nodup := by
    intro keys
    induction keys with
    | nil => exact fun _ h => h
    | cons key rest ih => exact fun subset h => ih _ (Assoc.nodup_put h key _)
  exact hfold hashFields [] List.nodup_nil

theorem find_listedFields (data : Dict) (hashFields : List String) (key : String) :
    Assoc.find (listedFields data hashFields) key =
      if key ∈ hashFields then some ((Assoc.find data key).getD .null) else none := by
  have hfold : ∀ (keys : List String) (subset : Dict),
      Assoc.find (keys.foldl (fun subset key =>
          Assoc.put subset key ((Assoc.find data key).getD .null)) subset) key =
        if key ∈ keys then some ((Assoc.find data key).getD .null) else Assoc.find subset key := by
    intro keys
    induction keys with
    | nil => intro subset; simp
    | cons first rest ih =>
        intro subset
        rw [List.foldl_cons, ih, Assoc.find_put]
        by_cases hrest : key ∈ rest
        · rw [if_pos hrest, if_pos (List.mem_cons_of_mem _ hrest)]
        · by_cases hfirst : first = key
          · rw [if_neg hrest, if_pos hfirst, if_pos (List.mem_cons.mpr (.inl hfirst.symm)), hfirst]
          · have hnot : key ∉ first :: rest :=
              fun hmem => (List.mem_cons.mp hmem).elim (Ne.symm hfirst) hrest
            rw [if_neg hrest, if_neg hfirst, if_neg hnot]
  exact hfold hashFields []

theorem exact_hashedPart (h : Exact (.dict data)) (hashFields : Option (List String)) :
    Exact (.dict (hashedPart data hashFields)) := by
  cases h with
  | dict hkeys hfields =>
      unfold hashedPart
      split
      · exact .dict ((List.filter_sublist.map Prod.fst).nodup hkeys)
          fun field hfield => hfields field (List.mem_of_mem_filter hfield)
      · refine .dict (nodup_listedFields data _) fun field hfield => ?_
        obtain ⟨key, value⟩ := field
        have hfind := Assoc.find_of_mem (nodup_listedFields data _) hfield
        rw [find_listedFields] at hfind
        split at hfind
        · obtain rfl := Option.some.inj hfind
          cases hvalue : Assoc.find data key with
          | none => exact .null
          | some value => exact hfields _ (Assoc.mem_of_find hvalue)
        · cases hfind

theorem alike_listedFields_iff (data data' : Dict) (hashFields : List String) :
    Alike (.dict (listedFields data hashFields)) (.dict (listedFields data' hashFields)) ↔
      ∀ key ∈ hashFields,
        Alike ((Assoc.find data key).getD .null) ((Assoc.find data' key).getD .null) := by
  constructor
  · intro h key hkey
    have hfind : ∀ data : Dict, Assoc.find (listedFields data hashFields) key =
        some ((Assoc.find data key).getD .null) := by
      intro data
      rw [find_listedFields, if_pos hkey]
    generalize hleft : Value.dict (listedFields data hashFields) = left at h
    generalize hright : Value.dict (listedFields data' hashFields) = right at h
    cases h with
    | same =>
        have hfields := Value.dict.inj (hleft.trans hright.symm)
        have hvalues := (hfind data).symm.trans ((congrArg (Assoc.find · key) hfields).trans (hfind data'))
        rw [Option.some.inj hvalues]
        exact .same _
    | object hhas hchildren =>
        obtain rfl := Value.dict.inj hleft
        obtain rfl := Value.dict.inj hright
        exact hchildren key _ _ (hfind data) (hfind data')
    | array => cases hleft
  · intro h
    refine .object (fun key => ?_) fun key child child' hchild hchild' => ?_
    · unfold Assoc.has
      rw [find_listedFields, find_listedFields]
      split <;> rfl
    · rw [find_listedFields] at hchild hchild'
      split at hchild
      · next hkey =>
        rw [if_pos hkey] at hchild'
        obtain rfl := Option.some.inj hchild
        obtain rfl := Option.some.inj hchild'
        exact h key hkey
      · cases hchild

end Listed

/-- If SHA-256 is injective, two events without floats have the same hash exactly if they do not differ
in what is hashed, except for the order of keys. -/
theorem contentHash_eq_iff {sha256 : String → String} (hinjective : Function.Injective sha256)
    (repr : Rat → String) (hashFields : Option (List String)) {data data' : Dict}
    (h : Exact (.dict data)) (h' : Exact (.dict data')) :
    computeContentHash sha256 repr data hashFields = computeContentHash sha256 repr data' hashFields ↔
      SameContent hashFields data data' := by
  unfold computeContentHash
  rw [hinjective.eq_iff,
    Value.dumps_eq_iff_alike (exact_hashedPart h hashFields) (exact_hashedPart h' hashFields)]
  unfold hashedPart SameContent
  split
  · rfl
  · exact alike_listedFields_iff data data' _

/-! ## A sample -/

/-- SHA-256 on one text, and something else that is injective on the others. -/
def digest (text : String) : String :=
  if text = "\x7b\"total\": 7\x7d" then
    "93697d4adb2da5a8a5912f80684d1d4cf2cf14dafe05cfd69fb1812b15e396eb"
  else "x" ++ text

theorem digest_injective : Function.Injective digest := by
  have hne : ∀ text : String,
      "93697d4adb2da5a8a5912f80684d1d4cf2cf14dafe05cfd69fb1812b15e396eb" ≠ "x" ++ text := by
    intro text heq
    have hlist := congrArg String.toList heq
    rw [String.toList_append] at hlist
    exact absurd (List.head_eq_of_cons_eq hlist) (by decide)
  intro text text' h
  unfold digest at h
  split at h
  · next heq =>
    split at h
    · next heq' => rw [heq, heq']
    · exact absurd h (hne _)
  · split at h
    · exact absurd h.symm (hne _)
    · have hlist := congrArg String.toList h
      rw [String.toList_append, String.toList_append] at hlist
      exact String.toList_inj.mp (List.append_cancel_left hlist)

/-- The time of a poll and internal fields are not hashed. -/
theorem contentHash_metadata :
    computeContentHash digest (fun _ => "") [("total", .int 7), ("_source", .null)] none =
      computeContentHash digest (fun _ => "") [("polled_at", .str "noon"), ("total", .int 7)] none := by
  have hfirst : Exact (.dict [("total", .int 7), ("_source", .null)]) := by
    refine .dict (by decide) fun field hfield => ?_
    rcases List.mem_cons.mp hfield with rfl | hlast
    · exact .int 7
    · rw [List.mem_singleton.mp hlast]
      exact .null
  have hsecond : Exact (.dict [("polled_at", .str "noon"), ("total", .int 7)]) := by
    refine .dict (by decide) fun field hfield => ?_
    rcases List.mem_cons.mp hfield with rfl | hlast
    · exact .str "noon"
    · rw [List.mem_singleton.mp hlast]
      exact .int 7
  exact (contentHash_eq_iff digest_injective (fun _ => "") none hfirst hsecond).mpr (.same _)

end Sync

end IntegrationPlatform
