import IntegrationPlatform.Json.Value
import Mathlib.Data.List.Nodup

/-!
# Fields of dictionaries

Dictionaries are association lists whose keys are distinct. What writes and removals do to the keys,
what is found after them, and when two dictionaries are the same.
-/

namespace IntegrationPlatform

namespace Assoc

variable {α β : Type}

/-! ## Keys -/

theorem mem_keys_put (fields : Assoc α) (key key' : String) (value : α) :
    key' ∈ (fields.put key value).map Prod.fst ↔ key' = key ∨ key' ∈ fields.map Prod.fst := by
  induction fields with
  | nil => simp [put]
  | cons field rest ih =>
      by_cases hkey : field.1 = key
      · simp [put, hkey]
      · rw [put, if_neg hkey, List.map_cons, List.mem_cons, ih, List.map_cons, List.mem_cons]
        tauto

variable {fields : Assoc α}

theorem nodup_put (h : (fields.map Prod.fst).Nodup) (key : String) (value : α) :
    ((fields.put key value).map Prod.fst).Nodup := by
  induction fields with
  | nil => simp [put]
  | cons field rest ih =>
      rw [List.map_cons, List.nodup_cons] at h
      by_cases hkey : field.1 = key
      · rw [put, if_pos hkey, List.map_cons, List.nodup_cons, ← hkey]
        exact h
      · rw [put, if_neg hkey, List.map_cons, List.nodup_cons, mem_keys_put]
        exact ⟨fun hmem => hmem.elim hkey h.1, ih h.2⟩

variable {key : String}

theorem has_iff :
    fields.has key = true ↔ key ∈ fields.map Prod.fst := by
  constructor
  · intro h
    obtain ⟨value, hvalue⟩ := Option.isSome_iff_exists.mp h
    exact List.mem_map.mpr ⟨_, mem_of_find hvalue, rfl⟩
  · intro h
    induction fields with
    | nil => cases h
    | cons field rest ih =>
        rw [has, find]
        split
        · rfl
        · next hkey =>
          rcases List.mem_cons.mp h with heq | hrest
          · exact absurd heq.symm hkey
          · exact ih hrest

theorem keys_put (h : key ∈ fields.map Prod.fst) (value : α) :
    (fields.put key value).map Prod.fst = fields.map Prod.fst := by
  induction fields with
  | nil => cases h
  | cons field rest ih =>
      rw [put]
      split
      · next hkey => rw [List.map_cons, List.map_cons, hkey]
      · next hkey =>
        rcases List.mem_cons.mp h with heq | hrest
        · exact absurd heq.symm hkey
        · rw [List.map_cons, List.map_cons, ih hrest]

/-! ## What is found -/

theorem find_filter (fields : Assoc α) (kept : String → Bool) (key : String) :
    Assoc.find (fields.filter fun field => kept field.1) key =
      if kept key then fields.find key else none := by
  induction fields with
  | nil => simp [find]
  | cons field rest ih =>
      by_cases hkept : kept field.1 = true
      · rw [List.filter_cons_of_pos (by exact hkept), find, ih, find]
        by_cases hkey : field.1 = key
        · rw [if_pos hkey, if_pos hkey, if_pos (hkey ▸ hkept)]
        · rw [if_neg hkey, if_neg hkey]
      · rw [List.filter_cons_of_neg (by exact hkept), ih, find]
        by_cases hkey : field.1 = key
        · rw [if_neg (hkey ▸ hkept), if_neg (hkey ▸ hkept)]
        · rw [if_neg hkey]

theorem find_filter_key (fields : Assoc α) (gone key : String) :
    Assoc.find (fields.filter fun field => field.1 ≠ gone) key =
      if key = gone then none else fields.find key := by
  have h := find_filter fields (fun key => decide (key ≠ gone)) key
  rw [h]
  by_cases hkey : key = gone <;> simp [hkey]

theorem find_map (fields : Assoc α) (change : String → α → β) (key : String) :
    Assoc.find (fields.map fun field => (field.1, change field.1 field.2)) key =
      (fields.find key).map (change key) := by
  induction fields with
  | nil => rfl
  | cons field rest ih =>
      rw [List.map_cons, find, find]
      by_cases hkey : field.1 = key
      · rw [if_pos hkey, if_pos hkey, hkey]
        rfl
      · rw [if_neg hkey, if_neg hkey, ih]

theorem find_filterMap (h : (fields.map Prod.fst).Nodup)
    (change : String → α → Option β) (key : String) :
    Assoc.find (fields.filterMap fun field => (change field.1 field.2).map (Prod.mk field.1)) key =
      (fields.find key).bind (change key) := by
  induction fields with
  | nil => rfl
  | cons field rest ih =>
      rw [List.map_cons, List.nodup_cons] at h
      rw [find]
      by_cases hkey : field.1 = key
      · rw [if_pos hkey, Option.bind_some]
        cases hchange : change field.1 field.2 with
        | none =>
            rw [List.filterMap_cons_none (by rw [hchange]; rfl), ih h.2,
              find_eq_none (hkey ▸ h.1), ← hkey, hchange]
            rfl
        | some value =>
            rw [List.filterMap_cons_some (b := (field.1, value)) (by rw [hchange]; rfl), find,
              if_pos hkey, ← hkey, hchange]
      · rw [if_neg hkey, ← ih h.2]
        cases hchange : change field.1 field.2 with
        | none => rw [List.filterMap_cons_none (by rw [hchange]; rfl)]
        | some value =>
            rw [List.filterMap_cons_some (b := (field.1, value)) (by rw [hchange]; rfl), find,
              if_neg hkey]

/-- The fields that are kept and changed are the same for two dictionaries with the same keys if and only
if each value is kept and changed to the same. -/
theorem filterMap_eq_iff {fields fields' : Assoc α} (hkeys : fields.map Prod.fst = fields'.map Prod.fst)
    (hnodup : (fields.map Prod.fst).Nodup) (change change' : String → α → Option β) :
    (fields.filterMap fun field => (change field.1 field.2).map (Prod.mk field.1)) =
        (fields'.filterMap fun field => (change' field.1 field.2).map (Prod.mk field.1)) ↔
      ∀ key, (fields.find key).bind (change key) = (fields'.find key).bind (change' key) := by
  constructor
  · intro heq key
    rw [← find_filterMap hnodup, ← find_filterMap (hkeys ▸ hnodup), heq]
  · intro hfind
    induction fields generalizing fields' with
    | nil =>
        obtain rfl := List.map_eq_nil_iff.mp hkeys.symm
        rfl
    | cons field rest ih =>
        cases fields' with
        | nil => cases hkeys
        | cons field' rest' =>
            rw [List.map_cons, List.map_cons, List.cons.injEq] at hkeys
            obtain ⟨hkey, hrest⟩ := hkeys
            rw [List.map_cons, List.nodup_cons] at hnodup
            have hvalue : change field.1 field.2 = change' field'.1 field'.2 := by
              have h := hfind field.1
              rw [find, if_pos rfl, find, if_pos hkey.symm] at h
              rw [← hkey]
              exact h
            have htail := ih hrest hnodup.2 fun key => by
              by_cases heq : field.1 = key
              · rw [find_eq_none (heq ▸ hnodup.1), find_eq_none (heq ▸ hrest ▸ hnodup.1)]
                rfl
              · have h := hfind key
                rwa [find, if_neg heq, find, if_neg (hkey ▸ heq)] at h
            rw [List.filterMap_cons, List.filterMap_cons, htail, hvalue, hkey]

theorem ext_find {fields fields' : Assoc α} (hkeys : fields.map Prod.fst = fields'.map Prod.fst)
    (hnodup : (fields.map Prod.fst).Nodup) (hfind : ∀ key, fields.find key = fields'.find key) :
    fields = fields' := by
  have hkept : ∀ fields : Assoc α,
      (fields.filterMap fun field => (some field.2).map (Prod.mk field.1)) = fields :=
    fun _ => List.filterMap_some
  rw [← hkept fields, ← hkept fields']
  exact (filterMap_eq_iff hkeys hnodup (fun _ value => some value) fun _ value => some value).mpr
    fun key => by rw [hfind key]

/-! ## Changes in place -/

/-- `d[key] = change(d[key])`, if the key is there. -/
def update (fields : Assoc α) (key : String) (change : α → α) : Assoc α :=
  match fields.find key with
  | some value => fields.put key (change value)
  | none => fields

theorem keys_update (fields : Assoc α) (key : String) (change : α → α) :
    (fields.update key change).map Prod.fst = fields.map Prod.fst := by
  unfold update
  cases hfind : fields.find key with
  | none => rfl
  | some value => exact keys_put (List.mem_map.mpr ⟨_, mem_of_find hfind, rfl⟩) _

theorem find_update (fields : Assoc α) (key key' : String) (change : α → α) :
    (fields.update key change).find key' =
      (fields.find key').map fun value => if key = key' then change value else value := by
  unfold update
  cases hfind : fields.find key with
  | none =>
      by_cases hkey : key = key'
      · rw [← hkey, hfind]
        rfl
      · simp [hkey]
  | some value =>
      by_cases hkey : key = key'
      · simp [find_put, ← hkey, hfind]
      · simp [find_put, hkey]

theorem keys_foldl_update (key : β → String) (change : β → α → α) (items : List β)
    (fields : Assoc α) :
    (items.foldl (fun fields item => fields.update (key item) (change item)) fields).map Prod.fst =
      fields.map Prod.fst := by
  induction items generalizing fields with
  | nil => rfl
  | cons item items ih => rw [List.foldl_cons, ih, keys_update]

theorem find_foldl_update (key : β → String) (change : β → α → α) (items : List β)
    (fields : Assoc α) (key' : String) :
    Assoc.find (items.foldl (fun fields item => fields.update (key item) (change item)) fields) key' =
      (fields.find key').map fun value =>
        items.foldl (fun value item => if key item = key' then change item value else value) value := by
  induction items generalizing fields with
  | nil => simp
  | cons item items ih =>
      rw [List.foldl_cons, ih, find_update, Option.map_map]
      rfl

/-! ## Merges -/

theorem mem_keys_merge (left right : Assoc α) (key : String) :
    key ∈ (left.merge right).map Prod.fst ↔
      key ∈ left.map Prod.fst ∨ key ∈ right.map Prod.fst := by
  induction right generalizing left with
  | nil => simp [merge]
  | cons field rest ih =>
      have hstep : left.merge (field :: rest) = (left.put field.1 field.2).merge rest := rfl
      rw [hstep, ih, mem_keys_put, List.map_cons, List.mem_cons]
      tauto

theorem nodup_merge {left : Assoc α} (h : (left.map Prod.fst).Nodup) (right : Assoc α) :
    ((left.merge right).map Prod.fst).Nodup := by
  induction right generalizing left with
  | nil => exact h
  | cons field rest ih => exact ih (nodup_put h field.1 field.2)

variable {left right : Assoc α}

theorem keys_merge (h : ∀ key ∈ right.map Prod.fst, key ∈ left.map Prod.fst) :
    (left.merge right).map Prod.fst = left.map Prod.fst := by
  induction right generalizing left with
  | nil => rfl
  | cons field rest ih =>
      have hkeys := keys_put (h field.1 List.mem_cons_self) field.2
      have hstep : left.merge (field :: rest) = (left.put field.1 field.2).merge rest := rfl
      rw [hstep, ih, hkeys]
      intro key hkey
      rw [hkeys]
      exact h key (List.mem_cons_of_mem _ hkey)

theorem put_of_not_mem (h : key ∉ fields.map Prod.fst) (value : α) :
    fields.put key value = fields ++ [(key, value)] := by
  induction fields with
  | nil => rfl
  | cons field rest ih =>
      rw [List.map_cons, List.mem_cons, not_or] at h
      rw [put, if_neg (Ne.symm h.1), ih h.2]
      rfl

theorem merge_nodup (h : ((left ++ right).map Prod.fst).Nodup) :
    left.merge right = left ++ right := by
  induction right generalizing left with
  | nil => simp [merge]
  | cons field rest ih =>
      have hstep : left.merge (field :: rest) = (left.put field.1 field.2).merge rest := rfl
      have hnot : field.1 ∉ left.map Prod.fst := by
        intro hmem
        rw [List.map_append, List.map_cons] at h
        exact (List.nodup_append.mp h).2.2 field.1 hmem field.1 List.mem_cons_self rfl
      rw [hstep, put_of_not_mem hnot, ih]
      · exact List.append_assoc _ _ _
      · rw [List.append_assoc]
        exact h

theorem find_merge_left (h : key ∉ right.map Prod.fst) :
    (left.merge right).find key = left.find key := by
  induction right generalizing left with
  | nil => rfl
  | cons field rest ih =>
      rw [List.map_cons, List.mem_cons, not_or] at h
      have hstep : left.merge (field :: rest) = (left.put field.1 field.2).merge rest := rfl
      rw [hstep, ih h.2, find_put, if_neg (Ne.symm h.1)]

theorem find_merge_right (left left' : Assoc α) {right : Assoc α}
    (h : key ∈ right.map Prod.fst) : (left.merge right).find key = (left'.merge right).find key := by
  induction right generalizing left left' with
  | nil => cases h
  | cons field rest ih =>
      have hstep : ∀ left : Assoc α,
          left.merge (field :: rest) = (left.put field.1 field.2).merge rest := fun _ => rfl
      rw [hstep, hstep]
      by_cases hrest : key ∈ rest.map Prod.fst
      · exact ih _ _ hrest
      · have hkey : field.1 = key := ((List.mem_cons.mp h).resolve_right hrest).symm
        rw [find_merge_left hrest, find_merge_left hrest, find_put, find_put, if_pos hkey, if_pos hkey]

theorem find_merge (left : Assoc α) {right : Assoc α} (h : (right.map Prod.fst).Nodup) (key : String) :
    (left.merge right).find key = (right.find key).or (left.find key) := by
  induction right generalizing left with
  | nil => rfl
  | cons field rest ih =>
      have hstep : left.merge (field :: rest) = (left.put field.1 field.2).merge rest := rfl
      rw [List.map_cons, List.nodup_cons] at h
      rw [hstep, ih _ h.2, find_put, find]
      split
      · next hkey => rw [find_eq_none (hkey ▸ h.1), Option.none_or, Option.some_or]
      · rfl

theorem find_of_mem (h : (fields.map Prod.fst).Nodup) {value : α}
    (hmem : (key, value) ∈ fields) : fields.find key = some value := by
  induction fields with
  | nil => cases hmem
  | cons field rest ih =>
      rw [List.map_cons, List.nodup_cons] at h
      rw [find]
      rcases List.mem_cons.mp hmem with heq | hrest
      · rw [← heq, if_pos rfl]
      · have hne : field.1 ≠ key := by
          rintro rfl
          exact h.1 (List.mem_map.mpr ⟨_, hrest, rfl⟩)
        rw [if_neg hne, ih h.2 hrest]

end Assoc

end IntegrationPlatform
