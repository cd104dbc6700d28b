import IntegrationPlatform.Texts.Substitution

/-!
# Keys in brackets

Keys that are names between an opening and a closing bracket cannot overlap. For values without brackets,
`infix_fill_iff` says when a key comes out of a substitution, and `count_substitute` that a text in which
the keys are replaced one after the other has as many brackets as with all values put in at once only if
both are the same.
-/

namespace IntegrationPlatform

namespace Substitution

variable {α : Type} [DecidableEq α] {letter : α}

theorem mem_front_of_append_eq {text behind before rest : List α}
    (h : text ++ behind = before ++ letter :: rest) (hlength : before.length < text.length) :
    letter ∈ text := by
  rcases List.append_eq_append_iff.mp h with ⟨more, rfl, -⟩ | ⟨more, rfl, hmore⟩
  · rw [List.length_append] at hlength
    omega
  · cases more with
    | nil =>
        rw [List.append_nil] at hlength
        omega
    | cons head more =>
        obtain ⟨rfl, -⟩ := List.cons.inj hmore
        simp

theorem append_letter_inj {first second rest rest' : List α} (hfirst : letter ∉ first)
    (hsecond : letter ∉ second) (h : first ++ letter :: rest = second ++ letter :: rest') :
    first = second ∧ rest = rest' := by
  rcases lt_trichotomy first.length second.length with hlt | heq | hgt
  · exact absurd (mem_front_of_append_eq h.symm hlt) hsecond
  · obtain ⟨hsame, hrest⟩ := List.append_inj h heq
    exact ⟨hsame, (List.cons.inj hrest).2⟩
  · exact absurd (mem_front_of_append_eq h hgt) hfirst

/-! ## Filling in steps -/

section Steps

variable {bindings : List (List α × List α)} {pool : List (List α)}

theorem induction_on_keys {keys : List (List α)} {motive : List α → Prop} (nil : motive [])
    (key : ∀ key ∈ keys, key ≠ [] → ∀ rest, motive rest → motive (key ++ rest))
    (plain : ∀ head rest, (oneOf keys).find (head :: rest) = none → motive rest → motive (head :: rest))
    (text : List α) : motive text := by
  induction text using (oneOf keys).induction with
  | nil => exact nil
  | found text length hfind ih =>
      obtain ⟨first, hfirst, hne, ⟨rest, rfl⟩, rfl⟩ := find_eq_some hfind
      rw [List.drop_left' rfl] at ih
      exact key first hfirst hne rest ih
  | letter head rest hfind ih => exact plain head rest hfind ih

theorem fill_letter {rest : List α} (h : (oneOf (keysOf bindings)).find (letter :: rest) = none) :
    fill bindings (letter :: rest) = letter :: fill bindings rest :=
  Pattern.sub_letter _ h

theorem fill_key (hpool : Independent (keysOf bindings)) {key : List α} (hkey : key ∈ keysOf bindings)
    (rest : List α) :
    fill bindings (key ++ rest) = (bindings.lookup key).getD key ++ fill bindings rest := by
  have hfind := find_key hpool (List.Subset.refl _) hkey rest
  rw [fill, Pattern.sub_found _ hfind, List.take_left' rfl, List.drop_left' rfl]
  rfl

theorem exists_value {key : List α} (hkey : key ∈ keysOf bindings) :
    ∃ value, bindings.lookup key = some value ∧ (key, value) ∈ bindings := by
  induction bindings with
  | nil => cases hkey
  | cons binding rest ih =>
      by_cases heq : key = binding.1
      · exact ⟨binding.2, by rw [List.lookup_cons, heq, beq_self_eq_true], by rw [heq]; simp⟩
      · obtain ⟨value, hlookup, hmem⟩ := ih ((List.mem_cons.mp hkey).resolve_left heq)
        refine ⟨value, ?_, List.mem_cons_of_mem _ hmem⟩
        rw [List.lookup_cons, beq_eq_false_iff_ne.mpr heq, hlookup]

theorem lookup_of_mem (hnodup : (keysOf bindings).Nodup) {key value : List α}
    (h : (key, value) ∈ bindings) : bindings.lookup key = some value := by
  induction bindings with
  | nil => cases h
  | cons binding rest ih =>
      obtain ⟨hfresh, hrest⟩ := List.nodup_cons.mp hnodup
      rcases List.mem_cons.mp h with rfl | hmem
      · rw [List.lookup_cons, beq_self_eq_true]
      · have hother : key ≠ binding.1 := by
          rintro rfl
          exact hfresh (List.mem_map.mpr ⟨_, hmem, rfl⟩)
        rw [List.lookup_cons, beq_eq_false_iff_ne.mpr hother]
        exact ih hrest hmem

/-- A letter that is in no value stands in the text itself, at a place where no key begins. -/
theorem fill_split (hpool : Independent (keysOf bindings))
    (hvalues : ∀ binding ∈ bindings, letter ∉ binding.2) {text front rest : List α}
    (h : fill bindings text = front ++ letter :: rest) :
    ∃ front' rest', text = front' ++ letter :: rest' ∧ fill bindings front' = front ∧
      fill bindings rest' = rest ∧ (oneOf (keysOf bindings)).find (letter :: rest') = none := by
  induction text using (@induction_on_keys _ _ (keysOf bindings)) generalizing front with
  | nil => simp [fill, Pattern.sub, Pattern.parts_nil] at h
  | key key hkey hne text ih =>
      obtain ⟨value, hlookup, hmem⟩ := exists_value hkey
      rw [fill_key hpool hkey, hlookup, Option.getD_some] at h
      -- The letter is not in the value, which therefore ends before it.
      have hbehind : value.length ≤ front.length := by
        by_contra hlt
        exact hvalues _ hmem (mem_front_of_append_eq h (Nat.lt_of_not_le hlt))
      obtain ⟨more, rfl⟩ : ∃ more, front = value ++ more := by
        obtain ⟨more, hmore⟩ := List.prefix_of_prefix_length_le ⟨_, h⟩ (List.prefix_append front _) hbehind
        exact ⟨more, hmore.symm⟩
      rw [List.append_assoc] at h
      obtain ⟨front', rest', rfl, rfl, hrest, hnone⟩ := ih (List.append_cancel_left h)
      refine ⟨key ++ front', rest', (List.append_assoc _ _ _).symm, ?_, hrest, hnone⟩
      rw [fill_key hpool hkey, hlookup, Option.getD_some]
  | plain head text hnone ih =>
      rw [fill_letter hnone] at h
      cases front with
      | nil =>
          obtain ⟨rfl, hrest⟩ := List.cons.inj h
          exact ⟨[], text, rfl, rfl, hrest, hnone⟩
      | cons first front =>
          obtain ⟨rfl, htail⟩ := List.cons.inj h
          obtain ⟨front', rest', rfl, hfront, hrest, hnone'⟩ := ih htail
          refine ⟨head :: front', rest', rfl, ?_, hrest, hnone'⟩
          -- No key begins with the letter in the longer text, and so none does in the shorter one.
          have hshort : (oneOf (keysOf bindings)).find (head :: front') = none := by
            refine find_eq_none fun key hkey hne hbegins => ?_
            refine not_prefix_of_find_eq_none hnone hkey hne (hbegins.trans ?_)
            exact List.prefix_append (head :: front') (letter :: rest')
          rw [fill_letter hshort, hfront]

theorem find_append_letter {keys : List (List α)}
    (hkeys : ∀ key ∈ keys, letter ∉ key.tail) {text : List α} (hne : text ≠ []) (rest : List α) :
    (oneOf keys).find (text ++ letter :: rest) = (oneOf keys).find text := by
  have hbegins : ∀ key ∈ keys, key <+: text ++ letter :: rest ↔ key <+: text := by
    intro key hkey
    refine ⟨?_, fun h => h.trans (List.prefix_append _ _)⟩
    rintro ⟨behind, hbehind⟩
    by_contra hnot
    have hlong : text.length < key.length := by
      by_contra hle
      exact hnot (List.prefix_of_prefix_length_le ⟨behind, hbehind⟩ (List.prefix_append _ _)
        (Nat.le_of_not_lt hle))
    obtain ⟨head, tail, rfl⟩ := List.exists_cons_of_ne_nil hne
    cases key with
    | nil => exact absurd hlong (Nat.not_lt_zero _)
    | cons first name =>
        have htail : name ++ behind = tail ++ letter :: rest := (List.cons.inj hbehind).2
        exact hkeys _ hkey (mem_front_of_append_eq htail (Nat.lt_of_succ_lt_succ hlong))
  unfold oneOf
  refine congrArg (Option.map List.length) (List.find?_congr fun key hkey => ?_)
  rw [Bool.eq_iff_iff, Bool.and_eq_true, Bool.and_eq_true, List.isPrefixOf_iff_prefix,
    List.isPrefixOf_iff_prefix, hbegins key hkey]

theorem fill_append_letter (hpool : Independent (keysOf bindings))
    (hkeys : ∀ key ∈ keysOf bindings, letter ∉ key.tail) (text rest : List α) :
    fill bindings (text ++ letter :: rest) = fill bindings text ++ fill bindings (letter :: rest) := by
  induction text using (@induction_on_keys _ _ (keysOf bindings)) with
  | nil => rfl
  | key key hkey hne text ih =>
      rw [List.append_assoc, fill_key hpool hkey, fill_key hpool hkey, ih, List.append_assoc]
  | plain head text hnone ih =>
      have hlong : (oneOf (keysOf bindings)).find (head :: (text ++ letter :: rest)) = none :=
        (find_append_letter hkeys (List.cons_ne_nil head text) rest).trans hnone
      rw [List.cons_append, fill_letter hlong, fill_letter hnone, ih, List.cons_append]

end Steps

/-! ## Names in brackets -/

/-- A name between brackets. -/
def bracketed (opening closing : α) (name : List α) : List α :=
  opening :: (name ++ [closing])

/-- Every key is a name without brackets, between brackets. -/
def Bracketed (opening closing : α) (keys : List (List α)) : Prop :=
  ∀ key ∈ keys, ∃ name, key = bracketed opening closing name ∧ opening ∉ name ∧ closing ∉ name

/-- No value has a bracket. -/
def Unbracketed (opening closing : α) (bindings : List (List α × List α)) : Prop :=
  ∀ binding ∈ bindings, opening ∉ binding.2 ∧ closing ∉ binding.2

/-- A pair of brackets encloses something that becomes a name when the values are put in. -/
def Nested (opening closing : α) (bindings : List (List α × List α)) (text : List α) : Prop :=
  ∃ inside, bracketed opening closing inside <:+: text ∧ fill bindings inside ≠ inside ∧
    bracketed opening closing (fill bindings inside) ∈ keysOf bindings

section Brackets

variable {opening closing : α} {keys : List (List α)} {bindings earlier : List (List α × List α)}

omit [DecidableEq α] in
theorem bracketed_append (name rest : List α) :
    bracketed opening closing name ++ rest = opening :: (name ++ closing :: rest) := by
  simp [bracketed]

omit [DecidableEq α] in
theorem bracketed_inj {name name' : List α}
    (h : bracketed opening closing name = bracketed opening closing name') : name = name' :=
  List.append_cancel_right (List.cons.inj h).2

theorem independent_of_bracketed (hne : opening ≠ closing) (h : Bracketed opening closing keys) :
    Independent keys := by
  constructor
  · intro key hkey
    obtain ⟨name, rfl, -⟩ := h key hkey
    exact List.cons_ne_nil _ _
  · intro first hfirst second hsecond before behind after heq hlength
    obtain ⟨name, rfl, hopening, hclosing⟩ := h first hfirst
    obtain ⟨other, rfl, -, hother⟩ := h second hsecond
    rw [bracketed_append, bracketed_append] at heq
    cases before with
    | nil =>
        have hnames := (append_letter_inj hclosing hother (List.cons.inj heq).2).1
        exact ⟨rfl, by rw [hnames]⟩
    | cons head before =>
        -- The opening bracket of the second key would stand in the name of the first one, or close it.
        have hinner : (name ++ [closing]) ++ behind = before ++ opening :: (other ++ closing :: after) := by
          rw [List.append_assoc]
          exact (List.cons.inj heq).2
        have hmem := mem_front_of_append_eq hinner (Nat.lt_of_succ_lt_succ hlength)
        rcases List.mem_append.mp hmem with hname | hlast
        · exact absurd hname hopening
        · exact absurd (List.mem_singleton.mp hlast) hne

omit [DecidableEq α] in
theorem opening_not_mem_tail (hne : opening ≠ closing) (h : Bracketed opening closing keys) :
    ∀ key ∈ keys, opening ∉ key.tail := by
  intro key hkey
  obtain ⟨name, rfl, hopening, -⟩ := h key hkey
  show opening ∉ name ++ [closing]
  simp [hopening, hne]

theorem find_other (h : Bracketed opening closing keys) (hne : letter ≠ opening)
    (rest : List α) : (oneOf keys).find (letter :: rest) = none := by
  refine find_eq_none fun key hkey _ hbegins => ?_
  obtain ⟨name, rfl, -⟩ := h key hkey
  exact hne (List.cons_prefix_cons.mp hbegins).1.symm

theorem fill_front (h : Bracketed opening closing (keysOf bindings)) {front : List α}
    (hfront : opening ∉ front) (rest : List α) :
    fill bindings (front ++ rest) = front ++ fill bindings rest := by
  induction front with
  | nil => rfl
  | cons head front ih =>
      rw [List.mem_cons, not_or] at hfront
      rw [List.cons_append, fill_letter (find_other h (Ne.symm hfront.1) _), ih hfront.2,
        List.cons_append]

theorem fill_plain (h : Bracketed opening closing (keysOf bindings)) {text : List α}
    (htext : opening ∉ text) : fill bindings text = text := by
  have hfill := fill_front h htext []
  rwa [List.append_nil, show fill bindings [] = [] from rfl, List.append_nil] at hfill

theorem fill_closing (hne : opening ≠ closing) (h : Bracketed opening closing (keysOf bindings))
    {inside : List α} (hinside : opening ∉ fill bindings inside) (rest : List α) :
    fill bindings (inside ++ closing :: rest) = fill bindings inside ++ closing :: fill bindings rest := by
  have hpool := independent_of_bracketed hne h
  induction inside using (@induction_on_keys _ _ (keysOf bindings)) with
  | nil => exact fill_letter (find_other h (Ne.symm hne) rest)
  | key key hkey hnonempty inside ih =>
      rw [fill_key hpool hkey, List.mem_append, not_or] at hinside
      rw [List.append_assoc, fill_key hpool hkey, fill_key hpool hkey, ih hinside.2, List.append_assoc]
  | plain head inside hnone ih =>
      rw [fill_letter hnone, List.mem_cons, not_or] at hinside
      rw [List.cons_append, fill_letter (find_other h (Ne.symm hinside.1) _), ih hinside.2,
        fill_letter hnone, List.cons_append]

theorem fill_more (hne : opening ≠ closing) (h : Bracketed opening closing (keysOf bindings))
    (hnodup : (keysOf bindings).Nodup) (hsubset : earlier ⊆ bindings) {inside : List α}
    (hinside : opening ∉ fill earlier inside) : fill bindings inside = fill earlier inside := by
  have hkeys : keysOf earlier ⊆ keysOf bindings := List.map_subset Prod.fst hsubset
  have hpool := independent_of_bracketed hne h
  have hpool' := independent_of_bracketed hne fun key hkey => h key (hkeys hkey)
  induction inside using (@induction_on_keys _ _ (keysOf earlier)) with
  | nil => rfl
  | key key hkey hnonempty inside ih =>
      obtain ⟨value, hlookup, hmem⟩ := exists_value hkey
      rw [fill_key hpool' hkey, List.mem_append, not_or] at hinside
      rw [fill_key hpool (hkeys hkey), fill_key hpool' hkey, ih hinside.2, hlookup,
        lookup_of_mem hnodup (hsubset hmem)]
  | plain head inside hnone ih =>
      rw [fill_letter hnone, List.mem_cons, not_or] at hinside
      rw [fill_letter (find_other h (Ne.symm hinside.1) _), fill_letter hnone, ih hinside.2]

theorem exists_inside (hne : opening ≠ closing) (h : Bracketed opening closing (keysOf bindings))
    (hvalues : Unbracketed opening closing bindings) {name text : List α}
    (hname : bracketed opening closing name <:+: fill bindings text) :
    ∃ inside, bracketed opening closing inside <:+: text ∧ fill bindings inside = name ∧
      bracketed opening closing inside ∉ keysOf bindings := by
  have hpool := independent_of_bracketed hne h
  obtain ⟨front, behind, htext⟩ := hname
  rw [List.append_assoc, bracketed_append] at htext
  obtain ⟨before, rest, rfl, -, hrest, hnone⟩ :=
    fill_split hpool (fun binding hbinding => (hvalues binding hbinding).1) htext.symm
  obtain ⟨inside, after, rfl, hinside, -, -⟩ :=
    fill_split hpool (fun binding hbinding => (hvalues binding hbinding).2) hrest
  refine ⟨inside, ⟨before, after, ?_⟩, hinside, fun hkey => ?_⟩
  · rw [List.append_assoc, bracketed_append]
  · refine not_prefix_of_find_eq_none hnone hkey (hpool.nonempty _ hkey) ⟨after, ?_⟩
    rw [bracketed_append]

theorem infix_fill_of_inside (hne : opening ≠ closing) (h : Bracketed opening closing (keysOf bindings))
    {inside text : List α} (hinside : bracketed opening closing inside <:+: text)
    (hopening : opening ∉ fill bindings inside) (hclosing : closing ∉ fill bindings inside)
    (hchanged : fill bindings inside ≠ inside) :
    bracketed opening closing (fill bindings inside) <:+: fill bindings text := by
  have hpool := independent_of_bracketed hne h
  obtain ⟨before, after, rfl⟩ := hinside
  rw [List.append_assoc, bracketed_append]
  have hnone : (oneOf (keysOf bindings)).find (opening :: (inside ++ closing :: after)) = none := by
    refine find_eq_none fun key hkey _ hbegins => ?_
    obtain ⟨name, rfl, hname, hname'⟩ := h key hkey
    obtain ⟨behind, hbehind⟩ := hbegins
    rw [bracketed_append] at hbehind
    have hsplit : name ++ closing :: behind = inside ++ closing :: after := (List.cons.inj hbehind).2
    by_cases hlength : name.length < inside.length
    · -- The closing bracket of the key stands inside, behind a part without opening brackets.
      obtain ⟨more, rfl⟩ : ∃ more, inside = name ++ closing :: more := by
        rcases List.append_eq_append_iff.mp hsplit with ⟨more, rfl, hmore⟩ | ⟨more, rfl, -⟩
        · cases more with
          | nil => simp at hlength
          | cons head more => exact ⟨more, by rw [(List.cons.inj hmore).1]⟩
        · rw [List.length_append] at hlength
          omega
      rw [fill_front h hname, fill_letter (find_other h (Ne.symm hne) _)] at hclosing
      exact hclosing (by simp)
    · by_cases hlonger : inside.length < name.length
      · exact hname' (mem_front_of_append_eq hsplit hlonger)
      · have hsame := (List.append_inj hsplit (by omega)).1
        exact hchanged (by rw [← hsame]; exact fill_plain h hname)
  rw [fill_append_letter hpool (opening_not_mem_tail hne h), fill_letter hnone,
    fill_closing hne h hopening]
  refine ⟨fill bindings before, fill bindings after, ?_⟩
  rw [List.append_assoc, bracketed_append]

/-- **A key is left in a text with all values put in exactly if brackets are nested.** -/
theorem infix_fill_iff (hne : opening ≠ closing) (h : Bracketed opening closing (keysOf bindings))
    (hvalues : Unbracketed opening closing bindings) (text : List α) :
    (∃ key ∈ keysOf bindings, key <:+: fill bindings text) ↔ Nested opening closing bindings text := by
  constructor
  · rintro ⟨key, hkey, hinfix⟩
    obtain ⟨name, rfl, -⟩ := h key hkey
    obtain ⟨inside, hinside, rfl, hnot⟩ := exists_inside hne h hvalues hinfix
    refine ⟨inside, hinside, fun hsame => ?_, hkey⟩
    rw [hsame] at hkey
    exact hnot hkey
  · rintro ⟨inside, hinside, hchanged, hkey⟩
    obtain ⟨name, hname, hopening, hclosing⟩ := h _ hkey
    rw [← bracketed_inj hname] at hopening hclosing
    exact ⟨_, hkey, infix_fill_of_inside hne h hinside hopening hclosing hchanged⟩

/-! ## One key after the other -/

theorem Nested.of_infix {part text : List α} (h : Nested opening closing bindings part)
    (hpart : part <:+: text) : Nested opening closing bindings text := by
  obtain ⟨inside, hinside, hchanged⟩ := h
  exact ⟨inside, hinside.trans hpart, hchanged⟩

theorem occurrences_fill_eq_zero (hne : opening ≠ closing)
    (h : Bracketed opening closing (keysOf bindings)) (hnodup : (keysOf bindings).Nodup)
    (hvalues : Unbracketed opening closing bindings) (hsubset : earlier ⊆ bindings) {key text : List α}
    (hkey : key ∈ keysOf bindings) (hzero : occurrences key text = 0)
    (hflat : ¬ Nested opening closing bindings text) : occurrences key (fill earlier text) = 0 := by
  have hkeys : keysOf earlier ⊆ keysOf bindings := List.map_subset Prod.fst hsubset
  have hnonempty := (independent_of_bracketed hne h).nonempty key hkey
  rw [occurrences_eq_zero hnonempty] at hzero ⊢
  intro hinfix
  obtain ⟨name, rfl, hopening, -⟩ := h key hkey
  obtain ⟨inside, hinside, hfill, -⟩ := exists_inside hne (fun key hkey => h key (hkeys hkey))
    (fun binding hbinding => hvalues binding (hsubset hbinding)) hinfix
  have hmore : fill bindings inside = name := (fill_more hne h hnodup hsubset (by rwa [hfill])).trans hfill
  refine hflat ⟨inside, hinside, fun hsame => ?_, by rwa [hmore]⟩
  -- The name would stand in the text itself.
  rw [hmore] at hsame
  exact hzero (hsame ▸ hinside)

theorem occurrences_fill_of_not_nested (hne : opening ≠ closing)
    (h : Bracketed opening closing (keysOf bindings)) (hnodup : (keysOf bindings).Nodup)
    (hvalues : Unbracketed opening closing bindings) (hsubset : earlier ⊆ bindings) {key : List α}
    (hkey : key ∈ keysOf bindings) (hother : key ∉ keysOf earlier) {text : List α}
    (hflat : ¬ Nested opening closing bindings text) :
    occurrences key (fill earlier text) = occurrences key text := by
  have hpool := independent_of_bracketed hne h
  have hkeys : keysOf earlier ⊆ keysOf bindings := List.map_subset Prod.fst hsubset
  induction text using induction_on_key (hpool.nonempty key hkey) with
  | without text hzero =>
      rw [hzero, occurrences_fill_eq_zero hne h hnodup hvalues hsubset hkey hzero hflat]
  | split front rest hfront ih =>
      have hfrontFlat : ¬ Nested opening closing bindings front := fun hnested =>
        hflat (hnested.of_infix (List.prefix_append front _).isInfix)
      have hrestFlat : ¬ Nested opening closing bindings rest := fun hnested =>
        hflat (hnested.of_infix ⟨front ++ key, [], by simp⟩)
      rw [fill_append_of_not_mem hpool hkeys hkey hother, occurrences_append hpool hkey,
        occurrences_append hpool hkey, ih hrestFlat, hfront,
        occurrences_fill_eq_zero hne h hnodup hvalues hsubset hkey hfront hfrontFlat]

theorem fill_perm (hpool : Independent (keysOf bindings)) (hnodup : (keysOf bindings).Nodup)
    (hperm : earlier.Perm bindings) (text : List α) : fill earlier text = fill bindings text := by
  have hkeys : ∀ key, key ∈ keysOf earlier ↔ key ∈ keysOf bindings := fun key =>
    (hperm.map Prod.fst).mem_iff
  have hpool' : Independent (keysOf earlier) :=
    ⟨fun key hkey => hpool.nonempty key ((hkeys key).mp hkey),
      fun first hfirst second hsecond => hpool.apart first ((hkeys first).mp hfirst) second
        ((hkeys second).mp hsecond)⟩
  induction text using (@induction_on_keys _ _ (keysOf bindings)) with
  | nil => rfl
  | key key hkey hnonempty rest ih =>
      obtain ⟨value, hlookup, hmem⟩ := exists_value ((hkeys key).mpr hkey)
      rw [fill_key hpool hkey, fill_key hpool' ((hkeys key).mpr hkey), ih, hlookup,
        lookup_of_mem hnodup (hperm.mem_iff.mp hmem)]
  | plain head rest hnone ih =>
      have hnone' : (oneOf (keysOf earlier)).find (head :: rest) = none := by
        refine find_eq_none fun key hkey hnonempty => ?_
        exact not_prefix_of_find_eq_none hnone ((hkeys key).mp hkey) hnonempty
      rw [fill_letter hnone, fill_letter hnone', ih]

end Brackets

/-! ## Counting letters -/

section Counting

variable {bindings : List (List α × List α)} {pool : List (List α)} {key : List α}

theorem count_replace (hne : key ≠ []) {value : List α} (hvalue : letter ∉ value) (text : List α) :
    (replace key value text).count letter + occurrences key text * key.count letter =
      text.count letter := by
  unfold replace occurrences
  induction text using (oneOf [key]).induction with
  | nil => simp [Pattern.sub_nil, Pattern.findAll, Pattern.parts_nil]
  | found text length hfind ih =>
      obtain ⟨first, hfirst, -, ⟨rest, rfl⟩, rfl⟩ := find_eq_some hfind
      obtain rfl := List.mem_singleton.mp hfirst
      rw [List.drop_left' rfl] at ih
      rw [Pattern.sub_found _ hfind, Pattern.findAll_found hfind, List.drop_left' rfl, List.count_append,
        List.count_append, List.length_cons, Nat.add_mul, Nat.one_mul, List.count_eq_zero.mpr hvalue]
      omega
  | letter head text hfind ih =>
      rw [Pattern.sub_letter _ hfind, Pattern.findAll_letter hfind, List.count_cons, List.count_cons]
      omega

variable {value text : List α}

theorem mem_of_mem_replace (h : letter ∈ replace key value text) :
    letter ∈ text ∨ letter ∈ value := by
  unfold replace at h
  induction text using (oneOf [key]).induction with
  | nil =>
      rw [Pattern.sub_nil] at h
      cases h
  | found text length hfind ih =>
      rw [Pattern.sub_found _ hfind, List.mem_append] at h
      rcases h with hvalue | hrest
      · exact .inr hvalue
      · exact (ih hrest).imp_left List.mem_of_mem_drop
  | letter head text hfind ih =>
      rw [Pattern.sub_letter _ hfind, List.mem_cons] at h
      rcases h with rfl | hrest
      · exact .inl List.mem_cons_self
      · exact (ih hrest).imp_left (List.mem_cons_of_mem _)

theorem count_substitute_le (hkeys : ∀ key ∈ keysOf bindings, key ≠ [])
    (hvalues : ∀ binding ∈ bindings, letter ∉ binding.2) (text : List α) :
    (substitute bindings text).count letter ≤ text.count letter := by
  induction bindings generalizing text with
  | nil => exact Nat.le_refl _
  | cons binding rest ih =>
      have hrest := ih (fun key hkey => hkeys key (List.mem_cons_of_mem _ hkey))
        (fun other hother => hvalues other (List.mem_cons_of_mem _ hother)) (replace binding.1 binding.2 text)
      have hfirst := count_replace (hkeys binding.1 List.mem_cons_self)
        (hvalues binding List.mem_cons_self) text
      show (substitute rest (replace binding.1 binding.2 text)).count letter ≤ _
      omega

variable {later : List (List α × List α)}

theorem occurrences_eq_zero_of_count
    (hkeys : ∀ other ∈ keysOf (bindings ++ (key, value) :: later), other ≠ [])
    (hvalues : ∀ binding ∈ bindings ++ (key, value) :: later, letter ∉ binding.2) (hkey : letter ∈ key)
    (h : text.count letter ≤ (substitute (bindings ++ (key, value) :: later) text).count letter) :
    occurrences key (substitute bindings text) = 0 := by
  have hsplit : keysOf (bindings ++ (key, value) :: later) = keysOf bindings ++ key :: keysOf later := by
    simp [keysOf]
  rw [hsplit] at hkeys
  have hbefore := count_substitute_le (fun other hother => hkeys other (List.mem_append_left _ hother))
    (fun binding hbinding => hvalues binding (List.mem_append_left _ hbinding)) text
  have hlater := count_substitute_le
    (fun other hother => hkeys other (List.mem_append_right _ (List.mem_cons_of_mem _ hother)))
    (fun binding hbinding => hvalues binding (List.mem_append_right _ (List.mem_cons_of_mem _ hbinding)))
    (replace key value (substitute bindings text))
  have hvalue : letter ∉ value := hvalues (key, value) (by simp)
  have hreplace := count_replace (hkeys key (by simp)) hvalue (substitute bindings text)
  have hall : substitute (bindings ++ (key, value) :: later) text =
      substitute later (replace key value (substitute bindings text)) := by
    rw [substitute, List.foldl_append]
    rfl
  rw [hall] at h
  have hproduct : occurrences key (substitute bindings text) * key.count letter = 0 := by omega
  rcases Nat.mul_eq_zero.mp hproduct with hzero | hnone
  · exact hzero
  · exact absurd hkey (List.count_eq_zero.mp hnone)

theorem occurrences_le_replace (hpool : Independent pool) (hkey : key ∈ pool) {other : List α}
    (hother : other ∈ pool) (hne : other ≠ key) (value text : List α) :
    occurrences other text ≤ occurrences other (replace key value text) := by
  induction text using induction_on_key (hpool.nonempty other hother) with
  | without text h => rw [h]; exact Nat.zero_le _
  | split front rest hfront ih =>
      rw [replace_append_other hpool hkey hother hne, occurrences_append hpool hother,
        occurrences_append hpool hother, hfront]
      omega

theorem occurrences_le_substitute (hpool : Independent pool) (hkeys : keysOf bindings ⊆ pool)
    (hkey : key ∈ pool) (hnot : key ∉ keysOf bindings) (text : List α) :
    occurrences key text ≤ occurrences key (substitute bindings text) := by
  induction bindings generalizing text with
  | nil => exact Nat.le_refl _
  | cons binding rest ih =>
      rw [keysOf, List.map_cons, List.mem_cons, not_or] at hnot
      obtain ⟨hfirst, hrest⟩ := List.cons_subset.mp hkeys
      exact (occurrences_le_replace hpool hfirst hkey hnot.1 _ text).trans (ih hrest hnot.2 _)

theorem count_fill_concat (hpool : Independent pool) (hkeys : keysOf bindings ⊆ pool)
    (hkey : key ∈ pool) (hnot : key ∉ keysOf bindings) {value : List α}
    (hvalue : letter ∉ value) (text : List α) :
    (fill (bindings ++ [(key, value)]) text).count letter + occurrences key text * key.count letter =
      (fill bindings text).count letter := by
  have hne := hpool.nonempty key hkey
  induction text using induction_on_key hne with
  | without text h => rw [fill_concat_of_occurrences_eq_zero hne value h, h, Nat.zero_mul, Nat.add_zero]
  | split front rest hfront ih =>
      rw [fill_append_of_not_mem hpool hkeys hkey hnot, fill_append_last hpool hkeys hkey hnot,
        occurrences_append hpool hkey, hfront, fill_concat_of_occurrences_eq_zero hne value hfront]
      simp only [List.count_append, Nat.zero_add, Nat.add_mul, Nat.one_mul, List.count_eq_zero.mpr hvalue]
      omega

theorem untouched_concat (h : Untouched bindings text)
    (hlast : occurrences key (fill bindings text) = occurrences key text) :
    Untouched (bindings ++ [(key, value)]) text := by
  intro index hindex
  rw [List.length_append, List.length_singleton] at hindex
  rcases Nat.lt_succ_iff_lt_or_eq.mp hindex with hlt | rfl
  · rw [List.getElem_append_left hlt, List.take_append_of_le_length hlt.le]
    exact h index hlt
  · rw [List.getElem_concat_length rfl, List.take_left' rfl]
    exact .inr hlast

theorem untouched_of_append {text : List α}
    (h : Untouched (bindings ++ later) text) : Untouched bindings text := by
  intro index hindex
  have hall := h index (by rw [List.length_append]; omega)
  rwa [List.getElem_append_left hindex, List.take_append_of_le_length hindex.le] at hall

theorem substitute_eq_fill (hpool : Independent (keysOf bindings)) (hnodup : (keysOf bindings).Nodup)
    {text : List α} (h : Untouched bindings text) : substitute bindings text = fill bindings text := by
  have hall := (substitute_eq_fill_iff hpool hnodup text).mpr h bindings.length (Nat.le_refl _)
  rwa [List.take_length] at hall

/-- The bindings that are put in one after the other leave no more of a letter of the keys than all at once,
and as much of it only if every key is untouched. -/
theorem count_substitute (hpool : Independent (keysOf bindings))
    (hnodup : (keysOf bindings).Nodup) (hkeys : ∀ key ∈ keysOf bindings, letter ∈ key)
    (hvalues : ∀ binding ∈ bindings, letter ∉ binding.2) (text : List α) :
    (substitute bindings text).count letter ≤ (fill bindings text).count letter ∧
      ((fill bindings text).count letter ≤ (substitute bindings text).count letter →
        Untouched bindings text) := by
  induction bindings using List.reverseRecOn with
  | nil => exact ⟨by rw [fill_nil]; exact Nat.le_refl _, fun _ index hindex => absurd hindex (by simp)⟩
  | append_singleton earlier binding ih =>
      obtain ⟨key, value⟩ := binding
      have hall : keysOf (earlier ++ [(key, value)]) = keysOf earlier ++ [key] := by simp [keysOf]
      rw [hall] at hpool hnodup hkeys
      have hearlier : keysOf earlier ⊆ keysOf earlier ++ [key] := List.subset_append_left _ _
      have hpool' : Independent (keysOf earlier) :=
        ⟨fun first hfirst => hpool.nonempty first (hearlier hfirst), fun first hfirst second hsecond =>
          hpool.apart first (hearlier hfirst) second (hearlier hsecond)⟩
      obtain ⟨hnodup', -, hdisjoint⟩ := List.nodup_append.mp hnodup
      have hkey : key ∈ keysOf earlier ++ [key] := by simp
      have hnot : key ∉ keysOf earlier := fun hmem => hdisjoint _ hmem _ (List.mem_singleton_self _) rfl
      obtain ⟨hle, huntouched⟩ := ih hpool' hnodup' (fun key hmem => hkeys key (hearlier hmem))
        (fun other hother => hvalues other (List.mem_append_left _ hother))
      have hvalue : letter ∉ value := hvalues (key, value) (by simp)
      have hlast : substitute (earlier ++ [(key, value)]) text =
          replace key value (substitute earlier text) := by
        rw [substitute, List.foldl_append]
        rfl
      rw [hlast]
      have hreplace := count_replace (hpool.nonempty key hkey) hvalue (substitute earlier text)
      have hfill := count_fill_concat hpool hearlier hkey hnot hvalue text
      obtain ⟨more, hmore⟩ := Nat.exists_eq_add_of_le
        (occurrences_le_substitute hpool hearlier hkey hnot text)
      rw [hmore, Nat.add_mul] at hreplace
      constructor
      · omega
      · intro hge
        -- As much of the letter is left before the last key, and the last key occurs as often.
        have hnone : more = 0 := by
          by_contra hne
          have hpos : 0 < key.count letter := List.count_pos_iff.mpr (hkeys key hkey)
          have hproduct := Nat.mul_pos (Nat.pos_of_ne_zero hne) hpos
          omega
        have hbefore := huntouched (by omega)
        rw [hnone, Nat.add_zero, substitute_eq_fill hpool' hnodup' hbefore] at hmore
        exact untouched_concat hbefore hmore

end Counting

/-! ## Texts with separators -/

section Separators

variable {bindings : List (List α × List α)} {separator : α}

theorem mem_of_mem_fill (hpool : Independent (keysOf bindings))
    (hvalues : ∀ binding ∈ bindings, letter ∉ binding.2) {text : List α} (h : letter ∈ fill bindings text) :
    letter ∈ text := by
  obtain ⟨front, rest, hfill⟩ := List.append_of_mem h
  obtain ⟨front', rest', rfl, -⟩ := fill_split hpool hvalues hfill
  simp

theorem fill_intercalate (hpool : Independent (keysOf bindings))
    (hkeys : ∀ key ∈ keysOf bindings, separator ∉ key) (pieces : List (List α)) :
    fill bindings ([separator].intercalate pieces) =
      [separator].intercalate (pieces.map (fill bindings)) := by
  have htail : ∀ key ∈ keysOf bindings, separator ∉ key.tail := fun key hkey hmem =>
    hkeys key hkey (List.mem_of_mem_tail hmem)
  have hnone : ∀ rest, (oneOf (keysOf bindings)).find (separator :: rest) = none := by
    refine fun rest => find_eq_none fun key hkey hne hbegins => ?_
    obtain ⟨head, name, rfl⟩ := List.exists_cons_of_ne_nil hne
    obtain rfl := (List.cons_prefix_cons.mp hbegins).1
    exact hkeys _ hkey List.mem_cons_self
  induction pieces with
  | nil => rfl
  | cons piece pieces ih =>
      cases pieces with
      | nil => simp
      | cons next pieces =>
          rw [List.intercalate_cons_cons, List.append_assoc, List.singleton_append,
            fill_append_letter hpool htail, fill_letter (hnone _), ih]
          simp only [List.map_cons, List.intercalate_cons_cons, List.append_assoc, List.singleton_append]

theorem separator_not_mem {text piece : List α} (h : piece ∈ text.splitOn separator) :
    separator ∉ piece := by
  induction text generalizing piece with
  | nil =>
      rw [List.splitOn_nil, List.mem_singleton] at h
      rw [h]
      exact List.not_mem_nil
  | cons head text ih =>
      rw [List.splitOn_cons_eq_if_modifyHead] at h
      by_cases heq : head = separator
      · rw [if_pos (beq_iff_eq.mpr heq)] at h
        rcases List.mem_cons.mp h with rfl | hrest
        · exact List.not_mem_nil
        · exact ih hrest
      · rw [if_neg (by simpa using heq)] at h
        obtain ⟨first, rest, hsplit⟩ := List.exists_cons_of_ne_nil (List.splitOn_ne_nil separator text)
        rw [hsplit, List.modifyHead_cons] at h
        rcases List.mem_cons.mp h with rfl | hrest
        · rw [List.mem_cons, not_or]
          exact ⟨Ne.symm heq, ih (by rw [hsplit]; exact List.mem_cons_self)⟩
        · exact ih (by rw [hsplit]; exact List.mem_cons_of_mem _ hrest)

theorem splitOn_fill (hpool : Independent (keysOf bindings))
    (hkeys : ∀ key ∈ keysOf bindings, separator ∉ key)
    (hvalues : ∀ binding ∈ bindings, separator ∉ binding.2) (text : List α) :
    (fill bindings text).splitOn separator = (text.splitOn separator).map (fill bindings) := by
  have hjoined : [separator].intercalate (text.splitOn separator) = text :=
    List.intercalate_splitOn separator
  conv_lhs => rw [← hjoined]
  rw [fill_intercalate hpool hkeys, List.splitOn_intercalate separator]
  · rintro piece hpiece hmem
    obtain ⟨whole, hwhole, rfl⟩ := List.mem_map.mp hpiece
    exact separator_not_mem hwhole (mem_of_mem_fill hpool hvalues hmem)
  · simp

end Separators

end Substitution

end IntegrationPlatform
