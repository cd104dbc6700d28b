import Mathlib.Data.List.Perm.Basic
import Mathlib.Data.List.Sort
import Mathlib.Data.Prod.Lex
import Mathlib.Data.Set.List
import Mathlib.Data.String.Basic
import IntegrationPlatform.Texts.PercentEncoding

/-!
# Signature base strings

RFC 5849, section 3.4.1: the text that a request is signed by. Its parameters are percent-encoded and then
sorted. A text whose parameters are sorted before they are encoded is the same exactly if it has the same
parameters, and encoding keeps the order of their names.
-/

namespace IntegrationPlatform

namespace OAuth1

/-- `urllib.parse.quote(text, safe="")`. -/
def percentEncode (text : String) : String :=
  String.ofList (Percent.quote text)

/-- A parameter with its name and its value encoded. -/
def encodePair (pair : String × String) : String × String :=
  (percentEncode pair.1, percentEncode pair.2)

/-- The order of parameters: by their names, and then by their values. -/
def pairLe (pair other : String × String) : Prop :=
  pair.1 < other.1 ∨ pair.1 = other.1 ∧ pair.2 ≤ other.2

instance : DecidableRel pairLe :=
  fun pair other => inferInstanceAs (Decidable (pair.1 < other.1 ∨ pair.1 = other.1 ∧ pair.2 ≤ other.2))

/-- Parameters with equals signs and ampersands between them. -/
def joinPairs (pairs : List (String × String)) : String :=
  String.ofList (List.intercalate ['&'] (pairs.map fun pair => pair.1.toList ++ '=' :: pair.2.toList))

/-- The parameters of a request, encoded, sorted and joined. -/
def normalized (pairs : List (String × String)) : String :=
  joinPairs ((pairs.map encodePair).insertionSort pairLe)

/-- The base string of a method, a URI and parameters. -/
def baseString (method uri parameters : String) : String :=
  method ++ "&" ++ percentEncode uri ++ "&" ++ percentEncode parameters

/-- Encoding keeps the order of names. -/
def KeepsOrder (names : List String) : Prop :=
  ∀ name ∈ names, ∀ other ∈ names, name < other → percentEncode name < percentEncode other

/-! ## The order of parameters -/

theorem pairLe_iff (pair other : String × String) : pairLe pair other ↔ toLex pair ≤ toLex other :=
  (Prod.Lex.toLex_le_toLex).symm

instance : Std.Total pairLe :=
  ⟨fun pair other => by rw [pairLe_iff, pairLe_iff]; exact le_total _ _⟩

instance : IsTrans (String × String) pairLe :=
  ⟨fun pair other last h h' => by rw [pairLe_iff] at *; exact le_trans h h'⟩

instance : Std.Antisymm pairLe :=
  ⟨fun pair other h h' => by rw [pairLe_iff] at *; exact toLex.injective (le_antisymm h h')⟩

/-! ## Encoded texts -/

theorem utf8_injective : Function.Injective Percent.utf8 := by
  intro text other h
  have hencode : text.toList.utf8Encode = other.toList.utf8Encode := by
    unfold List.utf8Encode
    exact congrArg _ h
  have hdecode := congrArg ByteArray.utf8Decode? hencode
  rw [List.utf8Decode?_utf8Encode, List.utf8Decode?_utf8Encode] at hdecode
  have hlist : text.toList = other.toList := by simpa using hdecode
  exact String.toList_inj.mp hlist

theorem percentEncode_injective : Function.Injective percentEncode := by
  intro text other h
  have hquote : Percent.quote text = Percent.quote other := String.ofList_injective h
  have hdecode := congrArg Percent.percentDecode hquote
  rw [Percent.percentDecode_quote, Percent.percentDecode_quote] at hdecode
  exact utf8_injective hdecode

theorem encodePair_injective : Function.Injective encodePair := by
  rintro ⟨name, value⟩ ⟨name', value'⟩ h
  have hname : name = name' := percentEncode_injective (Prod.mk.inj h).1
  have hvalue : value = value' := percentEncode_injective (Prod.mk.inj h).2
  rw [hname, hvalue]

theorem delimiter_not_mem (text : String) {delimiter : Char} (h : Percent.quoted delimiter = false) :
    delimiter ∉ (percentEncode text).toList := by
  rw [percentEncode, String.toList_ofList]
  intro hmem
  rw [Percent.quoted_of_mem_quote hmem] at h
  cases h

/-! ## Texts with delimiters -/

theorem split_unique {α : Type} {delimiter : α} {first other : List α} (hfirst : delimiter ∉ first)
    (hother : delimiter ∉ other) {rest rest' : List α} :
    first ++ delimiter :: rest = other ++ delimiter :: rest' ↔ first = other ∧ rest = rest' := by
  constructor
  · intro h
    induction first generalizing other with
    | nil =>
        cases other with
        | nil => exact ⟨rfl, (List.cons.inj h).2⟩
        | cons letter other => exact absurd ((List.cons.inj h).1 ▸ List.mem_cons_self) hother
    | cons letter first ih =>
        cases other with
        | nil => exact absurd ((List.cons.inj h).1 ▸ List.mem_cons_self) hfirst
        | cons letter' other =>
            obtain ⟨rfl, hrest⟩ := List.cons.inj h
            obtain ⟨rfl, rfl⟩ := ih (fun hmem => hfirst (List.mem_cons_of_mem _ hmem))
              (fun hmem => hother (List.mem_cons_of_mem _ hmem)) hrest
            exact ⟨rfl, rfl⟩
  · rintro ⟨rfl, rfl⟩
    rfl

/-- A parameter with an equals sign. -/
def pairText (pair : String × String) : List Char :=
  pair.1.toList ++ '=' :: pair.2.toList

theorem pairText_encodePair_injective : Function.Injective fun pair => pairText (encodePair pair) := by
  intro pair other h
  obtain ⟨hname, hvalue⟩ := (split_unique (delimiter_not_mem pair.1 (by decide))
    (delimiter_not_mem other.1 (by decide))).mp h
  exact encodePair_injective (Prod.ext (String.toList_inj.mp hname) (String.toList_inj.mp hvalue))

theorem ampersand_not_mem (pair : String × String) : '&' ∉ pairText (encodePair pair) := by
  intro hmem
  rcases List.mem_append.mp hmem with hname | hvalue
  · exact delimiter_not_mem pair.1 (by decide) hname
  · rcases List.mem_cons.mp hvalue with heq | hvalue
    · exact absurd heq (by decide)
    · exact delimiter_not_mem pair.2 (by decide) hvalue

variable {pairs others : List (String × String)}

theorem joinPairs_injective
    (h : joinPairs (pairs.map encodePair) = joinPairs (others.map encodePair)) : pairs = others := by
  have htexts : List.intercalate ['&'] (pairs.map fun pair => pairText (encodePair pair)) =
      List.intercalate ['&'] (others.map fun pair => pairText (encodePair pair)) := by
    have hletters := String.ofList_injective h
    rwa [List.map_map, List.map_map] at hletters
  -- A text without parameters is empty, and one with parameters has an equals sign.
  have hempty : ∀ pair (pairs : List (String × String)),
      List.intercalate ['&'] ((pair :: pairs).map fun pair => pairText (encodePair pair)) ≠ [] := by
    intro pair pairs hnil
    have hmem : '=' ∈ List.intercalate ['&'] ((pair :: pairs).map fun pair => pairText (encodePair pair)) := by
      cases pairs with
      | nil => simp [List.intercalate, pairText]
      | cons other pairs => simp [List.intercalate, pairText]
    rw [hnil] at hmem
    cases hmem
  have hsplit : ∀ pair (pairs : List (String × String)),
      (List.intercalate ['&'] ((pair :: pairs).map fun pair => pairText (encodePair pair))).splitOn '&' =
        (pair :: pairs).map fun pair => pairText (encodePair pair) := by
    intro pair pairs
    refine List.splitOn_intercalate '&' (fun text hmem => ?_) (by simp)
    obtain ⟨pair, -, rfl⟩ := List.mem_map.mp hmem
    exact ampersand_not_mem pair
  cases pairs with
  | nil =>
      cases others with
      | nil => rfl
      | cons other others => exact absurd htexts.symm (hempty other others)
  | cons pair pairs =>
      cases others with
      | nil => exact absurd htexts (hempty pair pairs)
      | cons other others =>
          have hpieces := congrArg (List.splitOn '&') htexts
          rw [hsplit, hsplit] at hpieces
          exact List.map_injective_iff.mpr pairText_encodePair_injective hpieces

theorem baseString_eq_iff {method uri uri' parameters parameters' : String} :
    baseString method uri parameters = baseString method uri' parameters' ↔
      uri = uri' ∧ parameters = parameters' := by
  have hletters : ∀ uri parameters, (baseString method uri parameters).toList = method.toList ++
      '&' :: ((percentEncode uri).toList ++ '&' :: (percentEncode parameters).toList) := by
    intro uri parameters
    simp [baseString]
  constructor
  · intro h
    have hrest := congrArg String.toList h
    rw [hletters, hletters] at hrest
    have hrest := List.append_cancel_left hrest
    obtain ⟨huri, hparameters⟩ := (split_unique (delimiter_not_mem uri (by decide))
      (delimiter_not_mem uri' (by decide))).mp (List.cons.inj hrest).2
    exact ⟨percentEncode_injective (String.toList_inj.mp huri),
      percentEncode_injective (String.toList_inj.mp hparameters)⟩
  · rintro ⟨rfl, rfl⟩
    rfl

theorem utf8_baseString (method uri : String) (pairs : List (String × String)) :
    Percent.utf8 (baseString method uri (joinPairs pairs)) =
      (method.toList ++ '&' :: (Percent.quote uri ++ '&' ::
        ((List.intercalate ['&'] (pairs.map pairText)).flatMap String.utf8EncodeChar).flatMap
          Percent.quoteByte)).flatMap String.utf8EncodeChar := by
  have hparameters : Percent.quote (joinPairs pairs) =
      ((List.intercalate ['&'] (pairs.map pairText)).flatMap String.utf8EncodeChar).flatMap
        Percent.quoteByte := by
    rw [Percent.quote, Percent.utf8, joinPairs, String.toList_ofList]
    rfl
  rw [Percent.utf8, ← hparameters]
  simp [baseString, percentEncode]

/-! ## Sorted before they are encoded -/

/-- Sorted parameters with distinct names are sorted when they are encoded exactly if that keeps the order of
the names. -/
theorem pairwise_encodePair_iff {pairs : List (String × String)} (hsorted : pairs.Pairwise pairLe)
    (hnames : (pairs.map Prod.fst).Nodup) :
    (pairs.map encodePair).Pairwise pairLe ↔ KeepsOrder (pairs.map Prod.fst) := by
  induction pairs with
  | nil => exact iff_of_true .nil fun _ hname => by cases hname
  | cons pair pairs ih =>
      rw [List.pairwise_cons] at hsorted
      rw [List.map_cons, List.nodup_cons] at hnames
      -- The name of the first parameter is before those of the others.
      have hfirst : ∀ other ∈ pairs, pair.1 < other.1 := by
        intro other hmem
        rcases hsorted.1 other hmem with hlt | ⟨heq, -⟩
        · exact hlt
        · exact absurd (heq ▸ List.mem_map_of_mem hmem) hnames.1
      have hencoded : (∀ encoded ∈ pairs.map encodePair, pairLe (encodePair pair) encoded) ↔
          ∀ other ∈ pairs, percentEncode pair.1 < percentEncode other.1 := by
        rw [List.forall_mem_map]
        refine forall₂_congr fun other hmem => ⟨fun h => ?_, .inl⟩
        rcases h with hlt | ⟨heq, -⟩
        · exact hlt
        · exact absurd (percentEncode_injective heq) (ne_of_lt (hfirst other hmem))
      rw [List.map_cons, List.pairwise_cons, hencoded, ih hsorted.2 hnames.2]
      constructor
      · rintro ⟨hleast, hkeeps⟩ name hname other hother hlt
        rcases List.mem_cons.mp hname with rfl | hname
        · rcases List.mem_cons.mp hother with rfl | hother
          · exact absurd hlt (lt_irrefl _)
          · obtain ⟨other, hmem, rfl⟩ := List.mem_map.mp hother
            exact hleast other hmem
        · rcases List.mem_cons.mp hother with rfl | hother
          · obtain ⟨other, hmem, rfl⟩ := List.mem_map.mp hname
            exact absurd hlt (lt_asymm (hfirst other hmem))
          · exact hkeeps name hname other hother hlt
      · intro hkeeps
        refine ⟨fun other hmem => ?_, fun name hname other hother => ?_⟩
        · exact hkeeps _ List.mem_cons_self _ (List.mem_cons_of_mem _ (List.mem_map_of_mem hmem))
            (hfirst other hmem)
        · exact hkeeps name (List.mem_cons_of_mem _ hname) other (List.mem_cons_of_mem _ hother)

theorem keepsOrder_perm {names others : List String} (h : names.Perm others) :
    KeepsOrder names ↔ KeepsOrder others := by
  unfold KeepsOrder
  simp only [h.mem_iff]

theorem exists_sorted_encoded (pairs : List (String × String)) :
    ∃ sorted : List (String × String),
      sorted.map encodePair = (pairs.map encodePair).insertionSort pairLe := by
  have hpairs : ∀ pair ∈ (pairs.map encodePair).insertionSort pairLe, pair ∈ Set.range encodePair := by
    intro pair hmem
    obtain ⟨other, -, hother⟩ := List.mem_map.mp ((List.mem_insertionSort _).mp hmem)
    exact ⟨other, hother⟩
  have hrange : (pairs.map encodePair).insertionSort pairLe ∈ Set.range (List.map encodePair) := by
    rw [Set.range_list_map]
    exact hpairs
  exact hrange

/-- **Parameters that are sorted and then encoded have the text of a request exactly if they are its
parameters, and encoding keeps the order of their names.** -/
theorem joinPairs_eq_normalized (hnames : (pairs.map Prod.fst).Nodup) :
    joinPairs ((pairs.insertionSort pairLe).map encodePair) = normalized others ↔
      pairs.Perm others ∧ KeepsOrder (pairs.map Prod.fst) := by
  have hperm : (pairs.insertionSort pairLe).Perm pairs := List.perm_insertionSort _ _
  have hothers : ((others.map encodePair).insertionSort pairLe).Perm (others.map encodePair) :=
    List.perm_insertionSort _ _
  have htexts : joinPairs ((pairs.insertionSort pairLe).map encodePair) = normalized others ↔
      (pairs.insertionSort pairLe).map encodePair = (others.map encodePair).insertionSort pairLe := by
    obtain ⟨sorted, hsorted⟩ := exists_sorted_encoded others
    unfold normalized
    rw [← hsorted]
    exact ⟨fun h => by rw [joinPairs_injective h], fun h => by rw [h]⟩
  have hkeeps : ((pairs.insertionSort pairLe).map encodePair).Pairwise pairLe ↔
      KeepsOrder (pairs.map Prod.fst) := by
    rw [pairwise_encodePair_iff (List.pairwise_insertionSort pairLe _)
      ((hperm.map _).nodup_iff.mpr hnames), keepsOrder_perm (hperm.map _)]
  rw [htexts, ← hkeeps]
  constructor
  · intro h
    refine ⟨?_, h ▸ List.pairwise_insertionSort pairLe _⟩
    rw [← List.map_perm_map_iff encodePair_injective]
    exact (hperm.map _).symm.trans (h ▸ hothers)
  · rintro ⟨hsame, hpairwise⟩
    refine List.Perm.eq_of_pairwise' hpairwise (List.pairwise_insertionSort pairLe _) ?_
    exact (hperm.map _).trans ((hsame.map _).trans hothers.symm)

end OAuth1

end IntegrationPlatform
