import IntegrationPlatform.Integrators.Fa3Elements
import IntegrationPlatform.Json.Fields
import IntegrationPlatform.Rates.Rounding
import IntegrationPlatform.Trees.Markup
import Mathlib.Data.List.Sort
import Mathlib.Data.Prod.Lex
import Mathlib.Data.String.Basic

/-!
# Raw KSeF invoices

`_raw_ksef_to_xml` makes an element of every field of a raw invoice, below the element of the object that
the field is in, and sorts the children of an element by a table. `lossless_iff` says for which invoices
every scalar comes out once, below the elements that its keys name and with its value. Floats are exact
rationals.
-/

namespace IntegrationPlatform

namespace Ksef

open RateLimiter
open Trees (Markup)

/-! ## The tables -/

def elementOrder : Assoc (List String) :=
  [
    ("Faktura", ["Naglowek", "Podmiot1", "Podmiot2", "Fa"]),
    ("Podmiot1", ["PrefiksPodatnika", "DaneIdentyfikacyjne", "Adres"]),
    ("Podmiot2", [
      "NrEORI", "DaneIdentyfikacyjne", "Adres", "AdresKoresp", "DaneKontaktowe", "NrKlienta", "IDNabywcy",
      "JST", "GV"]),
    ("DaneIdentyfikacyjne", ["NIP", "Nazwa"]),
    ("Adres", ["KodKraju", "AdresL1", "AdresL2"]),
    ("AdresKoresp", ["KodKraju", "AdresL1", "AdresL2"]),
    ("Fa", [
      "KodWaluty", "P_1", "P_1M", "P_2", "WZ", "P_6", "OkresFa", "P_13_1", "P_14_1", "P_14_1W", "P_13_2",
      "P_14_2", "P_14_2W", "P_13_3", "P_14_3", "P_14_3W", "P_13_4", "P_14_4", "P_14_4W", "P_13_5",
      "P_14_5", "P_13_6_1", "P_13_6_2", "P_13_6_3", "P_13_7", "P_13_8", "P_13_9", "P_13_10", "P_13_11",
      "P_15", "KursWalutyZ", "Adnotacje", "RodzajFaktury", "PrzyczynaKorekty", "TypKorekty",
      "DaneFaKorygowanej", "OkresFaKorygowanej", "NrFaKorygowany", "Podmiot1K", "Podmiot2K", "P_15ZK",
      "KursWalutyZK", "ZaliczkaCzesciowa", "FP", "TP", "DodatkowyOpis", "FakturaZaliczkowa", "ZwrotAkcyzy",
      "FaWiersz", "Rozliczenie", "Platnosc", "WarunkiTransakcji", "Zamowienie"]),
    ("Adnotacje", [
      "P_16", "P_17", "P_18", "P_18A", "Zwolnienie", "NoweSrodkiTransportu", "P_23", "PMarzy"]),
    ("Zwolnienie", ["P_19N", "P_19", "P_19A", "P_19B", "P_19C"]),
    ("NoweSrodkiTransportu", ["P_22N", "P_22", "P_42_5", "NowySrodekTransportu"]),
    ("NowySrodekTransportu", [
      "P_22A", "P_NrWierszaNST", "P_22BMK", "P_22BMD", "P_22BK", "P_22BNR", "P_22BRP", "P_22B", "P_22B1",
      "P_22B2", "P_22B3", "P_22B4", "P_22BT", "P_22C", "P_22C1", "P_22D", "P_22D1"]),
    ("PMarzy", ["P_PMarzyN"]),
    ("DodatkowyOpis", ["NrWiersza", "Klucz", "Wartosc"]),
    ("DaneFaKorygowanej", [
      "DataWystFaKorygowanej", "NrFaKorygowanej", "NrKSeF", "NrKSeFFaKorygowanej", "NrKSeFN"]),
    ("FaWiersz", [
      "NrWierszaFa", "UU_ID", "P_7", "IndeksF", "CN", "P_8A", "P_8B", "P_9A", "P_9B", "P_10", "P_11",
      "P_11A", "P_11Vat", "P_12", "P_12_XII", "P_12_Zal_15", "KwotaAkcyzy", "GTU", "Procedura",
      "KursWaluty", "StanPrzed"]),
    ("Platnosc", [
      "Zaplacono", "DataZaplaty", "TerminPlatnosci", "FormaPlatnosci", "RachunekBankowy",
      "RachunekBankowyFakt662"]),
    ("TerminPlatnosci", ["Termin", "TerminOpis"]),
    ("TerminOpis", ["Ilosc", "Jednostka", "ZdarzeniePoczatkowe"]),
    ("RachunekBankowy", ["NrRB", "NazwaBanku", "OpisRachunku"])
  ]

def sixDecimalTags : List String :=
  ["KursWaluty", "KursWalutyZ", "KursWalutyZK", "KursWalutyZW", "KursUmowny", "P_8B", "P_8BZ"]

def eightDecimalTags : List String :=
  ["P_9A", "P_9B", "P_10", "P_9AZ"]

/-! ## The conversion -/

/-- What an element contains: a text, or the number that its digits show. -/
inductive Content where
  | text (text : String)
  | number (shown : Rat)
deriving DecidableEq

/-- An element of the document. -/
abbrev Xml := Markup String Content

/-- The decimals with which a float is printed. -/
def shownDigits (tag : String) : Nat :=
  if tag ∈ sixDecimalTags then 6
  else if tag ∈ eightDecimalTags then 8
  else 2

/-- A number with so many decimals. Zeros at its end are the same number. -/
def roundDigits (digits : Nat) (number : Rat) : Rat :=
  roundHalfEven (number * 10 ^ digits) / 10 ^ digits

/-- The text of an element without children. -/
def elementText (tag : String) : Value → Content
  | .float number => .number (roundDigits (shownDigits tag) number)
  | .int number => .number number
  | .str text => .text text
  | .bool flag => .text (if flag then "True" else "False")
  | .null => .text "None"
  | .list _ | .dict _ => .text ""

/-- `order_map.get(tag, len(order))`. -/
def rank (parentTag tag : String) : Nat :=
  ((elementOrder.find parentTag).getD []).idxOf tag

/-- The order of `sort_key`. -/
def Precedes {α : Type} (parentTag : String) (first second : String × α) : Prop :=
  toLex (rank parentTag first.1, first.1) ≤ toLex (rank parentTag second.1, second.1)

instance {α : Type} (parentTag : String) : DecidableRel (Precedes (α := α) parentTag) :=
  fun first second => inferInstanceAs <| Decidable <|
    toLex (rank parentTag first.1, first.1) ≤ toLex (rank parentTag second.1, second.1)

def sortedChildren {α : Type} (parentTag : String) (children : Assoc α) : Assoc α :=
  if (elementOrder.find parentTag).getD [] = [] then children
  else children.insertionSort (Precedes parentTag)

mutual

/-- `_raw_ksef_to_xml`: the elements that are added to the parent. -/
def rawKsefToXml : String → Value → List Xml
  | tag, .list items => itemsToXml tag items
  | tag, .dict fields =>
      [.node tag ((sortedChildren tag (Assoc.merge [] (fieldsToXml fields))).flatMap Prod.snd)]
  | tag, .null => [.leaf tag (elementText tag .null)]
  | tag, .bool flag => [.leaf tag (elementText tag (.bool flag))]
  | tag, .int number => [.leaf tag (elementText tag (.int number))]
  | tag, .float number => [.leaf tag (elementText tag (.float number))]
  | tag, .str text => [.leaf tag (elementText tag (.str text))]

/-- The elements of a list stand beside each other. -/
def itemsToXml : String → List Value → List Xml
  | _, [] => []
  | tag, item :: items => rawKsefToXml tag item ++ itemsToXml tag items

/-- The fields of an object under their tags. What is made of a field depends on nothing else, so that it
is made here before the tags become keys of `resolved`. -/
def fieldsToXml : List (String × Value) → Assoc (List Xml)
  | [] => []
  | (key, value) :: fields => (tagOf key, rawKsefToXml (tagOf key) value) :: fieldsToXml fields

end

/-! ## The scalars of an invoice -/

mutual

/-- The scalars, each with the names of the keys that lead to it. -/
def scalars (name : String → String) : Value → List (List String × Value)
  | .list items => scalarsOfItems name items
  | .dict fields => scalarsOfFields name fields
  | .null => [([], .null)]
  | .bool flag => [([], .bool flag)]
  | .int number => [([], .int number)]
  | .float number => [([], .float number)]
  | .str text => [([], .str text)]

/-- The scalars of the items of a list. -/
def scalarsOfItems (name : String → String) : List Value → List (List String × Value)
  | [] => []
  | item :: items => scalars name item ++ scalarsOfItems name items

/-- The scalars of the fields of an object. -/
def scalarsOfFields (name : String → String) : List (String × Value) → List (List String × Value)
  | [] => []
  | (key, value) :: fields =>
      (scalars name value).map (fun leaf => (name key :: leaf.1, leaf.2)) ++ scalarsOfFields name fields

end

mutual

/-- Every key names an element, and no two keys of an object name the same. -/
def Named : Value → Prop
  | .list items => NamedItems items
  | .dict fields => (fields.map fun field => elementName field.1).Nodup ∧ NamedFields fields
  | _ => True

/-- The items of a list are named. -/
def NamedItems : List Value → Prop
  | [] => True
  | item :: items => Named item ∧ NamedItems items

/-- The fields of an object and what they hold are named. -/
def NamedFields : List (String × Value) → Prop
  | [] => True
  | (key, value) :: fields => NamesElement key ∧ Named value ∧ NamedFields fields

end

/-- The value is no list and no object. -/
def IsScalar : Value → Prop
  | .list _ | .dict _ => False
  | _ => True

mutual

theorem mem_scalars : ∀ (value : Value), Named value → ∀ leaf ∈ scalars id value,
    (∀ key ∈ leaf.1, NamesElement key) ∧ IsScalar leaf.2
  | .list items, hnamed, leaf, hleaf => mem_scalarsOfItems items hnamed leaf hleaf
  | .dict fields, hnamed, leaf, hleaf => mem_scalarsOfFields fields hnamed.2 leaf hleaf
  | .null, _, leaf, hleaf | .bool _, _, leaf, hleaf | .int _, _, leaf, hleaf | .float _, _, leaf, hleaf
  | .str _, _, leaf, hleaf => by
    obtain rfl := List.mem_singleton.mp hleaf
    exact ⟨by simp, trivial⟩

theorem mem_scalarsOfItems : ∀ (items : List Value), NamedItems items → ∀ leaf ∈ scalarsOfItems id items,
    (∀ key ∈ leaf.1, NamesElement key) ∧ IsScalar leaf.2
  | [], _, _, hleaf => nomatch hleaf
  | item :: items, hnamed, leaf, hleaf => by
    rcases List.mem_append.mp hleaf with hitem | hrest
    · exact mem_scalars item hnamed.1 leaf hitem
    · exact mem_scalarsOfItems items hnamed.2 leaf hrest

theorem mem_scalarsOfFields : ∀ (fields : List (String × Value)), NamedFields fields →
    ∀ leaf ∈ scalarsOfFields id fields, (∀ key ∈ leaf.1, NamesElement key) ∧ IsScalar leaf.2
  | [], _, _, hleaf => nomatch hleaf
  | (key, value) :: fields, hnamed, leaf, hleaf => by
    obtain ⟨hkey, hvalue, hfields⟩ := hnamed
    rcases List.mem_append.mp hleaf with hfirst | hrest
    · obtain ⟨below, hbelow, rfl⟩ := List.mem_map.mp hfirst
      obtain ⟨hkeys, hscalar⟩ := mem_scalars value hvalue below hbelow
      exact ⟨List.forall_mem_cons.mpr ⟨hkey, hkeys⟩, hscalar⟩
    · exact mem_scalarsOfFields fields hfields leaf hrest

end

mutual

theorem scalars_eq (name : String → String) : ∀ (value : Value),
    scalars name value = (scalars id value).map fun leaf => (leaf.1.map name, leaf.2)
  | .list items => scalarsOfItems_eq name items
  | .dict fields => scalarsOfFields_eq name fields
  | .null | .bool _ | .int _ | .float _ | .str _ => rfl

theorem scalarsOfItems_eq (name : String → String) : ∀ (items : List Value),
    scalarsOfItems name items = (scalarsOfItems id items).map fun leaf => (leaf.1.map name, leaf.2)
  | [] => rfl
  | item :: items => by
    rw [scalarsOfItems, scalarsOfItems, List.map_append, scalars_eq name item, scalarsOfItems_eq name items]

theorem scalarsOfFields_eq (name : String → String) : ∀ (fields : List (String × Value)),
    scalarsOfFields name fields = (scalarsOfFields id fields).map fun leaf => (leaf.1.map name, leaf.2)
  | [] => rfl
  | (key, value) :: fields => by
    rw [scalarsOfFields, scalarsOfFields, List.map_append, scalars_eq name value,
      scalarsOfFields_eq name fields, List.map_map, List.map_map]
    rfl

end

/-! ## Conversions that lose nothing -/

/-- A number is the other one up to the decimals that the schema allows. -/
def SameNumber (element : String) (number shown : Rat) : Prop :=
  match schemaDigits element with
  | some digits => |number - shown| ≤ 1 / 2 / 10 ^ digits
  | none => number = shown

/-- A scalar is what an element contains. -/
def Keeps (element : String) : Value → Content → Prop
  | .float number, .number shown => SameNumber element number shown
  | .int number, .number shown => SameNumber element number shown
  | .str text, .text shown => shown = text
  | .bool flag, .text shown => shown = if flag then "True" else "False"
  | .null, .text shown => shown = "None"
  | _, _ => False

/-- The scalars of an invoice come out one by one, each below the elements that its keys name. -/
structure Lossless (tag : String) (value : Value) : Prop where
  leaves : ∃ found, found.Perm (Markup.leavesAll (rawKsefToXml tag value)) ∧
    List.Forall₂ (fun (scalar : List String × Value) (leaf : List String × Content) =>
      leaf.1 = tag :: scalar.1 ∧ Keeps (scalar.1.getLastD tag) scalar.2 leaf.2)
      (scalars elementName value) found
  ordered : Markup.OrderedAll rank (rawKsefToXml tag value)

/-! ## The elements of the document -/

theorem keys_fieldsToXml (fields : List (String × Value)) :
    (fieldsToXml fields).map Prod.fst = fields.map fun field => tagOf field.1 := by
  induction fields with
  | nil => rfl
  | cons field fields ih =>
    rw [fieldsToXml, List.map_cons, List.map_cons, ih]

theorem namesElement_of_named {fields : List (String × Value)} (h : NamedFields fields) :
    ∀ field ∈ fields, NamesElement field.1 := by
  induction fields with
  | nil => simp
  | cons field fields ih => exact List.forall_mem_cons.mpr ⟨h.1, ih h.2.2⟩

theorem merge_fieldsToXml {fields : List (String × Value)} (h : Named (.dict fields)) :
    Assoc.merge [] (fieldsToXml fields) = fieldsToXml fields := by
  obtain ⟨hnodup, hnamed⟩ := h
  have hnames := namesElement_of_named hnamed
  apply Assoc.merge_nodup
  rw [List.nil_append, keys_fieldsToXml]
  unfold List.Nodup at hnodup ⊢
  rw [List.pairwise_map] at hnodup ⊢
  refine hnodup.imp_of_mem fun hfirst hsecond hne htag => ?_
  exact hne (elementName_eq_of_tagOf (hnames _ hfirst) (hnames _ hsecond) htag)

theorem perm_sortedChildren {α : Type} (parentTag : String) (children : Assoc α) :
    (sortedChildren parentTag children).Perm children := by
  unfold sortedChildren
  split
  · exact .refl _
  · exact List.perm_insertionSort _ _

theorem pairwise_sortedChildren {α : Type} (parentTag : String) (children : Assoc α) :
    (sortedChildren parentTag children).Pairwise fun first second =>
      rank parentTag first.1 ≤ rank parentTag second.1 := by
  unfold sortedChildren
  split
  · next hempty =>
    refine List.pairwise_of_forall fun first second => ?_
    simp [rank, hempty]
  · have htotal : Std.Total (Precedes (α := α) parentTag) := ⟨fun first second => le_total _ _⟩
    have htrans : IsTrans (String × α) (Precedes parentTag) := ⟨fun _ _ _ => le_trans⟩
    refine (List.pairwise_insertionSort (Precedes parentTag) children).imp fun hle => ?_
    rcases Prod.Lex.le_iff.mp hle with hlt | ⟨heq, -⟩
    · exact hlt.le
    · exact heq.le

/-- A scalar and what is printed of it, below the tag from which the conversion starts. -/
def printed (tag : String) (leaf : List String × Value) : List String × Content :=
  (tag :: leaf.1, elementText (leaf.1.getLastD tag) leaf.2)

theorem printed_below (parentTag tag : String) (leaf : List String × Value) :
    printed parentTag (tag :: leaf.1, leaf.2) =
      (parentTag :: (printed tag leaf).1, (printed tag leaf).2) := by
  unfold printed
  rw [List.getLastD_cons]

mutual

theorem perm_leaves : ∀ (value : Value) (tag : String), Named value →
    (Markup.leavesAll (rawKsefToXml tag value)).Perm ((scalars tagOf value).map (printed tag))
  | .list items, tag, hnamed => perm_leaves_items items tag hnamed
  | .dict fields, tag, hnamed => by
    have hfields := perm_leaves_fields fields hnamed.2
    have hsorted := (perm_sortedChildren tag (fieldsToXml fields)).flatMap_right Prod.snd
    have hleaves := (Markup.perm_leavesAll hsorted).map fun leaf => (tag :: leaf.1, leaf.2)
    rw [rawKsefToXml, merge_fieldsToXml hnamed, scalars, Markup.leavesAll, Markup.leavesAll,
      List.append_nil, Markup.leaves]
    exact hleaves.trans (hfields tag)
  | .null, _, _ | .bool _, _, _ | .int _, _, _ | .float _, _, _ | .str _, _, _ => .refl _

theorem perm_leaves_items : ∀ (items : List Value) (tag : String), NamedItems items →
    (Markup.leavesAll (itemsToXml tag items)).Perm ((scalarsOfItems tagOf items).map (printed tag))
  | [], _, _ => .refl _
  | item :: items, tag, hnamed => by
    rw [itemsToXml, scalarsOfItems, Markup.leavesAll_append, List.map_append]
    exact (perm_leaves item tag hnamed.1).append (perm_leaves_items items tag hnamed.2)

theorem perm_leaves_fields : ∀ (fields : List (String × Value)), NamedFields fields → ∀ tag,
    ((Markup.leavesAll ((fieldsToXml fields).flatMap Prod.snd)).map fun leaf => (tag :: leaf.1, leaf.2)).Perm
      ((scalarsOfFields tagOf fields).map (printed tag))
  | [], _, _ => .refl _
  | (key, value) :: fields, hnamed, tag => by
    obtain ⟨-, hvalue, hfields⟩ := hnamed
    have hfirst := (perm_leaves value (tagOf key) hvalue).map fun leaf => (tag :: leaf.1, leaf.2)
    rw [List.map_map] at hfirst
    rw [fieldsToXml, scalarsOfFields, List.flatMap_cons, Markup.leavesAll_append, List.map_append,
      List.map_append, List.map_map]
    refine List.Perm.append ?_ (perm_leaves_fields fields hfields tag)
    have hbelow : printed tag ∘ (fun leaf => (tagOf key :: leaf.1, leaf.2)) =
        (fun leaf => (tag :: leaf.1, leaf.2)) ∘ printed (tagOf key) := by
      funext leaf
      exact printed_below tag (tagOf key) leaf
    rw [hbelow]
    exact hfirst

end

mutual

theorem ordered_rawKsefToXml : ∀ (value : Value) (tag : String), Named value →
    ∀ tree ∈ rawKsefToXml tag value, tree.tag = tag ∧ tree.Ordered rank
  | .list items, tag, hnamed, tree, htree => ordered_itemsToXml items tag hnamed tree htree
  | .dict fields, tag, hnamed, tree, htree => by
    have hgroups : ∀ group ∈ sortedChildren tag (fieldsToXml fields), ∀ child ∈ group.2,
        child.tag = group.1 ∧ child.Ordered rank := by
      intro group hgroup
      exact ordered_fieldsToXml fields hnamed.2 group ((perm_sortedChildren tag _).mem_iff.mp hgroup)
    rw [rawKsefToXml, merge_fieldsToXml hnamed] at htree
    obtain rfl := List.mem_singleton.mp htree
    refine ⟨rfl, ?_, ?_⟩
    · exact Markup.pairwise_groups (fun _ => le_refl _)
        (fun group hgroup child hchild => (hgroups group hgroup child hchild).1)
        (pairwise_sortedChildren tag (fieldsToXml fields))
    · rw [Markup.orderedAll_iff]
      intro child hchild
      obtain ⟨group, hgroup, hchild⟩ := List.mem_flatMap.mp hchild
      exact (hgroups group hgroup child hchild).2
  | .null, _, _, tree, htree | .bool _, _, _, tree, htree | .int _, _, _, tree, htree
  | .float _, _, _, tree, htree | .str _, _, _, tree, htree => by
    obtain rfl := List.mem_singleton.mp htree
    exact ⟨rfl, trivial⟩

theorem ordered_itemsToXml : ∀ (items : List Value) (tag : String), NamedItems items →
    ∀ tree ∈ itemsToXml tag items, tree.tag = tag ∧ tree.Ordered rank
  | [], _, _, _, htree => nomatch htree
  | item :: items, tag, hnamed, tree, htree => by
    rcases List.mem_append.mp htree with hitem | hrest
    · exact ordered_rawKsefToXml item tag hnamed.1 tree hitem
    · exact ordered_itemsToXml items tag hnamed.2 tree hrest

theorem ordered_fieldsToXml : ∀ (fields : List (String × Value)), NamedFields fields →
    ∀ group ∈ fieldsToXml fields, ∀ tree ∈ group.2, tree.tag = group.1 ∧ tree.Ordered rank
  | [], _, _, hgroup, _, _ => nomatch hgroup
  | (key, value) :: fields, hnamed, group, hgroup, tree, htree => by
    obtain ⟨-, hvalue, hfields⟩ := hnamed
    rcases List.mem_cons.mp hgroup with rfl | hrest
    · exact ordered_rawKsefToXml value (tagOf key) hvalue tree htree
    · exact ordered_fieldsToXml fields hfields group hrest tree htree

end

/-! ## Numbers -/

/-- The scalar is no number of more decimals than are printed and allowed: only those of a percentage are
allowed but not printed, and of a number in an element that is not one of numbers all are meant. -/
def Fits (element : String) : Value → Prop
  | .float number =>
      (element ∈ percentElements → ∃ whole : Int, |number - whole / 100| ≤ 1 / 2 / 10 ^ 6) ∧
        (schemaDigits element = none → ∃ whole : Int, number = whole / 100)
  | _ => True

theorem distance_roundDigits (digits : Nat) (number : Rat) (whole : Int) :
    |number - roundDigits digits number| ≤ |number - whole / 10 ^ digits| := by
  have hpos : (0 : Rat) < 10 ^ digits := by positivity
  have hle := (nearest_roundHalfEven (number * 10 ^ digits)).le_distance whole
  have hscale (other : Int) :
      number * 10 ^ digits - other = (number - other / 10 ^ digits) * 10 ^ digits := by
    field_simp
  rw [hscale, hscale, abs_mul, abs_mul, abs_of_pos hpos] at hle
  exact le_of_mul_le_mul_right hle hpos

theorem distance_roundDigits_le (digits : Nat) (number : Rat) :
    |number - roundDigits digits number| ≤ 1 / 2 / 10 ^ digits := by
  have hpos : (0 : Rat) < 10 ^ digits := by positivity
  have hle := (nearest_roundHalfEven (number * 10 ^ digits)).distance_le
  have hscale : number * 10 ^ digits - roundHalfEven (number * 10 ^ digits) =
      (number - roundDigits digits number) * 10 ^ digits := by
    unfold roundDigits
    field_simp
  rw [hscale, abs_mul, abs_of_pos hpos] at hle
  rw [le_div_iff₀ hpos]
  exact hle

theorem roundDigits_whole (digits : Nat) (whole : Int) :
    roundDigits digits (whole / 10 ^ digits) = whole / 10 ^ digits := by
  have hpos : (0 : Rat) < 10 ^ digits := by positivity
  unfold roundDigits
  rw [div_mul_cancel₀ _ hpos.ne', roundHalfEven_intCast]

theorem shownDigits_price : ∀ element ∈ priceElements, shownDigits element = 8 := by decide +kernel

theorem shownDigits_quantity : ∀ element ∈ quantityElements, shownDigits element = 6 := by decide +kernel

theorem digits_percent : ∀ element ∈ percentElements,
    shownDigits element = 2 ∧ schemaDigits element = some 6 := by
  decide +kernel

theorem two_le_shownDigits (tag : String) : 2 ≤ shownDigits tag := by
  unfold shownDigits
  split_ifs <;> omega

variable {element : String}

theorem shownDigits_of_none (h : schemaDigits element = none) :
    shownDigits element = 2 := by
  have hsix : sixDecimalTags ⊆ quantityElements := by decide +kernel
  have height : eightDecimalTags = priceElements := rfl
  unfold schemaDigits at h
  split_ifs at h with hamount hprice hmore hwhole
  have hquantity := (not_or.mp hmore).1
  unfold shownDigits
  rw [height, if_neg fun hmem => hquantity (hsix hmem), if_neg hprice]

theorem schemaDigits_cases (element : String) : schemaDigits element = none ∨
    element ∈ percentElements ∨ ∃ digits ≤ shownDigits element, schemaDigits element = some digits := by
  by_cases hpercent : element ∈ percentElements
  · exact .inr (.inl hpercent)
  have htwo := two_le_shownDigits element
  unfold schemaDigits
  split_ifs with hamount hprice hmore hwhole
  · exact .inr (.inr ⟨2, htwo, rfl⟩)
  · exact .inr (.inr ⟨8, (shownDigits_price element hprice).ge, rfl⟩)
  · exact .inr (.inr ⟨6, (shownDigits_quantity element (hmore.resolve_right hpercent)).ge, rfl⟩)
  · exact .inr (.inr ⟨0, Nat.zero_le _, rfl⟩)
  · exact .inl rfl

theorem sameNumber_of_fits {number : Rat} (h : Fits element (.float number)) :
    SameNumber element number (roundDigits (shownDigits element) number) := by
  obtain ⟨hpercent, htext⟩ := h
  unfold SameNumber
  rcases schemaDigits_cases element with hnone | hmem | ⟨digits, hle, hsome⟩
  · obtain ⟨whole, rfl⟩ := htext hnone
    have hwhole := roundDigits_whole 2 whole
    rw [hnone, shownDigits_of_none hnone]
    norm_num at hwhole ⊢
    exact hwhole.symm
  · obtain ⟨hshown, hschema⟩ := digits_percent element hmem
    obtain ⟨whole, hnear⟩ := hpercent hmem
    have hdistance := distance_roundDigits 2 number whole
    rw [hschema, hshown]
    norm_num at hdistance hnear ⊢
    exact hdistance.trans hnear
  · rw [hsome]
    refine (distance_roundDigits_le _ number).trans ?_
    exact div_le_div_of_nonneg_left (by norm_num) (by positivity) (pow_le_pow_right₀ (by norm_num) hle)

theorem fits_of_sameNumber {number : Rat} {whole : Int}
    (h : SameNumber element number (whole / 10 ^ shownDigits element)) : Fits element (.float number) := by
  unfold SameNumber at h
  constructor
  · intro hmem
    obtain ⟨hshown, hschema⟩ := digits_percent element hmem
    rw [hschema, hshown] at h
    refine ⟨whole, ?_⟩
    norm_num at h ⊢
    exact h
  · intro hnone
    rw [hnone, shownDigits_of_none hnone] at h
    refine ⟨whole, ?_⟩
    norm_num at h ⊢
    exact h

variable {value : Value}

theorem keeps_elementText (hscalar : IsScalar value)
    (hfits : Fits element value) : Keeps element value (elementText element value) := by
  cases value with
  | list items => exact hscalar.elim
  | dict fields => exact hscalar.elim
  | float number => exact sameNumber_of_fits hfits
  | int number =>
    show SameNumber element number number
    unfold SameNumber
    split
    · rw [sub_self, abs_zero]
      positivity
    · rfl
  | null => rfl
  | bool flag => rfl
  | str text => rfl

theorem fits_of_keeps {value other : Value}
    (h : Keeps element value (elementText element other)) : Fits element value := by
  cases value with
  | float number =>
    cases other with
    | float other => exact fits_of_sameNumber h
    | int other =>
      have hwhole : (other : Rat) =
          ((other * 10 ^ shownDigits element : Int) : Rat) / 10 ^ shownDigits element := by
        push_cast
        field_simp
      have hsame : SameNumber element number other := h
      rw [hwhole] at hsame
      exact fits_of_sameNumber hsame
    | null | bool | str | list | dict => exact h.elim
  | null | bool | int | str | list | dict => trivial

/-! ## Invoices of which nothing is lost -/

/-- No scalar is in or below an element whose JSON name is taken for another tag, and every number fits. -/
def Readable (tag : String) (value : Value) : Prop :=
  ∀ scalar ∈ scalars elementName value,
    (∀ element ∈ scalar.1, element ∉ misnamed.map Prod.fst) ∧ Fits (scalar.1.getLastD tag) scalar.2

theorem readable_iff {tag : String} : Readable tag value ↔
    ∀ leaf ∈ scalars id value, (∀ key ∈ leaf.1, elementName key ∉ misnamed.map Prod.fst) ∧
      Fits ((leaf.1.map elementName).getLastD tag) leaf.2 := by
  unfold Readable
  rw [scalars_eq elementName value]
  simp only [List.forall_mem_map]

theorem map_tagOf_eq {keys : List String} (hkeys : ∀ key ∈ keys, NamesElement key)
    (hright : ∀ key ∈ keys, elementName key ∉ misnamed.map Prod.fst) :
    keys.map tagOf = keys.map elementName :=
  List.map_congr_left fun key hkey => tagOf_eq_elementName (hkeys key hkey) (hright key hkey)

theorem lossless_of_readable {tag : String} (hnamed : Named value)
    (hreadable : Readable tag value) : Lossless tag value := by
  have hscalars := mem_scalars value hnamed
  rw [readable_iff] at hreadable
  constructor
  · refine ⟨_, (perm_leaves value tag hnamed).symm, ?_⟩
    rw [scalars_eq tagOf, scalars_eq elementName, List.forall₂_map_right_iff, List.forall₂_map_right_iff,
      List.forall₂_map_left_iff, List.forall₂_same]
    intro leaf hleaf
    obtain ⟨hkeys, hscalar⟩ := hscalars leaf hleaf
    obtain ⟨hright, hfits⟩ := hreadable leaf hleaf
    unfold printed
    rw [map_tagOf_eq hkeys hright]
    exact ⟨rfl, keeps_elementText hscalar hfits⟩
  · rw [Markup.orderedAll_iff]
    intro tree htree
    exact (ordered_rawKsefToXml value tag hnamed tree htree).2

theorem exists_of_forall₂ {α β : Type} {r : α → β → Prop} {first : List α} {second : List β}
    (h : List.Forall₂ r first second) : ∀ a ∈ first, ∃ b ∈ second, r a b := by
  induction h with
  | nil => simp
  | cons hhead htail ih =>
    intro a ha
    rcases List.mem_cons.mp ha with rfl | hmem
    · exact ⟨_, List.mem_cons_self, hhead⟩
    · obtain ⟨b, hb, hr⟩ := ih a hmem
      exact ⟨b, List.mem_cons_of_mem _ hb, hr⟩

theorem readable_of_lossless {tag : String} (hnamed : Named value)
    (hlossless : Lossless tag value) : Readable tag value := by
  have hscalars := mem_scalars value hnamed
  obtain ⟨found, hfound, hmatch⟩ := hlossless.leaves
  have hperm := hfound.trans (perm_leaves value tag hnamed)
  rw [scalars_eq tagOf, List.map_map] at hperm
  rw [scalars_eq elementName, List.forall₂_map_left_iff] at hmatch
  -- The tags that lead to a leaf are those of elements, so that no key is taken for another tag.
  have hright : ∀ leaf ∈ scalars id value, ∀ key ∈ leaf.1, elementName key ∉ misnamed.map Prod.fst := by
    intro leaf hleaf key hkey
    have hleaf' := hperm.mem_iff.mpr (List.mem_map_of_mem hleaf)
    obtain ⟨other, hother, hpath, -⟩ := exists_of_forall₂ hmatch.flip _ hleaf'
    have hpaths : leaf.1.map tagOf = other.1.map elementName := (List.cons.inj hpath).2
    have htag : tagOf key ∈ other.1.map elementName := hpaths ▸ List.mem_map_of_mem hkey
    obtain ⟨key', hkey', hname⟩ := List.mem_map.mp htag
    rw [← tagOf_mem_iff_elementName ((hscalars leaf hleaf).1 key hkey), ← hname]
    exact elementName_mem ((hscalars other hother).1 key' hkey')
  rw [readable_iff]
  intro leaf hleaf
  refine ⟨hright leaf hleaf, ?_⟩
  -- What shows a scalar may be printed of another one, which is below the same elements.
  obtain ⟨shown, hshown, hpath, hkeeps⟩ := exists_of_forall₂ hmatch leaf hleaf
  obtain ⟨other, hother, rfl⟩ := List.mem_map.mp (hperm.mem_iff.mp hshown)
  have hpaths : other.1.map tagOf = leaf.1.map elementName := (List.cons.inj hpath).2
  have hcontent : Keeps ((leaf.1.map elementName).getLastD tag) leaf.2
      (elementText ((other.1.map tagOf).getLastD tag) other.2) := hkeeps
  rw [hpaths] at hcontent
  exact fits_of_keeps hcontent

/-- Exactly the readable invoices come out whole. -/
theorem lossless_iff {tag : String} {value : Value} (hnamed : Named value) :
    Lossless tag value ↔ Readable tag value :=
  ⟨readable_of_lossless hnamed, lossless_of_readable hnamed⟩

/-- An invoice of one line, whose price has more than two decimals. -/
def rawInvoice : Value :=
  .dict [("p131", .float (201 / 2)), ("p15", .int 124),
    ("faWiersz", .list [.dict [("p7", .str "Serwis"), ("p9A", .float (123456789 / 100000000))]])]

theorem rawInvoice_names : Named rawInvoice ∧ scalars elementName rawInvoice =
    [(["P_13_1"], .float (201 / 2)), (["P_15"], .int 124), (["FaWiersz", "P_7"], .str "Serwis"),
      (["FaWiersz", "P_9A"], .float (123456789 / 100000000))] := by
  have hnet : NamesElement "p131" ∧ elementName "p131" = "P_13_1" := names_of_jsonName (by decide +kernel)
  have hgross : NamesElement "p15" ∧ elementName "p15" = "P_15" := names_of_jsonName (by decide +kernel)
  have hline : NamesElement "faWiersz" ∧ elementName "faWiersz" = "FaWiersz" :=
    names_of_jsonName (by decide +kernel)
  have hname : NamesElement "p7" ∧ elementName "p7" = "P_7" := names_of_jsonName (by decide +kernel)
  have hprice : NamesElement "p9A" ∧ elementName "p9A" = "P_9A" := names_of_jsonName (by decide +kernel)
  constructor
  · simp [rawInvoice, Named, NamedFields, NamedItems, hnet, hgross, hline, hname, hprice]
  · simp [rawInvoice, scalars, scalarsOfFields, scalarsOfItems, hnet, hgross, hline, hname, hprice]

theorem rawInvoice_lossless : Named rawInvoice ∧ Lossless "Fa" rawInvoice := by
  obtain ⟨hnamed, hscalars⟩ := rawInvoice_names
  refine ⟨hnamed, (lossless_iff hnamed).mpr ?_⟩
  have hright : ∀ element ∈ ["P_13_1", "P_15", "FaWiersz", "P_7", "P_9A"],
      element ∉ misnamed.map Prod.fst := by
    decide +kernel
  have hnumbers : ∀ element ∈ ["P_13_1", "P_9A"],
      element ∉ percentElements ∧ schemaDigits element ≠ none := by
    decide +kernel
  unfold Readable
  rw [hscalars]
  simp only [List.forall_mem_cons, List.not_mem_nil, false_imp_iff, implies_true, and_true]
    at hright hnumbers ⊢
  obtain ⟨⟨hnet, hnet'⟩, hprice, hprice'⟩ := hnumbers
  refine ⟨⟨hright.1, ?_⟩, ⟨hright.2.1, trivial⟩, ⟨⟨hright.2.2.1, hright.2.2.2.1⟩, trivial⟩,
    ⟨hright.2.2.1, hright.2.2.2.2⟩, ?_⟩
  · exact ⟨fun hmem => absurd hmem hnet, fun hnone => absurd hnone hnet'⟩
  · exact ⟨fun hmem => absurd hmem hprice, fun hnone => absurd hnone hprice'⟩

theorem readable_field {tag element key : String} (hscalar : IsScalar value)
    (h : element ∈ faElements ∧ jsonName element = key) (hlossless : Lossless tag (.dict [(key, value)])) :
    element ∉ misnamed.map Prod.fst ∧ Fits element value := by
  obtain ⟨hkey, hname⟩ := names_of_jsonName h
  have hvalue : Named value ∧ scalars elementName value = [([], value)] := by
    cases value with
    | list items => exact hscalar.elim
    | dict fields => exact hscalar.elim
    | null | bool | int | float | str => exact ⟨trivial, rfl⟩
  have hnamed : Named (.dict [(key, value)]) := ⟨List.nodup_singleton _, hkey, hvalue.1, trivial⟩
  have hreadable := readable_of_lossless hnamed hlossless
  have hmem : ([element], value) ∈ scalars elementName (.dict [(key, value)]) := by
    simp [scalars, scalarsOfFields, hvalue.2, hname]
  obtain ⟨hright, hfits⟩ := hreadable _ hmem
  exact ⟨hright element List.mem_cons_self, hfits⟩

/-- The net of an exempt supply, a share of a third and a rate in a text. -/
theorem scalars_lost :
    (Markup.leavesAll (rawKsefToXml "Fa" (.dict [("p1310", .int 100)])) =
        [(["Fa", "P_131_0"], .number 100)] ∧
      ¬ Lossless "Fa" (.dict [("p1310", .int 100)])) ∧
    (Markup.leavesAll (rawKsefToXml "Podmiot3" (.dict [("udzial", .float (333333 / 10000))])) =
        [(["Podmiot3", "Udzial"], .number (3333 / 100))] ∧
      ¬ Lossless "Podmiot3" (.dict [("udzial", .float (333333 / 10000))])) ∧
    (Markup.leavesAll (rawKsefToXml "DodatkowyOpis" (.dict [("wartosc", .float (33 / 8))])) =
        [(["DodatkowyOpis", "Wartosc"], .number (103 / 25))] ∧
      ¬ Lossless "DodatkowyOpis" (.dict [("wartosc", .float (33 / 8))])) := by
  refine ⟨⟨by decide +kernel, ?_⟩, ⟨by decide +kernel, ?_⟩, ⟨by decide +kernel, ?_⟩⟩
  · intro hlossless
    have hread : "P_13_10" ∉ misnamed.map Prod.fst ∧ Fits "P_13_10" (.int 100) :=
      readable_field trivial (by decide +kernel) hlossless
    exact hread.1 (by decide +kernel)
  · intro hlossless
    have hread : "Udzial" ∉ misnamed.map Prod.fst ∧ Fits "Udzial" (.float (333333 / 10000)) :=
      readable_field trivial (by decide +kernel) hlossless
    obtain ⟨whole, hwhole⟩ := hread.2.1 (by decide +kernel)
    obtain ⟨hlow, hhigh⟩ := abs_le.mp hwhole
    have hless : (whole : Rat) < 3334 := by linarith
    have hmore : (3333 : Rat) < whole := by linarith
    norm_cast at hless hmore
    omega
  · intro hlossless
    have hread : "Wartosc" ∉ misnamed.map Prod.fst ∧ Fits "Wartosc" (.float (33 / 8)) :=
      readable_field trivial (by decide +kernel) hlossless
    obtain ⟨whole, hwhole⟩ := hread.2.2 (by decide +kernel)
    have hdouble : (825 : Rat) = 2 * whole := by linarith
    norm_cast at hdouble
    omega

end Ksef

end IntegrationPlatform
