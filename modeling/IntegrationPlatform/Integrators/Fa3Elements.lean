import IntegrationPlatform.Gateway.Scheduler
import Mathlib.Data.List.Nodup

/-!
# Names of FA(3) elements

A raw invoice names an element without underscores and with a small first letter. `_resolve_xml_tag` finds
the element again by a table and three patterns. `tagOf_mem_iff` says for which elements it does, and that
no two names are taken for the same tag is `tagOf_inj`.
-/

namespace IntegrationPlatform

namespace Ksef

open Gateway (isSpace)

/-! ## The elements of the schema -/

/-- The elements of type `TKwotowy`, with two decimals. -/
def amountElements : List String :=
  [
    "P_13_1", "P_14_1", "P_14_1W", "P_13_2", "P_14_2", "P_14_2W", "P_13_3", "P_14_3", "P_14_3W", "P_13_4",
    "P_14_4", "P_14_4W", "P_13_5", "P_14_5", "P_13_6_1", "P_13_6_2", "P_13_6_3", "P_13_7", "P_13_8",
    "P_13_9", "P_13_10", "P_13_11", "P_15", "P_15ZK", "P_15Z", "P_11", "P_11A", "P_11Vat", "KwotaAkcyzy",
    "Kwota", "SumaObciazen", "SumaOdliczen", "DoZaplaty", "DoRozliczenia", "KwotaZaplatyCzesciowej",
    "WartoscZamowienia", "P_11NettoZ", "P_11VatZ", "KwotaAkcyzyZ"
  ]

/-- The elements of type `TKwotowy2`, with eight decimals. -/
def priceElements : List String :=
  ["P_9A", "P_9B", "P_10", "P_9AZ"]

/-- The elements of type `TIlosci`, with six decimals. -/
def quantityElements : List String :=
  ["KursWalutyZ", "KursWalutyZK", "KursWalutyZW", "P_8B", "KursWaluty", "KursUmowny", "P_8BZ"]

/-- The elements of type `TProcentowy`, with six decimals. -/
def percentElements : List String :=
  ["Udzial", "P_12_XII", "P_12Z_XII"]

/-- The elements of whole numbers. -/
def wholeElements : List String :=
  [
    "WariantFormularza", "NrWiersza", "RachunekWlasnyBanku", "BrakID", "StatusInfoPodatnika", "JST", "GV",
    "Rola", "RolaInna", "RolaPU", "P_16", "P_17", "P_18", "P_18A", "P_19", "P_19N", "P_22", "P_42_5",
    "P_NrWierszaNST", "P_22N", "P_23", "P_PMarzy", "P_PMarzy_2", "P_PMarzy_3_1", "P_PMarzy_3_2",
    "P_PMarzy_3_3", "P_PMarzyN", "TypKorekty", "NrKSeF", "NrKSeFN", "FP", "TP", "NrKSeFZN", "ZwrotAkcyzy",
    "NrWierszaFa", "P_12_Zal_15", "StanPrzed", "Zaplacono", "ZnacznikZaplatyCzesciowej", "FormaPlatnosci",
    "PlatnoscInna", "Ilosc", "RodzajTransportu", "TransportInny", "OpisLadunku", "LadunekInny",
    "PodmiotPosredniczacy", "NrWierszaZam", "P_12Z_Zal_15", "StanPrzedZ"
  ]

/-- The elements of texts and of dates. -/
def textElements : List String :=
  [
    "KodFormularza", "DataWytworzeniaFa", "SystemInfo", "KodKraju", "AdresL1", "AdresL2", "GLN", "Klucz",
    "Wartosc", "NrRB", "SWIFT", "NazwaBanku", "OpisRachunku", "NIP", "Nazwa", "KodUE", "NrVatUE", "NrID",
    "IDWew", "PrefiksPodatnika", "NrEORI", "Email", "Telefon", "NrKlienta", "IDNabywcy", "OpisRoli",
    "EmailPU", "TelefonPU", "KodWaluty", "P_1", "P_1M", "P_2", "WZ", "P_6", "P_6_Od", "P_6_Do", "P_19A",
    "P_19B", "P_19C", "P_22A", "P_22BMK", "P_22BMD", "P_22BK", "P_22BNR", "P_22BRP", "P_22B", "P_22B1",
    "P_22B2", "P_22B3", "P_22B4", "P_22BT", "P_22C", "P_22C1", "P_22D", "P_22D1", "RodzajFaktury",
    "PrzyczynaKorekty", "DataWystFaKorygowanej", "NrFaKorygowanej", "NrKSeFFaKorygowanej",
    "OkresFaKorygowanej", "NrFaKorygowany", "P_6Z", "NrFaZaliczkowej", "NrKSeFFaZaliczkowej", "UU_ID",
    "P_6A", "P_7", "Indeks", "GTIN", "PKWiU", "CN", "PKOB", "P_8A", "P_12", "GTU", "Procedura", "Powod",
    "DataZaplaty", "DataZaplatyCzesciowej", "OpisPlatnosci", "Termin", "Jednostka", "ZdarzeniePoczatkowe",
    "WarunkiSkonta", "WysokoscSkonta", "LinkDoPlatnosci", "IPKSeF", "DataUmowy", "NrUmowy",
    "DataZamowienia", "NrZamowienia", "NrPartiiTowaru", "WarunkiDostawy", "WalutaUmowna",
    "OpisInnegoTransportu", "NrZleceniaTransportu", "OpisInnegoLadunku", "JednostkaOpakowania",
    "DataGodzRozpTransportu", "DataGodzZakTransportu", "UU_IDZ", "P_7Z", "IndeksZ", "GTINZ", "PKWiUZ",
    "CNZ", "PKOBZ", "P_8AZ", "P_12Z", "GTUZ", "ProceduraZ", "StopkaFaktury", "PelnaNazwa", "KRS", "REGON",
    "BDO", "ZNaglowek", "ZKlucz", "ZWartosc", "Akapit", "TKlucz", "TWartosc", "Opis", "NKom", "WKom",
    "SKom"
  ]

/-- The elements of further elements. -/
def groupElements : List String :=
  [
    "Faktura", "Naglowek", "Podmiot1", "DaneIdentyfikacyjne", "Adres", "AdresKoresp", "DaneKontaktowe",
    "Podmiot2", "Podmiot3", "PodmiotUpowazniony", "Fa", "OkresFa", "Adnotacje", "Zwolnienie",
    "NoweSrodkiTransportu", "NowySrodekTransportu", "PMarzy", "DaneFaKorygowanej", "Podmiot1K",
    "Podmiot2K", "ZaliczkaCzesciowa", "DodatkowyOpis", "FakturaZaliczkowa", "FaWiersz", "Rozliczenie",
    "Obciazenia", "Odliczenia", "Platnosc", "ZaplataCzesciowa", "TerminPlatnosci", "TerminOpis",
    "RachunekBankowy", "RachunekBankowyFaktora", "Skonto", "WarunkiTransakcji", "Umowy", "Zamowienia",
    "Transport", "Przewoznik", "AdresPrzewoznika", "WysylkaZ", "WysylkaPrzez", "WysylkaDo", "Zamowienie",
    "ZamowienieWiersz", "Stopka", "Informacje", "Rejestry", "Zalacznik", "BlokDanych", "MetaDane", "Tekst",
    "Tabela", "TMetaDane", "TNaglowek", "Kol", "Wiersz", "Suma"
  ]

/-- The elements of FA(3). -/
def faElements : List String :=
  amountElements ++ priceElements ++ quantityElements ++ percentElements ++ wholeElements ++ textElements ++
    groupElements

/-- The decimals that the schema allows in an element, if it is one of numbers. -/
def schemaDigits (element : String) : Option Nat :=
  if element ∈ amountElements then some 2
  else if element ∈ priceElements then some 8
  else if element ∈ quantityElements ∨ element ∈ percentElements then some 6
  else if element ∈ wholeElements then some 0
  else none

/-! ## Names in JSON -/

/-- The letters of a JSON name, from those of an element. -/
def jsonLetters (element : List Char) : List Char :=
  match element.filter (· ≠ '_') with
  | [] => []
  | first :: rest => first.toLower :: rest

/-- The JSON name of an element: without underscores, and with a small first letter. -/
def jsonName (element : String) : String :=
  String.ofList (jsonLetters element.toList)

def rawKsefKeyMap : Assoc String :=
  [
    ("fa", "Fa"), ("podmiot1", "Podmiot1"), ("podmiot2", "Podmiot2"),
    ("daneIdentyfikacyjne", "DaneIdentyfikacyjne"), ("nip", "NIP"), ("nazwa", "Nazwa"),
    ("prefiksPodatnika", "PrefiksPodatnika"), ("adres", "Adres"), ("kodKraju", "KodKraju"),
    ("adresL1", "AdresL1"), ("adresL2", "AdresL2"), ("jST", "JST"), ("gV", "GV"),
    ("kodWaluty", "KodWaluty"), ("rodzajFaktury", "RodzajFaktury"), ("faWiersz", "FaWiersz"),
    ("nrWierszaFa", "NrWierszaFa"), ("uU_ID", "UU_ID"), ("uuID", "UU_ID"), ("uuid", "UU_ID"),
    ("p11vat", "P_11Vat"), ("p11Vat", "P_11Vat"), ("p12XII", "P_12_XII"), ("p12_XII", "P_12_XII"),
    ("p12Zal15", "P_12_Zal_15"), ("p12_Zal_15", "P_12_Zal_15"), ("kwotaAkcyzy", "KwotaAkcyzy"),
    ("gTU", "GTU"), ("gtu", "GTU"), ("procedura", "Procedura"), ("kursWaluty", "KursWaluty"),
    ("indeks", "Indeks"), ("indeksF", "IndeksF"), ("gTIN", "GTIN"), ("gtin", "GTIN"), ("pKWiU", "PKWiU"),
    ("pkwiu", "PKWiU"), ("cN", "CN"), ("cn", "CN"), ("pKOB", "PKOB"), ("pkob", "PKOB"),
    ("adnotacje", "Adnotacje"), ("zwolnienie", "Zwolnienie"),
    ("noweSrodkiTransportu", "NoweSrodkiTransportu"), ("nowySrodekTransportu", "NowySrodekTransportu"),
    ("pMarzy", "PMarzy"), ("ppMarzyN", "P_PMarzyN"), ("pNrWierszaNST", "P_NrWierszaNST"),
    ("p22a", "P_22A"), ("p22b", "P_22B"), ("p22b1", "P_22B1"), ("p22b2", "P_22B2"), ("p22b3", "P_22B3"),
    ("p22b4", "P_22B4"), ("p22bt", "P_22BT"), ("p22bmk", "P_22BMK"), ("p22bmd", "P_22BMD"),
    ("p22bk", "P_22BK"), ("p22bnr", "P_22BNR"), ("p22brp", "P_22BRP"), ("p22c", "P_22C"),
    ("p22c1", "P_22C1"), ("p22d", "P_22D"), ("p22d1", "P_22D1"), ("platnosc", "Platnosc"),
    ("terminPlatnosci", "TerminPlatnosci"), ("termin", "Termin"), ("terminOpis", "TerminOpis"),
    ("ilosc", "Ilosc"), ("jednostka", "Jednostka"), ("zdarzeniePoczatkowe", "ZdarzeniePoczatkowe"),
    ("rachunekBankowy", "RachunekBankowy"), ("nrRb", "NrRB"), ("nazwaBanku", "NazwaBanku"),
    ("formaPlatnosci", "FormaPlatnosci"), ("zaplacono", "Zaplacono"), ("dataZaplaty", "DataZaplaty"),
    ("rachunekBankowyFakt662", "RachunekBankowyFakt662"), ("warunkiTransakcji", "WarunkiTransakcji"),
    ("zamowienie", "Zamowienie"), ("dodatkowyOpis", "DodatkowyOpis"), ("klucz", "Klucz"),
    ("wartosc", "Wartosc"), ("nrWiersza", "NrWiersza"), ("kursWalutyZ", "KursWalutyZ"),
    ("kursWalutyZK", "KursWalutyZK"), ("faWierszCtrl", "FaWierszCtrl"),
    ("liczbaWierszyFaktury", "LiczbaWierszyFaktury"), ("wartoscWierszyFaktury", "WartoscWierszyFaktury"),
    ("daneFaKorygowanej", "DaneFaKorygowanej"), ("dataWystFaKorygowanej", "DataWystFaKorygowanej"),
    ("nrFaKorygowanej", "NrFaKorygowanej"), ("nrKSeF", "NrKSeF"), ("nrKSeFN", "NrKSeFN"),
    ("nrKSeFFaKorygowanej", "NrKSeFFaKorygowanej"), ("przyczynaKorekty", "PrzyczynaKorekty"),
    ("typKorekty", "TypKorekty"), ("okresFaKorygowanej", "OkresFaKorygowanej"),
    ("nrFaKorygowany", "NrFaKorygowany"), ("stanPrzed", "StanPrzed"), ("p15zk", "P_15ZK"),
    ("p15ZK", "P_15ZK"), ("podmiot1K", "Podmiot1K"), ("podmiot2K", "Podmiot2K"),
    ("zaliczkaCzesciowa", "ZaliczkaCzesciowa"), ("zwrotAkcyzy", "ZwrotAkcyzy"),
    ("opisRachunku", "OpisRachunku")
  ]

/-- `_P_FIELD_RE.match(key)`: its two groups. -/
def pField : List Char → Option (List Char × List Char)
  | 'p' :: rest =>
      let digits := rest.takeWhile Char.isDigit
      let alpha := rest.dropWhile Char.isDigit
      if digits ≠ [] ∧ alpha.all Char.isAlpha then some (digits, alpha) else none
  | _ => none

/-- `_P_COMPOUND_RE.match(key)`: its three groups. The first one takes all digits but the last. -/
def pCompound : List Char → Option (List Char × List Char × List Char)
  | 'p' :: rest =>
      let digits := rest.takeWhile Char.isDigit
      let alpha := rest.dropWhile Char.isDigit
      if 3 ≤ digits.length ∧ alpha.all Char.isAlpha then
        some (digits.dropLast, digits.drop (digits.length - 1), alpha)
      else none
  | _ => none

/-- `_P_ALPHA_DIGIT_RE.match(key)`: its two groups. -/
def pAlphaDigit : List Char → Option (List Char × List Char)
  | 'p' :: rest =>
      let digits := rest.takeWhile Char.isDigit
      let suffix := rest.dropWhile Char.isDigit
      let final := suffix.dropWhile Char.isAlpha
      if digits ≠ [] ∧ suffix.takeWhile Char.isAlpha ≠ [] ∧ final ≠ [] ∧ final.all Char.isDigit then
        some (digits, suffix)
      else none
  | _ => none

/-- A suffix of letters, of which a single one becomes a capital. -/
def alphaTag (alpha : List Char) : List Char :=
  if alpha.length = 1 then alpha.map Char.toUpper else alpha

/-- The tag for a key that is not in the table. -/
def patternTag (key : List Char) : List Char :=
  match pAlphaDigit key with
  | some (digits, suffix) => 'P' :: '_' :: digits ++ suffix.map Char.toUpper
  | none =>
      match pCompound key with
      | some (digits, suffixDigit, alpha) => 'P' :: '_' :: digits ++ '_' :: suffixDigit ++ alphaTag alpha
      | none =>
          match pField key with
          | some (digits, alpha) => 'P' :: '_' :: digits ++ alphaTag alpha
          | none =>
              match key with
              | [] => []
              | first :: rest => first.toUpper :: rest

def resolveXmlTag (key : String) : String :=
  (rawKsefKeyMap.find key).getD (String.ofList (patternTag key.toList))

def strip (text : List Char) : List Char :=
  ((text.dropWhile isSpace).reverse.dropWhile isSpace).reverse

/-- The tag that is made of a key. -/
def tagOf (key : String) : String :=
  resolveXmlTag (String.ofList (strip key.toList))

/-! ## The tags of JSON names -/

/-- The elements that are not found again, and the tags that their JSON names are taken for. -/
def misnamed : Assoc String :=
  [
    ("P_6_Od", "P_6Od"), ("P_6_Do", "P_6Do"), ("P_13_6_1", "P_136_1"), ("P_13_6_2", "P_136_2"),
    ("P_13_6_3", "P_136_3"), ("P_13_10", "P_131_0"), ("P_13_11", "P_131_1"), ("P_PMarzy", "PPMarzy"),
    ("P_PMarzy_2", "PPMarzy2"), ("P_PMarzy_3_1", "PPMarzy31"), ("P_PMarzy_3_2", "PPMarzy32"),
    ("P_PMarzy_3_3", "PPMarzy33"), ("P_PMarzyN", "PPMarzyN"), ("UU_ID", "UUID"), ("UU_IDZ", "UUIDZ"),
    ("P_12Z_XII", "P_12ZXII"), ("P_12Z_Zal_15", "P_12ZZAL15")
  ]

/-- The letters of the tag that is made of the JSON name of an element. -/
def tagLetters (element : String) : List Char :=
  let letters := strip (jsonLetters element.toList)
  match rawKsefKeyMap.find (String.ofList letters) with
  | some tag => tag.toList
  | none => patternTag letters

theorem tagOf_jsonName (element : String) :
    tagOf (jsonName element) = String.ofList (tagLetters element) := by
  unfold tagOf jsonName resolveXmlTag tagLetters
  simp only [String.toList_ofList]
  cases rawKsefKeyMap.find (String.ofList (strip (jsonLetters element.toList))) with
  | some tag => simp
  | none => simp

/-- Each element is found again or one of those that are not. -/
def Returns (elements : List String) : Bool :=
  elements.all fun element => tagLetters element == element.toList || misnamed.has element

theorem returns_amounts : Returns amountElements = true := by decide +kernel

theorem returns_numbers :
    Returns (priceElements ++ quantityElements ++ percentElements ++ wholeElements) = true := by
  decide +kernel

theorem returns_texts : Returns textElements = true := by decide +kernel

theorem returns_groups : Returns groupElements = true := by decide +kernel

theorem returns_append (first second : List String) :
    Returns (first ++ second) = (Returns first && Returns second) :=
  List.all_append

theorem returns_elements : Returns faElements = true := by
  have hnumbers := returns_numbers
  simp only [returns_append, Bool.and_eq_true] at hnumbers
  unfold faElements
  simp only [returns_append, Bool.and_eq_true]
  exact ⟨⟨⟨⟨⟨⟨returns_amounts, hnumbers.1.1.1⟩, hnumbers.1.1.2⟩, hnumbers.1.2⟩, hnumbers.2⟩, returns_texts⟩,
    returns_groups⟩

theorem misnamed_tags : (misnamed.all fun field => tagLetters field.1 == field.2.toList) = true := by
  decide +kernel

theorem misnamed_outside : (misnamed.all fun field => !faElements.contains field.2) = true := by
  decide +kernel

theorem misnamed_nodup : (misnamed.map Prod.snd).Nodup := by decide +kernel

theorem tagOf_misnamed {element tag : String} (h : (element, tag) ∈ misnamed) :
    tagOf (jsonName element) = tag ∧ tag ∉ faElements := by
  have hletters := List.all_eq_true.mp misnamed_tags _ h
  have houtside := List.all_eq_true.mp misnamed_outside _ h
  constructor
  · rw [tagOf_jsonName, beq_iff_eq.mp hletters]
    exact String.ofList_toList
  · simpa using houtside

theorem misnamed_cases (element : String) :
    element ∉ misnamed.map Prod.fst ∨ ∃ tag, (element, tag) ∈ misnamed := by
  by_cases h : element ∈ misnamed.map Prod.fst
  · obtain ⟨⟨_, tag⟩, hmem, rfl⟩ := List.mem_map.mp h
    exact .inr ⟨tag, hmem⟩
  · exact .inl h

variable {element : String}

theorem tagOf_of_not_misnamed (helement : element ∈ faElements)
    (h : element ∉ misnamed.map Prod.fst) : tagOf (jsonName element) = element := by
  have hletters := List.all_eq_true.mp returns_elements _ helement
  have hhas : misnamed.has element = false := by
    unfold Assoc.has
    rw [Assoc.find_eq_none h]
    rfl
  rw [hhas, Bool.or_false, beq_iff_eq] at hletters
  rw [tagOf_jsonName, hletters]
  exact String.ofList_toList

theorem tagOf_mem_iff (helement : element ∈ faElements) :
    tagOf (jsonName element) ∈ faElements ↔ element ∉ misnamed.map Prod.fst := by
  constructor
  · intro hmem hmis
    obtain ⟨⟨_, tag⟩, hfield, rfl⟩ := List.mem_map.mp hmis
    obtain ⟨htag, houtside⟩ := tagOf_misnamed hfield
    rw [htag] at hmem
    exact houtside hmem
  · intro h
    rw [tagOf_of_not_misnamed helement h]
    exact helement

theorem tagOf_inj {element element' : String} (helement : element ∈ faElements)
    (helement' : element' ∈ faElements) (h : tagOf (jsonName element) = tagOf (jsonName element')) :
    element = element' := by
  have hiff : element ∉ misnamed.map Prod.fst ↔ element' ∉ misnamed.map Prod.fst := by
    rw [← tagOf_mem_iff helement, ← tagOf_mem_iff helement', h]
  rcases misnamed_cases element with hright | ⟨tag, hwrong⟩
  · have hright' := hiff.mp hright
    rw [tagOf_of_not_misnamed helement hright, tagOf_of_not_misnamed helement' hright'] at h
    exact h
  · rcases misnamed_cases element' with hright' | ⟨tag', hwrong'⟩
    · have hright := hiff.mpr hright'
      have hkey : element ∈ misnamed.map Prod.fst := List.mem_map_of_mem (f := Prod.fst) hwrong
      exact absurd hkey hright
    · rw [(tagOf_misnamed hwrong).1, (tagOf_misnamed hwrong').1] at h
      have hsame := List.inj_on_of_nodup_map misnamed_nodup hwrong hwrong' h
      exact congrArg Prod.fst hsame

/-! ## The elements that keys name -/

/-- The key is the JSON name of an element. -/
def NamesElement (key : String) : Prop :=
  ∃ element ∈ faElements, jsonName element = key

/-- The element that a key names. -/
def elementName (key : String) : String :=
  (faElements.find? fun element => jsonName element = key).getD key

theorem find?_of_name {α β : Type} [DecidableEq β] {elements : List α} {name : α → β} {element : α}
    (hinj : ∀ other ∈ elements, name other = name element → other = element) (helement : element ∈ elements) :
    elements.find? (fun other => name other = name element) = some element := by
  cases hfind : elements.find? fun other => name other = name element with
  | none =>
    have hnone := List.find?_eq_none.mp hfind element helement
    simp at hnone
  | some found =>
    have hname : name found = name element := by simpa using List.find?_some hfind
    rw [hinj found (List.mem_of_find?_eq_some hfind) hname]

theorem elementName_jsonName (helement : element ∈ faElements) :
    elementName (jsonName element) = element := by
  have hinj (other : String) (hother : other ∈ faElements) (hname : jsonName other = jsonName element) :
      other = element := tagOf_inj hother helement (congrArg tagOf hname)
  unfold elementName
  rw [find?_of_name hinj helement]
  rfl

variable {key : String}

theorem elementName_mem (h : NamesElement key) : elementName key ∈ faElements := by
  obtain ⟨element, helement, rfl⟩ := h
  rw [elementName_jsonName helement]
  exact helement

theorem jsonName_elementName (h : NamesElement key) : jsonName (elementName key) = key := by
  obtain ⟨element, helement, rfl⟩ := h
  rw [elementName_jsonName helement]

theorem elementName_eq_of_tagOf {key key' : String} (h : NamesElement key) (h' : NamesElement key')
    (htag : tagOf key = tagOf key') : elementName key = elementName key' := by
  rw [← jsonName_elementName h, ← jsonName_elementName h'] at htag
  exact tagOf_inj (elementName_mem h) (elementName_mem h') htag

theorem tagOf_mem_iff_elementName (h : NamesElement key) :
    tagOf key ∈ faElements ↔ elementName key ∉ misnamed.map Prod.fst := by
  rw [← tagOf_mem_iff (elementName_mem h), jsonName_elementName h]

theorem tagOf_eq_elementName (h : NamesElement key)
    (hright : elementName key ∉ misnamed.map Prod.fst) : tagOf key = elementName key := by
  have htag := tagOf_of_not_misnamed (elementName_mem h) hright
  rwa [jsonName_elementName h] at htag

theorem names_of_jsonName {element key : String} (h : element ∈ faElements ∧ jsonName element = key) :
    NamesElement key ∧ elementName key = element := by
  obtain ⟨helement, rfl⟩ := h
  exact ⟨⟨element, helement, rfl⟩, elementName_jsonName helement⟩

end Ksef

end IntegrationPlatform
