import IntegrationPlatform.Rates.Rounding

/-!
# Totals of KSeF invoices

An invoice that gives no totals has them summed from its items. The lines, the net, the VAT and the gross
are each rounded to two digits on their own, and a rate is taken for a percentage if it is above 1.
`addsUp_iff` says for which items the printed amounts add up. Amounts are exact rationals.
-/

namespace IntegrationPlatform

namespace Ksef

open RateLimiter

/-! ## The data of an invoice -/

/-- An item. A field that is missing is as one that is null. -/
structure InvoiceItem where
  description : Option String
  name : Option String
  unit : Option String
  netAmount : Option Rat
  unitPriceNet : Option Rat
  unitPrice : Option Rat
  quantity : Option Rat
  vatRate : Option Int
  vatRate_nonneg : 0 ≤ vatRate.getD 0
  vatRate_le : vatRate.getD 0 ≤ 100

/-- The fields of an invoice from which its amounts are computed. -/
structure InvoiceData where
  items : List InvoiceItem
  totalNet : Option Rat
  totalVat : Option Rat
  totalGross : Option Rat

/-- `item.get("unit_price_net") or item.get("unit_price")`, where a price of nothing is false. -/
def InvoiceItem.price (item : InvoiceItem) : Option Rat :=
  (item.unitPriceNet.filter (· ≠ 0)).or item.unitPrice

def itemNet (item : InvoiceItem) : Rat :=
  match item.netAmount with
  | some net => net
  | none =>
      match item.price, item.quantity with
      | some price, some quantity => price * quantity
      | _, _ => 0

def vatRateDecimal (rate : Int) : Rat :=
  if rate > 1 then rate / 100 else rate

/-- The term of an item in the sum of the VAT. -/
def vatShare (item : InvoiceItem) : Rat :=
  itemNet item * vatRateDecimal (item.vatRate.getD 0)

/-! ## The elements -/

/-- The totals of `Fa`. -/
structure Totals where
  p13_1 : Option Rat
  p14_1 : Option Rat
  p15 : Option Rat
deriving DecidableEq

structure FaWiersz where
  nrWierszaFa : Nat
  p7 : Option String
  p8A : Option String
  p8B : Option Rat
  p9A : Option Rat
  p11 : Option Rat
  p12 : Option Int

def addTotals (data : InvoiceData) : Totals :=
  let summed (term : InvoiceItem → Rat) : Option Rat :=
    if data.items.isEmpty then none else some (data.items.map term).sum
  let totalNet := data.totalNet.or (summed itemNet)
  let totalVat := data.totalVat.or (summed vatShare)
  let totalGross := data.totalGross.or do return (← totalNet) + (← totalVat)
  { p13_1 := totalNet.map roundTwoDigits
    p14_1 := totalVat.map roundTwoDigits
    p15 := totalGross.map roundTwoDigits }

/-- The net amount of a line, which `_add_line_items` computes on its own. -/
def lineNet (item : InvoiceItem) : Option Rat :=
  item.netAmount.or do return (← item.price) * (← item.quantity)

/-- The line of an item. -/
def addLine (index : Nat) (item : InvoiceItem) : FaWiersz where
  nrWierszaFa := index
  p7 := (nonempty item.description).or (nonempty item.name)
  p8A := nonempty item.unit
  p8B := item.quantity
  p9A := item.price.map roundTwoDigits
  p11 := (lineNet item).map roundTwoDigits
  p12 := item.vatRate

def addLineItems (items : List InvoiceItem) : List FaWiersz :=
  (items.zipIdx 1).map fun (item, index) => addLine index item

/-- The printed amounts of an invoice add up. -/
structure AddsUp (data : InvoiceData) : Prop where
  gross : ∃ net vat, (addTotals data).p13_1 = some net ∧ (addTotals data).p14_1 = some vat ∧
    (addTotals data).p15 = some (net + vat)
  net : (addTotals data).p13_1 = some ((addLineItems data.items).filterMap FaWiersz.p11).sum
  shares : ∀ item ∈ data.items, vatShare item = itemNet item * (item.vatRate.getD 0 / 100)

/-! ## What the items are worth -/

/-- The net of an item, or what its quantity costs. -/
def InvoiceItem.worth (item : InvoiceItem) : Rat :=
  item.netAmount.getD (item.price.getD 0 * item.quantity.getD 0)

/-- The rate of an item in percent. -/
def InvoiceItem.percent (item : InvoiceItem) : Int :=
  item.vatRate.getD 0

/-- The VAT on an item. -/
def InvoiceItem.vat (item : InvoiceItem) : Rat :=
  item.worth * (item.percent / 100)

theorem itemNet_eq (item : InvoiceItem) : itemNet item = item.worth := by
  unfold itemNet InvoiceItem.worth
  cases item.netAmount with
  | some net => rfl
  | none =>
    cases item.price with
    | none => simp
    | some price => cases item.quantity <;> simp

theorem addLine_p11 (index : Nat) (item : InvoiceItem) :
    (addLine index item).p11 = some (roundTwoDigits item.worth) ∨
      ((addLine index item).p11 = none ∧ roundTwoDigits item.worth = 0) := by
  have hzero : roundTwoDigits 0 = 0 := by simp [roundTwoDigits, roundHalfEven]
  unfold addLine lineNet InvoiceItem.worth
  cases item.netAmount with
  | some net => exact .inl rfl
  | none =>
    cases item.price with
    | none =>
      right
      simp [hzero]
    | some price =>
      cases item.quantity with
      | none =>
        right
        simp [hzero]
      | some quantity => exact .inl rfl

theorem sum_addLines (index : Nat) (items : List InvoiceItem) :
    (((items.zipIdx index).map fun (item, index) => addLine index item).filterMap FaWiersz.p11).sum =
      ((items.map InvoiceItem.worth).map roundTwoDigits).sum := by
  induction items generalizing index with
  | nil => rfl
  | cons item items ih =>
    rw [List.zipIdx_cons, List.map_cons, List.map_cons, List.map_cons, List.sum_cons, ← ih (index + 1)]
    rcases addLine_p11 index item with hshown | ⟨hmissing, hzero⟩
    · rw [List.filterMap_cons_some hshown, List.sum_cons]
    · rw [List.filterMap_cons_none hmissing, hzero, zero_add]

/-! ## Rates -/

theorem vatRateDecimal_eq_iff {rate : Int} (hnonneg : 0 ≤ rate) :
    vatRateDecimal rate = rate / 100 ↔ rate ≠ 1 := by
  unfold vatRateDecimal
  split
  · next habove =>
    have hne : rate ≠ 1 := by omega
    simp [hne]
  · next hlow =>
    have hcases : rate = 0 ∨ rate = 1 := by omega
    rcases hcases with rfl | rfl <;> norm_num

theorem vatShare_eq_iff {item : InvoiceItem} :
    vatShare item = item.vat ↔ (item.percent = 1 → item.worth = 0) := by
  unfold vatShare InvoiceItem.vat
  have hnonneg : 0 ≤ item.percent := item.vatRate_nonneg
  rw [itemNet_eq]
  show item.worth * vatRateDecimal item.percent = _ ↔ _
  rw [mul_eq_mul_left_iff, vatRateDecimal_eq_iff hnonneg]
  tauto

/-! ## Totals of items -/

/-- The items whose printed amounts add up: no item of one per cent is worth anything, and neither the
lines nor the two totals lose as much as half a hundredth to rounding. -/
def Accurate (items : List InvoiceItem) : Prop :=
  (∀ item ∈ items, item.percent = 1 → item.worth = 0) ∧
    Absorbed ((items.map InvoiceItem.worth).map (· * 100)) ∧
    Absorbed ([(items.map InvoiceItem.worth).sum, (items.map InvoiceItem.vat).sum].map (· * 100))

theorem addTotals_eq {data : InvoiceData} (hitems : data.items ≠ []) (hnet : data.totalNet = none)
    (hvat : data.totalVat = none) (hgross : data.totalGross = none) :
    addTotals data =
      { p13_1 := some (roundTwoDigits (data.items.map itemNet).sum)
        p14_1 := some (roundTwoDigits (data.items.map vatShare).sum)
        p15 := some (roundTwoDigits ((data.items.map itemNet).sum + (data.items.map vatShare).sum)) } := by
  have hempty : data.items.isEmpty = false := by simpa using hitems
  simp [addTotals, hnet, hvat, hgross, hempty]

theorem addsUp_iff {data : InvoiceData} (hitems : data.items ≠ []) (hnet : data.totalNet = none)
    (hvat : data.totalVat = none) (hgross : data.totalGross = none) :
    AddsUp data ↔ Accurate data.items := by
  have htotals := addTotals_eq hitems hnet hvat hgross
  have hworth : data.items.map itemNet = data.items.map InvoiceItem.worth :=
    List.map_congr_left fun item _ => itemNet_eq item
  have hlines : ((addLineItems data.items).filterMap FaWiersz.p11).sum =
      ((data.items.map InvoiceItem.worth).map roundTwoDigits).sum := sum_addLines 1 data.items
  have hshares : (∀ item ∈ data.items, vatShare item = itemNet item * (item.vatRate.getD 0 / 100)) ↔
      ∀ item ∈ data.items, item.percent = 1 → item.worth = 0 := by
    refine forall₂_congr fun item _ => ?_
    rw [itemNet_eq]
    exact vatShare_eq_iff
  have hlinesIff : (addTotals data).p13_1 = some ((addLineItems data.items).filterMap FaWiersz.p11).sum ↔
      Absorbed ((data.items.map InvoiceItem.worth).map (· * 100)) := by
    rw [htotals, hlines, hworth, Option.some_inj]
    exact roundTwoDigits_sum_iff
  -- The gross is the rounded sum of a list of two.
  have hgrossIff (hrates : ∀ item ∈ data.items, item.percent = 1 → item.worth = 0) :
      (∃ net vat, (addTotals data).p13_1 = some net ∧ (addTotals data).p14_1 = some vat ∧
        (addTotals data).p15 = some (net + vat)) ↔
      Absorbed ([(data.items.map InvoiceItem.worth).sum, (data.items.map InvoiceItem.vat).sum].map
        (· * 100)) := by
    have hvats : data.items.map vatShare = data.items.map InvoiceItem.vat :=
      List.map_congr_left fun item hmem => vatShare_eq_iff.mpr (hrates item hmem)
    rw [← roundTwoDigits_sum_iff, htotals, hworth, hvats]
    simp
  constructor
  · intro hadds
    have hrates := hshares.mp hadds.shares
    exact ⟨hrates, hlinesIff.mp hadds.net, (hgrossIff hrates).mp hadds.gross⟩
  · rintro ⟨hrates, hnets, htwo⟩
    exact ⟨(hgrossIff hrates).mpr htwo, hlinesIff.mpr hnets, hshares.mpr hrates⟩

theorem accurate_of_whole {items : List InvoiceItem}
    (hrates : ∀ item ∈ items, item.percent = 1 → item.worth = 0)
    (hworth : ∀ item ∈ items, Whole (item.worth * 100))
    (hvat : ∀ item ∈ items, Whole (item.vat * 100)) : Accurate items := by
  have hworths : ∀ number ∈ (items.map InvoiceItem.worth).map (· * 100), Whole number := by
    simpa using hworth
  have hvats : ∀ number ∈ (items.map InvoiceItem.vat).map (· * 100), Whole number := by
    simpa using hvat
  refine ⟨hrates, absorbed_of_whole hworths, absorbed_of_whole ?_⟩
  simp only [List.map_cons, List.map_nil, List.forall_mem_cons, ← sum_hundredths]
  exact ⟨whole_sum hworths, whole_sum hvats, by simp⟩

/-- An item of which only the net amount and the rate are given. -/
def InvoiceItem.ofNet (net : Rat) (rate : Int) (hnonneg : 0 ≤ rate) (hle : rate ≤ 100) : InvoiceItem where
  description := none
  name := none
  unit := none
  netAmount := some net
  unitPriceNet := none
  unitPrice := none
  quantity := none
  vatRate := some rate
  vatRate_nonneg := hnonneg
  vatRate_le := hle

/-- An invoice for which no totals are given. -/
def InvoiceData.ofItems (items : List InvoiceItem) : InvoiceData where
  items := items
  totalNet := none
  totalVat := none
  totalGross := none

/-- Two services of 2000 at 23 per cent and of 5000 at 8 per cent. -/
def services : InvoiceData :=
  .ofItems [.ofNet 2000 23 (by decide) (by decide), .ofNet 5000 8 (by decide) (by decide)]

theorem services_addUp : services.items ≠ [] ∧ AddsUp services := by
  have hitems : services.items ≠ [] := List.cons_ne_nil _ _
  refine ⟨hitems, (addsUp_iff hitems rfl rfl rfl).mpr (accurate_of_whole ?_ ?_ ?_)⟩
  · simp [services, InvoiceData.ofItems, InvoiceItem.ofNet, InvoiceItem.percent]
  · simp only [services, InvoiceData.ofItems, InvoiceItem.ofNet, InvoiceItem.worth, List.forall_mem_cons]
    exact ⟨⟨200000, by norm_num⟩, ⟨500000, by norm_num⟩, by simp⟩
  · simp only [services, InvoiceData.ofItems, InvoiceItem.ofNet, InvoiceItem.worth, InvoiceItem.vat,
      InvoiceItem.percent, List.forall_mem_cons]
    exact ⟨⟨46000, by norm_num⟩, ⟨40000, by norm_num⟩, by simp⟩

/-- A net of 0.51 and a VAT of 0.115, half of a hundredth above a whole one. -/
def halfGrosz : InvoiceData :=
  .ofItems [.ofNet (1 / 2) 23 (by decide) (by decide), .ofNet (1 / 100) 0 (by decide) (by decide)]

/-- Two lines of four thousandths. -/
def smallLines : InvoiceData :=
  .ofItems [.ofNet (1 / 250) 0 (by decide) (by decide), .ofNet (1 / 250) 0 (by decide) (by decide)]

/-- A line of 100 at one per cent. -/
def onePercent : InvoiceData :=
  .ofItems [.ofNet 100 1 (by decide) (by decide)]

/-- The gross is printed as 0.62 beside 0.51 and 0.12, the net as 0.01 above two lines of 0.00, and the VAT
on 100 at one per cent as 100. -/
theorem totals_disagree :
    (addTotals halfGrosz = ⟨some (51 / 100), some (12 / 100), some (62 / 100)⟩ ∧ ¬ AddsUp halfGrosz) ∧
    (addTotals smallLines = ⟨some (1 / 100), some 0, some (1 / 100)⟩ ∧ ¬ AddsUp smallLines) ∧
    (addTotals onePercent = ⟨some 100, some 100, some 200⟩ ∧ ¬ AddsUp onePercent) := by
  have hgrosz : addTotals halfGrosz = ⟨some (51 / 100), some (12 / 100), some (62 / 100)⟩ := by
    decide +kernel
  refine ⟨⟨hgrosz, ?_⟩, ⟨by decide +kernel, ?_⟩, ⟨by decide +kernel, ?_⟩⟩
  · rintro ⟨⟨net, vat, hnet, hvat, hgross⟩, -, -⟩
    rw [hgrosz] at hnet hvat hgross
    injection hnet with hnet
    injection hvat with hvat
    injection hgross with hgross
    rw [← hnet, ← hvat] at hgross
    norm_num at hgross
  · intro hadds
    have hnet := hadds.net
    revert hnet
    decide +kernel
  · intro hadds
    have hshare := hadds.shares (.ofNet 100 1 (by decide) (by decide)) (List.mem_singleton_self _)
    revert hshare
    decide +kernel

end Ksef

end IntegrationPlatform
