import IntegrationPlatform.Json.Fields
import IntegrationPlatform.Workflow.Executors
import Mathlib.Algebra.Order.Ring.Rat

/-!
# Aggregation of offers

An aggregate node takes the products out of the outputs of parallel branches, notes on each of them where
it comes from, and picks one by its price. `picksExtremal_iff` says for which outputs the product that it
picks is the cheapest or the dearest one.
-/

namespace IntegrationPlatform

namespace Aggregate

/-! ## The node -/

/-- The products of one branch. The notes are written into the products themselves: beside the products
stand the items of the list afterwards, up to one whose `attributes` have no `get`. -/
def annotateProducts (branchId : String) : List Value → List Value × Except Exc (List Dict)
  | [] => ([], .ok [])
  | .dict product :: rest =>
      let marked := Assoc.put product "_branch_id" (.str branchId)
      match ((Assoc.find marked "attributes").getD (.dict [])).get "source" (.str branchId) with
      -- `attributes` that are null, a text or a list have no `get`; the first note stays.
      | .error message => (.dict marked :: rest, .error ⟨message, none⟩)
      | .ok source =>
          let noted := Assoc.put marked "_source" source
          let (others, products) := annotateProducts branchId rest
          (.dict noted :: others, products.map (noted :: ·))
  | item :: rest =>
      let (others, products) := annotateProducts branchId rest
      (item :: others, products)

/-- The output of one branch, and its products. -/
def annotateBranch (branchId : String) (output : Value) : Value × Except Exc (List Dict) :=
  match output with
  | .dict fields =>
      match Assoc.find fields "products" with
      | some (.list items) =>
          let (others, products) := annotateProducts branchId items
          (.dict (Assoc.put fields "products" (.list others)), products)
      | _ => (output, .ok [])
  | _ => (output, .ok [])

/-- The outputs of the branches, and `flat_products`. -/
def annotateBranches : Dict → Dict × Except Exc (List Dict)
  | [] => ([], .ok [])
  | (branchId, output) :: rest =>
      let (noted, products) := annotateBranch branchId output
      match products with
      | .error exc => ((branchId, noted) :: rest, .error exc)
      | .ok products =>
          let (others, found) := annotateBranches rest
          ((branchId, noted) :: others, found.map (products ++ ·))

/-- `p[price_field]`, for a price that passes `isinstance(price, (int, float))`. -/
def amount (priceField : String) (product : Dict) : Option Rat :=
  (product.find priceField).bind Value.number?

/-- `isinstance(p.get(price_field), (int, float)) and p[price_field] > 0`. -/
def isValid (priceField : String) (product : Dict) : Bool :=
  (amount priceField product).any fun price => decide (0 < price)

/-- A product may stand before another one in the order of the prices. -/
def precedes (priceField : String) (reverse : Bool) (left right : Dict) : Bool :=
  let first := (amount priceField left).getD 0
  let second := (amount priceField right).getD 0
  if reverse then decide (second ≤ first) else decide (first ≤ second)

/-- `valid.sort(key=lambda p: p[price_field])`, with `reverse` for the strategy `max_price`. Both orders
are stable. -/
def ranked (priceField : String) (reverse : Bool) (products : List Dict) : List Dict :=
  products.mergeSort (precedes priceField reverse)

/-- What the node returns for products that no strategy has ranked. -/
def firstProduct (products : List Dict) : Dict :=
  [("aggregated", .list (products.map .dict)),
    ("winner", (products.head?.map Value.dict).getD .null),
    ("total_results", .int products.length)]

/-- What the node returns for its products. -/
def choose (config : NodeConfig) (products : List Dict) : Dict :=
  let strategy := config.strategy.getD "min_price"
  let priceField := config.priceField.getD "price"
  let nameField := config.nameField.getD "name"
  let valid := products.filter (isValid priceField)
  if products.isEmpty then [("aggregated", .list []), ("winner", .null)]
  else if strategy = "min_price" then
    match ranked priceField false valid with
    | [] => firstProduct products
    | winner :: others =>
        [("aggregated", .list ((winner :: others).map .dict)), ("winner", .dict winner),
          ("cheapest_price", (winner.find priceField).getD .null),
          ("cheapest_source", (winner.find "_source").getD (.str "")),
          ("cheapest_name", (winner.find nameField).getD (.str "")),
          ("total_results", .int (winner :: others).length)]
  else if strategy = "max_price" then
    match ranked priceField true valid with
    | [] => firstProduct products
    | winner :: others =>
        [("aggregated", .list ((winner :: others).map .dict)), ("winner", .dict winner),
          ("highest_price", (winner.find priceField).getD .null),
          ("highest_source", (winner.find "_source").getD (.str "")),
          ("total_results", .int (winner :: others).length)]
  else if strategy = "concat" then
    [("aggregated", .list (products.map .dict)), ("winner", .null),
      ("total_results", .int products.length)]
  else firstProduct products

/-- `_exec_aggregate`, for the value of its source variable: the output, and the value with the notes. -/
def aggregate (config : NodeConfig) (parallelResults : Value) : Except Exc Dict × Value :=
  if parallelResults.truthy then
    match parallelResults with
    | .dict branches =>
        let (noted, products) := annotateBranches branches
        (products.map (choose config), .dict noted)
    | _ =>
        (.error ⟨"'" ++ parallelResults.typeName ++ "' object has no attribute 'items'", none⟩,
          parallelResults)
  else (.ok [("aggregated", .list []), ("winner", .null)], parallelResults)

/-! ## Offers -/

/-- The products of all branches, each with its branch. -/
def offered (branches : Dict) : List (String × Dict) :=
  branches.flatMap fun branch =>
    match branch.2 with
    | .dict fields =>
        match Assoc.find fields "products" with
        | some (.list items) => items.filterMap fun item => item.fields?.map (Prod.mk branch.1)
        | _ => []
    | _ => []

/-- The attributes of a product, if it has any, are an object. -/
def Regular (offer : String × Dict) : Prop :=
  ∀ attributes, offer.2.find "attributes" = some attributes → ∃ fields, attributes = .dict fields

/-- Where a product comes from: its source, or its branch. -/
def sourceOf (offer : String × Dict) : Value :=
  match offer.2.find "attributes" with
  | some (.dict fields) => (Assoc.find fields "source").getD (.str offer.1)
  | _ => .str offer.1

/-- A product with its notes. -/
def noted (offer : String × Dict) : Dict :=
  (offer.2.put "_branch_id" (.str offer.1)).put "_source" (sourceOf offer)

/-- The products of all branches, with their notes. -/
def offers (branches : Dict) : List Dict :=
  (offered branches).map noted

/-- The price of a product, if it is a number. -/
def price (priceField : String) (product : Dict) : Option Rat :=
  match product.find priceField with
  | some (.int number) => some number
  | some (.float number) => some number
  | _ => none

/-- The product has a positive price. -/
def isPriced (priceField : String) (product : Dict) : Bool :=
  (price priceField product).any fun price => decide (0 < price)

/-- The strategies that compare prices. -/
inductive PriceStrategy where
  | minPrice
  | maxPrice

/-- The name of a strategy in a configuration. -/
def PriceStrategy.name : PriceStrategy → String
  | .minPrice => "min_price"
  | .maxPrice => "max_price"

/-- The strategy sorts in the reverse order. -/
def PriceStrategy.reverse : PriceStrategy → Bool
  | .minPrice => false
  | .maxPrice => true

/-- The first price is at least as good as the second one. -/
def PriceStrategy.Prefers : PriceStrategy → Rat → Rat → Prop
  | .minPrice, first, second => first ≤ second
  | .maxPrice, first, second => second ≤ first

/-- The price of the first product is at least as good as that of the second one. -/
def Ahead (strategy : PriceStrategy) (priceField : String) (first second : Dict) : Prop :=
  ∀ left right, price priceField first = some left → price priceField second = some right →
    strategy.Prefers left right

/-- The node returns. If a product has a positive price, then the winner has one that none is better
than, and the products with a positive price are listed in the order of their prices. Otherwise there is
no winner. -/
def PicksExtremal (strategy : PriceStrategy) (config : NodeConfig) (branches : Dict) : Prop :=
  let priceField := config.priceField.getD "price"
  let priced := (offers branches).filter (isPriced priceField)
  ∃ output, (aggregate config (.dict branches)).1 = .ok output ∧
    (priced ≠ [] → ∃ (winner : Dict) (aggregated : List Dict), Assoc.find output "winner" = some (.dict winner) ∧
      Assoc.find output "aggregated" = some (.list (aggregated.map .dict)) ∧
      winner ∈ priced ∧ (∀ other ∈ priced, Ahead strategy priceField winner other) ∧
      aggregated.Perm priced ∧ aggregated.Pairwise (Ahead strategy priceField)) ∧
    (priced = [] → Assoc.find output "winner" = some .null)

/-- The attributes of every product are an object, no price is `true`, and some product has a positive
price unless there are no products. -/
structure Clean (config : NodeConfig) (branches : Dict) : Prop where
  regular : ∀ offer ∈ offered branches, Regular offer
  number : ∀ product ∈ offers branches,
    product.find (config.priceField.getD "price") ≠ some (.bool true)
  priced : offers branches = [] ∨
    ∃ product ∈ offers branches, isPriced (config.priceField.getD "price") product = true

section Offers

variable {branchId : String} {items : List Value} {branches : Dict} {priceField : String}
  {product : Dict}

theorem get_source (offer : String × Dict) :
    (((offer.2.put "_branch_id" (.str offer.1)).find "attributes").getD (.dict [])).get "source"
        (.str offer.1) =
      match offer.2.find "attributes" with
      | some (.dict _) => .ok (sourceOf offer)
      | some attributes =>
          .error ("'" ++ attributes.typeName ++ "' object has no attribute 'get'")
      | none => .ok (sourceOf offer) := by
  rw [Assoc.find_put, if_neg (by decide)]
  unfold sourceOf
  cases offer.2.find "attributes" with
  | none => rfl
  | some attributes => cases attributes <;> rfl

theorem annotateProducts_ok
    (h : ∀ offer ∈ items.filterMap fun item => item.fields?.map (Prod.mk branchId), Regular offer) :
    (annotateProducts branchId items).2 =
      .ok ((items.filterMap fun item => item.fields?.map (Prod.mk branchId)).map noted) := by
  induction items with
  | nil => rfl
  | cons item rest ih =>
      cases item with
      | dict product =>
          obtain ⟨hproduct, hrest⟩ := List.forall_mem_cons.mp h
          have hsource := get_source (branchId, product)
          have hget : ((Assoc.find (Assoc.put product "_branch_id" (.str branchId))
              "attributes").getD (.dict [])).get "source" (.str branchId) =
            .ok (sourceOf (branchId, product)) := by
            cases hattributes : Assoc.find product "attributes" with
            | none => simpa only [hattributes] using hsource
            | some attributes =>
                obtain ⟨fields, rfl⟩ := hproduct attributes hattributes
                simpa only [hattributes] using hsource
          rw [annotateProducts]
          simp only [hget, ih hrest]
          rfl
      | _ => exact ih h

theorem annotateProducts_error
    (h : ∃ offer ∈ items.filterMap fun item => item.fields?.map (Prod.mk branchId), ¬ Regular offer) :
    ∃ exc, (annotateProducts branchId items).2 = .error exc := by
  induction items with
  | nil =>
      obtain ⟨offer, hoffer, -⟩ := h
      cases hoffer
  | cons item rest ih =>
      cases item with
      | dict product =>
          obtain ⟨offer, hoffer, hirregular⟩ := h
          have hsource := get_source (branchId, product)
          rw [annotateProducts]
          cases hget : ((Assoc.find (Assoc.put product "_branch_id" (.str branchId))
              "attributes").getD (.dict [])).get "source" (.str branchId) with
          | error message => exact ⟨_, rfl⟩
          | ok source =>
              rw [hget] at hsource
              rcases List.mem_cons.mp hoffer with rfl | hrest
              · refine absurd (fun attributes hattributes => ?_) hirregular
                simp only at hattributes
                simp only [hattributes] at hsource
                cases attributes with
                | dict fields => exact ⟨fields, rfl⟩
                | _ => cases hsource
              · obtain ⟨exc, hexc⟩ := ih ⟨offer, hrest, hirregular⟩
                simp only [hexc]
                exact ⟨_, rfl⟩
      | _ => exact ih h

/-- The products of a branch, and of the branches after it. -/
theorem offered_cons (output : Value) (rest : Dict) :
    offered ((branchId, output) :: rest) = offered [(branchId, output)] ++ offered rest := by
  simp [offered]

/-- Either the products of a branch are noted, or one of them is irregular and the annotation raises. -/
theorem annotateBranch_cases (branchId : String) (output : Value) :
    ((∀ offer ∈ offered [(branchId, output)], Regular offer) ∧
        (annotateBranch branchId output).2 = .ok (offers [(branchId, output)])) ∨
      ((∃ offer ∈ offered [(branchId, output)], ¬ Regular offer) ∧
        ∃ exc, (annotateBranch branchId output).2 = .error exc) := by
  have hnone : offered [(branchId, output)] = [] →
      (annotateBranch branchId output).2 = .ok [] →
      ((∀ offer ∈ offered [(branchId, output)], Regular offer) ∧
        (annotateBranch branchId output).2 = .ok (offers [(branchId, output)])) := by
    intro hoffered hresult
    unfold offers
    rw [hoffered]
    exact ⟨fun _ h => (nomatch h), hresult⟩
  cases output with
  | dict fields =>
      cases hproducts : Assoc.find fields "products" with
      | none =>
          refine .inl (hnone ?_ ?_)
          · simp [offered, hproducts]
          · simp [annotateBranch, hproducts]
      | some products =>
          cases products with
          | list items =>
              have hoffered : offered [(branchId, .dict fields)] =
                  items.filterMap fun item => item.fields?.map (Prod.mk branchId) := by
                simp [offered, hproducts]
              have hresult : (annotateBranch branchId (.dict fields)).2 =
                  (annotateProducts branchId items).2 := by
                simp [annotateBranch, hproducts]
              unfold offers
              rw [hoffered, hresult]
              by_cases hregular : ∀ offer ∈ items.filterMap fun item =>
                  item.fields?.map (Prod.mk branchId), Regular offer
              · exact .inl ⟨hregular, annotateProducts_ok hregular⟩
              · have hsome : ∃ offer ∈ items.filterMap fun item =>
                    item.fields?.map (Prod.mk branchId), ¬ Regular offer := by
                  by_contra hnot
                  exact hregular fun offer hoffer => by_contra fun h => hnot ⟨offer, hoffer, h⟩
                exact .inr ⟨hsome, annotateProducts_error hsome⟩
          | _ =>
              refine .inl (hnone ?_ ?_)
              · simp [offered, hproducts]
              · simp [annotateBranch, hproducts]
  | _ => exact .inl (hnone rfl rfl)

theorem annotateBranches_ok (branches : Dict) :
    (∀ offer ∈ offered branches, Regular offer) ∧ (annotateBranches branches).2 = .ok (offers branches) ∨
      (∃ offer ∈ offered branches, ¬ Regular offer) ∧
        ∃ exc, (annotateBranches branches).2 = .error exc := by
  induction branches with
  | nil => exact .inl ⟨fun _ h => (nomatch h), rfl⟩
  | cons branch rest ih =>
      obtain ⟨branchId, output⟩ := branch
      have hoffers : offers ((branchId, output) :: rest) =
          offers [(branchId, output)] ++ offers rest := by
        unfold offers
        rw [offered_cons, List.map_append]
      rw [annotateBranches, offered_cons, hoffers]
      rcases annotateBranch_cases branchId output with ⟨hfirst, hbranch⟩ | ⟨hfirst, exc, hbranch⟩
      · rcases ih with ⟨hrest, hok⟩ | ⟨⟨offer, hoffer, hirregular⟩, exc, herror⟩
        · refine .inl ⟨fun offer hoffer => ?_, ?_⟩
          · exact (List.mem_append.mp hoffer).elim (hfirst offer) (hrest offer)
          · simp only [hbranch, hok]
            rfl
        · refine .inr ⟨⟨offer, List.mem_append_right _ hoffer, hirregular⟩, exc, ?_⟩
          simp only [hbranch, herror]
          rfl
      · obtain ⟨offer, hoffer, hirregular⟩ := hfirst
        refine .inr ⟨⟨offer, List.mem_append_left _ hoffer, hirregular⟩, exc, ?_⟩
        simp only [hbranch]

/-! ## The choice -/

theorem amount_of_price {value : Rat} (h : price priceField product = some value) :
    amount priceField product = some value := by
  unfold price at h
  unfold amount
  split at h
  · next number hfind =>
    rw [hfind]
    exact h
  · next number hfind =>
    rw [hfind]
    exact h
  · cases h

theorem isValid_of_isPriced (h : isPriced priceField product = true) :
    isValid priceField product = true := by
  obtain ⟨value, hprice, hpositive⟩ := (Option.any_eq_true _ _).mp h
  exact (Option.any_eq_true _ _).mpr ⟨value, amount_of_price hprice, hpositive⟩

theorem isPriced_of_isValid (h : isValid priceField product = true)
    (hnumber : product.find priceField ≠ some (.bool true)) : isPriced priceField product = true := by
  obtain ⟨value, hamount, hpositive⟩ := (Option.any_eq_true _ _).mp h
  refine (Option.any_eq_true _ _).mpr ⟨value, ?_, hpositive⟩
  unfold amount at hamount
  obtain ⟨found, hfind, hfound⟩ := Option.bind_eq_some_iff.mp hamount
  unfold price
  rw [hfind]
  cases found with
  | int number => exact hfound
  | float number => exact hfound
  | bool flag =>
      cases flag with
      | true => exact absurd hfind hnumber
      | false =>
          obtain rfl := Option.some.inj hfound
          exact absurd (of_decide_eq_true hpositive) (by decide)
  | _ => cases hfound

theorem isValid_of_true (h : product.find priceField = some (.bool true)) :
    isValid priceField product = true ∧ isPriced priceField product = false := by
  constructor
  · refine (Option.any_eq_true _ _).mpr ⟨1, ?_, by decide⟩
    unfold amount
    rw [h]
    rfl
  · unfold isPriced price
    rw [h]
    rfl

variable (priceField) in
theorem pairwise_ranked (strategy : PriceStrategy) (products : List Dict) :
    (ranked priceField strategy.reverse products).Pairwise (Ahead strategy priceField) := by
  have hsorted := @List.pairwise_mergeSort _ (precedes priceField strategy.reverse)
    (fun left mid right => by
      cases strategy with
      | minPrice => simpa [precedes, PriceStrategy.reverse] using fun h h' => le_trans h h'
      | maxPrice => simpa [precedes, PriceStrategy.reverse] using fun h h' => le_trans h' h)
    (fun left right => by
      cases strategy with
      | minPrice => simpa [precedes, PriceStrategy.reverse] using le_total _ _
      | maxPrice => simpa [precedes, PriceStrategy.reverse] using le_total _ _)
    products
  refine hsorted.imp fun {left right} hle first second hfirst hsecond => ?_
  unfold precedes at hle
  rw [amount_of_price hfirst, amount_of_price hsecond] at hle
  cases strategy with
  | minPrice => simpa [PriceStrategy.reverse, PriceStrategy.Prefers] using hle
  | maxPrice => simpa [PriceStrategy.reverse, PriceStrategy.Prefers] using hle

end Offers

/-! ## When the winner is extremal -/

section Winner

variable {strategy : PriceStrategy} {config : NodeConfig} {branches : Dict}

theorem filter_isValid {priceField : String} {products : List Dict}
    (h : ∀ product ∈ products, product.find priceField ≠ some (.bool true)) :
    products.filter (isValid priceField) = products.filter (isPriced priceField) := by
  refine List.filter_congr fun product hproduct => ?_
  rw [Bool.eq_iff_iff]
  exact ⟨fun hvalid => isPriced_of_isValid hvalid (h product hproduct), isValid_of_isPriced⟩

/-- What the node returns for valid products: these in their order, the first one as the winner. -/
theorem choose_valid (hname : config.strategy.getD "min_price" = strategy.name) {products : List Dict}
    {winner : Dict} {others : List Dict}
    (hranked : ranked (config.priceField.getD "price")
      strategy.reverse
      (products.filter (isValid (config.priceField.getD "price"))) = winner :: others) :
    Assoc.find (choose config products) "winner" = some (.dict winner) ∧
      Assoc.find (choose config products) "aggregated" =
        some (.list ((winner :: others).map .dict)) := by
  have hsome : products.isEmpty = false := by
    cases products with
    | nil => simp [ranked] at hranked
    | cons product rest => rfl
  unfold choose
  cases strategy with
  | minPrice =>
      simp only [PriceStrategy.reverse] at hranked
      simp only [hsome, hname, PriceStrategy.name, hranked]
      exact ⟨rfl, rfl⟩
  | maxPrice =>
      simp only [PriceStrategy.reverse] at hranked
      simp only [hsome, hname, PriceStrategy.name, hranked]
      exact ⟨rfl, rfl⟩

theorem choose_invalid (hname : config.strategy.getD "min_price" = strategy.name)
    {products : List Dict} (hvalid : products.filter (isValid (config.priceField.getD "price")) = []) :
    Assoc.find (choose config products) "winner" =
      some ((products.head?.map Value.dict).getD .null) := by
  have hranked : ∀ reverse, ranked (config.priceField.getD "price") reverse
      (products.filter (isValid (config.priceField.getD "price"))) = [] := by
    intro reverse
    rw [hvalid]
    exact List.mergeSort_nil
  unfold choose
  cases hempty : products.isEmpty with
  | true =>
      rw [List.isEmpty_iff.mp hempty]
      rfl
  | false =>
      cases strategy <;> simp only [hname, PriceStrategy.name, hranked] <;> rfl

variable (config) in
theorem aggregate_ok (hregular : ∀ offer ∈ offered branches, Regular offer) :
    ∃ output, (aggregate config (.dict branches)).1 = .ok output ∧
      Assoc.find output "winner" = Assoc.find (choose config (offers branches)) "winner" ∧
      Assoc.find output "aggregated" = Assoc.find (choose config (offers branches)) "aggregated" := by
  cases branches with
  | nil => exact ⟨_, rfl, rfl, rfl⟩
  | cons branch rest =>
      refine ⟨choose config (offers (branch :: rest)), ?_, rfl, rfl⟩
      rcases annotateBranches_ok (branch :: rest) with ⟨-, hok⟩ | ⟨⟨offer, hoffer, hirregular⟩, -⟩
      · unfold aggregate
        simp only [Value.truthy, List.isEmpty_cons, Bool.not_false, if_true, hok]
        rfl
      · exact absurd (hregular offer hoffer) hirregular

theorem regular_of_aggregate {output : Dict}
    (h : (aggregate config (.dict branches)).1 = .ok output) :
    ∀ offer ∈ offered branches, Regular offer := by
  rcases annotateBranches_ok branches with ⟨hregular, -⟩ | ⟨⟨offer, hoffer, -⟩, exc, herror⟩
  · exact hregular
  · have hsome : branches.isEmpty = false := by
      cases branches with
      | nil => cases hoffer
      | cons branch rest => rfl
    unfold aggregate at h
    simp only [Value.truthy, hsome, Bool.not_false, if_true, herror] at h
    cases h

theorem number_of_picks (hname : config.strategy.getD "min_price" = strategy.name)
    (h : PicksExtremal strategy config branches) {product : Dict} (hproduct : product ∈ offers branches) :
    product.find (config.priceField.getD "price") ≠ some (.bool true) := by
  obtain ⟨output, houtput, hsome, hnone⟩ := h
  obtain ⟨_, houtput', hwinner', haggregated'⟩ := aggregate_ok config (regular_of_aggregate houtput)
  obtain rfl := Except.ok.inj (houtput'.symm.trans houtput)
  intro htrue
  obtain ⟨hvalid, hnotPriced⟩ := isValid_of_true htrue
  -- `isinstance(True, int)` holds, so that the product is ranked with the others.
  have hmem : product ∈ ranked (config.priceField.getD "price") strategy.reverse
      ((offers branches).filter (isValid (config.priceField.getD "price"))) :=
    List.mem_mergeSort.mpr (List.mem_filter.mpr ⟨hproduct, hvalid⟩)
  obtain ⟨winner, others, hranked⟩ := List.exists_cons_of_ne_nil (List.ne_nil_of_mem hmem)
  obtain ⟨hwinner, haggregated⟩ := choose_valid hname hranked
  by_cases hpriced : (offers branches).filter (isPriced (config.priceField.getD "price")) = []
  · have hnull := hnone hpriced
    rw [hwinner', hwinner] at hnull
    cases hnull
  · obtain ⟨_, aggregated, -, hlisted, -, -, hperm, -⟩ := hsome hpriced
    rw [haggregated', haggregated] at hlisted
    have hsame := List.map_injective_iff.mpr (fun _ _ => Value.dict.inj)
      (Value.list.inj (Option.some.inj hlisted))
    rw [hranked, hsame] at hmem
    rw [(List.mem_filter.mp (hperm.mem_iff.mp hmem)).2] at hnotPriced
    cases hnotPriced

/-- Of clean products with positive prices, the first of the ranked ones has the best price. -/
theorem picks_of_clean (hname : config.strategy.getD "min_price" = strategy.name)
    (hclean : Clean config branches)
    (hsome : (offers branches).filter (isPriced (config.priceField.getD "price")) ≠ []) :
    ∃ (winner : Dict) (aggregated : List Dict),
      Assoc.find (choose config (offers branches)) "winner" = some (.dict winner) ∧
      Assoc.find (choose config (offers branches)) "aggregated" = some (.list (aggregated.map .dict)) ∧
      winner ∈ (offers branches).filter (isPriced (config.priceField.getD "price")) ∧
      (∀ other ∈ (offers branches).filter (isPriced (config.priceField.getD "price")),
        Ahead strategy (config.priceField.getD "price") winner other) ∧
      aggregated.Perm ((offers branches).filter (isPriced (config.priceField.getD "price"))) ∧
      aggregated.Pairwise (Ahead strategy (config.priceField.getD "price")) := by
  have hfilter := filter_isValid hclean.number
  have hperm := List.mergeSort_perm ((offers branches).filter
    (isValid (config.priceField.getD "price")))
    (precedes (config.priceField.getD "price") strategy.reverse)
  have hpairwise := pairwise_ranked (config.priceField.getD "price") strategy
    ((offers branches).filter (isValid (config.priceField.getD "price")))
  rw [hfilter] at hperm
  cases hranked : ranked (config.priceField.getD "price") strategy.reverse
      ((offers branches).filter (isValid (config.priceField.getD "price"))) with
  -- Sorting loses none of the priced products.
  | nil =>
      rw [hfilter] at hranked
      unfold ranked at hranked
      rw [hranked] at hperm
      exact absurd hperm.symm.eq_nil hsome
  | cons winner others =>
      obtain ⟨hwinner, haggregated⟩ := choose_valid hname hranked
      rw [hranked] at hpairwise
      rw [hfilter] at hranked
      unfold ranked at hranked
      rw [hranked] at hperm
      refine ⟨winner, winner :: others, hwinner, haggregated,
        hperm.mem_iff.mp List.mem_cons_self, fun other hother => ?_, hperm, hpairwise⟩
      rcases List.mem_cons.mp (hperm.mem_iff.mpr hother) with rfl | hrest
      · intro left right hleft hright
        obtain rfl := Option.some.inj (hleft.symm.trans hright)
        cases strategy <;> exact le_refl _
      · exact List.rel_of_pairwise_cons hpairwise hrest

/-- The node picks the product with the best price if and only if the attributes of every product are an
object, no price is `true`, and some product has a positive price unless there are no products. -/
theorem picksExtremal_iff (strategy : PriceStrategy) (config : NodeConfig) (branches : Dict)
    (hname : config.strategy.getD "min_price" = strategy.name) :
    PicksExtremal strategy config branches ↔ Clean config branches := by
  constructor
  · intro hpicks
    have hnumber : ∀ product ∈ offers branches,
        product.find (config.priceField.getD "price") ≠ some (.bool true) :=
      fun _ hproduct => number_of_picks hname hpicks hproduct
    obtain ⟨output, houtput, hsome, hnone⟩ := hpicks
    have hregular := regular_of_aggregate houtput
    obtain ⟨_, houtput', hwinner', -⟩ := aggregate_ok config hregular
    obtain rfl := Except.ok.inj (houtput'.symm.trans houtput)
    refine ⟨hregular, hnumber, ?_⟩
    by_cases hpriced : (offers branches).filter (isPriced (config.priceField.getD "price")) = []
    · left
      have hnull := hnone hpriced
      rw [hwinner', choose_invalid hname ((filter_isValid hnumber).trans hpriced)] at hnull
      cases hoffers : offers branches with
      | nil => rfl
      | cons product rest =>
          rw [hoffers] at hnull
          cases hnull
    · obtain ⟨product, hproduct⟩ := List.exists_mem_of_ne_nil _ hpriced
      exact .inr ⟨product, List.mem_filter.mp hproduct⟩
  · intro hclean
    obtain ⟨output, houtput, hwinner, haggregated⟩ := aggregate_ok config hclean.regular
    refine ⟨output, houtput, ?_, fun hnone => ?_⟩
    · rw [hwinner, haggregated]
      exact picks_of_clean hname hclean
    · rw [hwinner, choose_invalid hname ((filter_isValid hclean.number).trans hnone)]
      rcases hclean.priced with hnil | ⟨product, hproduct, hpriced⟩
      · rw [hnil]
        rfl
      · exact absurd hnone (List.ne_nil_of_mem (List.mem_filter.mpr ⟨hproduct, hpriced⟩))

end Winner

/-! ## Samples -/

/-- Two suppliers that offer one product each, at these prices. -/
def twoSuppliers (first second : Value) : Dict :=
  [("north", .dict [("products", .list [.dict [("name", .str "bolt"), ("price", first)]])]),
    ("south", .dict [("error", .str "timeout"),
      ("products", .list [.dict [("name", .str "bolt"), ("price", second)], .null])])]

/-- The cheaper one of two offers is picked, beside an item that is no product. -/
theorem picksExtremal_twoSuppliers :
    PicksExtremal .minPrice {} (twoSuppliers (.float (5 / 2)) (.int 2)) := by
  refine (picksExtremal_iff .minPrice {} _ rfl).mpr ⟨?_, ?_, .inr ?_⟩
  · intro offer hoffer attributes hattributes
    rcases List.mem_cons.mp hoffer with rfl | hoffer
    · cases hattributes
    · obtain rfl := List.mem_singleton.mp hoffer
      cases hattributes
  · intro product hproduct
    rcases List.mem_cons.mp hproduct with rfl | hproduct
    · exact fun h => nomatch h
    · obtain rfl := List.mem_singleton.mp hproduct
      exact fun h => nomatch h
  · exact ⟨_, List.mem_cons_self, by decide +kernel⟩

/-- Without a positive price the first offer wins, and attributes that are `null` make the node raise. -/
theorem not_picksExtremal :
    ¬ PicksExtremal .minPrice {} (twoSuppliers (.int 0) .null) ∧
      ¬ PicksExtremal .minPrice {} [("north", .dict [("products", .list [.dict
        [("price", .int 3), ("attributes", .null)]])])] := by
  constructor
  · rintro ⟨output, houtput, -, hnone⟩
    obtain rfl := Except.ok.inj houtput
    have hfirst := @choose_invalid .minPrice {} rfl (offers (twoSuppliers (.int 0) .null)) rfl
    cases hfirst.symm.trans (hnone rfl)
  · rintro ⟨output, houtput, -, -⟩
    cases houtput

end Aggregate

end IntegrationPlatform
