import IntegrationPlatform.Json.Path
import IntegrationPlatform.Json.Targets
import IntegrationPlatform.Workflow.Conditions

/-!
# Objects assembled from paths

The workflow engine and the mapping resolver both read values at dotted paths and write them to dotted
paths, each with its own pair of functions. `assembled_alike` says that the values of compatible paths make
up one object, in whatever order they are written.
-/

namespace IntegrationPlatform

open Value

/-! ## Components -/

namespace MappingResolver

variable (texts : TextFunctions)

/-- `MappingResolver._get_nested`, which looks only into items that are objects. -/
def getNested (data : Value) (key : String) : Value :=
  getWhere texts isDict (splitBrackets key.toList) data

def setNested (key : String) (value data : Value) : Except String Value :=
  Value.setNested texts false key value data

end MappingResolver

/-- The components with functions for paths. -/
inductive PathComponent where
  | workflowEngine
  | mappingResolver

namespace PathComponent

variable (texts : TextFunctions)

/-- `_get_nested` of a component. -/
def get : PathComponent → Value → String → Value
  | .workflowEngine, data, key => getNested texts data key
  | .mappingResolver, data, key => MappingResolver.getNested texts data key

/-- `_set_nested` of a component. -/
def set : PathComponent → String → Value → Value → Except String Value
  | .workflowEngine, key, value, data => setNested texts true key value data
  | .mappingResolver, key, value, data => MappingResolver.setNested texts key value data

/-- The values that a component reads at some paths of the source, written to these paths one by one. -/
def assemble (component : PathComponent) (source : Value) : List Target → Value → Except String Value
  | [], data => .ok data
  | target :: targets, data =>
      (component.set texts target.spell (component.get texts source target.spell) data).bind
        (assemble component source targets)

end PathComponent

/-! ## Compatible targets -/

/-- The steps of a target. -/
def Target.steps (target : Target) : List TargetStep :=
  stepsOf target.segments

/-- Neither of the paths is a prefix of the other, and segments that they share have the same brackets. -/
def CompatibleSegments : List Segment → List Segment → Prop
  | segment :: rest, segment' :: rest' =>
      segment.name = segment'.name → segment.each = segment'.each ∧ CompatibleSegments rest rest'
  | _, _ => False

/-- Two targets can both be paths of one object. -/
def Target.Compatible (target target' : Target) : Prop :=
  CompatibleSegments target.segments target'.segments

section Targets

variable {texts : TextFunctions} {paths : Set (List TargetStep)} {targets : List Target}
  {source data : Value}

variable {segments segments' : List Segment}

theorem CompatibleSegments.apart
    (h : CompatibleSegments segments segments') : Apart (stepsOf segments) (stepsOf segments') := by
  induction segments generalizing segments' with
  | nil => cases h
  | cons segment rest ih =>
      cases segments' with
      | nil => cases h
      | cons segment' rest' =>
          intro hname
          obtain ⟨heach, hrest⟩ := h (String.ofList_injective hname)
          rw [heach]
          by_cases hlist : segment'.each = true
          · rw [if_pos hlist, if_pos hlist]
            exact ih hrest
          · rw [if_neg hlist, if_neg hlist]
            exact ih hrest

theorem PathComponent.get_spell (component : PathComponent) {target : Target}
    (hfits : Fits target.steps data) : component.get texts data target.spell = read target.steps data := by
  cases component with
  | workflowEngine =>
      show getBrackets texts (splitBrackets (String.toList (String.ofList _))) data = _
      rw [String.toList_ofList, ← getWhere_true]
      exact getWhere_spell (fun _ => rfl) target.first target.rest hfits
  | mappingResolver =>
      show getWhere texts isDict (splitBrackets (String.toList (String.ofList _))) data = _
      rw [String.toList_ofList]
      exact getWhere_spell (fun _ => rfl) target.first target.rest hfits

variable (texts) in
theorem PathComponent.exists_set (component : PathComponent) {target : Target}
    (hfits : Fits target.steps source) (h : Shows paths source data)
    (hapart : ∀ path ∈ paths, Apart target.steps path) :
    ∃ data', component.set texts target.spell (component.get texts source target.spell) data = .ok data' ∧
      Shows (insert target.steps paths) source data' := by
  rw [component.get_spell hfits]
  cases component with
  | workflowEngine =>
      obtain ⟨data', hassign, hshows⟩ :=
        assign_shows texts true (List.cons_ne_nil target.first target.rest) hfits h hapart
      exact ⟨data', (setNested_spell true target _ data).trans hassign, hshows⟩
  | mappingResolver =>
      obtain ⟨data', hassign, hshows⟩ :=
        assign_shows texts false (List.cons_ne_nil target.first target.rest) hfits h hapart
      exact ⟨data', (setNested_spell false target _ data).trans hassign, hshows⟩

variable (texts) in
/-- What has been assembled shows every path that has been written. -/
theorem PathComponent.exists_assemble (component : PathComponent)
    (hcompatible : targets.Pairwise Target.Compatible) (hfits : ∀ target ∈ targets, Fits target.steps source)
    (h : Shows paths source data)
    (hapart : ∀ target ∈ targets, ∀ path ∈ paths, Apart target.steps path) :
    ∃ result, component.assemble texts source targets data = .ok result ∧
      Shows (paths ∪ {path | ∃ target ∈ targets, target.steps = path}) source result := by
  induction targets generalizing paths data with
  | nil =>
      refine ⟨data, rfl, ?_⟩
      have hnone : {path | ∃ target ∈ ([] : List Target), target.steps = path} = ∅ := by
        ext path
        simp
      rw [hnone, Set.union_empty]
      exact h
  | cons target targets ih =>
      rw [List.pairwise_cons] at hcompatible
      obtain ⟨data', hset, hshows⟩ := component.exists_set texts
        (hfits target List.mem_cons_self) h (hapart target List.mem_cons_self)
      have hapart' : ∀ target' ∈ targets, ∀ path ∈ insert target.steps paths,
          Apart target'.steps path := by
        rintro target' htarget' path (rfl | hpath)
        · exact (hcompatible.1 target' htarget').apart.symm
        · exact hapart target' (List.mem_cons_of_mem _ htarget') path hpath
      obtain ⟨result, hresult, hshows'⟩ := ih hcompatible.2
        (fun target' htarget' => hfits target' (List.mem_cons_of_mem _ htarget')) hshows hapart'
      refine ⟨result, bind_eq_ok.mpr ⟨data', hset, hresult⟩, ?_⟩
      have hpaths : insert target.steps paths ∪ {path | ∃ target ∈ targets, target.steps = path} =
          paths ∪ {path | ∃ target' ∈ target :: targets, target'.steps = path} := by
        ext path
        simp only [Set.mem_union, Set.mem_insert_iff, Set.mem_ofPred_eq, List.exists_mem_cons_iff]
        tauto
      rw [← hpaths]
      exact hshows'

theorem CompatibleSegments.symm
    (h : CompatibleSegments segments segments') : CompatibleSegments segments' segments := by
  induction segments generalizing segments' with
  | nil => cases h
  | cons segment rest ih =>
      cases segments' with
      | nil => cases h
      | cons segment' rest' =>
          intro hname
          obtain ⟨heach, hrest⟩ := h hname.symm
          exact ⟨heach.symm, ih hrest⟩

/-- The values at compatible paths of an object make up the same object in every order, and lie at the same
paths of it. -/
theorem assembled_alike (texts : TextFunctions) (component : PathComponent) (source : Dict)
    (targets : List Target) (hcompatible : targets.Pairwise Target.Compatible)
    (hfits : ∀ target ∈ targets, Fits target.steps (.dict source)) :
    ∃ whole, (∀ target ∈ targets,
        component.get texts whole target.spell = component.get texts (.dict source) target.spell) ∧
      ∀ order, order.Perm targets → ∃ result,
        component.assemble texts (.dict source) order (.dict []) = .ok result ∧ Alike whole result ∧
          ∀ target ∈ targets,
            component.get texts result target.spell = component.get texts (.dict source) target.spell := by
  have hread : ∀ {result : Value},
      Shows (∅ ∪ {path | ∃ target ∈ targets, target.steps = path}) (.dict source) result →
        ∀ target ∈ targets,
          component.get texts result target.spell = component.get texts (.dict source) target.spell := by
    intro result hshows target htarget
    obtain ⟨hthere, heq⟩ := hshows.read_eq (.inr ⟨target, htarget, rfl⟩) (hfits target htarget)
    rw [component.get_spell hthere, component.get_spell (hfits target htarget), heq]
  have horder : ∀ order, order.Perm targets → ∃ result,
      component.assemble texts (.dict source) order (.dict []) = .ok result ∧
        Shows (∅ ∪ {path | ∃ target ∈ targets, target.steps = path}) (.dict source) result := by
    intro order hperm
    obtain ⟨result, hresult, hshows⟩ := component.exists_assemble texts
      (hcompatible.perm hperm.symm CompatibleSegments.symm)
      (fun target htarget => hfits target (hperm.mem_iff.mp htarget)) (shows_empty source)
      fun _ _ path hpath => absurd hpath (Set.notMem_empty path)
    have hpaths : {path | ∃ target ∈ order, target.steps = path} =
        {path | ∃ target ∈ targets, target.steps = path} := by
      ext path
      simp only [Set.mem_ofPred_eq, hperm.mem_iff]
    rw [hpaths] at hshows
    exact ⟨result, hresult, hshows⟩
  obtain ⟨whole, -, hwhole⟩ := horder targets (.refl _)
  refine ⟨whole, hread hwhole, fun order hperm => ?_⟩
  obtain ⟨result, hresult, hshows⟩ := horder order hperm
  exact ⟨result, hresult, hwhole.alike hshows, hread hshows⟩

end Targets

/-! ## Samples -/

namespace Sample

def orderItems : Dict :=
  [("items", .list [.dict [("sku", .str "A"), ("qty", .int 1)], .dict [("sku", .str "B"), ("qty", .int 2)]]),
    ("id", .int 7)]

def eachItem : Segment :=
  ⟨"items".toList, true, by decide, by decide, by decide⟩

def orderTargets : List Target :=
  [⟨eachItem, [⟨"sku".toList, false, by decide, by decide, by decide⟩]⟩,
    ⟨eachItem, [⟨"qty".toList, false, by decide, by decide, by decide⟩]⟩,
    ⟨⟨"id".toList, false, by decide, by decide, by decide⟩, []⟩]

end Sample

/-- The resolver puts an order together from its number and the codes and quantities of its items. -/
theorem assembled_order : ∃ whole, (∀ target ∈ Sample.orderTargets,
    PathComponent.mappingResolver.get Conditions.Sample.texts whole target.spell =
      PathComponent.mappingResolver.get Conditions.Sample.texts (.dict Sample.orderItems) target.spell) ∧
    ∀ order, order.Perm Sample.orderTargets → ∃ result,
      PathComponent.mappingResolver.assemble Conditions.Sample.texts (.dict Sample.orderItems) order
        (.dict []) = .ok result ∧ Alike whole result ∧ ∀ target ∈ Sample.orderTargets,
          PathComponent.mappingResolver.get Conditions.Sample.texts result target.spell =
            PathComponent.mappingResolver.get Conditions.Sample.texts (.dict Sample.orderItems)
              target.spell := by
  refine assembled_alike _ .mappingResolver Sample.orderItems Sample.orderTargets ?_ ?_
  · refine .cons ?_ (.cons ?_ (.cons ?_ .nil))
    · intro target htarget
      rcases List.mem_cons.mp htarget with rfl | htarget
      · exact fun _ => ⟨rfl, fun hname => absurd hname (by decide)⟩
      · obtain rfl := List.mem_singleton.mp htarget
        exact fun hname => absurd hname (by decide)
    · intro target htarget
      obtain rfl := List.mem_singleton.mp htarget
      exact fun hname => absurd hname (by decide)
    · intro target htarget
      cases htarget
  · intro target htarget
    rcases List.mem_cons.mp htarget with rfl | htarget
    · refine ⟨_, _, rfl, by rfl, _, rfl, fun item hitem => ?_⟩
      rcases List.mem_cons.mp hitem with rfl | hitem
      · exact ⟨_, _, rfl, by rfl, trivial⟩
      · obtain rfl := List.mem_singleton.mp hitem
        exact ⟨_, _, rfl, by rfl, trivial⟩
    · rcases List.mem_cons.mp htarget with rfl | htarget
      · refine ⟨_, _, rfl, by rfl, _, rfl, fun item hitem => ?_⟩
        rcases List.mem_cons.mp hitem with rfl | hitem
        · exact ⟨_, _, rfl, by rfl, trivial⟩
        · obtain rfl := List.mem_singleton.mp hitem
          exact ⟨_, _, rfl, by rfl, trivial⟩
      · obtain rfl := List.mem_singleton.mp htarget
        exact ⟨_, _, rfl, by rfl, trivial⟩

end IntegrationPlatform
