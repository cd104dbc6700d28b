import IntegrationPlatform.Json.Value
import Mathlib.Data.List.Lex

/-!
# The registry of the connectors

`ConnectorRegistry` holds the manifests that it has discovered, and `get_by_name_version` resolves a
name and a version. A version that is not installed, or none, is resolved to the newest manifest of
the name, by the numbers in its version. What Python counts as a digit, and the number that it reads
in some digits, are parameters.
-/

namespace IntegrationPlatform

namespace Connectors

def defaultConnectorPort : Nat := 8000

/-- The fields of a `ConnectorManifest` that requests use. -/
structure ConnectorManifest where
  name : String
  category : String
  version : String
  actionFields : Dict := []
  outputFields : Dict := []
  actionRoutes : Dict := []
  serviceName : String := ""
  rateLimits : Dict := []
  healthEndpoint : String := "/health"

/-- The service that connectors of a name run under by default. -/
def defaultServiceName (name : String) : String := "connector-" ++ name

/-- The address of a service. -/
def serviceUrl (service : String) : String :=
  "http://" ++ service ++ ":" ++ toString defaultConnectorPort

namespace ConnectorManifest

variable (manifest : ConnectorManifest)

def resolvedServiceName : String :=
  if manifest.serviceName = "" then defaultServiceName manifest.name else manifest.serviceName

def baseUrl : String := serviceUrl manifest.resolvedServiceName

end ConnectorManifest

/-! ## Versions -/

/-- What Python reads as numbers. -/
structure Numerals where
  /-- `ch.isdigit()`. -/
  isDigit : Char → Bool
  /-- `int(digits)`, unless it raises a `ValueError`. -/
  int : String → Option Nat

/-- The numbers of ASCII texts. -/
def asciiNumerals : Numerals where
  isDigit := Char.isDigit
  int digits := some (digits.toList.foldl (fun number digit => 10 * number + (digit.toNat - 48)) 0)

/-- The number at the start of a segment of a version. -/
def parseSegment (numerals : Numerals) (segment : List Char) : Except String Nat :=
  match segment.takeWhile numerals.isDigit with
  | [] => .ok 0
  | digits =>
      match numerals.int (String.ofList digits) with
      | some number => .ok number
      | none =>
          .error ("invalid literal for int() with base 10: '" ++ String.ofList digits ++ "'")

def parseSemver (numerals : Numerals) (version : String) : Except String (List Nat) :=
  (version.toList.splitOn '.').mapM (parseSegment numerals)

/-! ## The registry -/

/-- `ConnectorRegistry`, with its manifests in the order of their discovery. -/
structure ConnectorRegistry where
  numerals : Numerals
  connectors : List ConnectorManifest

/-- A manifest with the key of its version. -/
abbrev Keyed := List Nat × ConnectorManifest

/-- The first one of two manifests, unless the version of the second one is newer. -/
def newer (numerals : Numerals) (best : Keyed) (manifest : ConnectorManifest) : Except String Keyed :=
  (parseSemver numerals manifest.version).map fun key =>
    if best.1 < key then (key, manifest) else best

/-- `max(candidates, key=...)`, which is the first one of the newest. -/
def newest (numerals : Numerals) (first : ConnectorManifest) (rest : List ConnectorManifest) :
    Except String Keyed :=
  (parseSemver numerals first.version).bind fun key => rest.foldlM (newer numerals) (key, first)

namespace ConnectorRegistry

variable (registry : ConnectorRegistry)

def getByName (name : String) : List ConnectorManifest :=
  registry.connectors.filter fun manifest => manifest.name = name

/-- The first of some candidates that has this version, if one is asked for. -/
def exact (candidates : List ConnectorManifest) (version : Option String) : Option ConnectorManifest :=
  match version with
  | none => none
  | some "" => none
  | some version => candidates.find? fun manifest => manifest.version = version

def getByNameVersion (name : String) (version : Option String) :
    Except String (Option ConnectorManifest) :=
  match registry.getByName name with
  | [] => .ok none
  | first :: rest =>
      match exact (first :: rest) version with
      | some manifest => .ok (some manifest)
      | none => (newest registry.numerals first rest).map fun best => some best.2

/-- A connector is installed in this version. -/
def Installed (name version : String) : Prop :=
  ∃ manifest ∈ registry.connectors, manifest.name = name ∧ manifest.version = version

end ConnectorRegistry

variable {numerals : Numerals} {registry : ConnectorRegistry} {name : String}
  {version : Option String} {manifest first : ConnectorManifest} {rest : List ConnectorManifest}
  {best : Keyed}

/-! ## The newest manifest -/

/-- Among these manifests, this one is the first with its version, and none is newer. -/
structure Leads (numerals : Numerals) (seen : List ConnectorManifest) (best : Keyed) : Prop where
  found : seen.find? (fun manifest => manifest.version = best.2.version) = some best.2
  parsed : parseSemver numerals best.2.version = .ok best.1
  newest : ∀ manifest ∈ seen, ∃ key,
    parseSemver numerals manifest.version = .ok key ∧ ¬ best.1 < key

theorem Leads.newer {seen : List ConnectorManifest} {best' : Keyed} (h : Leads numerals seen best)
    (hnewer : newer numerals best manifest = .ok best') :
    Leads numerals (seen ++ [manifest]) best' := by
  unfold Connectors.newer at hnewer
  cases hkey : parseSemver numerals manifest.version with
  | error message =>
      rw [hkey] at hnewer
      cases hnewer
  | ok key =>
      rw [hkey] at hnewer
      have hbest : (if best.1 < key then (key, manifest) else best) = best' := Except.ok.inj hnewer
      by_cases hlt : best.1 < key
      · rw [if_pos hlt] at hbest
        subst hbest
        -- No manifest seen so far has this version: its key would be newer than the newest one.
        have hnone : seen.find? (fun other => other.version = manifest.version) = none := by
          refine List.find?_eq_none.mpr fun other hmem hversion => ?_
          obtain ⟨key', hkey', hle⟩ := h.newest other hmem
          rw [of_decide_eq_true hversion, hkey] at hkey'
          obtain rfl := Except.ok.inj hkey'
          exact hle hlt
        refine ⟨?_, hkey, fun other hmem => ?_⟩
        · rw [List.find?_append, hnone]
          simp
        · obtain hseen | rfl := List.mem_append.mp hmem |>.imp_right List.mem_singleton.mp
          · obtain ⟨key', hkey', hle⟩ := h.newest other hseen
            exact ⟨key', hkey', fun hlt' => hle (hlt.trans hlt')⟩
          · exact ⟨key, hkey, lt_irrefl key⟩
      · rw [if_neg hlt] at hbest
        subst hbest
        refine ⟨?_, h.parsed, fun other hmem => ?_⟩
        · rw [List.find?_append, h.found]
          rfl
        · obtain hseen | rfl := List.mem_append.mp hmem |>.imp_right List.mem_singleton.mp
          · exact h.newest other hseen
          · exact ⟨key, hkey, hlt⟩

theorem Leads.foldlM {seen : List ConnectorManifest} {best' : Keyed} (h : Leads numerals seen best)
    (hfold : rest.foldlM (Connectors.newer numerals) best = .ok best') :
    Leads numerals (seen ++ rest) best' := by
  induction rest generalizing seen best with
  | nil =>
      obtain rfl := Except.ok.inj hfold
      rwa [List.append_nil]
  | cons manifest rest ih =>
      rw [List.foldlM_cons] at hfold
      cases hnewer : Connectors.newer numerals best manifest with
      | error message =>
          rw [hnewer] at hfold
          cases hfold
      | ok next =>
          rw [hnewer] at hfold
          have hrest := ih (h.newer hnewer) hfold
          rwa [List.append_assoc] at hrest

theorem newest_leads (h : newest numerals first rest = .ok best) :
    Leads numerals (first :: rest) best := by
  unfold newest at h
  cases hkey : parseSemver numerals first.version with
  | error message =>
      rw [hkey] at h
      cases h
  | ok key =>
      rw [hkey] at h
      have hfirst : Leads numerals [first] (key, first) := by
        refine ⟨by simp, hkey, fun other hmem => ?_⟩
        obtain rfl := List.mem_singleton.mp hmem
        exact ⟨key, hkey, lt_irrefl key⟩
      exact hfirst.foldlM h

/-! ## What a name and a version are resolved to -/

variable {candidates : List ConnectorManifest}

theorem exact_eq_find? {version : String} (hne : version ≠ "") :
    ConnectorRegistry.exact candidates (some version) =
      candidates.find? fun manifest => manifest.version = version := by
  unfold ConnectorRegistry.exact
  split
  · next h => cases h
  · next h => exact absurd (Option.some.inj h) hne
  · next h =>
    obtain rfl := Option.some.inj h
    rfl

theorem version_of_exact (h : ConnectorRegistry.exact candidates version = some manifest) :
    version = some manifest.version ∧ manifest.version ≠ "" ∧
      candidates.find? (fun other => other.version = manifest.version) = some manifest := by
  cases version with
  | none => cases h
  | some text =>
      have hne : text ≠ "" := by
        rintro rfl
        cases h
      rw [exact_eq_find? hne] at h
      have hfound := List.find?_some h
      obtain rfl : manifest.version = text := of_decide_eq_true hfound
      exact ⟨rfl, hne, h⟩

theorem resolved_cases (h : registry.getByNameVersion name version = .ok (some manifest)) :
    ∃ first rest, registry.getByName name = first :: rest ∧
      (ConnectorRegistry.exact (first :: rest) version = some manifest ∨
        ConnectorRegistry.exact (first :: rest) version = none ∧
          ∃ key, newest registry.numerals first rest = .ok (key, manifest)) := by
  unfold ConnectorRegistry.getByNameVersion at h
  split at h
  · cases h
  · next first rest hcandidates =>
    refine ⟨first, rest, hcandidates, ?_⟩
    split at h
    · next other hexact =>
      obtain rfl := Option.some.inj (Except.ok.inj h)
      exact .inl hexact
    · next hexact =>
      cases hnewest : newest registry.numerals first rest with
      | error message =>
          rw [hnewest] at h
          cases h
      | ok best =>
          rw [hnewest] at h
          obtain rfl : best.2 = manifest := Option.some.inj (Except.ok.inj h)
          exact .inr ⟨hexact, best.1, rfl⟩

theorem find?_of_resolved (h : registry.getByNameVersion name version = .ok (some manifest)) :
    (registry.getByName name).find? (fun other => other.version = manifest.version) =
      some manifest := by
  obtain ⟨first, rest, hcandidates, hexact | ⟨-, key, hnewest⟩⟩ := resolved_cases h
  · rw [hcandidates]
    exact (version_of_exact hexact).2.2
  · rw [hcandidates]
    exact (newest_leads hnewest).found

theorem mem_of_resolved (h : registry.getByNameVersion name version = .ok (some manifest)) :
    manifest ∈ registry.connectors ∧ manifest.name = name := by
  have hmem := List.mem_of_find?_eq_some (find?_of_resolved h)
  obtain ⟨hmem, hname⟩ := List.mem_filter.mp hmem
  exact ⟨hmem, of_decide_eq_true hname⟩

theorem resolved_unique {version' : Option String} {manifest' : ConnectorManifest}
    (h : registry.getByNameVersion name version = .ok (some manifest))
    (h' : registry.getByNameVersion name version' = .ok (some manifest'))
    (hversion : manifest.version = manifest'.version) : manifest = manifest' := by
  have hfind := find?_of_resolved h
  rw [hversion, find?_of_resolved h'] at hfind
  exact (Option.some.inj hfind).symm

theorem resolved_of_installed {version : String} (hne : version ≠ "")
    (hinstalled : registry.Installed name version) :
    ∃ manifest, registry.getByNameVersion name (some version) = .ok (some manifest) ∧
      manifest.version = version := by
  obtain ⟨manifest, hmem, hname, hversion⟩ := hinstalled
  have hcandidate : manifest ∈ registry.getByName name :=
    List.mem_filter.mpr ⟨hmem, decide_eq_true hname⟩
  have hsome : ((registry.getByName name).find? fun other => other.version = version).isSome = true :=
    List.find?_isSome.mpr ⟨manifest, hcandidate, decide_eq_true hversion⟩
  obtain ⟨found, hfound⟩ := Option.isSome_iff_exists.mp hsome
  have hversion' := List.find?_some hfound
  refine ⟨found, ?_, of_decide_eq_true hversion'⟩
  unfold ConnectorRegistry.getByNameVersion
  split
  · next hnone =>
    rw [hnone] at hcandidate
    cases hcandidate
  · next first rest hcandidates =>
    rw [exact_eq_find? hne, ← hcandidates, hfound]

theorem resolved_again (h : registry.getByNameVersion name version = .ok (some manifest)) :
    registry.getByNameVersion name (some manifest.version) = .ok (some manifest) := by
  by_cases hempty : manifest.version = ""
  · -- No version was asked for, and none is now.
    obtain ⟨first, rest, hcandidates, hexact | ⟨-, key, hnewest⟩⟩ := resolved_cases h
    · exact absurd hempty (version_of_exact hexact).2.1
    · unfold ConnectorRegistry.getByNameVersion
      rw [hcandidates, hempty]
      show (newest registry.numerals first rest).map (fun best => some best.2) = _
      rw [hnewest]
      rfl
  · obtain ⟨hmem, hname⟩ := mem_of_resolved h
    obtain ⟨manifest', hagain, hversion⟩ :=
      resolved_of_installed hempty ⟨manifest, hmem, hname, rfl⟩
    obtain rfl := resolved_unique h hagain hversion.symm
    exact hagain

end Connectors

end IntegrationPlatform
