import IntegrationPlatform.Json.Value
import IntegrationPlatform.Texts.PosixPaths

/-!
# Paths of the FTP connector

Every operation of `FtpSftpClient` goes through `_resolve_path`, which combines a remote path with the base
path of the account, normalizes the combination, and tests it against the base path as it is configured.
`contained_iff` says when this keeps inside the base path what belongs there, and nothing else.
-/

namespace IntegrationPlatform

namespace FtpPaths

open PosixPath

/-! ## The client -/

/-- The path of a text. -/
def pathOf (text : String) : PurePath :=
  .parse text.toList

/-- The text of a path. -/
def textOf (path : PurePath) : String :=
  String.ofList path.str

/-- The lexical combination of a remote path with the base path, in normal form. -/
def combined (basePath remotePath : String) : PurePath :=
  ((pathOf basePath).join (pathOf remotePath)).normal

/-- `_resolve_path`, or the text of the `ValueError`. -/
def resolvePath (basePath remotePath : String) : Except String String :=
  let base := pathOf basePath
  let combined := base.join (pathOf remotePath)
  let resolved := PurePath.parse (normpath combined.str)
  if resolved.isRelativeTo base then .ok (textOf resolved)
  else .error ("Path escapes base directory: " ++ remotePath)

/-- The operations of the client. -/
inductive Operation where
  | list (remotePath : String)
  | upload (remotePath : String)
  | download (remotePath : String)
  | delete (remotePath : String)
  | move (source destination : String)
  | mkdir (remotePath : String)

/-- What the client asks of the server. -/
inductive Request where
  | list (path : String)
  | makeDirectory (path : String)
  | store (path : String)
  | retrieve (path : String)
  | remove (path : String)
  | rename (source destination : String)

/-- `str(PurePosixPath(path).parent)`. -/
def parentOf (path : String) : String :=
  textOf (pathOf path).parent

/-- What an operation asks of the server, by both protocols. -/
def requests (basePath : String) : Operation → Except String (List Request)
  | .list remotePath => (resolvePath basePath remotePath).map fun resolved => [.list resolved]
  | .upload remotePath => (resolvePath basePath remotePath).map fun resolved =>
      [.makeDirectory (parentOf resolved), .store resolved]
  | .download remotePath => (resolvePath basePath remotePath).map fun resolved => [.retrieve resolved]
  | .delete remotePath => (resolvePath basePath remotePath).map fun resolved => [.remove resolved]
  | .move source destination => (resolvePath basePath source).bind fun src =>
      (resolvePath basePath destination).map fun dst => [.rename src dst]
  | .mkdir remotePath => (resolvePath basePath remotePath).map fun resolved => [.makeDirectory resolved]

/-! ## Containment -/

/-- A path, in normal form, is the base path in normal form, or below it. -/
def Within (basePath path : String) : Prop :=
  (pathOf path).normal.Below (pathOf basePath).normal

/-- What is resolved is within the base path, and what belongs there is resolved. -/
def Contained (basePath remotePath : String) : Prop :=
  (∀ resolved, resolvePath basePath remotePath = .ok resolved → Within basePath resolved) ∧
    ((combined basePath remotePath).Below (pathOf basePath).normal →
      ∃ resolved, resolvePath basePath remotePath = .ok resolved)

section Results

variable {basePath remotePath resolved : String}

theorem pathOf_textOf (path : PurePath) : pathOf (textOf path) = path := by
  rw [pathOf, textOf, String.toList_ofList, PurePath.parse_str]

theorem resolvePath_eq (basePath remotePath : String) :
    resolvePath basePath remotePath =
      if (combined basePath remotePath).isRelativeTo (pathOf basePath) then
        .ok (textOf (combined basePath remotePath))
      else .error ("Path escapes base directory: " ++ remotePath) := by
  unfold resolvePath combined
  simp only [PurePath.normpath_eq, PurePath.parse_str]

theorem resolvePath_eq_ok : resolvePath basePath remotePath = .ok resolved ↔
    (combined basePath remotePath).isRelativeTo (pathOf basePath) = true ∧
      textOf (combined basePath remotePath) = resolved := by
  rw [resolvePath_eq]
  split
  · next hrelative => simp [hrelative]
  · next hrelative => simp [hrelative]

theorem normal_combined (basePath remotePath : String) : (combined basePath remotePath).Normal :=
  PurePath.normal_normal _

theorem within_textOf (basePath remotePath : String) :
    Within basePath (textOf (combined basePath remotePath)) ↔
      (combined basePath remotePath).Below (pathOf basePath).normal := by
  rw [Within, pathOf_textOf, (normal_combined basePath remotePath).eq]

theorem contained_iff_below : Contained basePath remotePath ↔
    ((combined basePath remotePath).isRelativeTo (pathOf basePath) = true ↔
      (combined basePath remotePath).Below (pathOf basePath).normal) := by
  constructor
  · rintro ⟨hsafe, hcomplete⟩
    constructor
    · intro hrelative
      exact (within_textOf basePath remotePath).mp (hsafe _ (resolvePath_eq_ok.mpr ⟨hrelative, rfl⟩))
    · intro hbelow
      obtain ⟨resolved, hresolved⟩ := hcomplete hbelow
      exact (resolvePath_eq_ok.mp hresolved).1
  · intro h
    constructor
    · intro resolved hresolved
      obtain ⟨hrelative, rfl⟩ := resolvePath_eq_ok.mp hresolved
      exact (within_textOf basePath remotePath).mpr (h.mp hrelative)
    · exact fun hbelow => ⟨_, resolvePath_eq_ok.mpr ⟨h.mpr hbelow, rfl⟩⟩

/-- **Paths are kept inside the base path, and accepted there, exactly if the base path is in normal form and
the combination does not lead above it, or the base path is not in normal form and the combination is not
below it.** -/
theorem contained_iff (basePath remotePath : String) : Contained basePath remotePath ↔
    (pathOf basePath).Normal ∧ ¬(combined basePath remotePath).Climbs (pathOf basePath) ∨
      ¬(pathOf basePath).Normal ∧
        ¬(combined basePath remotePath).Below (pathOf basePath).normal := by
  have hcombined := normal_combined basePath remotePath
  rw [contained_iff_below]
  by_cases hbase : (pathOf basePath).Normal
  · simp only [hbase, hbase.eq, not_true_eq_false, true_and, false_and, or_false]
    constructor
    · rintro h hclimbs
      have hrelative : (combined basePath remotePath).isRelativeTo (pathOf basePath) = true :=
        PurePath.isRelativeTo_iff.mpr ⟨hclimbs.1, (List.prefix_append _ _).trans hclimbs.2⟩
      exact (hcombined.below_iff hrelative).mp (h.mp hrelative) hclimbs
    · exact fun h => ⟨fun hrelative => (hcombined.below_iff hrelative).mpr h,
        PurePath.Below.isRelativeTo⟩
  · have hrelative : (combined basePath remotePath).isRelativeTo (pathOf basePath) = false :=
      Bool.eq_false_iff.mpr fun h => hbase (hcombined.of_isRelativeTo h)
    simp only [hbase, hrelative, Bool.false_eq_true, not_false_eq_true, true_and, false_and, false_or,
      false_iff]

/-- A relative base path leads out, and one that is not in normal form accepts nothing. -/
theorem not_contained :
    (resolvePath "." "../etc/passwd" = .ok "../etc/passwd" ∧ ¬Contained "." "../etc/passwd") ∧
      (resolvePath "/srv/../data" "in.csv" = .error "Path escapes base directory: in.csv" ∧
        ¬Contained "/srv/../data" "in.csv") := by
  have hout : combined "." "../etc/passwd" =
      ⟨.relative, [dotdot, "etc".toList, "passwd".toList], by decide⟩ := rfl
  have hin : (combined "/srv/../data" "in.csv").Below (pathOf "/srv/../data").normal :=
    ⟨rfl, ["in.csv".toList], rfl, by decide⟩
  refine ⟨⟨rfl, fun h => ?_⟩, rfl, fun h => ?_⟩
  · obtain ⟨-, names, hnames, hdotdot⟩ := (contained_iff_below.mp h).mp rfl
    have hparts : [dotdot, "etc".toList, "passwd".toList] = names := by rw [hout] at hnames; exact hnames
    exact hdotdot (hparts ▸ List.mem_cons_self)
  · have hrelative := (contained_iff_below.mp h).mpr hin
    cases hrelative

/-! ## Operations -/

/-- A base path in normal form that has a root or names something. -/
def Firm (basePath : String) : Prop :=
  (pathOf basePath).Normal ∧
    ((pathOf basePath).root.rooted = true ∨ ∃ part ∈ (pathOf basePath).parts, part ≠ dotdot)

/-- A request stays within the base path, but for the parent of the base path that an upload to the base path
itself makes. -/
def Request.Within (basePath : String) : Request → Prop
  | .list path | .store path | .retrieve path | .remove path => FtpPaths.Within basePath path
  | .makeDirectory path => FtpPaths.Within basePath path ∨ path = parentOf (textOf (pathOf basePath))
  | .rename source destination => FtpPaths.Within basePath source ∧ FtpPaths.Within basePath destination

theorem within_of_resolvePath (hfirm : Firm basePath)
    (h : resolvePath basePath remotePath = .ok resolved) : Within basePath resolved := by
  obtain ⟨hrelative, rfl⟩ := resolvePath_eq_ok.mp h
  have hcombined := normal_combined basePath remotePath
  rw [within_textOf, hfirm.1.eq]
  exact (hcombined.below_iff hrelative).mpr (hcombined.not_climbs hfirm.2)

theorem within_parentOf (hfirm : Firm basePath) (h : resolvePath basePath remotePath = .ok resolved) :
    Within basePath (parentOf resolved) ∨ parentOf resolved = parentOf (textOf (pathOf basePath)) := by
  have hwithin := within_of_resolvePath hfirm h
  obtain ⟨-, rfl⟩ := resolvePath_eq_ok.mp h
  have hcombined := normal_combined basePath remotePath
  rw [within_textOf, hfirm.1.eq] at hwithin
  rcases hwithin.parent with hbase | hparent
  · exact .inr (by rw [hbase])
  · left
    rwa [Within, parentOf, pathOf_textOf, pathOf_textOf, hcombined.parent.eq, hfirm.1.eq]

theorem within_of_map {ask : String → List Request} {asked : List Request}
    (hask : ∀ resolved, resolvePath basePath remotePath = .ok resolved →
      ∀ request ∈ ask resolved, request.Within basePath)
    (h : (resolvePath basePath remotePath).map ask = .ok asked) :
    ∀ request ∈ asked, request.Within basePath := by
  cases hresolve : resolvePath basePath remotePath with
  | error message =>
      rw [hresolve] at h
      cases h
  | ok resolved =>
      rw [hresolve] at h
      obtain rfl := Except.ok.inj h
      exact hask resolved hresolve

/-- **Behind a firm base path, every operation stays within it.** -/
theorem requests_within (hfirm : Firm basePath) {operation : Operation} {asked : List Request}
    (h : requests basePath operation = .ok asked) : ∀ request ∈ asked, request.Within basePath := by
  cases operation with
  | list remotePath | download remotePath | delete remotePath =>
      refine within_of_map (fun resolved hresolved request hrequest => ?_) h
      obtain rfl := List.mem_singleton.mp hrequest
      exact within_of_resolvePath hfirm hresolved
  | upload remotePath =>
      refine within_of_map (fun resolved hresolved request hrequest => ?_) h
      rcases List.mem_cons.mp hrequest with rfl | hstore
      · exact within_parentOf hfirm hresolved
      · obtain rfl := List.mem_singleton.mp hstore
        exact within_of_resolvePath hfirm hresolved
  | move source destination =>
      obtain ⟨src, hsrc, hmove⟩ := bind_eq_ok.mp h
      refine within_of_map (fun dst hdst request hrequest => ?_) hmove
      obtain rfl := List.mem_singleton.mp hrequest
      exact ⟨within_of_resolvePath hfirm hsrc, within_of_resolvePath hfirm hdst⟩
  | mkdir remotePath =>
      refine within_of_map (fun resolved hresolved request hrequest => ?_) h
      obtain rfl := List.mem_singleton.mp hrequest
      exact .inl (within_of_resolvePath hfirm hresolved)

end Results

/-- An upload below `/data`. -/
theorem requests_within_upload :
    requests "/data" (.upload "in/orders.csv") =
        .ok [.makeDirectory "/data/in", .store "/data/in/orders.csv"] ∧
      ∀ request ∈ [Request.makeDirectory "/data/in", .store "/data/in/orders.csv"], request.Within "/data" := by
  have hfirm : Firm "/data" := ⟨PurePath.normal_normal (pathOf "/data"), .inl rfl⟩
  have hasked : requests "/data" (.upload "in/orders.csv") =
      .ok [.makeDirectory "/data/in", .store "/data/in/orders.csv"] := rfl
  exact ⟨hasked, requests_within hfirm hasked⟩

end FtpPaths

end IntegrationPlatform
