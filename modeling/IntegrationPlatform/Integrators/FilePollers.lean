import Mathlib.Data.List.Induction
import Mathlib.Data.List.Sort
import Mathlib.Data.String.Basic
import IntegrationPlatform.Kafka.Publishing

/-!
# The file pollers

The pollers of S3 and of FTP and SFTP list a place, publish what is not in the known files, and then
store what they have listed as the known files. The S3 client lists one page of keys.
`announced_iff` says in which histories of a bucket every object is announced once.
-/

namespace IntegrationPlatform

namespace FilePollers

open Publishing

/-! ## A poll -/

/-- What succeeds in a poll: the listing, the read of the known files, the publications, and the write
of the known files. -/
structure Weather where
  listed : Bool
  read : Bool
  sends : String → Outcome
  stored : Bool

/-- The row of `known_files`, and the files whose events Kafka has accepted. -/
structure State where
  known : List String
  published : List String

/-- The listed files that are not known. -/
def newFiles (state : State) (files : List String) : List String :=
  files.filter fun file => file ∉ state.known

/-- What a poll publishes. -/
def emitted (state : State) (files : List String) (weather : Weather) : List String :=
  if weather.listed && weather.read then (publishAll weather.sends (newFiles state files)).1 else []

/-- A poll that gets to its end. -/
def completes (state : State) (files : List String) (weather : Weather) : Bool :=
  weather.listed && weather.read && (publishAll weather.sends (newFiles state files)).2 &&
    weather.stored

/-- `_poll_account`, with the files that are listed. -/
def pollAccount (state : State) (files : List String) (weather : Weather) : State where
  known := if completes state files weather then files else state.known
  published := emitted state files weather ++ state.published

/-- The state before the first poll. -/
def State.start : State := ⟨[], []⟩

/-! ## The two places -/

/-- `max_keys` of `list_objects`. -/
def maxKeys : Nat := 1000

/-- The objects of a bucket under a prefix. -/
def underPrefix (pollPrefix : String) (bucket : List String) : List String :=
  bucket.filter fun key => pollPrefix.toList.isPrefixOf key.toList

/-- `S3Client.list_objects`: the first keys under the prefix, in the order of the keys. -/
def listObjects (pollPrefix : String) (bucket : List String) : List String :=
  ((underPrefix pollPrefix bucket).mergeSort fun first second => decide (first ≤ second)).take
    maxKeys

/-- An entry of a directory. -/
structure FileInfo where
  path : String
  isDirectory : Bool

/-- The files of a directory, which `list_files` lists completely. -/
def listFiles (directory : List FileInfo) : List String :=
  (directory.filter fun entry => !entry.isDirectory).map FileInfo.path

/-! ## Runs -/

variable {π : Type}

/-- One poll of a place. -/
def step (listing : π → List String) (state : State) (poll : π × Weather) : State :=
  pollAccount state (listing poll.1) poll.2

/-- The state after some polls. -/
def after (listing : π → List String) (polls : List (π × Weather)) : State :=
  polls.foldl (step listing) .start

/-- Every file that a place has from a completed poll on is published by the end of this poll, and not
again. -/
def Announced (files listing : π → List String) (polls : List (π × Weather)) : Prop :=
  ∀ before poll later file, polls = before ++ poll :: later →
    completes (after listing before) (listing poll.1) poll.2 = true →
    (∀ next ∈ poll :: later, file ∈ files next.1) →
    file ∈ (after listing (before ++ [poll])).published ∧
      ∀ between next rest, later = between ++ next :: rest →
        file ∉ emitted (after listing (before ++ poll :: between)) (listing next.1) next.2

/-- Every file that a place has from some time on is listed from then on. -/
def Listed (files listing : π → List String) (places : List π) : Prop :=
  ∀ before place later file, places = before ++ place :: later →
    (∀ next ∈ place :: later, file ∈ files next) → file ∈ listing place

/-! ## What is known and what is published -/

section Polls

variable {state : State} {files : List String} {weather : Weather} {file : String}
  {listing : π → List String}

theorem mem_of_emitted (h : file ∈ emitted state files weather) :
    file ∈ files ∧ file ∉ state.known := by
  unfold emitted at h
  split at h
  · obtain ⟨hmem, hnew⟩ := List.mem_filter.mp (publishAll_subset _ _ h)
    exact ⟨hmem, of_decide_eq_true hnew⟩
  · cases h

theorem mem_emitted_of_completes (h : completes state files weather = true) (hfile : file ∈ files)
    (hnew : file ∉ state.known) : file ∈ emitted state files weather := by
  unfold completes at h
  simp only [Bool.and_eq_true] at h
  obtain ⟨⟨⟨hlisted, hread⟩, hends⟩, -⟩ := h
  unfold emitted
  rw [hlisted, hread, Bool.and_self, if_pos rfl, publishAll_of_ends hends]
  exact List.mem_filter.mpr ⟨hfile, decide_eq_true hnew⟩

theorem known_subset_published (polls : List (π × Weather)) :
    (after listing polls).known ⊆ (after listing polls).published := by
  induction polls using List.reverseRecOn with
  | nil => exact List.Subset.refl _
  | append_singleton before poll ih =>
      unfold after at ih ⊢
      rw [List.foldl_append, List.foldl_cons, List.foldl_nil]
      intro file hfile
      unfold step pollAccount at hfile ⊢
      simp only at hfile ⊢
      rw [List.mem_append]
      split at hfile
      · next hcompletes =>
        by_cases hknown : file ∈ (before.foldl (step listing) .start).known
        · exact .inr (ih hknown)
        · exact .inl (mem_emitted_of_completes hcompletes hfile hknown)
      · exact .inr (ih hfile)

theorem after_concat (before : List (π × Weather)) (poll : π × Weather) :
    after listing (before ++ [poll]) = step listing (after listing before) poll := by
  unfold after
  rw [List.foldl_append, List.foldl_cons, List.foldl_nil]

theorem published_of_completes (before : List (π × Weather)) {poll : π × Weather}
    (hcompletes : completes (after listing before) (listing poll.1) poll.2 = true)
    (hfile : file ∈ listing poll.1) :
    file ∈ (after listing (before ++ [poll])).published := by
  refine known_subset_published (before ++ [poll]) ?_
  rw [after_concat]
  unfold step pollAccount
  simp only
  rwa [if_pos hcompletes]

theorem known_foldl {between : List (π × Weather)} (hknown : file ∈ state.known)
    (hlisted : ∀ next ∈ between, file ∈ listing next.1) :
    file ∈ (between.foldl (step listing) state).known := by
  induction between generalizing state with
  | nil => exact hknown
  | cons next rest ih =>
      refine ih ?_ fun other hother => hlisted other (List.mem_cons_of_mem _ hother)
      unfold step pollAccount
      simp only
      split
      · exact hlisted next List.mem_cons_self
      · exact hknown

theorem not_emitted_again (before : List (π × Weather)) {poll : π × Weather}
    {between : List (π × Weather)} {next : π × Weather}
    (hcompletes : completes (after listing before) (listing poll.1) poll.2 = true)
    (hlisted : ∀ other ∈ poll :: between, file ∈ listing other.1) :
    file ∉ emitted (after listing (before ++ poll :: between)) (listing next.1) next.2 := by
  have hknown : file ∈ (after listing (before ++ [poll])).known := by
    rw [after_concat]
    unfold step pollAccount
    simp only
    rw [if_pos hcompletes]
    exact hlisted poll List.mem_cons_self
  have hstill : file ∈ (after listing (before ++ poll :: between)).known := by
    have hbetween : file ∈ (between.foldl (step listing) (after listing (before ++ [poll]))).known :=
      known_foldl hknown fun other hother => hlisted other (List.mem_cons_of_mem _ hother)
    unfold after at hbetween ⊢
    rwa [← List.foldl_append, List.append_assoc] at hbetween
  exact fun hemitted => (mem_of_emitted hemitted).2 hstill

end Polls

/-! ## Histories -/

/-- A poll in which everything succeeds. -/
def clear : Weather := ⟨true, true, fun _ => .returned, true⟩

/-- A poll whose listing fails. -/
def stormy : Weather := ⟨false, true, fun _ => .returned, true⟩

section Histories

variable {files listing : π → List String}

theorem step_stormy (state : State) (place : π) : step listing state (place, stormy) = state := rfl

theorem after_stormy (places : List π) :
    after listing (places.map fun place => (place, stormy)) = .start := by
  unfold after
  induction places with
  | nil => rfl
  | cons place rest ih =>
      rw [List.map_cons, List.foldl_cons, step_stormy]
      exact ih

theorem completes_clear (state : State) (files : List String) :
    completes state files clear = true := by
  have hends : ∀ new : List String, (publishAll clear.sends new).2 = true := fun new =>
    publishAll_ends_iff.mpr fun _ _ => rfl
  unfold completes
  rw [hends]
  rfl

theorem listed_of_announced {place : π} (h : Announced files listing [(place, clear)]) {file : String}
    (hfile : file ∈ files place) : file ∈ listing place := by
  have hpublished := (h [] (place, clear) [] file rfl (completes_clear _ _) ?_).1
  · rw [after_concat] at hpublished
    rcases List.mem_append.mp hpublished with hemitted | hbefore
    · exact (mem_of_emitted hemitted).1
    · cases hbefore
  · intro next hnext
    obtain rfl := List.mem_singleton.mp hnext
    exact hfile

theorem announced_of_listed {polls : List (π × Weather)}
    (h : Listed files listing (polls.map Prod.fst)) : Announced files listing polls := by
  rintro before poll later file rfl hcompletes hfile
  -- From this poll on the file is listed in every poll.
  have hlisted : ∀ next ∈ poll :: later, file ∈ listing next.1 := by
    intro next hnext
    obtain ⟨front, rest, hsplit⟩ := List.append_of_mem hnext
    refine h ((before ++ front).map Prod.fst) next.1 (rest.map Prod.fst) file ?_ ?_
    · rw [hsplit, ← List.append_assoc, List.map_append, List.map_cons]
    · intro other hother
      rw [← List.map_cons] at hother
      obtain ⟨found, hfound, rfl⟩ := List.mem_map.mp hother
      exact hfile found (hsplit ▸ List.mem_append_right _ hfound)
  refine ⟨published_of_completes before hcompletes (hlisted poll List.mem_cons_self), ?_⟩
  rintro between next rest rfl
  refine not_emitted_again before hcompletes fun other hother => hlisted other ?_
  rcases List.mem_cons.mp hother with rfl | hbetween
  · exact List.mem_cons_self
  · exact List.mem_cons_of_mem _ (List.mem_append_left _ hbetween)

theorem announced_iff_listed (places : List π) :
    (∀ polls : List (π × Weather), polls.map Prod.fst = places → Announced files listing polls) ↔
      Listed files listing places := by
  constructor
  · rintro h before place later file rfl hfile
    -- Only the listing of this poll succeeds.
    have hannounced := h (before.map (fun next => (next, stormy)) ++
      (place, clear) :: later.map fun next => (next, stormy)) (by simp [Function.comp_def])
    have hpublished := (hannounced _ (place, clear) _ file rfl ?_ ?_).1
    · rw [after_concat, after_stormy] at hpublished
      rcases List.mem_append.mp hpublished with hemitted | hbefore
      · exact (mem_of_emitted hemitted).1
      · cases hbefore
    · exact completes_clear _ _
    · intro next hnext
      rcases List.mem_cons.mp hnext with rfl | hlater
      · exact hfile place List.mem_cons_self
      · obtain ⟨other, hother, rfl⟩ := List.mem_map.mp hlater
        exact hfile other (List.mem_cons_of_mem _ hother)
  · rintro h polls rfl
    exact announced_of_listed h

end Histories

/-- In a history of a bucket every object is announced, whatever fails, if and only if from each poll on
every object that stays is among the first keys under the prefix. In every history of a directory
every file is announced, whatever fails. -/
theorem announced_iff (pollPrefix : String) (buckets : List (List String))
    (directories : List (List FileInfo × Weather)) :
    ((∀ polls : List (List String × Weather), polls.map Prod.fst = buckets →
        Announced (underPrefix pollPrefix) (listObjects pollPrefix) polls) ↔
      ∀ before bucket later key, buckets = before ++ bucket :: later →
        (∀ next ∈ bucket :: later, key ∈ underPrefix pollPrefix next) →
        key ∈ listObjects pollPrefix bucket) ∧
      Announced listFiles listFiles directories := by
  constructor
  · exact announced_iff_listed buckets
  · refine announced_of_listed ?_
    intro before directory later file _ hfile
    exact hfile directory List.mem_cons_self

/-- One more object than the page has. -/
def crowded : List String :=
  (List.range (maxKeys + 1)).map fun length => String.ofList (List.replicate (length + 1) 'a')

theorem nodup_crowded : crowded.Nodup := by
  refine List.Nodup.map_on ?_ List.nodup_range
  intro first _ second _ heq
  have hlist := congrArg (fun text : String => text.toList.length) heq
  simpa using hlist

/-- A completed poll of a bucket with more objects than the page has does not announce them all. -/
theorem crowded_not_announced :
    ¬ Announced (underPrefix "") (listObjects "") [(crowded, clear)] := by
  intro hannounced
  have hlisted : crowded ⊆ listObjects "" crowded := fun key hkey =>
    listed_of_announced hannounced (List.mem_filter.mpr ⟨hkey, rfl⟩)
  have hle := (List.subperm_of_subset nodup_crowded hlisted).length_le
  have hcrowded : crowded.length = maxKeys + 1 := by
    unfold crowded
    rw [List.length_map, List.length_range]
  have hpage : (listObjects "" crowded).length ≤ maxKeys := by
    unfold listObjects
    exact List.length_take_le _ _
  omega

end FilePollers

end IntegrationPlatform
