import IntegrationPlatform.Json.Text
import IntegrationPlatform.Stores.Snapshots
import IntegrationPlatform.Transactions.Unending

/-!
# The event poller of the WMS

Each poll lists the entities of one kind and emits an event for each one that differs from the snapshot
of the last list, which is kept by a key that is built from optional fields. `emits_changes_iff` says when
these are the entities that have changed, `at_least_once_iff` when an event that could not be delivered
is emitted again.
-/

namespace IntegrationPlatform

namespace Wms

/-! ## Keys and contents -/

/-- What Python makes of values and texts: `str` of a value, the text of a float, and the digest
`md5(text.encode()).hexdigest()`. -/
structure Texts where
  str : Value → String
  repr : Rat → String
  md5 : String → String

/-- The kinds of entities that are polled. -/
inductive Kind where
  | document
  | article
  | contractor
  | position
  | feedback
  deriving DecidableEq

/-- The `entity_type` of a kind. -/
def Kind.name : Kind → String
  | .document => "document"
  | .article => "article"
  | .contractor => "contractor"
  | .position => "position"
  | .feedback => "feedback"

/-- The event of a kind. -/
def Kind.event : Kind → String
  | .document => "document.synced"
  | .article => "article.synced"
  | .contractor => "contractor.synced"
  | .position => "position.synced"
  | .feedback => "feedback.received"

variable (texts : Texts)

def entityKey (entity : Value) : Kind → Except String String
  | .document | .article | .contractor => do
      let source ← entity.get "source" (.str "ERP")
      let wmsId ← entity.get "wmsId" (.str "")
      let erpId ← entity.get "erpId" wmsId
      .ok (texts.str source ++ ":" ++ texts.str erpId)
  | .position => do
      let docId ← entity.get "documentId" (.str "")
      let docSrc ← entity.get "documentSource" (.str "")
      .ok (texts.str docSrc ++ ":" ++ texts.str docId)
  | .feedback => do
      let id ← entity.get "id" (.str "")
      .ok (texts.str id)

def contentHash (entity : Value) : String :=
  texts.md5 (entity.dumps texts.repr)

/-- What a poll keeps under the key of an entity. -/
def content : Kind → Value → String
  | .feedback, _ => "1"
  | _, entity => contentHash texts entity

/-- What a poll compares with what it has kept. -/
def isChanged : Kind → Option String → String → Bool
  | .feedback, previous, _ => previous.isNone
  | _, previous, content => previous.isNone || previous ≠ some content

/-! ## Polls -/

/-- An event that is emitted: its name, the entity it is about, and the data. -/
structure Emission where
  event : String
  entity : Value
  data : Value

/-- The fields that a poll adds to an entity before it emits it. -/
def marked (account : String) (kind : Kind) (previous : Option String) : Value → Value
  | .dict fields =>
      let named := Assoc.put fields "account_name" (.str account)
      match kind with
      | .feedback => .dict named
      | _ => .dict (named.put "_change_type" (.str (if previous.isNone then "new" else "updated")))
  | entity => entity

/-- The loop over a list: what it emits, and the new snapshot if no item makes it raise. -/
def scan (account : String) (kind : Kind) (event : String) (current : Assoc String)
    (isFirstRun : Bool) : Assoc String → List Value → List Emission × Except String (Assoc String)
  | new, [] => ([], .ok new)
  | new, item :: rest =>
      match entityKey texts item kind with
      | .error message => ([], .error message)
      | .ok key =>
          let next := scan account kind event current isFirstRun
            (new.put key (content texts kind item)) rest
          if !isFirstRun && isChanged kind (current.find key) (content texts kind item) then
            (⟨event, item, marked account kind (current.find key) item⟩ :: next.1, next.2)
          else next

/-- What a request to the WMS comes to. -/
inductive Fetch where
  | raised
  | answered (data : Value) (status : Nat)

/-- The list that a poll goes through. -/
def Fetch.items : Fetch → Option (List Value)
  | .answered (.list data) status => if status < 400 then some data else none
  | _ => none

/-- `_state` and `_initialized`. -/
structure Poller where
  state : Assoc (Assoc String)
  initialized : List String

/-- The poller before its first poll. -/
def Poller.start : Poller := ⟨[], []⟩

/-- The key of the snapshot of a kind. -/
def stateKey (account : String) (kind : Kind) : String := account ++ ":" ++ kind.name

namespace Poller

/-- The snapshot of a kind. -/
def current (poller : Poller) (account : String) (kind : Kind) : Assoc String :=
  (poller.state.find (stateKey account kind)).getD []

/-- A kind has had its baseline poll. -/
def Knows (poller : Poller) (account : String) (kind : Kind) : Prop :=
  stateKey account kind ∈ poller.initialized

instance (poller : Poller) (account : String) (kind : Kind) : Decidable (poller.Knows account kind) :=
  inferInstanceAs (Decidable (_ ∈ _))

/-- What the polls of all kinds have in common. -/
def pollList (poller : Poller) (account : String) (kind : Kind) (event : String) (fetch : Fetch) :
    Poller × List Emission :=
  match fetch.items with
  | none => (poller, [])
  | some data =>
      match scan texts account kind event (poller.current account kind)
        (decide (¬ poller.Knows account kind)) [] data with
      | (emitted, .error _) => (poller, emitted)
      | (emitted, .ok new) => ({
          state := poller.state.put (stateKey account kind) new
          initialized := stateKey account kind :: poller.initialized }, emitted)

def pollEntity (poller : Poller) (account : String) (kind : Kind) (event : String) (fetch : Fetch) :
    Poller × List Emission :=
  poller.pollList texts account kind event fetch

def pollPositions (poller : Poller) (account : String) (fetch : Fetch) : Poller × List Emission :=
  poller.pollList texts account .position "position.synced" fetch

def pollFeedbacks (poller : Poller) (account : String) (fetch : Fetch) : Poller × List Emission :=
  poller.pollList texts account .feedback "feedback.received" fetch

end Poller

/-- How `_emit_event` fares, which raises nothing: whether Kafka, if there is a producer, has taken the
event, and what the platform, if it is notified, has answered. -/
structure Delivery where
  kafka : Option Bool
  platform : Option (Option Nat)

/-- An event has reached Kafka or the platform. -/
def Delivery.delivered (delivery : Delivery) : Bool :=
  delivery.kafka = some true || match delivery.platform with
    | some (some status) => status < 300
    | _ => false

/-- A poll of one kind of an account: what is fetched, and how each of its events fares. -/
structure Poll where
  account : String
  kind : Kind
  fetch : Fetch
  deliveries : Nat → Delivery

/-- A poll, as `_poll_account` makes it. -/
def Poller.poll (poller : Poller) (poll : Poll) : Poller × List Emission :=
  match poll.kind with
  | .position => poller.pollPositions texts poll.account poll.fetch
  | .feedback => poller.pollFeedbacks texts poll.account poll.fetch
  | kind => poller.pollEntity texts poll.account kind kind.event poll.fetch

/-- The list of a poll that goes through: every item of it is an object. -/
def Poll.list (poll : Poll) : Option (List Value) :=
  poll.fetch.items.filter fun data => data.all fun item => item.fields?.isSome

/-! ## What a poll does -/

variable {texts}

/-- The key of an entity, if it has one. -/
def keyOf (texts : Texts) (kind : Kind) (entity : Value) : String :=
  (entityKey texts entity kind).toOption.getD ""

theorem entityKey_object {kind : Kind} {item : Value} (h : item.fields?.isSome) :
    entityKey texts item kind = .ok (keyOf texts kind item) := by
  cases item with
  | dict fields => cases kind <;> rfl
  | _ => cases h

theorem entityKey_raises (texts : Texts) (kind : Kind) {item : Value} (h : ¬ item.fields?.isSome) :
    ∃ message, entityKey texts item kind = .error message := by
  cases item with
  | dict fields => exact absurd rfl h
  | _ => cases kind <;> exact ⟨_, rfl⟩

/-- Whether an entity differs from what is under its key. -/
def differs (texts : Texts) (kind : Kind) (current : Assoc String) (item : Value) : Bool :=
  isChanged kind (current.find (keyOf texts kind item)) (content texts kind item)

/-- The event of an entity. -/
def emission (texts : Texts) (account : String) (kind : Kind) (event : String) (current : Assoc String)
    (item : Value) : Emission :=
  ⟨event, item, marked account kind (current.find (keyOf texts kind item)) item⟩

/-- The snapshot of a list. -/
def snapshot (texts : Texts) (kind : Kind) (items : List Value) : Assoc String :=
  items.foldl (fun new item => new.put (keyOf texts kind item) (content texts kind item)) []

section Scanning

variable {account event : String} {kind : Kind} {current new : Assoc String} {isFirstRun : Bool}
  {items : List Value}

theorem scan_objects (h : items.all fun item => item.fields?.isSome) :
    scan texts account kind event current isFirstRun new items =
      (if isFirstRun then [] else (items.filter (differs texts kind current)).map
        (emission texts account kind event current),
      .ok (items.foldl (fun new item => new.put (keyOf texts kind item) (content texts kind item))
        new)) := by
  induction items generalizing new with
  | nil => cases isFirstRun <;> rfl
  | cons item rest ih =>
      rw [List.all_cons, Bool.and_eq_true] at h
      rw [scan, entityKey_object h.1]
      show (if (!isFirstRun && differs texts kind current item) = true then _ else _) = _
      rw [ih h.2]
      cases isFirstRun with
      | true => rfl
      | false =>
          by_cases hdiffers : differs texts kind current item = true
          · rw [List.filter_cons_of_pos hdiffers]
            simp only [hdiffers, Bool.not_false, Bool.and_self, if_true]
            rfl
          · rw [List.filter_cons_of_neg hdiffers]
            simp only [hdiffers, Bool.not_false, Bool.and_false]
            rfl

theorem scan_raises (texts : Texts) (account : String) (kind : Kind) (event : String)
    (current : Assoc String) (isFirstRun : Bool) (new : Assoc String)
    (h : ¬ items.all fun item => item.fields?.isSome) :
    ∃ message, (scan texts account kind event current isFirstRun new items).2 = .error message := by
  induction items generalizing new with
  | nil => exact absurd rfl h
  | cons item rest ih =>
      rw [scan]
      by_cases hitem : item.fields?.isSome = true
      · have hrest : ¬ rest.all fun item => item.fields?.isSome := by
          intro hrest
          exact h (by rw [List.all_cons, hitem, hrest, Bool.and_self])
        rw [entityKey_object hitem]
        obtain ⟨message, herror⟩ :=
          ih (new.put (keyOf texts kind item) (content texts kind item)) hrest
        refine ⟨message, ?_⟩
        show (if _ then _ else _ : List Emission × Except String (Assoc String)).2 = _
        split <;> exact herror
      · obtain ⟨message, herror⟩ := entityKey_raises texts kind hitem
        exact ⟨message, by rw [herror]⟩

theorem differs_of_mem_scan {found : Emission}
    (h : found ∈ (scan texts account kind event current isFirstRun new items).1) :
    isFirstRun = false ∧ differs texts kind current found.entity = true := by
  induction items generalizing new with
  | nil => cases h
  | cons item rest ih =>
      rw [scan] at h
      by_cases hitem : item.fields?.isSome = true
      · rw [entityKey_object hitem] at h
        replace h : found ∈ (if (!isFirstRun && differs texts kind current item) = true
          then _ else _ : List Emission × Except String (Assoc String)).1 := h
        split at h
        · next hif =>
          rw [Bool.and_eq_true, Bool.not_eq_true'] at hif
          rcases List.mem_cons.mp h with rfl | hrest
          · exact hif
          · exact ih hrest
        · exact ih h
      · obtain ⟨message, herror⟩ := entityKey_raises texts kind hitem
        rw [herror] at h
        cases h

end Scanning

theorem Poller.poll_eq (poller : Poller) (poll : Poll) : poller.poll texts poll =
    poller.pollList texts poll.account poll.kind poll.kind.event poll.fetch := by
  unfold Poller.poll
  cases poll.kind <;> rfl

theorem stateKey_inj {account account' : String} {kind kind' : Kind}
    (h : stateKey account kind = stateKey account' kind') : account = account' ∧ kind = kind' := by
  have hchars : (stateKey account kind).toList.reverse = (stateKey account' kind').toList.reverse := by
    rw [h]
  cases kind <;> cases kind' <;> simp [stateKey, Kind.name, String.toList_append] at hchars <;>
    exact ⟨String.toList_injective hchars, rfl⟩

section Polling

variable {poller : Poller} {poll : Poll} {items : List Value}

theorem poll_list (h : poll.list = some items) : poller.poll texts poll = ({
    state := poller.state.put (stateKey poll.account poll.kind) (snapshot texts poll.kind items)
    initialized := stateKey poll.account poll.kind :: poller.initialized },
    if ¬ poller.Knows poll.account poll.kind then [] else
      (items.filter (differs texts poll.kind (poller.current poll.account poll.kind))).map
        (emission texts poll.account poll.kind poll.kind.event
          (poller.current poll.account poll.kind))) := by
  obtain ⟨hitems, hobjects⟩ := Option.filter_eq_some_iff.mp h
  rw [Poller.poll_eq, Poller.pollList, hitems]
  simp only [scan_objects hobjects, decide_eq_true_eq]
  rfl

theorem poll_none (h : poll.list = none) : (poller.poll texts poll).1 = poller := by
  rw [Poller.poll_eq, Poller.pollList]
  cases hitems : poll.fetch.items with
  | none => rfl
  | some data =>
      have hobjects : ¬ data.all fun item => item.fields?.isSome := by
        intro hobjects
        have hlist : poll.list = some data := Option.filter_eq_some_iff.mpr ⟨hitems, hobjects⟩
        rw [h] at hlist
        cases hlist
      obtain ⟨message, herror⟩ := scan_raises texts poll.account poll.kind poll.kind.event
        (poller.current poll.account poll.kind)
        (decide (¬ poller.Knows poll.account poll.kind)) [] hobjects
      simp only
      split
      · rfl
      · next hscan =>
        rw [hscan] at herror
        cases herror

theorem differs_of_emitted {found : Emission} (h : found ∈ (poller.poll texts poll).2) :
    poller.Knows poll.account poll.kind ∧
      differs texts poll.kind (poller.current poll.account poll.kind) found.entity = true := by
  rw [Poller.poll_eq, Poller.pollList] at h
  cases hitems : poll.fetch.items with
  | none =>
      rw [hitems] at h
      cases h
  | some data =>
      have hscan : found ∈ (scan texts poll.account poll.kind poll.kind.event
          (poller.current poll.account poll.kind)
          (decide (¬ poller.Knows poll.account poll.kind)) [] data).1 := by
        rw [hitems] at h
        revert h
        simp only
        split <;> intro h <;> simp_all
      obtain ⟨hfirst, hdiffers⟩ := differs_of_mem_scan hscan
      exact ⟨Decidable.not_not.mp (of_decide_eq_false hfirst), hdiffers⟩

theorem current_poll (texts : Texts) (poller : Poller) (poll : Poll) (account : String) (kind : Kind) :
    (poll.account = account ∧ poll.kind = kind ∧ ∃ items, poll.list = some items ∧
      (poller.poll texts poll).1.current account kind = snapshot texts kind items ∧
      (poller.poll texts poll).1.Knows account kind) ∨
    ((poll.account = account → poll.kind = kind → poll.list = none) ∧
      (poller.poll texts poll).1.current account kind = poller.current account kind ∧
      ((poller.poll texts poll).1.Knows account kind ↔ poller.Knows account kind)) := by
  cases hlist : poll.list with
  | none =>
      rw [poll_none hlist]
      exact .inr ⟨fun _ _ => rfl, rfl, Iff.rfl⟩
  | some items =>
      rw [poll_list hlist]
      by_cases hkey : stateKey poll.account poll.kind = stateKey account kind
      · obtain ⟨haccount, hkind⟩ := stateKey_inj hkey
        refine .inl ⟨haccount, hkind, items, rfl, ?_, ?_⟩
        · unfold Poller.current
          rw [Assoc.find_put, if_pos hkey, Option.getD_some, hkind]
        · exact List.mem_cons.mpr (.inl hkey.symm)
      · refine .inr ⟨fun haccount hkind => absurd (by rw [haccount, hkind]) hkey, ?_, ?_⟩
        · unfold Poller.current
          rw [Assoc.find_put, if_neg hkey]
        · exact ⟨fun h => (List.mem_cons.mp h).resolve_left (Ne.symm hkey),
            fun h => List.mem_cons_of_mem _ h⟩

end Polling

theorem find_snapshot (texts : Texts) (kind : Kind) (items : List Value) (key : String) :
    Assoc.find (snapshot texts kind items) key =
      (Snapshots.latest (keyOf texts kind) items key).map (content texts kind) := by
  unfold snapshot
  rw [Assoc.find_foldl_put, Assoc.find, Option.or_none]

theorem differs_snapshot (texts : Texts) (kind : Kind) (old : List Value) (item : Value) :
    differs texts kind (snapshot texts kind old) item = true ↔
      (Snapshots.latest (keyOf texts kind) old (keyOf texts kind item)).map (content texts kind) ≠
        some (content texts kind item) := by
  unfold differs
  rw [find_snapshot]
  cases Snapshots.latest (keyOf texts kind) old (keyOf texts kind item) with
  | none => cases kind <;> simp [isChanged]
  | some found => cases kind <;> simp [isChanged, content]

/-! ## Changes between two polls -/

/-- The poller after a sequence of polls. -/
def Poller.after (texts : Texts) (polls : List Poll) : Poller :=
  polls.foldl (fun poller poll => (poller.poll texts poll).1) .start

/-- The list of the last poll of a kind that went through. -/
def previousList (polls : List Poll) (account : String) (kind : Kind) : Option (List Value) :=
  (polls.filterMap fun poll =>
    if poll.account = account ∧ poll.kind = kind then poll.list else none).getLast?

theorem after_spec (texts : Texts) {polls : List Poll} {account : String} {kind : Kind} {old : List Value}
    (h : previousList polls account kind = some old) :
    (Poller.after texts polls).current account kind = snapshot texts kind old ∧
      (Poller.after texts polls).Knows account kind := by
  induction polls using List.reverseRecOn with
  | nil => cases h
  | append_singleton polls poll ih =>
      have hafter : Poller.after texts (polls ++ [poll]) =
          ((Poller.after texts polls).poll texts poll).1 := by
        unfold Poller.after
        rw [List.foldl_append, List.foldl_cons, List.foldl_nil]
      unfold previousList at h
      rw [List.filterMap_append, List.filterMap_cons, List.filterMap_nil] at h
      rw [hafter]
      rcases current_poll texts (Poller.after texts polls) poll account kind with
        ⟨haccount, hkind, items, hlist, hcurrent, hknows⟩ | ⟨hnone, hcurrent, hknows⟩
      · rw [if_pos ⟨haccount, hkind⟩, hlist, List.getLast?_concat] at h
        obtain rfl := Option.some.inj h
        exact ⟨hcurrent, hknows⟩
      · have hskip :
            (if poll.account = account ∧ poll.kind = kind then poll.list else none) = none := by
          split
          · next hsame => exact hnone hsame.1 hsame.2
          · rfl
        rw [hskip, List.append_nil] at h
        rw [hcurrent, hknows]
        exact ih h

/-- After the baseline a poll emits an event exactly for the entities whose content was not in the
previous list, if and only if the last entity of that list with the key of an entity that was has the
same content. -/
theorem emits_changes_iff (texts : Texts) (polls : List Poll) (poll : Poll) {old items : List Value}
    (hkind : poll.kind ≠ .feedback) (hold : previousList polls poll.account poll.kind = some old)
    (hlist : poll.list = some items)
    (hmd5 : ∀ first ∈ old ++ items, ∀ second ∈ old ++ items,
      contentHash texts first = contentHash texts second →
        first.dumps texts.repr = second.dumps texts.repr) :
    ((Poller.after texts polls).poll texts poll).2.map Emission.entity =
        items.filter (fun item => ∀ previous ∈ old,
          previous.dumps texts.repr ≠ item.dumps texts.repr) ↔
      ∀ item ∈ items, (∃ previous ∈ old, previous.dumps texts.repr = item.dumps texts.repr) →
        ∃ last, Snapshots.latest (keyOf texts poll.kind) old (keyOf texts poll.kind item) = some last ∧
          last.dumps texts.repr = item.dumps texts.repr := by
  obtain ⟨hcurrent, hknows⟩ := after_spec texts hold
  have hhash : ∀ first ∈ old, ∀ second ∈ items, content texts poll.kind first =
      content texts poll.kind second ↔ first.dumps texts.repr = second.dumps texts.repr := by
    intro first hfirst second hsecond
    have hcontent : ∀ entity, content texts poll.kind entity = contentHash texts entity := by
      intro entity
      cases hkind' : poll.kind with
      | feedback => exact absurd hkind' hkind
      | _ => rfl
    rw [hcontent, hcontent]
    constructor
    · exact hmd5 first (List.mem_append_left _ hfirst) second (List.mem_append_right _ hsecond)
    · intro h
      unfold contentHash
      rw [h]
  have hemitted : ((Poller.after texts polls).poll texts poll).2.map Emission.entity =
      Snapshots.changes (keyOf texts poll.kind) (content texts poll.kind) old items := by
    rw [poll_list hlist, hcurrent]
    simp only [hknows, not_true_eq_false, if_false, List.map_map]
    have hentity : Emission.entity ∘ emission texts poll.account poll.kind poll.kind.event
        (snapshot texts poll.kind old) = id := rfl
    rw [hentity, List.map_id]
    refine List.filter_congr fun item _ => ?_
    rw [Bool.eq_iff_iff, differs_snapshot, decide_eq_true_iff]
  have hfilter : items.filter (fun item => ∀ previous ∈ old,
      previous.dumps texts.repr ≠ item.dumps texts.repr) =
      items.filter (fun item => ∀ previous ∈ old,
        content texts poll.kind previous ≠ content texts poll.kind item) := by
    refine List.filter_congr fun item hitem => ?_
    rw [decide_eq_decide]
    exact forall₂_congr fun previous hprevious => not_congr (hhash previous hprevious item hitem).symm
  rw [hemitted, hfilter, Snapshots.changes_eq_iff]
  refine forall₂_congr fun item hitem => imp_congr ?_ ?_
  · exact exists_congr fun previous => and_congr_right fun hprevious =>
      hhash previous hprevious item hitem
  · rw [Option.map_eq_some_iff]
    exact exists_congr fun last => and_congr_right fun hlast =>
      hhash last (Snapshots.latest_spec hlast).1 item hitem

/-- An article as the WMS lists it. -/
def article (source : String) (erpId : Value) (wmsId : Int) : Value :=
  .dict [("source", .str source), ("erpId", erpId), ("wmsId", .int wmsId)]

/-- A poll of the articles of an account, whose events Kafka takes or does not take. -/
def pollOf (articles : List Value) (taken : Bool) : Poll :=
  ⟨"main", .article, .answered (.list articles) 200, fun _ => ⟨some taken, none⟩⟩

/-- What Python makes of three articles. -/
def pythonTexts : Texts where
  str
    | .str text => text
    | .int number => toString number
    | .null => "None"
    | _ => ""
  repr := fun _ => ""
  md5 := fun text =>
    if text = "\x7b\"erpId\": null, \"source\": \"WMS\", \"wmsId\": 1\x7d" then
      "1d598a7dc381a91bd8e8469d2ddc500b"
    else if text = "\x7b\"erpId\": null, \"source\": \"WMS\", \"wmsId\": 2\x7d" then
      "1adb2ea39c02c76dcbe7d56fc2f40bb7"
    else if text = "\x7b\"erpId\": 7, \"source\": \"ERP\", \"wmsId\": 3\x7d" then
      "206669b781324b73a73fe3d3bbaee6f8"
    else ""

/-- Of two articles one is new. -/
theorem new_article_emitted :
    ((Poller.after pythonTexts [pollOf [article "WMS" .null 1] true]).poll pythonTexts
      (pollOf [article "WMS" .null 1, article "ERP" (.int 7) 3] true)).2.map Emission.entity =
      [article "WMS" .null 1, article "ERP" (.int 7) 3].filter fun item =>
        ∀ previous ∈ [article "WMS" .null 1], previous.dumps pythonTexts.repr ≠
          item.dumps pythonTexts.repr := by
  refine (emits_changes_iff pythonTexts [pollOf [article "WMS" .null 1] true]
    (pollOf [article "WMS" .null 1, article "ERP" (.int 7) 3] true) (by decide) rfl rfl
    (by decide +kernel)).mpr ?_
  intro item hitem hthere
  rcases List.mem_cons.mp hitem with rfl | hitem
  · exact ⟨article "WMS" .null 1, by rfl, rfl⟩
  · obtain rfl := List.mem_singleton.mp hitem
    revert hthere
    decide +kernel

/-- Of two articles without an ERP number, which have one key, the first one is emitted although nothing
has changed. -/
theorem unchanged_article_emitted :
    let articles := [article "WMS" .null 1, article "WMS" .null 2]
    (∀ first ∈ articles ++ articles, ∀ second ∈ articles ++ articles,
      contentHash pythonTexts first = contentHash pythonTexts second →
        first.dumps pythonTexts.repr = second.dumps pythonTexts.repr) ∧
    previousList [pollOf articles true] "main" .article = some articles ∧
    (pollOf articles true).list = some articles ∧
    (articles.filter fun item => ∀ previous ∈ articles, previous.dumps pythonTexts.repr ≠
      item.dumps pythonTexts.repr) = [] ∧
    ((Poller.after pythonTexts [pollOf articles true]).poll pythonTexts
      (pollOf articles true)).2.map Emission.entity = [article "WMS" .null 1] := by
  refine ⟨by decide +kernel, rfl, rfl, ?_, by rfl⟩
  rw [List.filter_eq_nil_iff]
  decide +kernel

/-! ## Polls without an end -/

/-- The poller before a poll. -/
def pollerAt (texts : Texts) (polls : Nat → Poll) (number : Nat) : Poller :=
  stateAt (fun poller poll => (poller.poll texts poll).1) .start polls number

/-- What a poll emits. -/
def emittedAt (texts : Texts) (polls : Nat → Poll) (number : Nat) : List Emission :=
  ((pollerAt texts polls number).poll texts (polls number)).2

/-- Two polls are of one kind of one account. -/
def Alike (poll poll' : Poll) : Prop := poll'.account = poll.account ∧ poll'.kind = poll.kind

/-- Every kind that is polled is polled again and again with a list that goes through. -/
def Returns (polls : Nat → Poll) : Prop :=
  ∀ number, ∃ later,
    number < later ∧ Alike (polls number) (polls later) ∧ (polls later).list.isSome

/-- An entity with a content, in a list. -/
def Contains (texts : Texts) (kind : Kind) (items : List Value) (entity : Value) : Prop :=
  ∃ item ∈ items, keyOf texts kind item = keyOf texts kind entity ∧
    item.dumps texts.repr = entity.dumps texts.repr

/-- The last entity with the key of an entity, in a list, has another content. -/
def Hides (texts : Texts) (kind : Kind) (items : List Value) (entity : Value) : Prop :=
  ∃ last, Snapshots.latest (keyOf texts kind) items (keyOf texts kind entity) = some last ∧
    content texts kind last ≠ content texts kind entity

/-- An event of a poll that reaches neither Kafka nor the platform. -/
def Undelivered (texts : Texts) (polls : Nat → Poll) (number : Nat) (found : Emission) : Prop :=
  ∃ index, (emittedAt texts polls number)[index]? = some found ∧
    ((polls number).deliveries index).delivered = false

/-- An undelivered event is emitted again if its entity still has that content in all later lists. -/
def AtLeastOnce (texts : Texts) (polls : Nat → Poll) : Prop :=
  ∀ number found, Undelivered texts polls number found →
    (∀ later, number < later → Alike (polls number) (polls later) → ∀ items,
      (polls later).list = some items → Contains texts (polls number).kind items found.entity) →
    ∃ later, number < later ∧ Alike (polls number) (polls later) ∧
      Contains texts (polls number).kind ((emittedAt texts polls later).map Emission.entity) found.entity

/-- A poller that would emit an event for an entity. -/
def Poller.Differs (texts : Texts) (poller : Poller) (account : String) (kind : Kind) (entity : Value) :
    Prop :=
  poller.Knows account kind ∧ differs texts kind (poller.current account kind) entity = true

section Runs

variable {polls : Nat → Poll} {account : String} {kind : Kind} {entity : Value}

theorem differs_congr {item : Value} (hkey : keyOf texts kind item = keyOf texts kind entity)
    (hdumps : item.dumps texts.repr = entity.dumps texts.repr) (current : Assoc String) :
    differs texts kind current item = differs texts kind current entity := by
  have hcontent : content texts kind item = content texts kind entity := by
    cases kind <;> simp only [content, contentHash, hdumps]
  unfold differs
  rw [hkey, hcontent]

variable {items : List Value}

theorem not_differs_snapshot (hthere : Contains texts kind items entity)
    (hnot : ¬ Hides texts kind items entity) :
    ¬ differs texts kind (snapshot texts kind items) entity = true := by
  obtain ⟨item, hitem, hkey, -⟩ := hthere
  obtain ⟨last, hlast⟩ := Snapshots.exists_latest (keyOf texts kind) hitem
  rw [hkey] at hlast
  rw [differs_snapshot, hlast, Option.map_some, not_not]
  by_contra hne
  exact hnot ⟨last, hlast, fun h => hne (congrArg some h)⟩

theorem differs_of_hides (h : Hides texts kind items entity) :
    differs texts kind (snapshot texts kind items) entity = true := by
  obtain ⟨last, hlast, hne⟩ := h
  rw [differs_snapshot, hlast, Option.map_some]
  exact fun heq => hne (Option.some.inj heq)

theorem pollerAt_succ_of_list (texts : Texts) {number : Nat}
    (haccount : (polls number).account = account) (hkind : (polls number).kind = kind)
    (hlist : (polls number).list = some items) :
    (pollerAt texts polls (number + 1)).current account kind = snapshot texts kind items ∧
      (pollerAt texts polls (number + 1)).Knows account kind := by
  rcases current_poll texts (pollerAt texts polls number) (polls number) account kind with
    ⟨-, -, items', hlist', hcurrent, hknows⟩ | ⟨hnone, -, -⟩
  · rw [hlist] at hlist'
    obtain rfl := Option.some.inj hlist'
    exact ⟨hcurrent, hknows⟩
  · rw [hnone haccount hkind] at hlist
    cases hlist

theorem emitted_of_list {number : Nat} (hlist : (polls number).list = some items)
    (hthere : Contains texts (polls number).kind items entity)
    (hdiffers : (pollerAt texts polls number).Differs texts (polls number).account
      (polls number).kind entity) :
    Contains texts (polls number).kind ((emittedAt texts polls number).map Emission.entity) entity := by
  obtain ⟨item, hitem, hkey, hdumps⟩ := hthere
  refine ⟨item, ?_, hkey, hdumps⟩
  unfold emittedAt
  rw [poll_list hlist]
  simp only [hdiffers.1, not_true_eq_false, if_false]
  refine List.mem_map.mpr
    ⟨_, List.mem_map.mpr ⟨item, List.mem_filter.mpr ⟨hitem, ?_⟩, rfl⟩, rfl⟩
  rw [differs_congr hkey hdumps]
  exact hdiffers.2

/-- What differs from the snapshot is emitted again, if it is in every list and one goes through. -/
theorem emitted_of_differs {start later : Nat}
    (hthere : ∀ number, start ≤ number → (polls number).account = account →
      (polls number).kind = kind → ∀ items, (polls number).list = some items →
        Contains texts kind items entity)
    (hdiffers : (pollerAt texts polls start).Differs texts account kind entity) (hle : start ≤ later)
    (haccount : (polls later).account = account) (hkind : (polls later).kind = kind)
    (hlist : (polls later).list.isSome) :
    ∃ number, start ≤ number ∧ (polls number).account = account ∧ (polls number).kind = kind ∧
      Contains texts kind ((emittedAt texts polls number).map Emission.entity) entity := by
  obtain ⟨distance, rfl⟩ := Nat.exists_eq_add_of_le hle
  clear hle
  -- The number of polls up to the one that is known to go through.
  induction distance generalizing start with
  | zero =>
      obtain ⟨items, hitems⟩ := Option.isSome_iff_exists.mp hlist
      subst haccount hkind
      exact ⟨start, Nat.le_refl _, rfl, rfl,
        emitted_of_list hitems (hthere start (Nat.le_refl _) rfl rfl items hitems) hdiffers⟩
  | succ distance ih =>
      rcases current_poll texts (pollerAt texts polls start) (polls start) account kind with
        ⟨rfl, rfl, items, hitems, -, -⟩ | ⟨-, hcurrent, hknows⟩
      · exact ⟨start, Nat.le_refl _, rfl, rfl,
          emitted_of_list hitems (hthere start (Nat.le_refl _) rfl rfl items hitems) hdiffers⟩
      · have hnext : (pollerAt texts polls (start + 1)).Differs texts account kind entity := by
          refine ⟨hknows.mpr hdiffers.1, ?_⟩
          show differs texts kind (((pollerAt texts polls start).poll texts
            (polls start)).1.current account kind) entity = true
          rw [hcurrent]
          exact hdiffers.2
        have hsum : start + (distance + 1) = start + 1 + distance := by omega
        rw [hsum] at haccount hkind hlist
        obtain ⟨number, hle, hfound⟩ := ih (fun number hle => hthere number (by omega)) hnext
          haccount hkind hlist
        exact ⟨number, by omega, hfound⟩

/-- An entity that does not differ from its snapshot is not emitted as long as no list hides it. -/
theorem not_emitted (start : Nat) {number : Nat}
    (hthere : ∀ later, start ≤ later → (polls later).account = account →
      (polls later).kind = kind → ∀ items, (polls later).list = some items →
        Contains texts kind items entity ∧ ¬ Hides texts kind items entity)
    (hsame : ¬ differs texts kind ((pollerAt texts polls start).current account kind) entity = true)
    (hle : start ≤ number) (haccount : (polls number).account = account)
    (hkind : (polls number).kind = kind) :
    ¬ Contains texts kind ((emittedAt texts polls number).map Emission.entity) entity := by
  have hkept : ∀ later, start ≤ later →
      ¬ differs texts kind ((pollerAt texts polls later).current account kind) entity = true := by
    intro later hlater
    induction later, hlater using Nat.le_induction with
    | base => exact hsame
    | succ later hlater ih =>
        show ¬ differs texts kind (((pollerAt texts polls later).poll texts
          (polls later)).1.current account kind) entity = true
        rcases current_poll texts (pollerAt texts polls later) (polls later) account kind with
          ⟨ha, hk, items, hitems, hcurrent, -⟩ | ⟨-, hcurrent, -⟩
        · rw [hcurrent]
          obtain ⟨hcontains, hnot⟩ := hthere later hlater ha hk items hitems
          exact not_differs_snapshot hcontains hnot
        · rwa [hcurrent]
  rintro ⟨item, hitem, hkey, hdumps⟩
  obtain ⟨again, hagain, rfl⟩ := List.mem_map.mp hitem
  have hdiffers := (differs_of_emitted hagain).2
  rw [haccount, hkind, differs_congr hkey hdumps] at hdiffers
  exact hkept number hle hdiffers

/-- Every undelivered event is emitted again, if and only if for each one the poll broke off, the entity
is missing from a later list, or another entity with its key hides it in that list or a later one. -/
theorem at_least_once_iff (texts : Texts) (polls : Nat → Poll) (hreturns : Returns polls) :
    AtLeastOnce texts polls ↔ ∀ number found, Undelivered texts polls number found →
      (polls number).list = none ∨
      (∃ later, number < later ∧ Alike (polls number) (polls later) ∧ ∃ items,
        (polls later).list = some items ∧ ¬ Contains texts (polls number).kind items found.entity) ∨
      ∃ later, number ≤ later ∧ Alike (polls number) (polls later) ∧ ∃ items,
        (polls later).list = some items ∧ Hides texts (polls number).kind items found.entity := by
  unfold AtLeastOnce
  refine forall₃_congr fun number found hundelivered => ?_
  obtain ⟨index, hindex, -⟩ := hundelivered
  have hfound := List.mem_of_getElem? hindex
  constructor
  · intro hagain
    by_contra hnot
    rw [not_or, not_or] at hnot
    obtain ⟨hlist, hgone, hhidden⟩ := hnot
    obtain ⟨items, hitems⟩ := Option.ne_none_iff_exists'.mp hlist
    have hthere : ∀ later, number < later → Alike (polls number) (polls later) → ∀ items,
        (polls later).list = some items → Contains texts (polls number).kind items found.entity := by
      intro later hlater halike items hitems
      by_contra hmissing
      exact hgone ⟨later, hlater, halike, items, hitems, hmissing⟩
    obtain ⟨later, hlater, halike, hemitted⟩ := hagain hthere
    have hown : Contains texts (polls number).kind items found.entity := by
      rw [emittedAt, poll_list hitems] at hfound
      split at hfound
      · cases hfound
      · obtain ⟨item, hitem, rfl⟩ := List.mem_map.mp hfound
        exact ⟨item, (List.mem_filter.mp hitem).1, rfl, rfl⟩
    refine not_emitted (number + 1) ?_ ?_ hlater halike.1 halike.2 hemitted
    · intro later hlater haccount hkind items hitems
      exact ⟨hthere later hlater ⟨haccount, hkind⟩ items hitems,
        fun h => hhidden ⟨later, Nat.le_of_lt hlater, ⟨haccount, hkind⟩, items, hitems, h⟩⟩
    · rw [(pollerAt_succ_of_list texts rfl rfl hitems).1]
      exact not_differs_snapshot hown
        (fun h => hhidden ⟨number, Nat.le_refl _, ⟨rfl, rfl⟩, items, hitems, h⟩)
  · intro hcases hthere
    have hemitted : ∀ start, number ≤ start → Alike (polls number) (polls start) →
        (pollerAt texts polls (start + 1)).Differs texts (polls number).account (polls number).kind
          found.entity →
        ∃ later, number < later ∧ Alike (polls number) (polls later) ∧ Contains texts
          (polls number).kind ((emittedAt texts polls later).map Emission.entity) found.entity := by
      intro start hstart halike hdiffers
      obtain ⟨later, hlater, halike', hlist⟩ := hreturns start
      obtain ⟨again, hagain, haccount, hkind, hcontains⟩ := emitted_of_differs
        (fun later hlater haccount hkind => hthere later (by omega) ⟨haccount, hkind⟩) hdiffers hlater
        (halike'.1.trans halike.1) (halike'.2.trans halike.2) hlist
      exact ⟨again, by omega, ⟨haccount, hkind⟩, hcontains⟩
    rcases hcases with hbroken | ⟨later, hlater, halike, items, hitems, hmissing⟩ |
      ⟨later, hlater, halike, items, hitems, hhides⟩
    · refine hemitted number (Nat.le_refl _) ⟨rfl, rfl⟩ ?_
      show (((pollerAt texts polls number).poll texts (polls number)).1).Differs _ _ _ _
      rw [poll_none hbroken]
      exact differs_of_emitted hfound
    · exact absurd (hthere later hlater halike items hitems) hmissing
    · refine hemitted later hlater halike ?_
      obtain ⟨hcurrent, hknows⟩ := pollerAt_succ_of_list texts halike.1 halike.2 hitems
      refine ⟨hknows, ?_⟩
      rw [hcurrent]
      exact differs_of_hides hhides

end Runs

/-- A poll breaks off after an event that Kafka does not take. Kafka takes those of the later polls. -/
def brokenOff : Nat → Poll
  | 0 => pollOf [] true
  | 1 => pollOf [article "WMS" .null 1, .null] false
  | _ + 2 => pollOf [article "WMS" .null 1] true

/-- The event that is not delivered is emitted again. -/
theorem all_events_taken :
    AtLeastOnce pythonTexts brokenOff ∧ ∃ found, Undelivered pythonTexts brokenOff 1 found := by
  refine ⟨(at_least_once_iff pythonTexts brokenOff fun number => ?_).mpr ?_, _, 0, rfl, rfl⟩
  · rcases number with _ | _ | number <;> exact ⟨_ + 2, Nat.lt_add_of_pos_right Nat.two_pos, ⟨rfl, rfl⟩, rfl⟩
  · rintro (_ | _ | number) found ⟨index, -, hdelivered⟩
    · cases hdelivered
    · exact .inl rfl
    · cases hdelivered

/-- A new article whose event Kafka does not take is not emitted again. -/
theorem new_article_lost :
    ¬ AtLeastOnce pythonTexts fun number =>
      pollOf (if number = 0 then [] else [article "WMS" .null 1]) false := by
  have hone : ∀ later, 0 < later → ∀ items, (pollOf (if later = 0 then [] else
      [article "WMS" .null 1]) false).list = some items → items = [article "WMS" .null 1] := by
    intro later hlater items hitems
    rw [if_neg (Nat.ne_of_gt hlater)] at hitems
    exact (Option.some.inj hitems).symm
  have hcontains : Contains pythonTexts .article [article "WMS" .null 1] (article "WMS" .null 1) :=
    ⟨_, List.mem_singleton_self _, rfl, rfl⟩
  intro h
  obtain ⟨later, hlater, halike, hagain⟩ :=
    h 1 ⟨"article.synced", article "WMS" .null 1, _⟩ ⟨0, rfl, rfl⟩ (by
      intro later hlater _ items hitems
      rw [hone later (Nat.zero_lt_of_lt hlater) items hitems]
      exact hcontains)
  refine not_emitted 2 ?_ (by decide +kernel) hlater halike.1 halike.2 hagain
  intro later hlater _ _ items hitems
  rw [hone later (by omega) items hitems]
  refine ⟨hcontains, ?_⟩
  rintro ⟨last, hlast, hne⟩
  obtain rfl := List.mem_singleton.mp (Snapshots.latest_spec hlast).1
  exact hne rfl

end Wms

end IntegrationPlatform
