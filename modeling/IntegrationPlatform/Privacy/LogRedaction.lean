import IntegrationPlatform.Mapping.MailBody
import IntegrationPlatform.Privacy.Patterns

/-!
# Redaction of logs

`redact` masks the e-mail addresses and the phone numbers of a log, and what is under the keys of personal
data. The matches are masked one after the other, by textual replacement. `redact_masks` says when the log is
the one in which each match is masked in its place (`masked`), with no match left: if the text of no match
stands elsewhere as its turn comes, and no match is made up of what the masks leave.
-/

namespace IntegrationPlatform

namespace LogRedaction

open MailBody (strip)
open Masking

/-! ## Definitions -/

def piiKeyPatterns : List String :=
  ["email", "e_mail", "email_address", "mail", "recipient", "recipients", "to", "cc", "bcc", "from",
   "sender", "reply_to", "name", "first_name", "last_name", "full_name", "phone", "phone_number",
   "telephone", "mobile", "address", "street", "city", "zip", "zip_code", "postal_code", "pesel", "nip",
   "regon", "ssn", "id_number", "passport", "password", "secret", "token", "api_key", "access_token",
   "refresh_token", "authorization", "cookie", "set-cookie", "proxy-authorization", "x-api-key",
   "x-admin-secret", "x-internal-secret"]

def safeKeys : List String :=
  ["imap_host", "smtp_host", "connector", "connector_name", "action", "event", "status", "message_id",
   "account_name", "node_id", "node_type", "label", "duration_ms", "error", "type", "handle",
   "condition_result", "switch_value", "matched_case", "variable", "status_code", "_truncated", "_preview",
   "dispatched"]

def piiSegmentPatterns : List String :=
  ["email", "phone", "name", "address", "pesel", "password", "secret", "token"]

def redactionMarker : List Char :=
  ['[', 'R', 'E', 'D', 'A', 'C', 'T', 'E', 'D', '-', 'P', 'I', 'I', ']']

def maskEmail (email : List Char) : List Char :=
  match (email.dropWhile (· != '@')).drop 1 with
  | [] => redactionMarker
  | domain =>
      match email.takeWhile (· != '@') with
      | first :: _ => first :: '*' :: '*' :: '*' :: '@' :: domain
      | [] => '*' :: '*' :: '*' :: '@' :: domain

section Redact

variable (digits : DecimalDigits) (lower : String → String)

def maskPhone (phone : List Char) : List Char :=
  let kept := phone.filter digits.isDecimal
  if kept.length < 4 then redactionMarker
  else kept.take 2 ++ (List.replicate (kept.length - 4) '*' ++ kept.drop (kept.length - 2))

def isPiiKey (key : String) : Bool :=
  let normalized := strip (lower key).toList
  if String.ofList normalized ∈ safeKeys then false
  else if String.ofList normalized ∈ piiKeyPatterns then true
  else
    ((normalized.map fun letter => if letter = '-' then '_' else letter).splitOn '_').any fun part =>
      String.ofList part ∈ piiSegmentPatterns

def redactStringValue (value : List Char) : List Char :=
  maskEach (maskPhone digits) (phone digits) (maskEach maskEmail email value)

/-- A text under a key of personal data. -/
def redactKeyedText (value : List Char) : List Char :=
  if email.findAll value ≠ [] then maskEach maskEmail email value
  else if (phone digits).find (strip value) = some (strip value).length then maskPhone digits value
  else redactionMarker

/-- An item of a list under a key of personal data. -/
def redactListed : Value → Value
  | .str text =>
      if email.find text.toList = some text.toList.length then .str (String.ofList (maskEmail text.toList))
      else .str (String.ofList redactionMarker)
  | _ => .str (String.ofList redactionMarker)

/-- What is under a key of personal data. -/
def redactKeyed : Value → Value
  | .str text => .str (String.ofList (redactKeyedText digits text.toList))
  | .list items => .list (items.map redactListed)
  | _ => .str (String.ofList redactionMarker)

/-- The key that says that a value has been redacted. -/
def redactedKey (key : String) : String :=
  "__" ++ key ++ "_redacted"

mutual

def redact (data : Value) (depth : Nat) : Value :=
  match data with
  | .dict fields =>
      if 20 < depth then .str (String.ofList redactionMarker) else .dict (redactFields fields depth [])
  | .list items =>
      if 20 < depth then .str (String.ofList redactionMarker) else .list (redactItems items depth)
  | .str text =>
      if 20 < depth then .str (String.ofList redactionMarker)
      else .str (String.ofList (redactStringValue digits text.toList))
  | data => if 20 < depth then .str (String.ofList redactionMarker) else data

/-- The fields of an object, put into those that are there. -/
def redactFields (fields : List (String × Value)) (depth : Nat) (out : Dict) : Dict :=
  match fields with
  | [] => out
  | (key, value) :: rest =>
      if isPiiKey lower key then
        -- The flag is put under a key of its own, which the log may have as well.
        redactFields rest depth
          (Assoc.put (Assoc.put out key (redactKeyed digits value)) (redactedKey key) (.bool true))
      else redactFields rest depth (Assoc.put out key (redact value (depth + 1)))

/-- The items of a list. -/
def redactItems (items : List Value) (depth : Nat) : List Value :=
  match items with
  | [] => []
  | item :: rest => redact item (depth + 1) :: redactItems rest depth

end

end Redact

/-! ## What redaction is for -/

section Masked

variable (digits : DecimalDigits) (lower : String → String)

/-- A text with the matches masked in their places. -/
def maskedText (value : List Char) : List Char :=
  (phone digits).sub (maskPhone digits) (email.sub maskEmail value)

/-- A text under a key of personal data, with the matches masked in their places. -/
def maskedKeyedText (value : List Char) : List Char :=
  if email.findAll value ≠ [] then email.sub maskEmail value
  else if (phone digits).find (strip value) = some (strip value).length then maskPhone digits value
  else redactionMarker

/-- What is under a key of personal data, with the matches masked in their places. -/
def maskedKeyed : Value → Value
  | .str text => .str (String.ofList (maskedKeyedText digits text.toList))
  | .list items => .list (items.map redactListed)
  | _ => .str (String.ofList redactionMarker)

mutual

/-- A value with the matches masked in their places. -/
def masked (data : Value) : Value :=
  match data with
  | .dict fields => .dict (maskedFields fields [])
  | .list items => .list (maskedItems items)
  | .str text => .str (String.ofList (maskedText digits text.toList))
  | data => data

/-- The fields of an object with the matches masked, put into those that are there. -/
def maskedFields (fields : List (String × Value)) (out : Dict) : Dict :=
  match fields with
  | [] => out
  | (key, value) :: rest =>
      if isPiiKey lower key then
        maskedFields rest
          (Assoc.put (Assoc.put out key (maskedKeyed digits value)) (redactedKey key) (.bool true))
      else maskedFields rest (Assoc.put out key (masked value))

/-- The items of a list with the matches masked. -/
def maskedItems (items : List Value) : List Value :=
  match items with
  | [] => []
  | item :: rest => masked item :: maskedItems rest

end

/-- A text in which neither pattern matches. -/
def Clean (text : List Char) : Prop :=
  email.findAll text = [] ∧ (phone digits).findAll text = []

instance (text : List Char) : Decidable (Clean digits text) :=
  inferInstanceAs (Decidable (_ ∧ _))

end Masked

mutual

/-- Each text of a value, be it under a key or not. -/
def EveryText (holds : List Char → Prop) (value : Value) : Prop :=
  match value with
  | .str text => holds text.toList
  | .list items => EveryItem holds items
  | .dict fields => EveryField holds fields
  | _ => True

/-- Each text of the items. -/
def EveryItem (holds : List Char → Prop) (items : List Value) : Prop :=
  match items with
  | [] => True
  | item :: rest => EveryText holds item ∧ EveryItem holds rest

/-- Each text of the fields. -/
def EveryField (holds : List Char → Prop) (fields : List (String × Value)) : Prop :=
  match fields with
  | [] => True
  | (_, value) :: rest => EveryText holds value ∧ EveryField holds rest

end

mutual

/-- How deep lists and objects are nested. -/
def nesting (value : Value) : Nat :=
  match value with
  | .list items => nestingItems items + 1
  | .dict fields => nestingFields fields + 1
  | _ => 0

/-- How deep the items are nested. -/
def nestingItems (items : List Value) : Nat :=
  match items with
  | [] => 0
  | item :: rest => max (nesting item) (nestingItems rest)

/-- How deep the fields are nested. -/
def nestingFields (fields : List (String × Value)) : Nat :=
  match fields with
  | [] => 0
  | (_, value) :: rest => max (nesting value) (nestingFields rest)

end

/-! ## The condition -/

/-- What the mask of an e-mail address leaves of it. -/
def leftOfEmail (email : List Char) : Remnant Char :=
  match (email.dropWhile (· != '@')).drop 1 with
  | [] => .ends [] []
  | domain => .ends (email.takeWhile (· != '@')).head?.toList ('@' :: domain)

section Condition

variable (digits : DecimalDigits) (lower : String → String)

/-- What the mask of a phone number leaves of it. -/
def leftOfPhone (phone : List Char) : Remnant Char :=
  let kept := phone.filter digits.isDecimal
  if kept.length < 4 then .ends [] []
  else if kept.length = 4 then .whole kept
  else .ends (kept.take 2) (kept.drop (kept.length - 2))

/-- What the masks of its e-mail addresses leave of a text has no match. -/
def EmailsLeaveNone (text : List Char) : Prop :=
  ∀ remnant ∈ remnants leftOfEmail [] (email.parts text), Clean digits remnant

/-- What the masks of its phone numbers leave of a text has no match. -/
def PhonesLeaveNone (text : List Char) : Prop :=
  ∀ remnant ∈ remnants (leftOfPhone digits) [] ((phone digits).parts text), Clean digits remnant

/-- A text of which no match is replaced elsewhere, and no match is left. -/
structure SafeText (text : List Char) : Prop where
  emails : Separate maskEmail email text
  phones : Separate (maskPhone digits) (phone digits) (email.sub maskEmail text)
  left : PhonesLeaveNone digits (email.sub maskEmail text)

/-- Such a text, if it is under a key of personal data. -/
structure SafeKeyedText (text : List Char) : Prop where
  emails : Separate maskEmail email text
  left : email.findAll text ≠ [] → EmailsLeaveNone digits text

/-- What is under a key of personal data has such texts only. -/
def SafeKeyed : Value → Prop
  | .str text => SafeKeyedText digits text.toList
  | .list items =>
      ∀ text : String, .str text ∈ items → email.find text.toList = some text.toList.length →
        EmailsLeaveNone digits text.toList
  | _ => True

mutual

/-- A value has such texts only. -/
def SafeValue (value : Value) : Prop :=
  match value with
  | .str text => SafeText digits text.toList
  | .list items => SafeItems items
  | .dict fields => SafeFields fields
  | _ => True

/-- The items have such texts only. -/
def SafeItems (items : List Value) : Prop :=
  match items with
  | [] => True
  | item :: rest => SafeValue item ∧ SafeItems rest

/-- The fields have such texts only. -/
def SafeFields (fields : List (String × Value)) : Prop :=
  match fields with
  | [] => True
  | (key, value) :: rest =>
      (if isPiiKey lower key then SafeKeyed digits value else SafeValue value) ∧ SafeFields rest

end

end Condition

/-! ## What is left of a match -/

/-- A pattern that sees no match in what masks are filled with. -/
structure Unseeing (pattern : Pattern Char) : Prop where
  star : Stops pattern '*'
  marker : Splits pattern redactionMarker

theorem not_isDecimal {letter : Char} (digits : DecimalDigits) (hascii : letter.toNat < 128)
    (hdigit : letter.isDigit = false) : digits.isDecimal letter = false :=
  (digits.ascii letter hascii).trans hdigit

variable {text : List Char}

theorem findAll_phone_of_ascii {digits : DecimalDigits}
    (h : (text.all fun letter => decide (letter.toNat < 128) && !letter.isDigit) = true) :
    (phone digits).findAll text = [] := by
  refine findAll_phone_of_digitless fun letter hletter => ?_
  have hboth := List.all_eq_true.mp h letter hletter
  rw [Bool.and_eq_true, decide_eq_true_iff, Bool.not_eq_true'] at hboth
  exact not_isDecimal digits hboth.1 hboth.2

variable {pattern : Pattern Char}

theorem splits_redactionMarker (hopen : Stops pattern '[') (hclose : Stops pattern ']')
    (h : pattern.findAll ['R', 'E', 'D', 'A', 'C', 'T', 'E', 'D', '-', 'P', 'I', 'I'] = []) :
    Splits pattern redactionMarker :=
  splits_append (splits_letter hopen) h (splits_letter hclose)

theorem unseeing_email : Unseeing email where
  star := stops_email rfl (by decide)
  marker :=
    splits_redactionMarker (stops_email rfl (by decide)) (stops_email rfl (by decide))
      (findAll_email_of_not_mem (by decide))

theorem stops_phone_of_ascii (digits : DecimalDigits) {letter : Char}
    (h : letter.toNat < 128 ∧ letter.isDigit = false ∧ Gateway.isSpace letter = false ∧ letter ≠ '-' ∧
      letter ≠ '+') :
    Stops (phone digits) letter := by
  obtain ⟨hascii, hdigit, hspace, hhyphen, hplus⟩ := h
  refine stops_phone ?_ hplus
  simp [inNumber, not_isDecimal digits hascii hdigit, hspace, hhyphen]

theorem unseeing_phone (digits : DecimalDigits) : Unseeing (phone digits) where
  star := stops_phone_of_ascii digits (by decide)
  marker :=
    splits_redactionMarker (stops_phone_of_ascii digits (by decide)) (stops_phone_of_ascii digits (by decide))
      (findAll_phone_of_ascii rfl)

theorem leaves_maskEmail (h : Unseeing pattern) (found : List Char) :
    Leaves pattern (maskEmail found) (leftOfEmail found) := by
  have hstars : Splits pattern ['*', '*', '*'] := splits_replicate h.star 2
  unfold maskEmail leftOfEmail
  cases (found.dropWhile (· != '@')).drop 1 with
  | nil => exact ⟨redactionMarker, (List.append_nil _).symm, h.marker⟩
  | cons head domain =>
      cases found.takeWhile (· != '@') with
      | nil => exact ⟨_, rfl, hstars⟩
      | cons first others => exact ⟨_, rfl, hstars⟩

theorem leaves_maskPhone (h : Unseeing pattern) (digits : DecimalDigits)
    (found : List Char) : Leaves pattern (maskPhone digits found) (leftOfPhone digits found) := by
  unfold maskPhone leftOfPhone
  generalize found.filter digits.isDecimal = kept
  by_cases hfew : kept.length < 4
  · simp only [if_pos hfew]
    exact ⟨redactionMarker, (List.append_nil _).symm, h.marker⟩
  · by_cases hfour : kept.length = 4
    · simp only [if_neg hfew, if_pos hfour]
      show kept.take 2 ++ (List.replicate (kept.length - 4) '*' ++ kept.drop (kept.length - 2)) = kept
      rw [hfour]
      exact List.take_append_drop 2 kept
    · simp only [if_neg hfew, if_neg hfour]
      -- From the fifth digit on there is an asterisk between the two ends.
      obtain ⟨count, hcount⟩ : ∃ count, kept.length - 4 = count + 1 := ⟨kept.length - 5, by omega⟩
      exact ⟨List.replicate (kept.length - 4) '*', rfl, hcount ▸ splits_replicate h.star count⟩

section Texts

variable {digits : DecimalDigits}

theorem clean_sub_email_iff :
    Clean digits (email.sub maskEmail text) ↔ EmailsLeaveNone digits text := by
  have hemail := findAll_masked_eq_nil_iff (leaves_maskEmail unseeing_email) [] (email.parts text)
  have hphone := findAll_masked_eq_nil_iff (leaves_maskEmail (unseeing_phone digits)) [] (email.parts text)
  rw [List.nil_append] at hemail hphone
  rw [Clean, Pattern.sub, hemail, hphone, EmailsLeaveNone]
  simp only [Clean, forall_and]

theorem clean_sub_phone_iff :
    Clean digits ((phone digits).sub (maskPhone digits) text) ↔ PhonesLeaveNone digits text := by
  have hemail :=
    findAll_masked_eq_nil_iff (leaves_maskPhone unseeing_email digits) [] ((phone digits).parts text)
  have hphone :=
    findAll_masked_eq_nil_iff (leaves_maskPhone (unseeing_phone digits) digits) [] ((phone digits).parts text)
  rw [List.nil_append] at hemail hphone
  rw [Clean, Pattern.sub, hemail, hphone, PhonesLeaveNone]
  simp only [Clean, forall_and]

theorem clean_redactionMarker : Clean digits redactionMarker :=
  ⟨findAll_email_of_not_mem (by decide), findAll_phone_of_ascii rfl⟩

theorem short_of_mem_remnants {found remnant : List Char}
    (h : remnant ∈ remnants (leftOfPhone digits) [] [.found found]) :
    remnant.length ≤ 4 ∧ remnant ⊆ found.filter digits.isDecimal := by
  rw [remnants, leftOfPhone] at h
  generalize found.filter digits.isDecimal = kept at h ⊢
  by_cases hfew : kept.length < 4
  · simp only [if_pos hfew, remnants, List.append_nil, List.mem_cons, List.not_mem_nil, or_false,
      or_self] at h
    subst h
    exact ⟨Nat.zero_le 4, List.nil_subset kept⟩
  · by_cases hfour : kept.length = 4
    · simp only [if_neg hfew, if_pos hfour, remnants, List.nil_append, List.mem_singleton] at h
      subst h
      exact ⟨hfour.le, List.Subset.refl _⟩
    · simp only [if_neg hfew, if_neg hfour, remnants, List.nil_append, List.mem_cons, List.not_mem_nil,
        or_false] at h
      rcases h with rfl | rfl
      · exact ⟨(List.length_take_le 2 kept).trans (by omega), List.take_subset 2 kept⟩
      · refine ⟨?_, List.drop_subset _ kept⟩
        rw [List.length_drop]
        omega

theorem clean_maskPhone (found : List Char) : Clean digits (maskPhone digits found) := by
  have hemail := findAll_masked_eq_nil_iff (leaves_maskPhone unseeing_email digits) [] [.found found]
  have hphone :=
    findAll_masked_eq_nil_iff (leaves_maskPhone (unseeing_phone digits) digits) [] [.found found]
  rw [List.nil_append, List.flatMap_singleton] at hemail hphone
  refine ⟨hemail.mpr fun remnant hremnant => ?_, hphone.mpr fun remnant hremnant => ?_⟩
  · refine findAll_email_of_not_mem fun hat => ?_
    have hdecimal := (List.mem_filter.mp ((short_of_mem_remnants hremnant).2 hat)).2
    rw [not_isDecimal digits (by decide) (by decide)] at hdecimal
    cases hdecimal
  · have hle := (short_of_mem_remnants hremnant).1
    exact findAll_phone_of_short (by omega)

/-! ## Texts -/

variable {text : List Char}

theorem SafeText.redact_eq (h : SafeText digits text) :
    redactStringValue digits text = maskedText digits text := by
  rw [redactStringValue, maskEach_eq_sub h.emails, maskEach_eq_sub h.phones, maskedText]

theorem SafeText.clean (h : SafeText digits text) : Clean digits (maskedText digits text) :=
  clean_sub_phone_iff.mpr h.left

theorem SafeKeyedText.redact_eq (h : SafeKeyedText digits text) :
    redactKeyedText digits text = maskedKeyedText digits text := by
  rw [redactKeyedText, maskEach_eq_sub h.emails, maskedKeyedText]

theorem SafeKeyedText.clean (h : SafeKeyedText digits text) : Clean digits (maskedKeyedText digits text) := by
  unfold maskedKeyedText
  split
  · next hfound => exact clean_sub_email_iff.mpr (h.left hfound)
  · split
    · exact clean_maskPhone text
    · exact clean_redactionMarker

theorem clean_maskEmail (hfind : email.find text = some text.length) (h : EmailsLeaveNone digits text) :
    Clean digits (maskEmail text) := by
  have hwhole : email.sub maskEmail text = maskEmail text := by
    rw [Pattern.sub_found _ hfind, List.take_length, List.drop_length, Pattern.sub_nil, List.append_nil]
  exact hwhole ▸ clean_sub_email_iff.mpr h

theorem maskEmail_of_mem_findAll {found : List Char} (h : found ∈ email.findAll text) :
    ∃ first others domain, found = first :: (others ++ '@' :: domain) ∧ '@' ∉ first :: others ∧
      maskEmail found = first :: '*' :: '*' :: '*' :: '@' :: domain := by
  obtain ⟨first, others, domain, rfl, hat, hdomain⟩ := exists_of_mem_findAll_email h
  refine ⟨first, others, domain, rfl, hat, ?_⟩
  have hname : ∀ letter ∈ first :: others, (letter != '@') = true := by
    intro letter hletter
    rw [bne_iff_ne]
    rintro rfl
    exact hat hletter
  have htake : (first :: (others ++ '@' :: domain)).takeWhile (· != '@') = first :: others := by
    rw [← List.cons_append, List.takeWhile_append_of_pos hname]
    simp
  have hdrop : (first :: (others ++ '@' :: domain)).dropWhile (· != '@') = '@' :: domain := by
    rw [← List.cons_append, List.dropWhile_append_of_pos hname]
    rfl
  obtain ⟨head, tail, rfl⟩ := List.exists_cons_of_ne_nil hdomain
  rw [maskEmail, htake, hdrop]
  rfl

/-! ## Values -/

theorem everyField_put {holds : List Char → Prop} {fields : Dict} {key : String} {value : Value}
    (hfields : EveryField holds fields) (hvalue : EveryText holds value) :
    EveryField holds (Assoc.put fields key value) := by
  induction fields with
  | nil => exact ⟨hvalue, trivial⟩
  | cons field rest ih =>
      obtain ⟨name, other⟩ := field
      rw [Assoc.put]
      split
      · exact ⟨hvalue, hfields.2⟩
      · exact ⟨hfields.1, ih hfields.2⟩

theorem everyText_redactionMarker : EveryText (Clean digits) (.str (String.ofList redactionMarker)) := by
  rw [EveryText, String.toList_ofList]
  exact clean_redactionMarker

theorem redactKeyed_eq {value : Value} (h : SafeKeyed digits value) :
    redactKeyed digits value = maskedKeyed digits value ∧
      EveryText (Clean digits) (maskedKeyed digits value) := by
  cases value with
  | str text =>
      refine ⟨?_, ?_⟩
      · rw [redactKeyed, maskedKeyed, SafeKeyedText.redact_eq h]
      · rw [maskedKeyed, EveryText, String.toList_ofList]
        exact SafeKeyedText.clean h
  | list items =>
      -- The items are masked on their own, each as a whole.
      refine ⟨rfl, ?_⟩
      show EveryItem (Clean digits) (items.map redactListed)
      induction items with
      | nil => trivial
      | cons item rest ih =>
          refine ⟨?_, ih fun text htext => h text (List.mem_cons_of_mem item htext)⟩
          cases item with
          | str text =>
              rw [redactListed]
              split
              · next hfind =>
                rw [EveryText, String.toList_ofList]
                exact clean_maskEmail hfind (h text List.mem_cons_self hfind)
              · exact everyText_redactionMarker
          | _ => exact everyText_redactionMarker
  | _ => exact ⟨rfl, everyText_redactionMarker⟩

end Texts

section Values

variable {digits : DecimalDigits} {lower : String → String}

mutual

/-- A safe value that is not nested too deep is masked in its place, without a match left. -/
theorem redact_eq (value : Value) (depth : Nat) (hdepth : depth + nesting value ≤ 20)
    (h : SafeValue digits lower value) :
    redact digits lower value depth = masked digits lower value ∧
      EveryText (Clean digits) (masked digits lower value) := by
  have hshallow : ¬20 < depth := by omega
  cases value with
  | str text =>
      rw [redact, if_neg hshallow, masked, SafeText.redact_eq h, EveryText, String.toList_ofList]
      exact ⟨rfl, SafeText.clean h⟩
  | list items =>
      rw [nesting] at hdepth
      obtain ⟨heq, hclean⟩ := redactItems_eq items depth (by omega) h
      rw [redact, if_neg hshallow, masked, heq]
      exact ⟨rfl, hclean⟩
  | dict fields =>
      rw [nesting] at hdepth
      obtain ⟨heq, hclean⟩ := @redactFields_eq fields depth [] (by omega) h trivial
      rw [redact, if_neg hshallow, masked, heq]
      exact ⟨rfl, hclean⟩
  | _ => exact ⟨if_neg hshallow, trivial⟩

/-- So are the items of a list. -/
theorem redactItems_eq (items : List Value) (depth : Nat) (hdepth : depth + 1 + nestingItems items ≤ 20)
    (h : SafeItems digits lower items) :
    redactItems digits lower items depth = maskedItems digits lower items ∧
      EveryItem (Clean digits) (maskedItems digits lower items) := by
  cases items with
  | nil => exact ⟨rfl, trivial⟩
  | cons item rest =>
      rw [nestingItems] at hdepth
      obtain ⟨heq, hclean⟩ := redact_eq item (depth + 1) (by omega) h.1
      obtain ⟨hrest, hlater⟩ := redactItems_eq rest depth (by omega) h.2
      rw [redactItems, maskedItems, heq, hrest]
      exact ⟨rfl, hclean, hlater⟩

theorem redactFields_eq (fields : List (String × Value)) (depth : Nat) {out : Dict}
    (hdepth : depth + 1 + nestingFields fields ≤ 20) (h : SafeFields digits lower fields)
    (hout : EveryField (Clean digits) out) :
    redactFields digits lower fields depth out = maskedFields digits lower fields out ∧
      EveryField (Clean digits) (maskedFields digits lower fields out) := by
  cases fields with
  | nil => exact ⟨rfl, hout⟩
  | cons field rest =>
      obtain ⟨key, value⟩ := field
      rw [nestingFields] at hdepth
      obtain ⟨hvalue, hrest⟩ := h
      rw [redactFields, maskedFields]
      by_cases hkey : isPiiKey lower key = true
      · rw [if_pos hkey] at hvalue
        obtain ⟨heq, hclean⟩ := redactKeyed_eq hvalue
        rw [if_pos hkey, if_pos hkey, heq]
        have hput := @everyField_put _ _ key _ hout hclean
        exact redactFields_eq rest depth (by omega) hrest (everyField_put hput trivial)
      · rw [if_neg hkey] at hvalue
        obtain ⟨heq, hclean⟩ := redact_eq value (depth + 1) (by omega) hvalue
        rw [if_neg hkey, if_neg hkey, heq]
        exact redactFields_eq rest depth (by omega) hrest (everyField_put hout hclean)

end

end Values

/-! ## Redaction -/

/-- If no match is replaced elsewhere, and no match is made up of what the masks leave, then each match of a
log is masked in its place, an e-mail address with the first letter of its name, and no match is left. -/
theorem redact_masks {digits : DecimalDigits} {lower : String → String} {value : Value}
    (hdepth : nesting value ≤ 20) (h : SafeValue digits lower value) :
    redact digits lower value 0 = masked digits lower value ∧
      EveryText (Clean digits) (redact digits lower value 0) ∧
      ∀ text found, found ∈ email.findAll text →
        ∃ first others domain, found = first :: (others ++ '@' :: domain) ∧ '@' ∉ first :: others ∧
          maskEmail found = first :: '*' :: '*' :: '*' :: '@' :: domain := by
  have hshallow : 0 + nesting value ≤ 20 := by omega
  obtain ⟨heq, hclean⟩ := redact_eq value 0 hshallow h
  refine ⟨heq, ?_, fun text found hfound => maskEmail_of_mem_findAll hfound⟩
  rw [heq]
  exact hclean

/-- The digits of ASCII, as if there were no others. -/
def asciiDigits : DecimalDigits where
  isDecimal := Char.isDigit
  ascii _ _ := rfl

/-- A log with a text and with one under a key of personal data. -/
def exampleLog : Value :=
  .dict [("note", .str "joe@x.co, joe@x.com or 123 456 789"), ("email", .str "joe@x.co")]

/-- Its texts are masked. -/
theorem redact_masks_exampleLog :
    redact asciiDigits id exampleLog 0 = masked asciiDigits id exampleLog ∧
      EveryText (Clean asciiDigits) (redact asciiDigits id exampleLog 0) ∧
      ∀ text found, found ∈ email.findAll text →
        ∃ first others domain, found = first :: (others ++ '@' :: domain) ∧ '@' ∉ first :: others ∧
          maskEmail found = first :: '*' :: '*' :: '*' :: '@' :: domain := by
  refine redact_masks (by decide) ⟨?_, ?_, trivial⟩
  · rw [if_neg (by decide)]
    exact ⟨by decide, by decide, by unfold PhonesLeaveNone; decide⟩
  · rw [if_pos (by decide)]
    exact ⟨by decide, by unfold EmailsLeaveNone; decide⟩

/-- Texts in which the matches are not masked in their places, and in which a match is left. -/
theorem redaction_misplaced :
    (¬∀ value, nesting value ≤ 20 → redact asciiDigits id value 0 = masked asciiDigits id value) ∧
      ¬∀ value, nesting value ≤ 20 → EveryText (Clean asciiDigits) (redact asciiDigits id value 0) := by
  constructor
  · intro h
    have hsame := Value.str.inj (h (.str "a@b.co xa@b.co") (by decide))
    revert hsame
    decide
  · intro h
    have hclean : Clean asciiDigits _ := h (.str "a@b.co@d.ef") (by decide)
    revert hclean
    decide

end LogRedaction

end IntegrationPlatform
