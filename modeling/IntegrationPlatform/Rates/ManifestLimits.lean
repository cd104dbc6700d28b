import IntegrationPlatform.Connectors.Registry
import IntegrationPlatform.Rates.Limiter

/-!
# The limits of a manifest

`_get_limits` reads the rates in `rate_limits` of the manifest that a name and a version are resolved
to. A rate that `_parse_rate` does not accept counts as none. `limitsOf_written` says that the limiter
of the rate limits that a manifest writes down finds the same limits.
-/

namespace IntegrationPlatform

namespace RateLimiter

open Connectors

/-! ## Rates -/

/-- What Python knows of texts. -/
structure RateTexts where
  /-- `\s`, which is what `strip` removes. -/
  isSpace : Char → Bool
  /-- `\d`. -/
  isDecimal : Char → Bool
  /-- A letter of a pattern matches this one, whatever their case. -/
  sameLetter : Char → Char → Bool
  /-- `text.lower()`. -/
  lower : String → String
  /-- `int(text)`, unless it raises a `ValueError`. -/
  int : String → Option Int

/-- What it knows of ASCII texts. The texts that are read as numbers have digits only. -/
def asciiTexts : RateTexts where
  isSpace := Char.isWhitespace
  isDecimal := Char.isDigit
  sameLetter left right := left.toLower == right.toLower
  lower text := text.map Char.toLower
  int digits :=
    some (digits.toList.foldl (fun number digit => 10 * number + (digit.toNat - 48 : Int)) 0)

def unitSeconds : Assoc Nat :=
  [("s", 1), ("sec", 1), ("min", 60), ("h", 3600), ("hour", 3600)]

/-- What `_parse_rate` raises. -/
inductive RateError where
  | valueError
  | keyError (key : String)

section Texts

variable (texts : RateTexts)

def strip (text : List Char) : List Char :=
  ((text.dropWhile texts.isSpace).reverse.dropWhile texts.isSpace).reverse

/-- A unit of `_RATE_PATTERN`. -/
def isUnit (text : List Char) : Bool :=
  unitSeconds.any fun unit =>
    unit.1.length == text.length &&
      (unit.1.toList.zip text).all fun letters => texts.sameLetter letters.1 letters.2

/-- `_RATE_PATTERN.match(text)`: its two groups. -/
def matchRate (text : List Char) : Option (List Char × List Char) :=
  let count := text.takeWhile texts.isDecimal
  match (text.dropWhile texts.isDecimal).dropWhile texts.isSpace with
  | '/' :: rest =>
      let unit := rest.dropWhile texts.isSpace
      if !count.isEmpty && isUnit texts unit then some (count, unit) else none
  | _ => none

def parseRate (rate : String) : Except RateError RateLimitConfig :=
  match matchRate texts (strip texts rate.toList) with
  | none => .error .valueError
  | some (count, unit) =>
      match texts.int (String.ofList count) with
      | none => .error .valueError
      | some requests =>
          let unit := texts.lower (String.ofList unit)
          match unitSeconds.find unit with
          | none => .error (.keyError unit)
          | some windowSeconds => .ok { requests := requests.toNat, windowSeconds }

/-! ## Limits -/

/-- A rate of a manifest, if it is there and `_parse_rate` accepts it. Only a `ValueError` is
caught. -/
def rateOf : Value → Except String (Option RateLimitConfig)
  | .str text =>
      if text = "" then .ok none
      else
        match parseRate texts text with
        | .ok config => .ok (some config)
        | .error .valueError => .ok none
        | .error (.keyError key) => .error ("'" ++ key ++ "'")
  | rate =>
      if rate.truthy then .error ("'" ++ rate.typeName ++ "' object has no attribute 'strip'")
      else .ok none

/-- The rate of an action, if one is asked for. -/
def actionRate (rateLimits : Dict) (action : Option String) : Except String (Option RateLimitConfig) :=
  match nonempty action with
  | none => .ok none
  | some action =>
      (((rateLimits.find "per_action").getD (.dict [])).get action .null).bind (rateOf texts)

/-- `_get_limits`, for a manifest. -/
def limitsOf (defaultConfig : RateLimitConfig) (rateLimits : Dict) (action : Option String) :
    Except String RateLimitConfig :=
  if rateLimits.isEmpty then .ok defaultConfig
  else
    (actionRate texts rateLimits action).bind fun rate =>
      match rate with
      | some config => .ok config
      | none =>
          (rateOf texts ((rateLimits.find "global").getD .null)).map fun rate =>
            rate.getD defaultConfig

end Texts

/-- What `_get_limits` of a `ConnectorRateLimiter` uses. -/
structure ManifestLimits where
  registry : Option ConnectorRegistry
  texts : RateTexts
  defaultConfig : RateLimitConfig

def ManifestLimits.getLimits (limits : ManifestLimits) (connectorName : String)
    (action connectorVersion : Option String) : Except String RateLimitConfig :=
  match limits.registry with
  | none => .ok limits.defaultConfig
  | some registry =>
      (registry.getByNameVersion connectorName connectorVersion).bind fun manifest =>
        match manifest with
        | none => .ok limits.defaultConfig
        | some manifest => limitsOf limits.texts limits.defaultConfig manifest.rateLimits action

/-! ## Limits that are written down -/

/-- Rate limits as a manifest writes them down. -/
def RateLimits.written (limits : RateLimits) : Dict :=
  ("per_action", .dict (limits.perAction.map fun entry => (entry.1, .str entry.2))) ::
    (limits.globalRate.map fun rate => ("global", .str rate)).toList

theorem rateOf_text {texts : RateTexts}
    (hunits : ∀ text key, parseRate texts text ≠ .error (.keyError key)) (text : Option String) :
    rateOf texts ((text.map Value.str).getD .null) =
      .ok ((nonempty text).bind fun rate => (parseRate texts rate).toOption) := by
  cases text with
  | none => rfl
  | some text =>
      by_cases hempty : text = ""
      · subst hempty
        rfl
      · have hkept : nonempty (some text) = some text := by
          simp [nonempty, Option.filter, hempty]
        rw [hkept]
        show (if text = "" then _ else _) = _
        rw [if_neg hempty]
        cases hparse : parseRate texts text with
        | ok config => simp [hparse, Except.toOption]
        | error error =>
            cases error with
            | valueError => simp [hparse, Except.toOption]
            | keyError key => exact absurd hparse (hunits text key)

theorem find_map_text (perAction : Assoc String) (action : String) :
    Assoc.find (perAction.map fun entry => (entry.1, Value.str entry.2)) action =
      (perAction.find action).map Value.str := by
  induction perAction with
  | nil => rfl
  | cons entry rest ih =>
      obtain ⟨key, rate⟩ := entry
      simp only [List.map_cons, Assoc.find]
      split
      · rfl
      · exact ih

/-- A limiter of the rate limits that a manifest writes down finds the limits of the manifest. -/
theorem limitsOf_written {texts : RateTexts}
    (hunits : ∀ text key, parseRate texts text ≠ .error (.keyError key)) (limiter : Limiter)
    (hparse : ∀ text, limiter.parseRate text = (parseRate texts text).toOption) (call : Call)
    {limits : RateLimits}
    (hlimits : limiter.rateLimits call.connectorName call.connectorVersion = some limits) :
    limitsOf texts limiter.defaultConfig limits.written call.action = .ok (limiter.getLimits call) := by
  have haction : actionRate texts limits.written call.action =
      .ok ((nonempty call.action).bind fun action =>
        (nonempty (limits.perAction.find action)).bind limiter.parseRate) := by
    unfold actionRate
    cases nonempty call.action with
    | none => rfl
    | some action =>
        show (rateOf texts ((Assoc.find (limits.perAction.map _) action).getD .null)) = _
        rw [find_map_text, rateOf_text hunits]
        simp only [Option.bind_some, hparse]
  have hglobal : rateOf texts ((limits.written.find "global").getD .null) =
      .ok ((nonempty limits.globalRate).bind limiter.parseRate) := by
    have hfind : limits.written.find "global" = limits.globalRate.map Value.str := by
      unfold RateLimits.written
      cases limits.globalRate <;> rfl
    rw [hfind, rateOf_text hunits]
    simp only [hparse]
  unfold limitsOf Limiter.getLimits
  rw [hlimits, haction, hglobal]
  dsimp only
  cases (nonempty call.action).bind fun action =>
      (nonempty (limits.perAction.find action)).bind limiter.parseRate with
  | none => rfl
  | some config => rfl

end RateLimiter

end IntegrationPlatform
