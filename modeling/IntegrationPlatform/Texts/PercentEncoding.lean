import Mathlib.Data.List.Basic

/-!
# Percent-encoding

`quote` keeps the bytes of a text that are always safe and writes every other one as two hexadecimal digits.
What comes out has no delimiter of URLs in it, and decodes to the bytes of the text.
-/

namespace IntegrationPlatform

namespace Percent

/-- The bytes of a text in UTF-8. -/
def utf8 (text : String) : List UInt8 :=
  text.toList.flatMap String.utf8EncodeChar

/-- `_ALWAYS_SAFE`: letters, digits and some marks. -/
def alwaysSafe (byte : UInt8) : Bool :=
  (65 ≤ byte && byte ≤ 90) || (97 ≤ byte && byte ≤ 122) || (48 ≤ byte && byte ≤ 57) ||
    byte = 95 || byte = 46 || byte = 45 || byte = 126

/-- The hexadecimal digits. -/
def hexDigit (digit : Nat) : Char :=
  if digit < 10 then Char.ofNat (48 + digit) else Char.ofNat (55 + digit)

/-- The number that a hexadecimal digit stands for. -/
def hexValue (letter : Char) : Option Nat :=
  if '0' ≤ letter && letter ≤ '9' then some (letter.toNat - 48)
  else if 'A' ≤ letter && letter ≤ 'F' then some (letter.toNat - 55)
  else if 'a' ≤ letter && letter ≤ 'f' then some (letter.toNat - 87)
  else none

/-- A byte as it is written. -/
def quoteByte (byte : UInt8) : List Char :=
  if alwaysSafe byte then [Char.ofNat byte.toNat]
  else ['%', hexDigit (byte.toNat / 16), hexDigit (byte.toNat % 16)]

/-- `urllib.parse.quote(text, safe="")`. -/
def quote (text : String) : List Char :=
  (utf8 text).flatMap quoteByte

/-- `urllib.parse.unquote_to_bytes(text)`: a percent sign without two digits stands for itself. -/
def percentDecode : List Char → List UInt8
  | '%' :: high :: low :: rest =>
      match hexValue high, hexValue low with
      | some first, some second => UInt8.ofNat (16 * first + second) :: percentDecode rest
      | _, _ => 37 :: percentDecode (high :: low :: rest)
  | letter :: rest => String.utf8EncodeChar letter ++ percentDecode rest
  | [] => []

/-- The letters that a text has when it is written. -/
def quoted (letter : Char) : Bool :=
  letter.isAlphanum || letter ∈ ['_', '.', '-', '~', '%']

theorem forall_byte {holds : UInt8 → Bool}
    (h : (List.range 256).all (fun number => holds (UInt8.ofNat number)) = true) (byte : UInt8) :
    holds byte = true := by
  have hbyte := List.all_eq_true.mp h byte.toNat (List.mem_range.mpr (UInt8.toNat_lt byte))
  rwa [UInt8.ofNat_toNat] at hbyte

theorem safe_letter {byte : UInt8} (h : alwaysSafe byte = true) :
    Char.ofNat byte.toNat ≠ '%' ∧ String.utf8EncodeChar (Char.ofNat byte.toNat) = [byte] := by
  have hall := @forall_byte (fun byte => !alwaysSafe byte || (Char.ofNat byte.toNat != '%' &&
    String.utf8EncodeChar (Char.ofNat byte.toNat) == [byte])) (by decide +kernel) byte
  simpa [h] using hall

theorem hexValue_digits (byte : UInt8) :
    hexValue (hexDigit (byte.toNat / 16)) = some (byte.toNat / 16) ∧
      hexValue (hexDigit (byte.toNat % 16)) = some (byte.toNat % 16) := by
  have hall := @forall_byte (fun byte => hexValue (hexDigit (byte.toNat / 16)) == some (byte.toNat / 16) &&
    hexValue (hexDigit (byte.toNat % 16)) == some (byte.toNat % 16)) (by decide +kernel) byte
  simpa using hall

theorem quoted_of_mem_quoteByte (byte : UInt8) : ∀ letter ∈ quoteByte byte, quoted letter = true :=
  List.all_eq_true.mp (@forall_byte (fun byte => (quoteByte byte).all quoted) (by decide +kernel) byte)

theorem quoted_of_mem_quote {text : String} {letter : Char} (h : letter ∈ quote text) :
    quoted letter = true := by
  obtain ⟨byte, -, hletter⟩ := List.mem_flatMap.mp h
  exact quoted_of_mem_quoteByte byte letter hletter

theorem percentDecode_letter {letter : Char} (h : letter ≠ '%') (rest : List Char) :
    percentDecode (letter :: rest) = String.utf8EncodeChar letter ++ percentDecode rest := by
  rw [percentDecode]
  rintro high low more rfl
  exact absurd rfl h

theorem percentDecode_quoteByte (byte : UInt8) (rest : List Char) :
    percentDecode (quoteByte byte ++ rest) = byte :: percentDecode rest := by
  unfold quoteByte
  by_cases hsafe : alwaysSafe byte = true
  · obtain ⟨hne, hencode⟩ := safe_letter hsafe
    rw [if_pos hsafe, List.singleton_append, percentDecode_letter hne, hencode]
    rfl
  · obtain ⟨hhigh, hlow⟩ := hexValue_digits byte
    have hnumber : 16 * (byte.toNat / 16) + byte.toNat % 16 = byte.toNat := Nat.div_add_mod _ _
    rw [if_neg hsafe]
    show percentDecode ('%' :: hexDigit (byte.toNat / 16) :: hexDigit (byte.toNat % 16) :: rest) = _
    rw [percentDecode, hhigh, hlow]
    simp only [hnumber, UInt8.ofNat_toNat]

/-- **A text that is written decodes to its bytes.** -/
theorem percentDecode_quote (text : String) : percentDecode (quote text) = utf8 text := by
  unfold quote
  induction utf8 text with
  | nil => rfl
  | cons byte bytes ih => rw [List.flatMap_cons, percentDecode_quoteByte, ih]

end Percent

end IntegrationPlatform
