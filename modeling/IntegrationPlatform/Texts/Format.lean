import Mathlib.Data.List.Basic

/-!
# Format strings

What `string.Formatter().parse` makes of a text, and what `str.format` does with it. The parser is a
machine that reads one character at a time, and its errors are the places at which it raises a
`ValueError`. How a replacement field is rendered is a parameter. `format_spell` says what a template
becomes that has only names in its fields.
-/

namespace IntegrationPlatform

namespace Format

/-! ## Parsing -/

/-- A replacement field. -/
structure Field where
  name : List Char
  conversion : Option Char := none
  spec : List Char := []

/-- What the parser yields: some text, and the replacement field after it. -/
structure Markup where
  literal : List Char
  field : Option Field

/-- Where the parser raises a `ValueError`. -/
inductive FormatError where
  | singleClose
  | singleOpen
  | openInName
  | unclosedName
  | missingConversion
  | expectedColon
  | unclosedSpec
  deriving DecidableEq

/-- What the parser has read of the next markup. -/
inductive Mode where
  | literal (text : List Char)
  /-- After a brace that opens. -/
  | opened (text : List Char)
  /-- After a brace that closes nothing. -/
  | closed (text : List Char)
  | name (text name : List Char)
  /-- In the brackets of a name. -/
  | index (text name : List Char)
  /-- After an exclamation mark. -/
  | bang (text name : List Char)
  | converted (text name : List Char) (conversion : Char)
  /-- In the specification, between so many braces of its own. -/
  | spec (text name : List Char) (conversion : Option Char) (spec : List Char) (depth : Nat)

/-- The markups up to the first error, and the error. -/
abbrev Parsed := List Markup × Option FormatError

/-- One markup more. -/
def Parsed.cons (markup : Markup) (parsed : Parsed) : Parsed :=
  (markup :: parsed.1, parsed.2)

/-- The markups of the rest of a text. -/
def parseFrom : Mode → List Char → Parsed
  | .literal text, [] => (if text.isEmpty then [] else [⟨text, none⟩], none)
  | .literal text, letter :: rest =>
      if letter = '\x7b' then parseFrom (.opened text) rest
      else if letter = '\x7d' then parseFrom (.closed text) rest
      else parseFrom (.literal (text ++ [letter])) rest
  | .opened _, [] => ([], some .singleOpen)
  | .opened text, letter :: rest =>
      -- A brace twice is the brace itself. Anything else begins a name.
      if letter = '\x7b' then .cons ⟨text ++ [letter], none⟩ (parseFrom (.literal []) rest)
      else if letter = '[' then parseFrom (.index text [letter]) rest
      else if letter = '\x7d' then .cons ⟨text, some { name := [] }⟩ (parseFrom (.literal []) rest)
      else if letter = ':' then parseFrom (.spec text [] none [] 0) rest
      else if letter = '!' then parseFrom (.bang text []) rest
      else parseFrom (.name text [letter]) rest
  | .closed _, [] => ([], some .singleClose)
  | .closed text, letter :: rest =>
      if letter = '\x7d' then .cons ⟨text ++ [letter], none⟩ (parseFrom (.literal []) rest)
      else ([], some .singleClose)
  | .name _ _, [] => ([], some .unclosedName)
  | .name text name, letter :: rest =>
      if letter = '\x7b' then ([], some .openInName)
      else if letter = '[' then parseFrom (.index text (name ++ [letter])) rest
      else if letter = '\x7d' then .cons ⟨text, some { name }⟩ (parseFrom (.literal []) rest)
      else if letter = ':' then parseFrom (.spec text name none [] 0) rest
      else if letter = '!' then parseFrom (.bang text name) rest
      else parseFrom (.name text (name ++ [letter])) rest
  | .index _ _, [] => ([], some .unclosedName)
  | .index text name, letter :: rest =>
      if letter = ']' then parseFrom (.name text (name ++ [letter])) rest
      else parseFrom (.index text (name ++ [letter])) rest
  | .bang _ _, [] => ([], some .missingConversion)
  | .bang text name, letter :: rest => parseFrom (.converted text name letter) rest
  | .converted _ _ _, [] => ([], some .unclosedSpec)
  | .converted text name conversion, letter :: rest =>
      if letter = '\x7d' then
        .cons ⟨text, some { name, conversion := some conversion }⟩ (parseFrom (.literal []) rest)
      else if letter = ':' then parseFrom (.spec text name (some conversion) [] 0) rest
      else ([], some .expectedColon)
  | .spec _ _ _ _ _, [] => ([], some .unclosedSpec)
  | .spec text name conversion spec depth, letter :: rest =>
      if letter = '\x7b' then parseFrom (.spec text name conversion (spec ++ [letter]) (depth + 1)) rest
      else if letter = '\x7d' then
        match depth with
        | 0 => .cons ⟨text, some { name, conversion, spec }⟩ (parseFrom (.literal []) rest)
        | depth + 1 => parseFrom (.spec text name conversion (spec ++ [letter]) depth) rest
      else parseFrom (.spec text name conversion (spec ++ [letter]) depth) rest

/-- `Formatter().parse(text)`. -/
def parse (text : List Char) : Parsed :=
  parseFrom (.literal []) text

/-! ## Rendering -/

section Rendering

variable {ε : Type} (render : Field → Except ε (List Char))

/-- The texts of some markups, one after the other. -/
def renderAll : List Markup → Except ε (List Char)
  | [] => .ok []
  | ⟨literal, none⟩ :: rest => (renderAll rest).map (literal ++ ·)
  | ⟨literal, some field⟩ :: rest =>
      (render field).bind fun shown => (renderAll rest).map (literal ++ shown ++ ·)

/-- `text.format`: the fields before an error of the parser are rendered first. -/
def format (raise : FormatError → ε) (text : List Char) : Except ε (List Char) :=
  let parsed := parse text
  (renderAll render parsed.1).bind fun shown =>
    match parsed.2 with
    | some error => .error (raise error)
    | none => .ok shown

end Rendering

/-! ## Templates with names -/

/-- The character is no brace. -/
def Braceless (letter : Char) : Prop := letter ≠ '\x7b' ∧ letter ≠ '\x7d'

/-- The character has no meaning in a replacement field. -/
structure NameChar (letter : Char) : Prop where
  notOpen : letter ≠ '\x7b'
  notClose : letter ≠ '\x7d'
  notBracket : letter ≠ '['
  notColon : letter ≠ ':'
  notBang : letter ≠ '!'

/-- Some text and a name after it. -/
structure Piece where
  literal : List Char
  name : List Char
  braceless : ∀ letter ∈ literal, Braceless letter
  named : name ≠ []
  plain : ∀ letter ∈ name, NameChar letter

/-- A text with names between braces. -/
structure Template where
  pieces : List Piece
  last : List Char
  braceless : ∀ letter ∈ last, Braceless letter

/-- The text of some pieces. -/
def spellPieces : List Piece → List Char → List Char
  | [], last => last
  | piece :: rest, last =>
      piece.literal ++ ['\x7b'] ++ piece.name ++ ['\x7d'] ++ spellPieces rest last

/-- The text of a template. -/
def Template.spell (template : Template) : List Char :=
  spellPieces template.pieces template.last

/-- The pieces with values in the place of the names. -/
def fillPieces (values : List Char → List Char) : List Piece → List Char → List Char
  | [], last => last
  | piece :: rest, last => piece.literal ++ values piece.name ++ fillPieces values rest last

/-- A template with values in the place of its names. -/
def Template.fill (template : Template) (values : List Char → List Char) : List Char :=
  fillPieces values template.pieces template.last

theorem parseFrom_literal_append {text literal rest : List Char}
    (h : ∀ letter ∈ literal, Braceless letter) :
    parseFrom (.literal text) (literal ++ rest) = parseFrom (.literal (text ++ literal)) rest := by
  induction literal generalizing text with
  | nil => simp
  | cons letter literal ih =>
      obtain ⟨hletter, hliteral⟩ := List.forall_mem_cons.mp h
      rw [List.cons_append, parseFrom, if_neg hletter.1, if_neg hletter.2, ih hliteral,
        List.append_assoc, List.singleton_append]

theorem parseFrom_name_append {text begun name rest : List Char}
    (h : ∀ letter ∈ name, NameChar letter) :
    parseFrom (.name text begun) (name ++ '\x7d' :: rest) =
      .cons ⟨text, some { name := begun ++ name }⟩ (parseFrom (.literal []) rest) := by
  induction name generalizing begun with
  | nil =>
      rw [List.nil_append, List.append_nil, parseFrom, if_neg (by decide), if_neg (by decide), if_pos rfl]
  | cons letter name ih =>
      obtain ⟨hletter, hname⟩ := List.forall_mem_cons.mp h
      rw [List.cons_append, parseFrom, if_neg hletter.notOpen, if_neg hletter.notBracket,
        if_neg hletter.notClose, if_neg hletter.notColon, if_neg hletter.notBang, ih hname,
        List.append_assoc, List.singleton_append]

theorem parseFrom_piece (piece : Piece) (rest : List Char) :
    parseFrom (.literal []) (piece.literal ++ ['\x7b'] ++ piece.name ++ ['\x7d'] ++ rest) =
      .cons ⟨piece.literal, some { name := piece.name }⟩ (parseFrom (.literal []) rest) := by
  obtain ⟨literal, name, hliteral, hnamed, hname⟩ := piece
  cases name with
  | nil => exact absurd rfl hnamed
  | cons letter name =>
      obtain ⟨hletter, hrest⟩ := List.forall_mem_cons.mp hname
      dsimp only
      have hspell : literal ++ ['\x7b'] ++ letter :: name ++ ['\x7d'] ++ rest =
          literal ++ '\x7b' :: letter :: (name ++ '\x7d' :: rest) := by simp
      rw [hspell, parseFrom_literal_append hliteral, List.nil_append, parseFrom, if_pos rfl, parseFrom,
        if_neg hletter.notOpen, if_neg hletter.notBracket, if_neg hletter.notClose,
        if_neg hletter.notColon, if_neg hletter.notBang, parseFrom_name_append hrest,
        List.singleton_append]

theorem parse_of_braceless {text : List Char} (h : ∀ letter ∈ text, Braceless letter) :
    parse text = (if text.isEmpty then [] else [⟨text, none⟩], none) := by
  have happend := @parseFrom_literal_append [] text [] h
  rw [List.append_nil] at happend
  rw [parse, happend, List.nil_append, parseFrom]

/-- The markups of a template. -/
def Template.markups (template : Template) : List Markup :=
  template.pieces.map (fun piece => ⟨piece.literal, some { name := piece.name }⟩) ++
    if template.last.isEmpty then [] else [⟨template.last, none⟩]

theorem parse_spell (template : Template) : parse template.spell = (template.markups, none) := by
  obtain ⟨pieces, last, hlast⟩ := template
  unfold Template.spell Template.markups
  induction pieces with
  | nil => exact parse_of_braceless hlast
  | cons piece rest ih =>
      show parseFrom (.literal []) (piece.literal ++ ['\x7b'] ++ piece.name ++ ['\x7d'] ++
        spellPieces rest last) = _
      rw [parseFrom_piece]
      exact congrArg (Parsed.cons _) ih

section Rendering

variable {ε : Type} {render : Field → Except ε (List Char)} {raise : FormatError → ε}

theorem format_eq_ok {text shown : List Char} :
    format render raise text = .ok shown ↔
      renderAll render (parse text).1 = .ok shown ∧ (parse text).2 = none := by
  unfold format
  dsimp only
  cases renderAll render (parse text).1 with
  | error failure => exact iff_of_false (by rintro ⟨⟩) (by rintro ⟨⟨⟩, -⟩)
  | ok texts => cases (parse text).2 <;> simp [Except.bind]

theorem format_of_braceless {text : List Char}
    (h : ∀ letter ∈ text, Braceless letter) : format render raise text = .ok text := by
  rw [format_eq_ok, parse_of_braceless h]
  cases text with
  | nil => exact ⟨rfl, rfl⟩
  | cons letter rest => exact ⟨by simp [renderAll, Except.map], rfl⟩

theorem format_piece (piece : Piece) {value rest shown : List Char}
    (hvalue : render { name := piece.name } = .ok value) (hrest : format render raise rest = .ok shown) :
    format render raise (piece.literal ++ ['\x7b'] ++ piece.name ++ ['\x7d'] ++ rest) =
      .ok (piece.literal ++ value ++ shown) := by
  have hparse : parse (piece.literal ++ ['\x7b'] ++ piece.name ++ ['\x7d'] ++ rest) =
      .cons ⟨piece.literal, some { name := piece.name }⟩ (parse rest) := parseFrom_piece piece rest
  obtain ⟨hall, hend⟩ := format_eq_ok.mp hrest
  rw [format_eq_ok, hparse]
  refine ⟨?_, hend⟩
  show renderAll render (⟨piece.literal, some { name := piece.name }⟩ :: (parse rest).1) = _
  rw [renderAll, hvalue]
  show (renderAll render (parse rest).1).map _ = _
  rw [hall]
  rfl

theorem format_spell {template : Template} {values : List Char → List Char}
    (h : ∀ piece ∈ template.pieces, render { name := piece.name } = .ok (values piece.name)) :
    format render raise template.spell = .ok (template.fill values) := by
  obtain ⟨pieces, last, hlast⟩ := template
  unfold Template.spell Template.fill
  induction pieces with
  | nil => exact format_of_braceless hlast
  | cons piece rest ih =>
      obtain ⟨hpiece, hrest⟩ := List.forall_mem_cons.mp h
      exact format_piece piece hpiece (ih hrest)

end Rendering

example : parse "a\x7bb!r:>\x7bc\x7d\x7d\x7d\x7d".toList =
    ([⟨['a'], some ⟨['b'], some 'r', ">\x7bc\x7d".toList⟩⟩, ⟨['\x7d'], none⟩], none) := by
  rfl

end Format

end IntegrationPlatform
