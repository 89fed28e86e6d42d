import MusicLibrary.Json.Object
import MusicLibrary.Json.Writer
import Mathlib

/-!
# The grammar of JSON

What a well-formed value is, said without reading it: `Value v` holds of the texts of single values,
from their first to their last character. White space is kept apart (`Spaced`, `Label`), and so
is the question what a text means: a string may hold a surrogate alone, a numeral may have any size
and arrays and objects may nest as deep as they like.
-/

namespace MusicLibrary.Json

/-! ### White space and digits -/

/-- White space and nothing else. -/
def Blank (s : List Char) : Prop := ∀ c ∈ s, isBlank c = true

/-- Digits and nothing else. -/
def Digits (s : List Char) : Prop := ∀ c ∈ s, c.isDigit = true

/-- A numeral in front of the text ends there: the text is not the rest of a longer one. -/
def Ends (r : List Char) : Prop :=
  ∀ c ∈ r.head?, c.isDigit = false ∧ c ≠ '.' ∧ c ≠ 'e' ∧ c ≠ 'E'

theorem Blank.nil : Blank [] := nofun

theorem Blank.append {s t : List Char} (hs : Blank s) (ht : Blank t) : Blank (s ++ t) := by
  intro c hc
  rcases List.mem_append.mp hc with hc | hc
  · exact hs c hc
  · exact ht c hc

theorem blank_cons_iff {c : Char} {s : List Char} : Blank (c :: s) ↔ isBlank c = true ∧ Blank s :=
  List.forall_mem_cons

theorem skipBlanks_blank_append {b : List Char} (hb : Blank b) (s : List Char) :
    skipBlanks (b ++ s) = skipBlanks s :=
  List.dropWhile_append_of_pos hb

theorem skipBlanks_cons {c : Char} (hc : isBlank c = false) (s : List Char) :
    skipBlanks (c :: s) = c :: s :=
  List.dropWhile_cons_of_neg (by rw [hc]; exact Bool.false_ne_true)

theorem skipBlanks_of_blank {b : List Char} (hb : Blank b) : skipBlanks b = [] :=
  List.dropWhile_eq_nil_iff.mpr hb

/-- White space is skipped up to the first other character. -/
theorem skipBlanks_append_cons {b : List Char} (hb : Blank b) {c : Char} (hc : isBlank c = false)
    (s : List Char) : skipBlanks (b ++ c :: s) = c :: s := by
  rw [skipBlanks_blank_append hb, skipBlanks_cons hc]

/-- What is skipped is white space. -/
theorem exists_blank_append (s : List Char) : ∃ b, Blank b ∧ s = b ++ skipBlanks s :=
  ⟨s.takeWhile isBlank, fun _ hc => List.mem_takeWhile_imp hc, List.takeWhile_append_dropWhile.symm⟩

theorem skipBlanks_skipBlanks (s : List Char) : skipBlanks (skipBlanks s) = skipBlanks s := by
  obtain ⟨b, hb, hs⟩ := exists_blank_append s
  conv_rhs => rw [hs, skipBlanks_blank_append hb]

theorem exists_blank_of_skipBlanks {s t : List Char} (h : skipBlanks s = t) :
    ∃ b, Blank b ∧ s = b ++ t := by
  obtain ⟨b, hb, hs⟩ := exists_blank_append s
  exact ⟨b, hb, by rw [← h]; exact hs⟩

theorem blank_of_skipBlanks {s : List Char} (h : skipBlanks s = []) : Blank s :=
  List.dropWhile_eq_nil_iff.mp h

theorem Ends.nil : Ends [] := nofun

theorem ends_cons {c : Char} (hdigit : c.isDigit = false)
    (hc : c ≠ '.' ∧ c ≠ 'e' ∧ c ≠ 'E') (s : List Char) : Ends (c :: s) := by
  intro d hd
  obtain rfl := Option.some.inj hd
  exact ⟨hdigit, hc⟩

/-- No numeral goes on with a white space or a character that stands between values. -/
theorem ends_blank_append {b r : List Char} (hb : Blank b) (hr : Ends r) : Ends (b ++ r) := by
  cases b with
  | nil => exact hr
  | cons c b =>
    obtain ⟨hc, -⟩ := blank_cons_iff.mp hb
    simp only [isBlank, Bool.or_eq_true, beq_iff_eq] at hc
    rcases hc with ((rfl | rfl) | rfl) | rfl <;> exact ends_cons (by decide) (by decide) _

theorem Ends.comma (s : List Char) : Ends (',' :: s) := ends_cons (by decide) (by decide) s

theorem Ends.bracket (s : List Char) : Ends (']' :: s) := ends_cons (by decide) (by decide) s

theorem Ends.brace (s : List Char) : Ends ('}' :: s) := ends_cons (by decide) (by decide) s

/-! ### Numerals -/

/-- The digits before the point. There is no zero before other digits. -/
inductive Whole : List Char → Prop where
  /-- Zero. -/
  | zero : Whole ['0']
  /-- Digits that do not start with zero. -/
  | digits {c : Char} {ds : List Char} : c.isDigit = true → c ≠ '0' → Digits ds → Whole (c :: ds)

/-- The point and the digits after it, or nothing. -/
inductive Fraction : (text digits : List Char) → Prop where
  /-- There is no point. -/
  | absent : Fraction [] []
  /-- There is a point, and at least one digit after it. -/
  | present {ds : List Char} : ds ≠ [] → Digits ds → Fraction ('.' :: ds) ds

/-- The sign of an exponent. -/
inductive Sign : (text : List Char) → (minus : Bool) → Prop where
  /-- There is no sign. -/
  | absent : Sign [] false
  /-- A plus sign. -/
  | plus : Sign ['+'] false
  /-- A minus sign. -/
  | minus : Sign ['-'] true

/-- The value of an exponent. -/
def exponentValue (minus : Bool) (ds : List Char) : ℤ :=
  if minus then -(Nat.ofDigitChars 10 ds 0 : ℤ) else Nat.ofDigitChars 10 ds 0

/-- The exponent, or nothing. -/
inductive Exponent : (text : List Char) → Option ℤ → Prop where
  /-- There is no exponent. -/
  | absent : Exponent [] none
  /-- The letter, a sign if there is one, and at least one digit. -/
  | present {letter : Char} {sign ds : List Char} {minus : Bool} : letter = 'e' ∨ letter = 'E' →
      Sign sign minus → ds ≠ [] → Digits ds →
      Exponent (letter :: (sign ++ ds)) (some (exponentValue minus ds))

/-- A numeral without its minus sign, and its parts. -/
inductive Spells (minus : Bool) : List Char → Numeral → Prop where
  /-- The digits before the point, those after it, and the exponent. -/
  | intro {whole fractionText fraction exponentText : List Char} {exponent : Option ℤ} :
      Whole whole → Fraction fractionText fraction → Exponent exponentText exponent →
      Spells minus (whole ++ (fractionText ++ exponentText)) ⟨minus, whole, fraction, exponent⟩

/-! ### Strings -/

/-- What stands between the quotes of a string. -/
inductive Chars : List Char → Prop where
  /-- Nothing more. -/
  | nil : Chars []
  /-- A character for itself. -/
  | plain {c : Char} {s : List Char} : c ≠ '"' → c ≠ '\\' → ¬ c < ' ' → Chars s → Chars (c :: s)
  /-- An escape of one letter. -/
  | escape {c : Char} {s : List Char} : (simpleEscape? c).isSome → Chars s → Chars ('\\' :: c :: s)
  /-- An escape of four hexadecimal digits; it may be half of a surrogate pair. -/
  | code {a b c d : Char} {s : List Char} : (hexValue? a).isSome → (hexValue? b).isSome →
      (hexValue? c).isSome → (hexValue? d).isSome → Chars s →
      Chars ('\\' :: 'u' :: a :: b :: c :: d :: s)

/-! ### Values with the white space around them -/

/-- A text with the white space around it. -/
@[ext]
structure Spaced where
  /-- The white space in front. -/
  before : List Char
  /-- The text itself. -/
  core : List Char
  /-- The white space behind. -/
  after : List Char
  /-- What is in front is white space. -/
  blank_before : Blank before
  /-- What is behind is white space. -/
  blank_after : Blank after

/-- The whole text. -/
def Spaced.text (p : Spaced) : List Char := p.before ++ (p.core ++ p.after)

/-- A text with no white space around it. -/
def Spaced.tight (core : List Char) : Spaced := ⟨[], core, [], .nil, .nil⟩

@[simp] theorem Spaced.text_tight (core : List Char) : (tight core).text = core :=
  List.append_nil core

/-- The name of a member as it is written, up to the colon. -/
@[ext]
structure Label where
  /-- The white space in front. -/
  before : List Char
  /-- What stands between the quotes. -/
  chars : List Char
  /-- The white space in front of the colon. -/
  gap : List Char
  /-- What is in front is white space. -/
  blank_before : Blank before
  /-- The name is a string. -/
  chars_chars : Chars chars
  /-- What is in front of the colon is white space. -/
  blank_gap : Blank gap

/-- The whole text of a name, with its colon. -/
def Label.text (l : Label) : List Char := l.before ++ '"' :: (l.chars ++ '"' :: (l.gap ++ [':']))

/-- The name that is written: none if what stands between the quotes is the text of no string, since
half of a surrogate pair stands alone in it. -/
def Label.key? (l : Label) : Option String :=
  match readName (l.chars ++ ['"']) with
  | .ok (key, []) => some key
  | _ => none

/-- A member of an object as it is written. -/
@[ext]
structure MemberText where
  /-- The name. -/
  label : Label
  /-- The value, from behind the colon on. -/
  value : Spaced

/-- The whole text of a member. -/
def MemberText.text (m : MemberText) : List Char := m.label.text ++ m.value.text

/-- The name of a member. -/
def MemberText.key? (m : MemberText) : Option String := m.label.key?

/-- What a member says, however its name is spelled and whatever white space stands in it: its name,
and the text of its value. -/
def MemberText.content (m : MemberText) : Option String × List Char := (m.key?, m.value.core)

/-! ### Values -/

/-- The given texts, each behind a comma. -/
def continued (ts : List (List Char)) : List Char := ts.flatMap fun t => ',' :: t

@[simp] theorem continued_nil : continued [] = [] := rfl

@[simp] theorem continued_cons (t : List Char) (ts : List (List Char)) :
    continued (t :: ts) = ',' :: (t ++ continued ts) := rfl

theorem separated_cons (t : List Char) (ts : List (List Char)) :
    separated (t :: ts) = t ++ continued ts := by
  induction ts generalizing t with
  | nil => exact (List.append_nil t).symm
  | cons u ts ih => rw [separated, ih, continued_cons]

/-- A string with the given text between its quotes. -/
def stringText (s : List Char) : List Char := '"' :: (s ++ ['"'])

/-- An array of the given elements. -/
def arrayText (es : List Spaced) : List Char := writeArray (es.map Spaced.text)

/-- An object of the given members. -/
def objectText (ms : List MemberText) : List Char :=
  '{' :: separated (ms.map MemberText.text) ++ ['}']

theorem arrayText_cons (e : Spaced) (es : List Spaced) (r : List Char) :
    arrayText (e :: es) ++ r =
      '[' :: (e.text ++ (continued (es.map Spaced.text) ++ ']' :: r)) := by
  simp [arrayText, writeArray, separated_cons]

theorem objectText_cons (m : MemberText) (ms : List MemberText) (r : List Char) :
    objectText (m :: ms) ++ r =
      '{' :: (m.text ++ (continued (ms.map MemberText.text) ++ '}' :: r)) := by
  simp [objectText, separated_cons]

/-- A well-formed value. -/
inductive Value : List Char → Prop where
  /-- `null`. -/
  | nullWord : Value ['n', 'u', 'l', 'l']
  /-- `true`. -/
  | trueWord : Value ['t', 'r', 'u', 'e']
  /-- `false`. -/
  | falseWord : Value ['f', 'a', 'l', 's', 'e']
  /-- A string. -/
  | string {s : List Char} : Chars s → Value (stringText s)
  /-- A numeral without a sign. -/
  | numeral {s : List Char} {n : Numeral} : Spells false s n → Value s
  /-- A numeral with a minus sign. -/
  | negative {s : List Char} {n : Numeral} : Spells true s n → Value ('-' :: s)
  /-- An array that holds nothing but white space. -/
  | emptyArray {b : List Char} : Blank b → Value ('[' :: (b ++ [']']))
  /-- An array of values. -/
  | array {es : List Spaced} : (∀ e ∈ es, Value e.core) → Value (arrayText es)
  /-- An object that holds nothing but white space. -/
  | emptyObject {b : List Char} : Blank b → Value ('{' :: (b ++ ['}']))
  /-- An object of members with values. -/
  | object {ms : List MemberText} : (∀ m ∈ ms, Value m.value.core) → Value (objectText ms)

/-- A text that holds one well-formed value and white space around it. -/
def IsText (t : List Char) : Prop := ∃ p : Spaced, Value p.core ∧ t = p.text

end MusicLibrary.Json
