/-
This file defines well-formed documents of XML 1.0 and the characters that they may contain. It
leaves out what is optional in a document: comments, instructions, literal sections and document
types.
-/

import QuadrantChart.Binary64.Reading

namespace QuadrantChart

namespace Markup

/-- The characters that a document may contain. -/
def charRanges : List (Nat × Nat) :=
  [(0x09, 0x0A), (0x0D, 0x0D), (0x20, 0xD7FF), (0xE000, 0xFFFD), (0x10000, 0x10FFFF)]

def isLegal (char : Char) : Bool :=
  Text.inRanges charRanges char.toNat

/-- A text of characters that a document may contain. -/
def IsLegalText (text : Text) : Prop :=
  ∀ char ∈ text, isLegal char = true

instance (text : Text) : Decidable (IsLegalText text) :=
  decidable_of_iff (text.all isLegal = true) List.all_eq_true

/-- The characters that a name begins with. -/
def initialRanges : List (Nat × Nat) :=
  [(0x3A, 0x3A), (0x41, 0x5A), (0x5F, 0x5F), (0x61, 0x7A), (0xC0, 0xD6), (0xD8, 0xF6),
    (0xF8, 0x2FF), (0x370, 0x37D), (0x37F, 0x1FFF), (0x200C, 0x200D), (0x2070, 0x218F),
    (0x2C00, 0x2FEF), (0x3001, 0xD7FF), (0xF900, 0xFDCF), (0xFDF0, 0xFFFD), (0x10000, 0xEFFFF)]

def nameRanges : List (Nat × Nat) :=
  initialRanges ++ [(0x2D, 0x2E), (0x30, 0x39), (0xB7, 0xB7), (0x300, 0x36F), (0x203F, 0x2040)]

def isName : Text → Bool
  | [] => false
  | first :: rest =>
    Text.inRanges initialRanges first.toNat &&
      rest.all fun char => Text.inRanges nameRanges char.toNat

/-- White space, which may be empty. -/
def IsGap (text : Text) : Prop :=
  ∀ char ∈ text, char ∈ [' ', '\t', '\r', '\n']

/-- The characters that have names without being declared. -/
def entities : List Text :=
  ["amp", "lt", "gt", "quot", "apos"].map String.toList

/-- A reference says the name or the number of a legal character. -/
inductive IsReference : Text → Prop where
  | named {name : Text} (known : name ∈ entities) : IsReference ('&' :: name ++ [';'])
  | numbered {digits : Text} (nonempty : digits ≠ [])
      (decimal : ∀ digit ∈ digits, digit.isDigit = true)
      (legal : Text.inRanges charRanges (Numeral.digitsValue digits) = true) :
      IsReference ('&' :: '#' :: digits ++ [';'])

/-- What may stand between the quotation marks of a value. -/
inductive IsValue : Text → Prop where
  | nil : IsValue []
  | char {char : Char} {rest : Text} (legal : isLegal char = true)
      (plain : char ∉ ['<', '&', '"']) (value : IsValue rest) : IsValue (char :: rest)
  | reference {reference rest : Text} (refers : IsReference reference) (value : IsValue rest) :
      IsValue (reference ++ rest)

/-- The attributes of a tag, which have the given names. -/
inductive IsFields : List Text → Text → Prop where
  | nil : IsFields [] []
  | cons {gap name value rest : Text} {names : List Text} (nonempty : gap ≠ []) (space : IsGap gap)
      (named : isName name = true) (quoted : IsValue value) (others : IsFields names rest) :
      IsFields (name :: names) (gap ++ name ++ '=' :: '"' :: value ++ '"' :: rest)

/-- The inside of the first tag of an element. No name of an attribute occurs twice. -/
structure IsHead (name head : Text) : Prop where
  named : isName name = true
  parts : ∃ names fields gap, IsFields names fields ∧ names.Nodup ∧ IsGap gap ∧
    head = name ++ fields ++ gap

inductive Part where
  | element
  | content

/-- Elements, and the content of elements. The last tag of an element repeats the name in the
first one. -/
inductive IsMarkup : Part → Text → Prop where
  | empty {name head : Text} (opens : IsHead name head) :
      IsMarkup .element ('<' :: head ++ ['/', '>'])
  | nested {name head content gap : Text} (opens : IsHead name head)
      (inner : IsMarkup .content content) (space : IsGap gap) :
      IsMarkup .element ('<' :: head ++ '>' :: content ++ '<' :: '/' :: name ++ gap ++ ['>'])
  | nil : IsMarkup .content []
  | char {char : Char} {rest : Text} (legal : isLegal char = true)
      (plain : char ∉ ['<', '&', '>']) (others : IsMarkup .content rest) :
      IsMarkup .content (char :: rest)
  | reference {reference rest : Text} (refers : IsReference reference)
      (others : IsMarkup .content rest) : IsMarkup .content (reference ++ rest)
  | element {element rest : Text} (first : IsMarkup .element element)
      (others : IsMarkup .content rest) : IsMarkup .content (element ++ rest)

/-- A document may go without a declaration. -/
def declarations : List Text :=
  ["", "<?xml version=\"1.0\"?>", "<?xml version=\"1.0\" encoding=\"UTF-8\"?>"].map String.toList

/-- A well-formed document has one element, with white space around it. -/
def IsDocument (text : Text) : Prop :=
  ∃ declaration ∈ declarations, ∃ before element after, IsGap before ∧
    IsMarkup .element element ∧ IsGap after ∧ text = declaration ++ before ++ element ++ after

@[simp]
theorem isLegalText_nil : IsLegalText [] := by
  simp [IsLegalText]

@[simp]
theorem isLegalText_cons {char : Char} {rest : Text} :
    IsLegalText (char :: rest) ↔ isLegal char = true ∧ IsLegalText rest :=
  List.forall_mem_cons

@[simp]
theorem isLegalText_append {first second : Text} :
    IsLegalText (first ++ second) ↔ IsLegalText first ∧ IsLegalText second :=
  List.forall_mem_append

theorem isName_legal {name : Text} (named : isName name = true) : IsLegalText name := by
  have legal (char : Char) (proper : Text.inRanges nameRanges char.toNat = true) :
      isLegal char = true := by
    simp [Text.inRanges, nameRanges, initialRanges, isLegal, charRanges] at proper ⊢
    omega
  cases name with
  | nil => exact isLegalText_nil
  | cons first rest =>
    rw [isName, Bool.and_eq_true, List.all_eq_true] at named
    have initial : Text.inRanges nameRanges first.toNat = true := by
      rw [Text.inRanges, nameRanges, List.any_append, Bool.or_eq_true]
      exact .inl named.1
    exact isLegalText_cons.2
      ⟨legal first initial, fun char member => legal char (named.2 char member)⟩

theorem IsGap.legal {gap : Text} (space : IsGap gap) : IsLegalText gap := by
  have each : ∀ char ∈ [' ', '\t', '\r', '\n'], isLegal char = true :=
    List.all_eq_true.1 (by decide)
  exact fun char member => each char (space char member)

/-- The characters between the parts of markup. -/
theorem mark_legal :
    ∀ char ∈ ['&', '#', ';', '=', '"', '<', '>', '/'], isLegal char = true :=
  List.all_eq_true.1 (by decide)

theorem digit_legal (char : Char) (digit : char.isDigit = true) : isLegal char = true := by
  simp only [Char.isDigit, Bool.and_eq_true, decide_eq_true_eq] at digit
  have lower : 48 ≤ char.toNat := digit.1
  have upper : char.toNat ≤ 57 := digit.2
  simp [isLegal, charRanges, Text.inRanges]
  omega

theorem IsReference.legal {reference : Text} (refers : IsReference reference) :
    IsLegalText reference := by
  cases refers with
  | named known =>
    have each : ∀ name ∈ entities, name.all isLegal = true := by decide +kernel
    have name : IsLegalText _ := List.all_eq_true.1 (each _ known)
    simp [mark_legal, name]
  | numbered nonempty decimal legal =>
    have digits : IsLegalText _ := fun digit member => digit_legal digit (decimal digit member)
    simp [mark_legal, digits]

theorem IsValue.legal {value : Text} (quoted : IsValue value) : IsLegalText value := by
  induction quoted with
  | nil => exact isLegalText_nil
  | char legal plain value inductionHypothesis =>
    exact isLegalText_cons.2 ⟨legal, inductionHypothesis⟩
  | reference refers value inductionHypothesis =>
    exact isLegalText_append.2 ⟨refers.legal, inductionHypothesis⟩

theorem IsFields.legal {names : List Text} {fields : Text} (listed : IsFields names fields) :
    IsLegalText fields := by
  induction listed with
  | nil => exact isLegalText_nil
  | cons nonempty space named quoted others inductionHypothesis =>
    simp [mark_legal, space.legal, isName_legal named, quoted.legal, inductionHypothesis]

theorem IsHead.legal {name head : Text} (opens : IsHead name head) : IsLegalText head := by
  obtain ⟨names, fields, gap, listed, -, space, rfl⟩ := opens.parts
  simp [isName_legal opens.named, listed.legal, space.legal]

/-- Markup is made of legal characters only. -/
theorem IsMarkup.legal {part : Part} {text : Text} (markup : IsMarkup part text) :
    IsLegalText text := by
  induction markup with
  | empty opens => simp [mark_legal, opens.legal]
  | nested opens inner space inductionHypothesis =>
    simp [mark_legal, opens.legal, inductionHypothesis, isName_legal opens.named, space.legal]
  | nil => exact isLegalText_nil
  | char legal plain others inductionHypothesis =>
    exact isLegalText_cons.2 ⟨legal, inductionHypothesis⟩
  | reference refers others inductionHypothesis =>
    exact isLegalText_append.2 ⟨refers.legal, inductionHypothesis⟩
  | element first others firstLegal othersLegal =>
    exact isLegalText_append.2 ⟨firstLegal, othersLegal⟩

theorem IsDocument.legal {text : Text} (document : IsDocument text) : IsLegalText text := by
  obtain ⟨declaration, known, before, element, after, spaceBefore, markup, spaceAfter, rfl⟩ :=
    document
  have each : ∀ declaration ∈ declarations, declaration.all isLegal = true := by decide +kernel
  have legal : IsLegalText declaration := List.all_eq_true.1 (each _ known)
  simp [legal, spaceBefore.legal, markup.legal, spaceAfter.legal]

end Markup

end QuadrantChart
