/-
This file proves that trees with legal texts are written as well-formed documents, also after they
were indented.
-/

import Mathlib.Data.List.Basic
import QuadrantChart.Proofs.Markup.Grammar
import QuadrantChart.Proofs.Markup.Indentation

namespace QuadrantChart

open Markup

namespace Element

/-- Names that the attributes of one tag can have. -/
def AreFieldNames (names : List Text) : Prop :=
  (∀ name ∈ names, isName name = true) ∧ names.Nodup

instance (names : List Text) : Decidable (AreFieldNames names) :=
  inferInstanceAs (Decidable (_ ∧ _))

/-- A tree with proper names and legal values, and with white space between its tags. -/
inductive Legal : Element → Prop where
  | mk {name : Text} {attributes : Attributes} {children : List Element} {text tail : Text}
      (named : isName name = true) (fields : AreFieldNames (attributes.map Prod.fst))
      (values : ∀ value ∈ attributes.map Prod.snd, IsLegalText value)
      (space : IsGap text) (spaceBehind : IsGap tail)
      (legalChildren : ∀ child ∈ children, Legal child) :
      Legal (.mk name attributes children text tail)

theorem isGap_nil : IsGap [] := by
  simp [IsGap]

theorem Legal.plain {name : Text} {attributes : Attributes} {children : List Element}
    (named : isName name = true) (fields : AreFieldNames (attributes.map Prod.fst))
    (values : ∀ value ∈ attributes.map Prod.snd, IsLegalText value)
    (legalChildren : ∀ child ∈ children, Legal child) :
    Legal (.plain name attributes children) :=
  .mk named fields values isGap_nil isGap_nil legalChildren

theorem lineBreak_gap (depth : Nat) : IsGap (lineBreak depth) := by
  intro char member
  rcases List.mem_cons.1 member with rfl | space
  · decide
  · rw [List.eq_of_mem_replicate space]
    decide

theorem respaced_gap {space text : Text} (first : IsGap space) (second : IsGap text) :
    IsGap (respaced space text) := by
  rw [respaced]
  split
  · exact first
  · exact second

theorem Legal.respaceTail {element : Element} (legal : Legal element) (depth : Nat) :
    Legal (respaceTail (lineBreak depth) element) := by
  obtain ⟨named, fields, values, space, spaceBehind, legalChildren⟩ := legal
  exact .mk named fields values space (respaced_gap (lineBreak_gap depth) spaceBehind)
    legalChildren

theorem indentChildren_legal (depth : Nat) (children : List Element)
    (each : ∀ child ∈ children, ∀ depth, Legal (indentFrom depth child)) :
    ∀ child ∈ indentChildren depth children, Legal child := by
  induction children with
  | nil =>
    intro child member
    cases member
  | cons child children inductionHypothesis =>
    obtain ⟨first, others⟩ := List.forall_mem_cons.1 each
    cases children with
    | nil => exact List.forall_mem_singleton.2 ((first _).respaceTail depth)
    | cons next rest =>
      exact List.forall_mem_cons.2 ⟨(first _).respaceTail (depth + 1), inductionHypothesis others⟩

theorem Legal.indentFrom {element : Element} (legal : Legal element) (depth : Nat) :
    Legal (indentFrom depth element) := by
  induction legal generalizing depth with
  | mk named fields values space spaceBehind legalChildren inductionHypothesis =>
    rename_i name attributes children text tail
    cases children with
    | nil => exact .mk named fields values space spaceBehind legalChildren
    | cons child children =>
      exact .mk named fields values (respaced_gap (lineBreak_gap _) space) spaceBehind
        (indentChildren_legal depth _ fun other member depth =>
          inductionHypothesis other member depth)

/-- A character is written as a reference when it could not stand for itself. -/
theorem escapeChar_isValue {char : Char} (legal : isLegal char = true) {rest : Text}
    (value : IsValue rest) : IsValue (escapeChar char ++ rest) := by
  have named (name : Text) (known : name ∈ entities) : IsValue ('&' :: name ++ [';'] ++ rest) :=
    .reference (.named known) value
  have numbered (digits : Text) (nonempty : digits ≠ [])
      (decimal : digits.all Char.isDigit = true)
      (legal : Text.inRanges charRanges (Numeral.digitsValue digits) = true) :
      IsValue ('&' :: '#' :: digits ++ [';'] ++ rest) :=
    .reference (.numbered nonempty (List.all_eq_true.1 decimal) legal) value
  unfold escapeChar
  split
  · exact named ['a', 'm', 'p'] (by decide)
  · exact named ['l', 't'] (by decide)
  · exact named ['g', 't'] (by decide)
  · exact named ['q', 'u', 'o', 't'] (by decide)
  · exact numbered ['1', '3'] (by decide) (by decide) (by decide)
  · exact numbered ['1', '0'] (by decide) (by decide) (by decide)
  · exact numbered ['0', '9'] (by decide) (by decide) (by decide)
  · rename_i notAmp notLess _ notQuote _ _ _
    have plain : char ∉ ['<', '&', '"'] := by
      simp only [List.mem_cons, List.not_mem_nil, or_false]
      rintro (less | amp | quote)
      · exact notLess less
      · exact notAmp amp
      · exact notQuote quote
    exact .char legal plain value

theorem escape_isValue {value : Text} (legal : IsLegalText value) : IsValue (escape value) := by
  induction value with
  | nil => exact .nil
  | cons char rest inductionHypothesis =>
    obtain ⟨first, others⟩ := isLegalText_cons.1 legal
    exact escapeChar_isValue first (inductionHypothesis others)

theorem attributes_isFields {attributes : Attributes}
    (fields : ∀ field ∈ attributes.map Prod.fst, isName field = true)
    (values : ∀ value ∈ attributes.map Prod.snd, IsLegalText value) :
    IsFields (attributes.map Prod.fst) (attributes.flatMap attributeText) := by
  induction attributes with
  | nil => exact .nil
  | cons field attributes inductionHypothesis =>
    obtain ⟨name, value⟩ := field
    obtain ⟨named, otherFields⟩ := List.forall_mem_cons.1 fields
    obtain ⟨legal, otherValues⟩ := List.forall_mem_cons.1 values
    have gap : IsGap [' '] := by simp [IsGap]
    have whole := IsFields.cons (by simp) gap named (escape_isValue legal)
      (inductionHypothesis otherFields otherValues)
    simpa [attributeText] using whole

theorem head_isHead {name : Text} {attributes : Attributes} (named : isName name = true)
    (fields : AreFieldNames (attributes.map Prod.fst))
    (values : ∀ value ∈ attributes.map Prod.snd, IsLegalText value) {gap : Text}
    (space : IsGap gap) : IsHead name (head name attributes ++ gap) where
  named := named
  parts := ⟨_, _, gap, attributes_isFields fields.1 values, fields.2, space, rfl⟩

/-- White space is not escaped between elements. -/
theorem escapeContent_gap {text : Text} (space : IsGap text) : escapeContent text = text := by
  have kept : ∀ char ∈ text, escapeContentChar char = [char] := by
    have each : [' ', '\t', '\r', '\n'].all (fun char => escapeContentChar char = [char]) := by
      decide
    exact fun char member => of_decide_eq_true (List.all_eq_true.1 each char (space char member))
  rw [escapeContent, List.flatMap_congr kept, List.flatMap_singleton']

theorem gap_content {gap : Text} (space : IsGap gap) {rest : Text}
    (others : IsMarkup .content rest) : IsMarkup .content (gap ++ rest) := by
  induction gap with
  | nil => exact others
  | cons char gap inductionHypothesis =>
    obtain ⟨first, more⟩ := List.forall_mem_cons.1 space
    have each : [' ', '\t', '\r', '\n'].all (fun char =>
        isLegal char = true ∧ char ∉ ['<', '&', '>']) := by decide
    obtain ⟨legal, plain⟩ := of_decide_eq_true (List.all_eq_true.1 each char first)
    exact .char legal plain (inductionHypothesis more)

theorem Legal.gapTail {element : Element} (legal : Legal element) : IsGap element.tail := by
  cases legal
  assumption

/-- A text that is an element with white space behind it. -/
def WritesMarkup (element : Element) : Prop :=
  ∃ text, element.written = text ++ element.tail ∧ IsMarkup .element text

theorem writtenAll_content {children : List Element} (legal : ∀ child ∈ children, Legal child)
    (each : ∀ child ∈ children, WritesMarkup child) : IsMarkup .content (writtenAll children) := by
  induction children with
  | nil => exact .nil
  | cons child children inductionHypothesis =>
    obtain ⟨legalChild, legalOthers⟩ := List.forall_mem_cons.1 legal
    obtain ⟨⟨text, written, markup⟩, others⟩ := List.forall_mem_cons.1 each
    rw [writtenAll, written, List.append_assoc]
    exact .element markup (gap_content legalChild.gapTail (inductionHypothesis legalOthers others))

theorem Legal.writesMarkup {element : Element} (legal : Legal element) : WritesMarkup element := by
  induction legal with
  | mk named fields values space spaceBehind legalChildren inductionHypothesis =>
    rename_i name attributes children text tail
    have opens {gap : Text} (space : IsGap gap) := head_isHead named fields values space
    have content := writtenAll_content legalChildren inductionHypothesis
    rw [WritesMarkup, written, escapeContent_gap spaceBehind, escapeContent_gap space]
    by_cases empty : (text.isEmpty && children.isEmpty) = true
    · have slash : IsGap [' '] := by simp [IsGap]
      refine ⟨_, rfl, ?_⟩
      have whole := IsMarkup.empty (opens slash)
      rw [if_pos empty]
      simpa using whole
    · refine ⟨_, rfl, ?_⟩
      have whole := IsMarkup.nested (opens isGap_nil) (gap_content space content) isGap_nil
      rw [if_neg empty]
      simpa using whole

/-- A legal tree is written as a document. -/
theorem Legal.document {element : Element} (legal : Legal element) :
    IsDocument element.document := by
  obtain ⟨text, written, markup⟩ := legal.writesMarkup
  have lineEnd : IsGap ['\n'] := by simp [IsGap]
  obtain ⟨declaration, known, line⟩ : ∃ declaration ∈ declarations,
      "<?xml version=\"1.0\" encoding=\"UTF-8\"?>\n".toList = declaration ++ ['\n'] :=
    ⟨_, .tail _ (.tail _ (.head _)), by decide +kernel⟩
  refine ⟨declaration, known, ['\n'], text, element.tail ++ ['\n'], lineEnd, markup,
    List.forall_mem_append.2 ⟨legal.gapTail, lineEnd⟩, ?_⟩
  have whole : element.document =
      "<?xml version=\"1.0\" encoding=\"UTF-8\"?>\n".toList ++ element.written ++ ['\n'] := rfl
  rw [whole, line, written]
  simp only [List.append_assoc]

end Element

end QuadrantChart
