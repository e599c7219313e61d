/-
This file proves that joined styles override one another key by key, and that the table of a style
holds what its items say, in whatever order and spacing they are written.
-/

import Mathlib.Data.List.Nodup
import QuadrantChart.Preview.StyleTable
import QuadrantChart.Proofs.Text.Split
import QuadrantChart.Proofs.Text.Trim

namespace QuadrantChart

namespace Text

/-- A separator ends the last part of what stands before it. -/
theorem splitOn_separated (separator : Char) (first second : Text) :
    splitOn separator (first ++ separator :: second) =
      splitOn separator first ++ splitOn separator second := by
  induction first with
  | nil => simp [splitOn]
  | cons char rest inductionHypothesis =>
    rw [List.cons_append, splitOn, splitOn, inductionHypothesis]
    split
    · rfl
    · obtain ⟨part, others, parts⟩ := List.exists_cons_of_ne_nil (splitOn_nonempty separator rest)
      rw [parts]
      rfl

theorem splitFirst_clean {separator : Char} {text : Text} (clean : separator ∉ text) :
    splitFirst separator text = none := by
  induction text with
  | nil => rfl
  | cons first rest inductionHypothesis =>
    rw [List.mem_cons, not_or] at clean
    rw [splitFirst, if_neg (Ne.symm clean.1), inductionHypothesis clean.2]
    rfl

/-- Nothing is left of a text of blank characters. -/
theorem trim_space {space : Text} (blank : ∀ char ∈ space, isBlank char = true) :
    trim space = [] := by
  rw [← List.append_nil space, trim_blank_append space [] blank]
  rfl

end Text

namespace StyleTable

variable {key other value : Text} {table : StyleTable} {style : Text}

theorem find?_cons :
    find? ((key, value) :: table) other =
      if other = key then some value else table.find? other := by
  by_cases same : other = key
  · simp [find?, same]
  · have differs : (other == key) = false := beq_eq_false_iff_ne.2 same
    simp [find?, List.lookup_cons, differs, same]

/-- Setting a key changes the value of no other one. -/
theorem find?_insert :
    (table.insert key value).find? other =
      if other = key then some value else table.find? other := by
  induction table with
  | nil => rw [insert, find?_cons]
  | cons item rest inductionHypothesis =>
    obtain ⟨first, old⟩ := item
    rw [insert]
    by_cases same : key = first
    · rw [if_pos same, same, find?_cons, find?_cons]
      by_cases isFirst : other = first <;> simp [isFirst]
    by_cases below : key < first
    · rw [if_neg same, if_pos below, find?_cons]
    · rw [if_neg same, if_neg below, find?_cons, find?_cons, inductionHypothesis]
      by_cases isFirst : other = first
      · simp [isFirst, Ne.symm same]
      · simp [isFirst]

/-- The last item of a key counts, and before all items the table does. -/
theorem find?_foldl (items : List (Text × Text)) :
    (items.foldl (fun table item => table.insert item.1 item.2) table).find? key =
      (items.reverse.lookup key).or (table.find? key) := by
  induction items generalizing table with
  | nil => rfl
  | cons item items inductionHypothesis =>
    rw [List.foldl_cons, inductionHypothesis, List.reverse_cons, List.lookup_append,
      Option.or_assoc, find?_insert]
    have single : List.lookup key [item] = if key = item.1 then some item.2 else none :=
      find?_cons
    rw [single]
    by_cases same : key = item.1 <;> simp [same]

theorem find?_ofStyle : (ofStyle style).find? key = (items style).reverse.lookup key := by
  rw [ofStyle, find?_foldl]
  exact Option.or_none

theorem items_separated (first second : Text) :
    items (first ++ ';' :: second) = items first ++ items second := by
  rw [items, Text.splitOn_separated, List.filterMap_append]
  rfl

/-- Of two joined styles, the second one overrides the first one key by key. -/
theorem find?_separated (first second : Text) :
    (ofStyle (first ++ ';' :: second)).find? key =
      ((ofStyle second).find? key).or ((ofStyle first).find? key) := by
  rw [find?_ofStyle, find?_ofStyle, find?_ofStyle, items_separated, List.reverse_append,
    List.lookup_append]

/-- A table in the order of its keys, of which each occurs once. -/
def Ascending (table : StyleTable) : Prop :=
  table.Pairwise fun item other => item.1 < other.1

theorem mem_insert {item : Text × Text} (member : item ∈ table.insert key value) :
    item = (key, value) ∨ item ∈ table := by
  induction table with
  | nil => exact .inl (List.mem_singleton.1 member)
  | cons first rest inductionHypothesis =>
    rw [insert] at member
    split_ifs at member with same below
    · rcases List.mem_cons.1 member with set | kept
      · exact .inl set
      · exact .inr (List.mem_cons_of_mem _ kept)
    · exact List.mem_cons.1 member
    · rcases List.mem_cons.1 member with isFirst | later
      · exact .inr (isFirst ▸ List.mem_cons_self)
      · exact (inductionHypothesis later).imp_right (List.mem_cons_of_mem _)

theorem Ascending.insert (ascending : table.Ascending) (key value : Text) :
    (table.insert key value).Ascending := by
  induction table with
  | nil => exact List.pairwise_singleton _ _
  | cons first rest inductionHypothesis =>
    obtain ⟨below, restAscending⟩ := List.pairwise_cons.1 ascending
    rw [StyleTable.insert]
    split_ifs with same before
    · subst same
      exact List.pairwise_cons.2 ⟨below, restAscending⟩
    · refine List.pairwise_cons.2 ⟨fun item member => ?_, ascending⟩
      rcases List.mem_cons.1 member with rfl | later
      · exact before
      · exact List.lt_trans before (below item later)
    · refine List.pairwise_cons.2 ⟨fun item member => ?_, inductionHypothesis restAscending⟩
      rcases mem_insert member with rfl | kept
      · exact Decidable.byContradiction fun notAfter =>
          same (Std.Trichotomous.trichotomous (r := (· < ·)) _ _ before notAfter)
      · exact below item kept

theorem ofStyle_ascending (style : Text) : (ofStyle style).Ascending := by
  have fold (items : List (Text × Text)) (table : StyleTable) (ascending : table.Ascending) :
      (items.foldl (fun table item => table.insert item.1 item.2) table).Ascending := by
    induction items generalizing table with
    | nil => exact ascending
    | cons item items inductionHypothesis =>
      exact inductionHypothesis _ (ascending.insert item.1 item.2)
  exact fold (items style) [] .nil

theorem Ascending.distinct (ascending : table.Ascending) : (table.map Prod.fst).Nodup := by
  refine List.pairwise_map.2 (ascending.imp fun before same => ?_)
  rw [same] at before
  exact List.lt_irrefl _ before

/-- Where no key occurs twice, each item is found. -/
theorem find?_iff_mem (distinct : (table.map Prod.fst).Nodup) :
    table.find? key = some value ↔ (key, value) ∈ table := by
  induction table with
  | nil => simp [find?]
  | cons item rest inductionHypothesis =>
    obtain ⟨first, old⟩ := item
    obtain ⟨fresh, restDistinct⟩ := List.nodup_cons.1 distinct
    rw [find?_cons, List.mem_cons, Prod.mk.injEq]
    by_cases same : key = first
    · subst same
      have absent : (key, value) ∉ rest :=
        fun member => fresh (List.mem_map.2 ⟨_, member, rfl⟩)
      simp [absent, eq_comm]
    · simp [same, inductionHypothesis restDistinct]

/-- A text that can be the key of an item. -/
structure IsKey (key : Text) : Prop where
  nonempty : key ≠ []
  trimmed : Text.trim key = key
  unseparated : ';' ∉ key
  unassigned : '=' ∉ key

/-- A text that can be the value of an item. It may have the sign that follows a key. -/
structure IsValue (value : Text) : Prop where
  trimmed : Text.trim value = value
  unseparated : ';' ∉ value

def IsSpace (space : Text) : Prop :=
  ∀ char ∈ space, Text.isBlank char = true

instance (key : Text) : Decidable (IsKey key) :=
  decidable_of_iff (key ≠ [] ∧ Text.trim key = key ∧ ';' ∉ key ∧ '=' ∉ key)
    ⟨fun ⟨nonempty, trimmed, unseparated, unassigned⟩ =>
      ⟨nonempty, trimmed, unseparated, unassigned⟩,
    fun isKey => ⟨isKey.nonempty, isKey.trimmed, isKey.unseparated, isKey.unassigned⟩⟩

instance (value : Text) : Decidable (IsValue value) :=
  decidable_of_iff (Text.trim value = value ∧ ';' ∉ value)
    ⟨fun ⟨trimmed, unseparated⟩ => ⟨trimmed, unseparated⟩,
    fun isValue => ⟨isValue.trimmed, isValue.unseparated⟩⟩

instance (space : Text) : Decidable (IsSpace space) :=
  decidable_of_iff (space.all Text.isBlank = true) List.all_eq_true

/-- The ways to write an item, with white space around its key and its value. A key by itself has
the value one, and there may be no item at all. -/
inductive Writes : Text → Option (Text × Text) → Prop
  | nothing {space : Text} (blank : IsSpace space) : Writes space none
  | word {key before behind : Text} (isKey : IsKey key) (beforeBlank : IsSpace before)
      (behindBlank : IsSpace behind) : Writes (before ++ key ++ behind) (some (key, ['1']))
  | pair {key value before after between behind : Text} (isKey : IsKey key)
      (isValue : IsValue value) (beforeBlank : IsSpace before) (afterBlank : IsSpace after)
      (betweenBlank : IsSpace between) (behindBlank : IsSpace behind) :
      Writes (before ++ key ++ after ++ '=' :: (between ++ value ++ behind)) (some (key, value))

theorem IsSpace.lacks {space : Text} (blank : IsSpace space) {char : Char}
    (visible : Text.isBlank char = false) : char ∉ space := by
  intro member
  rw [blank char member] at visible
  cases visible

theorem IsSpace.trim_around {before behind : Text} (beforeBlank : IsSpace before)
    (behindBlank : IsSpace behind) (text : Text) :
    Text.trim (before ++ text ++ behind) = Text.trim text := by
  rw [Text.trim_append_blank _ _ behindBlank, Text.trim_blank_append _ _ beforeBlank]

/-- A key, with the sign that follows it, begins and ends with a visible character. -/
theorem IsKey.visibleEnds (isKey : IsKey key) (after : Text) :
    Text.VisibleEnds (key ++ after ++ ['=']) where
  first := by
    obtain ⟨first, rest, rfl⟩ := List.exists_cons_of_ne_nil isKey.nonempty
    have visible := Text.visible_of_trimmed isKey.trimmed
    simp [visible]
  last := by
    have visible : Text.isBlank '=' = false := by decide
    simp [visible]

/-- An item is read as it was written. -/
theorem Writes.item {part : Text} {item : Option (Text × Text)} (writes : Writes part item) :
    item? part = item := by
  cases writes with
  | nothing blank =>
    rw [item?, Text.trim_space blank]
    rfl
  | @word key before behind isKey beforeBlank behindBlank =>
    have shown : key.isEmpty = false := List.isEmpty_eq_false_iff.2 isKey.nonempty
    rw [item?, beforeBlank.trim_around behindBlank, isKey.trimmed]
    simp only [shown, Text.splitFirst_clean isKey.unassigned, Bool.false_eq_true, if_false]
  | @pair key value before after between behind isKey isValue beforeBlank afterBlank betweenBlank
      behindBlank =>
    have apart : '=' ∉ key ++ after := by
      rw [List.mem_append, not_or]
      exact ⟨isKey.unassigned, afterBlank.lacks (by decide)⟩
    -- Only the white space behind the value is trimmed off, or that behind the sign.
    obtain ⟨kept, space, parts, spaceBlank, trimmed⟩ :=
      (isKey.visibleEnds after).trim_append (between ++ value ++ behind)
    have whole : Text.trim (before ++ key ++ after ++ '=' :: (between ++ value ++ behind)) =
        key ++ after ++ '=' :: kept := by
      have regrouped : before ++ key ++ after ++ '=' :: (between ++ value ++ behind) =
          before ++ (key ++ after ++ ['='] ++ (between ++ value ++ behind)) := by
        simp only [List.append_assoc, List.singleton_append]
      rw [regrouped, Text.trim_blank_append _ _ beforeBlank, trimmed]
      simp only [List.append_assoc, List.singleton_append]
    have shown : (key ++ after ++ '=' :: kept).isEmpty = false := by simp
    have keyRead : Text.trim (key ++ after) = key := by
      rw [Text.trim_append_blank _ _ afterBlank, isKey.trimmed]
    have valueRead : Text.trim kept = value := by
      rw [← Text.trim_append_blank kept space spaceBlank, ← parts,
        betweenBlank.trim_around behindBlank, isValue.trimmed]
    rw [item?, whole]
    simp only [shown, Text.splitFirst_append apart, keyRead, valueRead, Bool.false_eq_true,
      if_false]

/-- A written item stays one part of a style. -/
theorem Writes.unseparated {part : Text} {item : Option (Text × Text)} (writes : Writes part item) :
    ';' ∉ part := by
  have visible : Text.isBlank ';' = false := by decide
  cases writes with
  | nothing blank => exact blank.lacks visible
  | word isKey beforeBlank behindBlank =>
    simp [beforeBlank.lacks visible, isKey.unseparated, behindBlank.lacks visible]
  | pair isKey isValue beforeBlank afterBlank betweenBlank behindBlank =>
    simp [beforeBlank.lacks visible, isKey.unseparated, afterBlank.lacks visible,
      betweenBlank.lacks visible, isValue.unseparated, behindBlank.lacks visible]

variable {parts : List Text} {written : List (Option (Text × Text))}

/-- The items of a style are those that its parts write. -/
theorem items_join (nonempty : parts ≠ []) (each : List.Forall₂ Writes parts written) :
    items (Text.join [';'] parts) = written.filterMap id := by
  have clean : ∀ part ∈ parts, ';' ∉ part := by
    clear nonempty
    induction each with
    | nil => simp
    | cons writes others inductionHypothesis =>
      exact List.forall_mem_cons.2 ⟨writes.unseparated, inductionHypothesis⟩
  rw [items, Text.splitOn_join nonempty clean]
  clear nonempty clean
  induction each with
  | nil => rfl
  | cons writes others inductionHypothesis =>
    simp only [List.filterMap_cons, writes.item, inductionHypothesis, id]

/-- A style whose items have different keys is read as the table of these items. -/
theorem find?_written {pairs : List (Text × Text)} (distinct : (pairs.map Prod.fst).Nodup)
    (nonempty : parts ≠ []) (each : List.Forall₂ Writes parts written)
    (order : (written.filterMap id).Perm pairs) :
    (ofStyle (Text.join [';'] parts)).find? key = some value ↔ (key, value) ∈ pairs := by
  have same : (items (Text.join [';'] parts)).reverse.Perm pairs := by
    rw [items_join nonempty each]
    exact (List.reverse_perm _).trans order
  have itemsDistinct := (same.map Prod.fst).nodup_iff.2 distinct
  rw [find?_ofStyle, ← same.mem_iff]
  exact find?_iff_mem itemsDistinct

/-- Joined styles override one another key by key. Where no key occurs twice, the table of a style
has exactly the items that are written in it, in whatever order and with whatever white space. -/
theorem ofStyle_composes :
    (∀ first second key, (ofStyle (first ++ ';' :: second)).find? key =
      ((ofStyle second).find? key).or ((ofStyle first).find? key)) ∧
    ∀ (pairs : List (Text × Text)) (parts : List Text) (written : List (Option (Text × Text))),
      (pairs.map Prod.fst).Nodup → parts ≠ [] → List.Forall₂ Writes parts written →
      (written.filterMap id).Perm pairs →
        (ofStyle (Text.join [';'] parts)).Ascending ∧
          (ofStyle (Text.join [';'] parts)).Perm pairs ∧
          ∀ key value, (ofStyle (Text.join [';'] parts)).find? key = some value ↔
            (key, value) ∈ pairs := by
  refine ⟨fun first second key => find?_separated first second, ?_⟩
  intro pairs parts written distinct nonempty each order
  have ascending := ofStyle_ascending (Text.join [';'] parts)
  have found {key value : Text} :
      (ofStyle (Text.join [';'] parts)).find? key = some value ↔ (key, value) ∈ pairs :=
    find?_written distinct nonempty each order
  refine ⟨ascending, ?_, fun key value => found⟩
  refine (List.perm_ext_iff_of_nodup (List.Nodup.of_map _ ascending.distinct)
    (List.Nodup.of_map _ distinct)).2 ?_
  rintro ⟨key, value⟩
  rw [← find?_iff_mem ascending.distinct, found]

/-- A style with white space, an empty item and a word. One value has the sign that follows a key,
and another one is empty. -/
theorem ofStyle_composes_spaced :
    let style := " b =\ta=1;;text ; c=".toList
    (ofStyle style).Perm [(['c'], []), ("text".toList, ['1']), (['b'], "a=1".toList)] ∧
      (ofStyle (style ++ ';' :: "text=2".toList)).find? "text".toList = some ['2'] := by
  intro style
  obtain ⟨overrides, reads⟩ := ofStyle_composes
  have keys : IsKey ['b'] ∧ IsKey ['t', 'e', 'x', 't'] ∧ IsKey ['c'] := by decide +kernel
  have values : IsValue ['a', '=', '1'] ∧ IsValue [] := by decide +kernel
  have spaces : IsSpace [] ∧ IsSpace [' '] ∧ IsSpace ['\t'] := by decide +kernel
  obtain ⟨⟨first, second, third⟩, ⟨sign, empty⟩, ⟨nothing, space, tab⟩⟩ :=
    And.intro keys (And.intro values spaces)
  have each : List.Forall₂ Writes
      [[' '] ++ ['b'] ++ [' '] ++ '=' :: (['\t'] ++ ['a', '=', '1'] ++ []), [],
        [] ++ ['t', 'e', 'x', 't'] ++ [' '], [' '] ++ ['c'] ++ [] ++ '=' :: ([] ++ [] ++ [])]
      [some (['b'], ['a', '=', '1']), none, some (['t', 'e', 'x', 't'], ['1']), some (['c'], [])] :=
    .cons (.pair first sign space space tab nothing) (.cons (.nothing nothing)
      (.cons (.word second nothing space)
        (.cons (.pair third empty space nothing nothing nothing) .nil)))
  obtain ⟨-, same, -⟩ := reads _ _ _ (by decide) (List.cons_ne_nil _ _) each
    (List.reverse_perm _).symm
  refine ⟨same, ?_⟩
  rw [overrides]
  decide

end StyleTable

end QuadrantChart
