import Mathlib.Data.List.Count
import Mathlib.Data.List.Forall2
import Mathlib.Data.List.Induction
import SampleChart.Chart.Script
import SampleChart.Proofs.Decimal.Numeral

/-!
# Literals of a script

Between single quotes gnuplot takes a text as it is, except that two quotes in a row stand for one,
and the first quote that is not doubled ends the literal. A script is a text with slots, each
of which is to hold one literal. The literals that are read from it are those of the slots, unless a
name has a quote. A quote in a name is never read as such: either it ends the
literal early, or it hides the quote that was to end the literal, so that what follows in the script
is read as a part of it.
-/

namespace SampleChart.Chart

open Decimal (HasBlank)
open Text.Characters (consFirst)

/-- The literals of a text, read from outside of a literal or from inside one, of which the rest
then comes first. A text that ends inside a literal has none. -/
def literals : Bool → List Char → Option (List (List Char))
  | false, [] => some []
  | false, '\'' :: rest => literals true rest
  | false, _ :: rest => literals false rest
  | true, [] => none
  | true, '\'' :: '\'' :: rest => (literals true rest).map (consFirst '\'')
  | true, '\'' :: rest => (literals false rest).map ([] :: ·)
  | true, character :: rest => (literals true rest).map (consFirst character)

/-- What a text says in which underscores have a backslash. -/
def unescapeUnderscores : List Char → List Char
  | [] => []
  | '\\' :: '_' :: rest => '_' :: unescapeUnderscores rest
  | character :: rest => character :: unescapeUnderscores rest

/-- A place in a script that is to hold one literal. -/
inductive Slot where
  /-- The path of the chart. -/
  | path (text : String)
  /-- A text of the script itself. -/
  | fixed (text : String)
  /-- The name of a benchmark or a series. -/
  | name (text : String)
  deriving DecidableEq, Repr

namespace Slot

/-- What stands between the quotes of a slot. -/
def raw : Slot → String
  | path text => doubleQuotes text
  | fixed text => text
  | name text => escapeUnderscores text

/-- Whether a literal says what a slot is to say. -/
def IsReadAs : Slot → List Char → Prop
  | path text, content => content = text.toList
  | fixed text, content => content = text.toList
  | name text, content => unescapeUnderscores content = text.toList

/-- What can be relied on in the text of a slot: a fixed one has no quote, and a name no blank. -/
def Fits : Slot → Prop
  | path _ => True
  | fixed text => '\'' ∉ text.toList
  | name text => ¬HasBlank text.toList

end Slot

/-- A text with the slots that it holds. It has no quotes outside of them, and behind every slot
there is a text with a blank. -/
inductive LaidOut : String → List Slot → Prop
  | nil : LaidOut "" []
  | plain {text rest : String} {slots : List Slot} (unquoted : '\'' ∉ text.toList)
      (follows : LaidOut rest slots) : LaidOut (text ++ rest) slots
  | slot {held : Slot} {gap rest : String} {slots : List Slot} (fits : held.Fits)
      (unquoted : '\'' ∉ gap.toList) (blank : HasBlank gap.toList) (follows : LaidOut rest slots) :
      LaidOut (literal held.raw ++ (gap ++ rest)) (held :: slots)

section Names

theorem unescapeUnderscores_cons {character : Char} {rest : List Char}
    (notEscape : character = '\\' → rest.head? ≠ some '_') :
    unescapeUnderscores (character :: rest) = character :: unescapeUnderscores rest := by
  rw [unescapeUnderscores]
  rintro tail rfl rfl
  exact notEscape rfl rfl

/-- What is escaped never begins with an underscore, so that no backslash before it is taken for one
that escapes. -/
theorem unescapeUnderscores_escapeUnderscores (text : String) :
    unescapeUnderscores (escapeUnderscores text).toList = text.toList := by
  rw [escapeUnderscores, String.toList_ofList]
  induction text.toList with
  | nil => rfl
  | cons character rest ih =>
      rw [List.flatMap_cons]
      by_cases underscore : character = '_'
      · subst underscore
        rw [if_pos rfl]
        exact congrArg ('_' :: ·) ih
      · rw [if_neg underscore, List.singleton_append, unescapeUnderscores_cons, ih]
        intro _
        rcases rest with _ | ⟨next, others⟩
        · simp
        · by_cases isUnderscore : next = '_' <;> simp [isUnderscore]

theorem count_unescapeUnderscores {counted : Char} (notBackslash : counted ≠ '\\')
    (text : List Char) : (unescapeUnderscores text).count counted = text.count counted := by
  induction text using unescapeUnderscores.induct with
  | case1 => rfl
  | case2 rest ih =>
      rw [unescapeUnderscores, List.count_cons, ih, List.count_cons_of_ne notBackslash.symm,
        List.count_cons]
  | case3 character rest notEscape ih =>
      rw [unescapeUnderscores, List.count_cons, ih, List.count_cons]
      exact notEscape

theorem count_escapeUnderscores {counted : Char} (notBackslash : counted ≠ '\\') (text : String) :
    (escapeUnderscores text).toList.count counted = text.toList.count counted := by
  rw [← count_unescapeUnderscores notBackslash, unescapeUnderscores_escapeUnderscores]

end Names

section Reading

variable {text rest content : List Char} {later : List (List Char)}

theorem literals_unquoted (unquoted : '\'' ∉ text) :
    literals false (text ++ rest) = literals false rest := by
  induction text with
  | nil => rfl
  | cons character others ih =>
      rw [List.mem_cons, not_or] at unquoted
      rw [List.cons_append, literals, ih unquoted.2]
      exact fun isQuote => unquoted.1 isQuote.symm

/-- Inside a literal a character that is not a quote is a part of it. -/
theorem literals_inside_cons {character : Char} (notQuote : character ≠ '\'') :
    literals true (character :: rest) = (literals true rest).map (consFirst character) := by
  rw [literals]
  · rintro _ rfl
    contradiction
  · exact notQuote

/-- A quote ends a literal if the next character is another one. -/
theorem literals_inside_quote (single : rest.head? ≠ some '\'') :
    literals true ('\'' :: rest) = (literals false rest).map ([] :: ·) := by
  rw [literals]
  rintro tail rfl
  exact single rfl

/-- A text without quotes is read as it stands. -/
theorem literals_inside_unquoted (unquoted : '\'' ∉ text) :
    literals true (text ++ rest) =
      (literals true rest).map fun found => text.foldr consFirst found := by
  induction text with
  | nil => simp
  | cons character others ih =>
      rw [List.mem_cons, not_or] at unquoted
      rw [List.cons_append, literals_inside_cons (Ne.symm unquoted.1), ih unquoted.2,
        Option.map_map]
      rfl

/-- Doubled quotes are read as single ones. -/
theorem literals_inside_doubled (path : String) :
    literals true ((doubleQuotes path).toList ++ rest) =
      (literals true rest).map fun found => path.toList.foldr consFirst found := by
  rw [doubleQuotes, String.toList_ofList]
  induction path.toList with
  | nil => simp
  | cons character others ih =>
      rw [List.flatMap_cons, List.append_assoc]
      by_cases quote : character = '\''
      · subst quote
        rw [if_pos rfl]
        change (literals true (_ ++ rest)).map (consFirst '\'') = _
        rw [ih, Option.map_map]
        rfl
      · rw [if_neg quote, List.singleton_append, literals_inside_cons quote, ih, Option.map_map]
        rfl

theorem foldr_consFirst (text content : List Char) (later : List (List Char)) :
    text.foldr consFirst (content :: later) = (text ++ content) :: later := by
  induction text with
  | nil => rfl
  | cons character others ih => rw [List.foldr_cons, ih, consFirst, List.cons_append]

theorem exists_eq_cons_of_literals_inside {found : List (List Char)}
    (read : literals true text = some found) : ∃ content later, found = content :: later := by
  rcases text with _ | ⟨character, rest⟩
  · cases read
  · by_cases quote : character = '\''
    · subst quote
      rcases rest with _ | ⟨next, others⟩
      · cases read
        exact ⟨[], [], rfl⟩
      · by_cases second : next = '\''
        · subst second
          rcases Option.map_eq_some_iff.mp read with ⟨found, _, rfl⟩
          cases found <;> exact ⟨_, _, rfl⟩
        · rw [literals_inside_quote (by simpa using second)] at read
          rcases Option.map_eq_some_iff.mp read with ⟨found, _, rfl⟩
          exact ⟨_, _, rfl⟩
    · rw [literals_inside_cons quote] at read
      rcases Option.map_eq_some_iff.mp read with ⟨found, _, rfl⟩
      cases found <;> exact ⟨_, _, rfl⟩

theorem literals_of_map_consFirst {character : Char}
    (read : (literals true text).map (consFirst character) = some (content :: later)) :
    ∃ first, content = character :: first ∧ literals true text = some (first :: later) := by
  rcases Option.map_eq_some_iff.mp read with ⟨found, inside, joined⟩
  rcases exists_eq_cons_of_literals_inside inside with ⟨first, others, rfl⟩
  rcases List.cons.inj joined with ⟨rfl, rfl⟩
  exact ⟨first, rfl, inside⟩

/-- What is behind a quote that ends a literal is no part of it. -/
theorem eq_nil_of_map_cons {found : Option (List (List Char))}
    (read : found.map ([] :: ·) = some (content :: later)) : content = [] := by
  rcases Option.map_eq_some_iff.mp read with ⟨_, _, joined⟩
  exact (List.cons.inj joined).1.symm

/-- The literal that a text without quotes begins with goes on with this text. -/
theorem mem_of_literals_inside_unquoted (unquoted : '\'' ∉ text)
    (read : literals true (text ++ rest) = some (content :: later)) :
    ∀ character ∈ text, character ∈ content := by
  rw [literals_inside_unquoted unquoted] at read
  rcases Option.map_eq_some_iff.mp read with ⟨found, fromRest, joined⟩
  rcases exists_eq_cons_of_literals_inside fromRest with ⟨first, others, rfl⟩
  rw [foldr_consFirst] at joined
  rcases List.cons.inj joined with ⟨rfl, _⟩
  exact fun character => List.mem_append_left _

/-- A quote in front of a text without quotes that has a blank is a single one. -/
theorem head?_gap {gap : List Char} (unquoted : '\'' ∉ gap) (blank : HasBlank gap) :
    (gap ++ rest).head? ≠ some '\'' := by
  rcases gap with _ | ⟨first, others⟩
  · simp [HasBlank] at blank
  · rw [List.mem_cons, not_or] at unquoted
    simpa using Ne.symm unquoted.1

/-- Where a literal was to end behind a text, it has at most half of the quotes of the text, or it
takes in the blank that follows: then its closing quote was taken for the second of two. -/
theorem blank_or_count_of_literals {gap : List Char} (unquoted : '\'' ∉ gap)
    (blank : HasBlank gap)
    (read : literals true (text ++ '\'' :: (gap ++ rest)) = some (content :: later)) :
    HasBlank content ∨ 2 * content.count '\'' ≤ text.count '\'' := by
  have goesOn {first : Char} {content : List Char} : HasBlank content → HasBlank (first :: content)
    | ⟨character, present, isBlank⟩ => ⟨character, List.mem_cons_of_mem _ present, isBlank⟩
  have ends (content : List Char) (later : List (List Char))
      (read : literals true ('\'' :: (gap ++ rest)) = some (content :: later)) : content = [] := by
    rw [literals_inside_quote (head?_gap unquoted blank)] at read
    exact eq_nil_of_map_cons read
  induction text using List.twoStepInduction generalizing content later with
  | nil =>
      rcases ends content later read with rfl
      exact Or.inr (Nat.le_refl _)
  | singleton character =>
      by_cases quote : character = '\''
      · subst quote
        rcases literals_of_map_consFirst read with ⟨first, rfl, inside⟩
        rcases blank with ⟨character, inGap, isBlank⟩
        have taken := mem_of_literals_inside_unquoted unquoted inside character inGap
        exact Or.inl (goesOn ⟨character, taken, isBlank⟩)
      · rw [List.singleton_append, literals_inside_cons quote] at read
        rcases literals_of_map_consFirst read with ⟨first, rfl, inside⟩
        rcases ends first later inside with rfl
        simp [quote]
  | cons_cons character next others ihOthers ihRest =>
      by_cases quote : character = '\''
      · subst quote
        by_cases second : next = '\''
        · subst second
          rcases literals_of_map_consFirst read with ⟨first, rfl, inside⟩
          rcases ihOthers inside with blank | few
          · exact Or.inl (goesOn blank)
          · right
            simp only [List.count_cons_self]
            omega
        · rw [List.cons_append, literals_inside_quote (by simpa using second)] at read
          rcases eq_nil_of_map_cons read with rfl
          exact Or.inr (Nat.zero_le _)
      · rw [List.cons_append, literals_inside_cons quote] at read
        rcases literals_of_map_consFirst read with ⟨first, rfl, inside⟩
        rcases ihRest next inside with blank | few
        · exact Or.inl (goesOn blank)
        · right
          rwa [List.count_cons_of_ne quote, List.count_cons_of_ne quote]

end Reading

section Layout

/-- What is read from a text inside of a literal is the literal that the next quote ends. -/
theorem literals_closed {raw content rest : List Char}
    (inside : ∀ rest, literals true (raw ++ rest) =
      (literals true rest).map fun found => content.foldr consFirst found)
    (single : rest.head? ≠ some '\'') :
    literals true (raw ++ '\'' :: rest) = (literals false rest).map (content :: ·) := by
  rw [inside, literals_inside_quote single, Option.map_map]
  simp [Function.comp_def, foldr_consFirst]

/-- A slot of which the text is a path, fixed, or a name without quotes is read as it is meant. -/
theorem exists_isReadAs {held : Slot} (fits : held.Fits)
    (unquoted : ∀ name, held = .name name → '\'' ∉ name.toList) {rest : List Char}
    (single : rest.head? ≠ some '\'') :
    ∃ content, held.IsReadAs content ∧
      literals true (held.raw.toList ++ '\'' :: rest) =
        (literals false rest).map (content :: ·) := by
  cases held with
  | path text =>
      exact ⟨_, rfl, literals_closed (fun _ => literals_inside_doubled text) single⟩
  | fixed text =>
      exact ⟨_, rfl, literals_closed (fun _ => literals_inside_unquoted fits) single⟩
  | name text =>
      have noQuote : '\'' ∉ (escapeUnderscores text).toList := by
        rw [← List.count_eq_zero, count_escapeUnderscores (by decide), List.count_eq_zero]
        exact unquoted text rfl
      exact ⟨_, unescapeUnderscores_escapeUnderscores text,
        literals_closed (fun _ => literals_inside_unquoted noQuote) single⟩

/-- A name with a quote is not what is read where the name stands. -/
theorem unquoted_of_isReadAs {text : String} (fits : (Slot.name text).Fits) {gap : List Char}
    (unquoted : '\'' ∉ gap) (blank : HasBlank gap) {rest content : List Char}
    {later : List (List Char)}
    (read : literals true ((Slot.name text).raw.toList ++ '\'' :: (gap ++ rest)) =
      some (content :: later))
    (isReadAs : (Slot.name text).IsReadAs content) : '\'' ∉ text.toList := by
  have sameCount {counted : Char} (notBackslash : counted ≠ '\\') :
      content.count counted = text.toList.count counted := by
    rw [← count_unescapeUnderscores notBackslash, isReadAs]
  rcases blank_or_count_of_literals unquoted blank read with ⟨character, present, isBlank⟩ | few
  · have notBackslash : character ≠ '\\' := by
      rintro rfl
      cases isBlank
    have inName : character ∈ text.toList := by
      rw [← List.count_pos_iff, ← sameCount notBackslash, List.count_pos_iff]
      exact present
    exact absurd ⟨character, inName, isBlank⟩ fits
  · rw [Slot.raw, count_escapeUnderscores (by decide), sameCount (by decide)] at few
    rw [← List.count_eq_zero]
    omega

/-- The literals of a text that is laid out are those of its slots exactly if no name has a
quote. -/
theorem literals_iff_of_laidOut {text : String} {slots : List Slot} (laidOut : LaidOut text slots) :
    (∃ contents, literals false text.toList = some contents ∧
        List.Forall₂ Slot.IsReadAs slots contents) ↔
      ∀ name, .name name ∈ slots → '\'' ∉ name.toList := by
  induction laidOut with
  | nil => simp [literals]
  | plain unquoted _ ih => rwa [String.toList_append, literals_unquoted unquoted]
  | @slot held gap rest slots fits unquoted blank _ ih =>
      have layout : (literal held.raw ++ (gap ++ rest)).toList =
          '\'' :: (held.raw.toList ++ '\'' :: (gap.toList ++ rest.toList)) := by
        simp [literal]
      rw [layout, literals]
      by_cases quoted : ∃ name, held = .name name ∧ '\'' ∈ name.toList
      · rcases quoted with ⟨name, rfl, present⟩
        apply iff_of_false
        · rintro ⟨contents, read, areRead⟩
          rcases List.forall₂_cons_left_iff.mp areRead with ⟨content, later, isReadAs, _, rfl⟩
          exact unquoted_of_isReadAs fits unquoted blank read isReadAs present
        · intro areUnquoted
          exact areUnquoted name List.mem_cons_self present
      · simp only [not_exists, not_and] at quoted
        rcases exists_isReadAs fits quoted (head?_gap unquoted blank) with
          ⟨content, isReadAs, readSlot⟩
        rw [readSlot, literals_unquoted unquoted]
        constructor
        · rintro ⟨contents, read, areRead⟩ name listed
          rcases Option.map_eq_some_iff.mp read with ⟨later, readRest, rfl⟩
          rcases List.mem_cons.mp listed with here | inRest
          · exact quoted name here.symm
          · exact ih.mp ⟨later, readRest, (List.forall₂_cons.mp areRead).2⟩ name inRest
        · intro areUnquoted
          rcases ih.mpr fun name listed => areUnquoted name (List.mem_cons_of_mem _ listed) with
            ⟨later, readRest, areRead⟩
          exact ⟨content :: later, by rw [readRest, Option.map_some], .cons isReadAs areRead⟩

namespace LaidOut

variable {left right : String} {leftSlots rightSlots : List Slot}

theorem append (first : LaidOut left leftSlots) (second : LaidOut right rightSlots) :
    LaidOut (left ++ right) (leftSlots ++ rightSlots) := by
  induction first with
  | nil => simpa using second
  | plain unquoted _ ih =>
      rw [String.append_assoc]
      exact .plain unquoted ih
  | slot fits unquoted blank _ ih =>
      rw [String.append_assoc, String.append_assoc]
      exact .slot fits unquoted blank ih

theorem ofUnquoted {text : String} (unquoted : '\'' ∉ text.toList) : LaidOut text [] := by
  simpa using LaidOut.plain unquoted .nil

/-- One slot between two texts. -/
theorem single (held : Slot) {before behind : String} (fits : held.Fits)
    (unquotedBefore : '\'' ∉ before.toList) (unquoted : '\'' ∉ behind.toList)
    (blank : HasBlank behind.toList) :
    LaidOut (before ++ literal held.raw ++ behind) [held] := by
  simpa [String.append_assoc] using
    LaidOut.plain unquotedBefore (.slot fits unquoted blank .nil)

/-- Texts that are laid out in front of a separator, the last one in front of the end. -/
theorem intercalate {α : Type} {separator behind : String} {items : List α} {text : α → String}
    {slots : α → List Slot} (present : items ≠ [])
    (each : ∀ item ∈ items, LaidOut (text item ++ separator) (slots item) ∧
      LaidOut (text item ++ behind) (slots item)) :
    LaidOut (separator.intercalate (items.map text) ++ behind) (items.flatMap slots) := by
  induction items with
  | nil => exact absurd rfl present
  | cons first others ih =>
      simp only [List.forall_mem_cons] at each
      rcases others with _ | ⟨second, later⟩
      · simpa using each.1.2
      · have further := ih (by simp) each.2
        rw [List.map_cons, List.map_cons, String.intercalate_cons_cons, List.flatMap_cons,
          String.append_assoc]
        exact each.1.1.append further

end LaidOut

end Layout

end SampleChart.Chart
