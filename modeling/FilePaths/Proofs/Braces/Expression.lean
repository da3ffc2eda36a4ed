import FilePaths.Text.Basic
import Mathlib.Data.List.Basic

/-!
# Brace expressions

A brace expression is a sequence of plain texts and groups, and a group is a choice between such
sequences.  It is written with braces and commas, and it stands for its words: one alternative is
chosen for every group, in all ways, where a choice further left varies more slowly.

The words can also be had step by step, by choosing for the leftmost group only.
-/

namespace FilePaths
namespace Braces

/-- The character has a meaning of its own in the writing of groups. -/
def isMark (c : Char) : Bool :=
  c == '{' || c == '}' || c == ',' || c == '\\'

/-- A text in which nothing has a meaning of its own. -/
structure PlainText where
  /-- The characters. -/
  text : Text
  /-- None of them is a mark. -/
  noMark : ∀ c ∈ text, isMark c = false

/-- A part of a brace expression. -/
inductive Part
  | plain (plain : PlainText)
  /-- A choice between one alternative and any number of others. -/
  | group (first : List Part) (others : List (List Part))

/-- A brace expression is the sequence of its parts. -/
abbrev Expression := List Part

mutual

/-- How a part is written. -/
def Part.print : Part → Text
  | .plain plain => plain.text
  | .group first others => '{' :: (printParts first ++ printOthers others ++ ['}'])

/-- How a sequence of parts is written. -/
def printParts : List Part → Text
  | [] => []
  | part :: parts => part.print ++ printParts parts

/-- How the alternatives of a group behind its first one are written. -/
def printOthers : List (List Part) → Text
  | [] => []
  | parts :: others => ',' :: (printParts parts ++ printOthers others)

end

mutual

/-- The words that a part stands for. -/
def Part.words : Part → List Text
  | .plain plain => [plain.text]
  | .group first others => wordsOfParts first ++ wordsOfOthers others

/-- The words that a sequence of parts stands for: a word of each part, one after the other. -/
def wordsOfParts : List Part → List Text
  | [] => [[]]
  | part :: parts => part.words.flatMap fun word => (wordsOfParts parts).map (word ++ ·)

/-- The words of the alternatives of a group behind its first one. -/
def wordsOfOthers : List (List Part) → List Text
  | [] => []
  | parts :: others => wordsOfParts parts ++ wordsOfOthers others

end

/-- The part is a group. -/
def Part.isGroup : Part → Bool
  | .plain _ => false
  | .group .. => true

namespace Expression

/-- How an expression is written. -/
def print (expression : Expression) : Text :=
  printParts expression

/-- The words that an expression stands for. -/
def words (expression : Expression) : List Text :=
  wordsOfParts expression

/-- The expression holds a group. -/
def hasGroup (expression : Expression) : Bool :=
  expression.any Part.isGroup

/-- The expressions with an alternative of the leftmost group in place of that group. -/
def choices : Expression → List Expression
  | [] => []
  | .plain plain :: parts => (choices parts).map (.plain plain :: ·)
  | .group first others :: parts => (first :: others).map (· ++ parts)

/-! ## Parts and sequences -/

@[simp] theorem print_nil : print [] = [] := rfl

@[simp] theorem print_cons (part : Part) (parts : Expression) :
    print (part :: parts) = part.print ++ print parts := rfl

theorem print_append (first second : Expression) :
    print (first ++ second) = print first ++ print second := by
  induction first with
  | nil => rfl
  | cons part parts ih => simp only [List.cons_append, print_cons, ih, List.append_assoc]

@[simp] theorem words_nil : words [] = [[]] := rfl

@[simp] theorem words_cons (part : Part) (parts : Expression) :
    words (part :: parts) = part.words.flatMap fun word => (words parts).map (word ++ ·) := rfl

theorem words_append (first second : Expression) :
    words (first ++ second) =
      (words first).flatMap fun word => (words second).map (word ++ ·) := by
  induction first with
  | nil => simp
  | cons part parts ih =>
      simp only [List.cons_append, words_cons, ih, List.flatMap_assoc, List.map_flatMap,
        List.flatMap_map, List.map_map, Function.comp_def, List.append_assoc]

theorem words_plain_cons (plain : PlainText) (parts : Expression) :
    words (.plain plain :: parts) = (words parts).map (plain.text ++ ·) := by
  simp [Part.words]

@[simp] theorem hasGroup_cons (part : Part) (parts : Expression) :
    hasGroup (part :: parts) = (part.isGroup || hasGroup parts) := rfl

end Expression

/-! ## Groups -/

theorem Part.print_group (first : Expression) (others : List Expression) :
    (Part.group first others).print =
      '{' :: (first.print ++ printOthers others ++ ['}']) := by
  rw [Part.print]
  rfl

theorem printOthers_cons (parts : Expression) (others : List Expression) :
    printOthers (parts :: others) = ',' :: (parts.print ++ printOthers others) := by
  rw [printOthers]
  rfl

/-- The words of a group are those of its alternatives. -/
theorem Part.words_group (first : Expression) (others : List Expression) :
    (Part.group first others).words = (first :: others).flatMap Expression.words := by
  rw [Part.words, List.flatMap_cons]
  congr 1
  induction others with
  | nil => rfl
  | cons parts others ih => rw [wordsOfOthers, ih, List.flatMap_cons, Expression.words]

/-- Every alternative behind the first one stands in the writing of its group. -/
theorem print_sublist_printOthers
    {parts : Expression}
    {others : List Expression}
    (isMember : parts ∈ others) :
    parts.print.Sublist (printOthers others) := by
  induction others with
  | nil => simp at isMember
  | cons other others ih =>
      rw [printOthers_cons]
      refine .cons _ ?_
      rcases List.mem_cons.1 isMember with rfl | later
      · exact List.sublist_append_left _ _
      · exact (ih later).trans (List.sublist_append_right _ _)

mutual

/-- No backslash is written in a part. -/
theorem Part.backslash_not_mem_print : (part : Part) → '\\' ∉ part.print
  | .plain plain => fun isMember => by
      have noMark := plain.noMark _ isMember
      simp [isMark] at noMark
  | .group first others => by
      rw [Part.print]
      simp [backslash_not_mem_printParts first, backslash_not_mem_printOthers others]

theorem backslash_not_mem_printParts : (parts : List Part) → '\\' ∉ printParts parts
  | [] => by simp [printParts]
  | part :: parts => by
      simp [printParts, part.backslash_not_mem_print, backslash_not_mem_printParts parts]

theorem backslash_not_mem_printOthers : (others : List (List Part)) → '\\' ∉ printOthers others
  | [] => by simp [printOthers]
  | parts :: others => by
      simp [printOthers, backslash_not_mem_printParts parts, backslash_not_mem_printOthers others]

end

namespace Expression

/-! ## Choosing for the leftmost group -/

theorem choices_eq_nil_of_not_hasGroup
    {expression : Expression}
    (noGroup : expression.hasGroup = false) :
    expression.choices = [] := by
  induction expression with
  | nil => rfl
  | cons part parts ih =>
      cases part with
      | plain plain => rw [choices, ih (by simpa [Part.isGroup] using noGroup), List.map_nil]
      | group first others => simp [Part.isGroup] at noGroup

/-- An expression with a group has a leftmost one, with plain texts only in front of it. -/
theorem exists_leftmost
    {expression : Expression}
    (isGroup : expression.hasGroup = true) :
    ∃ (front first : Expression) (others : List Expression) (rest : Expression),
      front.hasGroup = false ∧ expression = front ++ .group first others :: rest := by
  induction expression with
  | nil => simp [hasGroup] at isGroup
  | cons part parts ih =>
      cases part with
      | plain plain =>
          obtain ⟨front, first, others, rest, noGroup, rfl⟩ :=
            ih (by simpa [Part.isGroup] using isGroup)
          exact ⟨.plain plain :: front, first, others, rest, by simpa [Part.isGroup] using noGroup,
            rfl⟩
      | group first others => exact ⟨[], first, others, parts, rfl, rfl⟩

theorem choices_leftmost
    {front : Expression}
    (noGroup : hasGroup front = false)
    (first : Expression)
    (others : List Expression)
    (rest : Expression) :
    choices (front ++ .group first others :: rest) =
      (first :: others).map fun parts => front ++ (parts ++ rest) := by
  induction front with
  | nil => rfl
  | cons part front ih =>
      cases part with
      | plain plain =>
          rw [List.cons_append, choices, ih (by simpa [Part.isGroup] using noGroup), List.map_map]
          rfl
      | group => simp [Part.isGroup] at noGroup

/-- Without a group an expression stands for what is written. -/
theorem words_of_not_hasGroup
    {expression : Expression}
    (noGroup : expression.hasGroup = false) :
    expression.words = [expression.print] := by
  induction expression with
  | nil => rfl
  | cons part parts ih =>
      cases part with
      | plain plain =>
          rw [words_plain_cons, ih (by simpa [Part.isGroup] using noGroup)]
          rfl
      | group first others => simp [Part.isGroup] at noGroup

/-- The words of an expression with a group are those of its choices, in order. -/
theorem words_of_hasGroup
    {expression : Expression}
    (isGroup : expression.hasGroup = true) :
    expression.words = expression.choices.flatMap words := by
  obtain ⟨front, first, others, rest, noGroup, rfl⟩ := exists_leftmost isGroup
  rw [choices_leftmost noGroup, words_append, words_cons, Part.words_group,
    words_of_not_hasGroup noGroup, List.flatMap_map]
  simp only [List.flatMap_assoc, List.flatMap_singleton, List.map_flatMap]
  congr 1
  funext parts
  rw [words_append, words_of_not_hasGroup noGroup, List.flatMap_singleton, words_append,
    List.map_flatMap]

/-- Choosing takes a part of the writing away. -/
theorem print_sublist_of_mem_choices
    {expression choice : Expression}
    (isChoice : choice ∈ expression.choices) :
    choice.print.Sublist expression.print ∧ choice.print.length < expression.print.length := by
  have isGroup : expression.hasGroup = true := by
    by_contra noGroup
    simp [choices_eq_nil_of_not_hasGroup (Bool.eq_false_iff.2 noGroup)] at isChoice
  obtain ⟨front, first, others, rest, noGroup, rfl⟩ := exists_leftmost isGroup
  rw [choices_leftmost noGroup] at isChoice
  obtain ⟨parts, isMember, rfl⟩ := List.mem_map.1 isChoice
  have inside : parts.print.Sublist (first.print ++ printOthers others) := by
    rcases List.mem_cons.1 isMember with rfl | later
    · exact List.sublist_append_left _ _
    · exact (print_sublist_printOthers later).trans (List.sublist_append_right _ _)
  simp only [print_append, print_cons, Part.print_group]
  constructor
  · have inGroup := (inside.trans (List.sublist_append_left _ ['}'])).cons '{'
    exact (inGroup.append_right _).append_left _
  · have shorter := inside.length_le
    simp only [List.length_append, List.length_cons, List.length_nil] at shorter ⊢
    omega

/-- An opening brace is written exactly where there is a group. -/
theorem opening_mem_print_iff (expression : Expression) :
    '{' ∈ expression.print ↔ expression.hasGroup = true := by
  induction expression with
  | nil => simp [hasGroup]
  | cons part parts ih =>
      cases part with
      | plain plain =>
          have notPlain : '{' ∉ plain.text := fun isMember => by
            simpa [isMark] using plain.noMark _ isMember
          simp [Part.print, Part.isGroup, notPlain, ih]
      | group first others => simp [Part.print_group, Part.isGroup]

end Expression
end Braces
end FilePaths
