import FilePaths.Proofs.Glob.Reading
import Mathlib.Data.Set.Lattice

/-!
# Classes as sets of characters

A class in brackets is written as items up to the first closing bracket in the place of an item, and
stands for the union of the characters of its items, or for the complement of it.  Matching a
character against a class reads the class on the way; what is read, and where it ends, has nothing
to do with the character.
-/

namespace FilePaths
namespace Glob

/-! ## How a class is written -/

/-- The character stands at the start of the pattern, itself or behind a backslash that escapes
it. -/
inductive WritesChar (rules : Rules) : (pattern : Text) → (c : Char) → (rest : Text) → Prop
  | escaped
      {c : Char}
      {rest : Text}
      (isEscape : rules.escape = true) :
      WritesChar rules ('\\' :: c :: rest) c rest
  | plain
      {c : Char}
      {rest : Text}
      (notEscape : c = '\\' → rules.escape = false) :
      WritesChar rules (c :: rest) c rest

/-- The item stands at the start of the pattern: a range where a minus sign follows that does not
stand directly before a closing bracket, and a single character elsewhere. -/
inductive WritesItem (rules : Rules) : (pattern : Text) → (item : ClassItem) → (rest : Text) → Prop
  | single
      {pattern rest : Text}
      {member : Char}
      (isMember : WritesChar rules pattern member rest)
      (noRange : ∀ after, rest = '-' :: after → after.head? = some ']') :
      WritesItem rules pattern (.single member) rest
  | range
      {pattern middle rest : Text}
      {low high : Char}
      (isLow : WritesChar rules pattern low ('-' :: middle))
      (notLast : middle.head? ≠ some ']')
      (isHigh : WritesChar rules middle high rest) :
      WritesItem rules pattern (.range low high) rest

/-- The items stand at the start of the pattern, up to a closing bracket in the place of an item. -/
inductive WritesItems (rules : Rules) :
    (pattern : Text) → (items : List ClassItem) → (rest : Text) → Prop
  | close (rest : Text) : WritesItems rules (']' :: rest) [] rest
  | item
      {pattern middle rest : Text}
      {item : ClassItem}
      {items : List ClassItem}
      (notClosed : pattern.head? ≠ some ']')
      (here : WritesItem rules pattern item middle)
      (behind : WritesItems rules middle items rest) :
      WritesItems rules pattern (item :: items) rest

/-- The class stands at the start of the pattern, behind its opening bracket; a mark in front of the
items negates it. -/
inductive WritesClass (rules : Rules) :
    (pattern : Text) → (members : CharClass) → (rest : Text) → Prop
  | positive
      {pattern rest : Text}
      {items : List ClassItem}
      (noMark : pattern.head? ≠ some '!' ∧ pattern.head? ≠ some '^')
      (areItems : WritesItems rules pattern items rest) :
      WritesClass rules pattern ⟨false, items⟩ rest
  | negative
      {mark : Char}
      {pattern rest : Text}
      {items : List ClassItem}
      (isMark : mark = '!' ∨ mark = '^')
      (areItems : WritesItems rules pattern items rest) :
      WritesClass rules (mark :: pattern) ⟨true, items⟩ rest

/-! ## Where a class ends -/

section Ends

variable
  {rules : Rules}
  {pattern rest : Text}

theorem WritesChar.suffix
    {c : Char}
    (isChar : WritesChar rules pattern c rest) :
    rest <:+ pattern := by
  cases isChar with
  | escaped => exact (List.suffix_cons _ _).trans (List.suffix_cons _ _)
  | plain => exact List.suffix_cons _ _

theorem WritesItem.suffix
    {item : ClassItem}
    (isItem : WritesItem rules pattern item rest) :
    rest <:+ pattern := by
  cases isItem with
  | single isMember => exact isMember.suffix
  | range isLow _ isHigh => exact isHigh.suffix.trans ((List.suffix_cons _ _).trans isLow.suffix)

theorem WritesItems.suffix
    {items : List ClassItem}
    (areItems : WritesItems rules pattern items rest) :
    ']' :: rest <:+ pattern := by
  induction areItems with
  | close rest => exact List.suffix_refl _
  | item _ here _ ih => exact ih.trans here.suffix

/-- A class ends with a closing bracket. -/
theorem WritesClass.suffix
    {members : CharClass}
    (isClass : WritesClass rules pattern members rest) :
    ']' :: rest <:+ pattern := by
  cases isClass with
  | positive _ areItems => exact areItems.suffix
  | negative _ areItems => exact areItems.suffix.trans (List.suffix_cons _ _)

end Ends

/-! ## What a class stands for -/

/-- The characters of an item.  A single character is compared in upper case where case does not
matter.  A range has its two ends, and what lies between them when all three are folded. -/
def ClassItem.set (rules : Rules) : ClassItem → Set Char
  | .single member =>
      {c | c = member ∨ (rules.casefold = true ∧ c.toUpper = member.toUpper)}
  | .range low high =>
      {low, high} ∪ {c | rules.fold low ≤ rules.fold c ∧ rules.fold c ≤ rules.fold high}

/-- The characters of a class: the union of its items, or the complement of that. -/
def CharClass.set (rules : Rules) (members : CharClass) : Set Char :=
  if members.negated then (⋃ item ∈ members.items, item.set rules)ᶜ
  else ⋃ item ∈ members.items, item.set rules

theorem ClassItem.mem_set_iff
    {rules : Rules}
    {item : ClassItem}
    {c : Char} :
    c ∈ item.set rules ↔ item.admits rules c = true := by
  cases item with
  | single member =>
      have isMember : c ∈ (single member).set rules ↔
          c = member ∨ (rules.casefold = true ∧ c.toUpper = member.toUpper) := Iff.rfl
      rw [isMember, admits, Rules.isMember, Bool.or_eq_true, beq_iff_eq, beq_iff_eq, Rules.fold,
        Rules.fold, @eq_comm _ c, @eq_comm _ c.toUpper]
      cases rules.casefold <;> simp
  | range low high =>
      have isMember : c ∈ (range low high).set rules ↔ (c = low ∨ c = high) ∨
          (rules.fold low ≤ rules.fold c ∧ rules.fold c ≤ rules.fold high) := Iff.rfl
      rw [isMember, admits, Rules.inRange, Bool.or_eq_true, Bool.or_eq_true, beq_iff_eq, beq_iff_eq,
        Bool.and_eq_true, decide_eq_true_iff, decide_eq_true_iff, @eq_comm _ c low,
        @eq_comm _ c high]

theorem CharClass.mem_set_iff
    {rules : Rules}
    {members : CharClass}
    {c : Char} :
    c ∈ members.set rules ↔ members.admits rules c = true := by
  have inUnion : c ∈ ⋃ item ∈ members.items, item.set rules ↔
      members.items.any (ClassItem.admits rules c) = true := by
    simp [ClassItem.mem_set_iff]
  unfold set admits
  cases members.negated with
  | false => simpa using inUnion
  | true =>
      rw [if_pos rfl, Set.mem_compl_iff, inUnion]
      simp

/-! ## Reading what is written -/

namespace Rules

variable
  {rules : Rules}
  {pattern rest : Text}

theorem unescape_eq_cons_iff {c : Char} :
    rules.unescape pattern = c :: rest ↔ WritesChar rules pattern c rest := by
  constructor
  · intro isCons
    rcases rules.unescape_cases pattern with ⟨isEscape, hidden⟩ | ⟨same, notEscape⟩
    · rw [hidden, isCons]
      exact .escaped isEscape
    · rw [same] at isCons
      subst isCons
      refine .plain ?_
      rintro rfl
      exact notEscape rfl
  · rintro (isEscape | notEscape)
    · exact unescape_backslash isEscape _
    · rcases rules.unescape_cases (c :: rest) with ⟨isEscape, isCons⟩ | ⟨same, -⟩
      · have isBackslash := (List.cons.inj isCons).1
        simp [notEscape isBackslash] at isEscape
      · exact same

theorem readItem?_eq_some_iff {item : ClassItem} :
    rules.readItem? pattern = some (item, rest) ↔ WritesItem rules pattern item rest := by
  constructor
  · intro isItem
    unfold readItem? at isItem
    split at isItem
    · cases isItem
    · rename_i low after readLow
      split at isItem
      · rename_i isLast
        obtain ⟨rfl, rfl⟩ := Prod.mk.inj (Option.some.inj isItem)
        refine .single (unescape_eq_cons_iff.1 readLow) fun other isDash => ?_
        rwa [← (List.cons.inj isDash).2]
      · rename_i notLast
        split at isItem
        · cases isItem
        · rename_i high behind readHigh
          obtain ⟨rfl, rfl⟩ := Prod.mk.inj (Option.some.inj isItem)
          exact .range (unescape_eq_cons_iff.1 readLow) notLast (unescape_eq_cons_iff.1 readHigh)
    · rename_i low after noDash readLow
      obtain ⟨rfl, rfl⟩ := Prod.mk.inj (Option.some.inj isItem)
      refine .single (unescape_eq_cons_iff.1 readLow) fun other isDash => ?_
      exact (noDash other isDash).elim
  · rintro (⟨isMember, noRange⟩ | ⟨isLow, notLast, isHigh⟩)
    · rw [readItem?, unescape_eq_cons_iff.2 isMember]
      split
      · rename_i isCons
        cases isCons
      · rename_i low after isCons
        obtain ⟨rfl, rfl⟩ := List.cons.inj isCons
        rw [if_pos (noRange after rfl)]
      · rename_i low after noDash isCons
        obtain ⟨rfl, rfl⟩ := List.cons.inj isCons
        rfl
    · rw [readItem?, unescape_eq_cons_iff.2 isLow]
      simp only [if_neg notLast, unescape_eq_cons_iff.2 isHigh]

theorem readItems_eq_some_iff {items : List ClassItem} :
    rules.readItems pattern = some (items, rest) ↔ WritesItems rules pattern items rest := by
  constructor
  · intro isItems
    fun_induction readItems rules pattern generalizing items with
    | case1 => cases isItems
    | case2 after =>
        obtain ⟨rfl, rfl⟩ := Prod.mk.inj (Option.some.inj isItems)
        exact .close after
    | case3 => cases isItems
    | case4 first after notBracket item behind isItem ih =>
        obtain ⟨⟨later, left⟩, isLater, isEqual⟩ := Option.map_eq_some_iff.1 isItems
        obtain ⟨rfl, rfl⟩ := Prod.mk.inj isEqual
        exact .item (by simpa using notBracket) (readItem?_eq_some_iff.1 isItem) (ih isLater)
  · intro areItems
    induction areItems with
    | close after => rw [readItems]
    | @item whole middle rest item items notClosed here behind ih =>
        have isItem := readItem?_eq_some_iff.2 here
        cases whole with
        | nil => exact absurd (readItem?_length isItem) (Nat.not_lt_zero _)
        | cons first whole =>
            rw [readItems_cons (by simpa using notClosed), isItem]
            simp only [Option.bind_some, ih, Option.map_some]

theorem isNegated_iff :
    isNegated pattern = true ↔ pattern.head? = some '!' ∨ pattern.head? = some '^' := by
  simp [isNegated]

theorem readClass_eq_some_iff {members : CharClass} :
    rules.readClass pattern = some (members, rest) ↔ WritesClass rules pattern members rest := by
  constructor
  · intro isClass
    obtain ⟨⟨items, after⟩, isItems, isEqual⟩ := Option.map_eq_some_iff.1 isClass
    obtain ⟨rfl, rfl⟩ := Prod.mk.inj isEqual
    cases isMarked : isNegated pattern with
    | false =>
        rw [isMarked] at isItems
        have noMark := mt isNegated_iff.2 (Bool.eq_false_iff.1 isMarked)
        exact .positive (not_or.1 noMark) (readItems_eq_some_iff.1 isItems)
    | true =>
        rw [isMarked] at isItems
        rcases isNegated_iff.1 isMarked with isMark | isMark <;>
          obtain ⟨body, rfl⟩ := List.head?_eq_some_iff.1 isMark
        · exact .negative (.inl rfl) (readItems_eq_some_iff.1 isItems)
        · exact .negative (.inr rfl) (readItems_eq_some_iff.1 isItems)
  · rintro (⟨noMark, areItems⟩ | ⟨isMark, areItems⟩)
    · have isMarked : isNegated pattern = false :=
        Bool.eq_false_iff.2 (mt isNegated_iff.1 (not_or.2 noMark))
      simp only [readClass, isMarked, Bool.false_eq_true, if_false,
        readItems_eq_some_iff.2 areItems, Option.map_some]
    · rename_i mark body items
      have isMarked : isNegated (mark :: body) = true := by
        rcases isMark with rfl | rfl <;> rfl
      simp only [readClass, isMarked, if_true, List.drop_succ_cons, List.drop_zero,
        readItems_eq_some_iff.2 areItems, Option.map_some]

/-! ## Matching a character -/

theorem bracket?_eq_some_iff
    {members : CharClass}
    {after : Text}
    {c : Char}
    (isClass : WritesClass rules pattern members rest) :
    rules.bracket? c pattern = some after ↔ after = rest ∧ c ∈ members.set rules := by
  rw [bracket?_eq_readClass, readClass_eq_some_iff.2 isClass, CharClass.mem_set_iff]
  dsimp only [Option.bind_some]
  by_cases isIn : members.admits rules c = true
  · rw [if_pos isIn, Option.some_inj, @eq_comm _ rest, and_iff_left isIn]
  · simp [isIn]

theorem bracket?_eq_none
    (noClass : ∀ members rest, ¬WritesClass rules pattern members rest)
    (c : Char) :
    rules.bracket? c pattern = none := by
  rw [bracket?_eq_readClass]
  cases isClass : rules.readClass pattern with
  | none => rfl
  | some found => exact absurd (readClass_eq_some_iff.1 isClass) (noClass found.1 found.2)

end Rules

/-- A mark in front of a class that has none makes it the class of all other characters. -/
theorem setOf_bracket?_mark
    {rules : Rules}
    {pattern rest : Text}
    {mark : Char}
    {items : List ClassItem}
    (isMark : mark = '!' ∨ mark = '^')
    (isClass : WritesClass rules pattern ⟨false, items⟩ rest) :
    {c | (rules.bracket? c (mark :: pattern)).isSome} =
      {c | (rules.bracket? c pattern).isSome}ᶜ := by
  have setOf_eq : ∀ {pattern members}, WritesClass rules pattern members rest →
      {c | (rules.bracket? c pattern).isSome} = members.set rules := by
    intro pattern members isClass
    ext c
    simp [Option.isSome_iff_exists, Rules.bracket?_eq_some_iff isClass]
  cases isClass with
  | positive noMark areItems =>
      rw [setOf_eq (.negative isMark areItems), setOf_eq (.positive noMark areItems)]
      rfl

/-- A class that is never closed matches no character.  A class that is closed matches the
characters of its items, or all others if it is negated, and whatever the character is, the pattern
goes on behind its closing bracket.  So a class and its negation match complementary sets. -/
theorem bracket?_matches_set (rules : Rules) (pattern : Text) :
    ((∀ members rest, ¬WritesClass rules pattern members rest) →
        ∀ c, rules.bracket? c pattern = none) ∧
      (∀ members rest, WritesClass rules pattern members rest →
        ']' :: rest <:+ pattern ∧
          ∀ c after, rules.bracket? c pattern = some after ↔
            after = rest ∧ c ∈ members.set rules) ∧
      ∀ mark items rest, mark = '!' ∨ mark = '^' →
        WritesClass rules pattern ⟨false, items⟩ rest →
          {c | (rules.bracket? c (mark :: pattern)).isSome} =
            {c | (rules.bracket? c pattern).isSome}ᶜ := by
  refine ⟨Rules.bracket?_eq_none, ?_, ?_⟩
  · intro members rest isClass
    exact ⟨isClass.suffix, fun c after => Rules.bracket?_eq_some_iff isClass⟩
  · intro mark items rest isMark isClass
    exact setOf_bracket?_mark isMark isClass

/-- A negated class with a range that starts with an escaped bracket, one that starts with an
escaped minus sign, and a minus sign directly before the closing bracket. -/
def crowded : Text :=
  "^\\]-a\\--/b-]x".toList

/-- The items of that class. -/
def crowdedClass : CharClass :=
  ⟨true, [.range ']' 'a', .range '-' '/', .single 'b', .single '-']⟩

theorem crowded_matches_set :
    (∀ c, (Rules.ofFlags ⟨8⟩).bracket? c "a-".toList = none) ∧
      WritesClass (.ofFlags ⟨8⟩) crowded crowdedClass ['x'] ∧
      'A' ∈ crowdedClass.set (.ofFlags ⟨8⟩) ∧
      (Rules.ofFlags ⟨8⟩).bracket? 'A' crowded = some ['x'] ∧
      {c | ((Rules.ofFlags ⟨8⟩).bracket? c ('!' :: crowded.drop 1)).isSome} =
        {c | ((Rules.ofFlags ⟨8⟩).bracket? c (crowded.drop 1)).isSome}ᶜ := by
  have noClass : ∀ members rest, ¬WritesClass (.ofFlags ⟨8⟩) "a-".toList members rest := by
    intro members rest isClass
    have notRead : (Rules.ofFlags ⟨8⟩).readClass "a-".toList = none := by decide +kernel
    rw [Rules.readClass_eq_some_iff.2 isClass] at notRead
    cases notRead
  have isClass : WritesClass (.ofFlags ⟨8⟩) crowded crowdedClass ['x'] :=
    Rules.readClass_eq_some_iff.1 (by decide +kernel)
  have isOpposite : WritesClass (.ofFlags ⟨8⟩) (crowded.drop 1) ⟨false, crowdedClass.items⟩ ['x'] :=
    Rules.readClass_eq_some_iff.1 (by decide +kernel)
  have isIn : 'A' ∈ crowdedClass.set (.ofFlags ⟨8⟩) :=
    CharClass.mem_set_iff.2 (by decide +kernel)
  obtain ⟨-, matches_iff⟩ := (bracket?_matches_set (.ofFlags ⟨8⟩) crowded).2.1 _ _ isClass
  exact ⟨(bracket?_matches_set (.ofFlags ⟨8⟩) "a-".toList).1 noClass, isClass, isIn,
    (matches_iff 'A' _).2 ⟨rfl, isIn⟩,
    (bracket?_matches_set (.ofFlags ⟨8⟩) (crowded.drop 1)).2.2 _ _ _ (.inl rfl) isOpposite⟩

end Glob
end FilePaths
