import FilePaths.Glob.Matcher

/-!
# What a pattern says

A pattern is read once, from left to right and without looking at any text, as a sequence of
elements: stars, single characters of some kind, and classes that are never closed.  The elements
say which texts the pattern matches; here a star may stand for any run of characters, and all
choices are allowed.

The matcher reads a class anew for every character.  That this gives the class that has been read
here is the subject of the second section.
-/

namespace FilePaths
namespace Glob

/-! ## Elements -/

/-- An item of a class. -/
inductive ClassItem
  | single (member : Char)
  | range (low high : Char)
  deriving DecidableEq, Repr

/-- A class of characters, as it stands between brackets. -/
structure CharClass where
  /-- The class is the complement of its items. -/
  negated : Bool
  /-- The items in order. -/
  items : List ClassItem
  deriving DecidableEq, Repr

/-- An element of a pattern. -/
inductive Element
  /-- Any run of characters, also none. -/
  | star
  /-- Any one character. -/
  | anyChar
  /-- One character of a class. -/
  | oneOf (members : CharClass)
  /-- A class without its closing bracket, which nothing fits. -/
  | unclosed
  /-- One character, up to its case where case does not matter. -/
  | literal (c : Char)
  deriving DecidableEq, Repr

/-- The character belongs to the item. -/
def ClassItem.admits (rules : Rules) (c : Char) : ClassItem → Bool
  | .single member => rules.isMember member c
  | .range low high => rules.inRange low high c

/-- The character belongs to the class. -/
def CharClass.admits (rules : Rules) (c : Char) (members : CharClass) : Bool :=
  members.items.any (ClassItem.admits rules c) != members.negated

/-- The element stands for exactly one character, and the character fits it. -/
def Element.admits (rules : Rules) (c : Char) : Element → Bool
  | .star => false
  | .anyChar => true
  | .oneOf members => members.admits rules c
  | .unclosed => false
  | .literal expected => rules.fold expected == rules.fold c

/-- A sequence of elements matches a whole text. -/
inductive Matches (rules : Rules) : List Element → Text → Prop
  | nil : Matches rules [] []
  | star
      {elements : List Element}
      {text : Text}
      (taken : Text)
      (behind : Matches rules elements text) :
      Matches rules (.star :: elements) (taken ++ text)
  | one
      {element : Element}
      {elements : List Element}
      {c : Char}
      {text : Text}
      (admitted : element.admits rules c = true)
      (behind : Matches rules elements text) :
      Matches rules (element :: elements) (c :: text)

/-- The elements of a segment match the text of a segment: all of it, and a dot in front of the
text only by a dot in front of the pattern, where the rules say so. -/
def SegmentMatches (rules : Rules) (elements : List Element) (text : Text) : Prop :=
  Matches rules elements text ∧
    (rules.period = true → text.head? = some '.' → elements.head? = some (.literal '.'))

namespace Rules

/-! ## Reading -/

/-- The item of a class at the start of a pattern, and the pattern behind it.  A minus sign that
does not stand before the closing bracket makes a range. -/
def readItem? (rules : Rules) (pattern : Text) : Option (ClassItem × Text) :=
  match rules.unescape pattern with
  | [] => none
  | low :: '-' :: rest =>
      if rest.head? = some ']' then some (.single low, '-' :: rest)
      else
        match rules.unescape rest with
        | [] => none
        | high :: rest => some (.range low high, rest)
  | low :: rest => some (.single low, rest)

theorem readItem?_length
    {rules : Rules}
    {pattern rest : Text}
    {item : ClassItem}
    (isItem : rules.readItem? pattern = some (item, rest)) :
    rest.length < pattern.length := by
  unfold readItem? at isItem
  split at isItem
  · simp at isItem
  · rename_i low after readLow
    have lowBound := length_lt_of_unescape readLow
    split at isItem
    · simp only [Option.some.injEq, Prod.mk.injEq] at isItem
      rw [← isItem.2]
      exact lowBound
    · split at isItem
      · simp at isItem
      · rename_i high behind readHigh
        have highBound := length_lt_of_unescape readHigh
        simp only [Option.some.injEq, Prod.mk.injEq] at isItem
        rw [← isItem.2]
        simp only [List.length_cons] at *; omega
  · rename_i low after _ readLow
    simp only [Option.some.injEq, Prod.mk.injEq] at isItem
    rw [← isItem.2]
    exact length_lt_of_unescape readLow

/-- The items of a class up to its closing bracket, and the pattern behind that bracket. -/
def readItems (rules : Rules) (pattern : Text) : Option (List ClassItem × Text) :=
  match pattern with
  | [] => none
  | ']' :: rest => some ([], rest)
  | first :: rest =>
      match _isItem : rules.readItem? (first :: rest) with
      | none => none
      | some (item, rest) =>
          (rules.readItems rest).map fun (items, rest) => (item :: items, rest)
termination_by pattern.length
decreasing_by exact readItem?_length _isItem

/-- The class whose opening bracket stands before the pattern, and the pattern behind its closing
bracket. -/
def readClass (rules : Rules) (pattern : Text) : Option (CharClass × Text) :=
  (rules.readItems (if isNegated pattern then pattern.drop 1 else pattern)).map
    fun (items, rest) => (⟨isNegated pattern, items⟩, rest)

/-- A step of scanning a class reads one item. -/
theorem scanClass_cons
    {rules : Rules}
    {c first : Char}
    {found : Bool}
    {rest : Text}
    (notBracket : first ≠ ']') :
    rules.scanClass c found (first :: rest) =
      (rules.readItem? (first :: rest)).bind fun (item, rest) =>
        rules.scanClass c (found || item.admits rules c) rest := by
  rw [scanClass.eq_3 _ _ _ _ _ notBracket]
  unfold readItem?
  split
  · rename_i readLow
    rw [readLow]; rfl
  · rename_i low after readLow
    simp only [readLow]
    split
    · rfl
    · split <;> simp_all [ClassItem.admits]
  · rename_i low after notRange readLow
    rw [readLow]
    split <;> simp_all [ClassItem.admits]

/-- Scanning a class for a character reads the same items, whatever the character. -/
theorem scanClass_eq_readItems
    (rules : Rules)
    (c : Char)
    (found : Bool)
    (pattern : Text) :
    rules.scanClass c found pattern =
      (rules.readItems pattern).map fun read =>
        (found || read.1.any (ClassItem.admits rules c), read.2) := by
  fun_induction readItems rules pattern generalizing found with
  | case1 => simp [scanClass]
  | case2 => simp [scanClass]
  | case3 first rest notBracket noItem =>
      rw [scanClass_cons notBracket, noItem]
      rfl
  | case4 first rest notBracket item behind isItem ih =>
      rw [scanClass_cons notBracket, isItem]
      simp only [Option.bind_some, ih, Option.map_map]
      congr 1
      funext read
      simp [Bool.or_assoc]

/-- A character fits a class between brackets if it belongs to the class that is read there. -/
theorem bracket?_eq_readClass
    (rules : Rules)
    (c : Char)
    (pattern : Text) :
    rules.bracket? c pattern =
      (rules.readClass pattern).bind fun (members, rest) =>
        if members.admits rules c then some rest else none := by
  unfold bracket? readClass
  rw [scanClass_eq_readItems]
  cases rules.readItems (if isNegated pattern then pattern.drop 1 else pattern) with
  | none => rfl
  | some found =>
      obtain ⟨items, rest⟩ := found
      simp only [Option.map_some, Option.bind_some, Bool.false_or, CharClass.admits]
      by_cases same : items.any (ClassItem.admits rules c) = isNegated pattern <;> simp [same]

theorem readItems_length
    {rules : Rules}
    {pattern rest : Text}
    {items : List ClassItem}
    (isItems : rules.readItems pattern = some (items, rest)) :
    rest.length < pattern.length := by
  fun_induction readItems rules pattern generalizing items with
  | case1 => simp at isItems
  | case2 =>
      simp only [Option.some.injEq, Prod.mk.injEq] at isItems
      simp [isItems.2]
  | case3 => simp at isItems
  | case4 first pattern notBracket item behind isItem ih =>
      obtain ⟨⟨later, after⟩, isLater, isEqual⟩ := Option.map_eq_some_iff.1 isItems
      obtain ⟨-, rfl⟩ := Prod.mk.inj isEqual
      exact Nat.lt_trans (ih isLater) (readItem?_length isItem)

theorem readClass_length
    {rules : Rules}
    {pattern rest : Text}
    {members : CharClass}
    (isClass : rules.readClass pattern = some (members, rest)) :
    rest.length < pattern.length := by
  obtain ⟨⟨items, after⟩, isItems, isEqual⟩ := Option.map_eq_some_iff.1 isClass
  obtain ⟨-, rfl⟩ := Prod.mk.inj isEqual
  have bound := readItems_length isItems
  split at bound
  · simp only [List.length_drop] at bound; omega
  · exact bound

/-- Puts an element in front of what has been read behind it. -/
def push (element : Element) : List Element × Text → List Element × Text
  | (elements, rest) => (element :: elements, rest)

/-- The elements of a pattern up to the end of its first segment, and the pattern from there
on. -/
def read (rules : Rules) (pattern : Text) : List Element × Text :=
  match pattern with
  | '*' :: rest => push .star (rules.read rest)
  | '?' :: rest => push .anyChar (rules.read rest)
  | '[' :: rest =>
      match _isClass : rules.readClass rest with
      | none => ([.unclosed], [])
      | some (members, rest) => push (.oneOf members) (rules.read rest)
  | pattern =>
      match _isLiteral : rules.unescape pattern with
      | [] => ([], [])
      | c :: rest =>
          if rules.ends (c :: rest) then ([], c :: rest)
          else push (.literal c) (rules.read rest)
termination_by pattern.length
decreasing_by
  · simp
  · simp
  · have := readClass_length _isClass
    simp only [List.length_cons]; omega
  · exact length_lt_of_unescape _isLiteral

theorem read_length (rules : Rules) (pattern : Text) :
    (rules.read pattern).2.length ≤ pattern.length := by
  fun_induction read rules pattern with
  | case1 rest ih => simp only [push, List.length_cons]; omega
  | case2 rest ih => simp only [push, List.length_cons]; omega
  | case3 => simp
  | case4 rest members after isClass ih =>
      have := readClass_length isClass
      simp only [push, List.length_cons]; omega
  | case5 => simp
  | case6 pattern _ _ _ c rest isLiteral =>
      have := rules.unescape_length pattern
      rwa [isLiteral] at this
  | case7 pattern _ _ _ c rest isLiteral _ ih =>
      have := length_lt_of_unescape isLiteral
      simp only [push]; omega

/-! ## Texts of one segment -/

/-- The character does not end a segment. -/
def inSegment (rules : Rules) (c : Char) : Bool :=
  !(rules.pathname && c == '/')

/-- The first segment of a text. -/
def segment (rules : Rules) (text : Text) : Text :=
  text.takeWhile rules.inSegment

/-- The text from the end of its first segment on. -/
def beyond (rules : Rules) (text : Text) : Text :=
  text.dropWhile rules.inSegment

end Rules
end Glob
end FilePaths
