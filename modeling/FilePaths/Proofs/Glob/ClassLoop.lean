import FilePaths.Proofs.Glob.Positions

/-!
# Classes, turn by turn

A class is read at positions of the pattern, one item a turn, so that it can be seen which places
are looked at.
-/

namespace FilePaths
namespace Glob
namespace Rules

/-! ## Items -/

section Items

variable {rules : Rules} {pattern rest : Text} {low : Char}

theorem readItem?_of_nil (isEmpty : rules.unescape pattern = []) :
    rules.readItem? pattern = none := by
  rw [readItem?, isEmpty]

theorem readItem?_of_single
    (readLow : rules.unescape pattern = low :: rest)
    (notRange : ¬(rest.head? = some '-' ∧ rest[1]? ≠ some ']')) :
    rules.readItem? pattern = some (.single low, rest) := by
  rw [readItem?, readLow]
  split
  · rename_i isEmpty
    cases isEmpty
  · rename_i isRange
    obtain ⟨rfl, rfl⟩ := List.cons.inj isRange
    split
    · rfl
    · rename_i notLast
      exact absurd ⟨rfl, by simpa [List.head?_eq_getElem?] using notLast⟩ notRange
  · rename_i isCons
    obtain ⟨rfl, rfl⟩ := List.cons.inj isCons
    rfl

theorem readItem?_of_range
    (readLow : rules.unescape pattern = low :: '-' :: rest)
    (notLast : rest.head? ≠ some ']') :
    rules.readItem? pattern =
      match rules.unescape rest with
      | [] => none
      | high :: rest => some (.range low high, rest) := by
  rw [readItem?, readLow]
  exact if_neg notLast

end Items
end Rules

/-! ## The loop -/

/-- Where the reading of a class stands. -/
structure ClassCursor where
  /-- The class is negated. -/
  negated : Bool
  /-- The character is one of the items that have been read. -/
  found : Bool := false
  /-- Where the next item starts. -/
  position : Nat
  deriving DecidableEq, Repr

/-- Behind an item, which the character may be one of. -/
def ClassCursor.past (cursor : ClassCursor) (isItem : Bool) (position : Nat) : ClassCursor :=
  { cursor with found := cursor.found || isItem, position }

namespace Rules

/-- Reads a class from behind its opening bracket. -/
def enterClass (pattern : Text) (position : Nat) : Turn ClassCursor (Option Nat) :=
  if pattern.length ≤ position then .ends none
  else
    .look pattern position fun mark =>
      if mark = '!' ∨ mark = '^' then .goesOn { negated := true, position := position + 1 }
      else .goesOn { negated := false, position }

/-- Reads the upper end of a range. -/
def turnAtRange
    (rules : Rules)
    (c : Char)
    (pattern : Text)
    (cursor : ClassCursor)
    (low : Char)
    (position : Nat) :
    Turn ClassCursor (Option Nat) :=
  let stop := rules.unescapeAt pattern position
  match pattern[stop]? with
  | none => .ends none
  | some high => .goesOn (cursor.past (rules.inRange low high c) (stop + 1))

/-- Reads an item of a class, behind which the class must go on. -/
def turnAtItem (rules : Rules) (c : Char) (pattern : Text) (cursor : ClassCursor) :
    Turn ClassCursor (Option Nat) :=
  let start := rules.unescapeAt pattern cursor.position
  match pattern[start]? with
  | none => .ends none
  | some low =>
      if pattern.length ≤ start + 1 then .ends none
      else
        .look pattern (start + 1) fun mark =>
          if mark = '-' ∧ pattern[start + 2]? ≠ some ']' then
            rules.turnAtRange c pattern cursor low (start + 2)
          else .goesOn (cursor.past (rules.isMember low c) (start + 1))

/-- Reads the items of a class, one a turn, and ends with the position behind the class if the
character fits. -/
def classLoop (rules : Rules) (c : Char) (pattern : Text) : Loop ClassCursor (Option Nat) :=
  fun cursor =>
    match pattern[cursor.position]? with
    | none => .ends none
    | some first =>
        if first = ']' then
          .ends (if cursor.found = cursor.negated then none else some (cursor.position + 1))
        else rules.turnAtItem c pattern cursor

/-- The position behind a class that the character fits, the class starting at a position. -/
def classAt (rules : Rules) (c : Char) (pattern : Text) (position : Nat) : Option Nat :=
  (rules.bracket? c (pattern.drop position)).map (placeOf pattern)

/-- What a class comes to once its items have been read. -/
def classResult (pattern : Text) (negated : Bool) : Option (Bool × Text) → Option Nat
  | none => none
  | some (found, rest) => if found = negated then none else some (placeOf pattern rest)

/-- What is settled where the reading of a class stands. -/
def settledClass (rules : Rules) (c : Char) (pattern : Text) (cursor : ClassCursor) : Option Nat :=
  classResult pattern cursor.negated
    (rules.scanClass c cursor.found (pattern.drop cursor.position))

/-- A turn leads further on inside of the pattern, or ends the class, and keeps what is settled. -/
abbrev ClassKeeps (rules : Rules) (c : Char) (pattern : Text) (cursor : ClassCursor) :
    Turn ClassCursor (Option Nat) → Prop :=
  Loop.Keeps (fun cursor => cursor.position ≤ pattern.length)
    (InvImage (· < ·) fun cursor => pattern.length - cursor.position)
    (rules.settledClass c pattern) cursor

section Turns

variable
  {rules : Rules}
  {c first : Char}
  {pattern : Text}
  {cursor : ClassCursor}
  (isHere : pattern[cursor.position]? = some first)
  (notBracket : first ≠ ']')

include isHere notBracket

theorem settledClass_past
    {item : ClassItem}
    {position : Nat}
    (isItem : rules.readItem? (pattern.drop cursor.position) =
      some (item, pattern.drop position)) :
    rules.settledClass c pattern (cursor.past (item.admits rules c) position) =
      rules.settledClass c pattern cursor := by
  rw [drop_of_getElem? isHere] at isItem
  rw [settledClass, settledClass, drop_of_getElem? isHere, scanClass_cons notBracket, isItem]
  rfl

/-- An item that is read settles whether the character is one of it. -/
theorem keeps_item
    {item : ClassItem}
    {position : Nat}
    (isItem : rules.readItem? (pattern.drop cursor.position) =
      some (item, pattern.drop position))
    (isLater : cursor.position < position)
    (inside : position ≤ pattern.length) :
    rules.ClassKeeps c pattern cursor
      (.goesOn (cursor.past (item.admits rules c) position)) :=
  .goesOn inside (Nat.sub_lt_sub_left (Nat.lt_of_lt_of_le isLater inside) isLater)
    (settledClass_past isHere notBracket isItem)

/-- A class without a further item is not closed. -/
theorem keeps_noItem (noItem : rules.readItem? (pattern.drop cursor.position) = none) :
    rules.ClassKeeps c pattern cursor (.ends none) := by
  apply Loop.Keeps.ends
  rw [drop_of_getElem? isHere] at noItem
  rw [settledClass, drop_of_getElem? isHere, scanClass_cons notBracket, noItem]
  rfl

/-- A class that ends behind an item is not closed. -/
theorem keeps_lastItem
    {item : ClassItem}
    (isItem : rules.readItem? (pattern.drop cursor.position) = some (item, [])) :
    rules.ClassKeeps c pattern cursor (.ends none) := by
  apply Loop.Keeps.ends
  rw [drop_of_getElem? isHere] at isItem
  rw [settledClass, drop_of_getElem? isHere, scanClass_cons notBracket, isItem]
  simp [scanClass, classResult]

theorem keeps_turnAtRange
    {low : Char}
    {position : Nat}
    (readLow : rules.unescape (pattern.drop cursor.position) = low :: '-' :: pattern.drop position)
    (notLast : pattern[position]? ≠ some ']')
    (isLater : cursor.position < position) :
    rules.ClassKeeps c pattern cursor (rules.turnAtRange c pattern cursor low position) := by
  have stop_le := rules.le_unescapeAt pattern position
  have item_eq := readItem?_of_range readLow (by rwa [List.head?_drop])
  rw [← drop_unescapeAt] at item_eq
  unfold turnAtRange
  dsimp only
  generalize rules.unescapeAt pattern position = stop at stop_le item_eq
  split
  · rename_i isEnd
    rw [drop_of_getElem?_eq_none isEnd] at item_eq
    exact keeps_noItem isHere notBracket item_eq
  · rename_i high isHigh
    rw [drop_of_getElem? isHigh] at item_eq
    exact keeps_item isHere notBracket item_eq (by omega) (lt_length_of_getElem? isHigh)

theorem keeps_turnAtItem :
    rules.ClassKeeps c pattern cursor (rules.turnAtItem c pattern cursor) := by
  have start_le := rules.le_unescapeAt pattern cursor.position
  have readLow := rules.drop_unescapeAt pattern cursor.position
  unfold turnAtItem
  dsimp only
  generalize rules.unescapeAt pattern cursor.position = start at start_le readLow
  split
  · rename_i isEnd
    rw [drop_of_getElem?_eq_none isEnd] at readLow
    exact keeps_noItem isHere notBracket (readItem?_of_nil readLow.symm)
  rename_i low isLow
  rw [drop_of_getElem? isLow] at readLow
  split
  · rename_i atEnd
    rw [List.drop_eq_nil_iff.2 atEnd] at readLow
    exact keeps_lastItem isHere notBracket (readItem?_of_single readLow.symm (by simp))
  rename_i notEnd
  obtain ⟨mark, isMark⟩ : ∃ mark, pattern[start + 1]? = some mark :=
    ⟨_, List.getElem?_eq_getElem (Nat.not_le.1 notEnd)⟩
  rw [Turn.look_of_getElem? isMark]
  split
  · rename_i isRange
    obtain ⟨rfl, notLast⟩ := isRange
    rw [drop_of_getElem? isMark] at readLow
    exact keeps_turnAtRange isHere notBracket readLow.symm notLast (by omega)
  · rename_i notRange
    have isItem := readItem?_of_single readLow.symm
      (by rwa [List.head?_drop, isMark, List.getElem?_drop, Option.some_inj])
    exact keeps_item isHere notBracket isItem (by omega) (lt_length_of_getElem? isLow)

end Turns

section Classes

variable
  {rules : Rules}
  {c : Char}
  {pattern : Text}
  {cursor : ClassCursor}

theorem classLoop_keeps :
    rules.ClassKeeps c pattern cursor (rules.classLoop c pattern cursor) := by
  unfold classLoop
  split
  · rename_i isEnd
    apply Loop.Keeps.ends
    rw [settledClass, drop_of_getElem?_eq_none isEnd, scanClass]
    rfl
  · rename_i first isHere
    split
    · rename_i isBracket
      apply Loop.Keeps.ends
      rw [settledClass, drop_of_getElem? isHere, isBracket, scanClass, classResult,
        placeOf_drop (lt_length_of_getElem? isHere)]
    · rename_i notBracket
      exact keeps_turnAtItem isHere notBracket

theorem classAt_eq_classResult
    {body : Text}
    {position : Nat}
    (isBody : pattern.drop position = body) :
    rules.classAt c pattern position =
      classResult pattern (isNegated body)
        (rules.scanClass c false (if isNegated body then body.drop 1 else body)) := by
  rw [classAt, bracket?, isBody]
  cases rules.scanClass c false (if isNegated body then body.drop 1 else body) with
  | none => rfl
  | some read => exact apply_ite (Option.map (placeOf pattern)) _ _ _

/-- The first turn reads the mark of a negated class, and the class is settled behind it. -/
theorem enterClass_settles (c : Char) (pattern : Text) (position : Nat) :
    Loop.Settles (fun cursor => cursor.position ≤ pattern.length) (rules.settledClass c pattern)
      (enterClass pattern position) (rules.classAt c pattern position) := by
  unfold enterClass
  split
  · rename_i atEnd
    have isEmpty := List.drop_eq_nil_iff.2 atEnd
    rw [classAt_eq_classResult isEmpty, List.drop_nil, ite_self, scanClass]
    exact .ends _
  rename_i notEnd
  have isBefore := Nat.not_le.1 notEnd
  obtain ⟨mark, isMark⟩ : ∃ mark, pattern[position]? = some mark :=
    ⟨_, List.getElem?_eq_getElem isBefore⟩
  have negated_eq : isNegated (pattern.drop position) = decide (mark = '!' ∨ mark = '^') := by
    simp [isNegated, List.head?_drop, isMark, Bool.beq_eq_decide_eq]
  rw [Turn.look_of_getElem? isMark, classAt_eq_classResult rfl, negated_eq]
  split
  · rename_i isMarked
    refine .goesOn isBefore ?_
    simp [settledClass, isMarked]
  · rename_i notMarked
    refine .goesOn isBefore.le ?_
    simp [settledClass, notMarked]

/-- A class is read to its end, and no index leaves the pattern. -/
theorem classLoop_endsWith (rules : Rules) (c : Char) (pattern : Text) (position : Nat) :
    (rules.classLoop c pattern).EndsWith (enterClass pattern position)
      (rules.classAt c pattern position) :=
  Loop.endsWith_of_settles (fun _ _ => classLoop_keeps) (InvImage.wf _ Nat.lt_wfRel.wf)
    (enterClass_settles c pattern position)

theorem le_length_of_meets
    {position : Nat}
    (meets : (rules.classLoop c pattern).Meets (enterClass pattern position) cursor) :
    cursor.position ≤ pattern.length :=
  Loop.forall_meets_of_settles (fun _ _ => classLoop_keeps)
    (enterClass_settles c pattern position) meets

end Classes

end Rules
end Glob
end FilePaths
