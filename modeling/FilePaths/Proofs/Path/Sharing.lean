import FilePaths.Path.Join

/-!
# Joining shared lists

Lists that mention each other by name need not unfold into a finite tree.  Joining them remembers
which lists are being joined at the moment, and takes no other precaution.  The lists it remembers
are exactly those on the way down to the place where it is, so a list that is met again while it is
remembered contains itself, and a list that is met again behind the place where it stood has been
forgotten by then.

Two statements make this precise: joining ends on every heap of lists, and what it ends with says
the truth about the lists that can be reached.
-/

namespace FilePaths
namespace Path

section Lists

variable {count : Nat} (lists : Fin count → List (Item count))

/-! ## What can be reached -/

/-- An item that stands among the given items, or in a list that can be reached from them. -/
inductive Reaches (items : List (Item count)) : Item count → Prop
  | here
      {item : Item count}
      (isMember : item ∈ items) :
      Reaches items item
  | inside
      {name : Fin count}
      {item : Item count}
      (outer : Reaches items (.list name))
      (isMember : item ∈ lists name) :
      Reaches items item

/-- The list contains itself, directly or through other lists. -/
def ContainsItself (name : Fin count) : Prop :=
  Reaches lists (lists name) (.list name)

/-- No text that can be reached holds the null character. -/
def NoNull (items : List (Item count)) : Prop :=
  ∀ text, Reaches lists items (.fragment text) → '\x00' ∉ text

/-- Some list that can be reached contains itself. -/
def IsRecursive (items : List (Item count)) : Prop :=
  ∃ name, Reaches lists items (.list name) ∧ ContainsItself lists name

variable
  {lists}
  {items others : List (Item count)}
  {item reached : Item count}
  {name : Fin count}

theorem Reaches.of_subset
    (reaches : Reaches lists items reached)
    (isSubset : items ⊆ others) :
    Reaches lists others reached := by
  induction reaches with
  | here isMember => exact .here (isSubset isMember)
  | inside _ isMember ih => exact .inside ih isMember

theorem Reaches.trans
    (outer : Reaches lists items (.list name))
    (reaches : Reaches lists (lists name) reached) :
    Reaches lists items reached := by
  induction reaches with
  | here isMember => exact .inside outer isMember
  | inside _ isMember ih => exact .inside ih isMember

theorem Reaches.cons_cases (reaches : Reaches lists (item :: items) reached) :
    reached = item ∨ (∃ name, item = .list name ∧ Reaches lists (lists name) reached) ∨
      Reaches lists items reached := by
  induction reaches with
  | here isMember => exact (List.mem_cons.1 isMember).imp_right fun later => .inr (.here later)
  | inside _ isMember ih =>
      rcases ih with rfl | ⟨name, rfl, inside⟩ | later
      · exact .inr (.inl ⟨_, rfl, .here isMember⟩)
      · exact .inr (.inl ⟨name, rfl, .inside inside isMember⟩)
      · exact .inr (.inr (.inside later isMember))

theorem not_reaches_nil : ¬Reaches lists [] reached := by
  intro reaches
  induction reaches with
  | here isMember => simp at isMember
  | inside _ _ ih => exact ih

theorem noNull_nil : NoNull lists [] :=
  fun _ reaches => absurd reaches not_reaches_nil

theorem NoNull.cons_fragment
    {text : Text}
    (noNull : '\x00' ∉ text)
    (behind : NoNull lists items) :
    NoNull lists (.fragment text :: items) := by
  intro other reaches
  rcases reaches.cons_cases with isHere | ⟨name, isList, -⟩ | later
  · rw [Item.fragment.inj isHere]
    exact noNull
  · cases isList
  · exact behind other later

theorem NoNull.cons_list
    (inside : NoNull lists (lists name))
    (behind : NoNull lists items) :
    NoNull lists (.list name :: items) := by
  intro text reaches
  rcases reaches.cons_cases with isHere | ⟨other, isList, inner⟩ | later
  · cases isHere
  · obtain rfl := Item.list.inj isList
    exact inside text inner
  · exact behind text later

end Lists

/-! ## The finite unfolding -/

/-- A fragment, or a list that is shared with nothing. -/
inductive Nested
  | fragment (text : Text)
  | list (items : List Nested)

mutual

/-- The path of a fragment, or that of a list whose items are joined. -/
def Nested.path : Nested → Text
  | .fragment text => text
  | .list items => join (pathsOf items)

/-- The paths of the items of a list. -/
def pathsOf : List Nested → List Text
  | [] => []
  | item :: items => item.path :: pathsOf items

end

section Lists

variable {count : Nat} (lists : Fin count → List (Item count))

/-- The second list is the first with a copy of its own for every mention of a shared list. -/
inductive Unfolds : List (Item count) → List Nested → Prop
  | nil : Unfolds [] []
  | fragment
      {items : List (Item count)}
      {copies : List Nested}
      (text : Text)
      (behind : Unfolds items copies) :
      Unfolds (.fragment text :: items) (.fragment text :: copies)
  | list
      {name : Fin count}
      {items : List (Item count)}
      {inner copies : List Nested}
      (inside : Unfolds (lists name) inner)
      (behind : Unfolds items copies) :
      Unfolds (.list name :: items) (.list inner :: copies)

variable {lists}

/-- There is at most one finite unfolding. -/
theorem Unfolds.unique
    {items : List (Item count)}
    {copies others : List Nested}
    (unfolds : Unfolds lists items copies)
    (alsoUnfolds : Unfolds lists items others) :
    copies = others := by
  induction unfolds generalizing others with
  | nil =>
      cases alsoUnfolds
      rfl
  | fragment text _ ih =>
      cases alsoUnfolds with
      | fragment _ behind => rw [ih behind]
  | list _ _ insideIH behindIH =>
      cases alsoUnfolds with
      | list inside behind => rw [insideIH inside, behindIH behind]

/-- What has a finite unfolding does not lead to a list that contains itself. -/
theorem Unfolds.not_containsItself
    {items : List (Item count)}
    {copies : List Nested}
    (unfolds : Unfolds lists items copies)
    {name : Fin count}
    (reaches : Reaches lists items (.list name)) :
    ¬ContainsItself lists name := by
  induction unfolds generalizing name with
  | nil => exact absurd reaches not_reaches_nil
  | fragment text _ ih =>
      rcases reaches.cons_cases with isHere | ⟨other, isList, -⟩ | later
      · cases isHere
      · cases isList
      · exact ih later
  | list _ _ insideIH behindIH =>
      rcases reaches.cons_cases with isHere | ⟨other, isList, inner⟩ | later
      · obtain rfl := Item.list.inj isHere
        -- If it contained itself, it would be a list reached from its own items.
        exact fun containsItself => insideIH containsItself containsItself
      · obtain rfl := Item.list.inj isList
        exact insideIH inner
      · exact behindIH later

end Lists

/-! ## A run of joining -/

/-- The texts joined behind what has been joined so far. -/
def joinFrom (joined : Option Text) (texts : List Text) : Text :=
  (texts.foldl (fun joined text => some (appendTo joined text)) joined).getD []

theorem joinFrom_cons (joined : Option Text) (text : Text) (texts : List Text) :
    joinFrom joined (text :: texts) = joinFrom (some (appendTo joined text)) texts := rfl

theorem joinFrom_some (path : Text) (texts : List Text) :
    joinFrom (some path) texts = texts.foldl append path := by
  induction texts generalizing path with
  | nil => rfl
  | cons text texts ih =>
      rw [joinFrom_cons, ih]
      rfl

theorem joinFrom_none (texts : List Text) : joinFrom none texts = join texts := by
  cases texts with
  | nil => rfl
  | cons text texts =>
      rw [joinFrom_cons, joinFrom_some]
      rfl

section Lists

variable {count : Nat} (lists : Fin count → List (Item count))

/-- Joining items behind what has been joined so far, while the active lists are being joined.  An
active list is refused; any other list is active while its items are joined, and no longer. -/
inductive Joins : (active : List (Fin count)) → (joined : Option Text) → List (Item count) →
    Except Error Text → Prop
  | nil
      {active : List (Fin count)}
      {joined : Option Text} :
      Joins active joined [] (.ok (joined.getD []))
  | invalid
      {active : List (Fin count)}
      {joined : Option Text}
      {text : Text}
      {items : List (Item count)}
      {error : Error}
      (isInvalid : checkNull text = .error error) :
      Joins active joined (.fragment text :: items) (.error error)
  | fragment
      {active : List (Fin count)}
      {joined : Option Text}
      {text : Text}
      {items : List (Item count)}
      {result : Except Error Text}
      (isValid : checkNull text = .ok ())
      (behind : Joins active (some (appendTo joined text)) items result) :
      Joins active joined (.fragment text :: items) result
  | recursive
      {active : List (Fin count)}
      {joined : Option Text}
      {name : Fin count}
      {items : List (Item count)}
      (isActive : name ∈ active) :
      Joins active joined (.list name :: items) (.error .recursiveStructure)
  | failed
      {active : List (Fin count)}
      {joined : Option Text}
      {name : Fin count}
      {items : List (Item count)}
      {error : Error}
      (notActive : name ∉ active)
      (inside : Joins (name :: active) none (lists name) (.error error)) :
      Joins active joined (.list name :: items) (.error error)
  | list
      {active : List (Fin count)}
      {joined : Option Text}
      {name : Fin count}
      {items : List (Item count)}
      {inner : Text}
      {result : Except Error Text}
      (notActive : name ∉ active)
      (inside : Joins (name :: active) none (lists name) (.ok inner))
      (behind : Joins active (some (appendTo joined inner)) items result) :
      Joins active joined (.list name :: items) result

variable {lists}

/-- The free lists are those that are not active, each once. -/
structure AreFree (active free : List (Fin count)) : Prop where
  /-- No list is free twice. -/
  once : free.Nodup
  /-- A list is either free or active. -/
  mem_iff : ∀ name, name ∈ free ↔ name ∉ active

theorem AreFree.erase
    {active free : List (Fin count)}
    (areFree : AreFree active free)
    (name : Fin count) :
    AreFree (name :: active) (free.erase name) where
  once := areFree.once.erase name
  mem_iff other := by
    rw [areFree.once.mem_erase_iff, areFree.mem_iff other, List.mem_cons, not_or]

/-- Joining ends, since a list that becomes active is taken from the free ones. -/
theorem joins_joinItemsFrom
    {active free : List (Fin count)}
    (areFree : AreFree active free)
    (joined : Option Text)
    (items : List (Item count)) :
    Joins lists active joined items (joinItemsFrom lists free joined items) := by
  fun_induction joinItemsFrom lists free joined items generalizing active with
  | case1 => exact .nil
  | case2 free joined text items error isInvalid => exact .invalid isInvalid
  | case3 free joined text items isValid ih => exact .fragment isValid (ih areFree)
  | case4 free joined name items isFree error isError ih =>
      have inside := ih (areFree.erase name)
      rw [isError] at inside
      exact .failed ((areFree.mem_iff name).1 isFree) inside
  | case5 free joined name items isFree inner isInner insideIH behindIH =>
      have inside := insideIH (areFree.erase name)
      rw [isInner] at inside
      exact .list ((areFree.mem_iff name).1 isFree) inside (behindIH areFree)
  | case6 free joined name items notFree =>
      have isActive : name ∈ active :=
        Decidable.of_not_not fun notActive => notFree ((areFree.mem_iff name).2 notActive)
      exact .recursive isActive

/-- No other result is possible. -/
theorem Joins.unique
    {active : List (Fin count)}
    {joined : Option Text}
    {items : List (Item count)}
    {result other : Except Error Text}
    (first : Joins lists active joined items result)
    (second : Joins lists active joined items other) :
    result = other := by
  induction first generalizing other with
  | nil =>
      cases second
      rfl
  | invalid isInvalid =>
      cases second with
      | invalid alsoInvalid => rw [Except.error.inj (isInvalid.symm.trans alsoInvalid)]
      | fragment isValid => simp [isInvalid] at isValid
  | fragment isValid _ ih =>
      cases second with
      | invalid isInvalid => simp [isValid] at isInvalid
      | fragment _ behind => exact ih behind
  | recursive isActive =>
      cases second with
      | recursive => rfl
      | failed notActive => exact absurd isActive notActive
      | list notActive => exact absurd isActive notActive
  | failed notActive _ ih =>
      cases second with
      | recursive isActive => exact absurd isActive notActive
      | failed _ inside => exact congrArg Except.error (Except.error.inj (ih inside))
      | list _ inside => cases ih inside
  | list notActive _ _ insideIH behindIH =>
      cases second with
      | recursive isActive => exact absurd isActive notActive
      | failed _ inside => cases insideIH inside
      | list _ inside behind =>
          obtain rfl := Except.ok.inj (insideIH inside)
          exact behindIH behind

/-! ## The meaning of a result -/

variable (lists)

/-- A result of joining says the truth about what can be reached: a path is that of the finite
unfolding of the items, and an error has its reason. -/
def IsJoined (joined : Option Text) (items : List (Item count)) : Except Error Text → Prop
  | .ok path => NoNull lists items ∧
      ∃ copies, Unfolds lists items copies ∧ path = joinFrom joined (pathsOf copies)
  | .error error =>
      (error = .recursiveStructure ∧ IsRecursive lists items) ∨
        ∃ text, Reaches lists items (.fragment text) ∧ '\x00' ∈ text ∧
          error = .invalidArgument (.nullByte text)

variable
  {lists}
  {joined : Option Text}
  {items others : List (Item count)}

/-- An error keeps its reason where more can be reached. -/
theorem IsJoined.error_of_reaches
    {other : Option Text}
    {error : Error}
    (isJoined : IsJoined lists joined items (.error error))
    (isPart : ∀ reached, Reaches lists items reached → Reaches lists others reached) :
    IsJoined lists other others (.error error) := by
  rcases isJoined with ⟨isRecursive, name, reaches, containsItself⟩ | ⟨text, reaches, isNull⟩
  · exact .inl ⟨isRecursive, name, isPart _ reaches, containsItself⟩
  · exact .inr ⟨text, isPart _ reaches, isNull⟩

theorem IsJoined.cons_fragment
    {text : Text}
    {result : Except Error Text}
    (noNull : '\x00' ∉ text)
    (isJoined : IsJoined lists (some (appendTo joined text)) items result) :
    IsJoined lists joined (.fragment text :: items) result := by
  cases result with
  | error error =>
      exact isJoined.error_of_reaches fun _ reaches => reaches.of_subset (List.subset_cons_self _ _)
  | ok path =>
      obtain ⟨behind, copies, unfolds, path_eq⟩ := isJoined
      exact ⟨behind.cons_fragment noNull, _, .fragment text unfolds, path_eq⟩

theorem IsJoined.cons_list
    {name : Fin count}
    {inner : Text}
    {result : Except Error Text}
    (inside : IsJoined lists none (lists name) (.ok inner))
    (isJoined : IsJoined lists (some (appendTo joined inner)) items result) :
    IsJoined lists joined (.list name :: items) result := by
  cases result with
  | error error =>
      exact isJoined.error_of_reaches fun _ reaches => reaches.of_subset (List.subset_cons_self _ _)
  | ok path =>
      obtain ⟨insideNull, innerCopies, innerUnfolds, inner_eq⟩ := inside
      obtain ⟨behindNull, copies, unfolds, path_eq⟩ := isJoined
      refine ⟨insideNull.cons_list behindNull, _, .list innerUnfolds unfolds, ?_⟩
      rw [path_eq, inner_eq, joinFrom_none, pathsOf, Nested.path, joinFrom_cons]

/-- The active lists stand above the items: each of them leads to every item. -/
def IsDescent
    (lists : Fin count → List (Item count))
    (active : List (Fin count))
    (items : List (Item count)) :
    Prop :=
  ∀ outer ∈ active, ∀ item ∈ items, Reaches lists (lists outer) item

theorem IsDescent.tail
    {active : List (Fin count)}
    {item : Item count}
    (isDescent : IsDescent lists active (item :: items)) :
    IsDescent lists active items :=
  fun outer isActive other isMember =>
    isDescent outer isActive other (List.mem_cons_of_mem _ isMember)

theorem IsDescent.into
    {active : List (Fin count)}
    {name : Fin count}
    (isDescent : IsDescent lists active (.list name :: items)) :
    IsDescent lists (name :: active) (lists name) := by
  intro outer isActive item isMember
  rcases List.mem_cons.1 isActive with rfl | isAbove
  · exact .here isMember
  · exact .inside (isDescent outer isAbove _ List.mem_cons_self) isMember

/-- Every run says the truth, if the active lists stand above the items. -/
theorem Joins.isJoined
    {active : List (Fin count)}
    {result : Except Error Text}
    (joins : Joins lists active joined items result)
    (isDescent : IsDescent lists active items) :
    IsJoined lists joined items result := by
  induction joins with
  | nil => exact ⟨noNull_nil, [], .nil, rfl⟩
  | @invalid _ _ text _ error isInvalid =>
      rcases checkNull_cases text with ⟨isValid, -⟩ | ⟨isNull, holdsNull⟩
      · rw [isValid] at isInvalid
        cases isInvalid
      · rw [isNull] at isInvalid
        cases isInvalid
        exact .inr ⟨text, .here List.mem_cons_self, holdsNull, rfl⟩
  | @fragment _ _ text _ _ isValid _ ih =>
      rcases checkNull_cases text with ⟨-, noNull⟩ | ⟨isNull, -⟩
      · exact (ih isDescent.tail).cons_fragment noNull
      · rw [isNull] at isValid
        cases isValid
  | @recursive _ _ name _ isActive =>
      exact .inl ⟨rfl, name, .here List.mem_cons_self,
        isDescent name isActive _ List.mem_cons_self⟩
  | failed _ _ ih =>
      exact (ih isDescent.into).error_of_reaches fun _ reaches =>
        Reaches.trans (.here List.mem_cons_self) reaches
  | list _ _ _ insideIH behindIH =>
      exact (insideIH isDescent.into).cons_list (behindIH isDescent.tail)

theorem joins_joinItems (items : List (Item count)) :
    Joins lists [] none items (joinItems lists items) :=
  joins_joinItemsFrom ⟨List.nodup_finRange count, by simp⟩ none items

theorem joinItems_isJoined
    (lists : Fin count → List (Item count))
    (items : List (Item count)) :
    IsJoined lists none items (joinItems lists items) :=
  (joins_joinItems items).isJoined fun _ isActive => absurd isActive List.not_mem_nil

/-! ## Detecting recursion -/

theorem exists_joinItems_iff (items : List (Item count)) :
    (∃ path, joinItems lists items = .ok path) ↔ ¬IsRecursive lists items ∧ NoNull lists items := by
  have isJoined := joinItems_isJoined lists items
  cases result : joinItems lists items with
  | ok path =>
      rw [result] at isJoined
      obtain ⟨noNull, copies, unfolds, -⟩ := isJoined
      refine iff_of_true ⟨path, rfl⟩ ⟨?_, noNull⟩
      rintro ⟨name, reaches, containsItself⟩
      exact unfolds.not_containsItself reaches containsItself
  | error error =>
      rw [result] at isJoined
      refine iff_of_false (by simp) ?_
      rintro ⟨notRecursive, noNull⟩
      rcases isJoined with ⟨-, isRecursive⟩ | ⟨text, reaches, isNull, -⟩
      · exact notRecursive isRecursive
      · exact noNull text reaches isNull

theorem unfolds_of_joinItems
    {path : Text}
    (isOk : joinItems lists items = .ok path) :
    (∃ copies, Unfolds lists items copies) ∧
      ∀ copies, Unfolds lists items copies → path = join (pathsOf copies) := by
  have isJoined := joinItems_isJoined lists items
  rw [isOk] at isJoined
  obtain ⟨-, copies, unfolds, path_eq⟩ := isJoined
  refine ⟨⟨copies, unfolds⟩, fun others alsoUnfolds => ?_⟩
  rw [path_eq, joinFrom_none, unfolds.unique alsoUnfolds]

theorem isRecursive_of_joinItems
    (isRefused : joinItems lists items = .error .recursiveStructure) :
    IsRecursive lists items := by
  have isJoined := joinItems_isJoined lists items
  rw [isRefused] at isJoined
  rcases isJoined with ⟨-, isRecursive⟩ | ⟨text, -, -, isOther⟩
  · exact isRecursive
  · cases isOther

theorem joinItems_of_isRecursive
    (noNull : NoNull lists items)
    (isRecursive : IsRecursive lists items) :
    joinItems lists items = .error .recursiveStructure := by
  have isJoined := joinItems_isJoined lists items
  cases result : joinItems lists items with
  | ok path =>
      have notRecursive := ((exists_joinItems_iff items).1 ⟨path, result⟩).1
      exact absurd isRecursive notRecursive
  | error error =>
      rw [result] at isJoined
      rcases isJoined with ⟨rfl, -⟩ | ⟨text, reaches, isNull, -⟩
      · rfl
      · exact absurd isNull (noNull text reaches)

/-- Joining ends on every heap of lists, with one result.  It gives a path exactly if no list that
can be reached contains itself and no text that can be reached holds the null character, and then
the path is that of the finite unfolding, in which every mention of a list has a copy of its own.
Without null characters every list that contains itself is reported, and nothing else is ever
reported as one. -/
theorem joinItems_detects_recursion
    {count : Nat}
    (lists : Fin count → List (Item count))
    (items : List (Item count)) :
    (∀ result, Joins lists [] none items result ↔ result = joinItems lists items) ∧
      ((∃ path, joinItems lists items = .ok path) ↔
        ¬IsRecursive lists items ∧ NoNull lists items) ∧
      (∀ path, joinItems lists items = .ok path →
        (∃ copies, Unfolds lists items copies) ∧
          ∀ copies, Unfolds lists items copies → path = join (pathsOf copies)) ∧
      (NoNull lists items → IsRecursive lists items →
        joinItems lists items = .error .recursiveStructure) ∧
      (joinItems lists items = .error .recursiveStructure → IsRecursive lists items) := by
  refine ⟨fun result => ⟨fun joins => joins.unique (joins_joinItems items), ?_⟩,
    exists_joinItems_iff items, fun path => unfolds_of_joinItems,
    joinItems_of_isRecursive, isRecursive_of_joinItems⟩
  rintro rfl
  exact joins_joinItems items

/-- Three lists: the first is mentioned twice by the second, and the third leads to itself through
the second. -/
def tangled : Fin 3 → List (Item 3)
  | 0 => [.fragment "b".toList]
  | 1 => [.list 0, .list 0, .list 2]
  | 2 => [.fragment "a".toList, .list 1]

/-- The list that contains itself is reported, behind one that is only met twice. -/
theorem tangled_is_recursive :
    NoNull tangled [.list 0, .list 1] ∧ IsRecursive tangled [.list 0, .list 1] ∧
      joinItems tangled [.list 0, .list 1] = .error .recursiveStructure := by
  have noNull : NoNull tangled [.list 0, .list 1] := by
    intro text reaches
    cases reaches with
    | here isMember => simp at isMember
    | @inside name _ _ isMember =>
        match name with
        | 0 => simp_all [tangled]
        | 1 => simp [tangled] at isMember
        | 2 => simp_all [tangled]
  have isRecursive : IsRecursive tangled [.list 0, .list 1] := by
    have below : Reaches tangled (tangled 1) (.list 2) := .here (by simp [tangled])
    exact ⟨1, .here (by simp), .inside below (by simp [tangled])⟩
  exact ⟨noNull, isRecursive,
    (joinItems_detects_recursion tangled [.list 0, .list 1]).2.2.2.1 noNull isRecursive⟩

end Lists
end Path
end FilePaths
