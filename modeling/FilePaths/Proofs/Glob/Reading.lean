import FilePaths.Proofs.Glob.Spread
import FilePaths.Proofs.Glob.Whole
import FilePaths.Proofs.Path.Components

/-!
# What is read and what it rests on

Reading a pattern goes from end to end of it, and takes its characters from there.  Of the rules it
asks two only, and each only at the character that it is about: whether a backslash escapes, and
whether a slash separates.  Without the option for path names a pattern and a path are one segment
each, so that one relation decides both ways of matching.
-/

namespace FilePaths
namespace Glob

/-! ## The characters of elements -/

/-- The characters that an item is written with. -/
def ClassItem.chars : ClassItem → Text
  | .single member => [member]
  | .range low high => [low, high]

/-- The characters that an element is written with, its marks left out. -/
def Element.chars : Element → Text
  | .oneOf members => members.items.flatMap ClassItem.chars
  | .literal c => [c]
  | .star => []
  | .anyChar => []
  | .unclosed => []

/-- The characters that a segment is written with, its marks left out. -/
def Segment.chars : Segment → Text
  | .spread => []
  | .single elements => elements.flatMap Element.chars

namespace Rules

variable
  {rules : Rules}
  {pattern rest : Text}

/-! ## Ends of a pattern -/

theorem unescape_suffix (rules : Rules) (pattern : Text) :
    rules.unescape pattern <:+ pattern := by
  unfold unescape
  split
  · split
    · exact List.suffix_cons _ _
    · exact List.suffix_refl _
  · exact List.suffix_refl _

theorem suffix_of_unescape
    {c : Char}
    (isCons : rules.unescape pattern = c :: rest) :
    c ∈ pattern ∧ rest <:+ pattern := by
  have isSuffix := rules.unescape_suffix pattern
  rw [isCons] at isSuffix
  exact ⟨isSuffix.subset List.mem_cons_self, (List.suffix_cons c rest).trans isSuffix⟩

/-- An item is written at the start of a pattern. -/
theorem suffix_of_readItem?
    {item : ClassItem}
    (isItem : rules.readItem? pattern = some (item, rest)) :
    item.chars ⊆ pattern ∧ rest <:+ pattern := by
  unfold readItem? at isItem
  split at isItem
  · simp at isItem
  · rename_i low after readLow
    obtain ⟨isLow, isRest⟩ := suffix_of_unescape readLow
    split at isItem
    · obtain ⟨rfl, rfl⟩ := Prod.mk.inj (Option.some.inj isItem)
      exact ⟨by simpa [ClassItem.chars] using isLow, isRest⟩
    · split at isItem
      · simp at isItem
      · rename_i high behind readHigh
        obtain ⟨isHigh, isBehind⟩ := suffix_of_unescape readHigh
        have isAfter := (List.suffix_cons '-' after).trans isRest
        obtain ⟨rfl, rfl⟩ := Prod.mk.inj (Option.some.inj isItem)
        exact ⟨by simp [ClassItem.chars, isLow, isAfter.subset isHigh], isBehind.trans isAfter⟩
  · rename_i low after _ readLow
    obtain ⟨isLow, isRest⟩ := suffix_of_unescape readLow
    obtain ⟨rfl, rfl⟩ := Prod.mk.inj (Option.some.inj isItem)
    exact ⟨by simpa [ClassItem.chars] using isLow, isRest⟩

theorem suffix_of_readItems
    {items : List ClassItem}
    (isItems : rules.readItems pattern = some (items, rest)) :
    items.flatMap ClassItem.chars ⊆ pattern ∧ rest <:+ pattern := by
  fun_induction readItems rules pattern generalizing items with
  | case1 => simp at isItems
  | case2 =>
      obtain ⟨rfl, rfl⟩ := Prod.mk.inj (Option.some.inj isItems)
      exact ⟨by simp, List.suffix_cons _ _⟩
  | case3 => simp at isItems
  | case4 first after notBracket item behind isItem ih =>
      obtain ⟨⟨later, left⟩, isLater, isEqual⟩ := Option.map_eq_some_iff.1 isItems
      obtain ⟨rfl, rfl⟩ := Prod.mk.inj isEqual
      obtain ⟨itemWritten, isBehind⟩ := suffix_of_readItem? isItem
      obtain ⟨laterWritten, isLeft⟩ := ih isLater
      refine ⟨?_, isLeft.trans isBehind⟩
      rw [List.flatMap_cons]
      exact List.append_subset.2 ⟨itemWritten, List.Subset.trans laterWritten isBehind.subset⟩

theorem suffix_of_readClass
    {members : CharClass}
    (isClass : rules.readClass pattern = some (members, rest)) :
    (Element.oneOf members).chars ⊆ pattern ∧ rest <:+ pattern := by
  obtain ⟨⟨items, after⟩, isItems, isEqual⟩ := Option.map_eq_some_iff.1 isClass
  obtain ⟨rfl, rfl⟩ := Prod.mk.inj isEqual
  have isBody : (if isNegated pattern then pattern.drop 1 else pattern) <:+ pattern := by
    split
    · exact List.drop_suffix 1 pattern
    · exact List.suffix_refl _
  obtain ⟨areWritten, isRest⟩ := suffix_of_readItems isItems
  exact ⟨List.Subset.trans areWritten isBody.subset, isRest.trans isBody⟩

/-- Reading the first segment leaves an end of the pattern, and its elements are written with
characters of the pattern. -/
theorem read_suffix (rules : Rules) (pattern : Text) :
    (Segment.single (rules.read pattern).1).chars ⊆ pattern ∧
      (rules.read pattern).2 <:+ pattern := by
  fun_induction read rules pattern with
  | case1 rest ih => exact ⟨List.subset_cons_of_subset _ ih.1, ih.2.trans (List.suffix_cons _ _)⟩
  | case2 rest ih => exact ⟨List.subset_cons_of_subset _ ih.1, ih.2.trans (List.suffix_cons _ _)⟩
  | case3 => exact ⟨List.nil_subset _, List.nil_suffix⟩
  | case4 rest members after isClass ih =>
      obtain ⟨classWritten, isAfter⟩ := suffix_of_readClass isClass
      have isAfter := isAfter.trans (List.suffix_cons '[' rest)
      refine ⟨?_, ih.2.trans isAfter⟩
      exact List.append_subset.2
        ⟨List.subset_cons_of_subset _ classWritten, List.Subset.trans ih.1 isAfter.subset⟩
  | case5 => exact ⟨List.nil_subset _, List.nil_suffix⟩
  | case6 pattern _ _ _ c rest isLiteral =>
      refine ⟨List.nil_subset _, ?_⟩
      rw [← isLiteral]
      exact rules.unescape_suffix pattern
  | case7 pattern _ _ _ c rest isLiteral _ ih =>
      obtain ⟨isWritten, isRest⟩ := suffix_of_unescape isLiteral
      refine ⟨?_, ih.2.trans isRest⟩
      exact List.cons_subset.2 ⟨isWritten, List.Subset.trans ih.1 isRest.subset⟩

/-- Reading stops at the end of a segment. -/
theorem ends_read (rules : Rules) (pattern : Text) :
    rules.ends (rules.read pattern).2 = true := by
  fun_induction read rules pattern with
  | case1 rest ih => exact ih
  | case2 rest ih => exact ih
  | case3 => rfl
  | case4 rest members after isClass ih => exact ih
  | case5 => rfl
  | case6 pattern _ _ _ c rest isLiteral isEnd => exact isEnd
  | case7 pattern _ _ _ c rest isLiteral _ ih => exact ih

/-- What reading leaves goes on with a slash. -/
theorem eq_slash_of_read
    {c : Char}
    (isLeft : (rules.read pattern).2 = c :: rest) :
    c = '/' ∧ rules.pathname = true := by
  have isEnd := rules.ends_read pattern
  rw [isLeft] at isEnd
  simpa [ends, and_comm] using isEnd

/-! ## All segments -/

/-- Every segment is written with characters of the pattern. -/
theorem chars_subset_of_mem_readSegments
    {segment : Segment}
    (isSegment : segment ∈ rules.readSegments pattern) :
    segment.chars ⊆ pattern := by
  fun_induction readSegments rules pattern with
  | case1 rest ih =>
      rcases List.mem_cons.1 isSegment with rfl | isLater
      · exact List.nil_subset _
      · exact List.Subset.trans (ih isLater) fun c isMember => by simp [isMember]
  | case2 pattern notSpread ih =>
      obtain ⟨areWritten, isSuffix⟩ := rules.read_suffix pattern
      rcases List.mem_cons.1 isSegment with rfl | isLater
      · exact areWritten
      · split at isLater
        · cases isLater
        · rename_i slash rest isRest
          rw [isRest] at isSuffix
          have isBehind := (List.suffix_cons slash rest).trans isSuffix
          exact List.Subset.trans (ih slash rest isRest isLater) isBehind.subset

/-- A pattern without slashes is one segment. -/
theorem readSegments_of_noSlash
    (rules : Rules)
    (noSlash : '/' ∉ pattern) :
    rules.readSegments pattern = [.single (rules.read pattern).1] := by
  have notSpread : ∀ rest, pattern = '*' :: '*' :: '/' :: rest → False := by
    rintro rest rfl
    simp at noSlash
  rw [readSegments_of_starts (startsWithSpread_eq_false notSpread)]
  cases isRest : (rules.read pattern).2 with
  | nil => rfl
  | cons c rest =>
      have isSuffix := (rules.read_suffix pattern).2
      rw [isRest, (eq_slash_of_read isRest).1] at isSuffix
      exact absurd (isSuffix.subset List.mem_cons_self) noSlash

/-! ## Rules that read alike -/

theorem readItems_cons
    {first : Char}
    (notBracket : first ≠ ']') :
    rules.readItems (first :: rest) =
      (rules.readItem? (first :: rest)).bind fun (item, rest) =>
        (rules.readItems rest).map fun (items, rest) => (item :: items, rest) := by
  rw [readItems.eq_3 _ _ _ notBracket]
  split <;> simp_all

/-- Two sets of rules read a pattern alike: they agree on what a backslash is and on what a slash
is, or the pattern has none. -/
structure ReadsAlike (rules other : Rules) (pattern : Text) : Prop where
  /-- A backslash escapes under both or under none. -/
  escape : rules.escape = other.escape ∨ '\\' ∉ pattern
  /-- A slash separates under both or under none. -/
  pathname : rules.pathname = other.pathname ∨ '/' ∉ pattern

namespace ReadsAlike

variable {other : Rules}

theorem of_subset
    {part : Text}
    (alike : ReadsAlike rules other pattern)
    (isSubset : part ⊆ pattern) :
    ReadsAlike rules other part where
  escape := alike.escape.imp_right fun isAbsent isMember => isAbsent (isSubset isMember)
  pathname := alike.pathname.imp_right fun isAbsent isMember => isAbsent (isSubset isMember)

theorem unescape_eq (alike : ReadsAlike rules other pattern) :
    rules.unescape pattern = other.unescape pattern := by
  unfold unescape
  split
  · rcases alike.escape with same | isAbsent
    · rw [same]
    · exact absurd List.mem_cons_self isAbsent
  · rfl

theorem ends_eq (alike : ReadsAlike rules other pattern) :
    rules.ends pattern = other.ends pattern := by
  cases pattern with
  | nil => rfl
  | cons c rest =>
      rcases alike.pathname with same | isAbsent
      · rw [ends, ends, same]
      · have notSlash : c ≠ '/' := by
          rintro rfl
          exact isAbsent List.mem_cons_self
        rw [ends, ends, beq_eq_false_iff_ne.2 notSlash, Bool.and_false, Bool.and_false]

theorem readItem?_eq (alike : ReadsAlike rules other pattern) :
    rules.readItem? pattern = other.readItem? pattern := by
  unfold readItem?
  rw [← alike.unescape_eq]
  split
  · rfl
  · rename_i low rest readLow
    have isRest := (List.suffix_cons '-' rest).trans (suffix_of_unescape readLow).2
    rw [(alike.of_subset isRest.subset).unescape_eq]
  · rfl

theorem readItems_eq (alike : ReadsAlike rules other pattern) :
    rules.readItems pattern = other.readItems pattern := by
  fun_induction readItems rules pattern with
  | case1 => rw [readItems]
  | case2 => rw [readItems]
  | case3 first rest notBracket noItem =>
      rw [readItems_cons notBracket, ← alike.readItem?_eq, noItem]
      rfl
  | case4 first rest notBracket item behind isItem ih =>
      have isBehind := (suffix_of_readItem? isItem).2
      rw [readItems_cons notBracket, ← alike.readItem?_eq, isItem, Option.bind_some,
        ih (alike.of_subset isBehind.subset)]

theorem readClass_eq (alike : ReadsAlike rules other pattern) :
    rules.readClass pattern = other.readClass pattern := by
  have isBody : (if isNegated pattern then pattern.drop 1 else pattern) ⊆ pattern := by
    split
    · exact List.drop_subset 1 pattern
    · exact List.Subset.refl _
  rw [readClass, readClass, (alike.of_subset isBody).readItems_eq]

theorem read_eq (alike : ReadsAlike rules other pattern) :
    rules.read pattern = other.read pattern := by
  fun_induction read rules pattern with
  | case1 rest ih => rw [read_star, ih (alike.of_subset (List.subset_cons_self _ _))]
  | case2 rest ih => rw [read_question, ih (alike.of_subset (List.subset_cons_self _ _))]
  | case3 rest noClass =>
      rw [(alike.of_subset (List.subset_cons_self _ _)).readClass_eq] at noClass
      rw [read_bracket_of_none noClass]
  | case4 rest members after isClass ih =>
      have isAfter := (suffix_of_readClass isClass).2.subset
      have ih := ih (alike.of_subset (List.Subset.trans isAfter (List.subset_cons_self _ _)))
      rw [(alike.of_subset (List.subset_cons_self _ _)).readClass_eq] at isClass
      rw [read_bracket_of_some isClass, ih]
  | case5 pattern notStar notQuestion notBracket isNil =>
      have isPlain := isPlain_of_not_special notStar notQuestion notBracket
      rw [alike.unescape_eq] at isNil
      rw [read_of_ends isPlain (by rw [isNil]; rfl), isNil]
  | case6 pattern notStar notQuestion notBracket c rest isLiteral isEnd =>
      have isPlain := isPlain_of_not_special notStar notQuestion notBracket
      have isSuffix := rules.unescape_suffix pattern
      rw [isLiteral] at isSuffix
      rw [alike.unescape_eq] at isLiteral
      rw [(alike.of_subset isSuffix.subset).ends_eq, ← isLiteral] at isEnd
      rw [read_of_ends isPlain isEnd, isLiteral]
  | case7 pattern notStar notQuestion notBracket c rest isLiteral notEnd ih =>
      have isPlain := isPlain_of_not_special notStar notQuestion notBracket
      have isSuffix := rules.unescape_suffix pattern
      rw [isLiteral] at isSuffix
      have ih := ih (alike.of_subset (suffix_of_unescape isLiteral).2.subset)
      rw [alike.unescape_eq] at isLiteral
      rw [(alike.of_subset isSuffix.subset).ends_eq] at notEnd
      rw [read_of_literal isPlain isLiteral notEnd, ih]

theorem readSegments_eq (alike : ReadsAlike rules other pattern) :
    rules.readSegments pattern = other.readSegments pattern := by
  fun_induction readSegments rules pattern with
  | case1 rest ih =>
      rw [readSegments, ih (alike.of_subset fun c isMember => by simp [isMember])]
  | case2 pattern notSpread ih =>
      rw [readSegments_of_starts (startsWithSpread_eq_false notSpread), ← alike.read_eq]
      congr 1
      split
      · rename_i isRest
        rw [isRest]
      · rename_i slash rest isRest
        have isSuffix := (rules.read_suffix pattern).2
        rw [isRest] at isSuffix ⊢
        have isBehind := (List.suffix_cons slash rest).trans isSuffix
        exact ih slash rest isRest (alike.of_subset isBehind.subset)

end ReadsAlike

/-! ## Both ways of matching -/

/-- The segments of a pattern; without the rule for path names it is one segment. -/
def patternSegments (rules : Rules) (pattern : Text) : List Segment :=
  if rules.pathname then rules.readSegments pattern else [.single (rules.read pattern).1]

/-- The segments of a path; without the rule for path names it is one segment. -/
def pathSegments (rules : Rules) (path : Text) : List Text :=
  if rules.pathname then Text.splitAt Path.isSlash path else [path]

theorem chars_subset_of_mem_patternSegments
    {segment : Segment}
    (isSegment : segment ∈ rules.patternSegments pattern) :
    segment.chars ⊆ pattern := by
  unfold patternSegments at isSegment
  split at isSegment
  · exact chars_subset_of_mem_readSegments isSegment
  · rw [List.mem_singleton.1 isSegment]
    exact (rules.read_suffix pattern).1

theorem subset_of_mem_pathSegments
    {path text : Text}
    (isSegment : text ∈ rules.pathSegments path) :
    text ⊆ path := by
  unfold pathSegments at isSegment
  split at isSegment
  · exact fun c isMember => Text.mem_of_mem_splitAt isSegment isMember
  · rw [List.mem_singleton.1 isSegment]
    exact List.Subset.refl _

theorem ReadsAlike.patternSegments_eq
    {other : Rules}
    (alike : ReadsAlike rules other pattern) :
    rules.patternSegments pattern = other.patternSegments pattern := by
  rcases alike.pathname with same | noSlash
  · rw [patternSegments, patternSegments, same, alike.readSegments_eq, alike.read_eq]
  · have isSingle : ∀ rules : Rules, rules.patternSegments pattern =
        [.single (rules.read pattern).1] := by
      intro rules
      rw [patternSegments, rules.readSegments_of_noSlash noSlash, ite_self]
    rw [isSingle, isSingle, alike.read_eq]

theorem pathSegments_map
    {change : Char → Char}
    (same : ∀ c, Path.isSlash (change c) = Path.isSlash c)
    (path : Text) :
    rules.pathSegments (path.map change) = (rules.pathSegments path).map (List.map change) := by
  unfold pathSegments
  split
  · exact Path.splitAt_map same path
  · rfl

theorem pathSegments_congr
    {other : Rules}
    {path : Text}
    (same : rules.pathname = other.pathname ∨ '/' ∉ path) :
    rules.pathSegments path = other.pathSegments path := by
  rcases same with same | noSlash
  · rw [pathSegments, pathSegments, same]
  · rw [pathSegments, pathSegments, Path.splitAt_of_noSlash noSlash, ite_self, ite_self]

end Rules

theorem accepts_singleton_iff
    {rules : Rules}
    {elements : List Element}
    {text : Text} :
    Accepts rules [.single elements] [text] ↔ SegmentMatches rules elements text := by
  rw [accepts_single_iff]
  exact and_iff_left .nil

/-- Segment by segment or all at once, a pattern matches a path if its segments accept those of the
path. -/
theorem isMatch_iff_acceptsSegments (flags : GlobFlags) (pattern path : Text) :
    isMatch flags pattern path = true ↔
      Accepts (Rules.ofFlags flags) ((Rules.ofFlags flags).patternSegments pattern)
        ((Rules.ofFlags flags).pathSegments path) := by
  by_cases isPathname : (Rules.ofFlags flags).pathname = true
  · rw [isMatch, if_pos isPathname, beq_iff_eq,
      (Rules.matchSegments_isRight _ isPathname _ _).eq_accepted_iff, Rules.patternSegments,
      if_pos isPathname, Rules.pathSegments, if_pos isPathname]
  · rw [isMatch_iff_segmentMatches (Bool.eq_false_iff.2 isPathname), Rules.patternSegments,
      if_neg isPathname, Rules.pathSegments, if_neg isPathname, accepts_singleton_iff]

end Glob
end FilePaths
