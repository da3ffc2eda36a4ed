import FilePaths.Proofs.Braces.Boundaries
import FilePaths.Proofs.Glob.Reading

/-!
# Matching alternatives

With the option for groups a pattern is tried together with everything it expands to, whether or
not a group is left in it.  What still holds a brace is harmless: where a pattern has neither
classes nor backslashes, every character in it that is no wildcard has to be found in the path.  So
a path without an opening brace matches a brace expression exactly if it matches one of its words.
-/

namespace FilePaths
namespace Glob

/-! ## Characters of a pattern in the path -/

theorem Matches.exists_of_literal
    {rules : Rules}
    {elements : List Element}
    {text : Text}
    {expected : Char}
    (isMatch : Matches rules elements text)
    (isMember : .literal expected ∈ elements) :
    ∃ c ∈ text, rules.fold expected = rules.fold c := by
  induction isMatch with
  | nil => simp at isMember
  | star taken behind ih =>
      obtain ⟨c, isFound, isSame⟩ := ih (by simpa using isMember)
      exact ⟨c, List.mem_append_right taken isFound, isSame⟩
  | one admitted behind ih =>
      rcases List.mem_cons.1 isMember with rfl | later
      · exact ⟨_, List.mem_cons_self, by simpa [Element.admits] using admitted⟩
      · obtain ⟨c, isFound, isSame⟩ := ih later
        exact ⟨c, List.mem_cons_of_mem _ isFound, isSame⟩

theorem Accepts.exists_of_literal
    {rules : Rules}
    {segments : List Segment}
    {texts : List Text}
    {elements : List Element}
    {expected : Char}
    (accepts : Accepts rules segments texts)
    (isSegment : .single elements ∈ segments)
    (isMember : .literal expected ∈ elements) :
    ∃ text ∈ texts, ∃ c ∈ text, rules.fold expected = rules.fold c := by
  induction accepts with
  | nil => simp at isSegment
  | single here behind ih =>
      rcases List.mem_cons.1 isSegment with isHere | later
      · obtain rfl := Segment.single.inj isHere
        exact ⟨_, List.mem_cons_self, here.1.exists_of_literal isMember⟩
      · obtain ⟨text, isText, isFound⟩ := ih later
        exact ⟨text, List.mem_cons_of_mem _ isText, isFound⟩
  | stop behind ih => exact ih (by simpa using isSegment)
  | take isVisible hasNext behind ih =>
      obtain ⟨text, isText, isFound⟩ := ih isSegment
      exact ⟨text, List.mem_cons_of_mem _ isText, isFound⟩

namespace Rules

/-! ## Patterns without classes and backslashes -/

/-- The pattern holds neither classes nor backslashes. -/
def IsBare (pattern : Text) : Prop :=
  '[' ∉ pattern ∧ '\\' ∉ pattern

theorem IsBare.of_subset
    {pattern other : Text}
    (isBare : IsBare pattern)
    (isSubset : other ⊆ pattern) :
    IsBare other :=
  ⟨fun isMember => isBare.1 (isSubset isMember), fun isMember => isBare.2 (isSubset isMember)⟩

theorem IsBare.unescape
    {pattern : Text}
    (isBare : IsBare pattern)
    (rules : Rules) :
    rules.unescape pattern = pattern := by
  rcases rules.unescape_cases pattern with ⟨-, isCons⟩ | ⟨same, -⟩
  · refine absurd ?_ isBare.2
    rw [isCons]
    exact List.mem_cons_self
  · exact same

/-- What is no wildcard is read as itself, or belongs to a later segment. -/
theorem IsBare.literal_mem_read
    {pattern : Text}
    {expected : Char}
    (isBare : IsBare pattern)
    (rules : Rules)
    (notStar : expected ≠ '*')
    (notQuestion : expected ≠ '?')
    (isWritten : expected ∈ pattern) :
    .literal expected ∈ (rules.read pattern).1 ∨ expected ∈ (rules.read pattern).2 := by
  fun_induction read rules pattern with
  | case1 rest ih =>
      have later := ih (isBare.of_subset (List.subset_cons_self _ _))
        (by simpa [notStar] using isWritten)
      exact later.imp_left (List.mem_cons_of_mem _)
  | case2 rest ih =>
      have later := ih (isBare.of_subset (List.subset_cons_self _ _))
        (by simpa [notQuestion] using isWritten)
      exact later.imp_left (List.mem_cons_of_mem _)
  | case3 => exact absurd List.mem_cons_self isBare.1
  | case4 => exact absurd List.mem_cons_self isBare.1
  | case5 pattern _ _ _ isNil =>
      rw [isBare.unescape] at isNil
      simp [isNil] at isWritten
  | case6 pattern _ _ _ c rest isLiteral =>
      rw [isBare.unescape] at isLiteral
      exact .inr (isLiteral ▸ isWritten)
  | case7 pattern _ _ _ c rest isLiteral _ ih =>
      rw [isBare.unescape] at isLiteral
      subst isLiteral
      rcases List.mem_cons.1 isWritten with rfl | later
      · exact .inl List.mem_cons_self
      · have later := ih (isBare.of_subset (List.subset_cons_self _ _)) later
        exact later.imp_left (List.mem_cons_of_mem _)

/-- What is neither a wildcard nor a slash is read as itself in some segment. -/
theorem IsBare.exists_literal_mem_readSegments
    {pattern : Text}
    {expected : Char}
    (isBare : IsBare pattern)
    (rules : Rules)
    (notStar : expected ≠ '*')
    (notQuestion : expected ≠ '?')
    (notSlash : expected ≠ '/')
    (isWritten : expected ∈ pattern) :
    ∃ elements, .single elements ∈ rules.readSegments pattern ∧ .literal expected ∈ elements := by
  fun_induction readSegments rules pattern with
  | case1 rest ih =>
      obtain ⟨elements, isSegment, isMember⟩ :=
        ih (isBare.of_subset fun c isMember => by simp [isMember])
          (by simpa [notStar, notSlash] using isWritten)
      exact ⟨elements, List.mem_cons_of_mem _ isSegment, isMember⟩
  | case2 pattern notSpread ih =>
      rcases isBare.literal_mem_read rules notStar notQuestion isWritten with isMember | isLater
      · exact ⟨_, List.mem_cons_self, isMember⟩
      · have isSuffix := (rules.read_suffix pattern).2
        obtain ⟨slash, rest, rest_eq⟩ := List.exists_cons_of_ne_nil (List.ne_nil_of_mem isLater)
        have isSlash := (eq_slash_of_read rest_eq).1
        rw [rest_eq] at isSuffix isLater
        have inRest : expected ∈ rest := by simpa [isSlash, notSlash] using isLater
        have restBare : IsBare rest :=
          isBare.of_subset fun c isMember => isSuffix.subset (List.mem_cons_of_mem _ isMember)
        obtain ⟨elements, isSegment, isMember⟩ := ih slash rest rest_eq restBare inRest
        refine ⟨elements, List.mem_cons_of_mem _ ?_, isMember⟩
        split
        · simp_all
        · simp_all

theorem IsBare.exists_literal_mem_patternSegments
    {pattern : Text}
    {expected : Char}
    (isBare : IsBare pattern)
    (rules : Rules)
    (notStar : expected ≠ '*')
    (notQuestion : expected ≠ '?')
    (notSlash : expected ≠ '/')
    (isWritten : expected ∈ pattern) :
    ∃ elements, .single elements ∈ rules.patternSegments pattern ∧
      .literal expected ∈ elements := by
  unfold patternSegments
  split
  · exact isBare.exists_literal_mem_readSegments rules notStar notQuestion notSlash isWritten
  · rename_i notPathname
    rcases isBare.literal_mem_read rules notStar notQuestion isWritten with here | later
    · exact ⟨_, List.mem_singleton.2 rfl, here⟩
    · obtain ⟨slash, rest, rest_eq⟩ := List.exists_cons_of_ne_nil (List.ne_nil_of_mem later)
      exact absurd (eq_slash_of_read rest_eq).2 notPathname

end Rules

/-- Every character of a pattern without classes and backslashes, wildcards and slashes apart, is
found in a path that the pattern matches. -/
theorem exists_of_isMatch
    {flags : GlobFlags}
    {pattern path : Text}
    {expected : Char}
    (isBare : Rules.IsBare pattern)
    (notStar : expected ≠ '*')
    (notQuestion : expected ≠ '?')
    (notSlash : expected ≠ '/')
    (isWritten : expected ∈ pattern)
    (matched : isMatch flags pattern path = true) :
    ∃ c ∈ path, (Rules.ofFlags flags).fold expected = (Rules.ofFlags flags).fold c := by
  rw [isMatch_iff_acceptsSegments] at matched
  obtain ⟨elements, isSegment, isMember⟩ :=
    isBare.exists_literal_mem_patternSegments _ notStar notQuestion notSlash isWritten
  obtain ⟨text, isText, c, isFound, isSame⟩ := matched.exists_of_literal isSegment isMember
  exact ⟨c, Rules.subset_of_mem_pathSegments isText isFound, isSame⟩

/-- A bare pattern with an opening brace matches no path without one. -/
theorem opening_mem_of_isMatch
    {flags : GlobFlags}
    {pattern path : Text}
    (isBare : Rules.IsBare pattern)
    (isWritten : '{' ∈ pattern)
    (matched : isMatch flags pattern path = true) :
    '{' ∈ path := by
  obtain ⟨c, isFound, isSame⟩ :=
    exists_of_isMatch isBare (by decide) (by decide) (by decide) isWritten matched
  rwa [← Rules.eq_of_fold rfl isSame]

/-! ## Alternatives -/

/-- An expression without brackets is written without classes and backslashes, and so is everything
that it expands to. -/
theorem isBare_of_sublist_print
    {expression : Braces.Expression}
    (noBracket : '[' ∉ expression.print)
    {pattern : Text}
    (isSublist : pattern.Sublist expression.print) :
    Rules.IsBare pattern :=
  Rules.IsBare.of_subset ⟨noBracket, Braces.backslash_not_mem_printParts expression⟩
    isSublist.subset

/-- An expansion that matches a path without an opening brace is a word. -/
theorem mem_words_of_isMatch
    {flags : GlobFlags}
    {expression : Braces.Expression}
    {path expanded : Text}
    (noBracket : '[' ∉ expression.print)
    (noBrace : '{' ∉ path)
    (isExpansion : expanded ∈ Braces.expand flags expression.print)
    (matched : isMatch flags expanded path = true) :
    expanded ∈ expression.words := by
  have isBare := isBare_of_sublist_print noBracket (Braces.sublist_of_mem_expand isExpansion)
  have isWhole : '{' ∉ expanded := fun isWritten =>
    noBrace (opening_mem_of_isMatch isBare isWritten matched)
  cases isGroup : expression.hasGroup with
  | false => simp [Braces.expand_of_not_hasGroup flags isGroup] at isExpansion
  | true =>
      rw [← Braces.filter_expand_of_hasGroup flags isGroup, List.mem_filter]
      exact ⟨isExpansion, by simpa using isWhole⟩

/-- The pattern itself matches a path without an opening brace only if it is a word. -/
theorem print_mem_words_of_isMatch
    {flags : GlobFlags}
    {expression : Braces.Expression}
    {path : Text}
    (noBracket : '[' ∉ expression.print)
    (noBrace : '{' ∉ path)
    (matched : isMatch flags expression.print path = true) :
    expression.print ∈ expression.words := by
  have isBare := isBare_of_sublist_print noBracket (List.Sublist.refl _)
  cases isGroup : expression.hasGroup with
  | false => simp [Braces.Expression.words_of_not_hasGroup isGroup]
  | true =>
      have isWritten := (Braces.Expression.opening_mem_print_iff expression).2 isGroup
      exact absurd (opening_mem_of_isMatch isBare isWritten matched) noBrace

/-- Every word that matches is found by expanding, or is the pattern itself. -/
theorem fnmatch_of_mem_words
    {flags : GlobFlags}
    {expression : Braces.Expression}
    {path word : Text}
    (isExtglob : flags.has .extglob = true)
    (isWord : word ∈ expression.words)
    (matched : isMatch flags word path = true) :
    fnmatch flags expression.print path = true := by
  rw [fnmatch, Bool.or_eq_true]
  cases isGroup : expression.hasGroup with
  | false =>
      rw [Braces.Expression.words_of_not_hasGroup isGroup, List.mem_singleton] at isWord
      exact .inr (isWord ▸ matched)
  | true =>
      rw [← Braces.filter_expand_of_hasGroup flags isGroup] at isWord
      rw [matchesExpansion, isExtglob, Bool.true_and, List.any_eq_true]
      exact .inl ⟨word, List.mem_of_mem_filter isWord, matched⟩

/-- With the option for groups, an expression without classes matches a path without an opening
brace exactly if one of its words does.  Writing an expression adds braces and commas to its texts
and nothing else, so there is no bracket in what is written if there is none in the texts. -/
theorem fnmatch_print_iff
    {flags : GlobFlags}
    (isExtglob : flags.has .extglob = true)
    {expression : Braces.Expression}
    (noBracket : '[' ∉ expression.print)
    {path : Text}
    (noBrace : '{' ∉ path) :
    fnmatch flags expression.print path = true ↔
      ∃ word ∈ expression.words, isMatch flags word path = true := by
  constructor
  · intro matched
    rw [fnmatch, Bool.or_eq_true] at matched
    rcases matched with byExpansion | byItself
    · simp only [matchesExpansion, isExtglob, Bool.true_and, List.any_eq_true] at byExpansion
      obtain ⟨expanded, isExpansion, matched⟩ := byExpansion
      exact ⟨expanded, mem_words_of_isMatch noBracket noBrace isExpansion matched, matched⟩
    · exact ⟨expression.print, print_mem_words_of_isMatch noBracket noBrace byItself, byItself⟩
  · rintro ⟨word, isWord, matched⟩
    exact fnmatch_of_mem_words isExtglob isWord matched

/-- Two groups: any folders or one of two, and one of two endings.  The first alternative of the
first group makes a pair of stars. -/
def anyFolders : Braces.Expression :=
  [.group [.plain ⟨"**/".toList, by simp [Braces.isMark]⟩]
      [[.plain ⟨"x".toList, by simp [Braces.isMark]⟩,
        .group [.plain ⟨"y".toList, by simp [Braces.isMark]⟩] [[]],
        .plain ⟨"/".toList, by simp [Braces.isMark]⟩]],
    .plain ⟨"*.".toList, by simp [Braces.isMark]⟩,
    .group [.plain ⟨"rs".toList, by simp [Braces.isMark]⟩]
      [[.plain ⟨"c".toList, by simp [Braces.isMark]⟩]]]

/-- A path is matched by the word with the pair of stars. -/
theorem anyFolders_matches_some_word :
    (⟨0x12⟩ : GlobFlags).has .extglob = true ∧ '[' ∉ anyFolders.print ∧
      '{' ∉ "a/b/lib.rs".toList ∧
        ∃ word ∈ anyFolders.words, isMatch ⟨0x12⟩ word "a/b/lib.rs".toList = true :=
  ⟨by decide, by decide +kernel, by decide,
    (fnmatch_print_iff (by decide) (by decide +kernel) (by decide)).1 (by decide +kernel)⟩

end Glob
end FilePaths
