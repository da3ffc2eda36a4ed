import FilePaths.Glob.Flags

/-!
# Matching one segment

A pattern without brace groups is matched against a text up to the end of the current segment.
The matcher is a single walk: what it has to remember is the last star and the place from which
that star may take one more character.  A star in front of the last one need not be tried again,
so a failure behind the last star is final as soon as the text has ended.
-/

namespace FilePaths
namespace Glob

/-- How patterns are read. -/
structure Rules where
  /-- A backslash hides the meaning of the next character. -/
  escape : Bool
  /-- Slashes separate segments, which are matched one by one. -/
  pathname : Bool
  /-- A dot at the start of a segment must stand in the pattern. -/
  period : Bool
  /-- Upper and lower case of ASCII letters are the same. -/
  casefold : Bool
  deriving DecidableEq, Repr

namespace Rules

/-- The rules that a set of options stands for. -/
def ofFlags (flags : GlobFlags) : Rules where
  escape := !flags.has .noescape
  pathname := flags.has .pathname
  period := !flags.has .dotmatch
  casefold := flags.has .casefold

/-- The character that stands for a character and its other case. -/
def fold (rules : Rules) (c : Char) : Char :=
  if rules.casefold then c.toUpper else c

/-- Nothing is left of the segment. -/
def ends (rules : Rules) : Text → Bool
  | [] => true
  | c :: _ => rules.pathname && c == '/'

/-- The pattern behind a backslash that hides the next character. -/
def unescape (rules : Rules) : Text → Text
  | '\\' :: rest => if rules.escape then rest else '\\' :: rest
  | pattern => pattern

theorem unescape_length (rules : Rules) (pattern : Text) :
    (rules.unescape pattern).length ≤ pattern.length := by
  unfold unescape
  split
  · split <;> simp
  · simp

theorem length_lt_of_unescape
    {rules : Rules}
    {pattern rest : Text}
    {c : Char}
    (isCons : rules.unescape pattern = c :: rest) :
    rest.length < pattern.length := by
  have := rules.unescape_length pattern
  rw [isCons] at this
  simp only [List.length_cons] at this; omega

/-- A character is one of a range of a class: it is an end of the range, or lies between the
ends when all three are folded. -/
def inRange (rules : Rules) (low high c : Char) : Bool :=
  low == c || high == c ||
    (rules.fold low ≤ rules.fold c && rules.fold c ≤ rules.fold high)

/-- A character is the single one of a class. -/
def isMember (rules : Rules) (member c : Char) : Bool :=
  member == c || rules.fold member == rules.fold c

/-- Reads the items of a class up to its closing bracket, and sees whether the character is one
of them.  A minus sign that does not stand before the closing bracket makes a range. -/
def scanClass (rules : Rules) (c : Char) (found : Bool) (pattern : Text) :
    Option (Bool × Text) :=
  match pattern with
  | [] => none
  | ']' :: rest => some (found, rest)
  | first :: rest =>
      match _readLow : rules.unescape (first :: rest) with
      | [] => none
      | low :: '-' :: rest =>
          if rest.head? = some ']' then
            rules.scanClass c (found || rules.isMember low c) ('-' :: rest)
          else
            match _readHigh : rules.unescape rest with
            | [] => none
            | high :: rest => rules.scanClass c (found || rules.inRange low high c) rest
      | low :: rest => rules.scanClass c (found || rules.isMember low c) rest
termination_by pattern.length
decreasing_by
  · have := length_lt_of_unescape _readLow
    simpa using this
  · have := length_lt_of_unescape _readLow
    have := length_lt_of_unescape _readHigh
    simp only [List.length_cons] at *; omega
  · exact length_lt_of_unescape _readLow

/-- The class whose opening bracket stands before the pattern is negated. -/
def isNegated (pattern : Text) : Bool :=
  pattern.head? == some '!' || pattern.head? == some '^'

/-- Matches a character against the class whose opening bracket stands before the pattern, and
gives the pattern behind the closing bracket. -/
def bracket? (rules : Rules) (c : Char) (pattern : Text) : Option Text :=
  match rules.scanClass c false (if isNegated pattern then pattern.drop 1 else pattern) with
  | none => none
  | some (found, rest) => if found = isNegated pattern then none else some rest

theorem scanClass_length
    {rules : Rules}
    {c : Char}
    {found result : Bool}
    {pattern rest : Text}
    (isRest : rules.scanClass c found pattern = some (result, rest)) :
    rest.length < pattern.length := by
  fun_induction scanClass rules c found pattern with
  | case1 => simp at isRest
  | case2 =>
      simp only [Option.some.injEq, Prod.mk.injEq] at isRest
      simp [isRest.2]
  | case3 => simp at isRest
  | case4 found first pattern notBracket low after readLow isLast ih =>
      have := ih isRest
      have := length_lt_of_unescape readLow
      simp only [List.length_cons] at *; omega
  | case5 => simp at isRest
  | case6 found first pattern notBracket low after readLow notLast high behind readHigh ih =>
      have := ih isRest
      have := length_lt_of_unescape readLow
      have := length_lt_of_unescape readHigh
      simp only [List.length_cons] at *; omega
  | case7 found first pattern notBracket low after notRange readLow ih =>
      have := ih isRest
      have := length_lt_of_unescape readLow
      simp only [List.length_cons] at *; omega

theorem bracket?_length
    {rules : Rules}
    {c : Char}
    {pattern rest : Text}
    (isRest : rules.bracket? c pattern = some rest) :
    rest.length < pattern.length := by
  unfold bracket? at isRest
  split at isRest
  · simp at isRest
  · rename_i found behind isScan
    split at isRest
    · simp at isRest
    · simp only [Option.some.injEq] at isRest
      have := scanClass_length isScan
      split at this
      · simp only [List.length_drop] at this
        subst isRest; omega
      · subst isRest; exact this

end Rules

/-- How matching a segment ends. -/
inductive Outcome
  /-- The pattern and the text that are left where the segment has been matched. -/
  | matched (pattern text : Text)
  /-- The text has ended too early; no star can help. -/
  | refused
  /-- A character did not fit; the last star may take one more. -/
  | mismatch
  deriving DecidableEq, Repr

/-- Lets a star take characters one by one until the attempt behind it does not fail by a
mismatch. -/
def absorb (attempt : Text → Outcome) : Text → Outcome
  | [] => attempt []
  | c :: rest =>
      match attempt (c :: rest) with
      | .mismatch => absorb attempt rest
      | outcome => outcome

/-- What an absorbing star ends with, the attempt behind it ended with at some later place. -/
theorem exists_of_absorb
    {attempt : Text → Outcome}
    {text after left : Text}
    (isMatch : absorb attempt text = .matched after left) :
    ∃ start, start <:+ text ∧ attempt start = .matched after left := by
  induction text with
  | nil => exact ⟨[], List.suffix_refl _, isMatch⟩
  | cons c rest ih =>
      unfold absorb at isMatch
      split at isMatch
      · obtain ⟨start, isSuffix, isAttempt⟩ := ih isMatch
        exact ⟨start, isSuffix.trans (List.suffix_cons c rest), isAttempt⟩
      · exact ⟨c :: rest, List.suffix_refl _, isMatch⟩

namespace Rules

/-- Matches a pattern against the rest of a segment. -/
def matchRest (rules : Rules) (pattern text : Text) : Outcome :=
  match pattern with
  | '*' :: rest =>
      let behind := rest.dropWhile (· == '*')
      let after := rules.unescape behind
      if rules.ends after then .matched after text
      else if rules.ends text then .refused
      else absorb (fun text => rules.matchRest behind text) text
  | '?' :: rest =>
      match text with
      | [] => .refused
      | c :: text => if rules.ends (c :: text) then .refused else rules.matchRest rest text
  | '[' :: rest =>
      match text with
      | [] => .refused
      | c :: text =>
          if rules.ends (c :: text) then .refused
          else
            match _isClass : rules.bracket? c rest with
            | none => .mismatch
            | some rest => rules.matchRest rest text
  | pattern =>
      if rules.ends text then
        if rules.ends (rules.unescape pattern) then .matched (rules.unescape pattern) text
        else .refused
      else
        match _isLiteral : rules.unescape pattern, text with
        | literal :: rest, c :: text =>
            if rules.ends (literal :: rest) then .mismatch
            else if rules.fold literal = rules.fold c then rules.matchRest rest text
            else .mismatch
        | _, _ => .mismatch
termination_by pattern.length
decreasing_by
  · exact Nat.lt_succ_of_le (List.dropWhile_suffix _).length_le
  · simp
  · have := Rules.bracket?_length _isClass
    simp only [List.length_cons]; omega
  · exact length_lt_of_unescape _isLiteral

theorem matchRest_length
    {rules : Rules}
    {pattern text after left : Text}
    (isMatch : rules.matchRest pattern text = .matched after left) :
    after.length ≤ pattern.length := by
  fun_induction matchRest rules pattern text with
  | case1 text rest behind found atEnd =>
      obtain ⟨rfl, -⟩ := Outcome.matched.inj isMatch
      have : found.length ≤ behind.length := rules.unescape_length behind
      have : behind.length ≤ rest.length := (List.dropWhile_suffix _).length_le
      simp only [List.length_cons]; omega
  | case2 => simp at isMatch
  | case3 text rest behind found notEnd hasText ih =>
      obtain ⟨start, -, isAttempt⟩ := exists_of_absorb isMatch
      have := ih start isAttempt
      have : behind.length ≤ rest.length := (List.dropWhile_suffix _).length_le
      simp only [List.length_cons]; omega
  | case4 => simp at isMatch
  | case5 => simp at isMatch
  | case6 rest c text hasText ih =>
      have := ih isMatch
      simp only [List.length_cons]; omega
  | case7 => simp at isMatch
  | case8 => simp at isMatch
  | case9 => simp at isMatch
  | case10 pattern c text hasText rest isClass ih =>
      have := ih isMatch
      have := bracket?_length isClass
      simp only [List.length_cons]; omega
  | case11 text pattern =>
      obtain ⟨rfl, -⟩ := Outcome.matched.inj isMatch
      exact rules.unescape_length pattern
  | case12 => simp at isMatch
  | case13 => simp at isMatch
  | case14 pattern _ _ _ literal rest c text isLiteral _ _ _ ih =>
      have := ih isMatch
      have := length_lt_of_unescape isLiteral
      omega
  | case15 => simp at isMatch
  | case16 => simp at isMatch

/-- A dot in front of the text that the pattern does not spell out. -/
def isHidden (rules : Rules) (pattern text : Text) : Bool :=
  rules.period && text.head? == some '.' && (rules.unescape pattern).head? != some '.'

/-- Matches a pattern against a text up to the end of the segment, and gives what is left of
both. -/
def matchSegment (rules : Rules) (pattern text : Text) : Option (Text × Text) :=
  if rules.isHidden pattern text then none
  else
    match rules.matchRest pattern text with
    | .matched pattern text => some (pattern, text)
    | _ => none

end Rules
end Glob
end FilePaths
