import FilePaths.Proofs.Braces.Boundaries
import FilePaths.Proofs.Glob.Casefold
import FilePaths.Proofs.Glob.Reading

/-!
# Patterns that stand for themselves

A pattern spells a text if each of its characters stands for itself, either because it has no
meaning of its own or because a backslash takes it away.  Such a pattern is cut into segments where
the text is, each of them a run of literal characters, and so it matches the text and nothing else,
up to the case of letters where case does not matter.  A text with a backslash in front of every
character is such a pattern, and nothing in it opens a group that is ever closed.
-/

namespace FilePaths
namespace Glob

/-! ## Spelling -/

/-- Every character of the pattern stands for itself, and together they are the text. -/
inductive Spells (rules : Rules) : (pattern text : Text) → Prop
  | nil : Spells rules [] []
  | escaped
      {c : Char}
      {rest text : Text}
      (isEscape : rules.escape = true)
      (behind : Spells rules rest text) :
      Spells rules ('\\' :: c :: rest) (c :: text)
  | ordinary
      {c : Char}
      {rest text : Text}
      (isOrdinary : rules.IsOrdinary c)
      (behind : Spells rules rest text) :
      Spells rules (c :: rest) (c :: text)

section Spelling

variable
  {rules : Rules}
  {pattern text : Text}

/-- The first character that a pattern spells. -/
theorem Spells.exists_of_cons
    {c : Char}
    (spells : Spells rules pattern (c :: text)) :
    ∃ rest, Rules.IsPlain pattern ∧ rules.unescape pattern = c :: rest ∧
      Spells rules rest text := by
  cases spells with
  | escaped isEscape behind =>
      exact ⟨_, by simp [Rules.IsPlain], Rules.unescape_backslash isEscape _, behind⟩
  | ordinary isOrdinary behind =>
      exact ⟨_, isOrdinary.isPlain _, isOrdinary.unescape _, behind⟩

theorem Spells.eq_nil (spells : Spells rules pattern []) : pattern = [] := by
  cases spells
  rfl

theorem Spells.ne_nil
    {c : Char}
    (spells : Spells rules pattern (c :: text)) :
    pattern ≠ [] := by
  rintro rfl
  cases spells

/-- What is read from a pattern that spells a text are the characters of the first segment of the
text, and what is left spells what is left of the text. -/
theorem Spells.read
    (spells : Spells rules pattern text) :
    (rules.read pattern).1 = (rules.segment text).map .literal ∧
      Spells rules (rules.read pattern).2 (rules.beyond text) := by
  induction text generalizing pattern with
  | nil =>
      rw [spells.eq_nil, Rules.read_of_ends (by simp [Rules.IsPlain]) rfl]
      exact ⟨rfl, .nil⟩
  | cons c text ih =>
      obtain ⟨rest, isPlain, isCons, behind⟩ := spells.exists_of_cons
      by_cases isEnd : rules.ends (c :: text) = true
      · have isSlash : rules.pathname = true ∧ c = '/' := by simpa [Rules.ends] using isEnd
        have alsoEnd : rules.ends (rules.unescape pattern) = true := by rwa [isCons]
        have beyond_eq : rules.beyond (c :: text) = c :: text := by
          simp [Rules.beyond, Rules.inSegment, isSlash]
        rw [Rules.read_of_ends isPlain alsoEnd, Rules.ends_eq_true_iff.1 isEnd, beyond_eq, isCons]
        exact ⟨rfl, .ordinary (by simp [Rules.IsOrdinary, isSlash.2]) behind⟩
      · have alsoNoEnd : ¬rules.ends (c :: rest) = true := isEnd
        obtain ⟨elements_eq, left⟩ := ih behind
        rw [Rules.read_of_literal isPlain isCons alsoNoEnd, Rules.segment_cons isEnd,
          Rules.beyond_cons isEnd]
        exact ⟨by rw [Rules.push, elements_eq, List.map_cons], left⟩

/-- A segment of literal characters. -/
def literalSegment (text : Text) : Segment :=
  .single (text.map .literal)

theorem Spells.readSegments_eq
    (isPathname : rules.pathname = true)
    (spells : Spells rules pattern text) :
    rules.readSegments pattern = (Text.splitAt Path.isSlash text).map literalSegment := by
  induction length_eq : text.length using Nat.strongRecOn generalizing pattern text with
  | ind length ih =>
      subst length_eq
      have notSpread : startsWithSpread pattern = false := by
        apply Rules.startsWithSpread_eq_false
        rintro rest rfl
        cases spells with
        | ordinary isOrdinary => exact isOrdinary.1 rfl
      obtain ⟨elements_eq, left⟩ := spells.read
      rw [Rules.readSegments_of_starts notSpread, Rules.splitAt_eq_segment_cons isPathname,
        elements_eq, List.map_cons, literalSegment]
      congr 1
      have shorter : (rules.beyond text).length ≤ text.length :=
        (List.dropWhile_suffix _).length_le
      cases beyond_eq : rules.beyond text with
      | nil =>
          rw [beyond_eq] at left
          rw [left.eq_nil]
          rfl
      | cons slash later =>
          rw [beyond_eq] at left shorter
          obtain ⟨c, rest, rest_eq⟩ := List.exists_cons_of_ne_nil left.ne_nil
          have isSlash := (Rules.eq_slash_of_read rest_eq).1
          rw [rest_eq, isSlash] at left ⊢
          cases left with
          | ordinary _ behind => exact ih _ shorter behind rfl

theorem Spells.patternSegments_eq (spells : Spells rules pattern text) :
    rules.patternSegments pattern = (rules.pathSegments text).map literalSegment := by
  unfold Rules.patternSegments Rules.pathSegments
  split
  · rename_i isPathname
    exact spells.readSegments_eq isPathname
  · rename_i notPathname
    rw [spells.read.1, Rules.segment_of_notPathname (by simpa using notPathname)]
    rfl

end Spelling

/-! ## Literal segments -/

section Literal

variable
  {rules : Rules}
  {text other : Text}
  {texts others : List Text}

theorem matches_literals_iff :
    Matches rules (text.map .literal) other ↔ text.map rules.fold = other.map rules.fold := by
  induction text generalizing other with
  | nil =>
      cases other with
      | nil => exact iff_of_true .nil rfl
      | cons c other => exact iff_of_false not_matches_nil_cons (by simp)
  | cons expected text ih =>
      cases other with
      | nil => exact iff_of_false (not_matches_cons_nil (by simp)) (by simp)
      | cons c other =>
          rw [List.map_cons, matches_cons_iff (by simp), ih, List.map_cons, List.map_cons,
            List.cons.injEq, Element.admits, beq_iff_eq]

/-- A literal dot matches a dot only, so that literal characters match hidden segments too. -/
theorem segmentMatches_literals_iff :
    SegmentMatches rules (text.map .literal) other ↔
      text.map rules.fold = other.map rules.fold := by
  rw [SegmentMatches, matches_literals_iff]
  refine and_iff_left_of_imp fun same _ isDot => ?_
  obtain ⟨rest, rfl⟩ := List.head?_eq_some_iff.1 isDot
  obtain ⟨c, text, rfl, sameHere, -⟩ := List.map_eq_cons_iff.1 same
  rw [Rules.eq_of_fold rfl sameHere.symm]
  rfl

theorem accepts_literals_iff :
    Accepts rules (texts.map literalSegment) others ↔
      texts.map (List.map rules.fold) = others.map (List.map rules.fold) := by
  induction texts generalizing others with
  | nil =>
      cases others with
      | nil => exact iff_of_true .nil rfl
      | cons other others =>
          refine iff_of_false ?_ (by simp)
          rintro ⟨⟩
  | cons text texts ih =>
      cases others with
      | nil =>
          refine iff_of_false ?_ (by simp)
          rintro ⟨⟩
      | cons other others =>
          rw [List.map_cons, literalSegment, accepts_single_iff, segmentMatches_literals_iff, ih,
            List.map_cons, List.map_cons, List.cons.injEq]

end Literal

/-! ## The segments of a path -/

namespace Rules

theorem isSlash_fold (rules : Rules) (c : Char) :
    Path.isSlash (rules.fold c) = Path.isSlash c := by
  unfold fold
  split
  · exact isSlash_toUpper c
  · rfl

theorem pathSegments_injective (rules : Rules) : Function.Injective rules.pathSegments := by
  intro path other same
  unfold pathSegments at same
  split at same
  · exact Path.splitAt_injective same
  · exact List.singleton_inj.1 same

end Rules

/-- A pattern that spells a text matches the paths that are the same when folded. -/
theorem isMatch_iff_of_spells
    {flags : GlobFlags}
    {pattern text path : Text}
    (spells : Spells (.ofFlags flags) pattern text) :
    isMatch flags pattern path = true ↔
      text.map (Rules.ofFlags flags).fold = path.map (Rules.ofFlags flags).fold := by
  rw [isMatch_iff_acceptsSegments, spells.patternSegments_eq, accepts_literals_iff,
    ← Rules.pathSegments_map (Rules.isSlash_fold _),
    ← Rules.pathSegments_map (Rules.isSlash_fold _)]
  exact (Rules.pathSegments_injective _).eq_iff

/-! ## Escaping every character -/

/-- The text with a backslash in front of every character. -/
def escapeAll (text : Text) : Text :=
  text.flatMap fun c => ['\\', c]

theorem escapeAll_cons (c : Char) (text : Text) :
    escapeAll (c :: text) = '\\' :: c :: escapeAll text := rfl

theorem escapeAll_append (first second : Text) :
    escapeAll (first ++ second) = escapeAll first ++ escapeAll second :=
  List.flatMap_append

theorem spells_escapeAll
    {rules : Rules}
    (isEscape : rules.escape = true)
    (text : Text) :
    Spells rules (escapeAll text) text := by
  induction text with
  | nil => exact .nil
  | cons c text ih => exact .escaped isEscape ih

theorem spells_self
    {rules : Rules}
    {text : Text}
    (areOrdinary : ∀ c ∈ text, rules.IsOrdinary c) :
    Spells rules text text := by
  induction text with
  | nil => exact .nil
  | cons c text ih =>
      obtain ⟨isOrdinary, areOrdinary⟩ := List.forall_mem_cons.1 areOrdinary
      exact .ordinary isOrdinary (ih areOrdinary)

end Glob

namespace Braces

open Glob (escapeAll escapeAll_append escapeAll_cons)
open Text.Utf8 (encode encodeChar encode_append encode_cons)

/-- Behind its first byte a character has no byte of a mark. -/
theorem exists_encodeChar_cons (c : Char) (escape : Bool) :
    ∃ first others, encodeChar c = first :: others ∧ Passes escape 0 others := by
  by_cases isAscii : c.toNat < 0x80
  · exact ⟨_, [], Text.Utf8.encodeChar_of_ascii isAscii, .nil⟩
  · have notMark : ∀ byte ∈ encodeChar c, byte ≠ openingByte ∧ byte ≠ closingByte ∧
        byte ≠ commaByte ∧ byte ≠ backslashByte := by
      intro byte isByte
      have notBelow := Text.Utf8.le_of_mem_encodeChar (by omega) isByte
      refine ⟨?_, ?_, ?_, ?_⟩ <;> · rintro rfl; exact absurd notBelow (by decide)
    obtain ⟨first, others, bytes_eq⟩ :=
      List.exists_cons_of_ne_nil (Text.Utf8.encodeChar_ne_nil c)
    rw [bytes_eq] at notMark
    exact ⟨first, others, bytes_eq, passes_of_noMark (List.forall_mem_cons.1 notMark).2⟩

/-- Among escaped characters no group is closed. -/
theorem closing?_escapeAll (text : Text) (depth position : Nat) :
    closing? true (depth + 1) position (encode (escapeAll text)) = none := by
  induction text generalizing position with
  | nil => rfl
  | cons c text ih =>
      obtain ⟨first, others, bytes_eq, isPassed⟩ := exists_encodeChar_cons c true
      have encode_eq : encode (escapeAll (c :: text)) =
          backslashByte :: first :: (others ++ encode (escapeAll text)) := by
        rw [escapeAll_cons, encode_cons, encode_cons, bytes_eq]
        rfl
      rw [encode_eq, closing?_backslash, isPassed.closing, ih]

/-- Where every character is escaped, there is nothing to expand. -/
theorem expand_escapeAll
    {flags : GlobFlags}
    (isEscape : flags.has .noescape = false)
    (text : Text) :
    expand flags (escapeAll text) = [] := by
  by_cases isMember : '{' ∈ text
  · -- The search begins behind the first opening brace, at the start of an escaped character.
    obtain ⟨before, after, rfl, noOpening⟩ := List.eq_append_cons_of_mem isMember
    have encode_eq : encode (escapeAll (before ++ '{' :: after)) =
        encode (escapeAll before ++ ['\\']) ++ openingByte :: encode (escapeAll after) := by
      rw [escapeAll_append, escapeAll_cons, encode_append, encode_append, List.append_assoc]
      rfl
    have notBefore : '{' ∉ escapeAll before ++ ['\\'] := by
      simpa [escapeAll] using noOpening
    rw [expand_eq_nil_iff, encode_eq, group?_of_noOpening (noOpening_of_not_mem notBefore),
      isEscape, Option.map_eq_none_iff]
    exact closing?_escapeAll after 0 _
  · apply expand_of_noOpening
    simpa [escapeAll] using isMember

end Braces

namespace Glob

theorem map_fold_eq_iff
    {flags : GlobFlags}
    {text path : Text} :
    text.map (Rules.ofFlags flags).fold = path.map (Rules.ofFlags flags).fold ↔
      if flags.has .casefold then Text.upper path = Text.upper text else path = text := by
  cases isCasefold : flags.has .casefold with
  | true =>
      have fold_eq : (Rules.ofFlags flags).fold = Char.toUpper :=
        funext (Rules.fold_of_casefold isCasefold)
      rw [fold_eq]
      exact eq_comm
  | false =>
      have fold_eq : (Rules.ofFlags flags).fold = id := by
        funext c
        simp [Rules.fold, Rules.ofFlags, isCasefold]
      rw [fold_eq, List.map_id, List.map_id]
      exact eq_comm

/-- A pattern that spells a text and expands to nothing matches that text only. -/
theorem fnmatch_iff_of_spells
    {flags : GlobFlags}
    {pattern text : Text}
    (spells : Spells (.ofFlags flags) pattern text)
    (noExpansion : Braces.expand flags pattern = [])
    (path : Text) :
    fnmatch flags pattern path = true ↔
      if flags.has .casefold then Text.upper path = Text.upper text else path = text := by
  have onlyItself : attempts flags pattern = [pattern] := by
    rw [attempts, noExpansion, ite_self, List.nil_append]
  rw [fnmatch_eq_any, onlyItself, List.any_cons, List.any_nil, Bool.or_false,
    isMatch_iff_of_spells spells, map_fold_eq_iff]

/-- A text with every character escaped, and a text without marks as it is, match that text and no
other, up to the case of letters under the option for it, whatever the other options are. -/
theorem fnmatch_literal (flags : GlobFlags) (text path : Text) :
    (flags.has .noescape = false →
        (fnmatch flags (escapeAll text) path = true ↔
          if flags.has .casefold then Text.upper path = Text.upper text else path = text)) ∧
      ((∀ c ∈ text, c ≠ '*' ∧ c ≠ '?' ∧ c ≠ '[' ∧ c ≠ '{' ∧ c ≠ '\\') →
        (fnmatch flags text path = true ↔
          if flags.has .casefold then Text.upper path = Text.upper text else path = text)) := by
  constructor
  · intro noNoescape
    have isEscape : (Rules.ofFlags flags).escape = true := by simp [Rules.ofFlags, noNoescape]
    exact fnmatch_iff_of_spells (spells_escapeAll isEscape text)
      (Braces.expand_escapeAll noNoescape text) path
  · intro noMark
    have areOrdinary : ∀ c ∈ text, (Rules.ofFlags flags).IsOrdinary c := by
      intro c isMember
      obtain ⟨notStar, notMark, notBracket, -, notBackslash⟩ := noMark c isMember
      exact ⟨notStar, notMark, notBracket, fun isBackslash => absurd isBackslash notBackslash⟩
    have noOpening : '{' ∉ text := fun isMember => (noMark _ isMember).2.2.2.1 rfl
    exact fnmatch_iff_of_spells (spells_self areOrdinary)
      (Braces.expand_of_noOpening noOpening flags) path

/-- A text with a hidden segment, a comma and a closing brace, none of which needs a backslash. -/
def markless : Text :=
  ['.', 'a', '/', 'é', ',', '}']

theorem fnmatch_literal_in_folders :
    (⟨0x1a⟩ : GlobFlags).has .noescape = false ∧
      fnmatch ⟨0x1a⟩ (escapeAll ".a/{é,*}".toList) ".A/{é,*}".toList = true ∧
      (∀ c ∈ markless, c ≠ '*' ∧ c ≠ '?' ∧ c ≠ '[' ∧ c ≠ '{' ∧ c ≠ '\\') ∧
      fnmatch ⟨0x1b⟩ markless ['.', 'A', '/', 'é', ',', '}'] = true ∧
      ¬fnmatch ⟨0x1b⟩ markless ['.', 'A', '/', 'É', ',', '}'] = true := by
  have noNoescape : (⟨0x1a⟩ : GlobFlags).has .noescape = false := by decide
  have noMark : ∀ c ∈ markless, c ≠ '*' ∧ c ≠ '?' ∧ c ≠ '[' ∧ c ≠ '{' ∧ c ≠ '\\' := by
    simp [markless]
  refine ⟨noNoescape, ?_, noMark, ?_, ?_⟩
  · exact ((fnmatch_literal ⟨0x1a⟩ _ _).1 noNoescape).2 (by decide)
  · exact ((fnmatch_literal ⟨0x1b⟩ _ _).2 noMark).2 (by decide)
  · exact mt ((fnmatch_literal ⟨0x1b⟩ _ _).2 noMark).1 (by decide)

end Glob
end FilePaths
