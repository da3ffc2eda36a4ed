import FilePaths.Glob.Braces
import FilePaths.Glob.Matcher

/-!
# Matching a path

Without the option for path names a pattern matches the whole path at once.  With it both are
cut at slashes and matched segment by segment, and two stars before a slash may take any number
of segments.  Only the last such pair of stars has to be tried again.
-/

namespace FilePaths
namespace Glob

/-- How matching from a segment on ends. -/
inductive Verdict
  | accepted
  /-- No choice is left for the last pair of stars. -/
  | refused
  /-- The last pair of stars may take one more segment. -/
  | mismatch
  deriving DecidableEq, Repr

/-- What stands behind every pair of stars with a slash at the start of a pattern. -/
def dropSpreads : Text → Text
  | '*' :: '*' :: '/' :: rest => dropSpreads rest
  | pattern => pattern

/-- The text starts with two stars and a slash. -/
def startsWithSpread : Text → Bool
  | '*' :: '*' :: '/' :: _ => true
  | _ => false

/-- The texts behind each slash, in order. -/
def laterSegments : Text → List Text
  | [] => []
  | c :: rest => if c = '/' then rest :: laterSegments rest else laterSegments rest

/-- Lets two stars take segments one by one until the attempt behind them does not fail by a
mismatch.  A hidden segment is not taken. -/
def spread (period : Bool) (attempt : Text → Verdict) :
    (text : Text) → (later : List Text) → Verdict
  | text, [] =>
      match attempt text with
      | .mismatch => .refused
      | verdict => verdict
  | text, next :: later =>
      match attempt text with
      | .mismatch =>
          if period && text.head? == some '.' then .refused
          else spread period attempt next later
      | verdict => verdict

theorem dropSpreads_length (pattern : Text) :
    (dropSpreads pattern).length ≤ pattern.length := by
  fun_induction dropSpreads pattern with
  | case1 rest ih => simp only [List.length_cons]; omega
  | case2 => exact Nat.le_refl _

namespace Rules

theorem matchSegment_length
    {rules : Rules}
    {pattern text after left : Text}
    (isMatch : rules.matchSegment pattern text = some (after, left)) :
    after.length ≤ pattern.length := by
  unfold matchSegment at isMatch
  split at isMatch
  · simp at isMatch
  · split at isMatch
    · simp only [Option.some.injEq, Prod.mk.injEq] at isMatch
      rename_i isOutcome
      rw [← isMatch.1]
      exact matchRest_length isOutcome
    · simp at isMatch

/-- Matches a pattern against a path segment by segment. -/
def matchSegments (rules : Rules) (pattern text : Text) : Verdict :=
  let attempt := fun text =>
    match _isMatch : rules.matchSegment (dropSpreads pattern) text with
    | none => .mismatch
    | some (rest, left) =>
        match _isRest : rest, left.dropWhile (· != '/') with
        | [], [] => .accepted
        | _ :: rest, _ :: left => rules.matchSegments rest left
        | _, _ => .mismatch
  if startsWithSpread pattern then spread rules.period attempt text (laterSegments text)
  else attempt text
termination_by pattern.length
decreasing_by
  have := matchSegment_length _isMatch
  have := dropSpreads_length pattern
  simp only [List.length_cons] at *; omega

end Rules

/-- A pattern, brace groups read literally, matches a path. -/
def isMatch (flags : GlobFlags) (pattern path : Text) : Bool :=
  let rules := Rules.ofFlags flags
  if rules.pathname then rules.matchSegments pattern path == .accepted
  else (rules.matchSegment pattern path).isSome

/-- An expansion of the pattern matches a path. -/
def matchesExpansion (flags : GlobFlags) (pattern path : Text) : Bool :=
  flags.has .extglob &&
    (Braces.expand flags pattern).any fun expanded => isMatch flags expanded path

/-- A pattern matches a path: with the option for groups one of its expansions may, and the
pattern itself always may. -/
def fnmatch (flags : GlobFlags) (pattern path : Text) : Bool :=
  matchesExpansion flags pattern path || isMatch flags pattern path

end Glob
end FilePaths
