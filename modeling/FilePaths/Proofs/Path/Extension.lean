import FilePaths.Proofs.Path.Splitting
import FilePaths.Proofs.Text.Ends

/-!
# Extensions

The extension of a path is read from its last piece, and what remains of the last component without
it is the stem.  Where a path does not end in a slash, the piece is the component, so that stem and
extension make it up again.  `IsCutAtDot` says which of the dots of a name starts its extension.
-/

namespace FilePaths
namespace Path

variable {path name front rest : Text}

/-- The name is cut at its last dot.  Something stands before that dot, and if nothing stands behind
it, the name is not dots only. -/
structure IsCutAtDot (front rest name : Text) : Prop where
  name_eq : name = front ++ '.' :: rest
  notEmpty : front ≠ []
  noDot : '.' ∉ rest
  notOnlyDots : rest = [] → ∃ c ∈ front, c ≠ '.'

/-! ## Names -/

theorem IsCutAtDot.extensionOf_eq (isCut : IsCutAtDot front rest name) :
    extensionOf name = '.' :: rest := by
  obtain ⟨rfl, notEmpty, noDot, notOnlyDots⟩ := isCut
  have areOther : ∀ c ∈ rest, (c != '.') = true := by
    intro c isMember
    have isOther : c ≠ '.' := by rintro rfl; exact noDot isMember
    simpa using isOther
  have hasExtension : ¬(front ++ ['.'] = [] ∨ front ++ ['.'] = ['.'] ∨
      rest = [] ∧ (front ++ ['.']).all (fun c => c == '.') = true) := by
    rintro (isEmpty | isDot | ⟨isEmpty, areDots⟩)
    · simp at isEmpty
    · exact notEmpty (List.append_left_eq_self.mp isDot)
    · obtain ⟨c, isMember, isOther⟩ := notOnlyDots isEmpty
      exact isOther (by simpa using List.all_eq_true.mp areDots c (by simp [isMember]))
  rw [extensionOf, Text.dropEndWhile_append_cons (by simp) areOther,
    Text.takeEndWhile_append_cons (by simp) areOther]
  exact if_neg hasExtension

/-- A name has no extension, or can be cut where it starts. -/
theorem extensionOf_cases (name : Text) :
    extensionOf name = [] ∨ ∃ front rest, IsCutAtDot front rest name := by
  have pieces_eq := Text.dropEndWhile_append_takeEndWhile (fun c => c != '.') name
  rcases Text.dropEndWhile_cases (fun c => c != '.') name with isEmpty | ⟨front, c, front_eq, isKept⟩
  · left
    rw [extensionOf, isEmpty]
    exact if_pos (.inl rfl)
  · obtain rfl : c = '.' := by simpa using isKept
    by_cases hidden : front = []
    · left
      rw [extensionOf, front_eq, hidden]
      exact if_pos (.inr (.inl rfl))
    by_cases onlyDots : Text.takeEndWhile (fun c => c != '.') name = [] ∧ ∀ c ∈ front, c = '.'
    · left
      rw [extensionOf, front_eq]
      exact if_pos (.inr (.inr ⟨onlyDots.1, by simpa using onlyDots.2⟩))
    · right
      refine ⟨front, Text.takeEndWhile (fun c => c != '.') name, ?_, hidden, ?_, ?_⟩
      · rw [front_eq, List.append_assoc] at pieces_eq
        exact pieces_eq.symm
      · intro isMember
        have isOther := Text.of_mem_takeEndWhile isMember
        simp at isOther
      · intro isEmpty
        simpa [isEmpty] using onlyDots

theorem extensionOf_eq_cons_iff :
    extensionOf name = '.' :: rest ↔ ∃ front, IsCutAtDot front rest name := by
  constructor
  · intro isExtension
    rcases extensionOf_cases name with isEmpty | ⟨front, other, isCut⟩
    · rw [isEmpty] at isExtension
      cases isExtension
    · rw [isCut.extensionOf_eq, List.cons.injEq] at isExtension
      exact ⟨front, isExtension.2 ▸ isCut⟩
  · rintro ⟨front, isCut⟩
    exact isCut.extensionOf_eq

/-! ## Paths -/

theorem lastPiece_of_noSlash (noSlash : '/' ∉ name) :
    lastPiece name = name := by
  have pieces_eq := beforeLastPiece_append_lastPiece name
  rwa [beforeLastPiece_of_noSlash noSlash, List.nil_append] at pieces_eq

theorem basename_of_getLast?_ne (notTrailing : path.getLast? ≠ some '/') :
    basename path = lastPiece path := by
  have kept := dropSlashes_of_getLast?_ne notTrailing
  by_cases isEmpty : path = []
  · subst isEmpty
    rfl
  · have notEmpty : dropSlashes path ≠ [] := by rwa [kept]
    rw [basename_of_dropSlashes_ne notEmpty, kept]

theorem basename_ne_nil (notEmpty : path ≠ []) :
    basename path ≠ [] := by
  by_cases onlySlashes : dropSlashes path = []
  · have split_eq := split_of_dropSlashes_eq_nil notEmpty onlySlashes
    rw [(Prod.mk.inj split_eq).2]
    simp
  · exact (isName_basename onlySlashes).notEmpty

/-- The extension of a path that does not end in a slash is that of its last component. -/
theorem extname_eq_extensionOf (notTrailing : path.getLast? ≠ some '/') :
    extname path = extensionOf (basename path) := by
  rw [extname, basename_of_getLast?_ne notTrailing]

theorem extname_basename (notTrailing : path.getLast? ≠ some '/') :
    extname (basename path) = extname path := by
  have noSlash : '/' ∉ basename path := by
    rw [basename_of_getLast?_ne notTrailing]
    exact noSlash_lastPiece path
  rw [extname_eq_extensionOf notTrailing, extname, lastPiece_of_noSlash noSlash]

/-- The stem is all of the last component if it has no extension, and else what stands before the
dot at which it is cut. -/
theorem stem_cases (notTrailing : path.getLast? ≠ some '/') :
    (stem path = basename path ∧ extname path = []) ∨
      ∃ rest, IsCutAtDot (stem path) rest (basename path) ∧ extname path = '.' :: rest := by
  rw [stem, extname_basename notTrailing, extname_eq_extensionOf notTrailing]
  rcases extensionOf_cases (basename path) with isEmpty | ⟨front, rest, isCut⟩
  · left
    simp [isEmpty]
  · right
    have front_eq : (basename path).take
        ((basename path).length - ('.' :: rest).length) = front := by
      simp [isCut.name_eq]
    rw [isCut.extensionOf_eq, front_eq]
    exact ⟨rest, isCut, rfl⟩

/-- Stem and extension of a path that does not end in a slash make up its last component.  The
extension is empty, or a dot with neither dots nor slashes behind it, and only the empty path has an
empty stem.  The last component on its own has the extension of the path, which is cut from it
exactly where `IsCutAtDot` says. -/
theorem stem_append_extname (notTrailing : path.getLast? ≠ some '/') :
    basenameWithout ['.', '*'] path ++ extname path = basename path ∧
      (extname path = [] ∨ ∃ rest, extname path = '.' :: rest ∧ '.' ∉ rest ∧ '/' ∉ rest) ∧
      (basenameWithout ['.', '*'] path = [] → path = []) ∧
      extname path = extname (basename path) ∧
      ∀ rest, extname path = '.' :: rest ↔ ∃ front, IsCutAtDot front rest (basename path) := by
  have stem_eq : basenameWithout ['.', '*'] path = stem path := if_pos rfl
  have exact_iff : ∀ rest, extname path = '.' :: rest ↔
      ∃ front, IsCutAtDot front rest (basename path) := by
    rw [extname_eq_extensionOf notTrailing]
    exact fun rest => extensionOf_eq_cons_iff
  have isSame : extname path = extname (basename path) := (extname_basename notTrailing).symm
  rw [stem_eq]
  rcases stem_cases notTrailing with ⟨isWhole, isEmpty⟩ | ⟨rest, isCut, isExtension⟩
  · refine ⟨by rw [isWhole, isEmpty, List.append_nil], .inl isEmpty, fun noStem => ?_, isSame,
      exact_iff⟩
    by_contra notEmpty
    exact basename_ne_nil notEmpty (isWhole ▸ noStem)
  · have noSlash : '/' ∉ rest := by
      intro isMember
      apply noSlash_lastPiece path
      rw [← basename_of_getLast?_ne notTrailing, isCut.name_eq]
      simp [isMember]
    exact ⟨by rw [isExtension, ← isCut.name_eq], .inr ⟨rest, isExtension, isCut.noDot, noSlash⟩,
      fun noStem => absurd noStem isCut.notEmpty, isSame, exact_iff⟩

/-- A hidden name with three more dots, below a directory whose name has one too. -/
theorem stem_append_extname_of_hidden :
    "a.b/.c..d".toList.getLast? ≠ some '/' ∧
      basenameWithout ['.', '*'] "a.b/.c..d".toList ++ extname "a.b/.c..d".toList =
        basename "a.b/.c..d".toList ∧
      extname "a.b/.c..d".toList = extname (basename "a.b/.c..d".toList) ∧
      extname "a.b/.c..d".toList = ".d".toList := by
  have notTrailing : "a.b/.c..d".toList.getLast? ≠ some '/' := by decide
  obtain ⟨whole, -, -, isSame, exact_iff⟩ := stem_append_extname notTrailing
  have isCut : IsCutAtDot ".c.".toList ['d'] (basename "a.b/.c..d".toList) :=
    ⟨by decide, by decide, by decide, by decide⟩
  exact ⟨notTrailing, whole, isSame, (exact_iff ['d']).mpr ⟨_, isCut⟩⟩

end Path
end FilePaths
