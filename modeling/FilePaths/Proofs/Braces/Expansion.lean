import FilePaths.Glob.Braces
import FilePaths.Proofs.Braces.Expression
import FilePaths.Proofs.Text.Utf8

/-!
# Expanding brace expressions

Expansion works on the bytes of a written expression and knows nothing of its structure.  It takes
the first opening brace, counts braces up to the one that closes the group, counts them again to
cut the group at its commas, and puts each piece in the place of the group.  Both counts come out
of the writing of an alternative as they went in.  So one step of expansion is a choice for the
leftmost group, and what is left in the end are the words of the expression.
-/

namespace FilePaths
namespace Braces

open Text.Utf8 (encode)

/-! ## One mark -/

section Marks

variable
  {escape : Bool}
  {position start stop : Nat}
  {rest : List UInt8}

theorem closing?_opening (depth : Nat) :
    closing? escape depth position (openingByte :: rest) =
      closing? escape (depth + 1) (position + 1) rest := by
  rw [closing?.eq_def]
  simp

theorem closing?_inner (depth : Nat) :
    closing? escape (depth + 1 + 1) position (closingByte :: rest) =
      closing? escape (depth + 1) (position + 1) rest := by
  rw [closing?.eq_def]
  simp [closingByte, openingByte]

theorem closing?_outermost :
    closing? escape 1 position (closingByte :: rest) = some position := by
  rw [closing?.eq_def]
  simp [closingByte, openingByte]

/-- Where a backslash escapes, the byte behind it is passed over. -/
theorem closing?_backslash (depth : Nat) (byte : UInt8) :
    closing? true depth position (backslashByte :: byte :: rest) =
      closing? true depth (position + 2) rest := by
  rw [closing?.eq_def]
  simp [openingByte, closingByte, backslashByte]

theorem slices_opening
    {depth : Int}
    (before : position < stop) :
    slices escape stop start depth position (openingByte :: rest) =
      slices escape stop start (depth + 1) (position + 1) rest := by
  rw [slices.eq_def]
  simp [Nat.not_le.2 before, depthAfter, openingByte, commaByte, backslashByte]

theorem slices_closing
    {depth : Int}
    (before : position < stop) :
    slices escape stop start (depth + 1) position (closingByte :: rest) =
      slices escape stop start depth (position + 1) rest := by
  rw [slices.eq_def]
  simp [Nat.not_le.2 before, depthAfter, openingByte, closingByte, commaByte, backslashByte]

theorem slices_comma (before : position < stop) :
    slices escape stop start 0 position (commaByte :: rest) =
      ⟨start, position⟩ :: slices escape stop (position + 1) 0 (position + 1) rest := by
  rw [slices.eq_def]
  simp [Nat.not_le.2 before]

/-- At the closing brace of the group the last alternative ends. -/
theorem slices_at_closing {depth : Int} :
    slices escape stop start depth stop rest = [⟨start, stop⟩] := by
  rw [slices.eq_def]
  cases rest <;> simp

end Marks

/-! ## Bytes that both counts pass over -/

/-- Searching the closing brace inside a group, and cutting a group where at least the given number
of braces is open, go on behind the bytes as they went into them. -/
structure Passes (escape : Bool) (least : Int) (bytes : List UInt8) : Prop where
  /-- The search of the closing brace goes on behind the bytes. -/
  closing : ∀ depth position rest,
    closing? escape (depth + 1) position (bytes ++ rest) =
      closing? escape (depth + 1) (position + bytes.length) rest
  /-- The bytes belong to the current alternative. -/
  slices : ∀ stop start depth position rest, least ≤ depth → position + bytes.length ≤ stop →
    slices escape stop start depth position (bytes ++ rest) =
      slices escape stop start depth (position + bytes.length) rest

namespace Passes

variable
  {escape : Bool}
  {least : Int}
  {first second bytes : List UInt8}

theorem nil : Passes escape least [] := by
  constructor
  · intro depth position rest
    rfl
  · intro stop start depth position rest _ _
    rfl

theorem append
    (isFirst : Passes escape least first)
    (isSecond : Passes escape least second) :
    Passes escape least (first ++ second) := by
  constructor
  · intro depth position rest
    rw [List.append_assoc, isFirst.closing, isSecond.closing, List.length_append, Nat.add_assoc]
  · intro stop start depth position rest isLeast inside
    rw [List.length_append, ← Nat.add_assoc] at inside ⊢
    rw [List.append_assoc, isFirst.slices _ _ _ _ _ isLeast (by omega),
      isSecond.slices _ _ _ _ _ isLeast inside]

theorem mono
    (isPassed : Passes escape 0 bytes) :
    Passes escape 1 bytes where
  closing := isPassed.closing
  slices stop start depth position rest isLeast inside :=
    isPassed.slices stop start depth position rest (by omega) inside

/-- A byte that is no mark, or a comma inside of braces. -/
theorem singleton
    {byte : UInt8}
    (notOpening : byte ≠ openingByte)
    (notClosing : byte ≠ closingByte)
    (notBackslash : byte ≠ backslashByte)
    (noCut : byte = commaByte → 0 < least) :
    Passes escape least [byte] := by
  constructor
  · intro depth position rest
    rw [List.singleton_append, closing?.eq_def]
    simp [notOpening, notClosing, notBackslash]
  · intro stop start depth position rest isLeast inside
    simp only [List.length_singleton] at inside
    have before : ¬stop ≤ position := by omega
    have noComma : ¬(byte = commaByte ∧ depth = 0) := by
      rintro ⟨isComma, isOutside⟩
      have := noCut isComma
      omega
    rw [List.singleton_append, slices.eq_def]
    simp [depthAfter, before, noComma, notOpening, notClosing, notBackslash]

/-- Bytes in braces.  The braces count up and down again, and between them commas do not cut. -/
theorem group
    (inside : Passes escape 1 bytes) :
    Passes escape 0 (openingByte :: (bytes ++ [closingByte])) := by
  have length_eq : (openingByte :: (bytes ++ [closingByte])).length = 1 + bytes.length + 1 := by
    simp only [List.length_cons, List.length_append, List.length_nil]
    omega
  constructor
  · intro depth position rest
    rw [List.cons_append, List.append_assoc, closing?_opening, inside.closing,
      List.singleton_append, closing?_inner, length_eq, ← Nat.add_assoc, ← Nat.add_assoc]
  · intro stop start depth position rest isLeast isInside
    rw [length_eq] at isInside
    rw [List.cons_append, List.append_assoc, slices_opening (by omega),
      inside.slices _ _ _ _ _ (by omega) (by omega), List.singleton_append,
      slices_closing (by omega), length_eq, ← Nat.add_assoc, ← Nat.add_assoc]

end Passes

/-! ## The bytes of an expression -/

theorem encode_opening (text : Text) : encode ('{' :: text) = openingByte :: encode text := rfl

theorem encode_closing : encode ['}'] = [closingByte] := rfl

theorem encode_comma (text : Text) : encode (',' :: text) = commaByte :: encode text := rfl

/-- Both counts pass over bytes that are no marks. -/
theorem passes_of_noMark
    {escape : Bool}
    {bytes : List UInt8}
    (noMark : ∀ byte ∈ bytes,
      byte ≠ openingByte ∧ byte ≠ closingByte ∧ byte ≠ commaByte ∧ byte ≠ backslashByte) :
    Passes escape 0 bytes := by
  induction bytes with
  | nil => exact .nil
  | cons byte bytes ih =>
      obtain ⟨notOpening, notClosing, notComma, notBackslash⟩ := noMark byte List.mem_cons_self
      have here : Passes escape 0 [byte] :=
        .singleton notOpening notClosing notBackslash fun isComma => absurd isComma notComma
      exact here.append (ih fun later isMember => noMark later (List.mem_cons_of_mem _ isMember))

theorem PlainText.passes (plain : PlainText) (escape : Bool) :
    Passes escape 0 (encode plain.text) := by
  refine passes_of_noMark fun byte isByte => ?_
  -- Each of the four bytes is that of a mark, which does not stand in the text.
  have notMark : ∀ mark : Char, mark.toNat < 0x80 → isMark mark = true →
      byte ≠ UInt8.ofNat mark.toNat := by
    rintro mark isAscii isMark rfl
    have isMember := (Text.Utf8.mem_encode_iff isAscii plain.text).1 isByte
    simp [plain.noMark mark isMember] at isMark
  exact ⟨notMark '{' (by decide) rfl, notMark '}' (by decide) rfl, notMark ',' (by decide) rfl,
    notMark '\\' (by decide) rfl⟩

mutual

/-- Both counts pass over a part. -/
theorem Part.passes (escape : Bool) : (part : Part) → Passes escape 0 (encode part.print)
  | .plain plain => by
      rw [Part.print]
      exact plain.passes escape
  | .group first others => by
      have inside := (passes_printParts escape first).mono.append (passes_printOthers escape others)
      rw [Part.print, encode_opening, Text.Utf8.encode_append, Text.Utf8.encode_append,
        encode_closing]
      exact inside.group

/-- Both counts pass over a sequence of parts. -/
theorem passes_printParts (escape : Bool) :
    (parts : List Part) → Passes escape 0 (encode (printParts parts))
  | [] => by
      rw [printParts]
      exact .nil
  | part :: parts => by
      rw [printParts, Text.Utf8.encode_append]
      exact (part.passes escape).append (passes_printParts escape parts)

/-- Inside of braces both counts pass over alternatives, with the commas in front of them. -/
theorem passes_printOthers (escape : Bool) :
    (others : List (List Part)) → Passes escape 1 (encode (printOthers others))
  | [] => by
      rw [printOthers]
      exact .nil
  | parts :: others => by
      have comma : Passes escape 1 [commaByte] :=
        .singleton (by decide) (by decide) (by decide) fun _ => by decide
      rw [printOthers, encode_comma, Text.Utf8.encode_append]
      exact comma.append ((passes_printParts escape parts).mono.append
        (passes_printOthers escape others))

end

theorem Expression.passes (escape : Bool) (expression : Expression) :
    Passes escape 0 (encode expression.print) :=
  passes_printParts escape expression

/-- Where there is no opening brace there is no byte of one. -/
theorem noOpening_of_not_mem
    {text : Text}
    (noOpening : '{' ∉ text) :
    ∀ byte ∈ encode text, (byte == openingByte) = false := by
  intro byte isByte
  refine beq_eq_false_iff_ne.2 ?_
  rintro rfl
  have isAscii : '{'.toNat < 0x80 := by decide
  exact noOpening ((Text.Utf8.mem_encode_iff isAscii text).1 isByte)

theorem noOpening_of_not_hasGroup
    {expression : Expression}
    (noGroup : expression.hasGroup = false) :
    ∀ byte ∈ encode expression.print, (byte == openingByte) = false := by
  apply noOpening_of_not_mem
  rw [Expression.opening_mem_print_iff, noGroup]
  simp

/-! ## The first group of some bytes -/

/-- The search for the closing brace begins behind the first opening brace. -/
theorem group?_of_noOpening
    {escape : Bool}
    {front : List UInt8}
    (noOpening : ∀ byte ∈ front, (byte == openingByte) = false)
    (rest : List UInt8) :
    group? escape (front ++ openingByte :: rest) =
      (closing? escape 1 (front.length + 1) rest).map (⟨front.length, ·⟩) := by
  have isFirst : (front ++ openingByte :: rest).findIdx? (· == openingByte) =
      some front.length := by
    rw [List.findIdx?_append, List.findIdx?_eq_none_iff.2 noOpening, List.findIdx?_cons,
      if_pos (beq_self_eq_true _)]
    simp
  unfold group?
  rw [isFirst]
  dsimp only
  rw [← List.drop_drop, List.drop_left]
  rfl

/-- Bytes with a group: those in front of it, those between its braces, and those behind it. -/
def withGroup (front body rest : List UInt8) : List UInt8 :=
  front ++ openingByte :: (body ++ closingByte :: rest)

section WithGroup

variable (front body rest : List UInt8)

theorem take_withGroup : (withGroup front body rest).take front.length = front :=
  List.take_left

theorem drop_withGroup :
    (withGroup front body rest).drop (front.length + 1) = body ++ closingByte :: rest := by
  rw [withGroup, ← List.drop_drop, List.drop_left]
  rfl

theorem drop_behind_withGroup :
    (withGroup front body rest).drop (front.length + 1 + body.length + 1) = rest := by
  rw [← List.drop_drop, ← List.drop_drop, drop_withGroup, List.drop_left]
  rfl

end WithGroup

/-- The first group is found where it stands. -/
theorem group?_withGroup
    {front body : List UInt8}
    {escape : Bool}
    (rest : List UInt8)
    (noOpening : ∀ byte ∈ front, (byte == openingByte) = false)
    (isPassed : Passes escape 1 body) :
    group? escape (withGroup front body rest) =
      some ⟨front.length, front.length + 1 + body.length⟩ := by
  rw [withGroup, group?_of_noOpening noOpening, isPassed.closing 0, closing?_outermost,
    Option.map_some]

/-! ## One step of expansion -/

/-- The bytes of a slice. -/
def Slice.bytes (bytes : List UInt8) (slice : Slice) : List UInt8 :=
  (bytes.take slice.stop).drop slice.start

/-- The slices of a group are its alternatives. -/
theorem slices_bytes
    (escape : Bool)
    {bytes rest : List UInt8}
    {start stop : Nat}
    (first : Expression)
    (others : List Expression)
    (isBody : bytes.drop start = encode (first.print ++ printOthers others) ++ rest)
    (isStop : stop = start + (encode (first.print ++ printOthers others)).length) :
    (slices escape stop start 0 start (bytes.drop start)).map (Slice.bytes bytes) =
      (first :: others).map fun parts => encode parts.print := by
  induction others generalizing first start with
  | nil =>
      simp only [printOthers, List.append_nil] at isBody isStop
      have passed := (first.passes escape).slices stop start 0 start rest (by omega) (by omega)
      have isSlice : Slice.bytes bytes ⟨start, stop⟩ = encode first.print := by
        rw [Slice.bytes, List.drop_take, isBody, isStop, Nat.add_sub_cancel_left, List.take_left]
      rw [isBody, passed, ← isStop, slices_at_closing, List.map_singleton, isSlice,
        List.map_singleton]
  | cons parts others ih =>
      rw [printOthers_cons, Text.Utf8.encode_append, encode_comma, List.append_assoc] at isBody
      rw [printOthers_cons, Text.Utf8.encode_append, encode_comma, List.length_append,
        List.length_cons] at isStop
      have passed := (first.passes escape).slices stop start 0 start
        (commaByte :: (encode (parts.print ++ printOthers others) ++ rest)) (by omega) (by omega)
      have isSlice : Slice.bytes bytes ⟨start, start + (encode first.print).length⟩ =
          encode first.print := by
        rw [Slice.bytes, List.drop_take, isBody, Nat.add_sub_cancel_left, List.take_left]
      have isBehind : bytes.drop (start + (encode first.print).length + 1) =
          encode (parts.print ++ printOthers others) ++ rest := by
        rw [← List.drop_drop, ← List.drop_drop, isBody, List.drop_left]
        rfl
      have later := ih parts isBehind (by omega)
      rw [isBehind] at later
      rw [isBody, List.cons_append, passed, slices_comma (by omega), List.map_cons, isSlice, later]
      rfl

/-- The alternatives of the first group go between what is in front of it and what is behind
it. -/
theorem expandFirst_withGroup
    {escape : Bool}
    {front rest : List UInt8}
    (noOpening : ∀ byte ∈ front, (byte == openingByte) = false)
    (first : Expression)
    (others : List Expression) :
    expandFirst escape (withGroup front (encode (first.print ++ printOthers others)) rest) =
      (first :: others).map fun parts => front ++ (encode parts.print ++ rest) := by
  have isPassed : Passes escape 1 (encode (first.print ++ printOthers others)) := by
    rw [Text.Utf8.encode_append]
    exact (first.passes escape).mono.append (passes_printOthers escape others)
  generalize bytes_eq : withGroup front (encode (first.print ++ printOthers others)) rest = bytes
  have isGroup := group?_withGroup rest noOpening isPassed
  have pieces := slices_bytes escape first others (drop_withGroup front _ rest) rfl
  have inFront := take_withGroup front (encode (first.print ++ printOthers others)) rest
  have behind := drop_behind_withGroup front (encode (first.print ++ printOthers others)) rest
  rw [bytes_eq] at isGroup pieces inFront behind
  have replaced : ∀ slice, replaceGroup bytes ⟨front.length, front.length + 1 +
      (encode (first.print ++ printOthers others)).length⟩ slice =
        front ++ (slice.bytes bytes ++ rest) := by
    intro slice
    rw [replaceGroup, inFront, behind, List.append_assoc]
    rfl
  rw [expandFirst, isGroup]
  dsimp only
  have placed := congrArg (List.map fun piece => front ++ (piece ++ rest)) pieces
  rw [List.map_map, List.map_map] at placed
  rw [List.map_congr_left fun slice _ => replaced slice]
  exact placed

theorem encode_leftmost
    (front first : Expression)
    (others : List Expression)
    (rest : Expression) :
    encode (Expression.print (front ++ .group first others :: rest)) =
      withGroup (encode front.print) (encode (first.print ++ printOthers others))
        (encode rest.print) := by
  simp only [Expression.print_append, Expression.print_cons, Part.print_group, List.cons_append,
    List.append_assoc, Text.Utf8.encode_append, encode_opening, withGroup]
  rfl

/-- One step of expansion is a choice for the leftmost group. -/
theorem expandFirst_encode (escape : Bool) (expression : Expression) :
    expandFirst escape (encode expression.print) =
      expression.choices.map fun choice => encode choice.print := by
  cases isGroup : expression.hasGroup with
  | false =>
      rw [Expression.choices_eq_nil_of_not_hasGroup isGroup, expandFirst, group?,
        List.findIdx?_eq_none_iff.2 (noOpening_of_not_hasGroup isGroup)]
      rfl
  | true =>
      obtain ⟨front, first, others, rest, noGroup, rfl⟩ := Expression.exists_leftmost isGroup
      rw [encode_leftmost, expandFirst_withGroup (noOpening_of_not_hasGroup noGroup),
        Expression.choices_leftmost noGroup, List.map_map]
      refine List.map_congr_left fun parts _ => ?_
      simp only [Function.comp_apply, Expression.print_append, Text.Utf8.encode_append]

/-! ## All steps -/

theorem expandBytes_eq (escape : Bool) (bytes : List UInt8) :
    expandBytes escape bytes =
      (expandFirst escape bytes).flatMap fun expanded =>
        expanded :: expandBytes escape expanded := by
  rw [expandBytes]
  simp

/-- The expansions of a written expression are its choices for the leftmost group, each followed by
its own expansions. -/
theorem expand_print (flags : GlobFlags) (expression : Expression) :
    expand flags expression.print =
      expression.choices.flatMap fun choice => choice.print :: expand flags choice.print := by
  rw [expand, expandBytes_eq, expandFirst_encode, List.flatMap_map, List.map_flatMap]
  congr 1
  funext choice
  rw [List.map_cons, Text.Utf8.decodeLossy_encode]
  rfl

/-- Nothing is expanded where there is no group. -/
theorem expand_of_not_hasGroup
    (flags : GlobFlags)
    {expression : Expression}
    (noGroup : expression.hasGroup = false) :
    expand flags expression.print = [] := by
  rw [expand_print, Expression.choices_eq_nil_of_not_hasGroup noGroup]
  rfl

/-- The expansions without a group are the words of an expression. -/
theorem filter_expand_of_hasGroup
    (flags : GlobFlags)
    {expression : Expression}
    (isGroup : expression.hasGroup = true) :
    (expand flags expression.print).filter (fun word => '{' ∉ word) = expression.words := by
  induction length_eq : expression.print.length using Nat.strongRecOn generalizing expression with
  | ind length ih =>
      subst length_eq
      rw [expand_print, List.filter_flatMap, Expression.words_of_hasGroup isGroup]
      refine List.flatMap_congr fun choice isChoice => ?_
      cases goesOn : choice.hasGroup with
      | false =>
          have isWord : '{' ∉ choice.print := by
            rw [Expression.opening_mem_print_iff, goesOn]
            simp
          rw [expand_of_not_hasGroup flags goesOn, Expression.words_of_not_hasGroup goesOn,
            List.filter_cons_of_pos (by simpa using isWord), List.filter_nil]
      | true =>
          have notWord := (Expression.opening_mem_print_iff choice).2 goesOn
          have shorter := (Expression.print_sublist_of_mem_choices isChoice).2
          rw [List.filter_cons_of_neg (by simpa using notWord), ih _ shorter goesOn rfl]

/-- Expansion gives the product of the alternatives: the expansions without an opening brace are
the words of the expression, in order and as often as they can be chosen; where there is no group
nothing is expanded. -/
theorem expand_words (flags : GlobFlags) (expression : Expression) :
    if expression.hasGroup then
      (expand flags expression.print).filter (fun word => '{' ∉ word) = expression.words
    else expand flags expression.print = [] := by
  split
  · rename_i isGroup
    exact filter_expand_of_hasGroup flags isGroup
  · rename_i noGroup
    exact expand_of_not_hasGroup flags (by simpa using noGroup)

end Braces
end FilePaths
