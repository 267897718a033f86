import FirmwareTrace.Template.Basic

/-! # Scanning a template

`pieces` reads a template from left to right.  Every piece takes at least one
character, and the sources of the pieces in order are the template itself.
-/
namespace FirmwareTrace.Template

def isFlag (c : Char) : Bool := c == '-' || c == '0' || c == '+' || c == ' ' || c == '#'

/-- Length modifiers are read and have no effect. -/
def isModifier (c : Char) : Bool :=
  c == 'h' || c == 'l' || c == 'j' || c == 'z' || c == 't' || c == 'L' || c == 'q'

/-- The run of a width or precision, `*` or digits, and what follows it. -/
def splitCount : List Char → List Char × List Char
  | '*' :: rest => (['*'], rest)
  | cs => (cs.takeWhile Char.isDigit, cs.dropWhile Char.isDigit)

/-- The run of the precision if there is a point, and what follows it. -/
def splitPrecision : List Char → Option (List Char) × List Char
  | '.' :: rest => (some (splitCount rest).1, (splitCount rest).2)
  | cs => (none, cs)

theorem splitCount_append (cs : List Char) : (splitCount cs).1 ++ (splitCount cs).2 = cs := by
  fun_cases splitCount cs <;> simp

theorem splitPrecision_append (cs : List Char) :
    ((splitPrecision cs).1.elim [] fun p => '.' :: p) ++ (splitPrecision cs).2 = cs := by
  fun_cases splitPrecision cs <;> simp [splitCount_append]

/-- Reads the specification that the characters after a percent sign start with. -/
def scanSpec (cs : List Char) : Except Stray (Spec × List Char) :=
  let width := splitCount (cs.dropWhile isFlag)
  let precision := splitPrecision width.2
  match precision.2.dropWhile isModifier with
  | [] => .error .atEnd
  | c :: rest =>
    if c.toNat < 128 then
      .ok (⟨cs.takeWhile isFlag, width.1, precision.1, precision.2.takeWhile isModifier, c⟩, rest)
    else .error .outsideAscii

theorem tail_append_of_scanSpec {cs rest : List Char} {spec : Spec}
    (h : scanSpec cs = .ok (spec, rest)) : spec.tail ++ rest = cs := by
  unfold scanSpec at h
  dsimp only at h
  split at h
  · simp at h
  · rename_i c r hc
    split at h
    · simp only [Except.ok.injEq, Prod.mk.injEq] at h
      obtain ⟨rfl, rfl⟩ := h
      have h₁ := List.takeWhile_append_dropWhile
        (p := isModifier) (l := (splitPrecision (splitCount (cs.dropWhile isFlag)).2).2)
      rw [hc] at h₁
      have h₂ := splitPrecision_append (splitCount (cs.dropWhile isFlag)).2
      have h₃ := splitCount_append (cs.dropWhile isFlag)
      have h₄ := List.takeWhile_append_dropWhile (p := isFlag) (l := cs)
      simp only [Spec.tail, List.append_assoc, List.singleton_append, h₁, h₂, h₃, h₄]
    · simp at h

theorem length_lt_of_scanSpec {cs rest : List Char} {spec : Spec}
    (h : scanSpec cs = .ok (spec, rest)) : rest.length < cs.length := by
  rw [← tail_append_of_scanSpec h]
  simp [Spec.tail]
  omega

/-- The pieces of a template, in order. -/
def pieces : List Char → List Piece
  | [] => []
  | '%' :: '%' :: rest => .percent :: pieces rest
  | '%' :: rest =>
    match h : scanSpec rest with
    | .ok (spec, rest') =>
      have := length_lt_of_scanSpec h
      .directive spec :: pieces rest'
    | .error why => .stray why :: pieces rest
  | c :: rest =>
    .text (c :: rest.takeWhile (· != '%')) :: pieces (rest.dropWhile (· != '%'))
termination_by cs => cs.length
decreasing_by
  · simp only [List.length_cons]
    omega
  · simp only [List.length_cons]
    omega
  · simp
  · have := (List.dropWhile_sublist (· != '%') (l := rest)).length_le
    simp only [List.length_cons]
    omega

theorem flatMap_source_pieces (cs : List Char) : (pieces cs).flatMap Piece.source = cs := by
  fun_induction pieces cs with
  | case1 => rfl
  | case2 rest ih => simp [Piece.source, ih]
  | case3 rest _ spec rest' h _ ih => simp [Piece.source, ih, tail_append_of_scanSpec h]
  | case4 rest _ why h ih => simp [Piece.source, ih]
  | case5 c rest _ _ ih => simp [Piece.source, ih, List.takeWhile_append_dropWhile]

end FirmwareTrace.Template
