import FirmwareTrace.Text.Numeral

/-! # Quoted strings

The four kinds of strings: on one line or over several, with escapes or as they
stand.  A reader gets the text after the opening quotes, and gives the characters
of the string and what follows its closing quotes.
-/
namespace FirmwareTrace.Toml

def isSpace (c : Char) : Bool := c = ' ' || c = '\t'

/-- What may stand in a comment or a string: no control but the tab. -/
def isPlain (c : Char) : Bool := c = '\t' || (' ' ≤ c && c ≠ '\x7f')

/-- The rest after a line break. -/
def lineBreak? : List Char → Option (List Char)
  | '\n' :: rest | '\r' :: '\n' :: rest => some rest
  | _ => none

/-- Skips spaces and line breaks. -/
def skipSpace : List Char → List Char
  | '\r' :: '\n' :: rest => skipSpace rest
  | c :: rest => if isSpace c ∨ c = '\n' then skipSpace rest else c :: rest
  | [] => []

theorem length_skipSpace_le (cs : List Char) : (skipSpace cs).length ≤ cs.length := by
  fun_induction skipSpace cs with
  | case1 rest ih => simp only [List.length_cons]; omega
  | case2 c rest _ _ ih => simp only [List.length_cons]; omega
  | case3 => simp
  | case4 => simp

theorem length_of_lineBreak? {cs rest : List Char} (h : lineBreak? cs = some rest) :
    rest.length < cs.length := by
  unfold lineBreak? at h
  split at h
  · obtain rfl := Option.some.inj h
    simp
  · obtain rfl := Option.some.inj h
    simp only [List.length_cons]
    omega
  · simp at h

/-! ## Escapes -/

def shortEscape? : Char → Option Char
  | 'b' => some '\x08'
  | 'f' => some '\x0c'
  | 'n' => some '\n'
  | 'r' => some '\r'
  | 't' => some '\t'
  | '\\' => some '\\'
  | '"' => some '"'
  | _ => none

/-- The character with a number of exactly `count` hexadecimal digits. -/
def codeEscape? (count : Nat) (cs : List Char) : Option (Char × List Char) :=
  let digits := cs.take count
  if digits.length = count then
    match Numeral.ofDigits? 16 digits with
    | some n => if n.isValidChar then some (Char.ofNat n, cs.drop count) else none
    | none => none
  else none

/-- The character that an escape stands for; the backslash has been read. -/
def escape? : List Char → Option (Char × List Char)
  | 'u' :: rest => codeEscape? 4 rest
  | 'U' :: rest => codeEscape? 8 rest
  | c :: rest => (shortEscape? c).map fun e => (e, rest)
  | [] => none

theorem length_of_codeEscape? {count : Nat} {cs rest : List Char} {c : Char}
    (h : codeEscape? count cs = some (c, rest)) : rest.length ≤ cs.length := by
  unfold codeEscape? at h
  dsimp only at h
  split at h
  · split at h
    · split at h
      · obtain ⟨-, rfl⟩ := Prod.mk.inj (Option.some.inj h)
        simp
      · simp at h
    · simp at h
  · simp at h

theorem length_of_escape? {cs rest : List Char} {c : Char} (h : escape? cs = some (c, rest)) :
    rest.length < cs.length := by
  unfold escape? at h
  split at h
  · have := length_of_codeEscape? h
    simp only [List.length_cons]
    omega
  · have := length_of_codeEscape? h
    simp only [List.length_cons]
    omega
  · obtain ⟨_, _, he⟩ := Option.map_eq_some_iff.1 h
    obtain ⟨-, rfl⟩ := Prod.mk.inj he
    simp
  · simp at h

/-- What follows a backslash at the end of a line: all space up to the next text. -/
def joinLines? (cs : List Char) : Option (List Char) :=
  (lineBreak? (cs.dropWhile isSpace)).map skipSpace

theorem length_of_joinLines? {cs rest : List Char} (h : joinLines? cs = some rest) :
    rest.length < cs.length := by
  obtain ⟨r, hr, rfl⟩ := Option.map_eq_some_iff.1 h
  have h₁ := length_of_lineBreak? hr
  have h₂ := length_skipSpace_le r
  have h₃ := (List.dropWhile_sublist isSpace (l := cs)).length_le
  omega

/-! ## Strings -/

/-- A character and what follows it, of a string that goes on. -/
def cons? (c : Char) (string : Option (List Char × List Char)) :
    Option (List Char × List Char) :=
  string.map fun s => (c :: s.1, s.2)

/-- A string with escapes on one line. -/
def basic? : List Char → Option (List Char × List Char)
  | [] => none
  | c :: rest =>
    if c = '"' then some ([], rest)
    else if c = '\\' then
      match h : escape? rest with
      | some (e, more) =>
        have := length_of_escape? h
        cons? e (basic? more)
      | none => none
    else if isPlain c then cons? c (basic? rest)
    else none
termination_by cs => cs.length
decreasing_by
  all_goals simp
  all_goals omega

/-- A string as it stands on one line. -/
def literal? : List Char → Option (List Char × List Char)
  | [] => none
  | '\'' :: rest => some ([], rest)
  | c :: rest => if isPlain c then cons? c (literal? rest) else none

/-- The end of a string over several lines: of the quotes that follow the closing
ones, up to two belong to the text. -/
def closing (quote : Char) : List Char → List Char × List Char
  | a :: b :: rest =>
    if a = quote then if b = quote then ([a, b], rest) else ([a], b :: rest) else ([], a :: b :: rest)
  | [a] => if a = quote then ([a], []) else ([], [a])
  | [] => ([], [])

def startsWithThree (quote : Char) (cs : List Char) : Bool := [quote, quote, quote].isPrefixOf cs

/-- A string with escapes over several lines. -/
def basicBlock? (cs : List Char) : Option (List Char × List Char) :=
  match cs with
  | [] => none
  | c :: rest =>
    if startsWithThree '"' (c :: rest) then some (closing '"' (rest.drop 2))
    else if c = '\\' then
      match hj : joinLines? rest with
      | some more =>
        have := length_of_joinLines? hj
        basicBlock? more
      | none =>
        match h : escape? rest with
        | some (e, more) =>
          have := length_of_escape? h
          cons? e (basicBlock? more)
        | none => none
    else
      match hb : lineBreak? (c :: rest) with
      | some more =>
        have := length_of_lineBreak? hb
        cons? '\n' (basicBlock? more)
      | none => if isPlain c then cons? c (basicBlock? rest) else none
termination_by cs.length
decreasing_by
  all_goals simp_all
  all_goals omega

/-- A string as it stands over several lines. -/
def literalBlock? (cs : List Char) : Option (List Char × List Char) :=
  match cs with
  | [] => none
  | c :: rest =>
    if startsWithThree '\'' (c :: rest) then some (closing '\'' (rest.drop 2))
    else
      match hb : lineBreak? (c :: rest) with
      | some more =>
        have := length_of_lineBreak? hb
        cons? '\n' (literalBlock? more)
      | none => if isPlain c then cons? c (literalBlock? rest) else none
termination_by cs.length
decreasing_by
  all_goals simp_all

/-- The text of a block without a line break right after the opening quotes. -/
def dropFirstBreak (cs : List Char) : List Char := (lineBreak? cs).getD cs

/-- A string on one line. -/
def lineString? : List Char → Option (List Char × List Char)
  | '"' :: rest => basic? rest
  | '\'' :: rest => literal? rest
  | _ => none

def string? (cs : List Char) : Option (List Char × List Char) :=
  if startsWithThree '"' cs then basicBlock? (dropFirstBreak (cs.drop 3))
  else if startsWithThree '\'' cs then literalBlock? (dropFirstBreak (cs.drop 3))
  else lineString? cs

end FirmwareTrace.Toml
