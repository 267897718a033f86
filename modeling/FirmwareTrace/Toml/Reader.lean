import FirmwareTrace.Toml.Quoted
import FirmwareTrace.Toml.Scalar

/-! # Reading TOML

A document is a sequence of lines: headers, pairs of a key and a value, comments.
Arrays and inline tables nest to a fixed depth.  The lines are then put into one
table, each pair below the last header before it.
-/
namespace FirmwareTrace.Toml

/-- Arrays and inline tables around a value, and parts of a key, stay below this. -/
def depthLimit : Nat := 80

/-! ## Keys -/

def isBareKeyChar (c : Char) : Bool := c.isAlphanum || c = '_' || c = '-'

def skipBlank (cs : List Char) : List Char := cs.dropWhile isSpace

/-- A name, quoted or bare. -/
def name? (cs : List Char) : Option (List Char × List Char) :=
  match lineString? cs with
  | some r => some r
  | none =>
    match cs.span isBareKeyChar with
    | ([], _) => none
    | r => some r

/-- The names of a dotted key, with blanks around each. -/
def names? (cs : List Char) : Option (List String × List Char) :=
  match name? (skipBlank cs) with
  | none => none
  | some (name, rest) =>
    match skipBlank rest with
    | '.' :: more =>
      if more.length < cs.length then
        (names? more).map fun r => (String.ofList name :: r.1, r.2)
      else none
    | rest => some ([String.ofList name], rest)
termination_by cs.length

/-- A key as the path to its table and the name there. -/
def key? (cs : List Char) : Option ((List String × String) × List Char) :=
  match names? cs with
  | none => none
  | some (names, rest) =>
    match names.getLast? with
    | some name =>
      if names.length < depthLimit then some ((names.dropLast, name), rest) else none
    | none => none

/-! ## Values -/

/-- Skips spaces, line breaks and comments; `inComment` tells what comes first. -/
def skipFill (inComment : Bool) : List Char → List Char
  | [] => []
  | c :: rest =>
    if inComment && isPlain c then skipFill true rest
    else if isSpace c ∨ c = '\n' ∨ (c = '\r' ∧ rest.head? = some '\n') then skipFill false rest
    else if c = '#' then skipFill true rest
    else c :: rest

/-- The items of an array and what follows its closing bracket. -/
def items? (value? : List Char → Option (Value × List Char)) (cs : List Char) :
    Option (List Value × List Char) :=
  match skipFill false cs with
  | ']' :: rest => some ([], rest)
  | start =>
    match value? start with
    | none => none
    | some (value, rest) =>
      match skipFill false rest with
      | ']' :: rest => some ([value], rest)
      | ',' :: rest =>
        if rest.length < cs.length then (items? value? rest).map fun r => (value :: r.1, r.2)
        else none
      | _ => none
termination_by cs.length

/-- A key, an equals sign and a value, with blanks between them. -/
def pair? (value? : List Char → Option (Value × List Char)) (cs : List Char) :
    Option (((List String × String) × Value) × List Char) :=
  match key? cs with
  | some (key, '=' :: rest) => (value? (skipBlank rest)).map fun r => ((key, r.1), skipBlank r.2)
  | _ => none

/-- The pairs of an inline table after those that made `members`, and what follows
its closing brace. -/
def pairs? (value? : List Char → Option (Value × List Char)) (members : Members)
    (cs : List Char) : Option (Members × List Char) :=
  match pair? value? cs with
  | none => none
  | some (((path, name), value), rest) =>
    match assign path name value .header members with
    | none => none
    | some (_, members) =>
      match rest with
      | '\x7d' :: rest => some (members, rest)
      | ',' :: rest =>
        if rest.length < cs.length then pairs? value? members rest else none
      | _ => none
termination_by cs.length

def inlineTable? (value? : List Char → Option (Value × List Char)) (cs : List Char) :
    Option (Members × List Char) :=
  match skipBlank cs with
  | '\x7d' :: rest => some ([], rest)
  | _ => pairs? value? [] cs

/-- The value at the front, with at most `depth` arrays and inline tables around
each other. -/
def value? (depth : Nat) : List Char → Option (Value × List Char)
  | [] => none
  | c :: rest =>
    if c = '"' ∨ c = '\'' then
      (string? (c :: rest)).map fun r => (.string (String.ofList r.1), r.2)
    else if c = '[' then
      match depth with
      | 0 => none
      | depth + 1 => (items? (value? depth) rest).map fun r => (.array false r.1, r.2)
    else if c = '\x7b' then
      match depth with
      | 0 => none
      | depth + 1 => (inlineTable? (value? depth) rest).map fun r => (.table .inline r.1, r.2)
    else if c = '+' ∨ c = '-' ∨ c.isDigit then numeric? (c :: rest)
    else if c = 't' then (word? "true" (c :: rest)).map fun r => (.bool true, r)
    else if c = 'f' then (word? "false" (c :: rest)).map fun r => (.bool false, r)
    else specialFloat? (c :: rest)

/-! ## Lines -/

inductive Line
  | blank
  | pair (path : List String) (name : String) (value : Value)
  | table (path : List String) (name : String)
  | item (path : List String) (name : String)

/-- What follows the end of a line, after blanks and a comment. -/
def lineEnd? (cs : List Char) : Option (List Char) :=
  let rest := match skipBlank cs with
    | '#' :: comment => comment.dropWhile isPlain
    | cs => cs
  match rest with
  | [] => some []
  | cs => lineBreak? cs

def closeHeader? (close : List Char) (cs : List Char) : Option (List Char) :=
  if close.isPrefixOf cs then lineEnd? (cs.drop close.length) else none

/-- The line at the front, without the blanks before it. -/
def line? : List Char → Option (Line × List Char)
  | '[' :: '[' :: rest =>
    match key? rest with
    | some ((path, name), rest) =>
      (closeHeader? [']', ']'] rest).map fun rest => (.item path name, rest)
    | none => none
  | '[' :: rest =>
    match key? rest with
    | some ((path, name), rest) =>
      (closeHeader? [']'] rest).map fun rest => (.table path name, rest)
    | none => none
  | c :: rest =>
    if c = '#' ∨ c = '\n' ∨ c = '\r' then (lineEnd? (c :: rest)).map fun rest => (.blank, rest)
    else
      match pair? (value? (depthLimit - 1)) (c :: rest) with
      | some (((path, name), value), rest) =>
        (lineEnd? rest).map fun rest => (.pair path name value, rest)
      | none => none
  | [] => none

/-- All lines of a document. -/
def lines? (cs : List Char) : Option (List Line) :=
  match skipBlank cs with
  | [] => some []
  | start =>
    match line? start with
    | none => none
    | some (line, rest) =>
      if rest.length < cs.length then (lines? rest).map (line :: ·) else none
termination_by cs.length

/-! ## Documents -/

/-- The members so far, and the path of the last header. -/
structure Draft where
  members : Members
  current : List String

/-- Puts a line into a document. -/
def Draft.add (draft : Draft) : Line → Option Draft
  | .blank => some draft
  | .pair path name value =>
    (descend .header (assign path name value) draft.current .header draft.members).map fun t =>
      { draft with members := t.2 }
  | .table path name =>
    (openTable path name .header draft.members).map fun t => ⟨t.2, path ++ [name]⟩
  | .item path name =>
    (openItem path name .header draft.members).map fun t => ⟨t.2, path ++ [name]⟩

/-- Drops a byte order mark. -/
def dropMark : List Char → List Char
  | '\ufeff' :: rest => rest
  | cs => cs

/-- The top table of a document. -/
def read? (text : String) : Option Members := do
  let lines ← lines? (dropMark text.toList)
  let draft ← lines.foldlM Draft.add ⟨[], []⟩
  some draft.members

end FirmwareTrace.Toml
