/-! # TOML values

A table remembers how it came about, since that decides whether later lines of a
document may add to it.  Floats and dates are only told apart from other values.
-/
namespace FirmwareTrace.Toml

inductive TableKind
  /-- Written in braces; nothing can be added. -/
  | inline
  /-- Named by a header of its own. -/
  | header
  /-- On the way to a table with a header. -/
  | passed
  /-- On the way to the last part of a dotted key. -/
  | dotted
  deriving DecidableEq, Repr

inductive Value
  | string (text : String)
  | integer (n : Int)
  | float
  | bool (value : Bool)
  | datetime
  /-- An array written in brackets, or one that grows by a table with each header. -/
  | array (grows : Bool) (items : List Value)
  | table (kind : TableKind) (members : List (String × Value))

abbrev Members := List (String × Value)

namespace Members

/-- Puts a value in the place of that of a name, or at the end. -/
def put (name : String) (value : Value) : Members → Members
  | [] => [(name, value)]
  | (n, v) :: rest => if n = name then (n, value) :: rest else (n, v) :: put name value rest

end Members

/-- A table on the way of a path: may it be passed, and how is a new one marked? -/
structure Passage where
  new : TableKind
  admits : TableKind → Bool

/-- Headers pass every table but inline ones. -/
def Passage.header : Passage := ⟨.passed, fun kind => kind != .inline⟩

/-- Dotted keys pass no table that has a header of its own. -/
def Passage.dotted : Passage := ⟨.dotted, fun kind => kind == .passed || kind == .dotted⟩

/-- Changes the table at the end of a path; a growing array leads to its last item. -/
def descend (passage : Passage) (change : TableKind → Members → Option (TableKind × Members)) :
    List String → TableKind → Members → Option (TableKind × Members)
  | [], kind, members => change kind members
  | name :: rest, kind, members =>
    match members.lookup name with
    | none =>
      (descend passage change rest passage.new []).map fun t =>
        (kind, members.put name (.table t.1 t.2))
    | some (.table k inner) =>
      if passage.admits k then
        (descend passage change rest k inner).map fun t =>
          (kind, members.put name (.table t.1 t.2))
      else none
    | some (.array true items) =>
      match items.getLast? with
      | some (.table k inner) =>
        (descend passage change rest k inner).map fun t =>
          (kind, members.put name (.array true (items.dropLast ++ [.table t.1 t.2])))
      | _ => none
    | some _ => none

/-- Adds a value under a new name. -/
def define (name : String) (value : Value) (members : Members) : Option Members :=
  match members.lookup name with
  | none => some (members ++ [(name, value)])
  | some _ => none

/-- Adds a value at a key.  The last table on a dotted path has to be one that only
dotted keys have named, and that of a plain key one that none has. -/
def assign (path : List String) (name : String) (value : Value) :
    TableKind → Members → Option (TableKind × Members) :=
  descend .dotted (fun kind members =>
    if (kind == .dotted) == path.isEmpty then none
    else (define name value members).map fun ms => (kind, ms)) path

/-- Opens the table of a header; only one that was passed so far may exist. -/
def openTable (path : List String) (name : String) :
    TableKind → Members → Option (TableKind × Members) :=
  descend .header (fun kind members =>
    match members.lookup name with
    | none => some (kind, members ++ [(name, .table .header [])])
    | some (.table .passed inner) => some (kind, members.put name (.table .header inner))
    | some _ => none) path

/-- Adds an empty table to a growing array. -/
def openItem (path : List String) (name : String) :
    TableKind → Members → Option (TableKind × Members) :=
  descend .header (fun kind members =>
    match members.lookup name with
    | none => some (kind, members ++ [(name, .array true [.table .header []])])
    | some (.array true items) =>
      some (kind, members.put name (.array true (items ++ [.table .header []])))
    | some _ => none) path

end FirmwareTrace.Toml
