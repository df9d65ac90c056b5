/-!
# Configuration values

The values of a TOML document and how keys are added to its tables. A table may be written in
several places, but each of its parts only in one way: under a header, by dotted keys, or between
braces.
-/
namespace Marktree.Toml

/-- How a table came to be, which decides what may still be added to it. -/
inductive Origin
  /-- By its own header; the whole document counts as such a table, too. -/
  | header
  /-- On the way to a table with a header. -/
  | path
  | dotted
  /-- Between braces. Nothing is added to such a table. -/
  | braces
  deriving Repr, DecidableEq, Inhabited

inductive Value
  | string (s : String)
  | bool (b : Bool)
  /-- A number, a date or a time. -/
  | other
  /-- An array; one that headers made is extended by further headers. -/
  | array (headed : Bool) (items : List Value)
  | table (origin : Origin) (entries : List (String × Value))
  deriving Repr, Inhabited

abbrev Entries := List (String × Value)

namespace Entries

/-- Changes or adds the value of a key. -/
def alter (key : String) (f : Option Value → Option Value) : Entries → Option Entries
  | [] => (f none).map fun v => [(key, v)]
  | (k, v) :: es =>
    if k = key then (f (some v)).map fun v => (k, v) :: es
    else (alter key f es).map ((k, v) :: ·)

/-- Adds a value; a key has one value only. -/
def add (key : String) (v : Value) (es : Entries) : Option Entries :=
  es.alter key fun
    | none => some v
    | some _ => none

/-- Changes the table at a path of keys. Tables that are missing are made; in an array that headers
made, the last table is meant. Dotted keys do not reach into tables that have a header. -/
def within (dotted : Bool) (f : Origin → Entries → Option Entries) :
    List String → Origin → Entries → Option Entries
  | [], origin, es => f origin es
  | k :: ks, _, es =>
    es.alter k fun
      | none =>
        let origin : Origin := if dotted then .dotted else .path
        (within dotted f ks origin []).map (.table origin ·)
      | some (.table origin es) =>
        if origin = .braces || (dotted && origin = .header) then none
        else (within dotted f ks origin es).map (.table origin ·)
      | some (.array true items) =>
        match items.getLast? with
        | some (.table origin es) =>
          (within dotted f ks origin es).map fun es =>
            .array true (items.dropLast ++ [.table origin es])
        | _ => none
      | some _ => none

/-- Adds the value of a key, which is dotted if there is a path before its last part. -/
def assign (path : List String) (key : String) (v : Value) (origin : Origin) (es : Entries) :
    Option Entries :=
  es.within true
    (fun origin es => if (origin = .dotted) = (path = []) then none else es.add key v) path origin

/-- Opens the table of a header. -/
def openTable (path : List String) (key : String) (es : Entries) : Option Entries :=
  es.within false
    (fun _ es =>
      es.alter key fun
        | none => some (.table .header [])
        | some (.table .path es) => some (.table .header es)
        | some _ => none)
    path .header

/-- Opens a new table at the end of the array of a header. -/
def openItem (path : List String) (key : String) (es : Entries) : Option Entries :=
  es.within false
    (fun _ es =>
      es.alter key fun
        | none => some (.array true [.table .header []])
        | some (.array true items) => some (.array true (items ++ [.table .header []]))
        | some _ => none)
    path .header

/-- Adds the value of a key to the table of the last header. -/
def assignUnder (header path : List String) (key : String) (v : Value) (es : Entries) :
    Option Entries :=
  es.within false (assign path key v) header .header

end Entries

end Marktree.Toml
