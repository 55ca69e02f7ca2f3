import TextTemplate.Value
import TextTemplate.Text.Quoted

/-!
The values of a TOML document.

A table keeps its entries in the order in which they were written.  How it came about decides what may
still be added to it.
-/

namespace TextTemplate.Toml

/-- How a table that is not written in braces came about. -/
inductive Origin where
  /-- By a header of its own. -/
  | header
  /-- As a parent of a table with a header. -/
  | implied
  /-- By a dotted key. -/
  | dotted
deriving DecidableEq, Repr

/-- A day of the calendar. -/
structure Day where
  year : Nat
  month : Nat
  day : Nat
deriving DecidableEq, Repr

/-- A time of day; `fraction` holds the digits after the seconds. -/
structure Clock where
  hour : Nat
  minute : Nat
  second : Nat
  fraction : List Char
deriving DecidableEq, Repr

/-- A date, a time, or both, perhaps with an offset in minutes. -/
structure Moment where
  day : Option Day
  clock : Option Clock
  offset : Option Int
deriving DecidableEq, Repr

inductive Value where
  | string (s : String)
  | integer (n : Int)
  | float (x : Number.Binary)
  | boolean (b : Bool)
  | moment (m : Moment)
  | array (items : List Value)
  /-- A table in braces, to which nothing can be added. -/
  | inline (entries : List (String × Value))
  | table (origin : Origin) (entries : List (String × Value))
  /-- The tables of headers in double brackets. -/
  | tables (items : List (List (String × Value)))

abbrev Entries := List (String × Value)

/-- Whoever makes entries of a text.  A document gives every name at the top once. -/
structure DocumentReader where
  /-- The entries of a text at the top level, in order; `none` when the text is no document. -/
  read? : String → Option Entries
  nodup {text : String} {entries : Entries} : read? text = some entries → (entries.map Prod.fst).Nodup

/-- The digits of a floating-point number, with a point in them if it is finite. -/
def floatText (x : Number.Binary) : String :=
  let text := (TextTemplate.Value.float x).chars none false
  match x.datum with
  | .finite .. => String.ofList (if text.contains '.' then text else text ++ ['.', '0'])
  | _ => String.ofList text

/-- A value in the words of an error message. -/
def Value.wording : Value → String
  | string s => "string " ++ Text.Quoted.text s
  | integer n => "integer `" ++ (TextTemplate.Value.integer n).plain ++ "`"
  | float x => "floating point `" ++ floatText x ++ "`"
  | boolean b => "boolean `" ++ (TextTemplate.Value.truth b).plain ++ "`"
  | array _ | tables _ => "sequence"
  | moment _ | inline _ | table .. => "map"

end TextTemplate.Toml
