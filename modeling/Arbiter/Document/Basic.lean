import Arbiter.Text.Numeral
import Arbiter.Value.Basic
/-!
# Documents

What a reader of typed data sees, whatever format it was written in.  A document that comes from
plain data has settled leaves: null, truth values, numbers and texts.  One that comes from YAML also
has written scalars, which are read as whatever type is asked for, and tags.
-/

namespace Arbiter

/-- How a scalar was written. -/
inductive Style where
  /-- Without quotes. -/
  | plain
  /-- As a literal block. -/
  | literal
  /-- In quotes, or as a folded block. -/
  | quoted
deriving DecidableEq, Repr

/-- A scalar as it was written. -/
structure Scalar where
  /-- Its text. -/
  text : String
  /-- Its tag, if it has one. -/
  tag : Option String
  /-- How it was written. -/
  style : Style

/-- A document to be read as typed data. -/
inductive Document where
  /-- Null. -/
  | null
  /-- A truth value. -/
  | bool (b : Bool)
  /-- A whole number. -/
  | int (n : Int)
  /-- A double. -/
  | float (x : Float)
  /-- A text. -/
  | text (s : String)
  /-- A scalar whose type depends on what is asked for. -/
  | written (s : Scalar)
  /-- A list.  A `positional` one may stand for a record, by the order of the fields. -/
  | list (tag : Option String) (positional : Bool) (items : List Document)
  /-- A record, with its entries in the order they were written. -/
  | record (tag : Option String) (entries : List (Document × Document))
  /-- Nothing at all: an empty file. -/
  | void
  /-- What is nested too deeply, or repeated too often, to be read; it may still be skipped. -/
  | unreadable

namespace Document

mutual

/-- Plain data as a document. -/
def ofValue : Value → Document
  | .null => .null
  | .bool b => .bool b
  | .num (.int n) => .int n
  | .num (.float x) => .float x
  | .str s => .text s
  | .arr items => .list none true (ofItems items)
  | .obj fields => .record none (ofFields fields)

/-- The items of a list as documents. -/
def ofItems : List Value → List Document
  | [] => []
  | v :: vs => ofValue v :: ofItems vs

/-- The fields of a record as entries. -/
def ofFields : List (String × Value) → List (Document × Document)
  | [] => []
  | (k, v) :: fs => (.text k, ofValue v) :: ofFields fs

end

end Document

end Arbiter
