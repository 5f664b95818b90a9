import EntityScaffold.Decimal.Extended
import EntityScaffold.Keyed

/-! # TOML values

A TOML document is a table. While it is read, a table remembers how it came about, which decides what may
be added to it later: a table that a header names may not be defined again, and a table that a dotted key
made may only be extended by dotted keys.
-/

namespace EntityScaffold.Toml

open Decimal (Extended)

/-- How a table came about. -/
inductive TableKind where
  /-- A header names a table inside of it. -/
  | implied
  /-- A header names it. -/
  | defined
  /-- A dotted key leads through it. -/
  | dotted
  /-- It is written between braces, and complete. -/
  | inline
deriving DecidableEq, Repr

/-- A value. -/
inductive Value where
  | string (value : String)
  | integer (value : Int)
  | float (value : Extended)
  /-- A number in digits that no integer of 128 bits and no double comes near. -/
  | oversized
  | bool (value : Bool)
  /-- A date, a time or both; which one does not matter here. -/
  | moment
  | array (items : List Value)
  | table (kind : TableKind) (entries : List (String × Value))
  /-- The tables of an array of tables, each a list of entries. -/
  | tables (elements : List (List (String × Value)))
deriving Repr

/-- The entries of a table, in ascending order of their keys. -/
abbrev Entries := List (String × Value)

/-! ## Building tables -/

/-- Change the last table of an array of tables. -/
def changeLast (f : Entries → Option Entries) : List Entries → Option (List Entries)
  | [] => none
  | [element] => (f element).map ([·])
  | element :: rest => (changeLast f rest).map (element :: ·)

/-- Change the table inside of another that a header leads through; it is made if it is missing. -/
def enter (key : String) (f : Entries → Option Entries) (entries : Entries) : Option Entries :=
  match entries.lookup key with
  | none => (f []).map fun inner => insertEntry key (.table .implied inner) entries
  | some (.table .inline _) => none
  | some (.table kind inner) => (f inner).map fun inner => insertEntry key (.table kind inner) entries
  | some (.tables elements) =>
    (changeLast f elements).map fun elements => insertEntry key (.tables elements) entries
  | some _ => none

/-- Change the table that a path of keys leads to. -/
def within (f : Entries → Option Entries) : List String → Entries → Option Entries
  | [], entries => f entries
  | key :: path, entries => enter key (within f path) entries

/-- Define the table that a header names. -/
def define (path : List String) (key : String) (entries : Entries) : Option Entries :=
  within (fun parent => match parent.lookup key with
    | none => some (insertEntry key (.table .defined []) parent)
    | some (.table .implied inner) => some (insertEntry key (.table .defined inner) parent)
    | some _ => none) path entries

/-- Add a table to the array of tables that a header names. -/
def addTable (path : List String) (key : String) (entries : Entries) : Option Entries :=
  within (fun parent => match parent.lookup key with
    | none => some (insertEntry key (.tables [[]]) parent)
    | some (.tables elements) => some (insertEntry key (.tables (elements ++ [[]])) parent)
    | some _ => none) path entries

/-- Add a value under a dotted key. The value goes into the table at the start, or else into one that
came about by a dotted key; `isOpen` tells whether this is one of these. -/
def assign (value : Value) (isOpen : Bool) : List String → Entries → Option Entries
  | [], _ => none
  | [key], entries =>
    if isOpen && (entries.lookup key).isNone then some (insertEntry key value entries) else none
  | key :: path, entries =>
    match entries.lookup key with
    | none => (assign value true path []).map fun inner =>
        insertEntry key (.table .dotted inner) entries
    | some (.table .dotted inner) => (assign value true path inner).map fun inner =>
        insertEntry key (.table .dotted inner) entries
    | some (.table .implied inner) => (assign value false path inner).map fun inner =>
        insertEntry key (.table .implied inner) entries
    | some (.tables elements) => (changeLast (assign value false path) elements).map fun elements =>
        insertEntry key (.tables elements) entries
    | some _ => none

end EntityScaffold.Toml
