/-!
# Tables of a configuration text

The values of the configuration format and how statements build up its tables.  A table
is open for more keys in some ways and closed in others, depending on what made it.
-/

namespace Conch.Toml

/-- What made a table. -/
inductive Origin where
  /-- A header with its name. -/
  | header
  /-- A header of a table within it. -/
  | implied
  /-- A dotted key. -/
  | dotted
  /-- A table in braces, which is closed. -/
  | inline
  deriving DecidableEq, Repr, Inhabited

/-- A value, a table, or an array of tables. -/
inductive Item where
  | text (value : String)
  | integer (value : Int)
  | float
  | boolean (value : Bool)
  /-- A date, a time or both. -/
  | moment
  | array (items : List Item)
  | table (origin : Origin) (members : List (String × Item))
  /-- Tables under headers in double brackets. -/
  | tables (members : List (List (String × Item)))
  deriving Repr, Inhabited

/-- The keys of a table with their items. -/
abbrev Members := List (String × Item)

namespace Members

/-- The members with an item in the place of a key, which is added if it is new. -/
def put (members : Members) (key : String) (item : Item) : Members :=
  if (members.lookup key).isSome then
    members.map fun (k, old) => if k = key then (k, item) else (k, old)
  else members ++ [(key, item)]

/-- Sets a key that is reached by a dotted path.  `isDotted` says whether the table at
hand was itself made by a dotted key, as it must be when the path has come to its end;
only a path without dots sets a key of any other table.  `none` if the key exists, if the
path leads through something that is no table, or through one that a header has made. -/
def setDotted (isDotted : Bool) (key : String) (item : Item) :
    List String → Members → Option Members
  | [], members =>
      if !isDotted || (members.lookup key).isSome then none else some (members.put key item)
  | step :: path, members =>
      match members.lookup step with
      | none =>
          (setDotted true key item path []).map fun inner =>
            members.put step (.table .dotted inner)
      | some (.table .dotted inner) =>
          (setDotted true key item path inner).map fun inner =>
            members.put step (.table .dotted inner)
      | some (.table .implied inner) =>
          (setDotted false key item path inner).map fun inner =>
            members.put step (.table .implied inner)
      | some (.tables all) =>
          match all.getLast? with
          | none => none
          | some inner =>
              (setDotted false key item path inner).map fun inner =>
                members.put step (.tables (all.dropLast ++ [inner]))
      | some _ => none

/-- Sets a key that is written as `path` and, after its last dot, `key`. -/
def set (members : Members) (path : List String) (key : String) (item : Item) :
    Option Members :=
  setDotted path.isEmpty key item path members

/-- Changes the item that a header names.  Tables on the way are made as needed, and of an
array of tables the last one is meant. -/
def change (f : Option Item → Option Item) : List String → Members → Option Members
  | [], _ => none
  | [key], members => (f (members.lookup key)).map (members.put key)
  | step :: path, members =>
      match members.lookup step with
      | none =>
          (change f path []).map fun inner => members.put step (.table .implied inner)
      | some (.table .inline _) => none
      | some (.table origin inner) =>
          (change f path inner).map fun inner => members.put step (.table origin inner)
      | some (.tables all) =>
          match all.getLast? with
          | none => none
          | some inner =>
              (change f path inner).map fun inner =>
                members.put step (.tables (all.dropLast ++ [inner]))
      | some _ => none

end Members

/-- A key with a value: the parts of the key before the last, the last part, the value. -/
structure Setting where
  path : List String
  key : String
  value : Item
  deriving Repr, Inhabited

/-- The members with all settings made in order. -/
def Members.setAll (members : Members) (settings : List Setting) : Option Members :=
  settings.foldlM (fun members setting => members.set setting.path setting.key setting.value)
    members

/-- A header with the settings below it. -/
structure Section where
  /-- Whether the header is in double brackets. -/
  isEntry : Bool
  path : List String
  settings : List Setting
  deriving Repr, Inhabited

/-- What a section makes of the item that its header names. -/
def Section.apply (part : Section) (current : Option Item) : Option Item :=
  if part.isEntry then
    match current with
    | none => (Members.setAll [] part.settings).map fun members => .tables [members]
    | some (.tables all) =>
        (Members.setAll [] part.settings).map fun members => .tables (all ++ [members])
    | some _ => none
  else
    match current with
    | none => (Members.setAll [] part.settings).map (Item.table .header)
    | some (.table .implied members) =>
        (Members.setAll members part.settings).map (Item.table .header)
    | some _ => none

/-- The table of a whole text: the settings before the first header, then the sections. -/
def assemble (settings : List Setting) (sections : List Section) : Option Members := do
  let members ← Members.setAll [] settings
  sections.foldlM (fun members part => members.change part.apply part.path) members

end Conch.Toml
