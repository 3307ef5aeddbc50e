import MTConnect.Settings.Setting

namespace MTConnect.Toml

/-!
# The tables of a document

A document is a list of lines: headers, which open tables, and entries, which
stand in the table that was opened last. No key is given a value twice, and no
table is opened twice. A dotted key reaches only into tables without a header;
the one that it puts its value into can have none afterwards.
-/

/-- How a table came about. -/
inductive Origin where
  /-- It has a header of its own, or it is the root or an item of a series. -/
  | opened
  /-- It lies on the way to a table with a header. -/
  | passed
  /-- It lies on the way of a dotted key. -/
  | dotted
  deriving Repr, DecidableEq, Inhabited

/-- What a key stands for. -/
inductive Item where
  /-- A value, which nothing can be added to. -/
  | value (content : Setting)
  | table (origin : Origin) (entries : List (String × Item))
  /-- A series of tables, of which the last one is open. -/
  | series (tables : List (List (String × Item)))
  deriving Inhabited

/-- The keys of a table and what they stand for. -/
abbrev Table := List (String × Item)

/-- One line of a document. -/
inductive Line where
  | entry (path : List String) (value : Setting)
  | opening (path : List String)
  /-- The opening of one more table of a series. -/
  | nextOf (path : List String)
  deriving Inhabited

namespace Table

/-- What a key stands for. -/
def item? (table : Table) (key : String) : Option Item :=
  (table.find? fun entry => entry.1 == key).map Prod.snd

/-- Let a key stand for something. -/
def put (table : Table) (key : String) (item : Item) : Table :=
  match table with
  | [] => [(key, item)]
  | entry :: rest =>
      if entry.1 = key then
        (key, item) :: rest
      else
        entry :: put rest key item

/--
Change the table at the end of a header's path. Tables that are missing are
made on the way.
-/
def changeAt? (change? : Table → Option Table) : List String → Table → Option Table
  | [], table => change? table
  | key :: path, table =>
      match table.item? key with
      | none => do
          let inner ← changeAt? change? path []
          pure (table.put key (.table .passed inner))
      | some (.value _) => none
      | some (.table origin entries) => do
          let inner ← changeAt? change? path entries
          pure (table.put key (.table origin inner))
      | some (.series tables) => do
          let last ← tables.getLast?
          let inner ← changeAt? change? path last
          pure (table.put key (.series (tables.dropLast ++ [inner])))

/-- Give a value to a key that has none. -/
def define? (key : String) (value : Setting) (table : Table) : Option Table :=
  match table.item? key with
  | none => some (table.put key (.value value))
  | some _ => none

/--
Add an entry at a path of keys. Tables that are missing are made on the way,
and a table with a header is not reached, save the last one of a series on
the way to another table.
-/
def addAt? (value : Setting) : List String → Table → Option Table
  | [], _ => none
  | [key], table => define? key value table
  | key :: next :: path, table =>
      match table.item? key with
      | none => do
          let inner ← addAt? value (next :: path) []
          pure (table.put key (.table .dotted inner))
      | some (.value _) => none
      | some (.table .opened _) => none
      | some (.table origin entries) => do
          let inner ← addAt? value (next :: path) entries
          pure (table.put key (.table (if path.isEmpty then .dotted else origin) inner))
      | some (.series tables) =>
          if path.isEmpty then
            none
          else do
            let last ← tables.getLast?
            let inner ← addAt? value (next :: path) last
            pure (table.put key (.series (tables.dropLast ++ [inner])))

/-- Open the table of a key; one that headers passed through is completed. -/
def openKey? (key : String) (table : Table) : Option Table :=
  match table.item? key with
  | none => some (table.put key (.table .opened []))
  | some (.table .passed entries) => some (table.put key (.table .opened entries))
  | some _ => none

/-- Open one more table of the series of a key. -/
def openNext? (key : String) (table : Table) : Option Table :=
  match table.item? key with
  | none => some (table.put key (.series [[]]))
  | some (.series tables) => some (table.put key (.series (tables ++ [[]])))
  | some _ => none

/-- Open the table at a path in a given way. -/
def openAt?
    (openLast? : String → Table → Option Table)
    (path : List String)
    (table : Table) :
    Option Table := do
  let key ← path.getLast?
  changeAt? (openLast? key) path.dropLast table

end Table

/-- The tables of a document so far, and the path of the one that is open. -/
structure Draft where
  root : Table := []
  current : List String := []
  deriving Inhabited

namespace Draft

/-- Take in one line. -/
def line? (draft : Draft) : Line → Option Draft
  | .entry path value => do
      let root ← Table.changeAt? (Table.addAt? value path) draft.current draft.root
      pure { draft with root := root }
  | .opening path => do
      let root ← Table.openAt? Table.openKey? path draft.root
      pure { root := root, current := path }
  | .nextOf path => do
      let root ← Table.openAt? Table.openNext? path draft.root
      pure { root := root, current := path }

end Draft

mutual

/-- What a key stands for, as a setting. -/
def Item.toSetting : Item → Setting
  | .value content => content
  | .table _ entries => .table (entrySettings entries)
  | .series tables => .list (tableSettings tables)

/-- The entries of a table as settings. -/
def entrySettings : List (String × Item) → List (String × Setting)
  | [] => []
  | (key, item) :: rest => (key, item.toSetting) :: entrySettings rest

/-- The tables of a series as settings. -/
def tableSettings : List (List (String × Item)) → List Setting
  | [] => []
  | entries :: rest => .table (entrySettings entries) :: tableSettings rest

end

/-- The settings of a document, if its lines fit together. -/
def settingsOfLines? (lines : List Line) : Option Setting := do
  let draft ← lines.foldlM Draft.line? {}
  pure (.table (entrySettings draft.root))

/-- The table that entries between braces make. -/
def settingsOfEntries? (entries : List (List String × Setting)) : Option Setting :=
  settingsOfLines? (entries.map fun entry => .entry entry.1 entry.2)

end MTConnect.Toml
