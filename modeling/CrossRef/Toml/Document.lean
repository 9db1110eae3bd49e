/-!
TOML documents, and how their tables are assembled while the text is read.

A document is a tree of items: values (strings, integers, floats, booleans, date-times, arrays,
inline tables) and tables, either written under a `[header]` or created implicitly on the way to
one, or by a dotted key. Every value carries the byte range it was written in; a table written
under a header carries the range from its header to its last value.

Tables are assembled as the reader goes: the table under the current header is kept apart and
put in its place when the next header starts or the document ends. The rules are TOML's:

* a header may name a table only once, but may name a table first created implicitly by a longer
  header (`[a.b]` then `[a]`);
* a dotted key creates implicit tables that no header may name later, and may not reach into a
  table defined by a header, nor extend a value;
* a key is defined only once in its table;
* `[[a]]` appends a table to the array of tables `a`, and keys and headers below it go into its
  last table.

The errors keep the words of the reader this library follows: duplicate keys name the key and the
table (or the document root), and extending a value names the dotted key and the value's type.
-/

namespace CrossRef.Toml

/-- A byte range of the document. -/
structure Range where
  start : Nat
  stop : Nat
  deriving DecidableEq, Repr, Inhabited

/-- A key: its text, how it was written, and where. -/
structure Key where
  name : String
  raw : String
  span : Range
  deriving Repr, Inhabited

/-- How a table came to be. -/
inductive Form where
  /-- Written between braces, or made by a dotted key inside braces (`implicit`). -/
  | inline (implicit : Bool)
  /-- Under a header, or on the way to one (`implicit`), or through a dotted key (`dotted`). -/
  | std (implicit dotted : Bool)
  deriving DecidableEq, Repr, Inhabited

/-- An item of a document. -/
inductive Item where
  | string (s : String) (span : Range)
  | integer (i : Int) (span : Range)
  | float (f : Float) (span : Range)
  | boolean (b : Bool) (span : Range)
  | datetime (text : String) (span : Range)
  | array (items : List Item) (span : Range)
  | table (form : Form) (entries : List (Key × Item)) (span : Option Range)
  | tables (items : List Item) (span : Option Range)
  deriving Inhabited

namespace Item

/-- The range an item was written in, when it has one. -/
def span? : Item → Option Range
  | .string _ s | .integer _ s | .float _ s | .boolean _ s | .datetime _ s | .array _ s => some s
  | .table _ _ s | .tables _ s => s

/-- The type of a value, in errors. -/
def typeName : Item → String
  | .string .. => "string"
  | .integer .. => "integer"
  | .float .. => "float"
  | .boolean .. => "boolean"
  | .datetime .. => "datetime"
  | .array .. => "array"
  | .table (.inline _) .. => "inline table"
  | .table .. => "table"
  | .tables .. => "array of tables"

end Item

/-- An empty table written under a header. -/
def emptyTable (span : Option Range) : Item := .table (.std false false) [] span

/-- The errors of assembling a document. -/
inductive Custom where
  | duplicateKey (key : String) (table : Option (List String))
  | extendWrongType (path : List String) (actual : String)
  | outOfRange
  | recursionLimit
  deriving Repr, Inhabited

/-- An error in words. -/
def Custom.message : Custom → String
  | .duplicateKey k none => "duplicate key `" ++ k ++ "`"
  | .duplicateKey k (some []) => "duplicate key `" ++ k ++ "` in document root"
  | .duplicateKey k (some t) => "duplicate key `" ++ k ++ "` in table `" ++ ".".intercalate t ++ "`"
  | .extendWrongType p a => "dotted key `" ++ ".".intercalate p ++ "` attempted to extend non-table type (" ++ a ++ ")"
  | .outOfRange => "value is out of range"
  | .recursionLimit => "recursion limit exceeded"

/-- The duplicate-key error for the `i`th key of a path, named as it was written. -/
def duplicateAt (path : List Key) (i : Nat) : Custom :=
  .duplicateKey ((path[i]?.map (·.raw)).getD "") (some ((path.take i).map (·.name)))

/-- The error for a dotted key reaching a value. -/
def extendAt (path : List Key) (i : Nat) (actual : String) : Custom :=
  .extendWrongType ((path.take (i + 1)).map (·.name)) actual

/-- Entries of a table. -/
abbrev Entries := List (Key × Item)

/-- The item under a key. -/
def lookup (es : Entries) (name : String) : Option Item := (es.find? (·.1.name = name)).map (·.2)

/-- Replace the item under a key. -/
def replace (es : Entries) (name : String) (v : Item) : Entries :=
  es.map fun (k, x) => if k.name = name then (k, v) else (k, x)

/-- Remove the entry of a key. -/
def remove (es : Entries) (name : String) : Entries := es.filter (·.1.name ≠ name)

/-- **Reach the table at a path** below a table's entries and change it with `f`, creating
implicit tables on the way (dotted ones when `dotted`), going into the last table of an array of
tables, and refusing to pass through a value, or, through a dotted key, through a table defined
by a header. -/
def descend {α : Type} (dotted : Bool) (full : List Key) (f : Form → Entries → Except Custom (Entries × α)) :
    Nat → List Key → Form → Entries → Except Custom (Entries × α)
  | _, [], form, es => f form es
  | i, k :: rest, _, es => do
    match lookup es k.name with
    | none =>
      let (child, a) ← descend dotted full f (i + 1) rest (.std true dotted) []
      pure (es ++ [(k, .table (.std true dotted) child none)], a)
    | some (.table (.std implicit d) child span) =>
      if dotted && !implicit then throw (.duplicateKey k.name none)
      let (child, a) ← descend dotted full f (i + 1) rest (.std implicit d) child
      pure (replace es k.name (.table (.std implicit d) child span), a)
    | some (.tables items span) =>
      match items.getLast? with
      | some (.table form' child tspan) =>
        let (child, a) ← descend dotted full f (i + 1) rest form' child
        pure (replace es k.name (.tables (items.dropLast ++ [.table form' child tspan]) span), a)
      | _ => throw (extendAt full i "array of tables")
    | some v => throw (extendAt full i v.typeName)
  termination_by _ path => path.length

/-- The state of a document being read. -/
structure Assembly where
  /-- The root table, once the first header is read. -/
  root : Entries := []
  /-- The table under the current header, kept apart. -/
  current : Entries := []
  currentForm : Form := .std false false
  currentSpan : Option Range := none
  /-- The current header's path; empty before the first header. -/
  path : List Key := []
  isArray : Bool := false
  deriving Inhabited

namespace Assembly

/-- **Put the current table in its place.** -/
def finalize (st : Assembly) : Except Custom Assembly := do
  let table := Item.table st.currentForm st.current st.currentSpan
  let path := st.path
  let cleared := { st with current := [], currentForm := .std false false, currentSpan := none, path := [], isArray := false }
  match path.getLast? with
  | none => pure { cleared with root := st.current }
  | some last =>
    let parentPath := path.dropLast
    let (root, _) ← descend false path (fun _ parent => do
      match lookup parent last.name with
      | none =>
        if st.isArray then pure (parent ++ [(last, .tables [table] st.currentSpan)], ())
        else pure (parent ++ [(last, table)], ())
      | some (.tables items _) =>
        if st.isArray then
          let items := items ++ [table]
          let span := match items.head?.bind Item.span?, items.getLast?.bind Item.span? with
            | some a, some b => some (Range.mk a.start b.stop)
            | _, _ => none
          pure (replace parent last.name (.tables items span), ())
        else throw (duplicateAt path (path.length - 1))
      | some (.table (.std true _) _ _) =>
        if st.isArray then throw (duplicateAt path (path.length - 1))
        else pure (replace parent last.name table, ())
      | some _ => throw (duplicateAt path (path.length - 1))) 0 parentPath (.std false false) st.root
    pure { cleared with root := root }

/-- **Start the table of a `[header]`.** -/
def startTable (st : Assembly) (path : List Key) (span : Range) : Except Custom Assembly := do
  let st ← st.finalize
  match path.getLast? with
  | none => pure st
  | some last =>
    let (root, taken) ← descend false path (fun _ parent => do
      match lookup parent last.name with
      | none => pure (parent, [])
      | some (.table (.std true false) es _) => pure (remove parent last.name, es)
      | some _ => throw (duplicateAt path (path.length - 1))) 0 path.dropLast (.std false false) st.root
    pure { st with
      root := root, current := taken, currentForm := Form.std false false,
      currentSpan := some span, path := path, isArray := false }

/-- **Start a table of a `[[header]]`.** -/
def startArrayTable (st : Assembly) (path : List Key) (span : Range) : Except Custom Assembly := do
  let st ← st.finalize
  match path.getLast? with
  | none => pure st
  | some last =>
    let (root, _) ← descend false path (fun _ parent => do
      match lookup parent last.name with
      | none => pure (parent ++ [(last, .tables [] none)], ())
      | some (.tables _ _) => pure (parent, ())
      | some _ => throw (duplicateAt path (path.length - 1))) 0 path.dropLast (.std false false) st.root
    pure { st with
      root := root, current := [], currentForm := Form.std false false,
      currentSpan := some span, path := path, isArray := true }

/-- **Add a key and its value** to the current table, through its dotted path. -/
def addKeyValue (st : Assembly) (path : List Key) (key : Key) (v : Item) : Except Custom Assembly := do
  let currentSpan := match st.currentSpan, v.span? with
    | some a, some b => some (Range.mk a.start b.stop)
    | s, _ => s
  let (current, _) ← descend true path (fun form es => do
    let dotted := match form with | .std _ d => d | .inline _ => false
    if dotted == path.isEmpty then throw (.duplicateKey key.name none)
    match lookup es key.name with
    | none => pure (es ++ [(key, v)], ())
    | some _ => throw (.duplicateKey key.name (some (st.path.map (·.name))))) 0 path st.currentForm st.current
  pure { st with current := current, currentSpan := currentSpan }

/-- The document once everything is read. -/
def finish (st : Assembly) : Except Custom Entries := do
  let st ← st.finalize
  pure st.root

end Assembly

/-- Insert one key and value of an inline table below its dotted path, creating implicit inline
tables on the way; a dotted key may neither reach into an inline table written out in full nor
extend a value. -/
def descendInline (full : List Key) (key : Key) (v : Item) : Nat → List Key → Entries → Except Custom Entries
  | _, [], es =>
    match lookup es key.name with
    | none => .ok (es ++ [(key, v)])
    | some _ => .error (.duplicateKey key.name none)
  | i, k :: rest, es =>
    match lookup es k.name with
    | none => do
      let child ← descendInline full key v (i + 1) rest []
      pure (es ++ [(k, .table (.inline true) child none)])
    | some (.table (.inline implicit) child span) =>
      if !implicit then .error (.duplicateKey k.name none)
      else do
        let child ← descendInline full key v (i + 1) rest child
        pure (replace es k.name (.table (.inline true) child span))
    | some other => .error (extendAt full i other.typeName)

/-- **Build an inline table** from its key-value pairs, in order. -/
def inlineTable (pairs : List (List Key × Key × Item)) : Except Custom Entries :=
  pairs.foldlM (fun es (path, key, v) => descendInline path key v 0 path es) []

end CrossRef.Toml
