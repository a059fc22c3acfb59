import ButtonRelay.Toml.Inline

/-!
The tables of a TOML document. Entries keep the order they were made in. A table is implicit
when only a longer header or a dotted key made it, and dotted when a dotted key did; a header may
later define an implicit table that no dotted key made, a dotted key may extend only tables that
dotted keys made, and nothing extends a value. An array of tables is extended through its last
table. A table's span runs from its header to the last value written under it.
-/

namespace ButtonRelay.Toml

mutual
/-- What a key of a table holds. -/
inductive Node where
  | value (v : Value) (span : Span)
  | table (t : Table)
  | tables (list : List Table) (span : Option Span)

/-- A table: its entries in order, whether it is implicit and dotted, and its span. -/
inductive Table where
  | mk (entries : List (Key × Node)) (implicit dotted : Bool) (span : Option Span)
end

namespace Table

/-- A table with nothing in it. -/
def empty : Table := .mk [] false false none

/-- The entries. -/
def entries : Table → List (Key × Node)
  | .mk es _ _ _ => es

/-- Whether only a longer path made the table. -/
def implicit : Table → Bool
  | .mk _ i _ _ => i

/-- Whether a dotted key made the table. -/
def dotted : Table → Bool
  | .mk _ _ d _ => d

/-- The table's span. -/
def span : Table → Option Span
  | .mk _ _ _ s => s

/-- The same table with other entries. -/
def withEntries (t : Table) (es : List (Key × Node)) : Table := .mk es t.implicit t.dotted t.span

/-- The same table with another span. -/
def withSpan (t : Table) (s : Option Span) : Table := .mk t.entries t.implicit t.dotted s

/-- The table as a header defines it. -/
def defined (t : Table) (s : Span) : Table := .mk t.entries false false (some s)

end Table

/-- The node of a key. -/
def findNode (es : List (Key × Node)) (name : String) : Option Node :=
  (es.find? fun e => e.1.name = name).map (·.2)

/-- Replaces the node of a key, keeping the key and its place. -/
def setNode (es : List (Key × Node)) (name : String) (n : Node) : List (Key × Node) :=
  es.map fun e => if e.1.name = name then (e.1, n) else e

/-- Takes out the node of a key; the entries after it move up. -/
def takeNode (es : List (Key × Node)) (name : String) : Option Node × List (Key × Node) :=
  (findNode es name, es.filter fun e => e.1.name ≠ name)

/-- The span of an array of tables: from its first table's start to its last table's end. -/
def tablesSpan (list : List Table) : Option Span :=
  match list.head?.bind Table.span, list.getLast?.bind Table.span with
  | some first, some last => some ⟨first.start, last.stop⟩
  | _, _ => none

/-- Walks down `path` from a table, making implicit tables (dotted ones when `dotted`) where
keys are missing, and changes the table at the end by `f`. -/
def Table.alter {β : Type} (f : Table → Except Conflict (Table × β)) (dotted : Bool) :
    Table → List Key → List Key → Except Conflict (Table × β)
  | t, _, [] => f t
  | t, seen, k :: ks =>
    let (child, es) := match findNode t.entries k.name with
      | some n => (n, t.entries)
      | none =>
        let fresh := Node.table (.mk [] true dotted none)
        (fresh, t.entries ++ [(k, fresh)])
    match child with
    | .value v _ => .error (.extendWrongType (seen ++ [k]) v.typeName)
    | .tables list span =>
      match list.getLast? with
      | some last => do
        let (last', b) ← Table.alter f dotted last (seen ++ [k]) ks
        pure (t.withEntries (setNode es k.name (.tables (list.dropLast ++ [last']) span)), b)
      | none => do
        let (fresh, b) ← Table.alter f dotted Table.empty (seen ++ [k]) ks
        pure (t.withEntries (setNode es k.name (.tables [fresh] span)), b)
    | .table c =>
      if dotted && !c.implicit then .error (.duplicateKey k.name none)
      else do
        let (c', b) ← Table.alter f dotted c (seen ++ [k]) ks
        pure (t.withEntries (setNode es k.name (.table c')), b)

/-- A document being read: the root, the table that headers last opened, its path, and whether
it belongs to an array of tables. -/
structure Builder where
  root : Table
  current : Table
  path : List Key
  inArray : Bool

/-- Nothing read yet: values go to the root. -/
def Builder.start : Builder := ⟨Table.empty, .mk [] false false (some ⟨0, 0⟩), [], false⟩

/-- The path without its last key, and that key. -/
def splitLast (path : List Key) : List Key × Option Key :=
  (path.dropLast, path.getLast?)

/-- Adds `key = v` under the dotted `path` of the current table. -/
def Builder.addPair (b : Builder) (path : List Key) (key : Key) (v : Value) (span : Span) :
    Except Conflict Builder := do
  let current := match b.current.span with
    | some s => b.current.withSpan (some ⟨s.start, span.stop⟩)
    | none => b.current
  let (current', ()) ← Table.alter (fun t =>
      if t.dotted = path.isEmpty then .error (.duplicateKey key.name none)
      else match findNode t.entries key.name with
        | some _ => .error (.duplicateKey key.name (some b.path))
        | none => .ok (t.withEntries (t.entries ++ [(key, .value v span)]), ()))
    true current [] path
  pure { b with current := current' }

/-- Puts the current table into the root where its header said; before any header the
current table is the root. -/
def Builder.close (b : Builder) : Except Conflict Table :=
  let table := b.current
  match splitLast b.path with
  | (_, none) => .ok table
  | (parent, some key) =>
    let fail := Conflict.duplicateKey key.name (some parent)
    if b.inArray then
      (·.1) <$> Table.alter (fun p =>
          match findNode p.entries key.name with
          | none => .ok (p.withEntries (p.entries ++ [(key, .tables [table] (tablesSpan [table]))]), ())
          | some (.tables list _) =>
            .ok (p.withEntries (setNode p.entries key.name
              (.tables (list ++ [table]) (tablesSpan (list ++ [table])))), ())
          | some _ => .error fail)
        false b.root [] parent
    else
      (·.1) <$> Table.alter (fun p =>
          match findNode p.entries key.name with
          | none => .ok (p.withEntries (p.entries ++ [(key, .table table)]), ())
          | some (.table t) =>
            if t.implicit then .ok (p.withEntries (setNode p.entries key.name (.table table)), ())
            else .error fail
          | some _ => .error fail)
        false b.root [] parent

/-- Opens the table of a `[path]` header. An implicit table that no dotted key made is taken
over with what it holds. -/
def Builder.openTable (b : Builder) (path : List Key) (span : Span) : Except Conflict Builder := do
  let root ← b.close
  match splitLast path with
  | (_, none) => pure { b with root := root }
  | (parent, some key) =>
    let (root', found) ← Table.alter (fun p =>
        match takeNode p.entries key.name with
        | (none, _) => .ok (p, Table.empty)
        | (some (.table t), rest) =>
          if t.implicit && !t.dotted then .ok (p.withEntries rest, t)
          else .error (.duplicateKey key.name (some parent))
        | (some _, _) => .error (.duplicateKey key.name (some parent)))
      false root [] parent
    pure ⟨root', found.defined span, path, false⟩

/-- Opens a new table of the array of tables of a `[[path]]` header. -/
def Builder.openArrayTable (b : Builder) (path : List Key) (span : Span) :
    Except Conflict Builder := do
  let root ← b.close
  match splitLast path with
  | (_, none) => pure { b with root := root }
  | (parent, some key) =>
    let (root', ()) ← Table.alter (fun p =>
        match findNode p.entries key.name with
        | none => .ok (p.withEntries (p.entries ++ [(key, .tables [] none)]), ())
        | some (.tables _ _) => .ok (p, ())
        | some _ => .error (.duplicateKey key.name (some parent)))
      false root [] parent
    pure ⟨root', Table.empty.defined span, path, true⟩

/-- The finished root table. -/
def Builder.finish (b : Builder) : Except Conflict Table := b.close

end ButtonRelay.Toml
