import ButtonRelay.Toml.Strings
import ButtonRelay.Toml.Numbers
import ButtonRelay.Toml.Value

/-!
Keys and values. A key is one or more simple keys (bare, basic or literal) joined by dots, with
blanks around each. A value is chosen by its first character; arrays and inline tables nest at
most 79 deep. In an inline table a dotted key makes tables of its own, and a key may be given
only once.
-/

namespace ButtonRelay.Toml

/-- A simple key and where it was written. -/
def simpleKey : Scan Key := do
  let start ← offset
  let name ← match ← peekChar with
    | some '"' => basicString
    | some '\'' => literalString
    | some _ => do pure (String.ofList (← takeSome isBareKeyChar))
    | none => reject
  pure ⟨name, some ⟨start, ← offset⟩⟩

/-- A simple key with the blanks around it. -/
def keyPart : Scan Key := do
  blanks
  let k ← simpleKey
  blanks
  pure k

/-- A dotted key, as its parts. -/
def dottedKey : Scan (List Key) :=
  refine (labelled "key" (sepBy1 keyPart (token '.')))
    fun ks => if ks.length < 80 then .ok ks else .error "recursion limit exceeded"

/-- An inline table under construction: values, and tables made by dotted keys. -/
inductive Draft where
  | leaf (v : Value)
  | node (entries : List (String × Draft))

mutual
/-- The value a draft stands for. -/
def Draft.toValue : Draft → Value
  | .leaf v => v
  | .node es => .table (Draft.entriesToValue es)

/-- The values of drafted entries. -/
def Draft.entriesToValue : List (String × Draft) → List (String × Value)
  | [] => []
  | (k, d) :: rest => (k, d.toValue) :: Draft.entriesToValue rest
end

/-- Why a table could not take a key. -/
inductive Conflict where
  | duplicateKey (key : String) (table : Option (List Key))
  | extendWrongType (path : List Key) (actual : String)
  deriving Repr

/-- The text of a conflict. -/
def Conflict.message : Conflict → String
  | .duplicateKey k none => "duplicate key `" ++ k ++ "`"
  | .duplicateKey k (some []) => "duplicate key `" ++ k ++ "` in document root"
  | .duplicateKey k (some path) => "duplicate key `" ++ k ++ "` in table `" ++ dotted path ++ "`"
  | .extendWrongType path actual =>
    "dotted key `" ++ dotted path ++ "` attempted to extend non-table type (" ++ actual ++ ")"

/-- Replaces the entry of a key, keeping its place. -/
def replaceEntry {α : Type} (es : List (String × α)) (k : String) (v : α) : List (String × α) :=
  es.map fun e => if e.1 = k then (k, v) else e

/-- Puts a value at a dotted path of an inline table: the path's tables are made as needed, and
neither a value nor a written inline table can be extended. -/
def Draft.insert (es : List (String × Draft)) (seen : List Key) (leaf : Key) (v : Value) :
    List Key → Except Conflict (List (String × Draft))
  | [] =>
    match es.lookup leaf.name with
    | some _ => .error (.duplicateKey leaf.name none)
    | none => .ok (es ++ [(leaf.name, .leaf v)])
  | k :: ks =>
    match es.lookup k.name with
    | none => do
      let inner ← Draft.insert [] (seen ++ [k]) leaf v ks
      pure (es ++ [(k.name, .node inner)])
    | some (.node inner) => do
      let inner ← Draft.insert inner (seen ++ [k]) leaf v ks
      pure (replaceEntry es k.name (.node inner))
    | some (.leaf (.table _)) => .error (.duplicateKey k.name none)
    | some (.leaf other) => .error (.extendWrongType (seen ++ [k]) other.typeName)

/-- Builds an inline table from its key-value pairs in order. -/
def Draft.ofPairs : List (List Key × Key × Value) → Except Conflict (List (String × Draft))
  | [] => .ok []
  | pairs => pairs.foldlM (fun es (path, k, v) => Draft.insert es [] k v path) []

/-- The contexts of a place where a value must start. -/
def valueContext {α : Type} (p : Scan α) : Scan α :=
  expecting '\'' (expecting '"' (labelled "string" p))

/-- Fails for good when arrays and tables nest too deep. -/
def tooDeep {α : Type} : Scan α := throw ⟨true, [], some "recursion limit exceeded"⟩

/-- An array after `[`, its items read by `item`. -/
def arrayBody (item : Scan Value) : Scan Value := do
  let close : Scan Unit :=
    expecting ']' (labelled "array" (commit (token ']')))
  let items ← commit do
    match ← peekChar with
    | some ']' => pure []
    | _ =>
      let element : Scan Value := do
        blankLines
        let v ← item
        blankLines
        pure v
      let vs ← sepBy element (token ',')
      if !vs.isEmpty then
        let _ ← optional (token ',')
      blankLines
      pure vs
  close
  pure (.array items)

/-- A key-value pair inside an inline table. -/
def inlinePair (item : Scan Value) : Scan (List Key × Key × Value) := do
  let keys ← dottedKey
  commit do
    within (.expected (.char '=')) (within (.expected (.char '.')) (token '='))
    blanks
    let v ← item
    blanks
    match keys.reverse with
    | leaf :: path => pure (path.reverse, leaf, v)
    | [] => reject

/-- An inline table after `{`, its values read by `item`. -/
def inlineTableBody (item : Scan Value) : Scan Value := do
  let entries ← commit (do
    let start ← get
    let pairs ← sepBy (inlinePair item) (token ',')
    blanks
    match Draft.ofPairs pairs with
    | .ok es => pure es
    | .error c => do set start; rejectWith c.message)
  expecting '}' (labelled "inline table" (commit (token '}')))
  pure (Draft.node entries).toValue

/-- A value, with arrays and inline tables read by `nested` (none when nesting is too deep). -/
def valueWith (nested : Option (Scan Value)) : Scan Value := do
  match ← peekChar with
  | none => reject
  | some '"' | some '\'' => .string <$> stringValue
  | some '[' =>
    match nested with
    | some item => do token '['; arrayBody item
    | none => tooDeep
  | some '{' =>
    match nested with
    | some item => do token '{'; inlineTableBody item
    | none => tooDeep
  | some '_' => within (.expected (.description "leading digit")) (.integer <$> integer)
  | some '.' => within (.expected (.description "leading digit")) (.float <$> float)
  | some 't' => valueContext (.boolean <$> trueValue)
  | some 'f' => valueContext (.boolean <$> falseValue)
  | some 'i' => valueContext (do literal ['i', 'n', 'f']; pure (.float (1.0 / 0.0)))
  | some 'n' => valueContext (do literal ['n', 'a', 'n']; pure (.float (0.0 / 0.0)))
  | some c =>
    if c = '+' || c = '-' || isDigit c then
      orElse (.datetime <$> dateTime) (orElse (.float <$> float) (.integer <$> integer))
    else valueContext reject

/-- A value nesting at most `depth` arrays or inline tables deep. -/
def valueAt : Nat → Scan Value
  | 0 => valueWith none
  | depth + 1 => valueWith (some (valueAt depth))

/-- A value and where it was written. -/
def value : Scan (Value × Span) := do
  let start ← offset
  let v ← valueAt 79
  pure (v, ⟨start, ← offset⟩)

end ButtonRelay.Toml
