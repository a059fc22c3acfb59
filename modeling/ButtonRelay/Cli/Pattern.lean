/-!
Field values in a log filter. A value that reads as a boolean or a number is compared as one;
any other value is a regular expression, and a filter with one that does not compile does not
parse. This module decides which texts compile, by the usual syntax of regular expressions:

* groups `( … )`, `(?: … )`, named groups `(?P<name> … )` and `(?<name> … )`, and flag groups
  `(?flags)` or `(?flags: … )` with the flags `i m s U u x R` and at most one `-`, which may not
  end the flags;
* alternation `|`, where an empty branch is allowed;
* the repetitions `*`, `+`, `?` and `{n}`, `{n,}`, `{n,m}` with `n ≤ m` below `2^32`, each
  optionally followed by `?`; a repetition needs something before it in its branch, and a flag
  group is not such a thing;
* escapes: the escaped punctuation of ASCII, `\a \f \t \n \r \v`, the classes `\d \s \w` and
  their negations, `\p`/`\P` with a one-letter category or a braced name, the anchors `\A` and
  `\z`, and code points as `\xHH`, `\uHHHH`, `\UHHHHHHHH` or `\x{…}`, `\u{…}`, `\U{…}`;
  digits (back-references) and other letters are refused, and so are the word boundaries
  `\b`, `\B`, `\<`, `\>`, which the automaton behind the filter cannot match;
* bracketed classes with ranges whose ends are single characters in order, nested classes,
  the named classes `[:alpha:]` and so on, and the operators `&&`, `--`, `~~`.
-/

namespace ButtonRelay.Cli.Pattern

/-- Whether a character is a hexadecimal digit. -/
def isHexDigit (c : Char) : Bool :=
  c.isDigit || ('a' ≤ c && c ≤ 'f') || ('A' ≤ c && c ≤ 'F')

/-- The value of hexadecimal digits. -/
def hexValue (ds : List Char) : Nat :=
  ds.foldl (fun acc d =>
    acc * 16 + (if d.isDigit then d.toNat - '0'.toNat
      else if 'a' ≤ d && d ≤ 'f' then d.toNat - 'a'.toNat + 10
      else d.toNat - 'A'.toNat + 10)) 0

/-- What an escape stands for. -/
inductive Escaped where
  /-- One character, by its code point. -/
  | char (n : Nat)
  /-- A class of characters, such as `\d`. -/
  | klass
  /-- A zero-width anchor the automaton can match. -/
  | anchor
  /-- A word boundary, which the automaton cannot match. -/
  | wordBoundary
  deriving DecidableEq, Repr

/-- A code point written in hexadecimal after `\x`, `\u` or `\U`: braced digits, or exactly
`width` digits. -/
def hexCode (width : Nat) : List Char → Option (Escaped × List Char)
  | '\x7b' :: rest =>
    let ds := rest.takeWhile isHexDigit
    match rest.drop ds.length with
    | '\x7d' :: more =>
      if ds.isEmpty || ds.length > 8 || !(hexValue ds).isValidChar then none
      else some (.char (hexValue ds), more)
    | _ => none
  | cs =>
    let ds := (cs.take width).takeWhile isHexDigit
    if ds.length = width && (hexValue ds).isValidChar then some (.char (hexValue ds), cs.drop width)
    else none

/-- A Unicode class after `\p` or `\P`: a one-letter general category or a braced name. -/
def unicodeClass : List Char → Option (Escaped × List Char)
  | '\x7b' :: rest =>
    let name := rest.takeWhile (· != '\x7d')
    match rest.drop name.length with
    | '\x7d' :: more => if name.isEmpty then none else some (.klass, more)
    | _ => none
  | c :: more => if "LMNPSZC".contains c then some (.klass, more) else none
  | [] => none

/-- ASCII characters that a backslash keeps as themselves: all but letters, digits and the
word-boundary marks `<` and `>`. -/
def isEscapable (c : Char) : Bool :=
  c.toNat < 0x80 && !c.isAlphanum && c != '<' && c != '>'

/-- Reads an escape after its backslash. -/
def escape : List Char → Option (Escaped × List Char)
  | [] => none
  | c :: rest =>
    match c with
    | 'x' => hexCode 2 rest
    | 'u' => hexCode 4 rest
    | 'U' => hexCode 8 rest
    | 'p' | 'P' => unicodeClass rest
    | 'd' | 'D' | 's' | 'S' | 'w' | 'W' => some (.klass, rest)
    | 'A' | 'z' => some (.anchor, rest)
    | 'b' | 'B' | '<' | '>' => some (.wordBoundary, rest)
    | 'a' => some (.char 7, rest)
    | 'f' => some (.char 12, rest)
    | 't' => some (.char 9, rest)
    | 'n' => some (.char 10, rest)
    | 'r' => some (.char 13, rest)
    | 'v' => some (.char 11, rest)
    | _ => if isEscapable c then some (.char c.toNat, rest) else none

/-- The names of the bracketed ASCII classes such as `[:alpha:]`. -/
def asciiClassNames : List String :=
  ["alnum", "alpha", "ascii", "blank", "cntrl", "digit", "graph", "lower", "print", "punct",
    "space", "upper", "word", "xdigit"]

/-- Reads a named ASCII class after its `[:`, through its `:]`. -/
def asciiClass (cs : List Char) : Option (List Char) :=
  let body := match cs with
    | '^' :: rest => rest
    | _ => cs
  let name := body.takeWhile (· != ':')
  match body.drop name.length with
  | ':' :: ']' :: more => if asciiClassNames.contains (String.ofList name) then some more else none
  | _ => none

/-- One member of a bracketed class: a character (with its code point) or something wider. -/
def classAtom : List Char → Option (Option Nat × List Char)
  | '\\' :: rest =>
    match escape rest with
    | some (.char n, more) => some (some n, more)
    | some (.klass, more) => some (none, more)
    | _ => none
  | c :: more => some (some c.toNat, more)
  | [] => none

/-- The members of a bracketed class after its `[`: an optional `^` is dropped, and a `]` right
at the start stands for itself. -/
def classStart (cs : List Char) : List Char :=
  let body := match cs with
    | '^' :: rest => rest
    | _ => cs
  match body with
  | ']' :: more => more
  | _ => body

/-- Reads the members of a bracketed class up to and including its `]`. -/
def classItems : Nat → List Char → Option (List Char)
  | 0, _ => none
  | _ + 1, [] => none
  | _ + 1, ']' :: more => some more
  | fuel + 1, '[' :: rest =>
    match (if rest.head? = some ':' then asciiClass (rest.drop 1) else none) with
    | some more => classItems fuel more
    | none => do
      let more ← classItems fuel (classStart rest)
      classItems fuel more
  | fuel + 1, '&' :: '&' :: more => classItems fuel more
  | fuel + 1, '-' :: '-' :: more => classItems fuel more
  | fuel + 1, '~' :: '~' :: more => classItems fuel more
  | fuel + 1, cs => do
    let (first, more) ← classAtom cs
    match more with
    | '-' :: after =>
      if after.head? = some ']' || after.head? = some '-' then classItems fuel more else do
        let (last, rest) ← classAtom after
        match first, last with
        | some a, some b => if a ≤ b then classItems fuel rest else none
        | _, _ => none
    | _ => classItems fuel more

/-- Reads a decimal number below `2^32`. -/
def decimal (cs : List Char) : Option (Nat × List Char) :=
  let ds := cs.takeWhile Char.isDigit
  let n := ds.foldl (fun acc d => acc * 10 + (d.toNat - '0'.toNat)) 0
  if ds.isEmpty || n ≥ Nat.pow 2 32 then none else some (n, cs.drop ds.length)

/-- Reads a counted repetition after its `{`, through its `}`. -/
def counted (cs : List Char) : Option (List Char) := do
  let (low, rest) ← decimal cs
  match rest with
  | '\x7d' :: more => some more
  | ',' :: '\x7d' :: more => some more
  | ',' :: after => do
    let (high, rest') ← decimal after
    match rest' with
    | '\x7d' :: more => if low ≤ high then some more else none
    | _ => none
  | _ => none

/-- Drops the `?` that makes a repetition lazy. -/
def dropLazy : List Char → List Char
  | '?' :: rest => rest
  | cs => cs

/-- What a group opening with `(?` is. -/
inductive GroupKind where
  /-- Only sets flags; nothing is opened. -/
  | flags
  /-- Opens a group. -/
  | opens
  deriving DecidableEq, Repr

/-- Whether a character may stand in a group's name; the first may not be a digit, `.`, `[`
or `]`. -/
def isNameChar (first : Bool) (c : Char) : Bool :=
  c == '_' || ('a' ≤ c && c ≤ 'z') || ('A' ≤ c && c ≤ 'Z') ||
    (!first && (c.isDigit || c == '.' || c == '[' || c == ']'))

/-- Reads a group name through its `>`. -/
def groupName (cs : List Char) : Option (List Char) :=
  match cs with
  | c :: rest =>
    if !isNameChar true c then none else
    let tail := rest.takeWhile (isNameChar false)
    match rest.drop tail.length with
    | '>' :: more => some more
    | _ => none
  | [] => none

/-- Reads flags after `(?` up to `:` or `)`: known flags, each once, at most one `-`, which
may not come last. -/
def flagRun : Nat → List Char → Bool → Bool → List Char → Option (GroupKind × List Char)
  | 0, _, _, _, _ => none
  | _ + 1, seen, negated, afterDash, c :: rest =>
    if c = ':' || c = ')' then
      if afterDash || (seen.isEmpty && !negated && c = ')') then none
      else some (if c = ':' then .opens else .flags, rest)
    else if c = '-' then
      if negated then none else flagRun rest.length seen true true rest
    else if "imsUuxR".contains c && !seen.contains c then
      flagRun rest.length (c :: seen) negated false rest
    else none
  | _ + 1, _, _, _, [] => none

/-- Reads what follows `(?`. -/
def groupAfterMark : List Char → Option (GroupKind × List Char)
  | 'P' :: '<' :: rest => (groupName rest).map fun more => (.opens, more)
  | '<' :: rest => (groupName rest).map fun more => (.opens, more)
  | cs => flagRun (cs.length + 1) [] false false cs

/-- Reads a pattern: `depth` groups are open, and `repeatable` tells whether the last item of
the branch can take a repetition. -/
def body : Nat → Nat → Bool → List Char → Bool
  | 0, _, _, _ => false
  | _ + 1, depth, _, [] => depth = 0
  | fuel + 1, depth, repeatable, c :: rest =>
    match c with
    | '(' =>
      match rest with
      | '?' :: more =>
        match groupAfterMark more with
        | some (.flags, after) => body fuel depth false after
        | some (.opens, after) => body fuel (depth + 1) false after
        | none => false
      | _ => body fuel (depth + 1) false rest
    | ')' => depth > 0 && body fuel (depth - 1) true rest
    | '|' => body fuel depth false rest
    | '*' | '+' | '?' => repeatable && body fuel depth true (dropLazy rest)
    | '\x7b' =>
      repeatable && match counted rest with
        | some more => body fuel depth true (dropLazy more)
        | none => false
    | '\\' =>
      match escape rest with
      | some (.wordBoundary, _) | none => false
      | some (_, more) => body fuel depth true more
    | '[' =>
      match classItems (rest.length + 1) (classStart rest) with
      | some more => body fuel depth true more
      | none => false
    | _ => body fuel depth true rest

/-- Whether a text is a regular expression the filter compiles. -/
def compiles (text : String) : Bool :=
  body (text.length + 1) 0 false text.toList

/-- Whether a text reads as a decimal floating-point number: an optional sign, then `inf`,
`infinity` or `nan` in any case, or digits with an optional point and exponent. -/
def isFloatText (text : String) : Bool :=
  let cs := match text.toList with
    | '+' :: rest | '-' :: rest => rest
    | cs => cs
  let word := String.ofList (cs.map Char.toLower)
  word == "inf" || word == "infinity" || word == "nan" ||
    (let whole := cs.takeWhile Char.isDigit
     let afterWhole := cs.drop whole.length
     let (frac, afterFrac) := match afterWhole with
       | '.' :: more => (more.takeWhile Char.isDigit, more.dropWhile Char.isDigit)
       | more => ([], more)
     let hasPoint := afterWhole.head? = some '.'
     let mantissaOk := !whole.isEmpty || (hasPoint && !frac.isEmpty)
     let exponentOk := match afterFrac with
       | [] => true
       | e :: more =>
         (e == 'e' || e == 'E') &&
           (let ds := match more with
              | '+' :: r | '-' :: r => r
              | r => r
            !ds.isEmpty && ds.all Char.isDigit)
     mantissaOk && exponentOk)

/-- Whether a field value is accepted: a boolean, a number, or a pattern that compiles. -/
def valueAccepted (value : String) : Bool :=
  value == "true" || value == "false" || isFloatText value || compiles value

example : compiles "a(b|c)*d" ∧ compiles "[a-z]+" ∧ compiles "x\\.y" ∧ compiles "" := by decide +kernel
example : !compiles "(" ∧ !compiles "[" ∧ !compiles "*" ∧ !compiles "\\" ∧ !compiles "a\x7b2" ∧
    !compiles "a)" ∧ !compiles "\\b" := by decide +kernel
example : valueAccepted "+1" ∧ valueAccepted "1e5" ∧ !valueAccepted "+" := by decide +kernel

end ButtonRelay.Cli.Pattern
