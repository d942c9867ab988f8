import Listing.Text.Digits

/-!
# Tokens of YAML

A YAML text is cut into tokens.  Indentation becomes explicit: where a collection
starts or ends by indentation alone, a token says so, and in front of the key of a
mapping stands a token even where the text has no mark for it.  Since a key is only
known by the colon behind it, the place where a key could start is remembered, and
its tokens are put there when the colon comes.

* `Yaml.scanAll` gives the tokens of a text, or nothing if it has none.
-/

namespace Listing.Yaml

/-- A token. -/
inductive Token where
  | streamEnd
  | versionDirective (major minor : Nat)
  | tagDirective (handle expansion : String)
  | documentStart
  | documentEnd
  | blockSequenceStart
  | blockMappingStart
  | blockEnd
  | flowSequenceStart
  | flowSequenceEnd
  | flowMappingStart
  | flowMappingEnd
  | blockEntry
  | flowEntry
  | key
  | value
  | alias (name : String)
  | anchor (name : String)
  | tag (handle suffix : String)
  /-- A scalar; a plain one stands without quotes. -/
  | scalar (plain : Bool) (text : String)
  deriving DecidableEq, Repr

/-! ## Characters -/

/-- A blank within a line. -/
def isSpace (c : Char) : Bool := c = ' ' || c = '\t'

/-- A character that ends a line. -/
def isBreak (c : Char) : Bool :=
  c = '\n' || c = '\r' || c.toNat = 0x85 || c.toNat = 0x2028 || c.toNat = 0x2029

/-- The text ends here. -/
def atEnd (cs : List Char) : Bool := cs.isEmpty

/-- The line ends here. -/
def atLineEnd : List Char → Bool
  | [] => true
  | c :: _ => isBreak c

/-- A blank, a line end or the end comes next. -/
def atBlank : List Char → Bool
  | [] => true
  | c :: _ => isSpace c || isBreak c

/-- A character that may stand in a text at all. -/
def isPrintable (c : Char) : Bool :=
  let n := c.toNat
  n = 9 || n = 0xA || n = 0xD || (0x20 ≤ n && n ≤ 0x7E) || n = 0x85 ||
    (0xA0 ≤ n && n ≤ 0xFFFD && n ≠ 0xFEFF) || 0x10000 ≤ n

/-- A character of a name. -/
def isWordChar (c : Char) : Bool :=
  Text.isDigit c || ('a' ≤ c && c ≤ 'z') || ('A' ≤ c && c ≤ 'Z') || c = '_' || c = '-'

/-- A mark that has a meaning inside braces and brackets. -/
def isFlowMark (c : Char) : Bool := ",[]\x7b\x7d".toList.contains c

/-! ## Places -/

/-- A place in a text. -/
structure Cursor where
  rest : List Char
  index : Nat
  line : Nat
  column : Nat

namespace Cursor

/-- Pass a number of characters on one line. -/
def skip (c : Cursor) (n : Nat) : Cursor :=
  { c with rest := c.rest.drop n, index := c.index + n, column := c.column + n }

/-- Pass a line end. -/
def skipBreak (c : Cursor) : Cursor :=
  match c.rest with
  | '\r' :: '\n' :: rest => ⟨rest, c.index + 2, c.line + 1, 0⟩
  | _ :: rest => ⟨rest, c.index + 1, c.line + 1, 0⟩
  | [] => c

/-- What a line end counts as in a scalar. -/
def breakText (c : Cursor) : List Char :=
  match c.rest with
  | [] => []
  | d :: _ => if d.toNat = 0x2028 ∨ d.toNat = 0x2029 then [d] else ['\n']

/-- Pass the characters on this line that suit a test. -/
def skipWhile (c : Cursor) (suits : Char → Bool) : Cursor :=
  c.skip (c.rest.takeWhile suits).length

/-- The characters on this line that suit a test. -/
def takeWhile (c : Cursor) (suits : Char → Bool) : List Char := c.rest.takeWhile suits

/-- Pass the rest of the line. -/
def skipLine (c : Cursor) : Cursor := c.skipWhile fun d => !isBreak d

/-- A mark between documents stands here. -/
def atDocumentMark (c : Cursor) : Bool :=
  c.column = 0 &&
    match c.rest with
    | '-' :: '-' :: '-' :: rest => atBlank rest
    | '.' :: '.' :: '.' :: rest => atBlank rest
    | _ => false

end Cursor

/-! ## Blanks inside scalars -/

/-- The blanks between two parts of a scalar: those on the first line, and the line ends. -/
structure Gap where
  spaces : List Char
  breaks : List (List Char)

/-- No blanks. -/
def Gap.none : Gap := ⟨[], []⟩

/-- What blanks count as: a single line end is a space, further ones are kept. -/
def Gap.joined (g : Gap) : List Char :=
  match g.breaks with
  | [] => g.spaces
  | [['\n']] => [' ']
  | ['\n'] :: more => more.flatten
  | breaks => breaks.flatten

/-- Pass blanks and line ends; a tab may not stand before the column `limit` of a further
line. -/
def scanGap (limit : Int) : (fuel : Nat) → Gap → Cursor → Option (Gap × Cursor)
  | 0, _, _ => .none
  | fuel + 1, g, c =>
    match c.rest with
    | [] => some (g, c)
    | d :: _ =>
      if isSpace d then
        if g.breaks.isEmpty then scanGap limit fuel { g with spaces := g.spaces ++ [d] } (c.skip 1)
        else if d = '\t' ∧ (c.column : Int) < limit then .none
        else scanGap limit fuel g (c.skip 1)
      else if isBreak d then
        scanGap limit fuel { g with breaks := g.breaks ++ [c.breakText] } c.skipBreak
      else some (g, c)

/-! ## Plain scalars -/

/-- The characters of a plain scalar up to a blank or a mark that ends it. -/
def plainRun (flow : Bool) : List Char → Option (List Char)
  | [] => some []
  | d :: rest =>
    if isSpace d || isBreak d then some []
    else if flow && d = ':' && rest.head?.any (fun e => isFlowMark e || e = '?') then .none
    else if (d = ':' && atBlank rest) || (flow && isFlowMark d) then some []
    else (plainRun flow rest).map (d :: ·)

/-- Scan a plain scalar that stands on columns from `limit` on; also whether it ended behind
a line end. -/
def scanPlain (flow : Bool) (limit : Int) :
    (fuel : Nat) → (text : List Char) → Gap → Cursor → Option (List Char × Bool × Cursor)
  | 0, _, _, _ => .none
  | fuel + 1, text, g, c =>
    let behindBreak := !g.breaks.isEmpty
    if c.atDocumentMark || c.rest.head? = some '#' then some (text, behindBreak, c)
    else
      match plainRun flow c.rest with
      | .none => .none
      | some run =>
        if run.isEmpty then some (text, behindBreak, c)
        else
          let text := text ++ g.joined ++ run
          let c := c.skip run.length
          match scanGap limit (c.rest.length + 1) .none c with
          | .none => .none
          | some (g, next) =>
            if g.spaces.isEmpty && g.breaks.isEmpty then some (text, false, next)
            else if !flow && (next.column : Int) < limit then
              some (text, !g.breaks.isEmpty, next)
            else scanPlain flow limit fuel text g next

/-! ## Quoted scalars -/

/-- The number that a run of hexadecimal digits writes. -/
def hexNumber? (cs : List Char) : Option Nat :=
  (cs.mapM Text.hexValue?).map (·.foldl (fun n d => 16 * n + d) 0)

/-- What the letter behind a backslash stands for. -/
def escapeOf? (c : Char) : Option Nat :=
  [('0', 0), ('a', 7), ('b', 8), ('t', 9), ('\t', 9), ('n', 10), ('v', 11), ('f', 12), ('r', 13),
    ('e', 27), (' ', 32), ('"', 34), ('/', 47), ('\\', 92), ('N', 0x85), ('_', 0xA0),
    ('L', 0x2028), ('P', 0x2029)].lookup c

/-- How many hexadecimal digits follow the letter behind a backslash. -/
def escapeWidth? (c : Char) : Option Nat := [('x', 2), ('u', 4), ('U', 8)].lookup c

/-- A character between double quotes that starts with a backslash, and its length. -/
def escape? (cs : List Char) : Option (Char × Nat) :=
  match cs with
  | [] => .none
  | c :: rest =>
    match escapeOf? c with
    | some n => some (Char.ofNat n, 2)
    | .none => do
      let width ← escapeWidth? c
      let n ← hexNumber? (rest.take width)
      if rest.length < width ∨ (0xD800 ≤ n ∧ n ≤ 0xDFFF) ∨ 0x10FFFF < n then .none
      else some (Char.ofNat n, width + 2)

/-- Scan a quoted scalar behind its opening quote. -/
def scanQuoted (quote : Char) :
    (fuel : Nat) → (text : List Char) → Cursor → Option (List Char × Cursor)
  | 0, _, _ => .none
  | fuel + 1, text, c =>
    if c.atDocumentMark then .none
    else match c.rest with
    | [] => .none
    | d :: rest =>
      if d = quote then
        if quote = '\'' ∧ rest.head? = some '\'' then
          scanQuoted quote fuel (text ++ ['\'']) (c.skip 2)
        else some (text, c.skip 1)
      else if quote = '"' ∧ d = '\\' then
        if !rest.isEmpty && atLineEnd rest then
          match scanGap 0 (rest.length + 1) ⟨[], [[]]⟩ (c.skip 1).skipBreak with
          | .none => .none
          | some (g, c) => scanQuoted quote fuel (text ++ g.joined) c
        else
          match escape? rest with
          | .none => .none
          | some (e, width) => scanQuoted quote fuel (text ++ [e]) (c.skip width)
      else if isSpace d || isBreak d then
        match scanGap 0 (c.rest.length + 1) .none c with
        | .none => .none
        | some (g, c) => scanQuoted quote fuel (text ++ g.joined) c
      else scanQuoted quote fuel (text ++ [d]) (c.skip 1)

/-! ## Block scalars -/

/-- What becomes of the line ends behind a block scalar. -/
inductive Chomping where
  | strip
  | clip
  | keep
  deriving DecidableEq

/-- The chomping that a mark means. -/
def Chomping.ofMark? (c : Char) : Option Chomping :=
  if c = '+' then some keep else if c = '-' then some strip else .none

/-- The marks behind the sign of a block scalar: chomping and indentation, in any order. -/
def blockHeader (cs : List Char) : Option (Chomping × Nat × Nat) :=
  let digit? (c : Char) : Option Nat := if Text.isDigit c then some (Text.digitValue c) else .none
  let (chomping, width, indent?) := match cs with
    | a :: rest =>
      match Chomping.ofMark? a, digit? a with
      | some chomping, _ =>
        match rest.head?.bind digit? with
        | some n => (chomping, 2, some n)
        | .none => (chomping, 1, .none)
      | .none, some n =>
        match rest.head?.bind Chomping.ofMark? with
        | some chomping => (chomping, 2, some n)
        | .none => (.clip, 1, some n)
      | .none, .none => (.clip, 0, .none)
    | [] => (.clip, 0, .none)
  if indent? = some 0 then .none else some (chomping, indent?.getD 0, width)

/-- Pass the indentation of the lines up to the next text, and the empty lines.  With an
`indent` of nought the deepest column reached decides. -/
def blockBreaks (indent : Nat) :
    (fuel deepest : Nat) → (breaks : List Char) → Cursor → Option (List Char × Nat × Cursor)
  | 0, _, _, _ => .none
  | fuel + 1, deepest, breaks, c =>
    let run := (c.takeWhile (· = ' ')).length
    let c := c.skip (if indent = 0 then run else min run (indent - c.column))
    let deepest := max deepest c.column
    match c.rest with
    | [] => some (breaks, deepest, c)
    | d :: _ =>
      if d = '\t' ∧ (indent = 0 ∨ c.column < indent) then .none
      else if isBreak d then blockBreaks indent fuel deepest (breaks ++ c.breakText) c.skipBreak
      else some (breaks, deepest, c)

/-- Scan the lines of a block scalar on the column `indent`.  `last` is the line end behind
the text so far, `trailing` are the empty lines behind it, and `spaced` tells whether
the last line started with a blank. -/
def blockLines (literal : Bool) (indent : Nat) :
    (fuel : Nat) → (text last trailing : List Char) → (spaced : Bool) → Cursor →
      Option (List Char × List Char × List Char × Cursor)
  | 0, _, _, _, _, _ => .none
  | fuel + 1, text, last, trailing, spaced, c =>
    if c.column ≠ indent ∨ c.rest.isEmpty then some (text, last, trailing, c)
    else
      let spacedNow := c.rest.head?.any isSpace
      let joint :=
        if !literal && last.head? = some '\n' && !spaced && !spacedNow then
          if trailing.isEmpty then [' '] else trailing
        else last ++ trailing
      let line := c.takeWhile fun d => !isBreak d
      let c := c.skip line.length
      let last := c.breakText
      match blockBreaks indent (c.rest.length + 1) 0 [] c.skipBreak with
      | .none => .none
      | some (trailing, _, next) =>
        blockLines literal indent fuel (text ++ joint ++ line) last trailing spacedNow next

/-- Scan a block scalar behind its sign, inside a collection on the column `outer`. -/
def scanBlock (literal : Bool) (outer : Int) (c : Cursor) : Option (List Char × Cursor) := do
  let (chomping, extra, width) ← blockHeader c.rest
  let c := (c.skip width).skipWhile isSpace
  let c := if c.rest.head? = some '#' then c.skipLine else c
  if !atLineEnd c.rest then .none
  let c := c.skipBreak
  let fuel := c.rest.length + 1
  let given : Nat := if extra = 0 then 0 else if 0 ≤ outer then outer.toNat + extra else extra
  let (trailing, deepest, c) ← blockBreaks given fuel 0 [] c
  let indent := if given = 0 then max (max deepest (outer + 1).toNat) 1 else given
  let (text, last, trailing, c) ← blockLines literal indent fuel [] [] trailing false c
  let text := match chomping with
    | .strip => text
    | .clip => text ++ last
    | .keep => text ++ last ++ trailing
  return (text, c)

/-! ## Names, tags and directives -/

/-- Scan the name behind an asterisk or an ampersand. -/
def scanName (c : Cursor) : Option (String × Cursor) :=
  let name := c.takeWhile isWordChar
  let c := c.skip name.length
  if name.isEmpty then .none
  else if atBlank c.rest || c.rest.head?.any (fun d => "?:,]\x7d%@`".toList.contains d) then
    some (String.ofList name, c)
  else .none

/-- A character of the suffix of a tag. -/
def isTagChar (verbatim : Bool) (c : Char) : Bool :=
  isWordChar c || ";/?:@&=+$.%!~*'()".toList.contains c ||
    (verbatim && ",[]".toList.contains c)

/-- Scan a tag behind its exclamation mark. -/
def scanTag (flow : Bool) (c : Cursor) : Option (Token × Cursor) := do
  let (token, c) ← match c.rest with
    | '<' :: _ =>
      let c := c.skip 1
      let suffix := c.takeWhile (isTagChar true)
      let c := c.skip suffix.length
      if suffix.isEmpty ∨ c.rest.head? ≠ some '>' then .none
      else some (Token.tag "" (String.ofList suffix), c.skip 1)
    | _ =>
      let word := c.takeWhile isWordChar
      match c.rest.drop word.length with
      | '!' :: _ =>
        let c := c.skip (word.length + 1)
        let suffix := c.takeWhile (isTagChar false)
        if suffix.isEmpty then .none
        else
          some (Token.tag (String.ofList ('!' :: word ++ ['!'])) (String.ofList suffix),
            c.skip suffix.length)
      | _ =>
        let suffix := c.takeWhile (isTagChar false)
        some (Token.tag "!" (String.ofList suffix), c.skip suffix.length)
  if atBlank c.rest || (flow && c.rest.head? = some ',') then some (token, c) else .none

/-- Scan a directive behind its percent sign, up to the end of the line. -/
def scanDirective (c : Cursor) : Option (Token × Cursor) := do
  let name := c.takeWhile isWordChar
  let c := (c.skip name.length).skipWhile isSpace
  let (token, c) ←
    if name = "YAML".toList then
      let major := c.takeWhile Text.isDigit
      let c := c.skip major.length
      let minor := (c.skip 1).takeWhile Text.isDigit
      if major.isEmpty ∨ c.rest.head? ≠ some '.' ∨ minor.isEmpty then .none
      else
        some (Token.versionDirective (Text.digitsValue major) (Text.digitsValue minor),
          c.skip (minor.length + 1))
    else if name = "TAG".toList then
      let handle := c.takeWhile fun d => !isSpace d && !isBreak d
      let c := c.skip handle.length
      let gap := c.takeWhile isSpace
      let c := c.skip gap.length
      let expansion := c.takeWhile (isTagChar true)
      if handle.head? ≠ some '!' ∨ handle.getLast? ≠ some '!' ∨ gap.isEmpty ∨ expansion.isEmpty then
        .none
      else
        some (Token.tagDirective (String.ofList handle) (String.ofList expansion),
          c.skip expansion.length)
    else .none
  let c := c.skipWhile isSpace
  let c := if c.rest.head? = some '#' then c.skipLine else c
  if atLineEnd c.rest then some (token, c.skipBreak) else .none

/-! ## The scanner -/

/-- A place where a key may start: the number of tokens before it, and whether a key must
start there. -/
structure KeyPlace where
  tokens : Nat
  required : Bool
  index : Nat
  line : Nat
  column : Nat

/-- The state of the scanner.  Tokens are kept with the last first, and so are the columns of
the collections around and the places of possible keys, one for each level of braces
and brackets. -/
structure Scanner where
  cursor : Cursor
  tokens : List Token
  indent : Int
  outer : List Int
  keyAllowed : Bool
  places : List (Option KeyPlace)

namespace Scanner

/-- The scanner is inside braces or brackets. -/
def inFlow (s : Scanner) : Bool := 1 < s.places.length

/-- Append a token. -/
def emit (s : Scanner) (t : Token) : Scanner := { s with tokens := t :: s.tokens }

/-- Append a token and go on at a place. -/
def emitAt (s : Scanner) (t : Token) (c : Cursor) : Scanner := { s.emit t with cursor := c }

/-- Put tokens behind the first `count` ones. -/
def putAt (s : Scanner) (count : Nat) (ts : List Token) : Scanner :=
  let behind := s.tokens.take (s.tokens.length - count)
  let before := s.tokens.drop (s.tokens.length - count)
  { s with tokens := behind ++ ts.reverse ++ before }

/-- End the collections that stand to the right of a column. -/
def unroll (column : Int) : (outer : List Int) → (s : Scanner) → Scanner
  | [], s => s
  | previous :: outer, s =>
    if s.inFlow then s
    else if column < s.indent then
      unroll column outer { s.emit .blockEnd with indent := previous, outer := outer }
    else s

/-- End the collections that stand to the right of a column. -/
def unrollTo (s : Scanner) (column : Int) : Scanner := unroll column s.outer s

/-- Start a collection on a column if it is to the right of the current one. -/
def rolls (s : Scanner) (column : Nat) : Bool := !s.inFlow && s.indent < (column : Int)

/-- The scanner with a collection on a column. -/
def rollTo (s : Scanner) (column : Nat) : Scanner :=
  { s with indent := column, outer := s.indent :: s.outer }

/-- Start a collection here. -/
def startBlock (s : Scanner) (t : Token) : Scanner :=
  if s.rolls s.cursor.column then (s.rollTo s.cursor.column).emit t else s

/-- The place of a possible key on this level. -/
def place? (s : Scanner) : Option KeyPlace := s.places.head?.join

/-- Set the place of a possible key on this level. -/
def setPlace (s : Scanner) (p : Option KeyPlace) : Scanner :=
  { s with places := p :: s.places.tail }

/-- No key starts at the place remembered; that is a fault where one must. -/
def dropPlace (s : Scanner) : Option Scanner :=
  if s.place?.any (·.required) then none else some (s.setPlace none)

/-- Remember this place if a key may start here. -/
def savePlace (s : Scanner) : Option Scanner :=
  if s.keyAllowed then do
    let s ← s.dropPlace
    let c := s.cursor
    return s.setPlace (some ⟨s.tokens.length, !s.inFlow && s.indent = (c.column : Int), c.index,
      c.line, c.column⟩)
  else some s

/-- Allow or forbid a key to start behind what comes now. -/
def allowing (s : Scanner) (allowed : Bool) : Scanner := { s with keyAllowed := allowed }

/-- A key is on one line and not longer than 1024 characters. -/
def inReach (s : Scanner) (p : KeyPlace) : Bool :=
  p.line = s.cursor.line && s.cursor.index ≤ p.index + 1024

/-- Pass blanks, comments and line ends.  A tab is a blank only where it cannot be taken for
indentation. -/
def skipGap : (fuel : Nat) → Scanner → Scanner
  | 0, s => s
  | fuel + 1, s =>
    let tabs := s.inFlow || !s.keyAllowed
    let c := s.cursor.skipWhile fun d => d = ' ' || (tabs && d = '\t')
    let c := if c.rest.head? = some '#' then c.skipLine else c
    match c.rest with
    | [] => { s with cursor := c }
    | d :: _ =>
      if isBreak d then
        skipGap fuel { s with cursor := c.skipBreak, keyAllowed := s.keyAllowed || !s.inFlow }
      else { s with cursor := c }

/-- An opening brace or bracket. -/
def openFlow (s : Scanner) (t : Token) : Option Scanner := do
  let s ← s.savePlace
  return ({ s with places := none :: s.places }.allowing true).emitAt t (s.cursor.skip 1)

/-- A closing brace or bracket. -/
def closeFlow (s : Scanner) (t : Token) : Option Scanner := do
  let s ← s.dropPlace
  let places := if s.inFlow then s.places.tail else s.places
  return ({ s with places := places }.allowing false).emitAt t (s.cursor.skip 1)

/-- A mark between documents, or a directive. -/
def documentLevel (s : Scanner) (t : Token) (c : Cursor) : Option Scanner := do
  let s ← (s.unrollTo (-1)).dropPlace
  return (s.allowing false).emitAt t c

/-- The colon behind a key. -/
def valueMark (s : Scanner) : Option Scanner := do
  let behind := s.cursor.skip 1
  match s.place? with
  | some p =>
    if s.inReach p then
      let starts := s.rolls p.column
      let s := if starts then s.rollTo p.column else s
      let s := s.putAt p.tokens (if starts then [.blockMappingStart, .key] else [.key])
      return ((s.setPlace none).allowing false).emitAt .value behind
    else if p.required then none
    else bare (s.setPlace none) behind
  | none => bare s behind
where
  /-- A colon without a key before it. -/
  bare (s : Scanner) (behind : Cursor) : Option Scanner :=
    if s.inFlow then some ((s.allowing false).emitAt .value behind)
    else if s.keyAllowed then
      some (((s.startBlock .blockMappingStart).allowing true).emitAt .value behind)
    else none

/-- A scalar. -/
def scalar (s : Scanner) (plain : Bool) (text : List Char) (c : Cursor) : Scanner :=
  s.emitAt (.scalar plain (String.ofList text)) c

/-- Scan a plain scalar here. -/
def plainScalar (s : Scanner) : Option Scanner := do
  let s ← s.savePlace
  let c := s.cursor
  let (text, behindBreak, c) ← scanPlain s.inFlow (s.indent + 1) (c.rest.length + 1) [] .none c
  return ((s.allowing behindBreak).scalar true text c)

/-- Scan a quoted scalar here. -/
def quotedScalar (s : Scanner) (quote : Char) : Option Scanner := do
  let s ← s.savePlace
  let c := s.cursor.skip 1
  let (text, c) ← scanQuoted quote (c.rest.length + 1) [] c
  return ((s.allowing false).scalar false text c)

/-- Scan a block scalar here. -/
def blockScalar (s : Scanner) (literal : Bool) : Option Scanner := do
  let s ← s.dropPlace
  let (text, c) ← scanBlock literal s.indent (s.cursor.skip 1)
  return ((s.allowing true).scalar false text c)

/-- A plain scalar may start here. -/
def startsPlain (inFlow : Bool) (c : Char) (rest : List Char) : Bool :=
  !(isSpace c || isBreak c || "-?:,[]\x7b\x7d#&*!|>'\"%@`".toList.contains c) ||
    (c = '-' && !rest.head?.any isSpace) ||
    (!inFlow && (c = '?' || c = ':') && !atBlank rest)

/-- Scan the token that starts with a character. -/
def next (s : Scanner) (d : Char) (rest : List Char) : Option Scanner :=
  let c := s.cursor
  let flow := s.inFlow
  if c.column = 0 ∧ d = '%' then do
    let (t, behind) ← scanDirective (c.skip 1)
    documentLevel s t behind
  else if c.atDocumentMark then
    documentLevel s (if d = '-' then .documentStart else .documentEnd) (c.skip 3)
  else if d = '[' then s.openFlow .flowSequenceStart
  else if d = '\x7b' then s.openFlow .flowMappingStart
  else if d = ']' then s.closeFlow .flowSequenceEnd
  else if d = '\x7d' then s.closeFlow .flowMappingEnd
  else if d = ',' then do
    let s ← s.dropPlace
    return (s.allowing true).emitAt .flowEntry (c.skip 1)
  else if d = '-' ∧ atBlank rest then
    if !flow && !s.keyAllowed then none
    else do
      let s ← (if flow then s else s.startBlock .blockSequenceStart).dropPlace
      return (s.allowing true).emitAt .blockEntry (c.skip 1)
  else if d = '?' ∧ (flow ∨ atBlank rest) then
    if !flow && !s.keyAllowed then none
    else do
      let s ← (if flow then s else s.startBlock .blockMappingStart).dropPlace
      return (s.allowing (!flow)).emitAt .key (c.skip 1)
  else if d = ':' ∧ (flow ∨ atBlank rest) then s.valueMark
  else if d = '*' then do
    let s ← s.savePlace
    let (name, behind) ← scanName (c.skip 1)
    return (s.allowing false).emitAt (.alias name) behind
  else if d = '&' then do
    let s ← s.savePlace
    let (name, behind) ← scanName (c.skip 1)
    return (s.allowing false).emitAt (.anchor name) behind
  else if d = '!' then do
    let s ← s.savePlace
    let (t, behind) ← scanTag flow (c.skip 1)
    return (s.allowing false).emitAt t behind
  else if d = '|' ∧ !flow then s.blockScalar true
  else if d = '>' ∧ !flow then s.blockScalar false
  else if d = '\'' ∨ d = '"' then s.quotedScalar d
  else if startsPlain flow d rest then s.plainScalar
  else none

/-- Scan tokens to the end of the text. -/
def run : (fuel : Nat) → Scanner → Option (List Token)
  | 0, _ => none
  | fuel + 1, s =>
    let s := skipGap (s.cursor.rest.length + 1) s
    let s := s.unrollTo s.cursor.column
    match s.cursor.rest with
    | [] => do
      let s ← (s.unrollTo (-1)).dropPlace
      return (s.emit .streamEnd).tokens.reverse
    | d :: rest => do run fuel (← s.next d rest)

end Scanner

/-- The tokens of a text; a mark of the byte order at its start is passed over. -/
def scanAll (text : String) : Option (List Token) :=
  let cs := match text.toList with
    | c :: rest => if c.toNat = 0xFEFF then rest else c :: rest
    | [] => []
  if cs.all isPrintable then
    Scanner.run (cs.length + 2) ⟨⟨cs, 0, 0, 0⟩, [], -1, [], true, [none]⟩
  else none

end Listing.Yaml
