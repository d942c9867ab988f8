import Listing.Yaml.Token

/-!
# Nodes of YAML

The tokens of a text are put together into the node of its document: a scalar, a
sequence or a mapping.  An alias stands for the node that carries its anchor before
it.  A text with more than one document, or none, has no node.
-/

namespace Listing.Yaml

/-- A node. -/
inductive Node where
  /-- A scalar with its tag, if it has one; a plain one stands without quotes. -/
  | scalar (tag : Option String) (plain : Bool) (text : String)
  | sequence (items : List Node)
  | mapping (entries : List (Node × Node))
  deriving Inhabited

/-- A scalar that is not written. -/
def Node.blank : Node := .scalar none true ""

/-- What has been read so far of a document: the anchors and what they stand for, the last
first. -/
structure Reading where
  tokens : List Token
  anchors : List (String × Node)
  handles : List (String × String)

namespace Reading

/-- The next token. -/
def peek (r : Reading) : Token := r.tokens.headD .streamEnd

/-- Pass a token. -/
def advance (r : Reading) : Reading := { r with tokens := r.tokens.tail }

/-- Pass a token if it is the one expected. -/
def expect (r : Reading) (t : Token) : Option Reading :=
  if r.peek = t then some r.advance else none

/-- The tag that a handle and a suffix mean; a handle must be known. -/
def tagOf (r : Reading) (handle suffix : String) : Option String :=
  if handle = "" then some suffix
  else match r.handles.lookup handle with
  | some expansion => some (expansion ++ suffix)
  | none =>
    if handle = "!" then some ("!" ++ suffix)
    else if handle = "!!" then some ("tag:yaml.org,2002:" ++ suffix)
    else none

/-- The anchor and the tag in front of a node, in either order. -/
def properties (r : Reading) : Option (Option String × Option String × Reading) :=
  match r.peek with
  | .anchor name =>
    let r := r.advance
    match r.peek with
    | .tag handle suffix => (r.tagOf handle suffix).map fun t => (some name, some t, r.advance)
    | _ => some (some name, none, r)
  | .tag handle suffix => do
    let t ← r.tagOf handle suffix
    let r := r.advance
    match r.peek with
    | .anchor name => return (some name, some t, r.advance)
    | _ => return (none, some t, r)
  | _ => some (none, none, r)

/-- Remember a node under its anchor. -/
def remember (r : Reading) (anchor : Option String) (n : Node) : Reading :=
  match anchor with
  | some name => { r with anchors := (name, n) :: r.anchors }
  | none => r

end Reading

mutual

/-- Read a node.  Only in `block` context may it be a collection by indentation, and only
where `loose` a sequence on the column of the mapping around it. -/
def readNode : (fuel : Nat) → (block loose : Bool) → Reading → Option (Node × Reading)
  | 0, _, _, _ => none
  | fuel + 1, block, loose, r =>
    match r.peek with
    | .alias name => (r.anchors.lookup name).map fun n => (n, r.advance)
    | _ => do
      let (anchor, tag, r) ← r.properties
      let (n, r) ← match r.peek with
        | .scalar plain text => some (Node.scalar tag plain text, r.advance)
        | .flowSequenceStart =>
          (flowItems fuel true r.advance).map fun (items, r) => (Node.sequence items, r)
        | .flowMappingStart =>
          (flowEntries fuel true r.advance).map fun (entries, r) => (Node.mapping entries, r)
        | .blockSequenceStart =>
          if block then
            (blockItems fuel r.advance).map fun (items, r) => (Node.sequence items, r)
          else none
        | .blockMappingStart =>
          if block then
            (blockEntries fuel r.advance).map fun (entries, r) => (Node.mapping entries, r)
          else none
        | .blockEntry =>
          if loose then (looseItems fuel r).map fun (items, r) => (Node.sequence items, r)
          else if anchor.isSome || tag.isSome then some (Node.scalar tag true "", r)
          else none
        | _ =>
          if anchor.isSome || tag.isSome then some (Node.scalar tag true "", r) else none
      return (n, r.remember anchor n)

/-- Read a node unless a token comes that cannot start one; then it is not written. -/
def readOptional : (fuel : Nat) → (block loose : Bool) → (ends : List Token) → Reading →
    Option (Node × Reading)
  | 0, _, _, _, _ => none
  | fuel + 1, block, loose, ends, r =>
    if ends.contains r.peek then some (Node.blank, r) else readNode fuel block loose r

/-- Read the items of a sequence by indentation. -/
def blockItems : (fuel : Nat) → Reading → Option (List Node × Reading)
  | 0, _ => none
  | fuel + 1, r =>
    match r.peek with
    | .blockEnd => some ([], r.advance)
    | .blockEntry => do
      let (n, r) ← readOptional fuel true false [.blockEntry, .blockEnd] r.advance
      let (rest, r) ← blockItems fuel r
      return (n :: rest, r)
    | _ => none

/-- Read the items of a sequence on the column of the mapping around it. -/
def looseItems : (fuel : Nat) → Reading → Option (List Node × Reading)
  | 0, _ => none
  | fuel + 1, r =>
    match r.peek with
    | .blockEntry => do
      let (n, r) ← readOptional fuel true false [.blockEntry, .key, .value, .blockEnd] r.advance
      let (rest, r) ← looseItems fuel r
      return (n :: rest, r)
    | _ => some ([], r)

/-- Read the entries of a mapping by indentation. -/
def blockEntries : (fuel : Nat) → Reading → Option (List (Node × Node) × Reading)
  | 0, _ => none
  | fuel + 1, r =>
    match r.peek with
    | .blockEnd => some ([], r.advance)
    | .key => do
      let (k, r) ← readOptional fuel true true [.key, .value, .blockEnd] r.advance
      let (v, r) ←
        if r.peek = .value then readOptional fuel true true [.key, .value, .blockEnd] r.advance
        else some (Node.blank, r)
      let (rest, r) ← blockEntries fuel r
      return ((k, v) :: rest, r)
    | _ => none

/-- Read the items of a sequence in brackets; a key makes an item a mapping of one entry. -/
def flowItems : (fuel : Nat) → (first : Bool) → Reading → Option (List Node × Reading)
  | 0, _, _ => none
  | fuel + 1, first, r =>
    if r.peek = .flowSequenceEnd then some ([], r.advance)
    else do
      let r ← if first then some r else r.expect .flowEntry
      match r.peek with
      | .flowSequenceEnd => return ([], r.advance)
      | .key => do
        let ends := [Token.flowEntry, .flowSequenceEnd]
        let (k, r) ← readOptional fuel false false (.value :: ends) r.advance
        let (v, r) ←
          if r.peek = .value then readOptional fuel false false ends r.advance
          else some (Node.blank, r)
        let (rest, r) ← flowItems fuel false r
        return (Node.mapping [(k, v)] :: rest, r)
      | _ =>
        let (n, r) ← readNode fuel false false r
        let (rest, r) ← flowItems fuel false r
        return (n :: rest, r)

/-- Read the entries of a mapping in braces. -/
def flowEntries : (fuel : Nat) → (first : Bool) → Reading → Option (List (Node × Node) × Reading)
  | 0, _, _ => none
  | fuel + 1, first, r =>
    if r.peek = .flowMappingEnd then some ([], r.advance)
    else do
      let r ← if first then some r else r.expect .flowEntry
      let ends := [Token.flowEntry, .flowMappingEnd]
      match r.peek with
      | .flowMappingEnd => return ([], r.advance)
      | .key => do
        let (k, r) ← readOptional fuel false false (.value :: ends) r.advance
        let (v, r) ←
          if r.peek = .value then readOptional fuel false false ends r.advance
          else some (Node.blank, r)
        let (rest, r) ← flowEntries fuel false r
        return ((k, v) :: rest, r)
      | _ =>
        let (k, r) ← readNode fuel false false r
        let (rest, r) ← flowEntries fuel false r
        return ((k, Node.blank) :: rest, r)

end

/-- Read the directives in front of a document: one version that is known, and the handles of
tags, each once. -/
def readDirectives (versioned : Bool) (handles : List (String × String)) :
    List Token → Option (List (String × String) × List Token)
  | .versionDirective major minor :: rest =>
    if versioned || major ≠ 1 || (minor ≠ 1 && minor ≠ 2) then none
    else readDirectives true handles rest
  | .tagDirective handle expansion :: rest =>
    if (handles.lookup handle).isSome then none
    else readDirectives versioned ((handle, expansion) :: handles) rest
  | rest => some (handles, rest)

/-- A token that ends a document. -/
def endsDocument : Token → Bool
  | .versionDirective _ _ | .tagDirective _ _ | .documentStart | .documentEnd | .streamEnd => true
  | _ => false

/-- Nothing but the end of the document comes. -/
def atDocumentEnd (tokens : List Token) : Bool :=
  tokens.dropWhile (· = .documentEnd) = [.streamEnd]

/-- The node of a document, given its tokens behind the mark that starts it. -/
def readDocument (handles : List (String × String)) (tokens : List Token) : Option Node :=
  if tokens.head?.any endsDocument then
    if atDocumentEnd tokens then some Node.blank else none
  else do
    let (n, r) ← readNode (4 * tokens.length + 4) true false ⟨tokens, [], handles⟩
    if atDocumentEnd r.tokens then some n else none

/-- What a text holds. -/
inductive Stream where
  /-- No document at all. -/
  | empty
  /-- One document. -/
  | document (n : Node)

/-- Read a text of at most one document. -/
def read? (text : String) : Option Stream := do
  let tokens ← scanAll text
  match tokens with
  | [.streamEnd] => return .empty
  | t :: _ =>
    if endsDocument t then
      let (handles, rest) ← readDirectives false [] tokens
      match rest with
      | .documentStart :: rest => return .document (← readDocument handles rest)
      | _ => none
    else return .document (← readDocument [] tokens)
  | [] => none

end Listing.Yaml
