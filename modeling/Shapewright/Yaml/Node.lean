import Shapewright.Yaml.Stream

/-!
# YAML documents as trees

A document is a tree of scalars, sequences and mappings.  A node may carry a name, by which later places
refer to it; a reference has the whole node below it.

* `Node` — a node of a document.
* `Draft` — the tokens that are left, the names given so far, and what handles of tags stand for.
* `Draft.node?` — reading a node.
* `Node.ofText?` — the first document of a text; what comes after it is not looked at.
-/

set_option autoImplicit false

namespace Shapewright
namespace Yaml

/-- A node of a document. -/
inductive Node where
  /-- A text. With a plain one the text itself tells what it stands for, unless the tag does. -/
  | scalar (tag : String) (isPlain : Bool) (text : String)
  | sequence (items : List Node)
  | mapping (pairs : List (Node × Node))
  /-- A place that refers to a node by its name. -/
  | reference (target : Node)
  deriving Repr

/-- What stands where nothing is written. -/
def Node.empty : Node := .scalar "" true ""

/-- A document under way. -/
structure Draft where
  tokens : Stream
  /-- The names given so far, each with its node once that is complete. -/
  anchors : Array (List Char × Option Node) := #[]
  /-- What handles of tags stand for. -/
  handles : List (List Char × List Char) := []

/-- What stands in front of the content of a node. -/
structure Properties where
  anchor : Option (List Char) := none
  tag : String := ""

namespace Draft

/-- The next token. -/
def peek? (d : Draft) : Option (Token × Draft) :=
  d.tokens.peek?.map fun (t, tokens) => (t, { d with tokens })

/-- Leaves the next token behind. -/
def take (d : Draft) : Draft := { d with tokens := d.tokens.take }

/-! ## Names and tags -/

/-- The node that a name refers to: the last one that got it. A node cannot be part of itself. -/
def target? (d : Draft) (name : List Char) : Option Node := do
  let (_, node) ← d.anchors.toList.reverse.find? fun (own, _) => own == name
  node

/-- Notes the name of a node that is about to be read. -/
def announce (d : Draft) : Option (List Char) → Draft
  | some name => { d with anchors := d.anchors.push (name, none) }
  | none => d

/-- Completes the node that was announced when there were `count` names. -/
def complete (d : Draft) (p : Properties) (count : Nat) (n : Node) : Draft :=
  match p.anchor with
  | some name => { d with anchors := d.anchors.setIfInBounds count (name, some n) }
  | none => d

/-- The tag that a handle and the rest make up. -/
def tagText? (d : Draft) (handle rest : List Char) : Option String :=
  if handle.isEmpty then some (String.ofList rest)
  else (d.handles.lookup handle).map fun meaning => String.ofList (meaning ++ rest)

/-- A name, if one comes next. -/
def anchor? (d : Draft) : Option (Option (List Char) × Draft) := do
  let (t, d) ← d.peek?
  match t with
  | .anchor name => return (some name, d.take)
  | _ => return (none, d)

/-- A tag, if one comes next. -/
def tag? (d : Draft) : Option (String × Draft) := do
  let (t, d) ← d.peek?
  match t with
  | .tag handle rest => return (← d.tagText? handle rest, d.take)
  | _ => return ("", d)

/-- A name and a tag in either order, as far as they come next. -/
def properties? (d : Draft) : Option (Properties × Draft) := do
  match ← d.anchor? with
  | (some name, d) => do
    let (tag, d) ← d.tag?
    return ({ anchor := some name, tag }, d)
  | (none, d) => do
    let (tag, d) ← d.tag?
    if tag == "" then return ({}, d)
    else
      let (anchor, d) ← d.anchor?
      return ({ anchor, tag }, d)

/-! ## Nodes -/

/-- Tokens after which a list of lines has an empty item. -/
def itemStops : List Token := [.item, .blockEnd]

/-- Tokens in front of which a key or a value of lines is empty. -/
def lineStops : List Token := [.key, .value, .blockEnd]

mutual

/-- A node. Lists and mappings of lines are nodes in a block only, and a list whose dashes stand at the
column of the keys around it is one if `isIndentless` says so. The first argument bounds the number of
steps. -/
def node? : Nat → (inBlock isIndentless : Bool) → Draft → Option (Node × Draft)
  | 0, _, _, _ => none
  | fuel + 1, inBlock, isIndentless, d => do
    let (t, d) ← d.peek?
    match t with
    | .reference name => return (.reference (← d.target? name), d.take)
    | _ =>
      let count := d.anchors.size
      let (p, d) ← d.properties?
      let (n, d) ← content? fuel inBlock isIndentless p (d.announce p.anchor)
      return (n, d.complete p count n)

/-- The content of a node; behind a name or a tag it may be missing. -/
def content? : Nat → (inBlock isIndentless : Bool) → Properties → Draft → Option (Node × Draft)
  | 0, _, _, _, _ => none
  | fuel + 1, inBlock, isIndentless, p, d => do
    let (t, d) ← d.peek?
    match t, inBlock, isIndentless with
    | .item, _, true => indentlessItems? fuel [] d
    | .scalar isPlain text, _, _ =>
      let decides := p.tag == "!" || (p.tag == "" && isPlain)
      return (.scalar p.tag decides (String.ofList text), d.take)
    | .openBracket, _, _ => bracketItems? fuel true [] d.take
    | .openBrace, _, _ => bracePairs? fuel true [] d.take
    | .listStart, true, _ => items? fuel [] d.take
    | .mapStart, true, _ => pairs? fuel [] d.take
    | _, _, _ =>
      if p.anchor.isNone && p.tag == "" then none
      else return (.scalar p.tag (p.tag == "") "", d)

/-- A node, or an empty one in front of certain tokens. -/
def nodeUnless? : Nat → (inBlock isIndentless : Bool) → List Token → Draft → Option (Node × Draft)
  | 0, _, _, _, _ => none
  | fuel + 1, inBlock, isIndentless, stops, d => do
    let (t, d) ← d.peek?
    if stops.contains t then return (.empty, d) else node? fuel inBlock isIndentless d

/-- What follows a key: a colon and a node, either of which may be missing. -/
def valueUnless? : Nat → (inBlock : Bool) → List Token → Draft → Option (Node × Draft)
  | 0, _, _, _ => none
  | fuel + 1, inBlock, stops, d => do
    let (t, d) ← d.peek?
    if t == .value then nodeUnless? fuel inBlock inBlock stops d.take else return (.empty, d)

/-- The items of a list of lines. -/
def items? : Nat → List Node → Draft → Option (Node × Draft)
  | 0, _, _ => none
  | fuel + 1, before, d => do
    let (t, d) ← d.peek?
    match t with
    | .item =>
      let (n, d) ← nodeUnless? fuel true false itemStops d.take
      items? fuel (n :: before) d
    | .blockEnd => return (.sequence before.reverse, d.take)
    | _ => none

/-- The items of a list of lines that is not indented deeper than the key in front of it. -/
def indentlessItems? : Nat → List Node → Draft → Option (Node × Draft)
  | 0, _, _ => none
  | fuel + 1, before, d => do
    let (t, d) ← d.peek?
    match t with
    | .item =>
      let (n, d) ← nodeUnless? fuel true false (.item :: lineStops) d.take
      indentlessItems? fuel (n :: before) d
    | _ => return (.sequence before.reverse, d)

/-- The pairs of a mapping of lines. -/
def pairs? : Nat → List (Node × Node) → Draft → Option (Node × Draft)
  | 0, _, _ => none
  | fuel + 1, before, d => do
    let (t, d) ← d.peek?
    match t with
    | .key =>
      let (k, d) ← nodeUnless? fuel true true lineStops d.take
      let (v, d) ← valueUnless? fuel true lineStops d
      pairs? fuel ((k, v) :: before) d
    | .blockEnd => return (.mapping before.reverse, d.take)
    | _ => none

/-- The items between brackets, parted by commas, of which one may stand behind the last. -/
def bracketItems? : Nat → (isFirst : Bool) → List Node → Draft → Option (Node × Draft)
  | 0, _, _, _ => none
  | fuel + 1, isFirst, before, d => do
    let (t, d) ← d.peek?
    let d ← if isFirst || t == .closeBracket then some d
      else if t == .comma then some d.take else none
    let (t, d) ← d.peek?
    match t with
    | .closeBracket => return (.sequence before.reverse, d.take)
    | .key =>
      let (n, d) ← bracketPair? fuel d.take
      bracketItems? fuel false (n :: before) d
    | _ =>
      let (n, d) ← node? fuel false false d
      bracketItems? fuel false (n :: before) d

/-- A single pair between brackets. Where the key is missing, what ends it is passed over. -/
def bracketPair? : Nat → Draft → Option (Node × Draft)
  | 0, _ => none
  | fuel + 1, d => do
    let (t, d) ← d.peek?
    let (k, d) ←
      if [.value, .comma, .closeBracket].contains t then some (Node.empty, d.take)
      else node? fuel false false d
    let (v, d) ← valueUnless? fuel false [.comma, .closeBracket] d
    return (.mapping [(k, v)], d)

/-- The pairs between braces, parted by commas, of which one may stand behind the last. -/
def bracePairs? : Nat → (isFirst : Bool) → List (Node × Node) → Draft → Option (Node × Draft)
  | 0, _, _, _ => none
  | fuel + 1, isFirst, before, d => do
    let (t, d) ← d.peek?
    let d ← if isFirst || t == .closeBrace then some d
      else if t == .comma then some d.take else none
    let (t, d) ← d.peek?
    match t with
    | .closeBrace => return (.mapping before.reverse, d.take)
    | .key =>
      let (k, d) ← nodeUnless? fuel false false [.value, .comma, .closeBrace] d.take
      let (v, d) ← valueUnless? fuel false [.comma, .closeBrace] d
      bracePairs? fuel false ((k, v) :: before) d
    | _ =>
      let (k, d) ← node? fuel false false d
      bracePairs? fuel false ((k, .empty) :: before) d

end

/-! ## Documents -/

/-- The handles that need not be declared. -/
def standardHandles : List (List Char × List Char) :=
  [("!".toList, "!".toList), ("!!".toList, "tag:yaml.org,2002:".toList)]

/-- Reads directives: at most one version, which has to be 1.1, and each handle once. The first argument
bounds their number. -/
def directives? : Nat → (sawVersion : Bool) → Draft → Option Draft
  | 0, _, _ => none
  | fuel + 1, sawVersion, d => do
    let (t, d) ← d.peek?
    match t with
    | .version major minor =>
      if sawVersion || major != 1 || minor != 1 then none else directives? fuel true d.take
    | .handle name meaning =>
      if (d.handles.lookup name).isSome then none
      else directives? fuel sawVersion { d.take with handles := d.handles ++ [(name, meaning)] }
    | _ => return { d with handles := d.handles ++ standardHandles }

/-- Whether a token can only come after the content of a document that starts with a mark. -/
def isOutside : Token → Bool
  | .version _ _ | .handle _ _ | .documentStart | .documentEnd | .streamEnd => true
  | _ => false

/-- The first document, if there is one. The token after it has to be there, whatever it is. -/
def document? (fuel : Nat) (d : Draft) : Option (Option Node) := do
  let (t, d) ← d.peek?
  match t with
  | .streamEnd => return none
  | .version _ _ | .handle _ _ | .documentStart =>
    let d ← d.directives? fuel false
    let (t, d) ← d.peek?
    if t != .documentStart then none
    else
      let (t, d) ← d.take.peek?
      let (n, d) ← if isOutside t then some (Node.empty, d) else node? fuel true false d
      let _ ← d.peek?
      return some n
  | _ =>
    let (n, d) ← node? fuel true false { d with handles := standardHandles }
    let _ ← d.peek?
    return some n

end Draft

/-- The first document of a text, if it has one; the outer result is missing if something is wrong
with it, or if some character of the text may not stand there. -/
def Node.ofText? (text : String) : Option (Option Node) :=
  let cs := text.toList
  if cs.all isAllowed then
    Draft.document? (16 * (cs.length + 4)) { tokens := .ofText cs }
  else none

end Yaml
end Shapewright
