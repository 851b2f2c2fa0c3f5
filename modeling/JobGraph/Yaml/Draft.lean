import JobGraph.Yaml.Token

/-!
# Texts read as YAML as far as they go

A draft is what can be read of a document before its text stops being YAML. It is made from
the tokens of the text. The place where the text stops is part of the draft, as in
`Json.Draft`. An alias stands for the node with the anchor of its name; the nodes with anchors
are kept beside the draft.
-/

namespace JobGraph.Yaml

/-- What can be read of a document. -/
inductive Draft where
  | scalar (tag : Option String) (style : Style) (text : String)
  /-- The items up to the end of the sequence, or up to where the text stops being YAML. -/
  | sequence (tag : Option String) (items : List Draft) (closed : Bool)
  /-- The keys with their values up to the end of the mapping, or up to where the text stops
  being YAML. -/
  | mapping (tag : Option String) (pairs : List (Draft × Draft)) (closed : Bool)
  /-- The node with the anchor of this number. -/
  | alias (anchor : Nat)
  /-- The place where the text stops being YAML. -/
  | cut
deriving Repr

namespace Draft

/-- What stands where a node is left out. -/
def empty : Draft :=
  .scalar none .plain ""

instance : Inhabited Draft := ⟨empty⟩

mutual

/-- The size of a draft: one for each scalar and alias, and for each start and each end of a
collection. -/
def size : Draft → Nat
  | .scalar _ _ _ => 1
  | .sequence _ items closed => 1 + sizeItems items + closed.toNat
  | .mapping _ pairs closed => 1 + sizePairs pairs + closed.toNat
  | .alias _ => 1
  | .cut => 0

/-- The size of items together. -/
def sizeItems : List Draft → Nat
  | [] => 0
  | d :: ds => size d + sizeItems ds

/-- The size of pairs together. -/
def sizePairs : List (Draft × Draft) → Nat
  | [] => 0
  | (k, v) :: pairs => size k + size v + sizePairs pairs

end

mutual

/-- Whether the text is YAML as far as the draft goes. -/
def isWhole : Draft → Bool
  | .sequence _ items closed => allWhole items && closed
  | .mapping _ pairs closed => allPairsWhole pairs && closed
  | .cut => false
  | _ => true

/-- Every item is whole. -/
def allWhole : List Draft → Bool
  | [] => true
  | d :: ds => isWhole d && allWhole ds

/-- Every key and every value is whole. -/
def allPairsWhole : List (Draft × Draft) → Bool
  | [] => true
  | (k, v) :: pairs => isWhole k && isWhole v && allPairsWhole pairs

end

end Draft

/-! ### Anchors -/

/-- The anchors met so far. -/
structure Anchors where
  /-- The number of the anchor that a name stands for now. -/
  numbers : List (String × Nat)
  /-- The nodes with anchors and the numbers of these, in the order in which they begin. -/
  nodes : Array (Nat × Draft)

namespace Anchors

/-- No anchors. -/
def empty : Anchors := ⟨[], #[]⟩

/-- The number that a name stands for. -/
def number? (a : Anchors) (name : String) : Option Nat :=
  a.numbers.lookup name

/-- The anchors when a node begins that may have one. Its number is the count of the names
before it, so that a name given twice frees the number of the next. -/
def begin (a : Anchors) : Option String → Anchors
  | none => a
  | some name =>
    let number := a.numbers.length
    ⟨(name, number) :: a.numbers.filter (·.1 ≠ name), a.nodes.push (number, .cut)⟩

/-- The anchors when the node ends that began at `a`. -/
def finish (a later : Anchors) (anchor : Option String) (d : Draft) : Anchors :=
  match anchor with
  | none => later
  | some _ =>
    { later with nodes := later.nodes.modify a.nodes.size fun (number, _) => (number, d) }

/-- The node that an alias stands for: the last one whose anchor has the number. -/
def node (a : Anchors) (number : Nat) : Draft :=
  ((a.nodes.toList.reverse.lookup number)).getD .cut

end Anchors

/-! ### Nodes -/

/-- The expansions of tag handles. -/
@[reducible] def TagHandles := List (String × String)

/-- The expansions that hold in every document. -/
def defaultHandles : TagHandles :=
  [("!", "!"), ("!!", "tag:yaml.org,2002:")]

/-- What may stand in front of a node. -/
structure Properties where
  anchor : Option String
  tag : Option String

/-- The tag of a handle and a suffix. -/
def expandTag? (handles : TagHandles) (handle suffix : String) : Option String :=
  if handle = "" then some suffix else (handles.lookup handle).map (· ++ suffix)

/-- The properties in front of a node, an anchor and a tag in either order, and the tokens
behind them. -/
def properties? (handles : TagHandles) : List Token → Option (Properties × List Token)
  | .anchor name :: .tag handle suffix :: rest =>
    (expandTag? handles handle suffix).map fun tag => (⟨some name, some tag⟩, rest)
  | .anchor name :: rest => some (⟨some name, none⟩, rest)
  | .tag handle suffix :: .anchor name :: rest =>
    (expandTag? handles handle suffix).map fun tag => (⟨some name, some tag⟩, rest)
  | .tag handle suffix :: rest =>
    (expandTag? handles handle suffix).map fun tag => (⟨none, some tag⟩, rest)
  | rest => some (⟨none, none⟩, rest)

/-- Where a node stands: in a flow collection, in a block, or in a block mapping, where a
sequence need not be indented. -/
inductive Place where
  | flow
  | block
  | pair
deriving DecidableEq

/-- What was read from tokens, the anchors met, and the tokens that follow, which are absent
where the text stops being YAML. -/
@[reducible] def Outcome (α : Type) := α × Anchors × Option (List Token)

mutual

/-- The node in front of tokens. -/
def nodeAt (handles : TagHandles) : Nat → Place → Anchors → List Token → Outcome Draft
  | 0, _, anchors, _ => (.cut, anchors, none)
  | fuel + 1, place, anchors, tokens =>
    match tokens, properties? handles tokens with
    | .alias name :: rest, _ =>
      match anchors.number? name with
      | some number => (.alias number, anchors, some rest)
      | none => (.cut, anchors, none)
    | _, none => (.cut, anchors, none)
    | _, some (⟨anchor, tag⟩, tokens) =>
      let inner := anchors.begin anchor
      let scalar (tag : Option String) (style : Style) (text : String) (rest : List Token) :=
        let d := Draft.scalar tag style text
        (d, anchors.finish inner anchor d, some rest)
      let sequence (result : Outcome (List Draft)) :=
        let (items, later, rest) := result
        let d := Draft.sequence tag items rest.isSome
        (d, anchors.finish later anchor d, rest)
      let mapping (result : Outcome (List (Draft × Draft))) :=
        let (pairs, later, rest) := result
        let d := Draft.mapping tag pairs rest.isSome
        (d, anchors.finish later anchor d, rest)
      match tokens, place with
      | .scalar text style :: rest, _ =>
        scalar (if tag = some "!" then none else tag) style text rest
      | .flowSequenceStart :: rest, _ => sequence (flowItems handles fuel true inner rest)
      | .flowMappingStart :: rest, _ => mapping (flowPairs handles fuel true inner rest)
      | .blockEntry :: _, .pair => sequence (blockItems handles fuel true inner tokens)
      | .blockSequenceStart :: rest, .block | .blockSequenceStart :: rest, .pair =>
        sequence (blockItems handles fuel false inner rest)
      | .blockMappingStart :: rest, .block | .blockMappingStart :: rest, .pair =>
        mapping (blockPairs handles fuel inner rest)
      | [], _ => (.cut, anchors, none)
      | _ :: _, _ =>
        if anchor.isSome || tag.isSome then scalar tag .plain "" tokens
        else (.cut, anchors, none)

/-- The node in front of tokens, which is left out when one of `stops` comes first. -/
def nodeUnless (handles : TagHandles) (stops : List Token) :
    Nat → Place → Anchors → List Token → Outcome Draft
  | 0, _, anchors, _ => (.cut, anchors, none)
  | _ + 1, _, anchors, [] => (.cut, anchors, none)
  | fuel + 1, place, anchors, token :: rest =>
    if token ∈ stops then (.empty, anchors, some (token :: rest))
    else nodeAt handles fuel place anchors (token :: rest)

/-- The value behind a key, which is left out when there is no mark of a value. -/
def valueAt (handles : TagHandles) (stops : List Token) :
    Nat → Place → Anchors → List Token → Outcome Draft
  | 0, _, anchors, _ => (.cut, anchors, none)
  | _ + 1, _, anchors, [] => (.cut, anchors, none)
  | fuel + 1, place, anchors, .value :: rest => nodeUnless handles stops fuel place anchors rest
  | _ + 1, _, anchors, rest => (.empty, anchors, some rest)

/-- The items of a block sequence. One that is not indented ends where no entry follows. -/
def blockItems (handles : TagHandles) :
    Nat → Bool → Anchors → List Token → Outcome (List Draft)
  | 0, _, anchors, _ => ([], anchors, none)
  | fuel + 1, indentless, anchors, tokens =>
    match tokens with
    | .blockEntry :: rest =>
      let stops : List Token :=
        if indentless then [.blockEntry, .key, .value, .blockEnd] else [.blockEntry, .blockEnd]
      match nodeUnless handles stops fuel .block anchors rest with
      | (d, anchors, none) => ([d], anchors, none)
      | (d, anchors, some rest) =>
        let (ds, anchors, after) := blockItems handles fuel indentless anchors rest
        (d :: ds, anchors, after)
    | .blockEnd :: rest => ([], anchors, some (if indentless then tokens else rest))
    | [] => ([], anchors, none)
    | _ :: _ => ([], anchors, if indentless then some tokens else none)

/-- The pairs of a block mapping. -/
def blockPairs (handles : TagHandles) :
    Nat → Anchors → List Token → Outcome (List (Draft × Draft))
  | 0, anchors, _ => ([], anchors, none)
  | fuel + 1, anchors, .key :: rest =>
    let stops : List Token := [.key, .value, .blockEnd]
    match nodeUnless handles stops fuel .pair anchors rest with
    | (k, anchors, none) => ([(k, .cut)], anchors, none)
    | (k, anchors, some rest) =>
      match valueAt handles stops fuel .pair anchors rest with
      | (v, anchors, none) => ([(k, v)], anchors, none)
      | (v, anchors, some rest) =>
        let (pairs, anchors, after) := blockPairs handles fuel anchors rest
        ((k, v) :: pairs, anchors, after)
  | _ + 1, anchors, .blockEnd :: rest => ([], anchors, some rest)
  | _ + 1, anchors, _ => ([], anchors, none)

/-- The items of a flow sequence, among which may be single pairs. -/
def flowItems (handles : TagHandles) :
    Nat → Bool → Anchors → List Token → Outcome (List Draft)
  | 0, _, anchors, _ => ([], anchors, none)
  | _ + 1, _, anchors, .flowSequenceEnd :: rest => ([], anchors, some rest)
  | fuel + 1, first, anchors, tokens =>
    let next : List Token := match first, tokens with
      | true, tokens => tokens
      | false, .flowEntry :: rest => rest
      | false, _ => []
    match next with
    | .flowSequenceEnd :: rest => ([], anchors, some rest)
    | [] => ([], anchors, none)
    | token :: rest =>
      let item := if token = .key then flowPair handles fuel anchors rest
        else nodeAt handles fuel .flow anchors next
      match item with
      | (d, anchors, none) => ([d], anchors, none)
      | (d, anchors, some rest) =>
        let (ds, anchors, after) := flowItems handles fuel false anchors rest
        (d :: ds, anchors, after)

/-- A pair on its own in a flow sequence. Where its key is left out, the token that shows this
is passed over, even if it marks the value. -/
def flowPair (handles : TagHandles) : Nat → Anchors → List Token → Outcome Draft
  | 0, anchors, _ => (.cut, anchors, none)
  | fuel + 1, anchors, tokens =>
    let stops : List Token := [.flowEntry, .flowSequenceEnd]
    match nodeUnless handles (.value :: stops) fuel .flow anchors tokens with
    | (k, anchors, none) => (.mapping none [(k, .cut)] false, anchors, none)
    | (k, anchors, some rest) =>
      let skipped : Bool := match tokens with
        | token :: _ => token ∈ Token.value :: stops
        | [] => false
      match valueAt handles stops fuel .flow anchors (if skipped then rest.tail else rest) with
      | (v, anchors, none) => (.mapping none [(k, v)] false, anchors, none)
      | (v, anchors, some []) => (.mapping none [(k, v)] false, anchors, none)
      | (v, anchors, some rest) => (.mapping none [(k, v)] true, anchors, some rest)

/-- The pairs of a flow mapping. -/
def flowPairs (handles : TagHandles) :
    Nat → Bool → Anchors → List Token → Outcome (List (Draft × Draft))
  | 0, _, anchors, _ => ([], anchors, none)
  | _ + 1, _, anchors, .flowMappingEnd :: rest => ([], anchors, some rest)
  | fuel + 1, first, anchors, tokens =>
    let stops : List Token := [.flowEntry, .flowMappingEnd]
    let next : List Token := match first, tokens with
      | true, tokens => tokens
      | false, .flowEntry :: rest => rest
      | false, _ => []
    match next with
    | .flowMappingEnd :: rest => ([], anchors, some rest)
    | [] => ([], anchors, none)
    | token :: rest =>
      let marked : Bool := token = .key
      let key := if marked then nodeUnless handles (.value :: stops) fuel .flow anchors rest
        else nodeAt handles fuel .flow anchors next
      match key with
      | (k, anchors, none) => ([(k, .cut)], anchors, none)
      | (k, anchors, some rest) =>
        let value : Outcome Draft :=
          if marked then valueAt handles stops fuel .flow anchors rest
          else if rest.isEmpty then (.cut, anchors, none)
          else (.empty, anchors, some rest)
        match value with
        | (v, anchors, none) => ([(k, v)], anchors, none)
        | (v, anchors, some rest) =>
          let (pairs, anchors, after) := flowPairs handles fuel false anchors rest
          ((k, v) :: pairs, anchors, after)

end

/-! ### Documents -/

/-- A document. -/
structure Document where
  root : Draft
  anchors : Anchors
  /-- Whether the text ends behind the document. -/
  ended : Bool

namespace Document

/-- The document of a text that is not YAML at its start. -/
def none : Document :=
  ⟨.cut, .empty, false⟩

/-- The directives in front of a document: the expansions of handles that they add, whether
one gives a version, and the tokens behind them. The result is absent when a directive is
repeated or asks for another version than 1.1 or 1.2. -/
def directives? : List Token → Option (TagHandles × Bool × List Token)
  | .version major minor :: rest => do
    let (handles, versioned, rest) ← directives? rest
    if versioned || major ≠ 1 || !(minor = 1 || minor = 2) then .none
    else some (handles, true, rest)
  | .tagHandle handle expansion :: rest => do
    let (handles, versioned, rest) ← directives? rest
    if (handles.lookup handle).isSome then .none
    else some ((handle, expansion) :: handles, versioned, rest)
  | rest => some ([], false, rest)

/-- The document whose root comes first among tokens. -/
def ofRoot (handles : TagHandles) (tokens : List Token) : Document :=
  let (root, anchors, after) := nodeAt handles (8 * tokens.length + 8) .block .empty tokens
  let ended := match after with
    | some rest => rest.dropWhile (· = .documentEnd) = [.streamEnd]
    | Option.none => false
  ⟨root, anchors, ended⟩

/-- The document of tokens that contain no other. A text without tokens has an empty root. -/
def ofTokens : List Token → Document
  | [.streamEnd] => ⟨.empty, .empty, true⟩
  | tokens =>
    match directives? tokens with
    | Option.none => none
    | some (handles, _, .documentStart :: rest) =>
      let handles := handles ++ defaultHandles
      match rest with
      | .version _ _ :: _ | .tagHandle _ _ :: _ | .documentStart :: _ => ⟨.empty, .empty, false⟩
      | .documentEnd :: _ | .streamEnd :: _ =>
        ⟨.empty, .empty, rest.dropWhile (· = .documentEnd) = [.streamEnd]⟩
      | rest => ofRoot handles rest
    | some _ =>
      match tokens with
      | .version _ _ :: _ | .tagHandle _ _ :: _ => none
      | tokens => ofRoot defaultHandles tokens

/-- The document of a text. -/
def ofText (text : String) : Document :=
  ofTokens (tokens text).1

end Document

end JobGraph.Yaml
