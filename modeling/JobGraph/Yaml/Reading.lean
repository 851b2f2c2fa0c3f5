import JobGraph.Schema
import JobGraph.Yaml.Draft
import JobGraph.Yaml.Scalar

/-!
# Reading typed data from YAML

The readers of `Schema.Format` for drafts of YAML documents. A scalar is read as text whatever
it looks like, where text is wanted. Aliases are followed as they are met, and there is a
limit to how many may be.
-/

namespace JobGraph.Yaml

open Json (Value)

/-- Why typed data cannot be read from a document. -/
inductive Fault where
  /-- The text is not YAML, or goes on behind the document. -/
  | malformed
  | missing (field : String)
  | repeated (field : String)
  /-- A value has the wrong shape: this text, if it is text. -/
  | unexpected (found : Option String)
  | tooDeep
  | tooManyAliases
deriving DecidableEq, Repr

/-- What stands between the first occurrence of `opening` and the next backtick. -/
def quotedBehind? (opening : List Char) : List Char → Option String
  | [] => none
  | c :: cs =>
    if opening.isPrefixOf (c :: cs) then
      let rest := (c :: cs).drop opening.length
      if rest.contains (Char.ofNat 0x60) then
        some (String.ofList (rest.takeWhile (· ≠ Char.ofNat 0x60)))
      else none
    else quotedBehind? opening cs

/-- The field that a fault says is missing. A text that stands in place of something else is
shown, and may say so as well. -/
def Fault.missingField? : Fault → Option String
  | missing field => some field
  | unexpected (some text) =>
    quotedBehind? ("missing field ".toList ++ [Char.ofNat 0x60]) (Json.quote text).toList
  | _ => none

/-- The readers of drafts. They count down how many more aliases they may follow. -/
@[reducible] def Reader (α : Type) := StateT Nat (Except Fault) α

/-- The tag of a type that YAML defines. -/
def coreTag (type : String) : String :=
  "tag:yaml.org,2002:" ++ type

/-- A tag that YAML does not define. -/
def isCustomTag (tag : Option String) : Bool :=
  tag.any (·.startsWith "!")

/-- What the fault of a scalar shows of it: the text, if it is text. -/
def shownText (tag : Option String) (style : Style) (text : String) : Option String :=
  if style = .plain && tag.isNone then
    match plainValue? text with
    | some (.string s) => some s
    | _ => none
  else some text

namespace Draft

/-- The draft that an alias stands for, and any other draft itself. -/
def follow (anchors : Anchors) (d : Draft) : Reader Draft := do
  match d with
  | .alias number =>
    match ← get with
    | 0 => throw .tooManyAliases
    | left + 1 =>
      set left
      return anchors.node number
  | d => return d

/-- The fault of a draft of the wrong shape. -/
def refuse {α : Type} : Draft → Reader α
  | .cut => throw .malformed
  | .scalar tag style text => throw (.unexpected (shownText tag style text))
  | _ => throw (.unexpected none)

/-- A text. -/
def readText (anchors : Anchors) (d : Draft) : Reader String := do
  match ← d.follow anchors with
  | .scalar _ _ text => return text
  | d => d.refuse

/-- A truth value. -/
def readFlag (anchors : Anchors) (d : Draft) : Reader Bool := do
  match ← d.follow anchors with
  | .scalar tag style text =>
    let bare := style = .plain || (style = .literal && tag == some (coreTag "bool"))
    match bare, flag? text with
    | true, some b => return b
    | _, _ => refuse (.scalar tag style text)
  | d => d.refuse

/-- Whether a draft is null. It is absent when its tag says so and it does not look like
null. -/
def isNull? : Draft → Option Bool
  | .scalar tag .plain text =>
    match tag with
    | some tag =>
      if tag = coreTag "null" then if isNullWord text then some true else none else some false
    | none => some (text = "" || isNullWord text)
  | _ => some false

/-- Null, or what the reader accepts. -/
def readOptional (anchors : Anchors) {α : Type} (read : Draft → Reader α) (d : Draft) :
    Reader (Option α) := do
  let d ← d.follow anchors
  match d.isNull? with
  | some true => return none
  | some false => return some (← read d)
  | none => d.refuse

/-- The items of a sequence, each as the reader accepts it. Where a sequence is left out it
has none. -/
def readItems (anchors : Anchors) {α : Type} (read : Draft → Reader α) (d : Draft) :
    Reader (List α) := do
  match ← d.follow anchors with
  | .sequence _ items closed =>
    let results ← items.mapM read
    if closed then return results else throw .malformed
  | .scalar tag style text =>
    if style = .plain && text = "" then return [] else refuse (.scalar tag style text)
  | d => d.refuse

/-- What is passed over only has to be YAML. -/
def pass (d : Draft) : Reader Unit :=
  if d.isWhole then pure () else throw .malformed

/-- A record. Where it is left out it has no fields. -/
def readRecord (anchors : Anchors) {types : List Type} (fields : Schema.Fields Draft Reader types)
    (d : Draft) : Reader (Schema.Row types) := do
  match ← d.follow anchors with
  | .mapping _ pairs closed =>
    let row ← fields.readNamed (readText anchors) (fun name => throw (.repeated name)) pass pairs
      (Schema.Row.empty types)
    if closed then return row else throw .malformed
  | .scalar tag style text =>
    if style = .plain && text = "" then return Schema.Row.empty types
    else refuse (.scalar tag style text)
  | d => d.refuse

/-- The value of a scalar. -/
def scalarValue (tag : Option String) (style : Style) (text : String) : Reader Value := do
  let fail : Reader Value := throw (.unexpected (some text))
  let orFail (v : Option Value) : Reader Value := match v with
    | some v => return v
    | none => fail
  match tag with
  | none =>
    if style = .plain then
      match plainValue? text with
      | some v => return v
      | none => throw (.unexpected none)
    else return .string text
  | some tag =>
    if tag = coreTag "bool" then orFail ((flag? text).map .bool)
    else if tag = coreTag "int" then
      match integer? text.toList with
      | some i =>
        if isWord i then return .number (.int i)
        else if isDoubleWord i then throw (.unexpected none)
        else fail
      | none => fail
    else if tag = coreTag "float" then orFail (float? text.toList)
    else if tag = coreTag "null" then orFail (if isNullWord text then some .null else none)
    else return .string text

/-- The value of a draft, which may have `depth` levels of collections. Of pairs with one key
the last counts. -/
def readValue (anchors : Anchors) : Nat → Draft → Reader Value
  | depth, d => do
    match depth, ← d.follow anchors with
    | _, .scalar tag style text =>
      if isCustomTag tag then throw (.unexpected none) else scalarValue tag style text
    | 0, .sequence tag _ _ | 0, .mapping tag _ _ =>
      throw (if isCustomTag tag then .unexpected none else .tooDeep)
    | depth + 1, .sequence tag items closed =>
      if isCustomTag tag then throw (.unexpected none)
      let values ← items.mapM (readValue anchors depth)
      if closed then return .array values else throw .malformed
    | depth + 1, .mapping tag pairs closed =>
      if isCustomTag tag then throw (.unexpected none)
      let fields ← pairs.mapM fun (k, v) => do
        let name ← readText anchors k
        return (name, ← readValue anchors depth v)
      if closed then return .object fields else throw .malformed
    | _, d => d.refuse

/-- The text of a value: of a string its content, of null nothing, else its JSON text with
the fields of objects in order. -/
def readAnyText (anchors : Anchors) (depth : Nat) (d : Draft) : Reader (Option String) := do
  let d ← d.follow anchors
  match d.isNull? with
  | none => d.refuse
  | some true => return none
  | some false =>
    match ← d.readValue anchors depth with
    | .null => return none
    | .string s => return some s
    | v => return some v.sorted.write

end Draft

/-- The readers for drafts of a document with these anchors. There may be 128 levels of
collections. -/
def format (anchors : Anchors) : Schema.Format Draft Reader where
  text := Draft.readText anchors
  flag := Draft.readFlag anchors
  anyText := fun depth => Draft.readAnyText anchors (128 - depth)
  optional := Draft.readOptional anchors
  items := Draft.readItems anchors
  record := Draft.readRecord anchors
  missing := fun field => throw (.missing field)

/-- Read a whole text with a reader of its root. A hundred aliases may be followed for each
part of the document. -/
def readText {α : Type} (read : Anchors → Draft → Reader α) (text : String) : Except Fault α :=
  let document := Document.ofText text
  match (read document.anchors document.root).run (100 * max 1 document.root.size) with
  | .ok (a, _) => if document.ended then .ok a else .error .malformed
  | .error fault => .error fault

end JobGraph.Yaml
