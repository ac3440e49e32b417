import TuningAdvisor.Document.Scalar
import TuningAdvisor.Document.Shape
import TuningAdvisor.Document.Skipping
/-!
# Reading document texts: `parse_documents` and `load_profiles_from_dir`

A text is read as far as its shape asks for, into a `Layout`: the document with the byte offsets at
which its parts start and stop. **A text that breaks off or goes wrong still has a layout, of all
that was read before**; the containers around the fault have no stop.
-/

namespace TuningAdvisor

/-- The name of a field, where it stops, and the offset of what follows, which should be a colon. -/
structure FieldName where
  text : String
  stop : Nat
  colon : Nat

/-- A document with its place in a text. -/
inductive Layout where
  /-- A scalar and where it starts and stops. -/
  | scalar (start stop : Nat) (value : Doc)
  /-- A value that was only skipped, or at which the reading stopped. -/
  | unread
  /-- The items of an array; without a stop it breaks off behind them. -/
  | sequence (start : Nat) (items : List Layout) (stop : Option Nat)
  /-- The fields of an object; without a stop it breaks off behind them. -/
  | mapping (start : Nat) (entries : List (FieldName × Layout)) (stop : Option Nat)

namespace Layout

mutual

/-- The document. A value that was not read is NaN, which no decoder accepts. -/
def toDoc : Layout → Doc
  | .scalar _ _ value => value
  | .unread => .float (0.0 / 0.0)
  | .sequence _ items _ => .arr (itemDocs items)
  | .mapping _ entries _ => .obj (entryDocs entries)

def itemDocs : List Layout → List Doc
  | [] => []
  | l :: rest => toDoc l :: itemDocs rest

def entryDocs : List (FieldName × Layout) → List (String × Doc)
  | [] => []
  | (name, l) :: rest => (name.text, toDoc l) :: entryDocs rest

end

end Layout

/-- What was read of a value, and where reading goes on or why it does not. -/
structure Reading where
  layout : Layout
  next : Except Misread Cursor

namespace Reading

/-- A value at which the reading stops. -/
def broken (why : Misread) : Reading := { layout := .unread, next := .error why }

/-- A scalar between two cursors. -/
def scalar (start : Cursor) (read : Except Misread (Doc × Cursor)) : Reading :=
  match read with
  | .ok (value, next) => { layout := .scalar start.offset next.offset value, next := .ok next }
  | .error why => broken why

/-- A value that is not looked at. -/
def skipped (next : Except Misread Cursor) : Reading := { layout := .unread, next }

/-- An array from its items and the cursor behind it. -/
def sequence (start : Cursor) (items : List Layout) (next : Except Misread Cursor) : Reading :=
  { layout := .sequence start.offset items (next.toOption.map (·.offset)), next }

def mapping (start : Cursor) (entries : List (FieldName × Layout))
    (next : Except Misread Cursor) : Reading :=
  { layout := .mapping start.offset entries (next.toOption.map (·.offset)), next }

end Reading

namespace Reader

/-! ## Parts of containers -/

/-- The name of a field from the opening quote on, and the cursor behind the colon. -/
def fieldName (c : Cursor) : Except Misread (FieldName × Except Misread Cursor) := do
  let (text, next) ← string c
  let colon := next.skipBlanks
  let after : Except Misread Cursor :=
    match colon.rest with
    | ':' :: _ => .ok colon.skip
    | [] => .error (colon.fault .endInObject)
    | _ => .error (colon.fault .expectedColon)
  return ({ text, stop := next.offset, colon := colon.offset }, after)

/-- Where the next item starts, if there is one. -/
def nextItem (first : Bool) (c : Cursor) : Except Misread (Option Cursor) :=
  let c := c.skipBlanks
  match c.rest with
  | [] => .error (c.fault .endInList)
  | ']' :: _ => .ok none
  | x :: _ =>
    if first then .ok (some c)
    else if x = ',' then
      let c := c.skip.skipBlanks
      match c.rest with
      | [] => .error (c.fault .endInValue)
      | ']' :: _ => .error (c.fault .trailingComma)
      | _ => .ok (some c)
    else .error (c.fault .expectedListCommaOrEnd)

/-- Behind the bracket of an array that may have no more items. -/
def lastBracket (c : Cursor) : Except Misread Cursor :=
  let c := c.skipBlanks
  match c.rest with
  | [] => .error (c.fault .endInList)
  | ']' :: _ => .ok c.skip
  | ',' :: _ =>
    let c := c.skip.skipBlanks
    match c.rest with
    | ']' :: _ => .error (c.fault .trailingComma)
    | _ => .error (c.fault .trailingCharacters)
  | _ => .error (c.fault .trailingCharacters)

/-- Where the name of the next field starts, if there is one. -/
def nextField (first : Bool) (c : Cursor) : Except Misread (Option Cursor) :=
  let c := c.skipBlanks
  match c.rest with
  | [] => .error (c.fault .endInObject)
  | '}' :: _ => .ok none
  | x :: _ =>
    if first then
      if x = '"' then .ok (some c) else .error (c.fault .keyNotText)
    else if x = ',' then
      let c := c.skip.skipBlanks
      match c.rest with
      | [] => .error (c.fault .endInValue)
      | '"' :: _ => .ok (some c)
      | '}' :: _ => .error (c.fault .trailingComma)
      | _ => .error (c.fault .keyNotText)
    else .error (c.fault .expectedObjectCommaOrEnd)

/-- Where the name starts that is the only field of an object. -/
def onlyField (c : Cursor) : Except Misread Cursor :=
  let c := c.skipBlanks
  match c.rest with
  | [] => .error (c.fault .endInObject)
  | '"' :: _ => .ok c
  | '}' :: _ => .error (c.fault .expectedValue)
  | _ => .error (c.fault .keyNotText)

/-- Behind the brace of an object that has only one field. -/
def onlyBrace (c : Cursor) : Except Misread Cursor :=
  let c := c.skipBlanks
  match c.rest with
  | [] => .error (c.faultHere .endInObject)
  | '}' :: _ => .ok c.skip
  | _ => .error (c.faultHere .expectedValue)

/-! ## Values -/

/-- Items read so far and how the array ended. -/
abbrev Items := List Layout × Except Misread Cursor

/-- Fields read so far and how the object ended. -/
abbrev Entries := List (FieldName × Layout) × Except Misread Cursor

/-- How deep containers may be nested. -/
def maxDepth : Nat := 127

mutual

/-- A value. Every call takes one from `fuel`; four times the length of the text covers them. -/
def value : (fuel : Nat) → (depth : Nat) → Shape → Cursor → Reading
  | 0, _, _, c => .broken (c.fault .endInValue)
  | fuel + 1, depth, shape, c =>
    let c := c.skipBlanks
    match shape, c.rest with
    | .ignored, _ => .skipped (Skipping.value c)
    | .optional _, 'n' :: _ => .scalar c (scalar c)
    | .optional shape, _ => value fuel depth shape c
    | .variant, '"' :: _ => .scalar c (scalar c)
    | .variant, '{' :: _ =>
      let (read, ending) := enclosedName fuel depth c.skip
      .mapping c read ending
    | .variant, [] => .broken (c.fault .endInValue)
    | .variant, _ => .broken (c.fault .expectedValue)
    | _, '[' :: _ =>
      if maxDepth ≤ depth then .broken (c.fault .tooDeep)
      else
        let (read, ending) := items fuel (depth + 1) shape 0 c.skip
        .sequence c read ending
    | _, '{' :: _ =>
      if maxDepth ≤ depth then .broken (c.fault .tooDeep)
      else
        let (read, ending) := entries fuel (depth + 1) shape true c.skip
        .mapping c read ending
    | _, _ => .scalar c (scalar c)

def enclosedName : (fuel : Nat) → (depth : Nat) → Cursor → Entries
  | 0, _, c => ([], .error (c.fault .endInObject))
  | fuel + 1, depth, c =>
    match onlyField c with
    | .error why => ([], .error why)
    | .ok start =>
      match fieldName start with
      | .error why => ([], .error why)
      | .ok (name, .error why) => ([(name, .unread)], .error why)
      | .ok (name, .ok next) =>
        let reading := value fuel (depth + 1) .any next
        ([(name, reading.layout)], reading.next.bind onlyBrace)

def items : (fuel : Nat) → (depth : Nat) → Shape → (i : Nat) → Cursor → Items
  | 0, _, _, _, c => ([], .error (c.fault .endInList))
  | fuel + 1, depth, shape, i, c =>
    if shape.itemLimit? = some i then ([], lastBracket c)
    else
      match nextItem (i = 0) c with
      | .error why => ([], .error why)
      | .ok none => ([], .ok c.skipBlanks.skip)
      | .ok (some start) =>
        let reading := value fuel depth (shape.item i) start
        match reading.next with
        | .error why => ([reading.layout], .error why)
        | .ok next =>
          let (rest, ending) := items fuel depth shape (i + 1) next
          (reading.layout :: rest, ending)

def entries : (fuel : Nat) → (depth : Nat) → Shape → (first : Bool) → Cursor → Entries
  | 0, _, _, _, c => ([], .error (c.fault .endInObject))
  | fuel + 1, depth, shape, first, c =>
    match nextField first c with
    | .error why => ([], .error why)
    | .ok none => ([], .ok c.skipBlanks.skip)
    | .ok (some start) =>
      match fieldName start with
      | .error why => ([], .error why)
      | .ok (name, .error why) => ([(name, .unread)], .error why)
      | .ok (name, .ok next) =>
        let reading := value fuel depth (shape.field name.text) next
        match reading.next with
        | .error why => ([(name, reading.layout)], .error why)
        | .ok next =>
          let (rest, ending) := entries fuel depth shape false next
          ((name, reading.layout) :: rest, ending)

end

end Reader

/-- The layout of a text as far as it is read, with the fault that ended the reading, if any. -/
def Layout.ofText (shape : Shape) (text : String) : Layout × Option Misread :=
  let start := Cursor.ofText text
  let reading := Reader.value (4 * start.rest.length + 4) 0 shape start
  match reading.next with
  | .error why => (reading.layout, some why)
  | .ok next =>
    let next := next.skipBlanks
    (reading.layout, if next.rest.isEmpty then none else some (next.fault .trailingCharacters))

/-- The document that a text stands for, its fields in the order of the text. -/
def Doc.ofText (text : String) : Except Misread Doc :=
  match Layout.ofText .any text with
  | (_, some why) => .error why
  | (layout, none) => .ok layout.toDoc

end TuningAdvisor
