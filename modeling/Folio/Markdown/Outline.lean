import Folio.Markdown.Heading
import Folio.Markdown.Line
import Folio.Markdown.Link
import Folio.Markdown.Table
import Folio.Markdown.Tag

/-!
# The blocks of a document

An outline is built line by line. It has the containers that are open, the innermost one first, and at
most one open leaf in them. A line first enters as many of the open containers as it can. Then either it
continues the leaf, or the containers that it did not enter are closed and it opens new ones.
-/

namespace Folio.Markdown

/-- An open container with what is closed in it, the newest first. Items stand only in lists, and lists
hold only items. -/
inductive Frame where
  | quote (blocks : List (Block Text))
  | list (mark : Char) (start : Option Nat) (tight : Bool) (items : List (List (Block Text)))
  | item (indent : Nat) (blocks : List (Block Text))
  | footnote (label : Text) (blocks : List (Block Text))
deriving Inhabited

inductive Leaf where
  | none
  /-- A paragraph. Its last line is loose if it did not enter all containers. -/
  | paragraph (lines : List Text) (loose : Bool)
  | indentedCode (lines : List Text)
  | fencedCode (fence : Fence) (lines : List Text)
  | html (ending : HtmlEnd) (lines : List Text)
  | table (columns : List Alignment) (head : List Text) (rows : List (List Text))
deriving Inhabited

structure Outline where
  blocks : List (Block Text) := []
  frames : List Frame := []
  leaf : Leaf := .none
  definitions : Definitions := []
  afterBlank : Bool := false
  emptyItem : Bool := false
deriving Inhabited

def footnoteIndent : Nat := 4

def Frame.enter? (frame : Frame) (c : Cursor) : Option Cursor :=
  let indented (indent : Nat) :=
    let (count, d) := c.skip indent
    if count = indent || d.rest.isEmpty then some d else none
  match frame with
  | .quote _ =>
    let (_, d) := c.skip 3
    match d.rest with
    | '>' :: _ => some ((d.drop 1).skip 1).2
    | _ => none
  | .list .. => some c
  | .item indent _ => indented indent
  | .footnote .. => indented footnoteIndent

/-- What is left of a line that enters containers from the outermost on, and the number of those that it
does not enter. -/
def enterFrames : List Frame → Cursor → Nat × Cursor
  | [], c => (0, c)
  | frame :: frames, c =>
    match frame.enter? c with
    | some d => enterFrames frames d
    | none => (frames.length + 1, c)

def Frame.add (b : Block Text) : Frame → Frame
  | .quote blocks => .quote (b :: blocks)
  | .list mark start tight items => .list mark start tight items
  | .item indent blocks => .item indent (b :: blocks)
  | .footnote label blocks => .footnote label (b :: blocks)

def paragraphText (lines : List Text) : Text := Text.join ['\n'] lines.reverse

def footnoteStart? (line : Text) : Option (Text × Text) := do
  let (label, rest) ← readFootnoteLabel? (← Text.dropPrefix? ['['] line)
  return (label, (← Text.dropPrefix? [':'] rest).dropWhile isLineSpace)

/-- Whether a line ends a paragraph or a table. Where it would continue a paragraph in all containers,
an item does so only if it is not empty and its number, if any, is one. -/
def interrupts (inParagraph : Bool) (line : Text) : Bool :=
  line.all isLineSpace || isRule line || (heading? line).isSome || (fence? 0 line).isSome ||
    line.head? = some '>' || (htmlEnd? true line).isSome || (footnoteStart? line).isSome ||
    (listMarker? { rest := line }).any fun (marker, c) =>
      !inParagraph || (marker.number.all (· = 1) && !c.isBlank)

namespace Outline

def add (b : Block Text) (o : Outline) : Outline :=
  match o.frames with
  | [] => { o with blocks := b :: o.blocks }
  | frame :: frames => { o with frames := frame.add b :: frames }

def closeFrame (o : Outline) : Outline :=
  match o.frames with
  | [] => o
  | .quote blocks :: frames => add (.quote blocks.reverse) { o with frames }
  | .list _ start tight items :: frames => add (.list start tight items.reverse) { o with frames }
  | .item _ blocks :: .list mark start tight items :: frames =>
    { o with frames := .list mark start tight (blocks.reverse :: items) :: frames }
  | .item .. :: frames => { o with frames }
  | .footnote label blocks :: frames => add (.footnote label blocks.reverse) { o with frames }

def closeFrames : Nat → Outline → Outline
  | 0, o => o
  | n + 1, o => closeFrames n o.closeFrame

/-- The outline with its leaf closed. The definitions at the start of a paragraph are taken out of it, and
blank lines at the end of code do not belong to it. -/
def closeLeaf (o : Outline) : Outline :=
  let closed := { o with leaf := .none }
  match o.leaf with
  | .none => o
  | .paragraph lines _ =>
    let (definitions, rest) := takeDefinitions lines.length (paragraphText lines)
    let closed := { closed with definitions := o.definitions ++ definitions }
    let content := Text.dropEndWhile isSpace (rest.dropWhile isLineSpace)
    if content = [] then closed else closed.add (.paragraph content)
  | .indentedCode lines =>
    let kept := lines.dropWhile (·.all isSpace)
    { closed.add (.code [] kept.reverse.flatten) with afterBlank := kept.length < lines.length }
  | .fencedCode fence lines => closed.add (.code fence.language lines.reverse.flatten)
  | .html _ lines => closed.add (.html lines.reverse.flatten)
  | .table columns head rows => closed.add (.table columns head rows.reverse)

def loosen (o : Outline) : Outline :=
  match o.frames with
  | frame :: .list mark start _ items :: frames =>
    { o with frames := frame :: .list mark start false items :: frames }
  | _ => o

/-- The outline before a block that is not an item. A list cannot hold it, and blank lines before it are
between the parts of an item. -/
def beforeBlock (o : Outline) : Outline :=
  let o := match o.frames with
    | .list .. :: _ => o.closeFrame
    | _ => o
  let o := if o.afterBlank then o.loosen else o
  { o with afterBlank := false, emptyItem := false }

/-- The outline with an open item, in the innermost list if its mark is the same, or else in a new
one. Blank lines before the item are between the items of the list. -/
def openItem (marker : ListMarker) (indent : Nat) (o : Outline) : Outline :=
  let fresh (o : Outline) : Outline :=
    let o := o.beforeBlock
    { o with frames := .item (indent + marker.width) [] ::
        .list marker.mark marker.number true [] :: o.frames }
  match o.frames with
  | .list mark start tight items :: frames =>
    if mark = marker.mark then
      { o with
        frames := .item (indent + marker.width) [] ::
          .list mark start (tight && !o.afterBlank) items :: frames
        afterBlank := false
        emptyItem := false }
    else fresh o
  | _ => fresh o

def openQuote (o : Outline) : Outline :=
  let o := o.beforeBlock
  { o with frames := .quote [] :: o.frames }

def openFootnote (label : Text) (o : Outline) : Outline :=
  let o := o.beforeBlock
  let o := match o.frames with
    | .footnote .. :: _ => o.closeFrame
    | _ => o
  { o with frames := .footnote label [] :: o.frames }

/-- The outline with the containers open that start in a line, and what is left of the line; nothing is
left if an empty item starts there. No more than `n` containers are opened. -/
def openFrames : Nat → Outline → Cursor → Outline × Option Cursor
  | 0, o, c => (o, some c)
  | n + 1, o, c =>
    let (indent, d) := c.skip 4
    if 4 ≤ indent then (o, some c)
    else
      match footnoteStart? d.rest with
      | some (label, rest) => openFrames n (o.openFootnote label) { rest }
      | none =>
        match listMarker? d with
        | some (marker, next) =>
          let o := o.openItem marker indent
          if next.isBlank then ({ o with emptyItem := true }, none) else openFrames n o next
        | none =>
          match d.rest with
          | '>' :: _ => openFrames n o.openQuote ((d.drop 1).skip 1).2
          | _ => (o, some c)

/-- The outline after a blank line. An empty item cannot go on after one, and a quote counts none. -/
def addBlank (o : Outline) : Outline :=
  match o.frames with
  | .quote _ :: _ => o
  | .item _ [] :: _ =>
    if o.emptyItem then { o.closeFrame with afterBlank := true, emptyItem := false }
    else { o with afterBlank := true }
  | _ => { o with afterBlank := true }

def addHtml (ending : HtmlEnd) (lines : List Text) (line : Text) (o : Outline) : Outline :=
  let o := { o with leaf := .html ending (line :: lines) }
  match ending with
  | .line closing => if Text.contains closing line then o.closeLeaf else o
  | .blankLine => o

def openLeaf (c : Cursor) (eol : Text) (o : Outline) : Outline :=
  let (indent, d) := c.skip 4
  let line := d.rest
  if 4 ≤ indent then { o with leaf := .indentedCode [d.text ++ eol] }
  else
    match htmlEnd? false line with
    | some ending => o.addHtml ending [] (List.replicate indent ' ' ++ line ++ eol)
    | none =>
      if isRule line then o.add .rule
      else
        match heading? line with
        | some (level, rest) =>
          let (content, attributes) := readHeading rest
          o.add (.heading level attributes content)
        | none =>
          match fence? indent line with
          | some fence => { o with leaf := .fencedCode fence [] }
          | none => { o with leaf := .paragraph [line] false }

/-- The outline with a table that starts with the last line of a paragraph, if the next line makes one of
it. The lines before stay a paragraph; where there are some, the table has to start with a bar. -/
def openTable? (lines : List Text) (loose : Bool) (second : Text) (o : Outline) : Option Outline := do
  let head ← lines.head?
  let columns ← tableColumns? head second
  let table := Leaf.table columns (fittedCells columns.length head) []
  let (definitions, rest) := takeDefinitions lines.length (paragraphText lines)
  let (indent, c) := { rest := head : Cursor }.skip 4
  if rest ≠ [] && '\n' ∉ rest then
    some { o with leaf := table, definitions := o.definitions ++ definitions }
  else if !loose && indent < 4 && c.rest.head? = some '|' then
    some { closeLeaf { o with leaf := .paragraph lines.tail false } with leaf := table }
  else none

def underline? (lines : List Text) (line : Text) (o : Outline) : Option Outline := do
  let level ← Markdown.underline? line
  let (definitions, rest) := takeDefinitions lines.length (paragraphText lines)
  let content := Text.dropEndWhile isSpace (rest.dropWhile isLineSpace)
  if content = [] then none
  let (content, attributes) := splitAttributes content
  let o := { o with leaf := .none, definitions := o.definitions ++ definitions }
  some (o.add (.heading level attributes (Text.dropEndWhile isSpace content)))

/-- The outline with a line that continues a paragraph, if the line does so. A line that entered all
containers may turn the paragraph into something else. -/
def continueParagraph? (lines : List Text) (loose entered : Bool) (c : Cursor) (o : Outline) :
    Option Outline :=
  let (indent, d) := c.skip 4
  let turned :=
    if entered && indent < 4 then o.openTable? lines loose d.rest <|> o.underline? lines d.rest
    else none
  let stops := c.isBlank || (indent < 4 && interrupts entered d.rest)
  turned <|> if stops then none else some { o with leaf := .paragraph (c.rest :: lines) (!entered) }

def continueLeaf? (entered : Bool) (c : Cursor) (eol : Text) (o : Outline) : Option Outline :=
  match o.leaf with
  | .none => none
  | .paragraph lines loose => o.continueParagraph? lines loose entered c
  | .indentedCode lines =>
    let (indent, d) := c.skip 4
    if entered && (indent = 4 || d.rest.isEmpty) then
      some { o with leaf := .indentedCode ((d.text ++ eol) :: lines) }
    else none
  | .fencedCode fence lines =>
    if entered then
      let (_, d) := c.skip fence.indent
      let (more, e) := d.skip (4 - fence.indent)
      if more < 4 - fence.indent && fence.isClosedBy e.rest then some o.closeLeaf
      else some { o with leaf := .fencedCode fence ((d.text ++ eol) :: lines) }
    else none
  | .html ending lines =>
    if entered && !(ending = .blankLine && c.isBlank) then some (o.addHtml ending lines (c.text ++ eol))
    else none
  | .table columns head rows =>
    let line := c.rest.dropWhile isLineSpace
    if entered && !interrupts false line then
      some { o with leaf := .table columns head (fittedCells columns.length line :: rows) }
    else none

def addLine (o : Outline) (line eol : Text) : Outline :=
  let (missed, c) := enterFrames o.frames.reverse { rest := line }
  match o.continueLeaf? (missed = 0) c eol with
  | some o => o
  | none =>
    match openFrames (line.length + 1) (closeFrames missed o.closeLeaf) c with
    | (o, none) => o
    | (o, some c) => if c.isBlank then o.addBlank else openLeaf c eol o.beforeBlock

def ofText (t : Text) : Outline :=
  let lines := Text.lines (Text.normalizeLineBreaks t)
  let o := lines.dropLast.foldl (fun o line => o.addLine line ['\n']) {}
  match lines.getLast? with
  | some (c :: line) => o.addLine (c :: line) []
  | _ => o

def finish (o : Outline) : List (Block Text) × Definitions :=
  let o := closeFrames o.frames.length o.closeLeaf
  (o.blocks.reverse, o.definitions)

end Outline

end Folio.Markdown
