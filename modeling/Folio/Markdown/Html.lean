import Folio.Markdown.Outline
import Folio.Markdown.RunningText

/-!
# Markdown as HTML

A document is written as HTML block by block. Most blocks start on a line of their own, whatever was
written before them. Footnotes are numbered in the order in which their labels first occur.
-/

namespace Folio.Markdown

def escapeTextChar (c : Char) : Text :=
  match c with
  | '&' => "&amp;".toList
  | '<' => "&lt;".toList
  | '>' => "&gt;".toList
  | c => [c]

def escapeValueChar (c : Char) : Text :=
  match c with
  | '"' => "&quot;".toList
  | '\'' => "&#39;".toList
  | c => escapeTextChar c

def escapeText (t : Text) : Text := t.flatMap escapeTextChar

def escapeValue (t : Text) : Text := t.flatMap escapeValueChar

def upperHexDigit (n : Nat) : Char := "0123456789ABCDEF".toList.getD n '0'

def percentEncode (c : Char) : Text :=
  (String.singleton c).toUTF8.toList.flatMap fun b =>
    ['%', upperHexDigit (b.toNat / 16), upperHexDigit (b.toNat % 16)]

def escapeAddressChar (c : Char) : Text :=
  if Unicode.isAsciiAlphanumeric c || c ∈ "!#$%()*+,-./:;=?@_~".toList then [c]
  else if c = '&' then "&amp;".toList
  else if c = '\'' then "&#x27;".toList
  else percentEncode c

def escapeAddress (t : Text) : Text := t.flatMap escapeAddressChar

def footnoteNumber (labels : List Text) (label : Text) : Text := Text.ofNat (labels.idxOf label + 1)

namespace Inline

mutual

def labels : Inline → List Text
  | .emphasis content => labelsOfAll content
  | .strong content => labelsOfAll content
  | .deletion content => labelsOfAll content
  | .link _ _ content => labelsOfAll content
  | .image _ _ content => labelsOfAll content
  | .footnote label => [label]
  | _ => []

def labelsOfAll : List Inline → List Text
  | [] => []
  | i :: is => labels i ++ labelsOfAll is

end

mutual

/-- An inline in the description of an image, where it has no elements. -/
def toValue (notes : List Text) : Inline → Text
  | .text t => escapeValue t
  | .code t => escapeValue t
  | .html t => escapeValue t
  | .softBreak => [' ']
  | .hardBreak => [' ']
  | .emphasis content => allToValue notes content
  | .strong content => allToValue notes content
  | .deletion content => allToValue notes content
  | .link _ _ content => allToValue notes content
  | .image _ _ content => allToValue notes content
  | .footnote label => '[' :: footnoteNumber notes label ++ [']']

def allToValue (notes : List Text) : List Inline → Text
  | [] => []
  | i :: is => toValue notes i ++ allToValue notes is

end

def titleAttribute (title : Text) : Text :=
  if title = [] then [] else "\" title=\"".toList ++ escapeValue title

mutual

def toHtml (notes : List Text) : Inline → Text
  | .text t => escapeText t
  | .code t => "<code>".toList ++ escapeText t ++ "</code>".toList
  | .html t => t
  | .softBreak => ['\n']
  | .hardBreak => "<br />\n".toList
  | .emphasis content => "<em>".toList ++ allToHtml notes content ++ "</em>".toList
  | .strong content => "<strong>".toList ++ allToHtml notes content ++ "</strong>".toList
  | .deletion content => "<del>".toList ++ allToHtml notes content ++ "</del>".toList
  | .link destination title content =>
    "<a href=\"".toList ++ escapeAddress destination ++ titleAttribute title ++ "\">".toList ++
      allToHtml notes content ++ "</a>".toList
  | .image destination title content =>
    "<img src=\"".toList ++ escapeAddress destination ++ "\" alt=\"".toList ++
      allToValue notes content ++ titleAttribute title ++ "\" />".toList
  | .footnote label =>
    "<sup class=\"footnote-reference\"><a href=\"#".toList ++ escapeValue label ++ "\">".toList ++
      footnoteNumber notes label ++ "</a></sup>".toList

def allToHtml (notes : List Text) : List Inline → Text
  | [] => []
  | i :: is => toHtml notes i ++ allToHtml notes is

end

end Inline

inductive Piece where
  | text (t : Text)
  /-- A line end, unless a line has just ended or nothing is written yet. -/
  | lineStart
deriving DecidableEq, Inhabited

/-- The text of pieces, where `fresh` says whether they start on a line of their own. -/
def Piece.join (fresh : Bool) : List Piece → Text
  | [] => []
  | .lineStart :: pieces => (if fresh then [] else ['\n']) ++ join true pieces
  | .text t :: pieces =>
    t ++ join (match t.getLast? with
      | some c => c = '\n'
      | none => fresh) pieces

def Piece.ofString (s : String) : Piece := .text s.toList

def Attributes.toHtml (attributes : Attributes) : Text :=
  let write (name value : Text) : Text :=
    ' ' :: escapeValue name ++ "=\"".toList ++ escapeValue value ++ ['"']
  let id := match attributes.id with
    | some id => write "id".toList id
    | none => []
  let classes :=
    if attributes.classes = [] then []
    else write "class".toList (Text.join [' '] attributes.classes)
  id ++ classes ++ attributes.others.flatMap fun entry => write entry.1 entry.2

def Alignment.style (alignment : Alignment) : Text :=
  match alignment with
  | .unset => []
  | .left => " style=\"text-align: left\"".toList
  | .center => " style=\"text-align: center\"".toList
  | .right => " style=\"text-align: right\"".toList

/-- The start of a list. A list that starts with one says nothing of it. -/
def listTag (start : Option Nat) : Text :=
  match start with
  | none => "<ul>\n".toList
  | some 1 => "<ol>\n".toList
  | some n => "<ol start=\"".toList ++ Text.ofNat n ++ "\">\n".toList

namespace Block

mutual

def labels : Block (List Inline) → List Text
  | .paragraph content => Inline.labelsOfAll content
  | .heading _ _ content => Inline.labelsOfAll content
  | .quote blocks => labelsOfAll blocks
  | .list _ _ items => labelsOfItems items
  | .footnote label blocks => label :: labelsOfAll blocks
  | .table _ head rows =>
    head.flatMap Inline.labelsOfAll ++ rows.flatMap fun row => row.flatMap Inline.labelsOfAll
  | _ => []

def labelsOfAll : List (Block (List Inline)) → List Text
  | [] => []
  | b :: bs => labels b ++ labelsOfAll bs

def labelsOfItems : List (List (Block (List Inline))) → List Text
  | [] => []
  | item :: items => labelsOfAll item ++ labelsOfItems items

end

def rowToHtml (notes : List Text) (element : Text) (columns : List Alignment)
    (row : List (List Inline)) : Text :=
  (columns.zip row).flatMap fun (alignment, cell) =>
    '<' :: element ++ alignment.style ++ ['>'] ++ Inline.allToHtml notes cell ++ "</".toList ++
      element ++ ['>']

mutual

def pieces (notes : List Text) (bare : Bool) : Block (List Inline) → List Piece
  | .paragraph content =>
    if bare then [.text (Inline.allToHtml notes content)]
    else [.lineStart, .text ("<p>".toList ++ Inline.allToHtml notes content ++ "</p>\n".toList)]
  | .heading level attributes content =>
    let name := 'h' :: Text.ofNat level
    [.lineStart, .text ('<' :: name ++ attributes.toHtml ++ ['>'] ++
      Inline.allToHtml notes content ++ "</".toList ++ name ++ ">\n".toList)]
  | .code language t =>
    let start := if language = [] then "<pre><code>".toList
      else "<pre><code class=\"language-".toList ++ escapeValue language ++ "\">".toList
    [.lineStart, .text (start ++ escapeText t ++ "</code></pre>\n".toList)]
  | .html t => [.text t]
  | .rule => [.lineStart, .ofString "<hr />\n"]
  | .quote blocks =>
    .lineStart :: .ofString "<blockquote>\n" :: piecesOfAll notes false blocks ++
      [.ofString "</blockquote>\n"]
  | .list start tight items =>
    let stop := if start = none then "</ul>\n" else "</ol>\n"
    .lineStart :: .text (listTag start) :: piecesOfItems notes tight items ++ [.ofString stop]
  | .footnote label blocks =>
    .lineStart :: .text ("<div class=\"footnote-definition\" id=\"".toList ++ escapeValue label ++
        "\"><sup class=\"footnote-definition-label\">".toList ++ footnoteNumber notes label ++
        "</sup>".toList) ::
      piecesOfAll notes false blocks ++ [.ofString "</div>\n"]
  | .table columns head rows =>
    [.text ("<table><thead><tr>".toList ++ rowToHtml notes "th".toList columns head ++
      "</tr></thead><tbody>\n".toList ++ (rows.flatMap fun row =>
        "<tr>".toList ++ rowToHtml notes "td".toList columns row ++ "</tr>\n".toList) ++
      "</tbody></table>\n".toList)]

def piecesOfAll (notes : List Text) (bare : Bool) : List (Block (List Inline)) → List Piece
  | [] => []
  | b :: bs => pieces notes bare b ++ piecesOfAll notes bare bs

def piecesOfItems (notes : List Text) (tight : Bool) :
    List (List (Block (List Inline))) → List Piece
  | [] => []
  | item :: items =>
    .lineStart :: .ofString "<li>" :: piecesOfAll notes tight item ++
      .ofString "</li>\n" :: piecesOfItems notes tight items

end

end Block

def readBlocks (t : Text) : List (Block (List Inline)) :=
  let (blocks, definitions) := (Outline.ofText t).finish
  let footnotes := (Block.footnoteLabelsOfAll blocks).map labelKey
  Block.mapAll (readInlines ⟨definitions, footnotes⟩) blocks

def toHtml (t : Text) : Text :=
  let blocks := readBlocks t
  Piece.join true (Block.piecesOfAll (Block.labelsOfAll blocks).eraseDups false blocks)

end Folio.Markdown
