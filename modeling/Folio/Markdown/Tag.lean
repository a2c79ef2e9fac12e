import Folio.Markdown.CharacterReference

/-!
# Raw HTML

Elements of HTML in running text, and the lines that start blocks of HTML. The readers skip over what
they recognise and say what follows it.
-/

namespace Folio.Markdown

def skipValue? (t : Text) : Option Text :=
  match t with
  | '"' :: t => (t.dropWhile (· ≠ '"')).tail?
  | '\'' :: t => (t.dropWhile (· ≠ '\'')).tail?
  | t =>
    let isBare (c : Char) : Bool := !isSpace c && c ∉ ['"', '\'', '=', '<', '>', '\x60']
    if t.head?.any isBare then some (t.dropWhile isBare) else none

def skipAttribute? (t : Text) : Option Text :=
  let isFirst (c : Char) : Bool := c.isAlpha || c = '_' || c = ':'
  if t.head?.any isFirst then
    let rest := t.dropWhile fun c => isFirst c || c.isDigit || c = '.' || c = '-'
    match rest.dropWhile isSpace with
    | '=' :: t => skipValue? (t.dropWhile isSpace)
    | _ => some rest
  else none

def skipAttributes? : Nat → Text → Option Text
  | 0, _ => none
  | n + 1, t =>
    match t.dropWhile isSpace with
    | '/' :: rest => some ('/' :: rest)
    | '>' :: rest => some ('>' :: rest)
    | rest => if t.head?.any isSpace then (skipAttribute? rest).bind (skipAttributes? n) else none

def skipName? (t : Text) : Option Text :=
  if t.head?.any Char.isAlpha then
    some (t.dropWhile fun c => Unicode.isAsciiAlphanumeric c || c = '-')
  else none

def skipTag? (t : Text) : Option Text :=
  match t with
  | '/' :: t => do Text.dropPrefix? ['>'] ((← skipName? t).dropWhile isLineSpace)
  | t => do
    let rest ← skipName? t
    match ← skipAttributes? (rest.length + 1) rest with
    | '/' :: rest => Text.dropPrefix? ['>'] rest
    | rest => Text.dropPrefix? ['>'] rest

def skipPast? (ending t : Text) : Option Text := (Text.cut? ending t).map (·.2)

/-- What follows a comment, a processing instruction, a declaration or a section of character data, in
a text that follows its first sign. -/
def skipDeclaration? (t : Text) : Option Text :=
  match t with
  | '!' :: '-' :: '-' :: '>' :: t => some t
  | '!' :: '-' :: '-' :: '-' :: '>' :: t => some t
  | '!' :: '-' :: '-' :: t => skipPast? "-->".toList t
  | '?' :: t => skipPast? "?>".toList t
  | '!' :: t =>
    match Text.dropPrefix? "[CDATA[".toList t with
    | some t => skipPast? "]]>".toList t
    | none => if t.head?.any Char.isAlpha then skipPast? ['>'] t else none
  | _ => none

def skipHtml? (t : Text) : Option Text :=
  match t with
  | '!' :: _ => skipDeclaration? t
  | '?' :: _ => skipDeclaration? t
  | _ => skipTag? t

/-- The elements whose blocks of HTML go up to their end tags. -/
def verbatimElements : List Text := ["pre", "style", "script", "textarea"].map String.toList

/-- The elements whose tags start a block of HTML that goes up to a blank line. -/
def blockElements : List Text :=
  ["address", "article", "aside", "base", "basefont", "blockquote", "body", "caption", "center", "col",
    "colgroup", "dd", "details", "dialog", "dir", "div", "dl", "dt", "fieldset", "figcaption", "figure",
    "footer", "form", "frame", "frameset", "h1", "h2", "h3", "h4", "h5", "h6", "head", "header", "hr",
    "html", "iframe", "legend", "li", "link", "main", "menu", "menuitem", "nav", "noframes", "ol",
    "optgroup", "option", "p", "param", "search", "section", "summary", "table", "tbody", "td", "tfoot",
    "th", "thead", "title", "tr", "track", "ul"].map String.toList

inductive HtmlEnd where
  | line (ending : Text)
  | blankLine
deriving DecidableEq, Inhabited

def closingText? (t : Text) : Option Text :=
  let name := t.takeWhile Char.isAlpha
  let rest := t.dropWhile Char.isAlpha
  if Text.asciiLower name ∈ verbatimElements && rest.head?.all fun c => isSpace c || c = '>' then
    some ("</".toList ++ Text.asciiLower name ++ ['>'])
  else
    match t with
    | '!' :: '-' :: '-' :: _ => some "-->".toList
    | '?' :: _ => some "?>".toList
    | '!' :: t =>
      if Text.startsWith "[CDATA[".toList t then some "]]>".toList
      else if t.head?.any Char.isAlpha then some ['>'] else none
    | _ => none

def startsBlockTag (t : Text) : Bool :=
  let t := (Text.dropPrefix? ['/'] t).getD t
  let rest := t.dropWhile Unicode.isAsciiAlphanumeric
  Text.asciiLower (t.takeWhile Unicode.isAsciiAlphanumeric) ∈ blockElements &&
    (rest.head?.all (fun c => c = ' ' || c = '\t' || c = '>') || Text.startsWith "/>".toList rest)

/-- The end of a block of HTML that starts with a line. Where it may not interrupt a paragraph, a line
with any one tag starts a block too. -/
def htmlEnd? (interrupting : Bool) (line : Text) : Option HtmlEnd :=
  match line with
  | '<' :: t =>
    match closingText? t with
    | some ending => some (.line ending)
    | none =>
      if startsBlockTag t || (!interrupting && (skipTag? t).any (·.all isLineSpace)) then
        some .blankLine
      else none
  | _ => none

end Folio.Markdown
