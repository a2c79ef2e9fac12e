import Folio.Text.Basic

/-!
# Documents

A document is a sequence of blocks. Blocks that hold running text take its type as a parameter: while
the blocks are being found the running text is plain, and later it is read as inlines.
-/

namespace Folio.Markdown

inductive Inline where
  | text (t : Text)
  | code (t : Text)
  | html (t : Text)
  | softBreak
  | hardBreak
  | emphasis (content : List Inline)
  | strong (content : List Inline)
  | deletion (content : List Inline)
  | link (destination title : Text) (content : List Inline)
  | image (destination title : Text) (content : List Inline)
  | footnote (label : Text)
deriving Inhabited

inductive Alignment where
  | unset
  | left
  | center
  | right
deriving DecidableEq, Inhabited

structure Attributes where
  id : Option Text := none
  classes : List Text := []
  others : List (Text × Text) := []
deriving DecidableEq, Inhabited

inductive Block (α : Type) where
  | paragraph (content : α)
  | heading (level : Nat) (attributes : Attributes) (content : α)
  | code (language : Text) (t : Text)
  | html (t : Text)
  | rule
  | quote (blocks : List (Block α))
  /-- A list is ordered if it has a start. In a tight list the paragraphs of the items are bare. -/
  | list (start : Option Nat) (tight : Bool) (items : List (List (Block α)))
  | footnote (label : Text) (blocks : List (Block α))
  | table (columns : List Alignment) (head : List α) (rows : List (List α))
deriving Inhabited

namespace Block

variable {α β : Type}

mutual

def map (f : α → β) : Block α → Block β
  | .paragraph content => .paragraph (f content)
  | .heading level attributes content => .heading level attributes (f content)
  | .code language t => .code language t
  | .html t => .html t
  | .rule => .rule
  | .quote blocks => .quote (mapAll f blocks)
  | .list start tight items => .list start tight (mapItems f items)
  | .footnote label blocks => .footnote label (mapAll f blocks)
  | .table columns head rows => .table columns (head.map f) (rows.map (·.map f))

def mapAll (f : α → β) : List (Block α) → List (Block β)
  | [] => []
  | b :: bs => map f b :: mapAll f bs

def mapItems (f : α → β) : List (List (Block α)) → List (List (Block β))
  | [] => []
  | item :: items => mapAll f item :: mapItems f items

end

mutual

def footnoteLabels : Block α → List Text
  | .quote blocks => footnoteLabelsOfAll blocks
  | .list _ _ items => footnoteLabelsOfItems items
  | .footnote label blocks => label :: footnoteLabelsOfAll blocks
  | _ => []

def footnoteLabelsOfAll : List (Block α) → List Text
  | [] => []
  | b :: bs => footnoteLabels b ++ footnoteLabelsOfAll bs

def footnoteLabelsOfItems : List (List (Block α)) → List Text
  | [] => []
  | item :: items => footnoteLabelsOfAll item ++ footnoteLabelsOfItems items

end

end Block

end Folio.Markdown
