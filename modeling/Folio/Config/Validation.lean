import Folio.Config.Basic

/-!
# Valid configurations

Separators, delimiters and keywords have to be there and have to be told apart. The first flaw in a
fixed order is reported.
-/

namespace Folio.Config

inductive Flaw where
  | empty
  | notOneCharacter
  | holdsBlockSeparator
  | equalsOpening
  | notAWord
  /-- The keyword is that of another setting. -/
  | taken (keyword : Text) (other : String)
  | zeroDepth
deriving DecidableEq, Inhabited

def Flaw.message : Flaw → Text
  | .empty => "must not be empty".toList
  | .notOneCharacter => "must be a single character".toList
  | .holdsBlockSeparator => "must not contain [parse.block_separator]".toList
  | .equalsOpening => "must differ from [markup.open]".toList
  | .notAWord => "must be a non-empty word".toList
  | .taken keyword other =>
    '`' :: keyword ++ "` is already used by [markup.".toList ++ other.toList ++ [']']
  | .zeroDepth => "must be at least 1".toList

structure Invalid where
  field : String
  flaw : Flaw
deriving DecidableEq, Inhabited

def Invalid.message (invalid : Invalid) : Text :=
  invalid.field.toList ++ ' ' :: invalid.flaw.message

def require (condition : Bool) (field : String) (flaw : Flaw) : Except Invalid Unit :=
  if condition then .ok () else .error ⟨field, flaw⟩

def isKeyword (word : Text) : Bool := word ≠ [] && word.all fun c => Unicode.isAlphanumeric c || c = '_'

def namedKeywords (s : Markup.Syntax) : List (String × Text) :=
  [("site", s.siteWord), ("page", s.pageWord), ("tool", s.toolWord),
    ("extension", s.extensionWord), ("include", s.includeWord)]

/-- Requires that keywords are words and differ from each other and from those in `earlier`. -/
def validateKeywords (earlier : List (String × Text)) :
    List (String × Text) → Except Invalid Unit
  | [] => .ok ()
  | (name, keyword) :: keywords => do
    let field := "[markup." ++ name ++ "]"
    require (isKeyword keyword) field .notAWord
    match earlier.find? (·.2 = keyword) with
    | some (other, _) => .error ⟨field, .taken keyword other⟩
    | none => validateKeywords (earlier ++ [(name, keyword)]) keywords

def validate (config : Config) : Except Invalid Unit := do
  let content := config.content
  require (content.blockSeparator ≠ []) "[parse.block_separator]" .empty
  require (content.pairSeparator ≠ []) "[parse.pair_separator]" .empty
  require (content.listSeparator ≠ []) "[parse.list_separator]" .empty
  require (content.blockSeparator.length = 1) "[parse.block_separator]" .notOneCharacter
  require (!Text.contains content.blockSeparator content.pairSeparator) "[parse.pair_separator]"
    .holdsBlockSeparator
  let markup := config.markup
  require (markup.opening ≠ []) "[markup.open]" .empty
  require (markup.closing ≠ []) "[markup.close]" .empty
  require (markup.opening ≠ markup.closing) "[markup.close]" .equalsOpening
  validateKeywords [] (namedKeywords markup)
  require (config.render.maxIncludeDepth ≠ 0) "[render.max_include_depth]" .zeroDepth

end Folio.Config
