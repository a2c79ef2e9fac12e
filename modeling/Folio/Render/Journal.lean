import Folio.Log
import Folio.Render.Basic

/-!
# The journal as a log

What the log says about the events of a run.
-/

namespace Folio.Render

open Markup

def calleeName : Callee → String
  | .tool => "tool"
  | .extension => "extension"

def Event.entry : Event → Log.Entry
  | .called callee name options =>
    ⟨calleeName callee, name ++ ' ' :: Options.compact options, true⟩
  | .unknownName callee name =>
    ⟨calleeName callee,
      "no ".toList ++ (calleeName callee).toList ++ " named `".toList ++ name ++ ['`'], true⟩
  | .optionsRejected rejection => ⟨"options", rejection.message, true⟩
  | .absoluteSkipped path => ⟨"include", "skipped absolute path ".toList ++ path, true⟩
  | .missingSkipped path => ⟨"include", "skipped missing ".toList ++ path, true⟩
  | .unreadableSkipped path cause =>
    ⟨"include", "cannot read ".toList ++ path ++ ": ".toList ++ cause.message.toList, false⟩
  | .included path _ => ⟨"include", path, true⟩

end Folio.Render
