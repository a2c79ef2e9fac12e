import Folio.Json.Printer
import Folio.Proofs.JsonNumbers
import Folio.Proofs.ValidSyntax

/-!
# Printed objects as payloads

The reader of payloads keeps to a grammar of its own, in which strings have two kinds of quotes and a backslash
takes any character with it. In what the JSON printer writes it still finds every string where it ends and
every brace with its partner, so a printed object is one payload, whatever its strings hold.
-/

namespace Folio.Markup

open Json (compact compactItems compactMembers quote escapeChar hexDigit isNumberChar)

/-- Inside braces the reader of payloads goes over a text and comes back to where it was. -/
def Passes (t : Text) : Prop :=
  ∀ depth rest, 1 ≤ depth →
    takeBraced? .plain depth (t ++ rest) = (takeBraced? .plain depth rest).map fun r => (t ++ r.1, r.2)

def isNeutral (c : Char) : Bool := c ≠ '\'' && c ≠ '"' && c ≠ '\x7b' && c ≠ '\x7d'

variable {t u inside : Text} {c q : Char}

theorem Passes.nil : Passes [] := by
  intro depth rest hdepth
  simp

theorem Passes.append (ht : Passes t) (hu : Passes u) : Passes (t ++ u) := by
  intro depth rest hdepth
  rw [List.append_assoc, ht depth _ hdepth, hu depth _ hdepth, Option.map_map]
  simp [Function.comp_def]

theorem Passes.char (hc : isNeutral c = true) : Passes [c] := by
  intro depth rest hdepth
  obtain ⟨⟨⟨hs, hd⟩, hopen⟩, hclose⟩ : ((c ≠ '\'' ∧ c ≠ '"') ∧ c ≠ '{') ∧ c ≠ '}' := by
    simpa [isNeutral] using hc
  have hnext : Mode.next .plain c = .plain := Mode.next_plain_eq_plain_iff.2 ⟨hs, hd⟩
  rw [List.singleton_append, takeBraced?, if_neg, hnext]
  · simp [Mode.depth, hopen, hclose]
  · simp [hclose]

theorem Passes.of_forall (h : ∀ c ∈ t, isNeutral c = true) : Passes t := by
  induction t with
  | nil => exact .nil
  | cons c t ih =>
    obtain ⟨hc, ht⟩ := List.forall_mem_cons.1 h
    exact (Passes.char hc).append (ih ht)

theorem takeBraced?_inside (h : Inside q inside) (hq : q ≠ '\\') (depth : Nat) (rest : Text) :
    takeBraced? (.quoted q) depth (inside ++ q :: rest) =
      (takeBraced? .plain depth rest).map fun r => (inside ++ q :: r.1, r.2) := by
  induction h with
  | nil => simp [takeBraced?, Mode.next, Mode.depth, hq]
  | char hc hb _ ih => simp [takeBraced?, Mode.next, Mode.depth, hc, hb, ih, Function.comp_def]
  | escape _ ih => simp [takeBraced?, Mode.next, Mode.depth, ih, Function.comp_def]

theorem Passes.string (h : Inside '"' inside) : Passes ('"' :: inside ++ ['"']) := by
  intro depth rest hdepth
  have hinside := takeBraced?_inside h (by decide) depth rest
  rw [List.append_assoc, List.cons_append, takeBraced?, if_neg (by simp), Mode.next_plain_quote (.inr rfl)]
  simp [Mode.depth, hinside, Function.comp_def]

theorem Passes.braces (h : Passes t) : Passes ('{' :: t ++ ['}']) := by
  intro depth rest hdepth
  have ht := h (depth + 1) ('}' :: rest) (by omega)
  have hclose : takeBraced? .plain (depth + 1) ('}' :: rest) =
      (takeBraced? .plain depth rest).map fun r => ('}' :: r.1, r.2) := by
    rw [takeBraced?, if_neg]
    · rfl
    · simpa using Nat.ne_of_gt hdepth
  rw [List.append_assoc, List.cons_append, takeBraced?, if_neg (by simp)]
  simp [Mode.next, Mode.depth, ht, hclose, Function.comp_def]

/-- What stands in braces of its own is a payload. -/
theorem Passes.isPayload (h : Passes t) : IsPayload ('{' :: t ++ ['}']) := by
  have hread : takeBraced? .plain 0 ('{' :: (t ++ ['}'])) = some ('{' :: (t ++ ['}']), []) := by
    rw [takeBraced?_brace, h 1 ['}'] (Nat.le_refl 1)]
    rfl
  exact isPayload_of_takeBraced? hread

/-! ## What the printer writes -/

theorem isNeutral_of_isNumberChar (h : isNumberChar c = true) : isNeutral c = true := by
  rw [isNeutral, Bool.and_eq_true, Bool.and_eq_true, Bool.and_eq_true]
  refine ⟨⟨⟨?_, ?_⟩, ?_⟩, ?_⟩ <;>
  · rw [decide_eq_true_iff]
    rintro rfl
    exact absurd h (by decide)

theorem hexDigit_ne (n : Nat) : hexDigit n ≠ '"' ∧ hexDigit n ≠ '\\' := by
  have hdigits : ("0123456789abcdef".toList.all fun c => c ≠ '"' && c ≠ '\\') = true := rfl
  rw [hexDigit, List.getD_eq_getElem?_getD]
  cases hc : "0123456789abcdef".toList[n]? with
  | none => decide
  | some c => simpa using List.all_eq_true.1 hdigits c (List.mem_of_getElem? hc)

theorem inside_escapeChar (h : Inside '"' inside) (c : Char) : Inside '"' (escapeChar c ++ inside) := by
  unfold escapeChar
  split
  · exact .escape h
  · exact .escape h
  · exact .escape h
  · exact .escape h
  · exact .escape h
  · exact .escape h
  · exact .escape h
  · rename_i hd hb _ _ _ _ _
    split
    · exact .escape (.char (by decide) (by decide) (.char (by decide) (by decide)
        (.char (hexDigit_ne _).1 (hexDigit_ne _).2 (.char (hexDigit_ne _).1 (hexDigit_ne _).2 h))))
    · exact .char hd hb h

theorem Passes.quote (s : Text) : Passes (quote s) := by
  apply Passes.string
  induction s with
  | nil => exact .nil
  | cons c s ih =>
    rw [List.flatMap_cons]
    exact inside_escapeChar ih c

theorem passes_numberText (n : Number) : Passes (Json.numberText n) :=
  .of_forall fun c hc => isNeutral_of_isNumberChar (Json.isNumberChar_of_mem_numberText c hc)

theorem Passes.mark (ht : Passes t) (hc : isNeutral c = true) (hu : Passes u) : Passes (t ++ c :: u) :=
  ht.append ((Passes.char hc).append hu)

mutual

theorem passes_compact : (json : Json) → Passes (compact json)
  | .null | .bool true | .bool false => by
    rw [compact]
    exact .of_forall (List.all_eq_true.1 rfl)
  | .number n => by
    rw [compact]
    exact passes_numberText n
  | .string s => by
    rw [compact]
    exact .quote s
  | .array items => by
    rw [compact]
    have hitems := Passes.nil.mark (c := '[') (by decide) (passes_compactItems items)
    exact hitems.mark (by decide) .nil
  | .object members => by
    rw [compact]
    exact (passes_compactMembers members).braces

theorem passes_compactItems : (items : List Json) → Passes (compactItems items)
  | [] => .nil
  | [item] => by
    rw [compactItems]
    exact passes_compact item
  | item :: next :: items => by
    rw [compactItems]
    · exact (passes_compact item).mark (by decide) (passes_compactItems (next :: items))
    · simp

theorem passes_compactMembers : (members : List (Text × Json)) → Passes (compactMembers members)
  | [] => .nil
  | [(name, value)] => by
    rw [compactMembers]
    exact (Passes.quote name).mark (by decide) (passes_compact value)
  | (name, value) :: next :: members => by
    rw [compactMembers]
    · exact ((Passes.quote name).mark (by decide) (passes_compact value)).mark (by decide)
        (passes_compactMembers (next :: members))
    · simp

end

theorem isPayload_compact (members : List (Text × Json)) : IsPayload (compact (.object members)) := by
  rw [compact]
  exact (passes_compactMembers members).isPayload

/-! ## Calls -/

theorem scan_write_callWith {s : Syntax} (hs : s.Unambiguous) {keyword name before payload after rest : Text}
    {callee : Callee} (hkeyword : (keyword, .call callee) ∈ s.keywords) (hname : IsName name)
    (hbefore : Text.IsBlanks before) (hpayload : IsPayload payload) (hafter : Text.IsBlanks after)
    (hend : EndsBody (s.closing ++ rest)) :
    let raw := s.write keyword (name ++ before ++ payload ++ after)
    scan s (raw ++ rest) = .placeholder (.call callee name (some payload)) raw :: scan s rest := by
  intro raw
  have hread : placeholder? s (raw ++ rest) = some (.call callee name (some payload), rest) := by
    have hraw : raw ++ rest =
        s.start keyword ++ (name ++ (before ++ (payload ++ (after ++ (s.closing ++ rest))))) := by
      simp [raw, Syntax.write]
    rw [placeholder?, hraw, hs.start? hkeyword, Option.bind_some]
    exact readBody?_callWith callee hname hbefore hpayload hafter hend
  obtain ⟨raw', hraw', hscan⟩ := scan_of_placeholder? hread
  obtain rfl : raw = raw' := List.append_cancel_right hraw'
  exact hscan

/-- With the usual delimiters and keywords, a call with a printed object is read whole, whatever the strings
of the object hold and whatever follows the call. -/
theorem scan_call_compact {keyword name before after : Text} {callee : Callee}
    (hkeyword : Announces {} keyword (.call callee)) (hname : IsName name)
    (hbefore : Text.IsBlanks before) (hafter : Text.IsBlanks after) (members : List (Text × Json))
    (rest : Text) :
    let payload := compact (.object members)
    let raw := Syntax.write {} keyword (name ++ before ++ payload ++ after)
    scan {} (raw ++ rest) = .placeholder (.call callee name (some payload)) raw :: scan {} rest := by
  have hvalid : Config.validate {} = .ok () := rfl
  have hs : Syntax.Unambiguous {} := .of_validate hvalid
  exact scan_write_callWith hs (mem_keywords_iff.2 hkeyword) hname hbefore (isPayload_compact members) hafter
    (endsBody_closing rest)

/-- Strings with unmatched braces, both quotes, a backslash at their end and a placeholder. -/
theorem scan_call_compact_braces :
    let members := [("\"\x7d'".toList, Json.string "\x7b \\".toList),
      ("a".toList, .array [.object [("b".toList, .string "\x7b\x7btool:c\x7d\x7d".toList)], .null])]
    let before := [' ', '\n']
    let after := ['\t']
    let name := "card-1.x_y".toList
    let rest := "\x7d\x7d \" \x7b\x7bsite:title\x7d\x7d".toList
    let payload := compact (.object members)
    let raw := Syntax.write {} "tool".toList (name ++ before ++ payload ++ after)
    Announces {} "tool".toList (.call .tool) ∧ IsName name ∧ Text.IsBlanks before ∧
      Text.IsBlanks after ∧
      payload = "\x7b\"\\\"\x7d'\":\"\x7b \\\\\",\"a\":[\x7b\"b\":\"\x7b\x7btool:c\x7d\x7d\"\x7d,null]\x7d".toList ∧
      scan {} (raw ++ rest) = .placeholder (.call .tool name (some payload)) raw :: scan {} rest := by
  intro members before after name rest payload raw
  have hkeyword : Announces {} "tool".toList (.call .tool) := .tool
  have hname : IsName name := by decide
  have hbefore : Text.IsBlanks before := List.all_eq_true.1 rfl
  have hafter : Text.IsBlanks after := List.all_eq_true.1 rfl
  exact ⟨hkeyword, hname, hbefore, hafter, by decide +kernel,
    scan_call_compact hkeyword hname hbefore hafter members rest⟩

end Folio.Markup
