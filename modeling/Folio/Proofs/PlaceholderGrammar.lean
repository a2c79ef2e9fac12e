import Folio.Proofs.Braces
import Folio.Proofs.CharacterClasses
import Folio.Proofs.TextCuts

/-!
# The grammar of placeholders

What a complete placeholder is, is said by a grammar that does not mention the scanner. With the usual
delimiters and keywords, a reader that is at a placeholder reads it and nothing else, so the token and
the end of a placeholder are determined by where it starts.
-/

namespace Folio.Markup

open Text (IsBlanks)

def IsName (t : Text) : Prop := t ≠ [] ∧ ∀ c ∈ t, isNameChar c = true

instance (t : Text) : Decidable (IsName t) :=
  decidable_of_iff (t ≠ [] ∧ t.all isNameChar = true) (and_congr_right fun _ => List.all_eq_true)

inductive Announces (s : Syntax) : Text → Kind → Prop where
  | site : Announces s s.siteWord (.field .site)
  | page : Announces s s.pageWord (.field .page)
  | tool : Announces s s.toolWord (.call .tool)
  | extension : Announces s s.extensionWord (.call .extension)
  | inclusion : Announces s s.includeWord .inclusion

inductive Body (s : Syntax) : Kind → Token → Text → Prop where
  | field {scope : Scope} {name : Text} : IsName name → Body s (.field scope) (.field scope name) name
  | call {callee : Callee} {name before after : Text} {payload : Option Text} : IsName name →
      IsBlanks before → (∀ p ∈ payload, IsPayload p) → IsBlanks after →
      Body s (.call callee) (.call callee name payload) (name ++ before ++ payload.getD [] ++ after)
  | inclusion {text : Text} : Text.IsFirst s.closing text → Text.trim text ≠ [] →
      '\n' ∉ Text.trim text → Body s .inclusion (.inclusion (Text.trim text)) text

/-- A text that reads as one complete placeholder with a token. -/
def Placeholder (s : Syntax) (token : Token) (raw : Text) : Prop :=
  ∃ keyword kind body, Announces s keyword kind ∧ Body s kind token body ∧
    raw = s.start keyword ++ body ++ s.closing

/-! ## Runs -/

theorem takeName?_eq_some_iff {t name rest : Text} :
    takeName? t = some (name, rest) ↔
      t = name ++ rest ∧ IsName name ∧ Text.HeadAvoids isNameChar rest := by
  constructor
  · intro h
    simp only [takeName?] at h
    split at h
    · cases h
    · rename_i hne
      obtain ⟨rfl, rfl⟩ : t.takeWhile isNameChar = name ∧ t.dropWhile isNameChar = rest := by
        simpa using h
      exact ⟨List.takeWhile_append_dropWhile.symm, ⟨hne, fun _ hc => List.mem_takeWhile_imp hc⟩,
        Text.headAvoids_dropWhile _ _⟩
  · rintro ⟨rfl, ⟨hne, hname⟩, hrest⟩
    simp only [takeName?, Text.takeWhile_run hname hrest, Text.dropWhile_run hname hrest, if_neg hne]

theorem IsPayload.headAvoids {p : Text} (h : IsPayload p) (rest : Text) {class' : Char → Bool}
    (hc : class' '{' = false) : Text.HeadAvoids class' (p ++ rest) := by
  cases p with
  | nil => simpa using h.opens
  | cons c p =>
    obtain rfl : c = '{' := by simpa using h.opens
    simpa using hc

theorem takePayload?_none {t : Text} (h : t.head? ≠ some '{') : takePayload? t = some (none, t) := by
  unfold takePayload?
  split
  · simp at h
  · rfl

theorem takePayload?_some {p rest : Text} (h : IsPayload p) :
    takePayload? (p ++ rest) = some (some p, Text.trimStart rest) := by
  have hread := takeBraced?_of_isPayload h rest
  cases p with
  | nil => simpa using h.opens
  | cons c p =>
    obtain rfl : c = '{' := by simpa using h.opens
    simp only [List.cons_append] at hread ⊢
    rw [takePayload?, hread]
    rfl

theorem eq_of_takePayload? {t rest : Text} {payload : Option Text}
    (h : takePayload? t = some (payload, rest)) :
    (payload = none ∧ t = rest) ∨
      ∃ p left, payload = some p ∧ IsPayload p ∧ t = p ++ left ∧ rest = Text.trimStart left := by
  unfold takePayload? at h
  split at h
  · obtain ⟨⟨p, left⟩, hp, heq⟩ := Option.map_eq_some_iff.1 h
    obtain ⟨rfl, rfl⟩ : some p = payload ∧ Text.trimStart left = rest := by simpa using heq
    obtain ⟨ht, hpayload⟩ := takeBraced?_eq_some_iff.1 hp
    exact .inr ⟨p, left, rfl, hpayload, ht, rfl⟩
  · obtain ⟨rfl, rfl⟩ : none = payload ∧ t = rest := by simpa using h
    exact .inl ⟨rfl, rfl⟩

/-! ## Bodies -/

/-- What follows a body cannot be taken for a part of it. -/
structure EndsBody (t : Text) : Prop where
  name : Text.HeadAvoids isNameChar t
  blank : Text.HeadAvoids Unicode.isBlank t
  brace : t.head? ≠ some '{'

theorem endsBody_closing (rest : Text) : EndsBody (Syntax.closing {} ++ rest) := by
  refine ⟨Text.headAvoids_cons.2 (by decide), Text.headAvoids_cons.2 (by decide), ?_⟩
  change some '}' ≠ some '{'
  decide

theorem EndsBody.afterBlanks {blanks t : Text} (h : EndsBody t) (hblanks : IsBlanks blanks) :
    Text.HeadAvoids isNameChar (blanks ++ t) :=
  Text.headAvoids_run (fun c hc => Unicode.isNameChar_of_isBlank (hblanks c hc)) h.name

theorem IsPayload.endsBlanks {p blanks : Text} (h : IsPayload p) (hblanks : IsBlanks blanks)
    (t : Text) : Text.HeadAvoids isNameChar (blanks ++ (p ++ t)) :=
  Text.headAvoids_run (fun c hc => Unicode.isNameChar_of_isBlank (hblanks c hc)) (h.headAvoids t (by decide))

theorem readBody?_field {s : Syntax} {name rest : Text} (scope : Scope) (hname : IsName name)
    (hend : EndsBody (s.closing ++ rest)) :
    readBody? s (.field scope) (name ++ (s.closing ++ rest)) = some (.field scope name, rest) := by
  have htake : takeName? (name ++ (s.closing ++ rest)) = some (name, s.closing ++ rest) :=
    takeName?_eq_some_iff.2 ⟨rfl, hname, hend.name⟩
  simp only [readBody?, htake, Text.dropPrefix?_append, Option.bind_eq_bind, Option.bind_some,
    Option.pure_def]

theorem readBody?_call {s : Syntax} {name blanks rest : Text} (callee : Callee) (hname : IsName name)
    (hblanks : IsBlanks blanks) (hend : EndsBody (s.closing ++ rest)) :
    readBody? s (.call callee) (name ++ (blanks ++ (s.closing ++ rest))) =
      some (.call callee name none, rest) := by
  have htake : takeName? (name ++ (blanks ++ (s.closing ++ rest))) =
      some (name, blanks ++ (s.closing ++ rest)) :=
    takeName?_eq_some_iff.2 ⟨rfl, hname, hend.afterBlanks hblanks⟩
  have htrim := Text.trimStart_blanks_append hblanks hend.blank
  simp only [readBody?, htake, htrim, takePayload?_none hend.brace, Text.dropPrefix?_append,
    Option.bind_eq_bind, Option.bind_some, Option.pure_def]

theorem readBody?_callWith {s : Syntax} {name before payload after rest : Text} (callee : Callee)
    (hname : IsName name) (hbefore : IsBlanks before) (hpayload : IsPayload payload)
    (hafter : IsBlanks after) (hend : EndsBody (s.closing ++ rest)) :
    readBody? s (.call callee) (name ++ (before ++ (payload ++ (after ++ (s.closing ++ rest))))) =
      some (.call callee name (some payload), rest) := by
  have htake : takeName? (name ++ (before ++ (payload ++ (after ++ (s.closing ++ rest))))) =
      some (name, before ++ (payload ++ (after ++ (s.closing ++ rest)))) :=
    takeName?_eq_some_iff.2 ⟨rfl, hname, hpayload.endsBlanks hbefore _⟩
  have htrim : Text.trimStart (before ++ (payload ++ (after ++ (s.closing ++ rest)))) =
      payload ++ (after ++ (s.closing ++ rest)) :=
    Text.trimStart_blanks_append hbefore (hpayload.headAvoids _ (by decide))
  have htake' : takePayload? (payload ++ (after ++ (s.closing ++ rest))) =
      some (some payload, s.closing ++ rest) := by
    rw [takePayload?_some hpayload, Text.trimStart_blanks_append hafter hend.blank]
  simp only [readBody?, htake, htrim, htake', Text.dropPrefix?_append, Option.bind_eq_bind,
    Option.bind_some, Option.pure_def]

theorem readBody?_of_body {s : Syntax} {kind : Kind} {token : Token} {body rest : Text}
    (h : Body s kind token body) (hend : EndsBody (s.closing ++ rest)) :
    readBody? s kind (body ++ s.closing ++ rest) = some (token, rest) := by
  cases h with
  | field hname =>
    rw [List.append_assoc]
    exact readBody?_field _ hname hend
  | @call callee name before after payload hname hbefore hpayload hafter =>
    cases payload with
    | none =>
      have hblanks : IsBlanks (before ++ after) := by
        intro c hc
        exact (List.mem_append.1 hc).elim (hbefore c) (hafter c)
      simpa using readBody?_call callee hname hblanks hend
    | some payload =>
      simpa using readBody?_callWith callee hname hbefore (hpayload payload rfl) hafter hend
  | inclusion hfirst hne hline =>
    simp only [readBody?, Text.cut?_of_isFirst rest hfirst, Option.bind_eq_bind, Option.bind_some]
    rw [if_neg]
    simpa using ⟨hne, hline⟩

theorem body_of_readBody? {s : Syntax} {kind : Kind} {token : Token} {t rest : Text}
    (h : readBody? s kind t = some (token, rest)) :
    ∃ body, Body s kind token body ∧ t = body ++ s.closing ++ rest := by
  cases kind with
  | field scope =>
    simp only [readBody?, Option.bind_eq_bind, Option.bind_eq_some_iff, Option.pure_def,
      Option.some.injEq, Prod.mk.injEq, Prod.exists] at h
    obtain ⟨name, u, htake, v, hclose, rfl, rfl⟩ := h
    obtain ⟨rfl, hname, -⟩ := takeName?_eq_some_iff.1 htake
    obtain rfl := Text.dropPrefix?_eq_some_iff.1 hclose
    exact ⟨name, .field hname, by simp⟩
  | call callee =>
    simp only [readBody?, Option.bind_eq_bind, Option.bind_eq_some_iff, Option.pure_def,
      Option.some.injEq, Prod.mk.injEq, Prod.exists] at h
    obtain ⟨name, u, htake, payload, v, hpayload, w, hclose, rfl, rfl⟩ := h
    obtain ⟨rfl, hname, -⟩ := takeName?_eq_some_iff.1 htake
    obtain rfl := Text.dropPrefix?_eq_some_iff.1 hclose
    obtain ⟨before, hbefore, hu, -⟩ := Text.exists_blanks_append_trimStart u
    rcases eq_of_takePayload? hpayload with ⟨rfl, heq⟩ | ⟨p, left, rfl, hp, heq, hleft⟩
    · refine ⟨name ++ before ++ [] ++ [], .call hname hbefore (by simp) (by simp [IsBlanks]), ?_⟩
      rw [hu, heq]
      simp
    · obtain ⟨after, hafter, ha, -⟩ := Text.exists_blanks_append_trimStart left
      refine ⟨name ++ before ++ p ++ after, .call hname hbefore (by simpa using hp) hafter, ?_⟩
      rw [hu, heq, ha, ← hleft]
      simp
  | inclusion =>
    simp only [readBody?, Option.bind_eq_bind, Option.bind_eq_some_iff, Prod.exists] at h
    obtain ⟨text, r, hcut, h⟩ := h
    obtain ⟨rfl, hfirst⟩ := Text.cut?_eq_some_iff.1 hcut
    split at h
    · cases h
    · rename_i hpath
      obtain ⟨rfl, rfl⟩ : Token.inclusion (Text.trim text) = token ∧ r = rest := by simpa using h
      have hpath' : Text.trim text ≠ [] ∧ '\n' ∉ Text.trim text := by simpa using hpath
      exact ⟨text, .inclusion hfirst hpath'.1 hpath'.2, rfl⟩

/-! ## Placeholders -/

theorem mem_keywords_iff {s : Syntax} {keyword : Text} {kind : Kind} :
    (keyword, kind) ∈ s.keywords ↔ Announces s keyword kind := by
  constructor
  · intro h
    simp only [Syntax.keywords, List.mem_cons, List.not_mem_nil, or_false, Prod.mk.injEq] at h
    rcases h with ⟨rfl, rfl⟩ | ⟨rfl, rfl⟩ | ⟨rfl, rfl⟩ | ⟨rfl, rfl⟩ | ⟨rfl, rfl⟩
    · exact .site
    · exact .page
    · exact .tool
    · exact .extension
    · exact .inclusion
  · intro h
    cases h <;> simp [Syntax.keywords]

theorem start?_of_announces {keyword : Text} {kind : Kind} (h : Announces {} keyword kind) (t : Text) :
    start? {} (Syntax.start {} keyword ++ t) = some (Syntax.start {} keyword, kind, t) := by
  cases h <;> rfl

def placeholder? (s : Syntax) (t : Text) : Option (Token × Text) :=
  (start? s t).bind fun start => readBody? s start.2.1 start.2.2

theorem placeholder_of_placeholder? {s : Syntax} {t rest : Text} {token : Token}
    (h : placeholder? s t = some (token, rest)) :
    ∃ raw, Placeholder s token raw ∧ t = raw ++ rest := by
  obtain ⟨⟨start, kind, u⟩, hstart, hread⟩ := Option.bind_eq_some_iff.1 h
  obtain ⟨rfl, keyword, hkeyword, rfl⟩ := eq_of_startAmong? hstart
  obtain ⟨body, hbody, heq⟩ := body_of_readBody? hread
  obtain rfl : u = body ++ s.closing ++ rest := heq
  exact ⟨_, ⟨keyword, kind, body, mem_keywords_iff.1 hkeyword, hbody, rfl⟩, by simp⟩

theorem placeholder?_of_placeholder {token : Token} {raw : Text} (h : Placeholder {} token raw)
    (rest : Text) : placeholder? {} (raw ++ rest) = some (token, rest) := by
  obtain ⟨keyword, kind, body, hkeyword, hbody, rfl⟩ := h
  have hstart := start?_of_announces hkeyword (body ++ Syntax.closing {} ++ rest)
  rw [placeholder?, List.append_assoc, List.append_assoc, ← List.append_assoc body, hstart]
  exact readBody?_of_body hbody (endsBody_closing rest)

/-- Where one usual placeholder stands, there is no other one. -/
theorem Placeholder.unique {token token' : Token} {raw raw' rest rest' : Text}
    (h : Placeholder {} token raw) (h' : Placeholder {} token' raw') (heq : raw ++ rest = raw' ++ rest') :
    token = token' ∧ raw = raw' ∧ rest = rest' := by
  have hread := placeholder?_of_placeholder h rest
  rw [heq, placeholder?_of_placeholder h' rest'] at hread
  obtain ⟨rfl, rfl⟩ : token' = token ∧ rest' = rest := by simpa using hread
  exact ⟨rfl, List.append_cancel_right heq, rfl⟩

theorem Placeholder.ne_nil {s : Syntax} {token : Token} {raw : Text} (h : Placeholder s token raw) :
    raw ≠ [] := by
  obtain ⟨keyword, kind, body, -, -, rfl⟩ := h
  have hstart := s.length_start_pos keyword
  intro hnil
  have hl := congrArg List.length hnil
  simp only [List.length_append, List.length_nil] at hl
  omega

end Folio.Markup
