import Folio.Markup.Substitute
import Folio.Proofs.ValidSyntax

/-!
# Segments on their own

Scanning a template loses nothing, and what a segment is does not depend on its surroundings: the source of
one segment, scanned alone, is that segment again. A reader of bodies stops at a closing delimiter, so the
text behind the delimiter can be taken away or put back without any change of what was read. For literal text
this says that a placeholder that is incomplete in the whole template does not become complete by a cut.
-/

namespace Folio.Text

variable {p : Char → Bool} {t u rest : Text}

theorem headAvoids_append_iff (ht : t ≠ []) : HeadAvoids p (t ++ u) ↔ HeadAvoids p t := by
  cases t with
  | nil => exact absurd rfl ht
  | cons c t => simp

theorem trimStart_eq_iff :
    trimStart t = rest ↔ HeadAvoids Unicode.isBlank rest ∧ ∃ blanks, IsBlanks blanks ∧ t = blanks ++ rest := by
  constructor
  · rintro rfl
    obtain ⟨blanks, hblanks, ht, hrest⟩ := exists_blanks_append_trimStart t
    exact ⟨hrest, blanks, hblanks, ht⟩
  · rintro ⟨hrest, blanks, hblanks, rfl⟩
    exact trimStart_blanks_append hblanks hrest

theorem trimStart_append_iff (hrest : rest ≠ []) : trimStart (t ++ u) = rest ++ u ↔ trimStart t = rest := by
  simp only [trimStart_eq_iff, headAvoids_append_iff hrest, ← List.append_assoc, List.append_cancel_right_eq]

theorem cut?_append_iff {sep before : Text} :
    cut? sep (t ++ u) = some (before, rest ++ u) ↔ cut? sep t = some (before, rest) := by
  simp only [cut?_eq_some_iff, ← List.append_assoc, List.append_cancel_right_eq]

end Folio.Text

namespace Folio.Config

theorem closing_ne_nil_of_validate {config : Config} (h : config.validate = .ok ()) :
    config.markup.closing ≠ [] := by
  simp only [validate, require_bind_eq_ok_iff] at h
  obtain ⟨-, -, -, -, -, -, hclosing, -⟩ := h
  exact of_decide_eq_true hclosing

end Folio.Config

namespace Folio.Markup

variable {s : Syntax} {kind : Kind} {token : Token} {t u rest : Text}

/-! ## Readers and the text behind what they read -/

theorem takeName?_append_iff {name : Text} (hrest : rest ≠ []) :
    takeName? (t ++ u) = some (name, rest ++ u) ↔ takeName? t = some (name, rest) := by
  simp only [takeName?_eq_some_iff, Text.headAvoids_append_iff hrest, ← List.append_assoc,
    List.append_cancel_right_eq]

theorem takePayload?_append_iff {payload : Option Text} (hrest : rest ≠ []) :
    takePayload? (t ++ u) = some (payload, rest ++ u) ↔ takePayload? t = some (payload, rest) := by
  constructor
  · intro h
    cases payload with
    | none =>
      obtain ⟨heq, hbrace⟩ := takePayload?_eq_none_iff.1 h
      obtain rfl : t = rest := List.append_cancel_right heq
      exact takePayload?_none (by rwa [List.head?_append_of_ne_nil _ hrest] at hbrace)
    | some p =>
      rcases eq_of_takePayload? h with ⟨hnone, -⟩ | ⟨q, left, hq, hp, ht, hleft⟩
      · cases hnone
      · obtain rfl : p = q := Option.some.inj hq
        -- behind the payload there are blanks and then what is left
        obtain ⟨hhead, blanks, hblanks, rfl⟩ := Text.trimStart_eq_iff.1 hleft.symm
        rw [← List.append_assoc, ← List.append_assoc] at ht
        rw [List.append_cancel_right ht, List.append_assoc, takePayload?_some hp,
          Text.trimStart_blanks_append hblanks ((Text.headAvoids_append_iff hrest).1 hhead)]
  · intro h
    rcases eq_of_takePayload? h with ⟨rfl, rfl⟩ | ⟨p, left, rfl, hp, rfl, rfl⟩
    · obtain ⟨-, hbrace⟩ := takePayload?_eq_none_iff.1 h
      exact takePayload?_none (by rwa [List.head?_append_of_ne_nil _ hrest])
    · rw [List.append_assoc, takePayload?_some hp, (Text.trimStart_append_iff hrest).2 rfl]

/-- The same with the blanks in front of a payload. -/
theorem takePayload?_trimStart_append_iff {payload : Option Text} (hrest : rest ≠ []) :
    takePayload? (Text.trimStart (t ++ u)) = some (payload, rest ++ u) ↔
      takePayload? (Text.trimStart t) = some (payload, rest) := by
  constructor
  · intro h
    obtain ⟨w, hw⟩ := suffix_of_takePayload? h
    rw [← List.append_assoc] at hw
    have ht : Text.trimStart t = w ++ rest := (Text.trimStart_append_iff (by simp [hrest])).1 hw.symm
    rwa [← hw, takePayload?_append_iff hrest, ← ht] at h
  · intro h
    have ht : Text.trimStart t ≠ [] := (suffix_of_takePayload? h).ne_nil hrest
    rwa [(Text.trimStart_append_iff ht).2 rfl, takePayload?_append_iff hrest]

theorem readBody?_call_eq_some_iff {callee : Callee} :
    readBody? s (.call callee) t = some (token, rest) ↔
      ∃ name payload u, takeName? t = some (name, u) ∧
        takePayload? (Text.trimStart u) = some (payload, s.closing ++ rest) ∧
          token = .call callee name payload := by
  simp only [readBody?, Option.bind_eq_bind, Option.bind_eq_some_iff, Option.pure_def, Option.some.injEq,
    Prod.mk.injEq, Prod.exists, Text.dropPrefix?_eq_some_iff]
  constructor
  · rintro ⟨name, u, hname, payload, v, hpayload, w, rfl, rfl, rfl⟩
    exact ⟨name, payload, u, hname, hpayload, rfl⟩
  · rintro ⟨name, payload, u, hname, hpayload, rfl⟩
    exact ⟨name, u, hname, payload, _, hpayload, rest, rfl, rfl, rfl⟩

theorem readBody?_field_eq_some_iff {scope : Scope} :
    readBody? s (.field scope) t = some (token, rest) ↔
      ∃ name, takeName? t = some (name, s.closing ++ rest) ∧ token = .field scope name := by
  simp only [readBody?, Option.bind_eq_bind, Option.bind_eq_some_iff, Option.pure_def, Option.some.injEq,
    Prod.mk.injEq, Prod.exists, Text.dropPrefix?_eq_some_iff]
  constructor
  · rintro ⟨name, u, hname, v, rfl, rfl, rfl⟩
    exact ⟨name, hname, rfl⟩
  · rintro ⟨name, hname, rfl⟩
    exact ⟨name, _, hname, rest, rfl, rfl, rfl⟩

theorem readBody?_inclusion_eq_some_iff :
    readBody? s .inclusion t = some (token, rest) ↔
      ∃ body, Text.cut? s.closing t = some (body, rest) ∧ Text.trim body ≠ [] ∧ '\n' ∉ Text.trim body ∧
        token = .inclusion (Text.trim body) := by
  simp only [readBody?, Option.bind_eq_bind, Option.bind_eq_some_iff, Prod.exists]
  constructor
  · rintro ⟨body, after, hcut, h⟩
    split at h
    · cases h
    · rename_i hpath
      obtain ⟨rfl, rfl⟩ : Token.inclusion (Text.trim body) = token ∧ after = rest := by simpa using h
      have hpath' : Text.trim body ≠ [] ∧ '\n' ∉ Text.trim body := by simpa using hpath
      exact ⟨body, hcut, hpath'.1, hpath'.2, rfl⟩
  · rintro ⟨body, hcut, hne, hline, rfl⟩
    exact ⟨body, rest, hcut, by rw [if_neg (by simpa using ⟨hne, hline⟩)]⟩

/-- What stands behind the closing delimiter plays no part in reading a body. -/
theorem readBody?_append_iff (hclosing : s.closing ≠ []) :
    readBody? s kind (t ++ u) = some (token, rest ++ u) ↔ readBody? s kind t = some (token, rest) := by
  have hne : s.closing ++ rest ≠ [] := by simp [hclosing]
  cases kind with
  | field scope =>
    simp only [readBody?_field_eq_some_iff, ← List.append_assoc, takeName?_append_iff hne]
  | call callee =>
    simp only [readBody?_call_eq_some_iff, ← List.append_assoc]
    constructor
    · rintro ⟨name, payload, v, hname, hpayload, htoken⟩
      -- the text behind the delimiter is also behind the name
      obtain ⟨w, rfl⟩ : s.closing ++ rest ++ u <:+ v :=
        (suffix_of_takePayload? hpayload).trans (List.dropWhile_suffix _)
      rw [← List.append_assoc] at hname hpayload
      have hw : w ++ (s.closing ++ rest) ≠ [] := by simp [hclosing]
      exact ⟨name, payload, _, (takeName?_append_iff hw).1 hname,
        (takePayload?_trimStart_append_iff hne).1 hpayload, htoken⟩
    · rintro ⟨name, payload, v, hname, hpayload, htoken⟩
      have hv : v ≠ [] := ((suffix_of_takePayload? hpayload).trans (List.dropWhile_suffix _)).ne_nil hne
      exact ⟨name, payload, v ++ u, (takeName?_append_iff hv).2 hname,
        (takePayload?_trimStart_append_iff hne).2 hpayload, htoken⟩
  | inclusion => simp only [readBody?_inclusion_eq_some_iff, Text.cut?_append_iff]

/-! ## Starts and skipped text -/

theorem Syntax.Unambiguous.start?_append (hs : s.Unambiguous) {start : Text}
    (h : Markup.start? s t = some (start, kind, rest)) (u : Text) :
    Markup.start? s (t ++ u) = some (start, kind, rest ++ u) := by
  obtain ⟨rfl, keyword, hkeyword, rfl⟩ := eq_of_startAmong? h
  rw [List.append_assoc, hs.start? hkeyword]

/-- A placeholder is read from its own source. -/
theorem exists_placeholder?_alone (hs : s.Unambiguous) (hclosing : s.closing ≠ [])
    (h : placeholder? s t = some (token, rest)) :
    ∃ raw, t = raw ++ rest ∧ placeholder? s raw = some (token, []) := by
  obtain ⟨⟨start, kind, body⟩, hstart, hread⟩ := Option.bind_eq_some_iff.1 h
  obtain ⟨rfl, keyword, hkeyword, rfl⟩ := eq_of_startAmong? hstart
  obtain ⟨own, rfl⟩ := suffix_of_readBody? hread
  refine ⟨s.start keyword ++ own, by rw [List.append_assoc], ?_⟩
  rw [placeholder?, hs.start? hkeyword, Option.bind_some]
  exact (readBody?_append_iff hclosing).1 hread

theorem scan_of_start?_eq_none {c : Char} (h : start? s (c :: t) = none) :
    scan s (c :: t) = prependText [c] (scan s t) := by
  rw [scan]
  split
  · rfl
  · rename_i hstart
    cases h.symm.trans hstart

theorem scan_of_readBody?_eq_none {start body : Text} (h : start? s t = some (start, kind, body))
    (hread : readBody? s kind body = none) : scan s t = prependText start (scan s body) := by
  fun_cases scan s t with
  | case1 =>
    obtain ⟨hnil, keyword, -, rfl⟩ := eq_of_startAmong? h
    exact absurd (List.append_eq_nil_iff.1 hnil.symm).1 (by simp [Syntax.start])
  | case2 c t hstart => cases hstart.symm.trans h
  | case3 c t start' kind' body' hstart => cases hstart.symm.trans h; rfl
  | case4 c t start' kind' body' hstart hlt token after hread' =>
    cases hstart.symm.trans h
    cases hread.symm.trans hread'

/-- The steps of the scanner: a character where nothing starts, the start of a placeholder that is not
complete, and a placeholder. -/
@[elab_as_elim]
theorem scan_induct (s : Syntax) {motive : Text → Prop} (nil : motive [])
    (char : ∀ c t, start? s (c :: t) = none → scan s (c :: t) = prependText [c] (scan s t) →
      motive t → motive (c :: t))
    (unfinished : ∀ start kind body, start? s (start ++ body) = some (start, kind, body) →
      readBody? s kind body = none → scan s (start ++ body) = prependText start (scan s body) →
      motive body → motive (start ++ body))
    (placeholder : ∀ token raw rest, placeholder? s (raw ++ rest) = some (token, rest) →
      scan s (raw ++ rest) = .placeholder token raw :: scan s rest →
      motive rest → motive (raw ++ rest))
    (t : Text) : motive t := by
  fun_induction scan s t with
  | case1 => exact nil
  | case2 c t hstart ih => exact char c t hstart (scan_of_start?_eq_none hstart) ih
  | case3 c t start kind body hstart hlt hread ih =>
    have hscan := scan_of_readBody?_eq_none hstart hread
    obtain ⟨heq, -⟩ := eq_of_startAmong? hstart
    rw [heq] at hstart hscan ⊢
    exact unfinished start kind body hstart hread hscan ih
  | case4 c t start kind body hstart hlt token rest hread hle ih =>
    have hplaceholder : placeholder? s (c :: t) = some (token, rest) := by
      rw [placeholder?, hstart, Option.bind_some, hread]
    obtain ⟨raw, heq, hscan⟩ := scan_of_placeholder? hplaceholder
    rw [heq] at hplaceholder hscan ⊢
    exact placeholder token raw rest hplaceholder hscan ih

/-! ## Segments -/

def Segment.isText : Segment → Bool
  | .text _ => true
  | .placeholder _ _ => false

theorem placeholder_mem_prependText_iff {content raw : Text} {segments : List Segment} :
    .placeholder token raw ∈ prependText content segments ↔ .placeholder token raw ∈ segments := by
  unfold prependText
  split <;> simp

theorem placeholder_of_mem_scan {raw : Text} (h : .placeholder token raw ∈ scan s t) :
    Placeholder s token raw := by
  induction t using scan_induct s with
  | nil => simp [scan_nil] at h
  | char c t hstart hscan ih =>
    rw [hscan, placeholder_mem_prependText_iff] at h
    exact ih h
  | unfinished start kind body hstart hread hscan ih =>
    rw [hscan, placeholder_mem_prependText_iff] at h
    exact ih h
  | placeholder token' raw' rest hread hscan ih =>
    rw [hscan] at h
    rcases List.mem_cons.1 h with heq | h
    · obtain ⟨rfl, rfl⟩ := Segment.placeholder.inj heq
      obtain ⟨raw', hraw, heq⟩ := placeholder_of_placeholder? hread
      exact List.append_cancel_right heq ▸ hraw
    · exact ih h

def Apart (segments : List Segment) : Prop :=
  segments.IsChain fun first second => ¬ (first.isText = true ∧ second.isText = true)

theorem Apart.prependText (content : Text) {segments : List Segment} (h : Apart segments) :
    Apart (prependText content segments) := by
  unfold Markup.prependText
  split
  · rename_i next segments
    cases segments with
    | nil => exact .singleton _
    | cons second segments => exact List.isChain_cons_cons.2 (List.isChain_cons_cons.1 h)
  · rename_i hnotText
    cases segments with
    | nil => exact .singleton _
    | cons first segments =>
      refine List.isChain_cons_cons.2 ⟨?_, h⟩
      cases first with
      | text next => exact absurd rfl (hnotText next segments)
      | placeholder token raw => simp [Segment.isText]

theorem apart_scan (s : Syntax) (t : Text) : Apart (scan s t) := by
  induction t using scan_induct s with
  | nil => rw [scan_nil]; exact .nil
  | char c t hstart hscan ih => exact hscan ▸ ih.prependText [c]
  | unfinished start kind body hstart hread hscan ih => exact hscan ▸ ih.prependText start
  | placeholder token raw rest hread hscan ih =>
    rw [hscan]
    cases hrest : scan s rest with
    | nil => exact .singleton _
    | cons first segments => exact List.isChain_cons_cons.2 ⟨by simp [Segment.isText], hrest ▸ ih⟩

/-- Segments stay what they are when text is put in front that is skipped whatever follows it. -/
theorem scan_source_of_mem_prependText {content : Text} {segments : List Segment}
    (hskip : ∀ left, left <+: source segments → scan s (content ++ left) = prependText content (scan s left))
    (halone : ∀ segment ∈ segments, scan s segment.source = [segment]) :
    ∀ segment ∈ prependText content segments, scan s segment.source = [segment] := by
  intro segment h
  have hcontent : scan s content = [.text content] := by
    have hscan := hskip [] List.nil_prefix
    rwa [List.append_nil, scan_nil] at hscan
  cases segments with
  | nil =>
    obtain rfl := List.mem_singleton.1 h
    exact hcontent
  | cons first segments =>
    cases first with
    | text next =>
      rcases List.mem_cons.1 h with rfl | h
      -- the text was joined with the text that it stands in front of
      · have hnext : scan s next = [.text next] := halone _ List.mem_cons_self
        change scan s (content ++ next) = _
        rw [hskip next (by rw [source_cons]; exact List.prefix_append _ _), hnext]
        rfl
      · exact halone segment (List.mem_cons_of_mem _ h)
    | placeholder token raw =>
      rcases List.mem_cons.1 h with rfl | h
      · exact hcontent
      · exact halone segment h

theorem scan_source_of_mem (hs : s.Unambiguous) (hclosing : s.closing ≠ []) :
    ∀ segment ∈ scan s t, scan s segment.source = [segment] := by
  induction t using scan_induct s with
  | nil => simp [scan_nil]
  | char c t hstart hscan ih =>
    rw [hscan]
    refine scan_source_of_mem_prependText ?_ ih
    rw [source_scan]
    rintro left ⟨after, rfl⟩
    apply scan_of_start?_eq_none
    rw [Option.eq_none_iff_forall_ne_some] at hstart ⊢
    rintro ⟨start, kind, body⟩ hleft
    exact hstart _ (hs.start?_append hleft after)
  | unfinished start kind body hstart hread hscan ih =>
    rw [hscan]
    refine scan_source_of_mem_prependText ?_ ih
    rw [source_scan]
    rintro left ⟨after, rfl⟩
    obtain ⟨-, keyword, hkeyword, rfl⟩ := eq_of_startAmong? hstart
    apply scan_of_readBody?_eq_none (hs.start? hkeyword left)
    -- a body that is complete in front of the cut would have been read
    rw [Option.eq_none_iff_forall_ne_some] at hread ⊢
    rintro ⟨token, left'⟩ hleft
    exact hread _ ((readBody?_append_iff hclosing).2 hleft)
  | placeholder token raw rest hread hscan ih =>
    rw [hscan, List.forall_mem_cons]
    refine ⟨?_, ih⟩
    obtain ⟨raw', heq, halone⟩ := exists_placeholder?_alone hs hclosing hread
    obtain rfl := List.append_cancel_right heq
    obtain ⟨raw', hraw, hsource⟩ := placeholder_of_placeholder? halone
    have hne : raw ≠ [] := by
      rw [hsource, List.append_nil]
      exact hraw.ne_nil
    exact (scan_eq_singleton_iff hne).2 halone

/-! ## Substitution -/

def tokens (segments : List Segment) : List Token :=
  segments.filterMap fun
    | .text _ => none
    | .placeholder token _ => some token

@[simp] theorem tokens_nil : tokens [] = [] := rfl

@[simp] theorem tokens_text (content : Text) (segments : List Segment) :
    tokens (.text content :: segments) = tokens segments := rfl

@[simp] theorem tokens_placeholder (token : Token) (raw : Text) (segments : List Segment) :
    tokens (.placeholder token raw :: segments) = token :: tokens segments := rfl

theorem fill_unresolved {m : Type → Type} [Monad m] [LawfulMonad m] (effect : Token → m Unit)
    (segments : List Segment) :
    fill (fun token => do effect token; return none) segments = do
      (tokens segments).forM effect
      return source segments := by
  induction segments with
  | nil => simp [fill, source]
  | cons segment segments ih =>
    cases segment with
    | text content =>
      rw [fill, ih]
      simp [source_cons, Segment.source]
    | placeholder token raw =>
      rw [fill, ih]
      simp [source_cons, Segment.source]

/-- The segments of a text hold the whole text, and each of them is what it is by itself. -/
structure SplitLocally (s : Syntax) (t : Text) : Prop where
  source_eq : source (scan s t) = t
  texts : .text [] ∉ scan s t
  apart : Apart (scan s t)
  placeholders : ∀ token raw, .placeholder token raw ∈ scan s t → Placeholder s token raw
  alone : ∀ segment ∈ scan s t, scan s segment.source = [segment]
  /-- Whatever else a substitution does, without replacements it gives the text back. -/
  unresolved : ∀ {m : Type → Type} [Monad m] [LawfulMonad m] (effect : Token → m Unit),
    substitute s (fun token => do effect token; return none) t = do
      (tokens (scan s t)).forM effect
      return t

/-- With a valid configuration, any cut between segments leaves them as they are, and each one can be taken
out of its text. -/
theorem splitLocally_of_validate {config : Config} (hvalid : config.validate = .ok ()) (t : Text) :
    SplitLocally config.markup t := by
  have hs : config.markup.Unambiguous := .of_validate hvalid
  have hclosing : config.markup.closing ≠ [] := Config.closing_ne_nil_of_validate hvalid
  have halone := scan_source_of_mem (t := t) hs hclosing
  refine ⟨source_scan _ t, ?_, apart_scan _ t, fun _ _ => placeholder_of_mem_scan, halone, ?_⟩
  · intro hempty
    have hscan := halone _ hempty
    rw [Segment.source, scan_nil] at hscan
    cases hscan
  · intro m _ _ effect
    rw [substitute, fill_unresolved, source_scan]

/-- Delimiters that overlap each other and the keywords. -/
theorem splitLocally_of_validate_overlap :
    let config : Config := { markup := { opening := ":".toList, closing := ":site".toList } }
    let t := ":site:page:x:site:a:site:page:b".toList
    config.validate = .ok () ∧
      scan config.markup t =
        [.text ":site:page:x".toList, .placeholder (.field .site "a".toList) ":site:a:site".toList,
          .text ":page:b".toList] ∧
      SplitLocally config.markup t := by
  intro config t
  have hvalid : config.validate = .ok () := by decide +kernel
  have hscan : scan config.markup t =
      [.text ":site:page:x".toList, .placeholder (.field .site "a".toList) ":site:a:site".toList,
        .text ":page:b".toList] := by
    decide +kernel
  exact ⟨hvalid, hscan, splitLocally_of_validate hvalid t⟩

end Folio.Markup
