import Folio.Proofs.BlockLines
import Folio.Proofs.Scanning

/-!
# The syntax of a valid configuration

The keywords of a valid configuration are words that differ from each other, so how a placeholder starts
tells its keyword. The end is another matter: a reader takes the longest name, and a call may go on with
blanks and a payload, before it looks for the closing delimiter. Nothing in a valid configuration keeps the
closing delimiter from starting with what the reader has taken by then, and placeholders with such an end
are never read.
-/

namespace Folio.Config

theorem validateKeywords_eq_ok_iff {earlier keywords : List (String × Text)} :
    validateKeywords earlier keywords = .ok () ↔
      (∀ entry ∈ keywords, isKeyword entry.2 = true) ∧ (keywords.map Prod.snd).Nodup ∧
        ∀ entry ∈ keywords, entry.2 ∉ earlier.map Prod.snd := by
  induction keywords generalizing earlier with
  | nil => simp [validateKeywords]
  | cons entry keywords ih =>
    obtain ⟨name, keyword⟩ := entry
    rw [validateKeywords, require_bind_eq_ok_iff]
    split
    · rename_i other taken hfind
      have htaken : keyword ∈ earlier.map Prod.snd := by
        have hkeyword : taken = keyword := by simpa using List.find?_some hfind
        exact hkeyword ▸ List.mem_map_of_mem (List.mem_of_find?_eq_some hfind)
      refine iff_of_false (by simp) ?_
      rintro ⟨-, -, hnew⟩
      exact hnew (name, keyword) List.mem_cons_self htaken
    · rename_i hfind
      have hnew : keyword ∉ earlier.map Prod.snd := by
        rw [List.find?_eq_none] at hfind
        intro hmem
        obtain ⟨entry, hentry, heq⟩ := List.mem_map.1 hmem
        exact hfind entry hentry (by simpa using heq)
      -- to be new for the later keywords is to differ from this one and from the earlier ones
      have hlater : (∀ entry ∈ keywords, entry.2 ∉ (earlier ++ [(name, keyword)]).map Prod.snd) ↔
          keyword ∉ keywords.map Prod.snd ∧ ∀ entry ∈ keywords, entry.2 ∉ earlier.map Prod.snd := by
        grind
      rw [ih, hlater, List.forall_mem_cons, List.map_cons, List.nodup_cons, List.forall_mem_cons]
      tauto

theorem eq_ok_of_bind {step : Except Invalid Unit} {next : Unit → Except Invalid Unit}
    (h : step >>= next = .ok ()) : step = .ok () := by
  cases step with
  | error invalid => cases h
  | ok value => rfl

end Folio.Config

namespace Folio.Markup

structure Syntax.Unambiguous (s : Syntax) : Prop where
  word : ∀ entry ∈ s.keywords, ':' ∉ entry.1
  nodup : (s.keywords.map Prod.fst).Nodup

theorem colon_not_mem_of_isKeyword {word : Text} (h : Config.isKeyword word = true) : ':' ∉ word := by
  intro hmem
  rw [Config.isKeyword, Bool.and_eq_true, List.all_eq_true] at h
  exact absurd (h.2 _ hmem) (by decide)

theorem Syntax.Unambiguous.of_validate {config : Config} (h : config.validate = .ok ()) :
    config.markup.Unambiguous := by
  simp only [Config.validate, Config.require_bind_eq_ok_iff] at h
  obtain ⟨-, -, -, -, -, -, -, -, hrest⟩ := h
  obtain ⟨hwords, hnodup, -⟩ := Config.validateKeywords_eq_ok_iff.1 (Config.eq_ok_of_bind hrest)
  refine ⟨?_, hnodup⟩
  intro entry hentry
  have hmem : entry.1 ∈ config.markup.keywords.map Prod.fst := List.mem_map.2 ⟨entry, hentry, rfl⟩
  obtain ⟨named, hnamed, heq⟩ := List.mem_map.1
    (show entry.1 ∈ (Config.namedKeywords config.markup).map Prod.snd from hmem)
  exact heq ▸ colon_not_mem_of_isKeyword (hwords named hnamed)

theorem eq_of_append_colon {word word' rest rest' : Text} (hword : ':' ∉ word) (hword' : ':' ∉ word')
    (h : word ++ ':' :: rest = word' ++ ':' :: rest') : word = word' := by
  have htake : ∀ word rest : Text, ':' ∉ word → (word ++ ':' :: rest).takeWhile (· ≠ ':') = word := by
    intro word rest hword
    apply Text.takeWhile_run
    · intro c hc
      rw [decide_eq_true_iff]
      rintro rfl
      exact hword hc
    · simp
  rw [← htake word rest hword, h, htake word' rest' hword']

theorem startAmong?_of_mem {s : Syntax} {keywords : List (Text × Kind)}
    (hwords : ∀ entry ∈ keywords, ':' ∉ entry.1) (hnodup : (keywords.map Prod.fst).Nodup) {keyword : Text}
    {kind : Kind} (h : (keyword, kind) ∈ keywords) (t : Text) :
    startAmong? s (s.start keyword ++ t) keywords = some (s.start keyword, kind, t) := by
  induction keywords with
  | nil => cases h
  | cons entry keywords ih =>
    obtain ⟨hword, hwords⟩ := List.forall_mem_cons.1 hwords
    rw [List.map_cons, List.nodup_cons] at hnodup
    rw [startAmong?]
    rcases List.mem_cons.1 h with rfl | h
    · rw [Text.dropPrefix?_append]
    · have hnone : Text.dropPrefix? (s.start entry.1) (s.start keyword ++ t) = none := by
        rw [Option.eq_none_iff_forall_ne_some]
        intro rest hrest
        have heq : keyword ++ ':' :: t = entry.1 ++ ':' :: rest := by
          simpa [Syntax.start] using Text.dropPrefix?_eq_some_iff.1 hrest
        obtain rfl : keyword = entry.1 := eq_of_append_colon (hwords _ h) hword heq
        exact hnodup.1 (List.mem_map.2 ⟨_, h, rfl⟩)
      rw [hnone]
      exact ih hwords hnodup.2 h

theorem Syntax.Unambiguous.start? {s : Syntax} (hs : s.Unambiguous) {keyword : Text} {kind : Kind}
    (h : (keyword, kind) ∈ s.keywords) (t : Text) :
    Markup.start? s (s.start keyword ++ t) = some (s.start keyword, kind, t) :=
  startAmong?_of_mem hs.word hs.nodup h t

/-! ## One placeholder -/

theorem scan_of_placeholder? {s : Syntax} {t rest : Text} {token : Token}
    (h : placeholder? s t = some (token, rest)) :
    ∃ raw, t = raw ++ rest ∧ scan s t = .placeholder token raw :: scan s rest := by
  obtain ⟨raw, hraw, heq⟩ := placeholder_of_placeholder? h
  refine ⟨raw, heq, ?_⟩
  rw [placeholder?] at h
  fun_cases scan s t with
  | case1 => exact absurd (List.append_eq_nil_iff.1 heq.symm).1 hraw.ne_nil
  | case2 c t hstart =>
    rw [hstart] at h
    cases h
  | case3 c t start kind body hstart hlt hread =>
    rw [hstart, Option.bind_some, hread] at h
    cases h
  | case4 c t start kind body hstart hlt token' after hread hle =>
    rw [hstart, Option.bind_some, hread] at h
    obtain ⟨rfl, rfl⟩ : token' = token ∧ after = rest := by simpa using h
    have hlength : t.length + 1 - after.length = raw.length := by
      have := congrArg List.length heq
      rw [List.length_append, List.length_cons] at this
      omega
    rw [hlength, heq, List.take_left]

theorem exists_text_of_placeholder?_eq_none {s : Syntax} {t : Text} (hne : t ≠ [])
    (h : placeholder? s t = none) : ∃ content segments, scan s t = .text content :: segments := by
  have hprepend : ∀ content segments, ∃ content' segments',
      prependText content segments = .text content' :: segments' := by
    intro content segments
    unfold prependText
    split
    · exact ⟨_, _, rfl⟩
    · exact ⟨_, _, rfl⟩
  rw [placeholder?] at h
  fun_cases scan s t with
  | case1 => exact absurd rfl hne
  | case2 c t hstart => exact hprepend _ _
  | case3 c t start kind body hstart hlt hread => exact hprepend _ _
  | case4 c t start kind body hstart hlt token' after hread hle =>
    rw [hstart, Option.bind_some, hread] at h
    cases h

theorem scan_eq_singleton_iff {s : Syntax} {t : Text} (hne : t ≠ []) {token : Token} :
    scan s t = [.placeholder token t] ↔ placeholder? s t = some (token, []) := by
  constructor
  · intro hscan
    cases hread : placeholder? s t with
    | none =>
      obtain ⟨content, segments, htext⟩ := exists_text_of_placeholder?_eq_none hne hread
      rw [hscan] at htext
      cases htext
    | some found =>
      obtain ⟨token', rest⟩ := found
      obtain ⟨raw, heq, hplaceholder⟩ := scan_of_placeholder? hread
      rw [hscan, List.cons.injEq, Segment.placeholder.injEq] at hplaceholder
      obtain ⟨⟨rfl, rfl⟩, -⟩ := hplaceholder
      rw [List.self_eq_append_right.1 heq]
  · intro hread
    obtain ⟨raw, heq, hplaceholder⟩ := scan_of_placeholder? hread
    rw [List.append_nil] at heq
    rw [hplaceholder, heq, scan]

/-! ## Bodies of one name -/

def Syntax.write (s : Syntax) (keyword body : Text) : Text := s.start keyword ++ body ++ s.closing

theorem readBody?_field_eq_iff {s : Syntax} {scope : Scope} {name : Text} (hname : IsName name) :
    readBody? s (.field scope) (name ++ s.closing) = some (.field scope name, []) ↔
      Text.HeadAvoids isNameChar s.closing := by
  constructor
  · intro h
    simp only [readBody?, Option.bind_eq_bind, Option.bind_eq_some_iff, Option.pure_def,
      Option.some.injEq, Prod.mk.injEq, Token.field.injEq, Prod.exists] at h
    obtain ⟨name', t, htake, rest, -, ⟨-, rfl⟩, -⟩ := h
    obtain ⟨heq, -, havoids⟩ := takeName?_eq_some_iff.1 htake
    rwa [List.append_cancel_left heq]
  · intro h
    have htake : takeName? (name ++ s.closing) = some (name, s.closing) :=
      takeName?_eq_some_iff.2 ⟨rfl, hname, h⟩
    have hclose : Text.dropPrefix? s.closing s.closing = some [] := by
      rw [Text.dropPrefix?_eq_some_iff, List.append_nil]
    simp only [readBody?, htake, hclose, Option.bind_eq_bind, Option.bind_some, Option.pure_def]

theorem takePayload?_eq_none_iff {t rest : Text} :
    takePayload? t = some (none, rest) ↔ t = rest ∧ t.head? ≠ some '{' := by
  constructor
  · intro h
    unfold takePayload? at h
    split at h
    · obtain ⟨payload, -, heq⟩ := Option.map_eq_some_iff.1 h
      cases heq
    · rename_i hbrace
      refine ⟨by simpa using h, ?_⟩
      intro hhead
      obtain ⟨t', rfl⟩ := List.head?_eq_some_iff.1 hhead
      exact hbrace t' rfl
  · rintro ⟨rfl, hbrace⟩
    exact takePayload?_none hbrace

theorem readBody?_call_eq_iff {s : Syntax} {callee : Callee} {name : Text} (hname : IsName name) :
    readBody? s (.call callee) (name ++ s.closing) = some (.call callee name none, []) ↔
      EndsBody s.closing := by
  constructor
  · intro h
    simp only [readBody?, Option.bind_eq_bind, Option.bind_eq_some_iff, Option.pure_def,
      Option.some.injEq, Prod.mk.injEq, Token.call.injEq, Prod.exists] at h
    obtain ⟨name', t, htake, payload, rest, hpayload, rest', hclose, ⟨-, rfl, rfl⟩, rfl⟩ := h
    obtain ⟨heq, -, havoids⟩ := takeName?_eq_some_iff.1 htake
    obtain rfl : s.closing = t := List.append_cancel_left heq
    obtain rfl : rest = s.closing := by simpa using Text.dropPrefix?_eq_some_iff.1 hclose
    -- nothing was taken between the name and the closing delimiter
    obtain ⟨htrim, hbrace⟩ := takePayload?_eq_none_iff.1 hpayload
    refine ⟨havoids, ?_, htrim ▸ hbrace⟩
    rw [← htrim]
    exact Text.headAvoids_dropWhile _ _
  · intro h
    have hblanks : Text.IsBlanks [] := by simp [Text.IsBlanks]
    have hend : EndsBody (s.closing ++ []) := by rwa [List.append_nil]
    have hread := readBody?_call callee hname hblanks hend
    rwa [List.nil_append, List.append_nil] at hread

theorem scan_write_eq_iff {s : Syntax} (hs : s.Unambiguous) {keyword body : Text} {kind : Kind}
    (hkeyword : (keyword, kind) ∈ s.keywords) {token : Token} :
    scan s (s.write keyword body) = [.placeholder token (s.write keyword body)] ↔
      readBody? s kind (body ++ s.closing) = some (token, []) := by
  have hne : s.write keyword body ≠ [] := by simp [Syntax.write, Syntax.start]
  rw [scan_eq_singleton_iff hne, placeholder?, Syntax.write, List.append_assoc, hs.start? hkeyword,
    Option.bind_some]

/-- With a valid configuration, a placeholder with nothing but a name is read exactly if the reader cannot
take the closing delimiter for more of the name or, after a call, for a blank or a payload. -/
theorem scan_name_eq_iff {config : Config} (hvalid : config.validate = .ok ()) {name : Text}
    (hname : IsName name) :
    let s := config.markup
    (∀ keyword scope, (keyword, .field scope) ∈ s.keywords →
      (scan s (s.write keyword name) = [.placeholder (.field scope name) (s.write keyword name)] ↔
        Text.HeadAvoids isNameChar s.closing)) ∧
    ∀ keyword callee, (keyword, .call callee) ∈ s.keywords →
      (scan s (s.write keyword name) = [.placeholder (.call callee name none) (s.write keyword name)] ↔
        EndsBody s.closing) := by
  intro s
  have hs : s.Unambiguous := .of_validate hvalid
  constructor
  · intro keyword scope hkeyword
    rw [scan_write_eq_iff hs hkeyword, readBody?_field_eq_iff hname]
  · intro keyword callee hkeyword
    rw [scan_write_eq_iff hs hkeyword, readBody?_call_eq_iff hname]

/-- A closing delimiter after which fields are read and calls are not. -/
theorem scan_name_eq_iff_spaced :
    let config : Config := { markup := { closing := " \x7d\x7d".toList } }
    let s := config.markup
    let name := "v1.2-b".toList
    config.validate = .ok () ∧ IsName name ∧
      (∀ keyword scope, (keyword, .field scope) ∈ s.keywords →
        (scan s (s.write keyword name) = [.placeholder (.field scope name) (s.write keyword name)] ↔
          Text.HeadAvoids isNameChar s.closing)) ∧
      (∀ keyword callee, (keyword, .call callee) ∈ s.keywords →
        (scan s (s.write keyword name) = [.placeholder (.call callee name none) (s.write keyword name)] ↔
          EndsBody s.closing)) ∧
      Text.HeadAvoids isNameChar s.closing ∧ ¬ EndsBody s.closing := by
  intro config s name
  have hvalid : config.validate = .ok () := by decide +kernel
  have hname : IsName name := by decide
  obtain ⟨hfields, hcalls⟩ := scan_name_eq_iff hvalid hname
  refine ⟨hvalid, hname, hfields, hcalls, Text.headAvoids_cons.2 (by decide), ?_⟩
  intro hends
  exact absurd (Text.headAvoids_cons.1 hends.blank) (by decide)

/-- With the delimiters of comments no field is ever read. -/
theorem scan_name_ne_of_dashes :
    let config : Config := { markup := { opening := "<!--".toList, closing := "-->".toList } }
    let s := config.markup
    let name := "title".toList
    config.validate = .ok () ∧ ("page".toList, .field .page) ∈ s.keywords ∧ IsName name ∧
      s.write "page".toList name = "<!--page:title-->".toList ∧
      scan s (s.write "page".toList name) ≠
        [.placeholder (.field .page name) (s.write "page".toList name)] := by
  decide +kernel

end Folio.Markup
