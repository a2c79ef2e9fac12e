import Folio.Json.Reader

/-!
# The grammar of JSON strings

How the characters of a string are written between its quotes, as a grammar, and that the reader of
strings accepts exactly this grammar. From the grammar follow the facts about written strings that other
readers need: they have no controls, a quote in them has a backslash before it, and writing never makes a
string shorter.
-/

namespace Folio.Json

open Text (Step)

inductive Hex : Text → Nat → Prop where
  | digits {a b c d : Char} {w x y z : Nat} : Digits.hexValue? a = some w →
      Digits.hexValue? b = some x → Digits.hexValue? c = some y → Digits.hexValue? d = some z →
      Hex [a, b, c, d] (((w * 16 + x) * 16 + y) * 16 + z)

inductive Escape : Text → Char → Prop where
  | short {c d : Char} : shortEscape? c = some d → Escape [c] d
  | unit {h : Text} {n : Nat} : Hex h n → n < 0xD800 ∨ 0xDFFF < n → Escape ('u' :: h) (Char.ofNat n)
  | pair {h l : Text} {m n : Nat} : Hex h m → Hex l n → 0xD800 ≤ m → m ≤ 0xDBFF → 0xDC00 ≤ n →
      n ≤ 0xDFFF →
      Escape ('u' :: (h ++ '\\' :: 'u' :: l))
        (Char.ofNat ((m - 0xD800) * 0x400 + (n - 0xDC00) + 0x10000))

/-- How the characters of a string are written, and these characters. -/
inductive Chars : Text → Text → Prop where
  | nil : Chars [] []
  | plain {c : Char} {u s : Text} : c ≠ '"' → c ≠ '\\' → 0x20 ≤ c.toNat → Chars u s →
      Chars (c :: u) (c :: s)
  | escape {e u s : Text} {d : Char} : Escape e d → Chars u s → Chars ('\\' :: (e ++ u)) (d :: s)

def Yields {α : Type} {t : Text} (result : Except ReadError (Step α t)) (value : α) (rest : Text) :
    Prop :=
  ∃ h, result = .ok ⟨value, rest, h⟩

theorem yields_of_eq_ok {α : Type} {t : Text} {result : Except ReadError (Step α t)} {s : Step α t}
    (h : result = .ok s) : Yields result s.value s.rest := ⟨s.shorter, h⟩

theorem Yields.unique {α : Type} {t : Text} {result : Except ReadError (Step α t)} {a b : α}
    {rest rest' : Text} (h : Yields result a rest) (h' : Yields result b rest') : a = b ∧ rest = rest' := by
  obtain ⟨_, h⟩ := h
  obtain ⟨_, h'⟩ := h'
  rw [h] at h'
  cases h'
  exact ⟨rfl, rfl⟩

/-! ## Escapes -/

theorem hex_of_readHex {t : Text} {s : Step Nat t} (h : readHex t = .ok s) :
    ∃ digits, Hex digits s.value ∧ t = digits ++ s.rest := by
  unfold readHex at h
  split at h
  · rename_i a b c d rest
    split at h
    · rename_i w x y z ha hb hc hd
      cases h
      exact ⟨[a, b, c, d], .digits ha hb hc hd, rfl⟩
    · cases h
  · split at h <;> cases h

theorem readHex_of_hex {digits : Text} {n : Nat} (h : Hex digits n) (rest : Text) :
    Yields (readHex (digits ++ rest)) n rest := by
  cases h with
  | digits ha hb hc hd =>
    refine ⟨by simp only [List.length_append, List.length_cons]; omega, ?_⟩
    simp only [List.cons_append, List.nil_append, readHex, ha, hb, hc, hd]

theorem escape_of_readUnicode {t : Text} {s : Step Char t} (h : readUnicode t = .ok s) :
    ∃ e, Escape ('u' :: e) s.value ∧ t = e ++ s.rest := by
  unfold readUnicode at h
  split at h
  · cases h
  · rename_i high hhigh
    obtain ⟨digits, hdigits, ht⟩ := hex_of_readHex hhigh
    split at h
    · cases h
    · rename_i hlow
      have hlow' : ¬ (0xDC00 ≤ high.value ∧ high.value ≤ 0xDFFF) := by simpa using hlow
      split at h
      · rename_i hunit
        have hunit' : high.value < 0xD800 ∨ 0xDBFF < high.value := by simpa using hunit
        cases h
        exact ⟨digits, .unit hdigits (by omega), ht⟩
      · rename_i hpair
        have hpair' : ¬ (high.value < 0xD800 ∨ 0xDBFF < high.value) := by simpa using hpair
        split at h
        · cases h
        · cases h
        · rename_i rest hrest
          split at h
          · cases h
          · rename_i low hlowRead
            obtain ⟨digits', hdigits', ht'⟩ := hex_of_readHex hlowRead
            split at h
            · cases h
            · rename_i hrange
              have hrange' : ¬ (low.value < 0xDC00 ∨ 0xDFFF < low.value) := by simpa using hrange
              obtain rfl := Except.ok.inj h
              -- both halves are in their ranges, which the branches taken so far say
              have hescape := Escape.pair (m := high.value) (n := low.value) hdigits hdigits'
                (by omega) (by omega) (by omega) (by omega)
              refine ⟨digits ++ '\\' :: 'u' :: digits', ?_, ?_⟩
              · dsimp only
                exact hescape
              rw [List.append_assoc, List.cons_append, List.cons_append, ← ht', ← hrest]
              exact ht
        · cases h
        · cases h

theorem readUnicode_of_escape {e : Text} {c : Char} (h : Escape ('u' :: e) c) (rest : Text) :
    Yields (readUnicode (e ++ rest)) c rest := by
  cases h with
  | short h => cases h
  | unit hhex hrange =>
    rename_i n
    obtain ⟨hlt, hread⟩ := readHex_of_hex hhex rest
    refine ⟨hlt, ?_⟩
    rw [readUnicode, hread]
    have hlow : ¬ (0xDC00 ≤ n ∧ n ≤ 0xDFFF) := by omega
    have hunit : n < 0xD800 ∨ 0xDBFF < n := by omega
    simp only [Bool.and_eq_true, decide_eq_true_eq, hlow, if_false, Bool.or_eq_true, hunit, if_true]
    rfl
  | pair hhex hhex' hm hm' hn hn' =>
    rename_i digits digits' m n
    obtain ⟨hlt, hread⟩ := readHex_of_hex hhex ('\\' :: 'u' :: (digits' ++ rest))
    obtain ⟨hlt', hread'⟩ := readHex_of_hex hhex' rest
    have heq : digits ++ '\\' :: 'u' :: digits' ++ rest =
        digits ++ ('\\' :: 'u' :: (digits' ++ rest)) := by simp
    have hlow : ¬ (0xDC00 ≤ m ∧ m ≤ 0xDFFF) := by omega
    have hunit : ¬ (m < 0xD800 ∨ 0xDBFF < m) := by omega
    have hrange : ¬ (n < 0xDC00 ∨ 0xDFFF < n) := by omega
    rw [heq]
    refine ⟨by simp only [List.length_append, List.length_cons] at hlt' ⊢; omega, ?_⟩
    rw [readUnicode, hread]
    simp only [Bool.and_eq_true, decide_eq_true_eq, hlow, if_false, Bool.or_eq_true, hunit, hread',
      hrange]

theorem escape_of_readEscape {t : Text} {s : Step Char t} (h : readEscape t = .ok s) :
    ∃ e, Escape e s.value ∧ t = e ++ s.rest := by
  unfold readEscape at h
  split at h
  · cases h
  · rename_i c rest
    split at h
    · rename_i d hd
      cases h
      exact ⟨[c], .short hd, rfl⟩
    · split at h
      · rename_i hu
        cases hread : readUnicode rest with
        | error error => simp [hread, Except.map] at h
        | ok s' =>
          rw [hread] at h
          obtain rfl := Except.ok.inj h
          obtain ⟨e, he, hrest⟩ := escape_of_readUnicode hread
          exact ⟨'u' :: e, he, by subst hu; exact congrArg (List.cons 'u') hrest⟩
      · cases h

theorem readEscape_of_escape {e : Text} {c : Char} (h : Escape e c) (rest : Text) :
    Yields (readEscape (e ++ rest)) c rest := by
  have hu : shortEscape? 'u' = none := rfl
  cases h with
  | short hshort =>
    refine ⟨by simp, ?_⟩
    simp only [List.cons_append, List.nil_append, readEscape, hshort]
  | unit hhex hrange =>
    obtain ⟨hlt, hread⟩ := readUnicode_of_escape (.unit hhex hrange) rest
    refine ⟨by simp only [List.cons_append, List.length_cons]; omega, ?_⟩
    simp only [List.cons_append, readEscape, hu, if_true, hread, Except.map, Step.widen]
  | pair hhex hhex' hm hm' hn hn' =>
    obtain ⟨hlt, hread⟩ := readUnicode_of_escape (.pair hhex hhex' hm hm' hn hn') rest
    refine ⟨by simp only [List.cons_append, List.length_cons]; omega, ?_⟩
    simp only [List.cons_append, readEscape, hu, if_true, hread, Except.map, Step.widen]

/-! ## Strings -/

theorem chars_of_readString {t : Text} {s : Step Text t} (h : readString t = .ok s) :
    ∃ u, Chars u s.value ∧ t = u ++ '"' :: s.rest := by
  fun_induction readString t with
  | case1 => cases h
  | case2 rest =>
    obtain rfl := Except.ok.inj h
    exact ⟨[], .nil, rfl⟩
  | case3 => cases h
  | case4 rest s' hread _ _ ih =>
    cases htail : readString s'.rest with
    | error error => simp [htail, Except.map] at h
    | ok tail =>
      rw [htail] at h
      obtain rfl := Except.ok.inj h
      obtain ⟨e, he, hrest⟩ := escape_of_readEscape hread
      obtain ⟨u, hu, htext⟩ := ih htail
      refine ⟨'\\' :: (e ++ u), .escape he hu, ?_⟩
      rw [List.cons_append, List.append_assoc, ← htext, ← hrest]
  | case5 => cases h
  | case6 c rest hne hback hctl ih =>
    cases htail : readString rest with
    | error error => simp [htail, Except.map] at h
    | ok tail =>
      rw [htail] at h
      obtain rfl := Except.ok.inj h
      obtain ⟨u, hu, htext⟩ := ih htail
      exact ⟨c :: u, .plain hne hback (Nat.le_of_not_lt hctl) hu, congrArg (List.cons c) htext⟩

theorem readString_plain {c : Char} {t value rest : Text} (hne : c ≠ '"') (hback : c ≠ '\\')
    (hctl : 0x20 ≤ c.toNat) (h : Yields (readString t) value rest) :
    Yields (readString (c :: t)) (c :: value) rest := by
  obtain ⟨hlt, hread⟩ := h
  refine ⟨by rw [List.length_cons]; omega, ?_⟩
  rw [readString, if_neg hne, if_neg hback, if_neg (Nat.not_lt.2 hctl), hread]
  rfl

theorem readString_escape {e t value rest : Text} {d : Char} (he : Escape e d)
    (h : Yields (readString t) value rest) :
    Yields (readString ('\\' :: (e ++ t))) (d :: value) rest := by
  obtain ⟨hlt, hread⟩ := h
  obtain ⟨hlt', hread'⟩ := readEscape_of_escape he t
  refine ⟨by rw [List.length_cons]; omega, ?_⟩
  rw [readString, if_neg (by decide), if_pos rfl, hread']
  simp only [hread, Except.map]

theorem readString_of_chars {u value : Text} (h : Chars u value) (rest : Text) :
    Yields (readString (u ++ '"' :: rest)) value rest := by
  induction h with
  | nil =>
    refine ⟨by simp, ?_⟩
    change readString ('"' :: rest) = _
    rw [readString, if_pos rfl]
  | plain hne hback hctl _ ih => exact readString_plain hne hback hctl ih
  | @escape e u s d he _ ih =>
    have hread := readString_escape he ih
    rwa [← List.append_assoc] at hread

/-- The reader of strings accepts exactly what is written by the grammar. -/
theorem yields_readString_iff {t value rest : Text} :
    Yields (readString t) value rest ↔ ∃ u, Chars u value ∧ t = u ++ '"' :: rest := by
  constructor
  · rintro ⟨hlt, hread⟩
    exact chars_of_readString hread
  · rintro ⟨u, hu, rfl⟩
    exact readString_of_chars hu rest

/-! ## What written strings are like -/

theorem hexValue?_ne_none {c : Char} {n : Nat} (h : Digits.hexValue? c = some n) :
    c ≠ '"' ∧ c ≠ '\\' ∧ 0x20 ≤ c.toNat ∧ c ≠ '{' ∧ c ≠ ',' := by
  refine ⟨?_, ?_, ?_, ?_, ?_⟩
  · rintro rfl
    cases h
  · rintro rfl
    cases h
  · apply Decidable.byContradiction
    intro hlt
    have hnone : ∀ n < 0x20, Digits.hexValue? (Char.ofNat n) = none := by decide
    have hc := hnone c.toNat (by omega)
    rw [Char.ofNat_toNat, h] at hc
    cases hc
  · rintro rfl
    cases h
  · rintro rfl
    cases h

theorem Hex.mem {digits : Text} {n : Nat} (h : Hex digits n) :
    ∀ c ∈ digits, c ≠ '"' ∧ c ≠ '\\' ∧ 0x20 ≤ c.toNat ∧ c ≠ '{' ∧ c ≠ ',' := by
  cases h with
  | digits ha hb hc hd =>
    simp only [List.forall_mem_cons, List.not_mem_nil, false_imp_iff, implies_true, and_true]
    exact ⟨hexValue?_ne_none ha, hexValue?_ne_none hb, hexValue?_ne_none hc, hexValue?_ne_none hd⟩

theorem shortEscape?_printable {c d : Char} (h : shortEscape? c = some d) : 0x20 ≤ c.toNat := by
  unfold shortEscape? at h
  split at h <;> first | decide | cases h

theorem Escape.ne_nil {e : Text} {d : Char} (h : Escape e d) : e ≠ [] := by
  cases h <;> simp

theorem Escape.printable {e : Text} {d : Char} (h : Escape e d) : ∀ c ∈ e, 0x20 ≤ c.toNat := by
  intro c hc
  cases h with
  | short hshort =>
    obtain rfl := List.mem_singleton.1 hc
    exact shortEscape?_printable hshort
  | unit hhex =>
    rcases List.mem_cons.1 hc with rfl | hc
    · decide
    · exact (hhex.mem c hc).2.2.1
  | pair hhex hhex' =>
    simp only [List.mem_cons, List.mem_append] at hc
    rcases hc with rfl | hc | rfl | rfl | hc
    · decide
    · exact (hhex.mem c hc).2.2.1
    · decide
    · decide
    · exact (hhex'.mem c hc).2.2.1

theorem Escape.eq_quote {e : Text} {d : Char} (h : Escape e d) (hmem : '"' ∈ e) : e = ['"'] := by
  cases h with
  | short => rw [List.mem_singleton.1 hmem]
  | unit hhex =>
    rcases List.mem_cons.1 hmem with heq | hmem
    · cases heq
    · exact absurd rfl (hhex.mem '"' hmem).1
  | pair hhex hhex' =>
    simp only [List.mem_cons, List.mem_append] at hmem
    rcases hmem with heq | hmem | heq | heq | hmem
    · cases heq
    · exact absurd rfl (hhex.mem '"' hmem).1
    · cases heq
    · cases heq
    · exact absurd rfl (hhex'.mem '"' hmem).1

theorem Chars.printable {u s : Text} (h : Chars u s) : ∀ c ∈ u, 0x20 ≤ c.toNat := by
  induction h with
  | nil => simp
  | plain _ _ hctl _ ih =>
    intro d hd
    rcases List.mem_cons.1 hd with rfl | hd
    · exact hctl
    · exact ih d hd
  | escape he _ ih =>
    intro d hd
    rcases List.mem_cons.1 hd with rfl | hd
    · decide
    · exact (List.mem_append.1 hd).elim (he.printable d) (ih d)

theorem Chars.head_ne_quote {u s : Text} (h : Chars ('"' :: u) s) : False := by
  cases h with
  | plain hne => exact hne rfl

/-- A quote in a written string has a backslash before it. -/
theorem Chars.before_quote {u s : Text} (h : Chars u s) {before after : Text} {c : Char}
    (heq : u = before ++ c :: '"' :: after) : c = '\\' := by
  induction h generalizing before with
  | nil => simp at heq
  | plain _ _ _ hu ih =>
    cases before with
    | nil =>
      obtain ⟨rfl, rfl⟩ := List.cons.inj heq
      exact hu.head_ne_quote.elim
    | cons d before => exact ih (List.cons.inj heq).2
  | @escape e u s d he hu ih =>
    cases before with
    | nil => exact (List.cons.inj heq).1.symm
    | cons d before =>
      have htail : e ++ u = before ++ c :: '"' :: after := (List.cons.inj heq).2
      -- the quote stands behind the escape, right at its end, or inside of it
      rcases List.append_eq_append_iff.1 htail with ⟨z, -, hz⟩ | ⟨z, hz, hrest⟩
      · exact ih hz
      · cases z with
        | nil =>
          have hfirst : u = [] ++ c :: '"' :: after := hrest.symm
          exact ih hfirst
        | cons x z =>
          obtain ⟨rfl, hquote⟩ := List.cons.inj hrest
          cases z with
          | nil =>
            obtain rfl : '"' :: after = u := hquote
            exact hu.head_ne_quote.elim
          | cons y z =>
            obtain ⟨rfl, -⟩ := List.cons.inj hquote
            have hlength := congrArg List.length (hz.symm.trans (he.eq_quote (by rw [hz]; simp)))
            simp only [List.length_append, List.length_cons, List.length_nil] at hlength
            omega

theorem count_quotes_and_backslashes_le (t : Text) : t.count '\\' + t.count '"' ≤ t.length := by
  induction t with
  | nil => simp
  | cons c t ih =>
    by_cases hb : c = '\\'
    · subst hb
      simp
      omega
    · by_cases hq : c = '"'
      · subst hq
        simp
        omega
      · simp [List.count_cons_of_ne, hb, hq]
        omega

/-- Each quote and each backslash that is written costs at least half a character. -/
theorem Chars.length_le {u s : Text} (h : Chars u s) :
    2 * s.length + (u.count '\\' + u.count '"') ≤ 2 * u.length := by
  induction h with
  | nil => simp
  | plain hne hback _ _ ih =>
    rw [List.count_cons_of_ne hback, List.count_cons_of_ne hne, List.length_cons, List.length_cons]
    omega
  | @escape e u s d he _ ih =>
    have hcount := count_quotes_and_backslashes_le e
    have hlength := List.length_pos_iff.2 he.ne_nil
    rw [List.count_cons_self, List.count_cons_of_ne (by decide), List.count_append, List.count_append,
      List.length_cons, List.length_cons, List.length_append]
    omega

end Folio.Json
