import Folio.Markup.Scan

/-!
# Payloads in braces

What a payload is, is said without its reader: strings in either kind of quotes are taken out of a text,
and in what is left there are as many opening as closing braces. A payload is the shortest such text. The
reader of payloads, which keeps a mode and a number of open braces, finds exactly these.
-/

namespace Folio.Markup

/-- What stands in a string between its quotes. A backslash takes the next character with it. -/
inductive Inside (quote : Char) : Text → Prop where
  | nil : Inside quote []
  | char {c : Char} {t : Text} : c ≠ quote → c ≠ '\\' → Inside quote t → Inside quote (c :: t)
  | escape {c : Char} {t : Text} : Inside quote t → Inside quote ('\\' :: c :: t)

/-- A text whose strings are complete, and what of it stands outside of them. -/
inductive Outside : Text → Text → Prop where
  | nil : Outside [] []
  | char {c : Char} {t u : Text} : c ≠ '\'' → c ≠ '"' → Outside t u → Outside (c :: t) (c :: u)
  | string {quote : Char} {inside t u : Text} : quote = '\'' ∨ quote = '"' → Inside quote inside →
      Outside t u → Outside (quote :: inside ++ quote :: t) u

def Balanced (t : Text) : Prop := ∃ u, Outside t u ∧ u.count '{' = u.count '}'

/-- The shortest balanced text that starts with a brace. -/
structure IsPayload (p : Text) : Prop where
  opens : p.head? = some '{'
  balanced : Balanced p
  shortest : ∀ q, q <+: p → q ≠ [] → Balanced q → q = p

/-! ## The modes of the reader -/

def Mode.after (mode : Mode) (t : Text) : Mode := t.foldl Mode.next mode

@[simp] theorem Mode.after_nil (mode : Mode) : mode.after [] = mode := rfl

@[simp] theorem Mode.after_cons (mode : Mode) (c : Char) (t : Text) :
    mode.after (c :: t) = (mode.next c).after t := rfl

def Mode.outside (mode : Mode) : Text → Text
  | [] => []
  | c :: t =>
    if mode = .plain ∧ mode.next c = .plain then c :: (mode.next c).outside t
    else (mode.next c).outside t

theorem Mode.next_plain_eq_plain_iff {c : Char} : Mode.next .plain c = .plain ↔ c ≠ '\'' ∧ c ≠ '"' := by
  simp only [Mode.next, Bool.or_eq_true, decide_eq_true_eq, ite_eq_right_iff, reduceCtorEq, imp_false,
    not_or, ne_eq]

theorem Mode.next_plain_quote {quote : Char} (h : quote = '\'' ∨ quote = '"') :
    Mode.next .plain quote = .quoted quote := by
  simp only [Mode.next, Bool.or_eq_true, decide_eq_true_eq, if_pos h]

theorem Inside.read {quote : Char} {inside : Text} (h : Inside quote inside) (hq : quote ≠ '\\')
    (t : Text) : (Mode.quoted quote).after (inside ++ quote :: t) = Mode.after .plain t ∧
      (Mode.quoted quote).outside (inside ++ quote :: t) = Mode.outside .plain t := by
  induction h with
  | nil => simp [Mode.outside, Mode.next, hq]
  | char hc hb _ ih => simpa [Mode.outside, Mode.next, hc, hb] using ih
  | escape _ ih => simpa [Mode.outside, Mode.next] using ih

theorem Outside.read {t u : Text} (h : Outside t u) :
    Mode.after .plain t = .plain ∧ Mode.outside .plain t = u := by
  induction h with
  | nil => exact ⟨rfl, rfl⟩
  | char hs hd _ ih =>
    have hnext := Mode.next_plain_eq_plain_iff.2 ⟨hs, hd⟩
    simpa [Mode.outside, hnext] using ih
  | @string quote inside t u hq hin _ ih =>
    have hne : quote ≠ '\\' := by rcases hq with rfl | rfl <;> decide
    have hnext := Mode.next_plain_quote hq
    obtain ⟨hafter, hout⟩ := hin.read hne t
    simpa [Mode.outside, hnext, hafter, hout] using ih

/-- What a reader that ends outside strings has read, by the mode that it started in. -/
def Mode.Reads : Mode → Text → Text → Prop
  | .plain, t, u => Outside t u
  | .quoted quote, t, u =>
    ∃ inside rest, t = inside ++ quote :: rest ∧ Inside quote inside ∧ Outside rest u
  | .escaped quote, t, u =>
    ∃ c inside rest, t = c :: inside ++ quote :: rest ∧ Inside quote inside ∧ Outside rest u

theorem Mode.reads_of_after {mode : Mode} {t : Text} (h : mode.after t = .plain) :
    mode.Reads t (mode.outside t) := by
  -- in a string, what is read is its rest and then the outside of it
  induction t generalizing mode with
  | nil =>
    obtain rfl : mode = .plain := h
    exact .nil
  | cons c t ih =>
    have ht : (mode.next c).Reads t ((mode.next c).outside t) := ih h
    cases mode with
    | plain =>
      by_cases hc : c = '\'' ∨ c = '"'
      · rw [Mode.next_plain_quote hc] at ht
        obtain ⟨inside, rest, rfl, hin, hout⟩ := ht
        simpa [Mode.Reads, Mode.outside, Mode.next_plain_quote hc] using Outside.string hc hin hout
      · have hc' : c ≠ '\'' ∧ c ≠ '"' := not_or.1 hc
        rw [Mode.next_plain_eq_plain_iff.2 hc'] at ht
        simpa [Mode.Reads, Mode.outside, Mode.next_plain_eq_plain_iff.2 hc'] using
          Outside.char hc'.1 hc'.2 ht
    | quoted quote =>
      by_cases hb : c = '\\'
      · subst hb
        obtain ⟨d, inside, rest, rfl, hin, hout⟩ : Mode.Reads (.escaped quote) t _ := ht
        exact ⟨'\\' :: d :: inside, rest, by simp, .escape hin, by simpa [Mode.outside] using hout⟩
      · by_cases hq : c = quote
        · subst hq
          simp only [Mode.next, if_neg hb, if_true] at ht
          have hout : Outside t (Mode.outside .plain t) := ht
          exact ⟨[], t, rfl, .nil, by simpa [Mode.outside, Mode.next, hb] using hout⟩
        · simp only [Mode.next, if_neg hb, if_neg hq] at ht
          obtain ⟨inside, rest, rfl, hin, hout⟩ := ht
          exact ⟨c :: inside, rest, rfl, .char hq hb hin, by
            simpa [Mode.outside, Mode.next, hb, hq] using hout⟩
    | escaped quote =>
      obtain ⟨inside, rest, rfl, hin, hout⟩ : Mode.Reads (.quoted quote) t _ := ht
      exact ⟨c, inside, rest, rfl, hin, by simpa [Mode.outside] using hout⟩

theorem outside_iff {t u : Text} :
    Outside t u ↔ Mode.after .plain t = .plain ∧ Mode.outside .plain t = u := by
  constructor
  · exact Outside.read
  · rintro ⟨hafter, rfl⟩
    exact Mode.reads_of_after hafter

theorem balanced_iff {t : Text} :
    Balanced t ↔ Mode.after .plain t = .plain ∧
      (Mode.outside .plain t).count '{' = (Mode.outside .plain t).count '}' := by
  simp only [Balanced, outside_iff]
  constructor
  · rintro ⟨u, ⟨hafter, rfl⟩, hcount⟩
    exact ⟨hafter, hcount⟩
  · rintro ⟨hafter, hcount⟩
    exact ⟨_, ⟨hafter, rfl⟩, hcount⟩

/-! ## The reader of payloads -/

theorem Mode.count_outside_cons (mode : Mode) (c d : Char) (t : Text) (hd : d ≠ '\'' ∧ d ≠ '"') :
    (mode.outside (c :: t)).count d =
      (if mode = .plain ∧ c = d then 1 else 0) + ((mode.next c).outside t).count d := by
  by_cases hc : mode = .plain ∧ mode.next c = .plain
  · rw [Mode.outside, if_pos hc, List.count_cons]
    simp [hc.1, Nat.add_comm]
  · rw [Mode.outside, if_neg hc, if_neg, Nat.zero_add]
    rintro ⟨rfl, rfl⟩
    exact hc ⟨rfl, Mode.next_plain_eq_plain_iff.2 hd⟩

theorem Mode.depth_spec {mode : Mode} {c : Char} {depth : Nat} (hdepth : 1 ≤ depth)
    (hgo : mode = .plain ∧ c = '}' → 2 ≤ depth) :
    1 ≤ mode.depth c depth ∧
      mode.depth c depth + (if mode = .plain ∧ c = '}' then 1 else 0) =
        depth + (if mode = .plain ∧ c = '{' then 1 else 0) := by
  by_cases hm : mode = .plain
  · by_cases ho : c = '{'
    · simp [Mode.depth, hm, ho]
    · by_cases hc : c = '}'
      · have h2 := hgo ⟨hm, hc⟩
        simp only [Mode.depth, hm, hc, if_true]
        constructor
        · change 1 ≤ depth - 1
          omega
        · change depth - 1 + 1 = depth + 0
          omega
      · simp [Mode.depth, hm, ho, hc, hdepth]
  · simp [Mode.depth, hm, hdepth]

theorem stops_iff {mode : Mode} {c : Char} {depth : Nat} :
    (mode = .plain && c = '}' && depth ≤ 1) = true ↔ (mode = .plain ∧ c = '}') ∧ depth ≤ 1 := by
  simp

/-- What the reader has taken when it stops closes all open braces and ends outside strings. -/
theorem closes_of_takeBraced? {mode : Mode} {depth : Nat} {t payload rest : Text} (hdepth : 1 ≤ depth)
    (h : takeBraced? mode depth t = some (payload, rest)) :
    mode.after payload = .plain ∧
      depth + (mode.outside payload).count '{' = (mode.outside payload).count '}' := by
  -- the depth counts the braces that are open so far, as long as one of them is
  induction t generalizing mode depth payload with
  | nil => simp [takeBraced?] at h
  | cons c t ih =>
    rw [takeBraced?] at h
    split at h
    · rename_i hstop
      obtain ⟨⟨rfl, rfl⟩, hle⟩ := stops_iff.1 hstop
      obtain ⟨rfl, -⟩ : ['}'] = payload ∧ _ := by simpa using h
      obtain rfl : depth = 1 := by omega
      exact ⟨rfl, rfl⟩
    · rename_i hgo
      obtain ⟨⟨p, r⟩, hp, heq⟩ := Option.map_eq_some_iff.1 h
      obtain ⟨rfl, rfl⟩ : c :: p = payload ∧ r = rest := by simpa using heq
      obtain ⟨hpos, hstep⟩ := Mode.depth_spec (c := c) hdepth fun hc =>
        Nat.lt_of_not_le fun hle => hgo (stops_iff.2 ⟨hc, hle⟩)
      obtain ⟨hafter, hcount⟩ := ih hpos hp
      refine ⟨hafter, ?_⟩
      rw [Mode.count_outside_cons _ _ _ _ (by decide), Mode.count_outside_cons _ _ _ _ (by decide)]
      omega

/-- In a text whose closing braces outweigh the open ones the reader stops, whatever follows the text. -/
theorem takeBraced?_of_closes {mode : Mode} {depth : Nat} {t : Text} (hdepth : 1 ≤ depth)
    (h : depth + (mode.outside t).count '{' ≤ (mode.outside t).count '}') (rest : Text) :
    ∃ payload left, takeBraced? mode depth (t ++ rest) = some (payload, left) ∧ payload <+: t := by
  induction t generalizing mode depth with
  | nil =>
    simp only [Mode.outside, List.count_nil] at h
    omega
  | cons c t ih =>
    rw [List.cons_append, takeBraced?]
    split
    · exact ⟨[c], t ++ rest, rfl, by simp⟩
    · rename_i hgo
      obtain ⟨hpos, hstep⟩ := Mode.depth_spec (c := c) hdepth fun hc =>
        Nat.lt_of_not_le fun hle => hgo (stops_iff.2 ⟨hc, hle⟩)
      rw [Mode.count_outside_cons _ _ _ _ (by decide), Mode.count_outside_cons _ _ _ _ (by decide)] at h
      have hle : mode.depth c depth + ((mode.next c).outside t).count '{' ≤
          ((mode.next c).outside t).count '}' := by omega
      obtain ⟨payload, left, hp, hprefix⟩ := ih hpos hle
      exact ⟨c :: payload, left, by simp [hp], by simpa using hprefix⟩

theorem balanced_brace_iff {t : Text} :
    Balanced ('{' :: t) ↔ Mode.after .plain t = .plain ∧
      1 + (Mode.outside .plain t).count '{' = (Mode.outside .plain t).count '}' := by
  rw [balanced_iff, Mode.count_outside_cons _ _ _ _ (by decide),
    Mode.count_outside_cons _ _ _ _ (by decide)]
  simp [Mode.next]

theorem takeBraced?_brace (t : Text) :
    takeBraced? .plain 0 ('{' :: t) = (takeBraced? .plain 1 t).map fun r => ('{' :: r.1, r.2) := rfl

theorem isPayload_of_takeBraced? {t payload rest : Text}
    (h : takeBraced? .plain 0 ('{' :: t) = some (payload, rest)) : IsPayload payload := by
  rw [takeBraced?_brace] at h
  obtain ⟨⟨p, r⟩, hp, heq⟩ := Option.map_eq_some_iff.1 h
  obtain ⟨rfl, rfl⟩ : '{' :: p = payload ∧ r = rest := by simpa using heq
  refine ⟨rfl, balanced_brace_iff.2 (closes_of_takeBraced? (by decide) hp), ?_⟩
  rintro q ⟨later, hq⟩ hne hbalanced
  cases q with
  | nil => exact absurd rfl hne
  | cons c q =>
    obtain ⟨rfl, rfl⟩ : c = '{' ∧ q ++ later = p := by simpa using hq
    obtain ⟨-, hcount⟩ := balanced_brace_iff.1 hbalanced
    obtain ⟨p', left, hread, hprefix⟩ :=
      takeBraced?_of_closes (by decide) (Nat.le_of_eq hcount) (later ++ r)
    rw [← List.append_assoc, ← eq_of_takeBraced? hp, hp] at hread
    obtain ⟨rfl, -⟩ : q ++ later = p' ∧ r = left := by simpa using hread
    have hlater : later = [] := by
      have hle := hprefix.length_le
      rw [List.length_append] at hle
      exact List.length_eq_zero_iff.1 (by omega)
    simp [hlater]

theorem takeBraced?_of_isPayload {payload : Text} (h : IsPayload payload) (rest : Text) :
    takeBraced? .plain 0 (payload ++ rest) = some (payload, rest) := by
  obtain ⟨hopens, hbalanced, hshortest⟩ := h
  cases payload with
  | nil => simp at hopens
  | cons c p =>
    obtain rfl : c = '{' := by simpa using hopens
    obtain ⟨-, hcount⟩ := balanced_brace_iff.1 hbalanced
    obtain ⟨q, left, hread, hprefix⟩ := takeBraced?_of_closes (by decide) (Nat.le_of_eq hcount) rest
    have hq : '{' :: q = '{' :: p := by
      apply hshortest _ (by simpa using hprefix) (by simp)
      exact balanced_brace_iff.2 (closes_of_takeBraced? (by decide) hread)
    obtain rfl : q = p := by simpa using hq
    obtain rfl : left = rest := by simpa using (eq_of_takeBraced? hread).symm
    rw [List.cons_append, takeBraced?_brace, hread]
    rfl

/-- From a brace on, the reader takes exactly the payload there. -/
theorem takeBraced?_eq_some_iff {t payload rest : Text} :
    takeBraced? .plain 0 ('{' :: t) = some (payload, rest) ↔
      '{' :: t = payload ++ rest ∧ IsPayload payload := by
  constructor
  · intro h
    exact ⟨eq_of_takeBraced? h, isPayload_of_takeBraced? h⟩
  · rintro ⟨heq, h⟩
    rw [heq]
    exact takeBraced?_of_isPayload h rest

end Folio.Markup
