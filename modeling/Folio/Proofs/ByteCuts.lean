import Folio.Log

/-!
# Texts cut by their bytes

A line of the log has a limit in bytes. The last place within the limit at which no character is cut in two is
searched from the limit backwards, byte by byte; up to there reaches the longest run of whole characters that
fits.
-/

namespace Folio

namespace Text

/-! ## Bytes -/

def bytes (t : Text) : List UInt8 := t.flatMap String.utf8EncodeChar

theorem bytes_append (t u : Text) : bytes (t ++ u) = bytes t ++ bytes u := List.flatMap_append

theorem byteSize_cons (c : Char) (t : Text) : byteSize (c :: t) = c.utf8Size + byteSize t := by
  simp only [byteSize, ← List.sum_eq_foldl_nat, List.map_cons, List.sum_cons]

theorem byteSize_append (t u : Text) : byteSize (t ++ u) = byteSize t + byteSize u := by
  simp only [byteSize, ← List.sum_eq_foldl_nat, List.map_append, List.sum_append]

theorem length_bytes (t : Text) : (bytes t).length = byteSize t := by
  induction t with
  | nil => rfl
  | cons c t ih =>
    rw [byteSize_cons, ← ih, bytes, List.flatMap_cons, List.length_append, String.length_utf8EncodeChar]
    rfl

/-! ## Boundaries of characters -/

/-- Whether bytes may be cut at a place: at the start, at the end, and where a byte starts a character. -/
def isBoundary (bytes : List UInt8) (place : Nat) : Bool :=
  place = 0 ||
    match bytes[place]? with
    | some byte => decide byte.IsUTF8FirstByte
    | none => place = bytes.length

def lastBoundary (bytes : List UInt8) : Nat → Nat
  | 0 => 0
  | place + 1 => if isBoundary bytes (place + 1) then place + 1 else lastBoundary bytes place

theorem isBoundary_zero (bytes : List UInt8) : isBoundary bytes 0 = true := rfl

theorem isBoundary_inside {c : Char} {t : Text} {place : Nat} (hpos : place ≠ 0) (h : place < c.utf8Size) :
    isBoundary (bytes (c :: t)) place = false := by
  have hlength : place < (String.utf8EncodeChar c).length := by rwa [String.length_utf8EncodeChar]
  have hbyte : (bytes (c :: t))[place]? = some (String.utf8EncodeChar c)[place] := by
    rw [bytes, List.flatMap_cons, List.getElem?_append_left hlength, List.getElem?_eq_getElem hlength]
  have hfirst : ¬ (String.utf8EncodeChar c)[place].IsUTF8FirstByte := fun hfirst =>
    hpos (UInt8.isUTF8FirstByte_getElem_utf8EncodeChar.1 hfirst)
  simp [isBoundary, hbyte, hpos, hfirst]

theorem isBoundary_utf8Size_add (c : Char) (t : Text) (place : Nat) :
    isBoundary (bytes (c :: t)) (c.utf8Size + place) = isBoundary (bytes t) place := by
  have hlength := String.length_utf8EncodeChar c
  have hbytes : bytes (c :: t) = String.utf8EncodeChar c ++ bytes t := List.flatMap_cons
  have hpos : c.utf8Size + place ≠ 0 := by
    have := c.utf8Size_pos
    omega
  have hbyte : (bytes (c :: t))[c.utf8Size + place]? = (bytes t)[place]? := by
    rw [hbytes, List.getElem?_append_right (by omega), hlength, Nat.add_sub_cancel_left]
  unfold isBoundary
  rw [hbyte, hbytes, List.length_append, hlength]
  cases place with
  | succ place => cases (bytes t)[place + 1]? <;> simp
  | zero =>
    -- what follows a character starts another one or is nothing
    cases t with
    | nil => simp [bytes]
    | cons d t =>
      have hd : 0 < (String.utf8EncodeChar d).length := by
        rw [String.length_utf8EncodeChar]
        exact d.utf8Size_pos
      have hfirst : (bytes (d :: t))[0]? = some (String.utf8EncodeChar d)[0] := by
        rw [bytes, List.flatMap_cons, List.getElem?_append_left hd, List.getElem?_eq_getElem hd]
      rw [hfirst]
      simp [UInt8.isUTF8FirstByte_getElem_utf8EncodeChar]

/-- The boundaries of a text are the sizes of its whole runs of characters. -/
theorem isBoundary_iff {t : Text} {place : Nat} :
    isBoundary (bytes t) place = true ↔ ∃ kept, kept <+: t ∧ byteSize kept = place := by
  induction t generalizing place with
  | nil =>
    simp [isBoundary, bytes, byteSize, eq_comm]
  | cons c t ih =>
    by_cases hzero : place = 0
    · subst hzero
      exact iff_of_true (isBoundary_zero _) ⟨[], List.nil_prefix, rfl⟩
    · by_cases hinside : place < c.utf8Size
      -- inside the first character there is no boundary, and no prefix has so few bytes
      · refine iff_of_false (by rw [isBoundary_inside hzero hinside]; nofun) ?_
        rintro ⟨kept, hkept, rfl⟩
        cases kept with
        | nil => exact hzero rfl
        | cons d kept =>
          obtain ⟨rfl, -⟩ := List.cons_prefix_cons.1 hkept
          rw [byteSize_cons] at hinside
          omega
      · obtain ⟨place, rfl⟩ := Nat.exists_eq_add_of_le (Nat.not_lt.1 hinside)
        rw [isBoundary_utf8Size_add, ih]
        constructor
        · rintro ⟨kept, hkept, rfl⟩
          exact ⟨c :: kept, List.cons_prefix_cons.2 ⟨rfl, hkept⟩, byteSize_cons c kept⟩
        · rintro ⟨kept, hkept, hsize⟩
          cases kept with
          | nil => exact absurd hsize.symm hzero
          | cons d kept =>
            obtain ⟨rfl, htail⟩ := List.cons_prefix_cons.1 hkept
            rw [byteSize_cons] at hsize
            exact ⟨kept, htail, by omega⟩

theorem lastBoundary_le (bytes : List UInt8) (place : Nat) : lastBoundary bytes place ≤ place := by
  induction place with
  | zero => exact Nat.le_refl 0
  | succ place ih =>
    rw [lastBoundary]
    split
    · exact Nat.le_refl _
    · exact Nat.le_succ_of_le ih

theorem isBoundary_lastBoundary (bytes : List UInt8) (place : Nat) :
    isBoundary bytes (lastBoundary bytes place) = true := by
  induction place with
  | zero => rfl
  | succ place ih =>
    rw [lastBoundary]
    split
    · assumption
    · exact ih

theorem le_lastBoundary {bytes : List UInt8} {boundary place : Nat} (h : isBoundary bytes boundary = true)
    (hle : boundary ≤ place) : boundary ≤ lastBoundary bytes place := by
  induction place with
  | zero => exact hle
  | succ place ih =>
    rw [lastBoundary]
    split
    · exact hle
    · rename_i hnot
      have hne : boundary ≠ place + 1 := fun heq => hnot (heq ▸ h)
      exact ih (by omega)

/-! ## Whole characters within a limit -/

theorem takeBytes_isPrefix (limit : Nat) (t : Text) : takeBytes limit t <+: t := by
  induction t generalizing limit with
  | nil => exact List.nil_prefix
  | cons c t ih =>
    rw [takeBytes]
    split
    · exact List.cons_prefix_cons.2 ⟨rfl, ih _⟩
    · exact List.nil_prefix

theorem byteSize_takeBytes_le (limit : Nat) (t : Text) : byteSize (takeBytes limit t) ≤ limit := by
  induction t generalizing limit with
  | nil => exact Nat.zero_le limit
  | cons c t ih =>
    rw [takeBytes]
    split
    · have := ih (limit - c.utf8Size)
      rw [byteSize_cons]
      omega
    · exact Nat.zero_le limit

theorem isPrefix_takeBytes {limit : Nat} {t kept : Text} (h : kept <+: t) (hsize : byteSize kept ≤ limit) :
    kept <+: takeBytes limit t := by
  induction kept generalizing limit t with
  | nil => exact List.nil_prefix
  | cons c kept ih =>
    obtain ⟨t, rfl, hkept⟩ : ∃ rest, t = c :: rest ∧ kept <+: rest := by
      obtain ⟨rest, rfl⟩ := h
      exact ⟨kept ++ rest, rfl, List.prefix_append kept rest⟩
    rw [byteSize_cons] at hsize
    rw [takeBytes, if_pos (by omega)]
    exact List.cons_prefix_cons.2 ⟨rfl, ih hkept (by omega)⟩

theorem byteSize_le_of_isPrefix {t u : Text} (h : t <+: u) : byteSize t ≤ byteSize u := by
  obtain ⟨rest, rfl⟩ := h
  rw [byteSize_append]
  exact Nat.le_add_right _ _

def cutPlace (limit : Nat) (t : Text) : Nat :=
  if byteSize t ≤ limit then byteSize t else lastBoundary (bytes t) limit

/-- The cut is behind the longest run of whole characters that fits. -/
theorem cutPlace_eq (limit : Nat) (t : Text) : cutPlace limit t = byteSize (takeBytes limit t) := by
  rw [cutPlace]
  split
  · rename_i hfits
    have hwhole := isPrefix_takeBytes List.prefix_rfl hfits
    exact Nat.le_antisymm (byteSize_le_of_isPrefix hwhole) (byteSize_le_of_isPrefix (takeBytes_isPrefix limit t))
  · obtain ⟨kept, hkept, hsize⟩ := isBoundary_iff.1 (isBoundary_lastBoundary (bytes t) limit)
    have hlast := lastBoundary_le (bytes t) limit
    apply Nat.le_antisymm
    · rw [← hsize] at hlast ⊢
      exact byteSize_le_of_isPrefix (isPrefix_takeBytes hkept hlast)
    · have hboundary : isBoundary (bytes t) (byteSize (takeBytes limit t)) = true :=
        isBoundary_iff.2 ⟨_, takeBytes_isPrefix limit t, rfl⟩
      exact le_lastBoundary hboundary (byteSize_takeBytes_le limit t)

theorem bytes_takeBytes (limit : Nat) (t : Text) :
    bytes (takeBytes limit t) = (bytes t).take (cutPlace limit t) := by
  obtain ⟨rest, hrest⟩ := takeBytes_isPrefix limit t
  have hbytes : bytes t = bytes (takeBytes limit t) ++ bytes rest := by rw [← bytes_append, hrest]
  rw [cutPlace_eq, ← length_bytes, hbytes, List.take_left]

end Text

namespace Log

open Text (bytes byteSize)

theorem byteSize_label (source : String) : byteSize (label source) = byteSize source.toList + 3 := by
  have hclose : byteSize [']', ' '] = 2 := by decide
  have hopen : '['.utf8Size = 1 := by decide
  rw [label, List.cons_append, Text.byteSize_cons, Text.byteSize_append, hclose, hopen]
  omega

/-- A message is cut between characters, behind the longest run of whole ones that fits; and the lines of a log fit
its width where the labels leave room for messages. -/
theorem takeBytes_between_characters :
    (∀ (limit : Nat) (t : Text),
      Text.isBoundary (bytes t) (Text.cutPlace limit t) = true ∧
        bytes (Text.takeBytes limit t) = (bytes t).take (Text.cutPlace limit t) ∧
        Text.takeBytes limit t <+: t ∧ byteSize (Text.takeBytes limit t) ≤ limit ∧
        ∀ kept, kept <+: t → byteSize kept ≤ limit → kept <+: Text.takeBytes limit t) ∧
    ∀ (width : Nat) (entry : Entry), byteSize entry.source.toList < width - 3 →
      byteSize (entry.line width) ≤ width := by
  constructor
  · intro limit t
    refine ⟨?_, Text.bytes_takeBytes limit t, Text.takeBytes_isPrefix limit t,
      Text.byteSize_takeBytes_le limit t, fun kept => Text.isPrefix_takeBytes⟩
    rw [Text.cutPlace_eq]
    exact Text.isBoundary_iff.2 ⟨_, Text.takeBytes_isPrefix limit t, rfl⟩
  · intro width entry hsource
    have hmessage := Text.byteSize_takeBytes_le (width - byteSize (label entry.source)) entry.message
    rw [Entry.line, Text.byteSize_append]
    rw [byteSize_label] at hmessage ⊢
    omega

/-- A limit inside of the third character, and a line with one byte left for its message. -/
theorem takeBytes_between_characters_umlauts :
    let message := "aüé€".toList
    let entry : Entry := { source := "übersicht", message }
    (Text.takeBytes 4 message = "aü".toList ∧ Text.isBoundary (bytes message) 4 = false) ∧
      byteSize entry.source.toList < 14 - 3 ∧ byteSize (entry.line 14) ≤ 14 := by
  intro message entry
  have hsource : byteSize entry.source.toList < 14 - 3 := by decide +kernel
  exact ⟨by decide +kernel, hsource, takeBytes_between_characters.2 14 entry hsource⟩

end Log

end Folio
