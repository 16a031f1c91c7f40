import Reveal.Document

/-!
# Reveal — counting lines and bytes

The lines of a document are counted in its characters, its length in bytes. The two belong
together because a line feed is one byte, and because no other character has that byte in its
encoding: all bytes of a character beyond ASCII have their highest bit set. So the line feeds
of a text are found among its bytes just as among its characters, and every law about the
number of lines becomes one about counting.

## Results

* `pieces_eq_splitOn`     — the parts of a text are those of the standard library.
* `notMem_of_mem_pieces`  — no part contains the separator.
* `count_bytes`           — an ASCII character is counted by its byte.
* `lines_and_bytes`       — the laws of the number of lines and of the length.
-/

namespace Reveal

/-! ## The parts of a text -/

theorem pieces_cons_of_ne {separator c : Char} (h : c ≠ separator) (cs : List Char) :
    pieces separator (c :: cs) = (pieces separator cs).modifyHead (c :: ·) := by
  rw [pieces, if_neg h]
  cases hp : pieces separator cs with
  | nil => exact absurd hp (pieces_ne_nil separator cs)
  | cons piece others => rfl

/-- The pieces are those of the library. -/
theorem pieces_eq_splitOn (separator : Char) (cs : List Char) :
    pieces separator cs = cs.splitOn separator := by
  induction cs with
  | nil => rfl
  | cons c cs ih =>
    rw [List.splitOn_cons_eq_if_modifyHead, ← ih]
    by_cases h : c = separator
    · rw [pieces, if_pos h, if_pos (beq_iff_eq.mpr h)]
    · rw [pieces_cons_of_ne h, if_neg (mt beq_iff_eq.mp h)]

/-- No part contains the separator. -/
theorem notMem_of_mem_pieces {separator : Char} {cs piece : List Char}
    (h : piece ∈ pieces separator cs) : separator ∉ piece := by
  induction cs generalizing piece with
  | nil =>
    obtain rfl : piece = [] := by simpa [pieces] using h
    exact List.not_mem_nil
  | cons c cs ih =>
    by_cases hc : c = separator
    · -- before the separator stands an empty part
      rw [pieces, if_pos hc] at h
      rcases List.mem_cons.mp h with rfl | h
      · exact List.not_mem_nil
      · exact ih h
    · -- any other character is put in front of the first part
      rw [pieces_cons_of_ne hc] at h
      obtain ⟨first, others, hp⟩ := List.exists_cons_of_ne_nil (pieces_ne_nil separator cs)
      rw [hp, List.modifyHead_cons] at h
      rcases List.mem_cons.mp h with rfl | h
      · intro hmem
        rcases List.mem_cons.mp hmem with heq | hmem
        · exact hc heq.symm
        · exact ih (hp ▸ List.mem_cons_self ..) hmem
      · exact ih (hp ▸ List.mem_cons_of_mem _ h)

/-! ## The bytes of a character -/

/-- An ASCII character is encoded as one byte. -/
theorem utf8EncodeChar_of_ascii {c : Char} (h : c.toNat < 0x80) :
    String.utf8EncodeChar c = [UInt8.ofNat c.toNat] :=
  if_pos (show c.val.toNat ≤ 0x7f from Nat.le_of_lt_succ h)

/-- All bytes of another character have their highest bit set, the first one as well as those
that continue it. -/
theorem le_of_mem_utf8EncodeChar {c : Char} (hc : 0x80 ≤ c.toNat) {byte : UInt8}
    (h : byte ∈ String.utf8EncodeChar c) : 0x80 ≤ byte.toNat := by
  have hv : c.val.toNat = c.toNat := rfl
  simp only [String.utf8EncodeChar, hv, if_neg (show ¬c.toNat ≤ 0x7f by omega)] at h
  -- two, three or four bytes
  split at h
  · simp only [List.mem_cons, List.not_mem_nil, or_false] at h
    rcases h with rfl | rfl <;> rw [UInt8.toNat_ofNat'] <;> omega
  · split at h
    · simp only [List.mem_cons, List.not_mem_nil, or_false] at h
      rcases h with rfl | rfl | rfl <;> rw [UInt8.toNat_ofNat'] <;> omega
    · simp only [List.mem_cons, List.not_mem_nil, or_false] at h
      rcases h with rfl | rfl | rfl | rfl <;> rw [UInt8.toNat_ofNat'] <;> omega

/-- The byte of an ASCII character stands in the encoding of no other one. -/
theorem count_utf8EncodeChar {separator : Char} (hascii : separator.toNat < 0x80) (c : Char) :
    (String.utf8EncodeChar c).count (UInt8.ofNat separator.toNat) =
      if c = separator then 1 else 0 := by
  by_cases hc : c.toNat < 0x80
  · -- one byte, which tells the character
    rw [utf8EncodeChar_of_ascii hc, List.count_singleton]
    by_cases h : c = separator
    · rw [if_pos h, h, if_pos (beq_self_eq_true _)]
    · rw [if_neg h, if_neg]
      intro hbyte
      have hcode := congrArg UInt8.toNat (eq_of_beq hbyte)
      rw [UInt8.toNat_ofNat', UInt8.toNat_ofNat', Nat.mod_eq_of_lt (by omega),
        Nat.mod_eq_of_lt (by omega)] at hcode
      exact h (Char.toNat_inj.mp hcode)
  · -- several bytes, all of them beyond those of ASCII
    have hne : c ≠ separator := by
      rintro rfl
      exact hc hascii
    rw [if_neg hne, List.count_eq_zero]
    intro hmem
    have hhigh := le_of_mem_utf8EncodeChar (Nat.le_of_not_lt hc) hmem
    rw [UInt8.toNat_ofNat'] at hhigh
    omega

/-! ## Documents -/

namespace Document

variable (d : Document)

def bytes : List UInt8 := d.text.toUTF8.data.toList

theorem bytes_eq : d.bytes = d.text.toList.flatMap String.utf8EncodeChar := by
  rw [bytes, String.toUTF8_eq_toByteArray, ← String.ofList_toList (s := d.text),
    String.toByteArray_ofList, List.utf8Encode, List.data_toByteArray, String.toList_ofList]

theorem length_bytes : d.bytes.length = d.byteLength := by
  rw [bytes, Array.length_toList, byteLength, ← String.size_toByteArray]
  rfl

/-- **An ASCII character is counted by its byte**, in a text of any characters. -/
theorem count_bytes {separator : Char} (hascii : separator.toNat < 0x80) :
    d.bytes.count (UInt8.ofNat separator.toNat) = d.text.toList.count separator := by
  rw [bytes_eq]
  induction d.text.toList with
  | nil => rfl
  | cons c cs ih =>
    rw [List.flatMap_cons, List.count_append, ih, count_utf8EncodeChar hascii, List.count_cons]
    simp only [beq_iff_eq]
    omega

theorem lineFeed_lt : Char.toNat '\n' < 0x80 := by decide

/-- The lines are counted by the bytes of their ends. -/
theorem lineCount_eq_bytes : d.lineCount = d.bytes.count 0x0a + 1 := by
  rw [lineCount_eq, ← count_bytes d lineFeed_lt]
  rfl

-- the characters before the line feeds have two and three bytes
example : (⟨"é\n✓\n"⟩ : Document).lineCount = 3 ∧
    (⟨"é\n✓\n"⟩ : Document).bytes.count 0x0a = 2 := by decide

/-- The lines, joined again. -/
theorem intercalate_lines : "\n".intercalate d.lines = d.text := by
  rw [← String.toList_inj, String.toList_intercalate, lines, List.map_map]
  -- no line is changed by being made a string and a list again
  have hlines : (pieces '\n' d.text.toList).map (String.toList ∘ String.ofList) =
      pieces '\n' d.text.toList := by
    simp [Function.comp_def]
  rw [hlines, pieces_eq_splitOn]
  exact List.intercalate_splitOn '\n'

theorem notMem_of_mem_lines {line : String} (h : line ∈ d.lines) : '\n' ∉ line.toList := by
  obtain ⟨piece, hpiece, rfl⟩ := List.mem_map.mp h
  rw [String.toList_ofList]
  exact notMem_of_mem_pieces hpiece

/-- There is a line feed in each byte exactly if there is one in each character. -/
theorem bytes_all_iff : (∀ byte ∈ d.bytes, 0x0a = byte) ↔ ∀ c ∈ d.text.toList, c = '\n' := by
  rw [bytes_eq]
  constructor
  · intro h c hc
    -- the encoding of `c` is not empty, so that the byte stands in it
    have hcount : (String.utf8EncodeChar c).count 0x0a = (String.utf8EncodeChar c).length := by
      rw [List.count_eq_length]
      exact fun byte hbyte => h byte (List.mem_flatMap.mpr ⟨c, hc, hbyte⟩)
    have hother : (String.utf8EncodeChar c).count 0x0a = if c = '\n' then 1 else 0 :=
      count_utf8EncodeChar lineFeed_lt c
    by_cases hfeed : c = '\n'
    · exact hfeed
    · rw [if_neg hfeed] at hother
      have hsize := c.utf8Size_pos
      rw [String.length_utf8EncodeChar] at hcount
      omega
  · intro h byte hbyte
    obtain ⟨c, hc, hbyte⟩ := List.mem_flatMap.mp hbyte
    rw [h c hc, utf8EncodeChar_of_ascii lineFeed_lt, List.mem_singleton] at hbyte
    exact hbyte.symm

theorem isEmpty_iff_eq_empty : d.isEmpty = true ↔ d = empty := by
  rw [isEmpty, String.isEmpty_iff]
  exact ⟨fun h => congrArg Document.mk h, fun h => congrArg Document.text h⟩

/-- Nothing but the empty document has no bytes. -/
theorem isEmpty_iff_byteLength : d.isEmpty = true ↔ d.byteLength = 0 := by
  rw [isEmpty, String.isEmpty_iff, byteLength, String.utf8ByteSize_eq_zero_iff]

/-- **The laws of the number of lines and of the length.** A document has one line more than its
text has line feeds, and one more than there are bytes of a line feed in its encoding. Its lines,
with a line feed between each two, are its text, and none of them contains one. If a text is
put together of two, the lines of both are counted, less one unless a line feed stands between
them, and so are the bytes. There are at most as many lines as bytes and one more, and so many
only if the text has nothing but line feeds. It is empty exactly if its length is zero, and
exactly if it is the text that there is by default. -/
theorem lines_and_bytes (a b : Document) :
    (d.lineCount = d.text.toList.count '\n' + 1 ∧
      d.lineCount = d.text.toUTF8.data.toList.count 0x0a + 1) ∧
    ("\n".intercalate d.lines = d.text ∧ ∀ line ∈ d.lines, '\n' ∉ line.toList) ∧
    (lineCount ⟨a.text ++ "\n" ++ b.text⟩ = a.lineCount + b.lineCount ∧
      lineCount ⟨a.text ++ b.text⟩ = a.lineCount + b.lineCount - 1) ∧
    byteLength ⟨a.text ++ b.text⟩ = a.byteLength + b.byteLength ∧
    (d.lineCount ≤ d.byteLength + 1 ∧
      (d.lineCount = d.byteLength + 1 ↔ ∀ c ∈ d.text.toList, c = '\n')) ∧
    (d.isEmpty = true ↔ d.byteLength = 0) ∧ (d.byteLength = 0 ↔ d = empty) := by
  refine ⟨⟨d.lineCount_eq, d.lineCount_eq_bytes⟩,
    ⟨d.intercalate_lines, fun line h => d.notMem_of_mem_lines h⟩, ⟨?_, ?_⟩,
    String.utf8ByteSize_append, ⟨?_, ?_⟩, d.isEmpty_iff_byteLength, ?_⟩
  · -- the line feed between the two is one more
    simp only [lineCount_eq, String.toList_append, List.count_append]
    show _ + 1 + _ + 1 = _
    omega
  · simp only [lineCount_eq, String.toList_append, List.count_append]
    omega
  · -- among the bytes of a text there are at most as many line feeds as bytes
    rw [lineCount_eq_bytes, ← length_bytes]
    exact Nat.succ_le_succ List.count_le_length
  · rw [lineCount_eq_bytes, ← length_bytes, Nat.add_right_cancel_iff, List.count_eq_length]
    exact d.bytes_all_iff
  · rw [← isEmpty_iff_byteLength, isEmpty_iff_eq_empty]

end Document

end Reveal
