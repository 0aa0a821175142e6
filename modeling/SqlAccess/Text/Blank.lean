/-
Blank characters, and trimming them from the ends of a text.

A character is blank if it has the Unicode property White_Space.  `trim` removes
the blanks at both ends of a text and nothing else: `trim_eq_self` says that a
text without a blank at either end stays as it is, and `trim_pad` that blanks
put around a text do not change what `trim` makes of it.
-/
import SqlAccess.Text.CharRange

namespace SqlAccess.Text

/-- The code points with the property White_Space. -/
def blankRanges : List CharRange :=
  [⟨0x09, 0x0D⟩, ⟨0x20, 0x20⟩, ⟨0x85, 0x85⟩, ⟨0xA0, 0xA0⟩, ⟨0x1680, 0x1680⟩,
   ⟨0x2000, 0x200A⟩, ⟨0x2028, 0x2029⟩, ⟨0x202F, 0x202F⟩, ⟨0x205F, 0x205F⟩,
   ⟨0x3000, 0x3000⟩]

/-- Whether a character is white space. -/
def isBlank (c : Char) : Bool := CharRange.cover blankRanges c

/-- The text from its first character that is not blank. -/
def trimStart (cs : List Char) : List Char := cs.dropWhile isBlank

/-- The text up to its last character that is not blank. -/
def trimEnd (cs : List Char) : List Char := (cs.reverse.dropWhile isBlank).reverse

/-- The text without the blanks at its ends. -/
def trim (cs : List Char) : List Char := trimEnd (trimStart cs)

/-- Whether the text holds nothing but blanks. -/
def allBlank (cs : List Char) : Bool := cs.all isBlank

/-- `trim` on strings. -/
def trimmed (s : String) : String := String.ofList (trim s.toList)

theorem trimStart_append_of_all {pad cs : List Char} (h : ∀ c ∈ pad, isBlank c = true) :
    trimStart (pad ++ cs) = trimStart cs := by
  induction pad with
  | nil => rfl
  | cons c pad ih =>
    have hc : isBlank c = true := h c (by simp)
    simp only [trimStart, List.cons_append, List.dropWhile_cons, hc, if_true]
    exact ih fun d hd => h d (by simp [hd])

theorem trimEnd_append_of_all {pad cs : List Char} (h : ∀ c ∈ pad, isBlank c = true) :
    trimEnd (cs ++ pad) = trimEnd cs := by
  have hr : ∀ c ∈ pad.reverse, isBlank c = true := fun c hc => h c (by simpa using hc)
  have : trimStart (pad.reverse ++ cs.reverse) = trimStart cs.reverse := trimStart_append_of_all hr
  simp only [trimStart] at this
  simp only [trimEnd, List.reverse_append, this]

theorem trimStart_of_head {c : Char} {cs : List Char} (h : isBlank c = false) :
    trimStart (c :: cs) = c :: cs := by
  simp [trimStart, h]

theorem trimEnd_of_last {c : Char} {cs : List Char} (h : isBlank c = false) :
    trimEnd (cs ++ [c]) = cs ++ [c] := by
  simp [trimEnd, h]

/-- A text without a blank at either end is its own trimming. -/
theorem trim_eq_self {cs : List Char} (hhead : ∀ c ∈ cs.head?, isBlank c = false)
    (hlast : ∀ c ∈ cs.getLast?, isBlank c = false) : trim cs = cs := by
  rcases List.eq_nil_or_concat cs with rfl | ⟨init, last, rfl⟩
  · rfl
  · have hl : isBlank last = false := hlast last (by simp)
    cases init with
    | nil => simp [trim, trimStart, trimEnd, hl]
    | cons c init =>
      have hc : isBlank c = false := hhead c (by simp)
      rw [trim, List.concat_eq_append, List.cons_append, trimStart_of_head hc,
        ← List.cons_append, trimEnd_of_last hl]

/-- The text comes back with what was cut off its end. -/
theorem trimEnd_append_cut (cs : List Char) :
    trimEnd cs ++ (cs.reverse.takeWhile isBlank).reverse = cs := by
  rw [trimEnd, ← List.reverse_append, List.takeWhile_append_dropWhile, List.reverse_reverse]

theorem isBlank_of_head?_dropWhile {c : Char} {cs : List Char}
    (h : c ∈ (cs.dropWhile isBlank).head?) : isBlank c = false := by
  have hnot := List.head?_dropWhile_not isBlank cs
  rwa [Option.mem_def.1 h] at hnot

/-- A trimmed text does not begin with a blank. -/
theorem isBlank_of_head?_trim {c : Char} {cs : List Char} (h : c ∈ (trim cs).head?) :
    isBlank c = false := by
  obtain ⟨rest, hrest⟩ := List.head?_eq_some_iff.1 h
  have hcut := trimEnd_append_cut (trimStart cs)
  rw [← trim, hrest, List.cons_append] at hcut
  have hstart : c ∈ (trimStart cs).head? := by
    rw [← hcut]
    rfl
  exact isBlank_of_head?_dropWhile hstart

/-- Nor does it end in one. -/
theorem isBlank_of_getLast?_trim {c : Char} {cs : List Char} (h : c ∈ (trim cs).getLast?) :
    isBlank c = false := by
  rw [trim, trimEnd, List.getLast?_reverse] at h
  exact isBlank_of_head?_dropWhile h

/-- Blanks around a text do not change its trimming. -/
theorem trim_pad {before after cs : List Char} (hb : ∀ c ∈ before, isBlank c = true)
    (ha : ∀ c ∈ after, isBlank c = true) (hcs : ∃ c ∈ cs, isBlank c = false) :
    trim (before ++ cs ++ after) = trim cs := by
  rw [trim, List.append_assoc, trimStart_append_of_all hb, trim]
  suffices h : trimStart (cs ++ after) = trimStart cs ++ after by
    rw [h, trimEnd_append_of_all ha]
  obtain ⟨d, hd, hdb⟩ := hcs
  induction cs with
  | nil => simp at hd
  | cons c cs ih =>
    cases hc : isBlank c with
    | false => rw [List.cons_append, trimStart_of_head hc, trimStart_of_head hc, List.cons_append]
    | true =>
      have hmem : d ∈ cs := by
        rcases List.mem_cons.1 hd with rfl | h
        · simp [hc] at hdb
        · exact h
      simpa [trimStart, List.dropWhile_cons, hc] using ih hmem

end SqlAccess.Text
