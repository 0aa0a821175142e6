/-
What a template means.

A template that is put together from segments, each written as it should be, gives the text that
the segments stand for: `Template.segments_written`.  A quote stands for an opening quote, a
closing one, or the first half of a doubled one, which only the character behind it tells.  So a
quoted text must not be followed by a quote; all other segments may follow one another.

The induction is on the segments: `Template.transcribe_segment` says what is copied out of one
segment in front of others, and each kind of segment has an induction of its own.
-/
import Mathlib.Data.List.Chain
import SqlAccess.Database
import SqlAccess.Proofs.TemplateSlots

namespace SqlAccess.Template

/-! ### Segments -/

/-- A part of a template, as it is meant. -/
inductive Segment where
  /-- Text that stands for itself. -/
  | plain (text : List Char) (nonempty : text ≠ [])
    (unquoted : ∀ c ∈ text, c ≠ '\'' ∧ c ≠ '{')
  /-- A slot for an argument, by the digits of its index and the blanks around them. -/
  | slot (before digits after : List Char)
    (blank : ∀ c ∈ before ++ after, Text.isBlank c = true)
    (nonempty : digits ≠ []) (numeral : ∀ c ∈ digits, c.isDigit = true)
    (bounded : Text.digitsValue digits < UInt64.size)
  /-- A quote. -/
  | quote
  /-- Text between quotes, not of quotes alone. -/
  | quoted (text : List Char) (letter : ∃ c ∈ text, c ≠ '\'')

namespace Segment

/-- A character as it is written between quotes. -/
def double (c : Char) : List Char := if c = '\'' then ['\'', '\''] else [c]

/-- The segment as it is written in a template. -/
def written : Segment → List Char
  | plain text _ _ => text
  | slot before digits after _ _ _ _ => '{' :: (before ++ digits ++ after) ++ ['}']
  | quote => ['\'', '\'']
  | quoted text _ => '\'' :: text.flatMap double ++ ['\'']

/-- What the segment stands for. -/
def meaning (args : List String) : Segment → List Char
  | plain text _ _ => text
  | slot before digits after _ _ _ _ =>
    (args[Text.digitsValue digits]?.map String.toList).getD
      ('{' :: (before ++ digits ++ after) ++ ['}'])
  | quote => ['\'']
  | quoted text _ => text

/-- Whether one segment may stand directly in front of another: no quote follows a quoted text. -/
def Apart : Segment → Segment → Prop
  | quoted _ _, quoted _ _ => False
  | quoted _ _, quote => False
  | _, _ => True

end Segment

/-! ### Single characters -/

variable {args : List String} {out rest : List Char}

def NoQuote (rest : List Char) : Prop := rest.head? ≠ some '\''

theorem transcribe_plain {c : Char} (hquote : c ≠ '\'') (hbrace : c ≠ '{') :
    transcribe args .plain out (c :: rest) = transcribe args .plain (out ++ [c]) rest := by
  simp [transcribe, hquote, hbrace]

theorem transcribe_quoted {c : Char} (hquote : c ≠ '\'') :
    transcribe args .quoted out (c :: rest) = transcribe args .quoted (out ++ [c]) rest := by
  simp [transcribe, hquote]

theorem transcribe_opening (h : NoQuote rest) :
    transcribe args .plain out ('\'' :: rest) = transcribe args .quoted out rest := by
  rw [transcribe]
  rintro cs rfl
  exact h rfl

theorem transcribe_closing (h : NoQuote rest) :
    transcribe args .quoted out ('\'' :: rest) = transcribe args .plain out rest := by
  rw [transcribe]
  rintro cs rfl
  exact h rfl

/-! ### Segments of each kind -/

theorem transcribe_plain_append {text : List Char} (h : ∀ c ∈ text, c ≠ '\'' ∧ c ≠ '{') :
    transcribe args .plain out (text ++ rest) = transcribe args .plain (out ++ text) rest := by
  induction text generalizing out with
  | nil => rw [List.nil_append, List.append_nil]
  | cons c text ih =>
    obtain ⟨hquote, hbrace⟩ := h c List.mem_cons_self
    rw [List.cons_append, transcribe_plain hquote hbrace,
      ih fun d hd => h d (List.mem_cons_of_mem c hd), List.append_assoc, List.singleton_append]

theorem transcribe_quoted_append (text : List Char) (hrest : NoQuote rest) :
    transcribe args .quoted out (text.flatMap Segment.double ++ '\'' :: rest) =
      transcribe args .plain (out ++ text) rest := by
  induction text generalizing out with
  | nil => rw [List.flatMap_nil, List.nil_append, transcribe_closing hrest, List.append_nil]
  | cons c text ih =>
    have hsplit : out ++ c :: text = out ++ [c] ++ text := by simp
    rw [List.flatMap_cons, List.append_assoc, hsplit, ← ih, Segment.double]
    -- a doubled quote is copied once, whatever stands behind it
    by_cases hquote : c = '\''
    · subst hquote
      simp [transcribe]
    · rw [if_neg hquote]
      exact transcribe_quoted hquote

theorem transcribe_opening_append {text : List Char} (hletter : ∃ c ∈ text, c ≠ '\'')
    (hrest : NoQuote rest) :
    transcribe args .plain out ('\'' :: (text.flatMap Segment.double ++ '\'' :: rest)) =
      transcribe args .plain (out ++ text) rest := by
  induction text generalizing out with
  | nil =>
    obtain ⟨c, hc, -⟩ := hletter
    cases hc
  | cons c text ih =>
    -- quotes that the text begins with are copied before the opening quote is known as one
    by_cases hquote : c = '\''
    · subst hquote
      have hletter' : ∃ d ∈ text, d ≠ '\'' := by
        obtain ⟨d, hd, hne⟩ := hletter
        exact ⟨d, (List.mem_cons.1 hd).resolve_left hne, hne⟩
      have hsplit : out ++ '\'' :: text = out ++ ['\''] ++ text := by simp
      rw [hsplit, ← ih hletter']
      simp [Segment.double, transcribe]
    · have hopen : NoQuote ((c :: text).flatMap Segment.double ++ '\'' :: rest) := by
        simp [NoQuote, Segment.double, hquote]
      rw [transcribe_opening hopen, transcribe_quoted_append _ hrest]

theorem transcribe_slot_append {read content : List Char} (h : ∀ c ∈ content, c ≠ '}') :
    transcribe args (.slot read) out (content ++ '}' :: rest) =
      transcribe args (.slot (content.reverse ++ read)) out ('}' :: rest) := by
  induction content generalizing read with
  | nil => rfl
  | cons c content ih =>
    rw [List.cons_append, transcribe, if_neg (h c List.mem_cons_self),
      ih fun d hd => h d (List.mem_cons_of_mem c hd), List.reverse_cons, List.append_assoc,
      List.singleton_append]

/-- Digits between blanks are the index that they write. -/
theorem index?_digits {before digits after : List Char}
    (hblank : ∀ c ∈ before ++ after, Text.isBlank c = true) (hne : digits ≠ [])
    (hdigits : ∀ c ∈ digits, c.isDigit = true)
    (hbound : Text.digitsValue digits < UInt64.size) :
    index? (before ++ digits ++ after) = some (Text.digitsValue digits) :=
  index?_eq_some.2 ⟨hbound, digits, ⟨before, after, hblank, rfl⟩, .bare ⟨hne, hdigits, rfl⟩⟩

/-- A slot is copied out as its argument, or as it is written if there is none. -/
theorem transcribe_slot {content : List Char} {index : Nat} (hcontent : ∀ c ∈ content, c ≠ '}')
    (hindex : index? content = some index) :
    transcribe args .plain out ('{' :: (content ++ '}' :: rest)) =
      transcribe args .plain
        (out ++ (args[index]?.map String.toList).getD ('{' :: content ++ ['}'])) rest := by
  rw [transcribe, transcribe_slot_append hcontent, List.append_nil, transcribe, if_pos rfl,
    List.reverse_reverse, hindex]
  cases harg : args[index]? with
  | some arg => simp only [harg, Option.map_some, Option.getD_some]
  | none => simp [harg]

/-! ### Templates -/

/-- A segment is copied out as what it stands for, if no quote follows a quoted text. -/
theorem transcribe_segment (segment : Segment)
    (hrest : ∀ text letter, segment = .quoted text letter → NoQuote rest) :
    transcribe args .plain out (segment.written ++ rest) =
      transcribe args .plain (out ++ segment.meaning args) rest := by
  cases segment with
  | plain text nonempty unquoted => exact transcribe_plain_append unquoted
  | quote => rfl
  | quoted text letter =>
    have hwritten : (Segment.quoted text letter).written ++ rest =
        '\'' :: (text.flatMap Segment.double ++ '\'' :: rest) := by
      simp [Segment.written]
    rw [hwritten, transcribe_opening_append letter (hrest text letter rfl)]
    rfl
  | slot before digits after blank nonempty numeral bounded =>
    have hindex := index?_digits blank nonempty numeral bounded
    have hcontent : ∀ c ∈ before ++ digits ++ after, c ≠ '}' := fun c hc =>
      ((isIndex_iff.2 ⟨_, hindex⟩).ne hc).2.2
    have hwritten : (Segment.slot before digits after blank nonempty numeral bounded).written ++
        rest = '{' :: (before ++ digits ++ after ++ '}' :: rest) := by
      simp [Segment.written]
    rw [hwritten, transcribe_slot hcontent hindex]
    rfl

/-- What may follow a quoted text does not begin with a quote. -/
theorem noQuote_written {text : List Char} {letter : ∃ c ∈ text, c ≠ '\''} {next : Segment}
    (h : Segment.Apart (.quoted text letter) next) : NoQuote (next.written ++ rest) := by
  cases next with
  | plain text nonempty unquoted =>
    obtain ⟨c, cs, rfl⟩ := List.exists_cons_of_ne_nil nonempty
    simpa [NoQuote, Segment.written] using (unquoted c List.mem_cons_self).1
  | slot before digits after blank nonempty numeral bounded =>
    simp [NoQuote, Segment.written]
  | quote => exact h.elim
  | quoted text letter => exact h.elim

theorem transcribe_segments {segments : List Segment} (h : segments.IsChain Segment.Apart) :
    transcribe args .plain out (segments.flatMap Segment.written) =
      .ok (out ++ segments.flatMap (Segment.meaning args)) := by
  induction segments generalizing out with
  | nil => simp [transcribe]
  | cons segment segments ih =>
    obtain ⟨hnext, hchain⟩ := List.isChain_cons.1 h
    have hrest : ∀ text letter, segment = .quoted text letter →
        NoQuote (segments.flatMap Segment.written) := by
      rintro text letter rfl
      cases segments with
      | nil => simp [NoQuote]
      | cons next segments => exact noQuote_written (hnext next rfl)
    rw [List.flatMap_cons, transcribe_segment segment hrest, ih hchain, List.flatMap_cons,
      List.append_assoc]

/-- **A template means what it is put together from.**  The text of segments that may follow one
another is, for any arguments, what the segments stand for. -/
theorem segments_written {segments : List Segment} (h : segments.IsChain Segment.Apart)
    (args : List String) :
    connectionUrl (String.ofList (segments.flatMap Segment.written)) args =
      .ok (String.ofList (segments.flatMap (Segment.meaning args))) := by
  rw [connectionUrl, String.toList_ofList, transcribe_segments h]
  rfl

/-- A quoted text with braces and with quotes at its ends, and a slot without an argument. -/
theorem segments_written_of_host :
    let segments : List Segment :=
      [.plain ['d', 'b', ':'] (by simp) (by simp),
        .slot [' '] ['0', '1'] ['\t'] (by simp; decide) (by simp) (by simp) (by decide),
        .quoted ['\'', '{', '0', '}', '\''] (by simp), .plain ['}'] (by simp) (by simp),
        .quote, .quote, .slot [] ['7'] [] (by simp) (by simp) (by simp) (by decide)]
    segments.IsChain Segment.Apart ∧
      String.ofList (segments.flatMap Segment.written) =
        "db:\x7b 01\t\x7d'''\x7b0\x7d'''\x7d''''\x7b7\x7d" ∧
      connectionUrl (String.ofList (segments.flatMap Segment.written)) ["main", "'\x7b0\x7d"] =
        .ok "db:'\x7b0\x7d'\x7b0\x7d'\x7d''\x7b7\x7d" := by
  intro segments
  have hchain : segments.IsChain Segment.Apart := by simp [segments, Segment.Apart]
  exact ⟨hchain, by decide +kernel, segments_written hchain _⟩

/-- Two quoted texts in a row are one text with a quote in it. -/
example : connectionUrl "'a''b'" [] = .ok "a'b" := by cbv

end SqlAccess.Template
