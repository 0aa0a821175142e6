/-
Lower-case texts.

`lower` is the full lower-case mapping of the Unicode standard.  Every character
is mapped on its own, by `lowerChar`, except the capital sigma: at the end of a
word it becomes the final sigma.  `foldAscii` touches the letters A to Z only;
texts that agree under it are equal up to ASCII case.
-/
import SqlAccess.Text.Casing

namespace SqlAccess.Text

/-- The lower-case form of a character that does not depend on its neighbours. -/
def lowerChar (c : Char) : List Char :=
  if c.toNat < 0x80 then [c.toLower]
  else if c = 'İ' then ['i', '\u0307']
  else [((lowerRuns.findSome? (·.lower? c.toNat)).map Char.ofNat).getD c]

/-- Whether the first character that is not case-ignorable is a cased letter. -/
def meetsCased (cs : List Char) : Bool :=
  match cs.dropWhile (CharRange.cover caseIgnorableRanges) with
  | [] => false
  | c :: _ => CharRange.cover casedRanges c

/-- Lowers a text; `before` is the text already passed, last character first. -/
def lowerAfter (before : List Char) : List Char → List Char
  | [] => []
  | c :: rest =>
    (if c = 'Σ' then [if meetsCased before && !meetsCased rest then 'ς' else 'σ']
      else lowerChar c) ++ lowerAfter (c :: before) rest

/-- The lower-case form of a text. -/
def lower (cs : List Char) : List Char := lowerAfter [] cs

/-- `lower` on strings. -/
def lowered (s : String) : String := String.ofList (lower s.toList)

/-- The text with the letters A to Z lowered. -/
def foldAscii (s : String) : List Char := s.toList.map Char.toLower

/-- Whether two texts differ in the case of ASCII letters at most. -/
def eqIgnoreAsciiCase (s t : String) : Bool := foldAscii s == foldAscii t

theorem eqIgnoreAsciiCase_iff {s t : String} :
    eqIgnoreAsciiCase s t = true ↔ foldAscii s = foldAscii t := by
  simp [eqIgnoreAsciiCase]

@[simp] theorem eqIgnoreAsciiCase_refl (s : String) : eqIgnoreAsciiCase s s = true := by
  simp [eqIgnoreAsciiCase_iff]

end SqlAccess.Text
