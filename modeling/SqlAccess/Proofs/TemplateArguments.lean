/-
The arguments of a template are not looked into.

A template is copied out in a single pass, the arguments being put in where the slots are met
(`Template.transcribe`).  It can also be taken apart before there are arguments (`Template.parse`)
and filled afterwards (`Template.fill`).  Both come to the same (`Template.transcribe_eq`): what an
argument puts into the text is never scanned, and no argument changes where the scanner stands.

The main statement is `Template.arguments_opaque`: the template alone decides whether there is a
connection string, and together with the number of arguments it decides which text stands in it
and where the arguments go.
-/
import SqlAccess.Database

namespace SqlAccess.Template

/-! ### Taking a template apart -/

/-- A part of a template. -/
inductive Piece where
  /-- A character that stands for itself. -/
  | literal (c : Char)
  /-- A slot for the argument at an index, and the text between its braces. -/
  | slot (index : Nat) (written : List Char)
  deriving DecidableEq, Repr

/-- Scans the rest of a template. -/
def scan : Mode → List Char → Except TemplateFlaw (List Piece)
  | .slot _, [] => .error .unmatchedBrace
  | .slot read, c :: cs =>
    if c = '}' then
      match index? read.reverse with
      | none => .error .indexNotNumber
      | some index => (scan .plain cs).map (.slot index read.reverse :: ·)
    else scan (.slot (c :: read)) cs
  | _, [] => .ok []
  | mode, '\'' :: '\'' :: cs => (scan mode cs).map (.literal '\'' :: ·)
  | .plain, '\'' :: cs => scan .quoted cs
  | .quoted, '\'' :: cs => scan .plain cs
  | .plain, '{' :: cs => scan (.slot []) cs
  | mode, c :: cs => (scan mode cs).map (.literal c :: ·)

/-- Takes a template apart. -/
def parse (template : String) : Except TemplateFlaw (List Piece) := scan .plain template.toList

/-- The text of a piece; a slot without an argument stays as it is written. -/
def fillPiece (args : List String) : Piece → List Char
  | .literal c => [c]
  | .slot index written =>
    match args[index]? with
    | some arg => arg.toList
    | none => '{' :: written ++ ['}']

/-- The text of a template with its arguments. -/
def fill (pieces : List Piece) (args : List String) : String :=
  String.ofList (pieces.flatMap (fillPiece args))

theorem map_written (args : List String) (piece : Piece) (out : List Char)
    (rest : Except TemplateFlaw (List Piece)) :
    (rest.map (piece :: ·)).map (fun pieces => out ++ pieces.flatMap (fillPiece args)) =
      rest.map fun pieces => out ++ fillPiece args piece ++ pieces.flatMap (fillPiece args) := by
  cases rest with
  | error flaw => rfl
  | ok pieces => simp [Except.map]

/-- **Copying a template out in a single pass comes to taking it apart first.** -/
theorem transcribe_eq (args : List String) (mode : Mode) (out cs : List Char) :
    transcribe args mode out cs =
      (scan mode cs).map fun pieces => out ++ pieces.flatMap (fillPiece args) := by
  -- what is written already grows, so the induction is on the cases of the scanner, which has none
  fun_induction scan mode cs generalizing out with
  | case1 read =>
    rw [transcribe]
    rfl
  | case2 read cs hindex =>
    rw [transcribe, if_pos rfl, hindex]
    rfl
  | case3 read cs index hindex ih =>
    rw [transcribe, if_pos rfl, hindex, map_written, fillPiece]
    cases harg : args[index]? with
    | some arg => simp only [harg, ih]
    | none => simp only [harg, ih, List.append_assoc, List.cons_append]
  | case4 read c cs hc ih => rw [transcribe, if_neg hc, ih]
  | case5 mode hslot =>
    rw [transcribe]
    · exact congrArg Except.ok (List.append_nil out).symm
    · exact hslot
  | case6 mode cs hslot ih =>
    rw [transcribe, ih, map_written]
    · rfl
    · exact hslot
  | case7 cs hquote ih =>
    rw [transcribe, ih]
    exact hquote
  | case8 cs hquote ih =>
    rw [transcribe, ih]
    exact hquote
  | case9 cs ih => rw [transcribe, ih]
  | case10 mode c cs hslot hquotes hopen hclose hbrace ih =>
    rw [transcribe, ih, map_written]
    · rfl
    all_goals assumption

/-- The connection string is the filled template, which is taken apart without its arguments. -/
theorem connectionUrl_eq_fill (template : String) (args : List String) :
    connectionUrl template args =
      ((parse template).map (fill · args)).mapError fun flaw =>
        .configuration (.malformedTemplate template flaw) := by
  rw [connectionUrl, transcribe_eq, ← parse]
  cases parse template <;> rfl

/-! ### Arguments -/

/-- A part of the text of a template with so many arguments: text that stands there, or the place
of an argument. -/
inductive Part (count : Nat) where
  | text (content : List Char)
  | argument (index : Fin count)

/-- The text of a part: an argument is written as it is. -/
def Part.write {count : Nat} (args : Vector String count) : Part count → List Char
  | text content => content
  | argument index => args[index].toList

/-- What a piece is if there are so many arguments. -/
def Part.ofPiece (count : Nat) : Piece → Part count
  | .literal c => .text [c]
  | .slot index written =>
    if h : index < count then .argument ⟨index, h⟩ else .text ('{' :: written ++ ['}'])

theorem Part.write_ofPiece {count : Nat} (args : Vector String count) (piece : Piece) :
    (ofPiece count piece).write args = fillPiece args.toList piece := by
  cases piece with
  | literal c => rfl
  | slot index written =>
    rw [ofPiece, fillPiece]
    split
    · next h =>
      have harg : args.toList[index]? = some args[index] := by simp [h]
      rw [harg]
      rfl
    · next h =>
      have harg : args.toList[index]? = none := by
        rw [List.getElem?_eq_none_iff, Vector.length_toList]
        omega
      rw [harg]
      rfl

theorem write_ofPieces {count : Nat} (args : Vector String count) (pieces : List Piece) :
    (pieces.map (Part.ofPiece count)).flatMap (Part.write args) =
      pieces.flatMap (fillPiece args.toList) := by
  rw [List.flatMap_map]
  exact congrArg (List.flatMap · pieces) (funext (Part.write_ofPiece args))

/-- **Arguments are not looked into.**  Either a template fails with one error for all arguments,
however many, or for every number of arguments there is one list of parts, texts and places of
arguments, by which it is written with any arguments of this number.  Copying it out comes to
taking it apart without the arguments and filling it afterwards. -/
theorem arguments_opaque (template : String) :
    ((∃ flaw, ∀ args, connectionUrl template args =
        .error (.configuration (.malformedTemplate template flaw))) ∨
      ∀ count, ∃ parts : List (Part count), ∀ args : Vector String count,
        connectionUrl template args.toList =
          .ok (String.ofList (parts.flatMap (Part.write args)))) ∧
      ∀ args, connectionUrl template args =
        ((parse template).map (fill · args)).mapError fun flaw =>
          .configuration (.malformedTemplate template flaw) := by
  refine ⟨?_, connectionUrl_eq_fill template⟩
  cases hparse : parse template with
  | error flaw =>
    refine .inl ⟨flaw, fun args => ?_⟩
    rw [connectionUrl_eq_fill, hparse]
    rfl
  | ok pieces =>
    refine .inr fun count => ⟨pieces.map (Part.ofPiece count), fun args => ?_⟩
    rw [connectionUrl_eq_fill, hparse, write_ofPieces]
    rfl

/-- Braces and quotes of an argument stand in the text as they are. -/
example : connectionUrl "db:\x7b0\x7d/\x7b1\x7d" ["\x7b1\x7d", "'\x7b"] =
    .ok "db:\x7b1\x7d/'\x7b" := by cbv

end SqlAccess.Template
