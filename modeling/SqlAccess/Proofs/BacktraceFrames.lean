/-
The frames of a backtrace are read back, and the first run of the application is taken.

A backtrace in its standard form is stated in two layers: what its lines say (`Trace.Lists`), and
how the lines are written, with white space in front of them and LF or CRLF behind (`Trace.Lines`).
The frames come back from such a text whatever their names are (`Trace.parseFrames_of_lists`): a
line begins with the digits of an index or with `at`, so that a name is never taken for anything
else.

What is taken of the frames is stated by how the list of those outside the tracer falls apart:
foreign frames, the run, and what follows it (`Trace.FirstRun`).  There is exactly one such run
(`Trace.firstRun_iff`), and one pass over the frames finds it (`Trace.pass_nil`).  The main
statement is `Trace.first_run_recovered`.
-/
import SqlAccess.Proofs.NumeralText
import SqlAccess.Trace.Frames

namespace SqlAccess.Trace

/-- A text that can stand in a line: it is not empty, no line feed is in it, and no white space is
at its ends. -/
structure Inline (cs : List Char) : Prop where
  nonempty : cs ≠ []
  unbroken : '\n' ∉ cs
  head : ∀ c ∈ cs.head?, Text.isBlank c = false
  last : ∀ c ∈ cs.getLast?, Text.isBlank c = false

instance (cs : List Char) : Decidable (Inline cs) :=
  decidable_of_iff (cs ≠ [] ∧ '\n' ∉ cs ∧ cs.head?.all (!Text.isBlank ·) = true ∧
    cs.getLast?.all (!Text.isBlank ·) = true) <| by
      simp only [Option.all_eq_true, Bool.not_eq_true']
      exact ⟨fun ⟨hne, hunbroken, hhead, hlast⟩ => ⟨hne, hunbroken, hhead, hlast⟩,
        fun h => ⟨h.nonempty, h.unbroken, h.head, h.last⟩⟩

/-- White space in front of what a line says. -/
def Indent (cs : List Char) : Prop := ∀ c ∈ cs, Text.isBlank c = true ∧ c ≠ '\n'

instance (cs : List Char) : Decidable (Indent cs) := List.decidableBAll _ _

/-- The text is written in lines that say what is listed.  Each may be indented and ends in LF or in
CRLF; behind the last line of the text there may be neither. -/
inductive Lines : List (List Char) → List Char → Prop
  | nil : Lines [] []
  | last {indent content : List Char} (hindent : Indent indent) :
    Lines [content] (indent ++ content)
  | lf {indent content text : List Char} {more : List (List Char)} (hindent : Indent indent)
    (h : Lines more text) : Lines (content :: more) (indent ++ content ++ '\n' :: text)
  | crlf {indent content text : List Char} {more : List (List Char)} (hindent : Indent indent)
    (h : Lines more text) : Lines (content :: more) (indent ++ content ++ '\r' :: '\n' :: text)

/-- The lines that stand for a frame: its index and its name, and its location if it has one. -/
def Frame.lines (index : List Char) (f : Frame) : List (List Char) :=
  (index ++ ": ".toList ++ f.name) :: (f.location.map ("at ".toList ++ ·)).toList

/-- The lines list the frames in the standard form. -/
inductive Lists : List Frame → List (List Char) → Prop
  | nil : Lists [] []
  | frame {index : List Char} {f : Frame} {frames : List Frame} {lines : List (List Char)}
    (hindex : index ≠ []) (hdigits : ∀ c ∈ index, c.isDigit = true) (hname : Inline f.name)
    (hlocation : ∀ place ∈ f.location, Inline place) (h : Lists frames lines) :
    Lists (f :: frames) (f.lines index ++ lines)

/-- What a name is without the angle brackets in front of it. -/
def Bare (name path : List Char) : Prop :=
  ∃ angles, (∀ c ∈ angles, c = '<') ∧ name = angles ++ path ∧ path.head? ≠ some '<'

/-- The frame is one of the tracer. -/
def Frame.OfTracer (f : Frame) : Prop :=
  ∃ path rest, Bare f.name path ∧ path = "dbquery::core::trace::".toList ++ rest

/-- The frame is one of the application: its path is a namespace or goes on behind one. -/
def Frame.OfApplication (namespaces : List String) (f : Frame) : Prop :=
  ∃ path, Bare f.name path ∧
    ∃ n ∈ namespaces, path = n.toList ∨ ∃ rest, path = n.toList ++ "::".toList ++ rest

variable {f : Frame} {frames run : List Frame} {namespaces : List String}
  {cs name path indent content text : List Char} {lines : List (List Char)}

/-! ### Names -/

theorem bare_iff : Bare f.name path ↔ path = f.path := by
  have hsplit : f.name.takeWhile (· == '<') ++ f.path = f.name := List.takeWhile_append_dropWhile
  constructor
  · rintro ⟨angles, hangles, hname, hhead⟩
    have hall : ∀ c ∈ angles, (c == '<') = true := fun c hc => beq_iff_eq.2 (hangles c hc)
    rw [Frame.path, hname, List.dropWhile_append_of_pos hall]
    cases path with
    | nil => rfl
    | cons c path =>
      have hc : ¬(c == '<') = true := fun hc => hhead (congrArg some (beq_iff_eq.1 hc))
      exact (List.dropWhile_cons_of_neg (p := (· == '<')) hc).symm
  · rintro rfl
    refine ⟨f.name.takeWhile (· == '<'), fun c hc => ?_, hsplit.symm, fun hhead => ?_⟩
    · exact beq_iff_eq.1 (List.all_eq_true.1 List.all_takeWhile c hc)
    · have hnot := List.head?_dropWhile_not (· == '<') f.name
      rw [← Frame.path, hhead] at hnot
      exact absurd hnot (by decide)

theorem isTracer_iff : f.isTracer = true ↔ f.OfTracer := by
  rw [Frame.isTracer, Option.isSome_iff_exists, Frame.OfTracer]
  constructor
  · rintro ⟨rest, h⟩
    exact ⟨f.path, rest, bare_iff.2 rfl, Text.stripPrefix?_eq_some.1 h⟩
  · rintro ⟨path, rest, hpath, h⟩
    exact ⟨rest, Text.stripPrefix?_eq_some.2 (bare_iff.1 hpath ▸ h)⟩

theorem liesIn_iff {space : List Char} :
    Frame.liesIn path space = true ↔
      path = space ∨ ∃ rest, path = space ++ "::".toList ++ rest := by
  rw [Frame.liesIn]
  constructor
  · intro h
    split at h
    · next heq => exact .inl ((Text.stripPrefix?_eq_some.1 heq).trans (List.append_nil space))
    · next rest heq =>
      refine .inr ⟨rest, (Text.stripPrefix?_eq_some.1 heq).trans ?_⟩
      rw [List.append_assoc]
      rfl
    · cases h
  · rintro (rfl | ⟨rest, rfl⟩)
    · rw [Text.stripPrefix?_eq_some.2 (List.append_nil path).symm]
    · rw [Text.stripPrefix?_eq_some.2 (List.append_assoc space "::".toList rest)]
      rfl

theorem isApplication_iff : f.isApplication namespaces = true ↔ f.OfApplication namespaces := by
  rw [Frame.isApplication, List.any_eq_true, Frame.OfApplication]
  constructor
  · rintro ⟨n, hn, h⟩
    exact ⟨f.path, bare_iff.2 rfl, n, hn, liesIn_iff.1 h⟩
  · rintro ⟨path, hpath, n, hn, h⟩
    exact ⟨n, hn, liesIn_iff.2 (bare_iff.1 hpath ▸ h)⟩

instance (f : Frame) : Decidable f.OfTracer := decidable_of_iff _ isTracer_iff

instance (namespaces : List String) (f : Frame) : Decidable (f.OfApplication namespaces) :=
  decidable_of_iff _ isApplication_iff

/-! ### The first run -/

theorem eq_false_of_head_dropWhile {p : Frame → Bool} (h : f ∈ (frames.dropWhile p).head?) :
    p f = false := by
  have hnot := List.head?_dropWhile_not p frames
  rwa [Option.mem_def.1 h] at hnot

/-- The application frames behind the first foreign ones, up to the next; those of the tracer do not
count. -/
def applicationRun (namespaces : List String) (frames : List Frame) : List Frame :=
  ((frames.filter (!·.isTracer)).dropWhile (!·.isApplication namespaces)).takeWhile
    (·.isApplication namespaces)

/-- The first run of application frames: without those of the tracer, the frames are foreign ones,
then the run, and then what follows the run. -/
inductive FirstRun (namespaces : List String) (frames : List Frame) : List Frame → Prop
  | intro (before run after : List Frame)
    (hsplit : frames.filter (fun f => ¬f.OfTracer) = before ++ run ++ after)
    (hbefore : ∀ f ∈ before, ¬f.OfApplication namespaces)
    (hrun : ∀ f ∈ run, f.OfApplication namespaces)
    (hafter : ∀ f ∈ after.head?, ¬f.OfApplication namespaces)
    (hfirst : run = [] → after = []) : FirstRun namespaces frames run

theorem filter_ofTracer (frames : List Frame) :
    frames.filter (fun f => ¬f.OfTracer) = frames.filter (!·.isTracer) := by
  refine List.filter_congr fun f _ => ?_
  cases h : f.isTracer with
  | true => exact decide_eq_false (not_not_intro (isTracer_iff.1 h))
  | false => exact decide_eq_true fun htracer => by simp [isTracer_iff.2 htracer] at h

/-- The first stretch of a list on which `p` holds, by what stands around it. -/
theorem first_stretch_iff {p : Frame → Bool} {kept : List Frame} :
    run = (kept.dropWhile (!p ·)).takeWhile p ↔
      ∃ before after, kept = before ++ run ++ after ∧ (∀ f ∈ before, ¬p f = true) ∧
        (∀ f ∈ run, p f = true) ∧ (∀ f ∈ after.head?, ¬p f = true) ∧ (run = [] → after = []) := by
  constructor
  · rintro rfl
    refine ⟨kept.takeWhile (!p ·), (kept.dropWhile (!p ·)).dropWhile p, ?_, fun f hf => ?_,
      fun f hf => ?_, fun f hf => ?_, fun hnil => ?_⟩
    · rw [List.append_assoc, List.takeWhile_append_dropWhile, List.takeWhile_append_dropWhile]
    · simpa using List.all_eq_true.1 List.all_takeWhile f hf
    · exact List.all_eq_true.1 List.all_takeWhile f hf
    · simpa using eq_false_of_head_dropWhile hf
    · cases hrest : kept.dropWhile (!p ·) with
      | nil => rfl
      | cons f rest =>
        have hf : f ∈ (kept.dropWhile (!p ·)).head? := by rw [hrest]; rfl
        have hp : p f = true := by simpa using eq_false_of_head_dropWhile hf
        rw [hrest, List.takeWhile_cons_of_pos hp] at hnil
        cases hnil
  · rintro ⟨before, after, rfl, hbefore, hrun, hafter, hfirst⟩
    have hpassed : ∀ f ∈ before, (!p f) = true := fun f hf => by simpa using hbefore f hf
    have hdropped : (run ++ after).dropWhile (!p ·) = run ++ after := by
      cases run with
      | nil => rw [hfirst rfl]; rfl
      | cons f run =>
        exact List.dropWhile_cons_of_neg (by simpa using hrun f List.mem_cons_self)
    have hstop : after.takeWhile p = [] := by
      cases after with
      | nil => rfl
      | cons f after => exact List.takeWhile_cons_of_neg (hafter f rfl)
    rw [List.append_assoc, List.dropWhile_append_of_pos hpassed, hdropped,
      List.takeWhile_append_of_pos hrun, hstop, List.append_nil]

/-- **There is exactly one first run of application frames.** -/
theorem firstRun_iff : FirstRun namespaces frames run ↔ run = applicationRun namespaces frames := by
  rw [applicationRun, first_stretch_iff, ← filter_ofTracer]
  simp only [isApplication_iff]
  constructor
  · rintro ⟨before, _, after, hsplit, hbefore, hrun, hafter, hfirst⟩
    exact ⟨before, after, hsplit, hbefore, hrun, hafter, hfirst⟩
  · rintro ⟨before, after, hsplit, hbefore, hrun, hafter, hfirst⟩
    exact ⟨before, run, after, hsplit, hbefore, hrun, hafter, hfirst⟩

/-! ### The pass over the frames -/

/-- Once the run has begun, the pass goes on to its end. -/
theorem pass_of_begun {out : List String} (hout : out ≠ []) :
    pass namespaces out frames =
      out ++ ((frames.filter (!·.isTracer)).takeWhile
        (·.isApplication namespaces)).map Frame.text := by
  induction frames generalizing out with
  | nil => exact (List.append_nil out).symm
  | cons f rest ih =>
    rw [pass, List.filter_cons]
    cases f.isTracer with
    | true => exact ih hout
    | false =>
      cases happ : f.isApplication namespaces with
      | true =>
        simp only [Bool.false_eq_true, if_false, if_true, Bool.not_false,
          List.takeWhile_cons_of_pos happ, List.map_cons]
        rw [ih (List.append_ne_nil_of_left_ne_nil hout [f.text]), List.append_assoc,
          List.singleton_append]
      | false =>
        have hne : out.isEmpty = false := List.isEmpty_eq_false_iff.2 hout
        simp [hne, happ]

/-- **One pass over the frames takes the first run.** -/
theorem pass_nil :
    pass namespaces [] frames = (applicationRun namespaces frames).map Frame.text := by
  rw [applicationRun]
  induction frames with
  | nil => rfl
  | cons f rest ih =>
    rw [pass, List.filter_cons]
    cases f.isTracer with
    | true => exact ih
    | false =>
      cases happ : f.isApplication namespaces with
      | true =>
        have hbegun : pass namespaces [f.text] rest =
            [f.text] ++ ((rest.filter (!·.isTracer)).takeWhile
              (·.isApplication namespaces)).map Frame.text :=
          pass_of_begun (List.cons_ne_nil f.text [])
        simpa [happ] using hbegun
      | false => simpa [happ] using ih

/-! ### Lines -/

theorem Inline.trim (h : Inline cs) : Text.trim cs = cs := Text.trim_eq_self h.head h.last

/-- What a line says does not depend on the white space around it. -/
theorem ofText_pad (h : Inline content) {indent ending : List Char} (hindent : Indent indent)
    (hending : ∀ c ∈ ending, Text.isBlank c = true) :
    Line.ofText (indent ++ content ++ ending) = Line.ofText content := by
  obtain ⟨c, rest, hcons⟩ := List.exists_cons_of_ne_nil h.nonempty
  have hvisible : ∃ c ∈ content, Text.isBlank c = false :=
    ⟨c, hcons ▸ List.mem_cons_self, h.head c (by rw [hcons]; rfl)⟩
  rw [Line.ofText, Line.ofText, Text.trim_pad (fun c hc => (hindent c hc).1) hending hvisible]

/-- The line feed that ends a line is the first one. -/
theorem lineFeed_notMem (hindent : Indent indent) (h : Inline content) :
    '\n' ∉ indent ++ content := by
  intro hmem
  rcases List.mem_append.1 hmem with hmem | hmem
  · exact (hindent _ hmem).2 rfl
  · exact h.unbroken hmem

theorem ofText_indent (hindent : Indent indent) (h : Inline content) :
    Line.ofText (indent ++ content) = Line.ofText content := by
  have hpad := ofText_pad h hindent (List.forall_mem_nil _)
  rwa [List.append_nil] at hpad

/-- The first line of a text, with whatever white space stands in front of its line feed. -/
theorem map_ofText_cons (hindent : Indent indent) (h : Inline content) {ending : List Char}
    (hending : ∀ c ∈ ending, Text.isBlank c = true) (hunbroken : '\n' ∉ ending) (text : List Char) :
    (Text.splitOnChar '\n' (indent ++ content ++ ending ++ '\n' :: text)).map Line.ofText =
      Line.ofText content :: (Text.splitOnChar '\n' text).map Line.ofText := by
  have hline : '\n' ∉ indent ++ content ++ ending :=
    List.not_mem_append (lineFeed_notMem hindent h) hunbroken
  rw [Text.splitOnChar_append_sep hline, List.map_cons, ofText_pad h hindent hending]

/-- Splitting a text at its line feeds and reading the lines gives what they say; there may be an
empty line at the end. -/
theorem map_ofText_of_lines (h : Lines lines text) (hinline : ∀ content ∈ lines, Inline content) :
    ∃ blank, (blank = [] ∨ blank = [Line.other]) ∧
      (Text.splitOnChar '\n' text).map Line.ofText = lines.map Line.ofText ++ blank := by
  induction h with
  | nil => exact ⟨[.other], .inr rfl, rfl⟩
  | @last indent content hindent =>
    have hcontent := hinline content List.mem_cons_self
    refine ⟨[], .inl rfl, ?_⟩
    rw [Text.splitOnChar_of_notMem (lineFeed_notMem hindent hcontent), List.map_singleton,
      ofText_indent hindent hcontent]
    rfl
  | @lf indent content text more hindent _ ih =>
    have hcontent := hinline content List.mem_cons_self
    obtain ⟨blank, hblank, hmore⟩ := ih fun s hs => hinline s (List.mem_cons_of_mem content hs)
    have hfirst := map_ofText_cons hindent hcontent (List.forall_mem_nil _) List.not_mem_nil text
    rw [List.append_nil] at hfirst
    exact ⟨blank, hblank, hfirst.trans (congrArg (_ :: ·) hmore)⟩
  | @crlf indent content text more hindent _ ih =>
    have hcontent := hinline content List.mem_cons_self
    obtain ⟨blank, hblank, hmore⟩ := ih fun s hs => hinline s (List.mem_cons_of_mem content hs)
    have hreturn : ∀ c ∈ ['\r'], Text.isBlank c = true := List.forall_mem_singleton.2 rfl
    have hfirst := map_ofText_cons hindent hcontent hreturn (by decide) text
    rw [← List.append_cons] at hfirst
    exact ⟨blank, hblank, hfirst.trans (congrArg (_ :: ·) hmore)⟩

/-! ### What the lines of a frame say -/

theorem stripPrefix?_of_ne {c d : Char} (h : c ≠ d) (front rest : List Char) :
    Text.stripPrefix? (c :: front) (d :: rest) = none :=
  if_neg h

/-- What was read in front of a separator comes back if the separator begins with a character that
is not in it. -/
theorem splitOnce?_append {c : Char} {sep before : List Char} (h : c ∉ before) (after : List Char) :
    Text.splitOnce? (c :: sep) (before ++ (c :: sep) ++ after) = some (before, after) := by
  induction before with
  | nil =>
    have hstrip : Text.stripPrefix? (c :: sep) (c :: (sep ++ after)) = some after :=
      Text.stripPrefix?_eq_some.2 rfl
    rw [List.nil_append, List.cons_append, Text.splitOnce?, hstrip]
  | cons d before ih =>
    have hne : c ≠ d := fun heq => h (heq ▸ List.mem_cons_self)
    have hmem : c ∉ before := fun hmem => h (List.mem_cons_of_mem d hmem)
    rw [List.cons_append, List.cons_append, Text.splitOnce?, stripPrefix?_of_ne hne, ih hmem]
    rfl

theorem Inline.append {front : List Char} (h : Inline content) (hfront : front ≠ [])
    (hunbroken : '\n' ∉ front) (hhead : ∀ c ∈ front.head?, Text.isBlank c = false) :
    Inline (front ++ content) where
  nonempty := List.append_ne_nil_of_left_ne_nil hfront content
  unbroken := List.not_mem_append hunbroken h.unbroken
  head := by
    obtain ⟨c, rest, rfl⟩ := List.exists_cons_of_ne_nil hfront
    exact hhead
  last := by
    have hlast := h.last
    rw [List.getLast?_eq_some_getLast h.nonempty] at hlast
    rwa [List.getLast?_append, List.getLast?_eq_some_getLast h.nonempty, Option.some_or]

/-- The digits of an index and the colon behind them begin a line. -/
theorem inline_index {index : List Char} (hindex : index ≠ [])
    (hdigits : ∀ c ∈ index, c.isDigit = true) (h : Inline name) :
    Inline (index ++ ": ".toList ++ name) := by
  refine h.append (List.append_ne_nil_of_left_ne_nil hindex _) ?_ ?_
  · refine List.not_mem_append (fun hmem => ?_) (by decide)
    cases hdigits _ hmem
  · obtain ⟨c, rest, rfl⟩ := List.exists_cons_of_ne_nil hindex
    rintro _ ⟨⟩
    exact Text.isBlank_of_isDigit (hdigits c List.mem_cons_self)

theorem inline_location {place : List Char} (h : Inline place) :
    Inline ("at ".toList ++ place) :=
  h.append (by decide) (by decide) (by rintro _ ⟨⟩; rfl)

theorem ofText_index {index : List Char} (hindex : index ≠ [])
    (hdigits : ∀ c ∈ index, c.isDigit = true) (h : Inline name) :
    Line.ofText (index ++ ": ".toList ++ name) = .frame name := by
  have hcolon : ':' ∉ index := fun hmem => by cases hdigits _ hmem
  have hsplit : Text.splitOnce? ": ".toList (index ++ ": ".toList ++ name) = some (index, name) :=
    splitOnce?_append hcolon name
  -- a digit is not the first letter of `at`
  have hstrip : Text.stripPrefix? "at ".toList (index ++ ": ".toList ++ name) = none := by
    obtain ⟨c, rest, rfl⟩ := List.exists_cons_of_ne_nil hindex
    have hne : 'a' ≠ c := by
      rintro rfl
      cases hdigits 'a' List.mem_cons_self
    exact stripPrefix?_of_ne hne ['t', ' '] _
  rw [Line.ofText, (inline_index hindex hdigits h).trim]
  simp only [hstrip, hsplit]
  exact if_pos ⟨hindex, List.all_eq_true.2 hdigits⟩

theorem ofText_location {place : List Char} (h : Inline place) :
    Line.ofText ("at ".toList ++ place) = .location place := by
  rw [Line.ofText, (inline_location h).trim, Text.stripPrefix?_eq_some.2 rfl]

theorem Lists.inline (h : Lists frames lines) : ∀ content ∈ lines, Inline content := by
  induction h with
  | nil => exact List.forall_mem_nil _
  | @frame index f frames lines hindex hdigits hname hlocation _ ih =>
    intro content hmem
    rcases List.mem_append.1 hmem with hmem | hmem
    · rcases List.mem_cons.1 hmem with rfl | hmem
      · exact inline_index hindex hdigits hname
      · obtain ⟨place, hplace, rfl⟩ := Option.map_eq_some_iff.1 (Option.mem_toList.1 hmem)
        exact inline_location (hlocation place hplace)
    · exact ih content hmem

/-- The next frame begins before any other location. -/
theorem Lists.firstLocation_eq (h : Lists frames lines) {blank : List Line}
    (hblank : blank = [] ∨ blank = [.other]) :
    firstLocation (lines.map Line.ofText ++ blank) = none := by
  cases h with
  | nil => rcases hblank with rfl | rfl <;> rfl
  | frame hindex hdigits hname =>
    rw [Frame.lines, List.cons_append, List.map_cons, ofText_index hindex hdigits hname]
    rfl

/-- Every frame is read back with its own location. -/
theorem Lists.framesOf_eq (h : Lists frames lines) {blank : List Line}
    (hblank : blank = [] ∨ blank = [.other]) :
    framesOf (lines.map Line.ofText ++ blank) = frames := by
  induction h with
  | nil => rcases hblank with rfl | rfl <;> rfl
  | @frame index f frames lines hindex hdigits hname hlocation h ih =>
    obtain ⟨name, location⟩ := f
    rw [Frame.lines, List.cons_append, List.map_cons, ofText_index hindex hdigits hname]
    cases location with
    | none =>
      show ⟨name, firstLocation (lines.map Line.ofText ++ blank)⟩ ::
        framesOf (lines.map Line.ofText ++ blank) = _
      rw [h.firstLocation_eq hblank, ih]
    | some place =>
      have hplace := ofText_location (hlocation place rfl)
      show ⟨name, firstLocation (Line.ofText ("at ".toList ++ place) :: _)⟩ ::
        framesOf (Line.ofText ("at ".toList ++ place) ::
          (lines.map Line.ofText ++ blank)) = _
      rw [hplace]
      exact congrArg (_ :: ·) ih

/-- **The frames of a backtrace in the standard form are read back.** -/
theorem parseFrames_of_lists (h : Lists frames lines) (htext : Lines lines text) :
    parseFrames (String.ofList text) = frames := by
  obtain ⟨blank, hblank, hread⟩ := map_ofText_of_lines htext h.inline
  rw [parseFrames, String.toList_ofList, hread, h.framesOf_eq hblank]

/-- **The first run of the application is recovered from any backtrace.**  Of a backtrace in the
standard form, whatever the names in it are and however its lines are indented and ended, exactly
the first run of application frames is shown, each frame by its name and its location. -/
theorem first_run_recovered (h : Lists frames lines) (htext : Lines lines text)
    (namespaces : List String) :
    ∃ run, (∀ run', FirstRun namespaces frames run' ↔ run' = run) ∧
      filterFrames (String.ofList text) namespaces = run.map fun f =>
        match f.location with
        | some place => String.ofList f.name ++ " (" ++ String.ofList place ++ ")"
        | none => String.ofList f.name := by
  refine ⟨applicationRun namespaces frames, fun run' => firstRun_iff, ?_⟩
  rw [filterFrames, parseFrames_of_lists h htext, pass_nil]
  refine List.map_congr_left fun f _ => ?_
  rw [Frame.text]
  cases f.location with
  | none => rfl
  | some place =>
    show String.ofList (f.name ++ " (".toList ++ place ++ [')']) = _
    rw [String.ofList_append, String.ofList_append, String.ofList_append]
    rfl

/-- Names with a colon, with angle brackets and with the start of a location, lines with either end,
and a frame of the tracer inside the run. -/
theorem first_run_recovered_of_colons :
    let frames : List Frame :=
      [⟨"rt".toList, none⟩, ⟨"<app::Page>::show: x".toList, some "m.rs:3".toList⟩,
        ⟨"dbquery::core::trace::t".toList, none⟩, ⟨"app".toList, none⟩,
        ⟨"at y".toList, some "at z".toList⟩]
    let lines := ["0: rt".toList, "1: <app::Page>::show: x".toList, "at m.rs:3".toList,
      "2: dbquery::core::trace::t".toList, "3: app".toList, "4: at y".toList, "at at z".toList]
    let text := ("  0: rt\n  1: <app::Page>::show: x\r\n\tat m.rs:3\n" ++
      "2: dbquery::core::trace::t\n3: app\n4: at y\r\n at at z").toList
    Lists frames lines ∧ Lines lines text ∧
      filterFrames (String.ofList text) ["app"] = ["<app::Page>::show: x (m.rs:3)", "app"] := by
  intro frames lines text
  have hlists : Lists frames lines :=
    @Lists.frame "0".toList _ _ _ (by decide) (List.all_eq_true.1 rfl) (by decide) (by decide)
      (@Lists.frame "1".toList _ _ _ (by decide) (List.all_eq_true.1 rfl) (by decide) (by decide)
      (@Lists.frame "2".toList _ _ _ (by decide) (List.all_eq_true.1 rfl) (by decide) (by decide)
      (@Lists.frame "3".toList _ _ _ (by decide) (List.all_eq_true.1 rfl) (by decide) (by decide)
      (@Lists.frame "4".toList _ _ _ (by decide) (List.all_eq_true.1 rfl) (by decide) (by decide)
      .nil))))
  have hlines : Lines lines text :=
    @Lines.lf "  ".toList _ _ _ (by decide) (@Lines.crlf "  ".toList _ _ _ (by decide)
      (@Lines.lf "\t".toList _ _ _ (by decide) (@Lines.lf [] _ _ _ (by decide)
      (@Lines.lf [] _ _ _ (by decide) (@Lines.crlf [] _ _ _ (by decide)
      (@Lines.last " ".toList _ (by decide)))))))
  have hrun : FirstRun ["app"] frames
      [⟨"<app::Page>::show: x".toList, some "m.rs:3".toList⟩, ⟨"app".toList, none⟩] :=
    .intro [⟨"rt".toList, none⟩] _ [⟨"at y".toList, some "at z".toList⟩]
      (by decide) (by decide) (by decide) (by decide) (by decide)
  obtain ⟨run, hunique, hshown⟩ := first_run_recovered hlists hlines ["app"]
  obtain rfl := (hunique _).1 hrun
  exact ⟨hlists, hlines, hshown⟩

end SqlAccess.Trace
