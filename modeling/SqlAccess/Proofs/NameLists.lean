/-
Lists of the databases to load at the start.

Such a list is one text with commas in it.  The form of the text is stated on its own
(`Parameters.Lists`): names, each with white space around it or none, and between them any number
of fields that hold no name.  Reading is exact in both directions (`Parameters.names_eq_iff`): a
text gives the names that it lists, and it lists nothing else.  So what was read can be joined and
read again.

The main statement is `Parameters.listed_databases_read_back`.
-/
import SqlAccess.Config.Parameters
import SqlAccess.Proofs.NumeralText

namespace SqlAccess.Parameters

/-- A text that can be listed: it is not empty, no comma is in it, and no white space is at its
ends. -/
structure IsName (name : List Char) : Prop where
  nonempty : name ≠ []
  unparted : ',' ∉ name
  head : ∀ c ∈ name.head?, Text.isBlank c = false
  last : ∀ c ∈ name.getLast?, Text.isBlank c = false

instance (name : List Char) : Decidable (IsName name) :=
  decidable_of_iff (name ≠ [] ∧ ',' ∉ name ∧ name.head?.all (!Text.isBlank ·) = true ∧
    name.getLast?.all (!Text.isBlank ·) = true) <| by
      simp only [Option.all_eq_true, Bool.not_eq_true']
      exact ⟨fun ⟨hne, hunparted, hhead, hlast⟩ => ⟨hne, hunparted, hhead, hlast⟩,
        fun h => ⟨h.nonempty, h.unparted, h.head, h.last⟩⟩

/-- The fields hold the names in their order; a field that holds none is empty or blank. -/
inductive Fields : List (List Char) → List (List Char) → Prop
  | nil : Fields [] []
  | blank {field : List Char} {names fields : List (List Char)}
    (hblank : ∀ c ∈ field, Text.isBlank c = true) (h : Fields names fields) :
    Fields names (field :: fields)
  | name {name field : List Char} {names fields : List (List Char)} (hname : IsName name)
    (haround : Text.Around name field) (h : Fields names fields) :
    Fields (name :: names) (field :: fields)

/-- The text lists the names: it is their fields with commas between them. -/
def Lists (names : List (List Char)) (text : List Char) : Prop :=
  ∃ fields, Fields names fields ∧ text = Text.joinWith [','] fields

variable {name field text : List Char} {listed fields : List (List Char)}

/-! ### Fields -/

theorem ne_comma_of_isBlank {c : Char} (h : Text.isBlank c = true) : c ≠ ',' := by
  rintro rfl
  cases h

theorem comma_notMem_of_around (hname : IsName name) (h : Text.Around name field) :
    ',' ∉ field := by
  obtain ⟨before, after, hblank, rfl⟩ := h
  intro hmem
  rw [List.mem_append, List.mem_append] at hmem
  rcases hmem with (hmem | hmem) | hmem
  · exact ne_comma_of_isBlank (hblank _ (List.mem_append_left _ hmem)) rfl
  · exact hname.unparted hmem
  · exact ne_comma_of_isBlank (hblank _ (List.mem_append_right _ hmem)) rfl

/-- Commas stand between fields and never in one. -/
theorem Fields.comma_notMem (h : Fields listed fields) : ∀ field ∈ fields, ',' ∉ field := by
  induction h with
  | nil => exact List.forall_mem_nil _
  | blank hblank _ ih =>
    exact List.forall_mem_cons.2 ⟨fun hmem => ne_comma_of_isBlank (hblank _ hmem) rfl, ih⟩
  | name hname haround _ ih =>
    exact List.forall_mem_cons.2 ⟨comma_notMem_of_around hname haround, ih⟩

theorem Fields.isName (h : Fields listed fields) : ∀ name ∈ listed, IsName name := by
  induction h with
  | nil => exact List.forall_mem_nil _
  | blank _ _ ih => exact ih
  | name hname _ _ ih => exact List.forall_mem_cons.2 ⟨hname, ih⟩

theorem trim_eq_nil_iff : Text.trim field = [] ↔ ∀ c ∈ field, Text.isBlank c = true := by
  constructor
  · intro h
    obtain ⟨before, after, hblank, hfield⟩ := Text.around_trim field
    rw [h, List.append_nil] at hfield
    exact hfield ▸ hblank
  · intro h
    have hpad : Text.trimStart (field ++ []) = Text.trimStart [] := Text.trimStart_append_of_all h
    rw [List.append_nil] at hpad
    rw [Text.trim, hpad]
    rfl

/-- What trimming leaves of a field without a comma is a name, if it leaves anything. -/
theorem isName_trim (hcomma : ',' ∉ field) (hne : Text.trim field ≠ []) :
    IsName (Text.trim field) where
  nonempty := hne
  unparted hmem := by
    obtain ⟨before, after, -, hfield⟩ := Text.around_trim field
    rw [hfield] at hcomma
    exact hcomma (List.mem_append_left _ (List.mem_append_right _ hmem))
  head c hc := Text.isBlank_of_head?_trim hc
  last c hc := Text.isBlank_of_getLast?_trim hc

theorem filter_trim_cons (field : List Char) (fields : List (List Char)) :
    ((field :: fields).map Text.trim).filter (!·.isEmpty) =
      if Text.trim field = [] then (fields.map Text.trim).filter (!·.isEmpty)
      else Text.trim field :: (fields.map Text.trim).filter (!·.isEmpty) := by
  rw [List.map_cons, List.filter_cons]
  cases Text.trim field <;> rfl

/-- Trimmed fields without the empty ones are the names that the fields hold. -/
theorem Fields.trimmed (h : Fields listed fields) :
    (fields.map Text.trim).filter (!·.isEmpty) = listed := by
  induction h with
  | nil => rfl
  | blank hblank _ ih => rw [filter_trim_cons, if_pos (trim_eq_nil_iff.2 hblank), ih]
  | name hname haround _ ih =>
    have htrim := Text.trim_of_ends haround hname.nonempty hname.head hname.last
    rw [filter_trim_cons, htrim, if_neg hname.nonempty, ih]

/-- Fields without a comma hold what trimming leaves of them. -/
theorem fields_trimmed (h : ∀ field ∈ fields, ',' ∉ field) :
    Fields ((fields.map Text.trim).filter (!·.isEmpty)) fields := by
  induction fields with
  | nil => exact .nil
  | cons field fields ih =>
    obtain ⟨hfield, hfields⟩ := List.forall_mem_cons.1 h
    rw [filter_trim_cons]
    split
    · next hnil => exact .blank (trim_eq_nil_iff.1 hnil) (ih hfields)
    · next hne => exact .name (isName_trim hfield hne) (Text.around_trim field) (ih hfields)

/-! ### Texts -/

/-- **A text gives the names that it lists**, and there is one list of them. -/
theorem names_eq_iff : names text = listed ↔ Lists listed text := by
  constructor
  · rintro rfl
    exact ⟨Text.splitOnChar ',' text, fields_trimmed fun field => Text.notMem_of_mem_splitOnChar,
      (Text.joinWith_splitOnChar ',' text).symm⟩
  · rintro ⟨fields, h, rfl⟩
    by_cases hnil : fields = []
    · -- no field at all is written like one that is empty
      subst hnil
      cases h
      rfl
    · rw [names, Text.splitOnChar_joinWith hnil h.comma_notMem, h.trimmed]

/-- Names with nothing but commas between them list themselves. -/
theorem lists_joinWith (h : ∀ name ∈ listed, IsName name) :
    Lists listed (Text.joinWith [','] listed) := by
  refine ⟨listed, ?_, rfl⟩
  induction listed with
  | nil => exact .nil
  | cons name listed ih =>
    obtain ⟨hname, hlisted⟩ := List.forall_mem_cons.1 h
    exact .name hname ⟨[], [], List.forall_mem_nil _, (List.append_nil name).symm⟩ (ih hlisted)

/-! ### Parameters -/

theorem initDatabases_eq_iff {p : Parameters} {text : String} (h : p.global? "init" = some text)
    {databases : List String} :
    p.initDatabases = databases ↔ Lists (databases.map String.toList) text.toList := by
  rw [initDatabases, h, ← names_eq_iff]
  constructor
  · rintro rfl
    simp [List.map_map, Function.comp_def]
  · intro hnames
    simp [hnames, List.map_map, Function.comp_def]

theorem isName_of_mem_initDatabases {p : Parameters} {database : String}
    (h : database ∈ p.initDatabases) : IsName database.toList := by
  cases hinit : p.global? "init" with
  | none =>
    rw [initDatabases, hinit] at h
    cases h
  | some text =>
    obtain ⟨fields, hfields, -⟩ := (initDatabases_eq_iff hinit).1 rfl
    exact hfields.isName _ (List.mem_map_of_mem h)

/-- **Listed databases are read back.**  A text that lists databases gives these in their order,
and nothing else does; only names are ever given, none if there is no text; and the text that joins
them gives them again. -/
theorem listed_databases_read_back (p : Parameters) :
    (∀ text, p.global? "init" = some text → ∀ databases : List String,
        p.initDatabases = databases ↔ Lists (databases.map String.toList) text.toList) ∧
      (p.global? "init" = none → p.initDatabases = []) ∧
      (∀ database ∈ p.initDatabases, IsName database.toList) ∧
      ∀ p' : Parameters, p'.global? "init" = some (",".intercalate p.initDatabases) →
        p'.initDatabases = p.initDatabases := by
  refine ⟨fun text htext databases => initDatabases_eq_iff htext, fun hnone => ?_,
    fun database => isName_of_mem_initDatabases, fun p' hp' => ?_⟩
  · rw [initDatabases, hnone]
  · rw [initDatabases_eq_iff hp', String.toList_intercalate, ← Text.joinWith_eq_intercalate]
    exact lists_joinWith (List.forall_mem_map.2 fun database => isName_of_mem_initDatabases)

/-- A list under the bare key with a name that comes twice, one with a blank in it, an empty field
and a field of white space, and the same list again under the qualified key. -/
theorem listed_databases_read_back_of_padded_list :
    let text := " main ,, archive\u00a0,main,\u3000 ,old logs"
    let databases := ["main", "archive", "main", "old logs"]
    let p : Parameters := .ofList [("init", text)]
    let p' : Parameters := .ofList [("settings.database.init", "main,archive,main,old logs")]
    p.global? "init" = some text ∧ Lists (databases.map String.toList) text.toList ∧
      p.initDatabases = databases ∧ IsName "old logs".toList ∧
      p'.global? "init" = some (",".intercalate p.initDatabases) ∧
      p'.initDatabases = databases := by
  intro text databases p p'
  obtain ⟨hread, -, hnames, hagain⟩ := listed_databases_read_back p
  have htext : p.global? "init" = some text := rfl
  have hlists : Lists (databases.map String.toList) text.toList := by
    refine ⟨[" main ".toList, [], " archive\u00a0".toList, "main".toList, "\u3000 ".toList,
      "old logs".toList], ?_, by simp [text, Text.joinWith]⟩
    exact .name (by decide) ⟨[' '], [' '], List.all_eq_true.1 rfl, rfl⟩
      (.blank (List.forall_mem_nil _)
      (.name (by decide) ⟨[' '], ['\u00a0'], List.all_eq_true.1 rfl, rfl⟩
      (.name (by decide) ⟨[], [], List.forall_mem_nil _, rfl⟩
      (.blank (List.all_eq_true.1 rfl)
      (.name (by decide) ⟨[], [], List.forall_mem_nil _, rfl⟩ .nil)))))
  have hdatabases : p.initDatabases = databases := (hread text htext databases).2 hlists
  have hjoined : p'.global? "init" = some (",".intercalate p.initDatabases) := by
    rw [hdatabases]
    rfl
  have hmem : "old logs" ∈ p.initDatabases := by simp [hdatabases, databases]
  exact ⟨htext, hlists, hdatabases, hnames _ hmem, hjoined, (hagain p' hjoined).trans hdatabases⟩

end SqlAccess.Parameters
