import CrashQuery.Proofs.Request.Conditions

/-!
# Fields that can be searched under their own names

A parameter is looked at before the catalog is asked for its field: one that begins with an
underscore steers the request, and one that is another spelling of a name stands for that name
(`Request.aliases`). A field of the catalog with such a public name is out of reach. Every other
field is found under its own name, and a value that fits it gives a condition on it, which the
completion of the window keeps: `Request.searchable_iff` says that just these fields can be searched
under their own names.
-/

namespace CrashQuery

open Calendar Outcome

/-- A field of a catalog is found under its public name. -/
theorem Catalog.lookup_of_mem {catalog : Catalog} {f : Field} (hf : f ∈ catalog.fields) :
    catalog.lookup f.publicName = some f :=
  lookup_eq_some_iff.2 ⟨hf, rfl⟩

/-- Whether an operand can be read as a value of a kind. -/
def Kind.Reads (kind : Kind) (operand : List Char) : Prop :=
  Text.trim operand ≠ [] ∧
    match kind with
    | .text | .term => True
    | .integer => (Text.readInt64? (Text.trim operand)).isSome = true
    | .boolean => (Request.readBool? (Text.trim operand)).isSome = true
    | .date | .datetime => (Instant.ofText? (String.ofList (Text.trim operand))).isSome = true

/-- An operand is coerced into a value exactly when it can be read. -/
theorem Request.isSome_coerce {kind : Kind} {operator : Operator} {operand : List Char}
    {now : Instant} : (coerce kind operator operand now).isSome = true ↔ kind.Reads operand := by
  unfold coerce Kind.Reads
  by_cases hnil : Text.trim operand = []
  · simp [hnil]
  · cases kind <;> simp [hnil]

namespace Condition

/-- Whether a condition compares in the way of another one, with all its values. -/
structure Covers (c new : Condition) : Prop where
  /-- The field is the same. -/
  field : c.field = new.field
  /-- The operator is the same. -/
  operator : c.operator = new.operator
  /-- Both are negated or neither. -/
  negated : c.negated = new.negated
  /-- The values are there. -/
  values : new.values ⊆ c.values

/-- Whether a condition is what a raw value of a field asks for. -/
structure Answers (c : Condition) (f : Field) (raw : String) (now : Instant) : Prop where
  /-- It is about the field. -/
  field : c.field = f
  /-- It has the operator of the raw value. -/
  operator : c.operator = (Comparison.ofText raw).operator
  /-- It is negated if the raw value is. -/
  negated : c.negated = (Comparison.ofText raw).negated
  /-- If absence is asked for, there are no values. -/
  absent : (Comparison.ofText raw).operator = .isNull → c.values = []
  /-- Otherwise the operand is among the values, as a value of the kind of the field. -/
  present : (Comparison.ofText raw).operator ≠ .isNull →
    ∃ v ∈ c.values, Request.coerce f.kind (Comparison.ofText raw).operator
      (Comparison.ofText raw).operand now = some v

variable {conditions : List Condition} {new : Condition} {f : Field} {raw : String} {now : Instant}

/-- A merged condition leaves what covers a condition. -/
theorem exists_covers_merge (h : ∃ c ∈ conditions, c.Covers new) (other : Condition) :
    ∃ c ∈ merge other conditions, c.Covers new := by
  induction conditions with
  | nil =>
    obtain ⟨c, hc, -⟩ := h
    cases hc
  | cons first rest ih =>
    obtain ⟨c, hc, hcovers⟩ := h
    rw [merge]
    split
    · rcases List.mem_cons.1 hc with rfl | hc
      · refine ⟨_, List.mem_cons_self, hcovers.field, hcovers.operator, hcovers.negated, ?_⟩
        intro v hv
        exact (mem_mergeValues _ _ _).2 (Or.inl (hcovers.values hv))
      · exact ⟨c, List.mem_cons_of_mem _ hc, hcovers⟩
    · rcases List.mem_cons.1 hc with rfl | hc
      · exact ⟨c, List.mem_cons_self, hcovers⟩
      · obtain ⟨d, hd, hcovers⟩ := ih ⟨c, hc, hcovers⟩
        exact ⟨d, List.mem_cons_of_mem _ hd, hcovers⟩

/-- An added raw value leaves what covers a condition. -/
theorem exists_covers_addRaw (h : ∃ c ∈ conditions, c.Covers new) (other : Field) (value : String) :
    ∃ c ∈ addRaw now conditions other value, c.Covers new := by
  unfold addRaw
  split
  · exact exists_covers_merge h _
  · exact h

/-- A raw value of a field stands for a condition if it asks for absence or its operand can be
read. -/
theorem exists_ofRaw? (now : Instant) (h : (Comparison.ofText raw).operator = .isNull ∨
    f.kind.Reads (Comparison.ofText raw).operand) : ∃ c, ofRaw? f raw now = some c := by
  simp only [ofRaw?]
  split
  · exact ⟨_, rfl⟩
  · next hnull =>
    obtain ⟨v, hv⟩ := Option.isSome_iff_exists.1 (Request.isSome_coerce.2 (h.resolve_left hnull))
    exact ⟨_, Option.map_eq_some_iff.2 ⟨v, hv, rfl⟩⟩

/-- A filled condition that covers what a raw value stands for is what the value asks for. -/
theorem Covers.answers {c : Condition} (hcovers : c.Covers new) (hnew : ofRaw? f raw now = some new)
    (hfilled : c.IsFilled) : c.Answers f raw now := by
  unfold ofRaw? at hnew
  simp only at hnew
  split at hnew
  · next hnull =>
    cases hnew
    refine ⟨hcovers.field, hcovers.operator.trans hnull.symm, hcovers.negated, ?_, ?_⟩
    · exact fun _ => hfilled.2 hcovers.operator
    · exact fun hne => absurd hnull hne
  · next hnull =>
    obtain ⟨v, hv, rfl⟩ := Option.map_eq_some_iff.1 hnew
    refine ⟨hcovers.field, hcovers.operator, hcovers.negated, fun h => absurd h hnull, ?_⟩
    exact fun _ => ⟨v, hcovers.values (List.mem_singleton_self v), hv⟩

end Condition

namespace Request

/-- The other spellings of public names. -/
def aliases : List String :=
  ["products", "versions", "platforms", "build", "channel", "release_channels", "os"]

/-- A name stands for itself unless it is another spelling. -/
theorem resolveAlias_of_notMem {key : String} (h : key ∉ aliases) : resolveAlias key = key := by
  unfold resolveAlias
  split <;> first | rfl | exact absurd (by decide) h

/-- Another spelling stands for a name that is none. -/
theorem resolveAlias_notMem_of_mem {key : String} (h : key ∈ aliases) :
    resolveAlias key ∉ aliases := by
  have hall : ∀ key ∈ aliases, resolveAlias key ∉ aliases := by decide
  exact hall key h

/-- A value of a field that nothing else speaks against: the field is in the catalog, no parameter
is required, the value asks for absence or its operand can be read, and what it stands for has an
accepted window. -/
structure Fits (catalog : Catalog) (options : RequestOptions) (f : Field) (raw : String) :
    Prop where
  /-- The field is in the catalog. -/
  mem : f ∈ catalog.fields
  /-- No parameter is required. -/
  required : options.required = []
  /-- The value asks for absence, or its operand can be read. -/
  reads : (Comparison.ofText raw).operator = .isNull ∨
    f.kind.Reads (Comparison.ofText raw).operand
  /-- The window is accepted. -/
  window : ∀ c, Condition.ofRaw? f raw options.now = some c →
    ∃ p, Window.complete catalog options [c] = .ok p

/-- Whether the request with a value under the public name of a field is normalized into one that
has the condition that the value asks for. -/
def Searchable (catalog : Catalog) (options : RequestOptions) (f : Field) (raw : String) : Prop :=
  ∃ r, ofRaw catalog options (RawRequest.ofPairs [(f.publicName, raw)]) = .ok r ∧
    ∃ c ∈ r.conditions, c.Answers f raw options.now

variable {catalog : Catalog} {options : RequestOptions} {f : Field} {raw : String}

/-- A field whose public name neither begins with an underscore nor is another spelling can be
searched under its own name. -/
theorem Fits.searchable (h : Fits catalog options f raw) (hmeta : isMeta f.publicName = false)
    (halias : f.publicName ∉ aliases) : Searchable catalog options f raw := by
  obtain ⟨c, hc⟩ := Condition.exists_ofRaw? options.now h.reads
  obtain ⟨⟨window, completed⟩, hcomplete⟩ := h.window c hc
  have hfield : catalog.lookup (resolveAlias f.publicName) = some f := by
    rw [resolveAlias_of_notMem halias]
    exact Catalog.lookup_of_mem h.mem
  have hpairs : RawRequest.ofPairs [(f.publicName, raw)] = [(f.publicName, [raw])] :=
    RawRequest.ofPairs_parameter (List.cons_ne_nil raw [])
  have hgiven : conditionsOf catalog options.now (RawRequest.ofPairs [(f.publicName, raw)]) =
      [c] := by
    rw [conditionsOf_value hfield hc, hmeta]
    rfl
  have hfault : firstFault? catalog options.maxResults
      (RawRequest.ofPairs [(f.publicName, raw)]) = none := by
    have hsize : f.publicName ≠ sizeKey := by
      intro hsize
      rw [hsize] at hmeta
      cases hmeta
    simp [firstFault?, hpairs, keyFault?, hsize, hmeta, Catalog.isKnown_eq_isSome_lookup, hfield]
  have hok : ofRaw catalog options (RawRequest.ofPairs [(f.publicName, raw)]) =
      .ok (assemble (RawRequest.ofPairs [(f.publicName, raw)]) window completed) := by
    rw [ofRaw_eq, hfault, hgiven, h.required, hcomplete]
    rfl
  -- The bounds that complete the window leave the condition where it is.
  obtain ⟨d, hd, hcovers⟩ : ∃ d ∈ completed, d.Covers c :=
    complete_induction (p := fun conditions => ∃ d ∈ conditions, d.Covers c) hcomplete
      ⟨c, List.mem_singleton_self c, rfl, rfl, rfl, List.Subset.refl _⟩
      fun _ f value _ hcovers => Condition.exists_covers_addRaw hcovers f value
  exact ⟨_, hok, d, hd, hcovers.answers hc (isFilled_of_ofRaw hok d hd)⟩

/-- The conditions of a request with one parameter are on the date, or on the field that the
parameter stands for if it does not steer the request. -/
theorem name_of_mem_conditions {key : String} {r : Request}
    (h : ofRaw catalog options (RawRequest.ofPairs [(key, raw)]) = .ok r) :
    ∀ c ∈ r.conditions,
      c.name = Window.dateField ∨ isMeta key = false ∧ c.name = resolveAlias key := by
  have hpairs : RawRequest.ofPairs [(key, raw)] = [(key, [raw])] :=
    RawRequest.ofPairs_parameter (List.cons_ne_nil raw [])
  have hgiven : ∀ c ∈ conditionsOf catalog options.now (RawRequest.ofPairs [(key, raw)]),
      isMeta key = false ∧ c.name = resolveAlias key := by
    intro c hc
    rw [hpairs] at hc
    cases hmeta : isMeta key with
    | true =>
      rw [conditionsOf_meta hmeta] at hc
      cases hc
    | false =>
      cases hfield : catalog.lookup (resolveAlias key) with
      | none => simp [conditionsOf, fieldValues, hmeta, hfield] at hc
      | some g =>
        rw [conditionsOf_parameter hmeta hfield, List.foldl_cons, List.foldl_nil] at hc
        rcases Condition.field_of_mem_addRaw hc with hg | ⟨old, hold, -⟩
        · rw [Condition.name, hg]
          exact ⟨rfl, Catalog.publicName_of_lookup hfield⟩
        · cases hold
  refine complete_induction (p := fun conditions => ∀ c ∈ conditions,
    c.name = Window.dateField ∨ isMeta key = false ∧ c.name = resolveAlias key)
    (complete_of_ofRaw h) (fun c hc => Or.inr (hgiven c hc)) ?_
  intro conditions g value hdate hbefore c hc
  rcases Condition.field_of_mem_addRaw hc with hg | ⟨old, hold, hsame⟩
  · rw [Condition.name, hg]
    exact Or.inl (Catalog.publicName_of_lookup hdate)
  · rw [Condition.name, hsame]
    exact hbefore old hold

/-- A field that can be searched under its own name has a name that stands for the field. -/
theorem Searchable.name_eq (h : Searchable catalog options f raw) :
    isMeta f.publicName = false ∧ resolveAlias f.publicName = f.publicName := by
  obtain ⟨r, hr, c, hc, hanswers⟩ := h
  have hname : c.name = f.publicName := congrArg Field.publicName hanswers.field
  rcases name_of_mem_conditions hr c hc with hdate | ⟨hmeta, hresolved⟩
  · rw [hname] at hdate
    rw [hdate]
    exact ⟨rfl, rfl⟩
  · rw [hname] at hresolved
    exact ⟨hmeta, hresolved.symm⟩

/-- A value that fits a field can be searched for under the name of the field exactly when the name
neither begins with an underscore nor is another spelling of a name. -/
theorem searchable_iff (h : Fits catalog options f raw) :
    Searchable catalog options f raw ↔ isMeta f.publicName = false ∧ f.publicName ∉ aliases := by
  constructor
  · intro hsearchable
    obtain ⟨hmeta, hresolved⟩ := hsearchable.name_eq
    refine ⟨hmeta, fun halias => ?_⟩
    have hother := resolveAlias_notMem_of_mem halias
    rw [hresolved] at hother
    exact hother halias
  · rintro ⟨hmeta, halias⟩
    exact h.searchable hmeta halias

section Names

/-- A text field of the processed section that is stored under its public name. -/
def textField (name : String) : Field := ⟨name, name, .processed, .text, false, false, [], none⟩

/-- Fields of which two have names that do not stand for them. -/
def namesCatalog : Catalog where
  version := 1
  fields := [⟨"date", "date_processed", .processed, .datetime, false, false, [], none⟩,
    textField "platform", textField "os", textField "_note"]
  faultless := by decide

/-- A word fits each of the text fields, with the usual limits. -/
theorem fits_names {name word : String} (hfield : textField name ∈ namesCatalog.fields)
    (hdate : name ≠ Window.dateField) (hword : Comparison.IsPlain word)
    (hne : Text.trim word.toList ≠ []) :
    Fits namesCatalog Service.sampleService.options (textField name) word := by
  refine ⟨hfield, rfl, Or.inr ?_, ?_⟩
  · rw [show Comparison.ofText word = _ from hword]
    exact ⟨hne, trivial⟩
  · intro c hc
    have hother : ∀ d ∈ [c], d.name ≠ Window.dateField := by
      intro d hd
      rw [List.mem_singleton.1 hd, Condition.name, Condition.field_of_ofRaw? hc]
      exact hdate
    obtain ⟨p, hp⟩ : ∃ p, Window.complete namesCatalog Service.sampleService.options [] = .ok p :=
      ⟨_, rfl⟩
    rw [Window.complete_append hother, hp]
    exact ⟨_, rfl⟩

/-- The platform can be searched under its own name. -/
theorem searchable_platform :
    Fits namesCatalog Service.sampleService.options (textField "platform") "Linux" ∧
      Searchable namesCatalog Service.sampleService.options (textField "platform") "Linux" := by
  have hfits : Fits namesCatalog Service.sampleService.options (textField "platform") "Linux" :=
    fits_names (by decide) (by decide) (by decide) (by decide)
  exact ⟨hfits, (searchable_iff hfits).2 ⟨rfl, by decide⟩⟩

/-- A field whose name begins with an underscore and one whose name is another spelling cannot be
searched under their own names. -/
theorem not_searchable_note_os :
    (Fits namesCatalog Service.sampleService.options (textField "_note") "crash" ∧
      ¬ Searchable namesCatalog Service.sampleService.options (textField "_note") "crash") ∧
    (Fits namesCatalog Service.sampleService.options (textField "os") "linux" ∧
      ¬ Searchable namesCatalog Service.sampleService.options (textField "os") "linux") := by
  refine ⟨⟨fits_names (by decide) (by decide) (by decide) (by decide), fun h => ?_⟩,
    fits_names (by decide) (by decide) (by decide) (by decide), fun h => ?_⟩
  · obtain ⟨hmeta, -⟩ := h.name_eq
    cases hmeta
  · obtain ⟨-, hresolved⟩ := h.name_eq
    exact absurd hresolved (by decide)

end Names

end Request

end CrashQuery
