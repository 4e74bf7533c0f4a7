import CrashQuery.Proofs.Query.Paths
import CrashQuery.Proofs.Request.Coercion
import CrashQuery.Proofs.Request.Provenance
import CrashQuery.Proofs.Version.Extraction

/-!
# The types of values in a query

A value is brought into the spelling of its field's kind when a request is normalized, and into JSON
of that kind when it is compiled. The two fit together: a numeral is read again as the integer that
its operand stands for, and a truth value as a truth value, so that no operand of such a field is
left a string (`Condition.denotes_typedValue`), and different values stay different
(`Condition.typedValue_inj`). `Filter.Carries` says that all values that a filter compares with have a
property, each once; `Request.carries_denoted` is the whole query.
-/

namespace CrashQuery

open Calendar Outcome Text

namespace Text

variable {s : List Char} {c : Char}

/-- A text that is read as an integer consists of digits and a sign. -/
theorem isDigit_or_sign_of_readInt? {i : Int} (h : readInt? s = some i) (hc : c ∈ s) :
    c.isDigit = true ∨ c = '+' ∨ c = '-' := by
  have hdigits : ∀ {s n}, readNat? s = some n → c ∈ s → c.isDigit = true := by
    intro s n hread hmem
    unfold readNat? at hread
    split at hread
    · next hall => exact List.all_eq_true.1 hall.2 c hmem
    · cases hread
  unfold readInt? at h
  split at h
  · obtain ⟨n, hn, -⟩ := Option.map_eq_some_iff.1 h
    rcases List.mem_cons.1 hc with rfl | hc
    · exact Or.inr (Or.inl rfl)
    · exact Or.inl (hdigits hn hc)
  · obtain ⟨n, hn, -⟩ := Option.map_eq_some_iff.1 h
    rcases List.mem_cons.1 hc with rfl | hc
    · exact Or.inr (Or.inr rfl)
    · exact Or.inl (hdigits hn hc)
  · obtain ⟨n, hn, -⟩ := Option.map_eq_some_iff.1 h
    exact Or.inl (hdigits hn hc)

/-- A text with the letter Z is not read as an integer. -/
theorem readInt64?_of_mem_Z (h : 'Z' ∈ s) : readInt64? s = none := by
  refine Option.eq_none_iff_forall_ne_some.2 fun i hi => ?_
  obtain ⟨hread, -⟩ := Option.filter_eq_some_iff.1 hi
  have hchar := isDigit_or_sign_of_readInt? hread h
  revert hchar
  decide

/-- A text with the letter Z inside its blanks is not read as a truth value. -/
theorem readBool?_of_mem_Z (h : 'Z' ∈ trim s) : Request.readBool? s = none := by
  have hz : 'z' ∈ (trim s).map Char.toLower := List.mem_map.2 ⟨'Z', h, rfl⟩
  unfold Request.readBool?
  simp only
  split
  · next hword =>
    rcases hword with hword | hword <;> rw [hword] at hz <;> revert hz <;> decide
  · split
    · next hword =>
      rcases hword with hword | hword <;> rw [hword] at hz <;> revert hz <;> decide
    · rfl

end Text

namespace Request

variable {kind : Kind} {operator : Operator} {now t : Instant}

/-- The text of a bound is no value of a field of whole numbers or truth values. -/
theorem coerce_bound_eq_none (hkind : kind = .integer ∨ kind = .boolean) :
    coerce kind operator (temporalText kind t).toList now = none := by
  -- The field is not one of days, so the bound is written to the second, with a Z at the end.
  have hz : 'Z' ∈ trim (temporalText kind t).toList := by
    rw [trim_temporalText]
    rcases hkind with rfl | rfl <;> simp [temporalText, Instant.secondsText]
  refine Option.eq_none_iff_forall_ne_some.2 fun v hv => ?_
  rcases hkind with rfl | rfl
  · obtain ⟨i, hi, -⟩ := coerce_integer.1 hv
    rw [readInt64?_of_mem_Z hz] at hi
    cases hi
  · obtain ⟨b, hb, -⟩ := coerce_boolean.1 hv
    rw [readBool?_of_mem_Z (by rwa [trim_eq_self (isTrimmed_trim _)])] at hb
    cases hb

end Request

namespace Condition

open Request (Spelling)

section Values

variable {kind : Kind} {operator : Operator} {now : Instant} {v w : String}

/-- A numeral is in JSON the integer that it is read as. -/
theorem typedValue_integer {i : Int} (h : readInt64? v.toList = some i) :
    typedValue .integer v = .int i := by
  unfold typedValue
  rw [h]

/-- The word for a truth value is in JSON that truth value. -/
theorem typedValue_boolean (b : Bool) :
    typedValue .boolean (if b then "true" else "false") = .bool b := by
  cases b <;> rfl

/-- A value of any other field is a string. -/
theorem typedValue_of_ne (hinteger : kind ≠ .integer) (hboolean : kind ≠ .boolean) :
    typedValue kind v = .str v := by
  cases kind with
  | integer => exact absurd rfl hinteger
  | boolean => exact absurd rfl hboolean
  | _ => rfl

/-- Values that are the same in JSON are spelled in the same way. -/
theorem typedValue_inj (hv : Spelling operator now kind v) (hw : Spelling operator now kind w)
    (h : typedValue kind v = typedValue kind w) : v = w := by
  by_cases hinteger : kind = .integer
  · subst hinteger
    obtain ⟨i, hi, hvi⟩ := hv.exists_integer
    obtain ⟨j, hj, hwj⟩ := hw.exists_integer
    rw [typedValue_integer hi, typedValue_integer hj] at h
    rw [hvi, hwj, Json.int.inj h]
  · by_cases hboolean : kind = .boolean
    · subst hboolean
      obtain ⟨b, rfl⟩ := hv.exists_boolean
      obtain ⟨d, rfl⟩ := hw.exists_boolean
      rw [typedValue_boolean, typedValue_boolean] at h
      rw [Json.bool.inj h]
    · rw [typedValue_of_ne hinteger hboolean, typedValue_of_ne hinteger hboolean] at h
      exact Json.str.inj h

end Values

/-- What a value of a condition is to be in a query: the integer or the truth value that an operand of
the request stands for, if that is what values of the field are, and otherwise a text that is not
empty. -/
inductive Denotes (catalog : Catalog) (raw : RawRequest) (c : Condition) : Json → Prop where
  /-- The operand is read as an integer of 64 bits. -/
  | integer {operand : List Char} {i : Int} (hkind : c.field.kind = .integer)
      (hoperand : c.HasOperand catalog raw operand) (hread : readInt64? (trim operand) = some i) :
      Denotes catalog raw c (.int i)
  /-- The operand is read as a truth value. -/
  | boolean {operand : List Char} {b : Bool} (hkind : c.field.kind = .boolean)
      (hoperand : c.HasOperand catalog raw operand)
      (hread : Request.readBool? (trim operand) = some b) : Denotes catalog raw c (.bool b)
  /-- The value is a text. -/
  | text {s : String} (hinteger : c.field.kind ≠ .integer) (hboolean : c.field.kind ≠ .boolean)
      (hne : s ≠ "") : Denotes catalog raw c (.str s)

/-- What values are to be does not depend on the other values of the condition. -/
theorem Denotes.withValues {catalog : Catalog} {raw : RawRequest} {c : Condition} {j : Json}
    (h : c.Denotes catalog raw j) (values : List String) :
    { c with values }.Denotes catalog raw j := by
  cases h with
  | integer hkind hoperand hread => exact .integer hkind hoperand hread
  | boolean hkind hoperand hread => exact .boolean hkind hoperand hread
  | text hinteger hboolean hne => exact .text hinteger hboolean hne

section Request

variable {catalog : Catalog} {options : RequestOptions} {raw : RawRequest} {r : Request}
  {c : Condition} {v : String}

/-- The values of a request have the spellings of their fields. -/
theorem spelling_of_mem_values (h : Request.ofRaw catalog options raw = .ok r)
    (hc : c ∈ r.conditions) (hv : v ∈ c.values) :
    Spelling c.operator options.now c.field.kind v := by
  rcases Request.exists_operand_or_isBound h hc hv with ⟨operand, -, hcoerce⟩ | hbound
  · exact Request.spelling_of_coerce hcoerce
  · obtain ⟨t, -, hcoerce⟩ := hbound.coerced
    exact Request.spelling_of_coerce hcoerce

/-- The values of fields of whole numbers and truth values come from operands of the request. -/
theorem exists_operand_of_mem_values (h : Request.ofRaw catalog options raw = .ok r)
    (hc : c ∈ r.conditions) (hv : v ∈ c.values)
    (hkind : c.field.kind = .integer ∨ c.field.kind = .boolean) :
    ∃ operand, c.HasOperand catalog raw operand ∧
      Request.coerce c.field.kind c.operator operand options.now = some v := by
  rcases Request.exists_operand_or_isBound h hc hv with hgiven | hbound
  · exact hgiven
  · obtain ⟨t, -, hcoerce⟩ := hbound.coerced
    rw [Request.coerce_bound_eq_none hkind] at hcoerce
    cases hcoerce

/-- In JSON a value of a request is what it is to be. -/
theorem denotes_typedValue (h : Request.ofRaw catalog options raw = .ok r) (hc : c ∈ r.conditions)
    (hv : v ∈ c.values) : c.Denotes catalog raw (typedValue c.field.kind v) := by
  have hspelling := spelling_of_mem_values h hc hv
  by_cases hinteger : c.field.kind = .integer
  · obtain ⟨operand, hoperand, hcoerce⟩ := exists_operand_of_mem_values h hc hv (Or.inl hinteger)
    rw [hinteger] at hcoerce ⊢
    obtain ⟨i, hi, rfl⟩ := Request.coerce_integer.1 hcoerce
    rw [typedValue_integer (Request.readInt64?_intText hi)]
    exact .integer hinteger hoperand hi
  · by_cases hboolean : c.field.kind = .boolean
    · obtain ⟨operand, hoperand, hcoerce⟩ := exists_operand_of_mem_values h hc hv (Or.inr hboolean)
      rw [hboolean] at hcoerce ⊢
      obtain ⟨b, hb, rfl⟩ := Request.coerce_boolean.1 hcoerce
      rw [typedValue_boolean]
      exact .boolean hboolean hoperand hb
    · rw [typedValue_of_ne hinteger hboolean]
      exact .text hinteger hboolean hspelling.ne_empty

/-- In JSON no value of a condition of a request is there twice. -/
theorem nodup_map_typedValue (h : Request.ofRaw catalog options raw = .ok r)
    (hc : c ∈ r.conditions) : (c.values.map (typedValue c.field.kind)).Nodup := by
  have hgrouped := hc
  rw [Request.conditions_eq_grouped_allEntries h] at hgrouped
  -- Values of a group differ as texts, and what is spelled differently differs in JSON too.
  refine List.Nodup.map_on ?_ (nodup_values_of_mem_grouped hgrouped)
  intro v hv w hw heq
  exact typedValue_inj (spelling_of_mem_values h hc hv) (spelling_of_mem_values h hc hw) heq

/-- All values of a field of whole numbers are integers, whose numerals they are. -/
theorem map_intText_intValues (h : Request.ofRaw catalog options raw = .ok r)
    (hc : c ∈ r.conditions) (hkind : c.field.kind = .integer) :
    c.intValues.map intText = c.values := by
  unfold intValues
  rw [List.map_filterMap]
  refine (List.filterMap_congr fun v hv => ?_).trans List.filterMap_some
  have hspelling := spelling_of_mem_values h hc hv
  rw [hkind] at hspelling
  obtain ⟨i, hread, hnumeral⟩ := hspelling.exists_integer
  rw [hread, hnumeral]
  rfl

end Request

end Condition

namespace Filter

variable (p : Json → Prop)

mutual

/-- Whether all values that a filter compares with have a property, and none is listed twice. -/
def Carries : Filter → Prop
  | .term _ value => p value
  | .terms _ values => (∀ v ∈ values, p v) ∧ values.Nodup
  | .range _ _ value => p value
  | .missing _ => True
  | .and filters => AllCarry filters
  | .or filters => AllCarry filters
  | .not filter => Carries filter

/-- Whether that is so for each of some filters. -/
def AllCarry : List Filter → Prop
  | [] => True
  | f :: rest => Carries f ∧ AllCarry rest

end

variable {p} {filters : List Filter}

/-- Several filters carry what each of them carries. -/
theorem allCarry_iff : AllCarry p filters ↔ ∀ f ∈ filters, f.Carries p := by
  induction filters with
  | nil => simp [AllCarry]
  | cons f rest ih => simp [AllCarry, ih]

/-- A negation carries the same values. -/
theorem carries_negate {f : Filter} (h : f.Carries p) : f.negate.Carries p := by
  unfold negate
  split
  · simpa only [Carries] using h
  · simpa only [Carries] using h

/-- A conjunction carries the values of its parts. -/
theorem carries_all (h : ∀ f ∈ filters, f.Carries p) : (all filters).Carries p := by
  unfold all
  split
  · exact h _ (List.mem_singleton_self _)
  · simpa only [Carries] using allCarry_iff.2 h

end Filter

namespace Condition

variable {c : Condition} {p : Json → Prop}

/-- Whether all values of the filter in a fragment have a property, and none is listed twice. -/
def Fragment.Carries (p : Json → Prop) : Fragment → Prop
  | .filter f => f.Carries p
  | .wildcards _ => True
  | .excluded _ => True

section Compile

variable (hvalues : ∀ v ∈ c.values, p (typedValue c.field.kind v))
  (hnodup : (c.values.map (typedValue c.field.kind)).Nodup)

include hvalues hnodup

/-- A test for values carries them. -/
theorem carries_termFilter {path : String} {f : Filter}
    (h : termFilter c.field path c.values = .ok f) : f.Carries p := by
  unfold termFilter at h
  split at h
  · cases h
  · next v hv =>
    cases h
    simp only [Filter.Carries]
    exact hvalues v (by simp [hv])
  · cases h
    simp only [Filter.Carries]
    refine ⟨fun j hj => ?_, hnodup⟩
    obtain ⟨v, hv, rfl⟩ := List.mem_map.1 hj
    exact hvalues v hv

/-- A condition without patterns carries its values. -/
theorem carries_plainFilter {f : Filter} (h : c.plainFilter = .ok f) : f.Carries p := by
  unfold plainFilter at h
  split at h
  · exact carries_termFilter hvalues hnodup h
  · exact carries_termFilter hvalues hnodup h
  · cases h
    simp only [Filter.Carries]
  · unfold rangeFilter at h
    split at h
    · cases h
    · split at h
      · cases h
      · cases h
        refine Filter.carries_all fun f hf => ?_
        obtain ⟨v, hv, rfl⟩ := List.mem_map.1 hf
        simpa only [Filter.Carries] using hvalues v hv

/-- A condition is compiled into a fragment that carries its values. -/
theorem carries_compile {fragment : Fragment} (h : c.compile = .ok fragment) :
    fragment.Carries p := by
  unfold compile at h
  split at h
  · obtain ⟨clauses, -, rfl⟩ := map_eq_ok.1 h
    split <;> exact trivial
  · obtain ⟨f, hf, rfl⟩ := map_eq_ok.1 h
    have hplain : f.Carries p := carries_plainFilter hvalues hnodup hf
    unfold Fragment.Carries
    simp only
    split
    · exact Filter.carries_negate hplain
    · exact hplain

end Compile

end Condition

namespace Request

variable {catalog : Catalog} {options : RequestOptions} {raw : RawRequest} {r : Request}

/-- A condition from which version keys were taken out is compiled into a fragment that carries what
its values are to be, each once. -/
theorem carries_of_mem_remaining (h : ofRaw catalog options raw = .ok r) {c : Condition}
    (hc : c ∈ VersionRule.remaining r.conditions) {fragment : Condition.Fragment}
    (hcompile : c.compile = .ok fragment) : fragment.Carries (c.Denotes catalog raw) := by
  obtain ⟨whole, hwhole, rfl, -⟩ := VersionRule.mem_remaining.1 hc
  obtain ⟨values, hsublist, heq⟩ := VersionRule.exists_sublist_withoutKeys whole
  rw [heq] at hcompile ⊢
  refine Condition.carries_compile ?_ ?_ hcompile
  · intro v hv
    exact (Condition.denotes_typedValue h hwhole (hsublist.subset hv)).withValues values
  · exact (Condition.nodup_map_typedValue h hwhole).sublist (hsublist.map _)

/-- A request that is compiled after version keys were taken out has a body whose filter is made of
those of its conditions, one after the other, and those of its versions. The values that the filter
of a condition compares with are integers or truth values that operands of the request stand for, if
its field has such values, and otherwise texts that are not empty; no test lists one twice. All
values of a field of whole numbers are integers. -/
theorem carries_denoted {maxTerms : Nat} {rules : List VersionRule} {q : Query}
    (h : ofRaw catalog options raw = .ok r)
    (hq : Query.compile catalog maxTerms
      { r with conditions := VersionRule.remaining r.conditions } rules = .ok q) :
    ((q.toJson.field "query").field "filtered").field "filter" = Query.filterJson q.filters ∧
    (∃ fragments versions, q.filters = Query.filtersOf fragments ++ versions ∧
      Query.compileVersions catalog rules = .ok versions ∧
      List.Forall₂ (fun c fragment => c.compile = .ok fragment ∧
        fragment.Carries (c.Denotes catalog raw)) (VersionRule.remaining r.conditions) fragments) ∧
    ∀ c ∈ r.conditions, c.field.kind = .integer → c.intValues.length = c.values.length := by
  refine ⟨Body.filter_toJson q, ?_, fun c hc hkind => ?_⟩
  · obtain ⟨fragments, versions, -, -, hfragments, hversions, -, hfilters, -, -⟩ :=
      Query.parts_of_compile hq
    refine ⟨fragments, versions, hfilters, hversions, ?_⟩
    have hcompiled := forall₂_of_mapM_ok hfragments
    have hmembers := (List.forall₂_and_left _ fragments).2 ⟨fun c hc => hc, hcompiled⟩
    refine hmembers.imp fun c fragment hboth => ?_
    exact ⟨hboth.2, carries_of_mem_remaining h hboth.1 hboth.2⟩
  · have hnumerals := congrArg List.length (Condition.map_intText_intValues h hc hkind)
    rwa [List.length_map] at hnumerals

/-- A build under two spellings, another one and a text that is none, beside a truth value under two
spellings and a product. -/
def spellingsRequest : RawRequest :=
  [("build_id", ["+0010", "10", " -7", "ten"]), ("accessibility", ["1", "TRUE"]),
    ("product", ["Firefox"])]

/-- The builds are integers, each once, the truth value is one, and the product is a text. -/
theorem carries_denoted_spellings : ∃ r q,
    ofRaw Catalog.builtin Service.sampleService.options spellingsRequest = .ok r ∧
    Query.compile Catalog.builtin 100
      { r with conditions := VersionRule.remaining r.conditions } [] = .ok q ∧
    q.filters.take 3 =
      [.terms "processed_crash.build" [.int 10, .int (-7)],
        .term "raw_crash.Accessibility" (.bool true),
        .term "processed_crash.product" (.str "firefox")] ∧
    (∃ fragments, List.Forall₂ (fun c fragment => c.compile = .ok fragment ∧
      fragment.Carries (c.Denotes Catalog.builtin spellingsRequest))
        (VersionRule.remaining r.conditions) fragments) ∧
    ∀ c ∈ r.conditions, c.field.kind = .integer → c.intValues.length = c.values.length := by
  obtain ⟨r, q, hr, hq, hfilters⟩ : ∃ r q,
      ofRaw Catalog.builtin Service.sampleService.options spellingsRequest = .ok r ∧
      Query.compile Catalog.builtin 100
        { r with conditions := VersionRule.remaining r.conditions } [] = .ok q ∧
      q.filters.take 3 =
        [.terms "processed_crash.build" [.int 10, .int (-7)],
          .term "raw_crash.Accessibility" (.bool true),
          .term "processed_crash.product" (.str "firefox")] := ⟨_, _, rfl, rfl, rfl⟩
  obtain ⟨-, ⟨fragments, -, -, -, hfragments⟩, hintegers⟩ := carries_denoted hr hq
  exact ⟨r, q, hr, hq, hfilters, ⟨fragments, hfragments⟩, hintegers⟩

end Request

end CrashQuery
