import Scaffold.Proofs.ReadNames
import Scaffold.Schema.Config

/-!
# Faults of reading entities and stores

Reading an entity, reading a store and taking up a further file end in a result or in a fault of the
source text. The models that are built on the way demand names and types that are not empty, and
what is read never is, so that no model is refused. For the same reason two faults that the readers
of entries and fields provide for cannot be met.
-/

namespace Scaffold

/-! ## Kinds of faults -/

namespace Outcome

variable {ε ε' α β : Type} {kind : ε → Prop} {outcome : Except ε α}

/-- The outcome is a result or a fault of the given kind. -/
def FailsOnly (kind : ε → Prop) (outcome : Except ε α) : Prop :=
  ∀ fault, outcome = .error fault → kind fault

/-- A result is no failure. -/
theorem failsOnly_ok (value : α) : FailsOnly kind (.ok value) :=
  fun _ h => nomatch h

theorem failsOnly_error {fault : ε} (h : kind fault) :
    FailsOnly kind (.error fault : Except ε α) := by
  intro other hother
  obtain rfl := Except.error.inj hother
  exact h

theorem FailsOnly.of_eq_ok {value : α} (h : outcome = .ok value) : FailsOnly kind outcome :=
  h ▸ failsOnly_ok value

/-- A sequence of two steps fails as its steps do, the second after what the first may give. -/
theorem FailsOnly.bind {first : Except ε α} {second : α → Except ε β}
    (hfirst : FailsOnly kind first)
    (hsecond : ∀ middle, first = .ok middle → FailsOnly kind (second middle)) :
    FailsOnly kind (first >>= second) := by
  cases first with
  | error fault => exact failsOnly_error (hfirst fault rfl)
  | ok middle => exact hsecond middle rfl

/-- A function of the result adds no failure. -/
theorem FailsOnly.map (h : FailsOnly kind outcome) (f : α → β) :
    FailsOnly kind (outcome.map f) := by
  cases outcome with
  | error fault => exact failsOnly_error (h fault rfl)
  | ok value => exact failsOnly_ok _

/-- Failures are translated one by one. -/
theorem FailsOnly.mapError {other : ε' → Prop} {f : ε → ε'}
    (h : FailsOnly kind outcome) (hf : ∀ fault, kind fault → other (f fault)) :
    FailsOnly other (outcome.mapError f) := by
  cases outcome with
  | error fault => exact failsOnly_error (hf fault (h fault rfl))
  | ok value => exact failsOnly_ok _

/-- A list fails as its items do. -/
theorem FailsOnly.mapM {step : α → Except ε β} {items : List α}
    (h : ∀ item ∈ items, FailsOnly kind (step item)) : FailsOnly kind (items.mapM step) := by
  induction items with
  | nil => exact failsOnly_ok _
  | cons item rest ih =>
    obtain ⟨hitem, hrest⟩ := List.forall_mem_cons.mp h
    rw [List.mapM_cons]
    exact hitem.bind fun _ _ => (ih hrest).bind fun _ _ => failsOnly_ok _

/-- A loop fails as its steps do. -/
theorem FailsOnly.foldlM {step : β → α → Except ε β} {items : List α}
    (h : ∀ item ∈ items, ∀ state, FailsOnly kind (step state item)) (state : β) :
    FailsOnly kind (items.foldlM step state) := by
  induction items generalizing state with
  | nil => exact failsOnly_ok _
  | cons item rest ih =>
    obtain ⟨hitem, hrest⟩ := List.forall_mem_cons.mp h
    rw [List.foldlM_cons]
    exact (hitem state).bind fun later _ => ih hrest later

end Outcome

open Outcome

/-- The fault is one that some source text has. An entry without tokens is none, nor is a field
without a type. -/
def SourceFault.IsMet : SourceFault → Prop
  | emptyEntry _ => False
  | fieldWithoutType _ => False
  | _ => True

/-- The error is a fault of source text, met at the given path. -/
def Error.IsStructural (path : Option String) (error : Error) : Prop :=
  ∃ cause : SourceFault, cause.IsMet ∧ error = .fault (.source cause) path

/-- Faults of the source are structural errors without a file. -/
theorem Error.failsOnly_ofSource {α : Type} {outcome : Except SourceFault α}
    (h : FailsOnly SourceFault.IsMet outcome) :
    FailsOnly (IsStructural none) (ofSource outcome) := by
  cases outcome with
  | error cause => exact failsOnly_error ⟨cause, h cause rfl, rfl⟩
  | ok value => exact failsOnly_ok value

/-- A structural error that is placed in a file stays one. -/
theorem Error.IsStructural.inFile {error : Error} (h : error.IsStructural none)
    (path : Option String) : (error.inFile path).IsStructural path := by
  obtain ⟨cause, hcause, rfl⟩ := h
  exact ⟨cause, hcause, rfl⟩

/-! ## Readers -/

namespace Source

variable {text source body item name rest : Chars}

/-- The search for a closing bracket has only faults that are met. -/
theorem failsOnly_splitAtClose (text : Chars) :
    FailsOnly SourceFault.IsMet (splitAtClose text) := by
  unfold splitAtClose
  split
  · exact failsOnly_ok _
  · exact failsOnly_error trivial
  · exact failsOnly_error trivial

/-- Cutting a list has only faults that are met. -/
theorem failsOnly_splitTop (separator : Option Char) (text : Chars) :
    FailsOnly SourceFault.IsMet (splitTop separator text) := by
  unfold splitTop
  split
  · exact failsOnly_ok _
  · exact failsOnly_error trivial
  · exact failsOnly_error trivial

/-- An item that is not blank has an entry, or too many parts. -/
theorem failsOnly_readEntry (h : Text.trim item ≠ []) :
    FailsOnly SourceFault.IsMet (readEntry item) := by
  obtain ⟨first, others, htokens⟩ := List.exists_cons_of_ne_nil (splitTokens_ne_nil h)
  simp only [readEntry, htokens]
  split_ifs
  · exact failsOnly_ok _
  · exact failsOnly_ok _
  · exact failsOnly_error trivial

/-- The items of a list are not blank. -/
theorem trim_ne_nil_of_splitTop {separator : Option Char} {items : List Chars}
    (h : splitTop separator text = .ok items) : ∀ item ∈ items, Text.trim item ≠ [] := by
  obtain ⟨pieces, -, rfl⟩ := exists_of_splitTop h
  intro item hitem
  obtain ⟨hmem, hne⟩ := List.mem_filter.mp hitem
  obtain ⟨piece, -, rfl⟩ := List.mem_map.mp hmem
  rw [(Text.isTrimmed_trim piece).trim_eq]
  simpa using hne

/-- Handing types on to earlier entries has only faults that are met. -/
theorem failsOnly_shareTypes (shown : String) (pending : List String) (entries : List Param) :
    FailsOnly SourceFault.IsMet (shareTypes shown pending entries) := by
  induction entries generalizing pending with
  | nil =>
    rw [shareTypes]
    split_ifs
    · exact failsOnly_ok _
    · exact failsOnly_error trivial
  | cons entry rest ih =>
    rw [shareTypes]
    split_ifs
    · exact ih _
    · exact failsOnly_error trivial
    · exact (ih _).map _

/-- Among parameters no empty entry is met. -/
theorem failsOnly_readParams (text : Chars) : FailsOnly SourceFault.IsMet (readParams text) := by
  refine (failsOnly_splitTop _ text).bind fun items hitems => ?_
  have hentries : FailsOnly SourceFault.IsMet (items.mapM readEntry) :=
    .mapM fun item hitem => failsOnly_readEntry (trim_ne_nil_of_splitTop hitems item hitem)
  refine hentries.bind fun entries _ => ?_
  split_ifs
  · exact failsOnly_shareTypes _ _ entries
  · exact failsOnly_ok _

/-- Among results no empty entry is met. -/
theorem failsOnly_readResults (text : Chars) : FailsOnly SourceFault.IsMet (readResults text) := by
  simp only [readResults]
  split
  · exact failsOnly_ok _
  · refine (failsOnly_splitAtClose _).bind fun _ _ => ?_
    split_ifs
    · exact failsOnly_readParams _
    · exact failsOnly_error trivial
  · next hempty _ =>
    have hclause : Text.trim (Text.trim text) ≠ [] := by
      rw [(Text.isTrimmed_trim text).trim_eq]
      exact hempty
    refine (failsOnly_readEntry hclause).bind fun entry _ => ?_
    split_ifs
    · exact failsOnly_ok _
    · exact failsOnly_error trivial

/-- Splitting a signature has only faults that are met. -/
theorem failsOnly_splitSignature (text : Chars) :
    FailsOnly SourceFault.IsMet (splitSignature text) := by
  simp only [splitSignature]
  split_ifs
  · exact failsOnly_error trivial
  · exact failsOnly_error trivial
  · exact (failsOnly_splitAtClose _).bind fun _ _ => failsOnly_ok _

/-- The text after a name declares a type, unless it begins with a comment. -/
theorem failsOnly_fieldIn (hne : rest ≠ []) (hstart : ∀ c ∈ rest.head?, Text.isBlank c = false)
    (hremark : ¬ ['/', '/'] <+: rest) : FailsOnly SourceFault.IsMet (fieldIn name rest) := by
  have hwhole := @Text.intercalate_splitFrom ['/', '/'] (by simp) 0 rest
  have hpieces : Text.splitFrom ['/', '/'] 0 rest = Text.splitOn "//" rest := rfl
  rw [hpieces, List.drop_zero] at hwhole
  have htype : ∀ type others, Text.splitOn "//" rest = type :: others →
      (Text.trimEnd type).isEmpty = false := by
    intro type others hsplit
    rw [hsplit] at hwhole
    cases type with
    | nil =>
      cases others with
      | nil => exact absurd hwhole.symm hne
      | cons second more =>
        rw [List.intercalate_cons_cons] at hwhole
        exact absurd ⟨_, hwhole⟩ hremark
    | cons c others' =>
      have hhead : c ∈ rest.head? := by
        rw [← hwhole]
        cases others <;> simp [List.intercalate_cons_cons]
      rw [← List.nil_append (c :: others'), Text.trimEnd_append_cons (hstart c hhead)]
      rfl
  unfold fieldIn
  split
  · next type hsplit =>
    rw [if_neg (by simp [htype type _ hsplit])]
    exact failsOnly_ok _
  · next type comment hsplit =>
    rw [if_neg (by simp [htype type _ hsplit])]
    exact failsOnly_ok _
  · exact failsOnly_error trivial

/-- No line of a struct is a field without a type. -/
theorem failsOnly_readField (line : Chars) : FailsOnly SourceFault.IsMet (readField line) := by
  unfold readField
  simp only
  generalize (Text.trim line).takeWhile (fun c => !Text.isBlank c) = name
  generalize hrest : Text.trimStart ((Text.trim line).drop name.length) = rest
  split_ifs with hskip
  · exact failsOnly_ok _
  · exact failsOnly_error trivial
  · simp only [Bool.or_eq_true, not_or, Bool.not_eq_true, List.isEmpty_eq_false_iff,
      Option.isSome_eq_false_iff, Option.isNone_iff_eq_none] at hskip
    obtain ⟨⟨-, hne⟩, hremark⟩ := hskip
    refine failsOnly_fieldIn hne (fun c hc => Text.start_trimStart (hrest ▸ hc)) ?_
    rintro ⟨more, rfl⟩
    cases hremark

/-- No field of a struct is without a type. -/
theorem failsOnly_readFields (body : Chars) : FailsOnly SourceFault.IsMet (readFields body) :=
  FailsOnly.map (.mapM fun line _ => failsOnly_readField line) _

/-- Splitting the methods of an interface has only faults that are met. -/
theorem failsOnly_readInterface (body : Chars) :
    FailsOnly SourceFault.IsMet (readInterface body) := by
  refine FailsOnly.map (.mapM fun line _ => ?_) _
  simp only [readInterfaceLine]
  split_ifs
  · exact (failsOnly_splitSignature _).map _
  · exact failsOnly_ok _

/-- The search for the body of a method has only faults that are met. -/
theorem failsOnly_clauseFrom (whole : Chars) (skip : Nat) (seen text : Chars) :
    FailsOnly SourceFault.IsMet (clauseFrom whole skip seen text) := by
  induction text generalizing skip seen with
  | nil => exact failsOnly_error trivial
  | cons c rest ih =>
    cases skip with
    | succ skip => exact ih skip (c :: seen)
    | zero =>
      rw [clauseFrom]
      split_ifs
      · exact failsOnly_ok _
      · exact (failsOnly_splitAtClose _).bind fun _ _ => ih _ _
      · exact ih _ _

/-- Finding methods has only faults that are met. -/
theorem failsOnly_findMethods (source : Chars) :
    FailsOnly SourceFault.IsMet (findMethods source) := by
  refine .mapM fun start _ => ?_
  refine (failsOnly_splitAtClose _).bind fun parts _ => ?_
  exact (failsOnly_clauseFrom _ _ _ _).bind fun _ _ => failsOnly_ok _

/-- Finding a struct has only faults that are met. -/
theorem failsOnly_findStruct (source : Chars) :
    FailsOnly SourceFault.IsMet (findStruct source) := by
  unfold findStruct
  split
  · exact failsOnly_ok _
  · exact failsOnly_error trivial

/-- Finding a marked struct has only faults that are met. -/
theorem failsOnly_findMarkedStruct (marker source : Chars) :
    FailsOnly SourceFault.IsMet (findMarkedStruct marker source) := by
  simp only [findMarkedStruct]
  split_ifs
  · exact failsOnly_error trivial
  · split
    · exact failsOnly_ok _
    · exact failsOnly_error trivial

end Source

/-! ## Models -/

/-- A signature with a name is read or has a structural error. -/
theorem Signature.failsOnly_ofText {name params results : String} (hname : name ≠ "") :
    FailsOnly (Error.IsStructural none) (ofText name params results) := by
  have hchecked : ∀ {params : List Param}, (∀ param ∈ params, param.type ≠ "") →
      FailsOnly (Error.IsStructural none) (params.mapM fun param => param.checked.orError) := by
    intro params htypes
    refine FailsOnly.of_eq_ok (Param.mapM_checked_ok_iff.mpr ⟨rfl, fun param hparam => ?_⟩)
    simpa using htypes param hparam
  refine (Error.failsOnly_ofSource (Source.failsOnly_readParams _)).bind fun params hparams => ?_
  refine (hchecked (Source.type_ne_empty_of_readParams (Error.ofSource_ok_iff.mp hparams))).bind
    fun _ _ => ?_
  refine (Error.failsOnly_ofSource (Source.failsOnly_readResults _)).bind fun results hresults => ?_
  refine (hchecked (Source.type_ne_empty_of_readResults (Error.ofSource_ok_iff.mp hresults))).bind
    fun _ _ => ?_
  exact FailsOnly.of_eq_ok (Signature.checked_ok_iff.mpr ⟨rfl, by simpa using hname⟩)

/-- A property with a name and a type passes its check. -/
theorem Property.checked_eq {property : Property} (hname : property.name ≠ "")
    (htype : property.type ≠ "") : property.checked.orError = .ok property := by
  simp only [Property.checked, Checked.nonEmpty, String.isEmpty_iff, hname, htype, if_false]
  rfl

/-- A service with a name and a type passes its check. -/
theorem Service.checked_eq {service : Service} (hname : service.name ≠ "")
    (htype : service.type ≠ "") : service.checked.orError = .ok service := by
  simp only [Service.checked, Checked.nonEmpty, String.isEmpty_iff, hname, htype, if_false]
  rfl

/-- A store with a struct and a package passes its check. -/
theorem Store.checked_eq {store : Store} (hstruct : store.structName ≠ "")
    (hpackage : store.packageName ≠ "") : store.checked.orError = .ok store := by
  simp only [Store.checked, Checked.nonEmpty, String.isEmpty_iff, hstruct, hpackage, if_false]
  rfl

namespace Entity

/-- Added methods are read or have a structural error. -/
theorem failsOnly_readExtraMethods (structName : String) (source : Chars) :
    FailsOnly (Error.IsStructural none) (readExtraMethods structName source) := by
  unfold readExtraMethods
  split
  · exact failsOnly_ok _
  · next body _ =>
    refine (Error.failsOnly_ofSource (Source.failsOnly_readInterface body)).bind
      fun methods hmethods => .mapM fun method hmethod => ?_
    exact Signature.failsOnly_ofText (Text.ne_empty_of_isIdentifier
      (Source.isIdentifier_of_readInterface (Error.ofSource_ok_iff.mp hmethods) method hmethod))

/-- An entity is read or has a structural error, if its suffix and its package have names. -/
theorem failsOnly_read {config : Config} {packageName : String}
    (hsuffix : config.interfaceSuffix ≠ "") (hpackage : packageName ≠ "")
    (source importPath : String) (path : Option String) :
    FailsOnly (Error.IsStructural none) (read config source packageName importPath path) := by
  refine (Error.failsOnly_ofSource (Source.failsOnly_findMarkedStruct _ _)).bind
    fun block hblock => ?_
  have hname := Text.ne_empty_of_isIdentifier
    (Source.isIdentifier_of_findMarkedStruct (Error.ofSource_ok_iff.mp hblock))
  refine (Error.failsOnly_ofSource (Source.failsOnly_readFields _)).bind fun fields hfields => ?_
  have hchecked : FailsOnly (Error.IsStructural none)
      (fields.mapM fun field => field.checked.orError) := by
    refine .mapM fun field hfield => ?_
    obtain ⟨hfieldName, htype⟩ :=
      Source.of_mem_readFields (Error.ofSource_ok_iff.mp hfields) field hfield
    exact .of_eq_ok (Property.checked_eq (Text.ne_empty_of_isIdentifier hfieldName) htype)
  refine hchecked.bind fun properties _ => ?_
  refine FailsOnly.bind (.of_eq_ok (checked_eq hname hpackage hsuffix)) fun entity _ => ?_
  exact (failsOnly_readExtraMethods _ _).bind fun _ _ => failsOnly_ok _

end Entity

namespace Store

variable {store : Store} {imports : List Import} {methods : List Source.Method}

/-- Methods with names are added or have a structural error. -/
theorem failsOnly_addPublicMethods (h : ∀ method ∈ methods, method.name ≠ "") :
    FailsOnly (Error.IsStructural none) (addPublicMethods imports methods store).2 := by
  induction methods generalizing store with
  | nil => exact failsOnly_ok _
  | cons method rest ih =>
    obtain ⟨hmethod, hrest⟩ := List.forall_mem_cons.mp h
    have hsignature :=
      @Signature.failsOnly_ofText method.name method.params method.results hmethod
    rw [addPublicMethods]
    split_ifs
    · exact ih hrest
    · split
      · next error herror => exact failsOnly_error (hsignature error herror)
      · exact ih hrest

/-- The methods of a struct are read or have a structural error. -/
theorem failsOnly_methodsOf (structName : String) (source : Chars) :
    FailsOnly (Error.IsStructural none) (methodsOf structName source) :=
  (Error.failsOnly_ofSource (Source.failsOnly_findMethods source)).bind fun _ _ => failsOnly_ok _

/-- Every method that is read has a name. -/
theorem name_ne_empty_of_methodsOf {structName source : String}
    (h : methodsOf structName source.toList = .ok methods) :
    ∀ method ∈ methods, method.name ≠ "" := by
  obtain ⟨found, hfound, hsubset⟩ := findMethods_of_methodsOf h
  intro method hmethod hempty
  exact (Source.of_findMethods hfound method (hsubset hmethod)).1.1 (by rw [hempty]; rfl)

/-- A store is read or has a structural error, if its package has a name. -/
theorem failsOnly_read {packageName : String} (hpackage : packageName ≠ "") (source : String)
    (entity : Entity) (path : Option String) :
    FailsOnly (Error.IsStructural none) (read source packageName entity path) := by
  refine (Error.failsOnly_ofSource (Source.failsOnly_findStruct _)).bind fun block hblock => ?_
  have hname := Text.ne_empty_of_isIdentifier
    (Source.isIdentifier_of_findStruct (Error.ofSource_ok_iff.mp hblock))
  refine (failsOnly_methodsOf _ _).bind fun methods hmethods => ?_
  refine FailsOnly.bind (.of_eq_ok (checked_eq hname hpackage)) fun declared _ => ?_
  simp only
  split_ifs
  · exact failsOnly_ok _
  · have hservices : ∀ service ∈ Source.readServices block.body.toList, ∀ store,
        FailsOnly (Error.IsStructural none)
          (addService (Source.findImports source.toList) store service) := by
      intro service hservice store
      obtain ⟨hserviceName, htype⟩ := Source.ne_empty_of_mem_readServices hservice
      exact FailsOnly.bind (.of_eq_ok (Service.checked_eq hserviceName htype))
        fun _ _ => failsOnly_ok _
    refine (FailsOnly.foldlM hservices _).bind fun store _ => ?_
    refine FailsOnly.map (failsOnly_addPublicMethods fun method hmethod => ?_) _
    exact name_ne_empty_of_methodsOf hmethods method (List.mem_filter.mp hmethod).1

/-- Taking up a file ends in a number or in a fault of the file. -/
theorem failsOnly_harvest (store : Store) (source : String) (collectPublic : Bool)
    (path : Option String) :
    FailsOnly (Error.IsStructural path) (store.harvest source collectPublic path).2 := by
  have hmethods := failsOnly_methodsOf store.structName source.toList
  unfold harvest
  simp only
  split
  · next error herror => exact failsOnly_error ((hmethods error herror).inFile path)
  · next methods hok =>
    split_ifs
    · exact failsOnly_ok _
    · refine FailsOnly.mapError (FailsOnly.map (failsOnly_addPublicMethods fun method hmethod => ?_)
        _) fun error herror => herror.inFile path
      exact name_ne_empty_of_methodsOf hok method (List.mem_filter.mp hmethod).1

end Store

/-! ## Configurations -/

namespace Checked

variable {α β : Type} {value : β}

theorem seq_eq_good_iff {f : Checked (α → β)} {x : Checked α} :
    f <*> x = .good value ↔ ∃ g a, f = .good g ∧ x = .good a ∧ g a = value := by
  cases f <;> cases x <;> simp [Seq.seq, apply]

theorem map_eq_good_iff {g : α → β} {x : Checked α} :
    g <$> x = .good value ↔ ∃ a, x = .good a ∧ g a = value := by
  cases x <;> simp [Functor.map, apply]

end Checked

namespace Schema

/-- A member that may not be empty is not, whether it is given or the default. -/
theorem ne_empty_of_member {members : Members} {name default text : String}
    (h : member members name (Schema.text 1) default = .good text) (hdefault : default ≠ "") :
    text ≠ "" := by
  unfold member at h
  split at h
  · next value _ =>
    cases value with
    | str shown =>
      simp only [Schema.text] at h
      split_ifs at h with hshort
      · cases h
      · obtain rfl := Checked.good.inj h
        rintro rfl
        exact hshort Nat.zero_lt_one
    | _ => cases h
  · exact Checked.good.inj h ▸ hdefault

/-- What is read from an object is read from members. -/
theorem exists_members_of_object {α : Type} {known : List String} {read : Members → Checked α}
    {document : Json} {value : α} (h : object known read document = .good value) :
    ∃ members, read members = .good value := by
  have hnamed : ∀ {members}, object.named known read members = .good value →
      read members = .good value := by
    intro members h
    obtain ⟨_, _, hfirst, -, rfl⟩ := Checked.seq_eq_good_iff.mp h
    obtain ⟨_, hread, rfl⟩ := Checked.map_eq_good_iff.mp hfirst
    exact hread
  cases document with
  | obj members => exact ⟨members, hnamed h⟩
  | mapping members =>
    obtain ⟨_, _, hfirst, -, rfl⟩ := Checked.seq_eq_good_iff.mp h
    obtain ⟨_, htexts, rfl⟩ := Checked.map_eq_good_iff.mp hfirst
    exact ⟨_, hnamed htexts⟩
  | _ => cases h

end Schema

/-- Every configuration that a document sets has an ending for the names of interfaces. -/
theorem Config.interfaceSuffix_ne_empty {document : Json} {config : Config}
    (h : ofJson document = .good config) : config.interfaceSuffix ≠ "" := by
  obtain ⟨members, hread⟩ := Schema.exists_members_of_object h
  clear h
  simp only [ofMembers] at hread
  repeat
    rw [Checked.seq_eq_good_iff] at hread
    obtain ⟨_, _, hread, _, rfl⟩ := hread
  obtain ⟨_, _, rfl⟩ := Checked.map_eq_good_iff.mp hread
  have hsuffix :=
    ‹Schema.member members "interface_suffix" (Schema.text 1) _ = .good _›
  exact Schema.ne_empty_of_member hsuffix (by decide)

/-- Whatever the source texts are, reading an entity or a store and taking up a further file end in
a result or in a fault of the source at the path that was given. No model is refused, and neither a
field without a type nor an entry without tokens is ever met. -/
theorem reading_fails_structurally {document : Json} {config : Config} {packageName : String}
    (hconfig : Config.ofJson document = .good config) (hpackage : packageName ≠ "") :
    (∀ source importPath path, FailsOnly (Error.IsStructural path)
      (Entity.ofSource config source packageName importPath path)) ∧
    (∀ source entity path, FailsOnly (Error.IsStructural path)
      (Store.ofSource source packageName (some entity) path)) ∧
    (∀ (store : Store) source collectPublic path, FailsOnly (Error.IsStructural path)
      (store.harvest source collectPublic path).2) ∧
    (∀ body line, Source.readFields body ≠ .error (.fieldWithoutType line)) ∧
    (∀ text item, Source.readParams text ≠ .error (.emptyEntry item)) ∧
    (∀ text item, Source.readResults text ≠ .error (.emptyEntry item)) := by
  refine ⟨fun source importPath path => ?_, fun source entity path => ?_, Store.failsOnly_harvest,
    fun body line => ?_, fun text item => ?_, fun text item => ?_⟩
  · have hread := Entity.failsOnly_read (Config.interfaceSuffix_ne_empty hconfig) hpackage source
      importPath path
    exact hread.mapError fun error herror => herror.inFile path
  · have hread := Store.failsOnly_read hpackage source entity path
    exact hread.mapError fun error herror => herror.inFile path
  · exact Source.failsOnly_readFields body _
  · exact Source.failsOnly_readParams text _
  · exact Source.failsOnly_readResults text _

/-- A declaration with a field that only has a comment, and a method whose last name lacks a
type. -/
def orderSource : String :=
  "// @synthesize\ntype order struct \x7b\n\tid // key\n\tcode string //\n\x7d\n\n" ++
    "type orderMethods interface \x7b\n\tTotal(tax int, net) int\n\x7d\n"

/-- The field is passed over, and the fault is that of the method. -/
theorem reading_fails_structurally_order :
    Config.ofJson (.obj [("interface_suffix", .str "Model")]) =
      .good { interfaceSuffix := "Model" } ∧
    Entity.ofSource { interfaceSuffix := "Model" } orderSource "shop" "" (some "order.go") =
      .error (.fault (.source (.namesWithoutType "tax int, net")) (some "order.go")) ∧
    (Error.fault (.source (.namesWithoutType "tax int, net")) (some "order.go")).IsStructural
      (some "order.go") := by
  have hconfig : Config.ofJson (.obj [("interface_suffix", .str "Model")]) =
      .good { interfaceSuffix := "Model" } := rfl
  have hread : Entity.ofSource { interfaceSuffix := "Model" } orderSource "shop" ""
      (some "order.go") =
      .error (.fault (.source (.namesWithoutType "tax int, net")) (some "order.go")) := by
    decide +kernel
  exact ⟨hconfig, hread,
    (reading_fails_structurally hconfig (by decide : "shop" ≠ "")).1 _ _ _ _ hread⟩

end Scaffold
