import Scaffold.Proofs.EmittedImports

/-!
# Names and types that are read

Nothing is read from source without a name: structs, fields and added methods have identifiers for
names, methods and services have words. And no field, parameter or result is read without a type,
since a type is made of what is left after blanks have been taken away from something that is not
blank.
-/

namespace Scaffold

/-- An identifier is not empty. -/
theorem Text.ne_empty_of_isIdentifier {name : String}
    (h : Source.isIdentifier name.toList = true) : name ≠ "" := by
  rintro rfl
  cases h

namespace Source

variable {text source body item : Chars} {block : StructBlock} {params : List Param}

/-! ## Fields -/

/-- A field that is read has a type. -/
theorem type_ne_empty_of_readField {line : Chars} {property : Property}
    (h : readField line = .ok (some property)) : property.type ≠ "" := by
  obtain ⟨name, _, rest, -, -, -, -, hfield⟩ := exists_of_readField h
  unfold fieldIn at hfield
  split at hfield
  · split_ifs at hfield with hempty
    obtain rfl := Option.some.inj (Except.ok.inj hfield)
    simpa using hempty
  · split_ifs at hfield with hempty
    obtain rfl := Option.some.inj (Except.ok.inj hfield)
    simpa using hempty
  · cases hfield

/-- Every field of a struct body has an identifier for its name, and a type. -/
theorem of_mem_readFields {fields : List Property} (h : readFields body = .ok fields) :
    ∀ field ∈ fields, isIdentifier field.name.toList = true ∧ field.type ≠ "" := by
  intro field hfield
  obtain ⟨found, hfound, rfl⟩ := map_eq_ok h
  obtain ⟨declared, hdeclared, rfl⟩ := List.mem_filterMap.mp hfield
  obtain ⟨line, -, hline⟩ := Outcome.exists_of_mapM hfound _ hdeclared
  exact ⟨isIdentifier_of_readField hline, type_ne_empty_of_readField hline⟩

/-! ## Parameters and results -/

/-- A text that is not all blank has tokens. -/
theorem splitTokens_ne_nil (h : Text.trim text ≠ []) : splitTokens text ≠ [] := by
  intro hnone
  have hspread := isSpread_splitTokens text
  rw [hnone] at hspread
  cases hspread with
  | nil hblank => exact h (Text.trim_of_blank hblank)

/-- An entry that is read has a type. -/
theorem type_ne_empty_of_readEntry {param : Param} (h : readEntry item = .ok param) :
    param.type ≠ "" := by
  have htokens := isTokens_splitTokens item
  have hentry := readEntry_ok_iff.mp h
  generalize splitTokens item = tokens at htokens hentry
  have hjoined : ∀ {tokens : List Chars}, IsTokens tokens → tokens ≠ [] →
      joinTokens tokens ≠ "" := by
    intro tokens htokens hne hempty
    exact htokens.join_ne_nil hne (by simpa [joinTokens] using hempty)
  cases hentry with
  | bare => exact hjoined htokens (by simp)
  | named _ _ htype => exact hjoined htokens.tail htype.ne_nil

/-- Every parameter that is read has a type. -/
theorem type_ne_empty_of_readParams (h : readParams text = .ok params) :
    ∀ param ∈ params, param.type ≠ "" :=
  forall_of_readParams h (fun _ _ _ _ _ hentry => type_ne_empty_of_readEntry hentry)
    fun _ _ hentry _ => hentry

/-- Every result that is read has a type. -/
theorem type_ne_empty_of_readResults (h : readResults text = .ok params) :
    ∀ param ∈ params, param.type ≠ "" := by
  obtain ⟨-, rfl⟩ | ⟨_, _, -, -, -, hread⟩ | ⟨entry, hentry, -, rfl⟩ := exists_of_readResults h
  · exact List.forall_mem_nil _
  · exact type_ne_empty_of_readParams hread
  · exact List.forall_mem_singleton.mpr (type_ne_empty_of_readEntry hentry)

/-! ## Methods and services -/

/-- The methods of an interface are named by identifiers. -/
theorem isIdentifier_of_readInterface {methods : List SignatureText}
    (h : readInterface body = .ok methods) :
    ∀ method ∈ methods, isIdentifier method.name.toList = true := by
  intro method hmethod
  obtain ⟨found, hfound, rfl⟩ := map_eq_ok h
  obtain ⟨declared, hdeclared, rfl⟩ := List.mem_filterMap.mp hmethod
  obtain ⟨line, -, hline⟩ := Outcome.exists_of_mapM hfound _ hdeclared
  unfold readInterfaceLine at hline
  simp only at hline
  split_ifs at hline
  · obtain ⟨parts, hparts, hsome⟩ := map_eq_ok hline
    obtain rfl := Option.some.inj hsome
    exact (of_splitSignature hparts).1
  · cases hline

/-- A service that is read has a name and a type. -/
theorem ne_empty_of_mem_readServices {service : Service} (h : service ∈ readServices body) :
    service.name ≠ "" ∧ service.type ≠ "" := by
  obtain ⟨hname, star, package, symbol, htype, -⟩ := of_mem_readServices h
  constructor
  · intro hempty
    exact hname.1 (by rw [hempty]; rfl)
  · intro hempty
    rw [hempty] at htype
    simp at htype

end Source

/-! ## Entities -/

/-- What an entity that is read from source has from it. -/
theorem Entity.parts_of_ofSource {config : Config} {source packageName importPath : String}
    {sourcePath : Option String} {entity : Entity}
    (h : Entity.ofSource config source packageName importPath sourcePath = .ok entity) :
    Source.isIdentifier entity.name.toList = true ∧
      entity.interfaceSuffix = config.interfaceSuffix ∧
      ∀ property ∈ entity.properties, Source.isIdentifier property.name.toList = true := by
  obtain ⟨block, hblock, hname, -, hsuffix, fields, hfields, hproperties⟩ :=
    Entity.names_of_ofSource h
  rw [hname]
  refine ⟨Source.isIdentifier_of_findMarkedStruct hblock, hsuffix, fun property hproperty => ?_⟩
  obtain ⟨field, hfield, hfound⟩ := Outcome.exists_of_mapM hproperties property hproperty
  obtain rfl := Property.eq_of_checked hfound
  exact (Source.of_mem_readFields hfields _ hfield).1

end Scaffold
