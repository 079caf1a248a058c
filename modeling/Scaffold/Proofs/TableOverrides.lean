import Scaffold.Proofs.EntityMethods

/-!
# Tables that are named by hand

A primary entity names its table itself, unless its source does. What counts as naming it by hand is
a text anywhere in the source: the end of some receiver, the name of the method, and a body that
returns a text at once. Whose receiver it is does not matter, and a body that says the same in
another way does not count.
-/

namespace Scaffold

namespace Source

variable {α : Type} {text rest spaces value : Chars} {previous : Option Char} {method : String}

/-! ## Texts that name a table -/

/-- A method that returns a text at once, from the end of its receiver to the end of the text; the
name of the method is left open. -/
structure Override where
  beforeName : Chars
  beforeType : Chars
  beforeBrace : Chars
  afterBrace : Chars
  beforeValue : Chars
  value : Chars
  beforeName_space : ∀ c ∈ beforeName, Text.isSpaceOrTab c = true
  beforeType_ne_nil : beforeType ≠ []
  beforeType_space : ∀ c ∈ beforeType, Text.isSpaceOrTab c = true
  beforeBrace_space : ∀ c ∈ beforeBrace, Text.isSpaceOrTab c = true
  afterBrace_blank : ∀ c ∈ afterBrace, Text.isBlank c = true
  beforeValue_ne_nil : beforeValue ≠ []
  beforeValue_space : ∀ c ∈ beforeValue, Text.isSpaceOrTab c = true
  value_quote : '"' ∉ value

/-- The text of the method under a name. -/
def Override.written (override : Override) (method : String) : Chars :=
  ')' :: (override.beforeName ++ (method.toList ++ ("()".toList ++ (override.beforeType ++
    ("string".toList ++ (override.beforeBrace ++ '{' :: (override.afterBrace ++
      ("return".toList ++ (override.beforeValue ++ '"' :: (override.value ++ ['"']))))))))))

theorem Override.written_append (override : Override) (method : String) (rest : Chars) :
    override.written method ++ rest = ')' :: (override.beforeName ++ (method.toList ++
      ("()".toList ++ (override.beforeType ++ ("string".toList ++ (override.beforeBrace ++
        '{' :: (override.afterBrace ++ ("return".toList ++ (override.beforeValue ++
          '"' :: (override.value ++ '"' :: rest)))))))))) := by
  rw [written]
  generalize "()".toList = parens, "string".toList = type, "return".toList = command
  simp

/-- The steps by which such a method is found. -/
theorem returnedText?_eq_some_iff :
    returnedText? method previous text = some (value, rest) ↔
      ∃ t₁, literal ")" text = some t₁ ∧ ∃ t₂, literal method (skipSpaces t₁) = some t₂ ∧
      ∃ t₃, literal "()" t₂ = some t₃ ∧ ∃ t₄, someSpaces t₃ = some t₄ ∧
      ∃ t₅, literal "string" t₄ = some t₅ ∧ ∃ t₆, literal "\x7b" (skipSpaces t₅) = some t₆ ∧
      ∃ t₇, literal "return" (t₆.dropWhile Text.isBlank) = some t₇ ∧
      ∃ t₈, someSpaces t₇ = some t₈ ∧ ∃ t₉, literal "\"" t₈ = some t₉ ∧
      ∃ t₁₀, literal "\"" (t₉.drop (t₉.takeWhile (· != '"')).length) = some t₁₀ ∧
        t₉.takeWhile (· != '"') = value ∧ t₁₀ = rest := by
  simp only [returnedText?, Option.bind_eq_bind, Option.bind_eq_some_iff, Option.pure_def,
    Option.some.injEq, Prod.mk.injEq]

/-- The text of such a method is found whole. -/
theorem Override.returnedText?_append (override : Override)
    (hmethod : ∀ c ∈ method.toList.head?, Text.isSpaceOrTab c = false) (rest : Chars) :
    returnedText? method previous (override.written method ++ rest) =
      some (override.value, rest) := by
  have hname : ∀ later, literal method (skipSpaces (override.beforeName ++ (method.toList ++
      ("()".toList ++ later)))) = some ("()".toList ++ later) := by
    intro later
    rw [skipSpaces_append override.beforeName_space, literal_append]
    cases hchars : method.toList with
    | nil =>
      rintro c ⟨⟩
      rfl
    | cons c others => simpa [hchars] using hmethod
  have htype : ∀ later, someSpaces (override.beforeType ++ ("string".toList ++ later)) =
      some ("string".toList ++ later) := fun later =>
    someSpaces_append override.beforeType_ne_nil override.beforeType_space (by rintro c ⟨⟩; rfl)
  have hbrace : ∀ later, literal "\x7b" (skipSpaces (override.beforeBrace ++ '{' :: later)) =
      some later := by
    intro later
    rw [skipSpaces_append override.beforeBrace_space (by rintro c ⟨⟩; rfl)]
    rfl
  have hreturn : ∀ later, literal "return" ((override.afterBrace ++ ("return".toList ++
      later)).dropWhile Text.isBlank) = some later := by
    intro later
    rw [List.dropWhile_append_of_pos override.afterBrace_blank]
    rfl
  have hgap : ∀ later, someSpaces (override.beforeValue ++ '"' :: later) = some ('"' :: later) :=
    fun later => someSpaces_append override.beforeValue_ne_nil override.beforeValue_space
      (by rintro c ⟨⟩; rfl)
  have hopen : ∀ later, literal "\"" ('"' :: later) = some later := fun _ => rfl
  have hvalue : (override.value ++ '"' :: rest).takeWhile (· != '"') = override.value := by
    rw [List.takeWhile_append_of_pos]
    · simp
    · intro c hc
      simp only [bne_iff_ne, ne_eq]
      rintro rfl
      exact override.value_quote hc
  refine returnedText?_eq_some_iff.mpr ⟨_, congrArg (literal ")") (override.written_append _ _), _,
    hname _, _, literal_append _ _, _, htype _, _, literal_append _ _, _, hbrace _, _, hreturn _, _,
    hgap _, _, hopen _, rest, ?_, hvalue, rfl⟩
  rw [hvalue, List.drop_left]
  rfl

/-- What is found is such a method. -/
theorem exists_override (h : returnedText? method previous text = some (value, rest)) :
    ∃ override : Override, text = override.written method ++ rest := by
  obtain ⟨t₁, h₁, t₂, h₂, t₃, h₃, t₄, h₄, t₅, h₅, t₆, h₆, t₇, h₇, t₈, h₈, t₉, h₉, t₁₀, h₁₀, rfl,
    rfl⟩ := returnedText?_eq_some_iff.mp h
  obtain ⟨beforeName, hname, hbeforeName⟩ := exists_skipSpaces t₁
  obtain ⟨beforeType, htypeNe, htype, hbeforeType⟩ := exists_someSpaces h₄
  obtain ⟨beforeBrace, hbrace, hbeforeBrace⟩ := exists_skipSpaces t₅
  obtain ⟨beforeValue, hvalueNe, hvalue, hbeforeValue⟩ := exists_someSpaces h₈
  have hblank := (@List.takeWhile_append_dropWhile _ Text.isBlank t₆).symm
  have hquoted := List.prefix_iff_eq_append.mp (@List.takeWhile_prefix _ t₉ (· != '"'))
  rw [eq_of_literal h₂, eq_of_literal h₃] at hname
  rw [eq_of_literal h₅] at htype
  rw [eq_of_literal h₆] at hbrace
  rw [eq_of_literal h₇] at hblank
  rw [eq_of_literal h₉] at hvalue
  rw [eq_of_literal h₁₀] at hquoted
  refine ⟨⟨beforeName, beforeType, beforeBrace, t₆.takeWhile Text.isBlank, beforeValue,
    t₉.takeWhile (· != '"'), hbeforeName, htypeNe, hbeforeType, hbeforeBrace,
    fun c hc => List.mem_takeWhile_imp hc, hvalueNe, hbeforeValue, ?_⟩, ?_⟩
  · intro hmem
    simpa using List.mem_takeWhile_imp hmem
  · have hend : t₉.takeWhile (· != '"') ++ '"' :: t₁₀ = t₉ := hquoted
    have hmark : beforeValue ++ '"' :: t₉ = t₇ := hvalue.symm
    have hbody : beforeBrace ++ '{' :: t₆ = t₅ := hbrace.symm
    rw [Override.written_append, eq_of_literal h₁]
    dsimp only
    rw [hend, hmark, ← hblank, hbody, ← htype, ← hname]
    rfl

/-- The first method of a name that returns a text at once is found wherever it stands. -/
theorem isSome_returnedText?_iff
    (hmethod : ∀ c ∈ method.toList.head?, Text.isSpaceOrTab c = false) :
    (firstMatch? (returnedText? method) text).isSome = true ↔
      ∃ override : Override, override.written method <:+: text := by
  rw [isSome_firstMatch?_iff fun _ => rfl]
  constructor
  · rintro ⟨before, rest, rfl, hsome⟩
    obtain ⟨⟨value, after⟩, hfound⟩ := Option.isSome_iff_exists.mp hsome
    obtain ⟨override, rfl⟩ := exists_override hfound
    exact ⟨override, before, after, List.append_assoc _ _ _⟩
  · rintro ⟨override, before, after, rfl⟩
    refine ⟨before, override.written method ++ after, List.append_assoc _ _ _, ?_⟩
    rw [override.returnedText?_append hmethod]
    rfl

theorem findTableName_eq_none_iff :
    findTableName text = none ↔
      ¬ ∃ override : Override, override.written "TableName" <:+: text := by
  rw [findTableName, Option.map_eq_none_iff,
    ← isSome_returnedText?_iff (by simp [Text.isSpaceOrTab]), Option.not_isSome_iff_eq_none]

theorem findTableAlias_eq_none_iff :
    findTableAlias text = none ↔
      ¬ ∃ override : Override, override.written "TableAlias" <:+: text := by
  rw [findTableAlias, Option.map_eq_none_iff,
    ← isSome_returnedText?_iff (by simp [Text.isSpaceOrTab]), Option.not_isSome_iff_eq_none]

end Source

namespace Entity

open Source

variable {config : Config} {source packageName importPath : String} {sourcePath : Option String}
  {entity : Entity} {func : Go.Func}

/-! ## Table methods of files -/

theorem tables_of_ofSource
    (h : ofSource config source packageName importPath sourcePath = .ok entity)
    (hprimary : entity.isPrimary = true) :
    entity.tableName = findTableName source.toList ∧
      entity.tableAlias = findTableAlias source.toList := by
  have hread := read_of_ofSource h
  simp only [Entity.read, Outcome.bind_eq_ok_iff, Error.ofSource_ok_iff] at hread
  obtain ⟨block, -, fields, -, properties, -, found, -, methods, -, heq⟩ := hread
  obtain rfl := Except.ok.inj heq
  exact ⟨if_pos hprimary, if_pos hprimary⟩

/-- A field is not returned as a quoted text is. -/
theorem return_field_ne {record field value : String} (h : '"' ∉ record.toList) :
    "return " ++ record ++ "." ++ field ≠ "return \"" ++ value ++ "\"" := by
  intro heq
  have hreturn : "return \"" = "return " ++ "\"" := rfl
  rw [hreturn, String.append_assoc, String.append_assoc, String.append_assoc, String.append_assoc,
    String.append_right_inj] at heq
  have hchars : record.toList ++ '.' :: field.toList = '"' :: (value.toList ++ ['"']) := by
    simpa using congrArg String.toList heq
  cases hrecord : record.toList with
  | nil =>
    rw [hrecord] at hchars
    exact absurd (List.cons.inj hchars).1 (by decide)
  | cons c others =>
    rw [hrecord] at hchars h
    exact h (List.mem_cons.mpr (.inl (List.cons.inj hchars).1.symm))

/-- A method of the file that returns a quoted text is one of the table methods. -/
theorem mem_tableMethods_of_mem_funcs (hname : Text.IsMarkFree entity.name)
    (hreceiver : func.receiver.isSome = true) (hparams : func.signature.params = [])
    {value : String} (hbody : func.body = ["return \"" ++ value ++ "\""])
    (h : func ∈ (entity.file config).funcs) : func ∈ entity.tableMethods := by
  have hvariable : '"' ∉ entity.variableName.toList := hname.initial.not_mem (by decide)
  rw [funcs_file, Entity.methods, List.mem_append, List.mem_append, List.mem_flatMap] at h
  rcases h with (h | ⟨property, -, h⟩) | h
  · exact h
  · rcases cases_of_mem_accessors h with rfl | rfl | rfl
    · exact absurd (List.singleton_inj.mp hbody) (return_field_ne hvariable)
    · cases hparams
    · refine absurd ?_
        (@return_field_ne _ (config.updatedReferenceField ++ " != nil") value hvariable)
      rw [← List.singleton_inj.mp hbody]
      simp only [String.append_assoc]
  · simp only [constructors, List.mem_append, List.mem_ite_nil_left, List.mem_singleton] at h
    rcases h with ⟨-, rfl⟩ | ⟨-, rfl⟩ <;> cases hreceiver

/-- The table methods are there where the entity does not have them by hand. -/
theorem mem_tableMethods_iff (hprimary : entity.isPrimary = true) :
    (entity.tableNameMethod ∈ entity.tableMethods ↔ entity.tableName = none) ∧
      (entity.tableAliasMethod ∈ entity.tableMethods ↔ entity.tableAlias = none) := by
  have hne : entity.tableNameMethod ≠ entity.tableAliasMethod := by
    intro heq
    have hnames : "TableName" = "TableAlias" :=
      congrArg (fun func : Go.Func => func.signature.name) heq
    exact absurd hnames (by decide)
  simp [tableMethods, hprimary, hne, hne.symm]

/-- A primary entity is given a table method exactly when no method of that name returns a text at
once, whatever its receiver, anywhere in the source. -/
theorem table_methods_generated_iff
    (h : ofSource config source packageName importPath sourcePath = .ok entity)
    (hprimary : entity.isPrimary = true) :
    (entity.tableNameMethod ∈ (entity.file config).funcs ↔
      ¬ ∃ override : Override, override.written "TableName" <:+: source.toList) ∧
    (entity.tableAliasMethod ∈ (entity.file config).funcs ↔
      ¬ ∃ override : Override, override.written "TableAlias" <:+: source.toList) := by
  obtain ⟨htableName, htableAlias⟩ := tables_of_ofSource h hprimary
  obtain ⟨hnameIff, haliasIff⟩ := mem_tableMethods_iff hprimary
  have hname := isMarkFree_name h
  have hfuncs : ∀ func ∈ entity.tableMethods, func ∈ (entity.file config).funcs := by
    intro func hfunc
    rw [funcs_file]
    exact List.mem_append_left _ (List.mem_append_left _ hfunc)
  rw [← findTableName_eq_none_iff, ← findTableAlias_eq_none_iff, ← htableName, ← htableAlias,
    ← hnameIff, ← haliasIff]
  exact ⟨⟨mem_tableMethods_of_mem_funcs hname rfl rfl rfl, hfuncs _⟩,
    ⟨mem_tableMethods_of_mem_funcs hname rfl rfl rfl, hfuncs _⟩⟩

/-- The source of a primary entity, with a table method below its struct. -/
def tableSource (method : String) : String :=
  "// @synthesize\ntype A struct \x7b\n\tid string\n\x7d\n" ++ method

/-- The entity that such a source declares. -/
def tableEntity (tableName : Option String) : Entity :=
  { name := "A", packageName := "a", properties := [⟨"id", "string", ""⟩], tableName }

/-- The struct's own method counts for the name, and leaves the alias open. -/
theorem table_methods_generated_iff_sample :
    (tableEntity (some "as")).tableNameMethod ∉ ((tableEntity (some "as")).file {}).funcs ∧
      (tableEntity (some "as")).tableAliasMethod ∈ ((tableEntity (some "as")).file {}).funcs := by
  have hread : ofSource {} (tableSource
      "func (a *A) TableName() string \x7b\n\treturn \"as\"\n\x7d\n") "a" "" none =
        .ok (tableEntity (some "as")) := rfl
  obtain ⟨hname, halias⟩ := table_methods_generated_iff hread rfl
  constructor
  · rw [hname, not_not]
    have hspace : ∀ c ∈ [' '], Text.isSpaceOrTab c = true := List.forall_mem_singleton.mpr rfl
    refine ⟨⟨[' '], [' '], [' '], ['\n', '\t'], [' '], "as".toList, hspace, by decide, hspace,
      hspace, Text.forall_mem_of_all (by decide), by decide, hspace, by decide⟩, ?_⟩
    exact ⟨"// @synthesize\ntype A struct \x7b\n\tid string\n\x7d\nfunc (a *A".toList,
      "\n\x7d\n".toList, rfl⟩
  · exact halias.mpr (findTableAlias_eq_none_iff.mp rfl)

/-- A method of another struct counts, and one of the struct that returns a variable does not. -/
theorem table_method_misjudged :
    (tableEntity (some "others")).isPrimary = true ∧ (tableEntity none).isPrimary = true ∧
    (∃ methods, ofSource {} (tableSource
        "func (o *Other) TableName() string \x7b\n\treturn \"others\"\n\x7d\n") "a" "" none =
          .ok (tableEntity (some "others")) ∧
      findMethods (tableSource
        "func (o *Other) TableName() string \x7b\n\treturn \"others\"\n\x7d\n").toList =
          .ok methods ∧
      (∀ method ∈ methods, ¬ (method.name = "TableName" ∧ method.receiverType = "A")) ∧
      (tableEntity (some "others")).tableNameMethod ∉
        ((tableEntity (some "others")).file {}).funcs) ∧
    ∃ methods, ofSource {} (tableSource
        "func (a *A) TableName() string \x7b\n\treturn table\n\x7d\n") "a" "" none =
          .ok (tableEntity none) ∧
      findMethods (tableSource
        "func (a *A) TableName() string \x7b\n\treturn table\n\x7d\n").toList = .ok methods ∧
      (∃ method ∈ methods, method.name = "TableName" ∧ method.receiverType = "A") ∧
      (tableEntity none).tableNameMethod ∈ ((tableEntity none).file {}).funcs := by
  exact ⟨rfl, rfl, ⟨_, rfl, rfl, by decide, by decide⟩, _, rfl, rfl, by decide, by decide⟩

end Entity

end Scaffold
