import Scaffold.Proofs.EntityMethods

/-!
# Variables of generated functions

A generated function names its receiver or the instance that it makes after the initial of a struct,
while its parameters are named after fields and services. Setters take another name for the receiver
where a field has it, and the routine that fetches rows takes another name for a row where the
receiver has it; the parameters of that routine are longer than an initial. The constructor of a
store takes no other name: a service that is named like its variable is hidden by it.
-/

namespace Scaffold

namespace Go

/-- The variable that a line of code declares, if it declares a single one. -/
def declared? (line : String) : Option String :=
  match Source.identifier? (line.toList.dropWhile (· == '\t')) with
  | some (name, rest) => if " := ".toList.isPrefixOf rest then some (String.ofList name) else none
  | none => none

/-- The receiver of a function, and the variables that lines of its body declare. -/
def Func.variables (func : Func) : List String :=
  func.receiver.toList.map Receiver.name ++ func.body.filterMap declared?

/-- No parameter of the function has the name of one of its variables. -/
def Func.IsApart (func : Func) : Prop :=
  ∀ name ∈ func.variables, name ∉ func.signature.params.map Param.name

instance (func : Func) : Decidable func.IsApart :=
  inferInstanceAs (Decidable (∀ _ ∈ _, _))

variable {line name : String} {body : List String} {word rest : Chars} {c : Char}

theorem declared?_indent (line : String) : declared? (indent line) = declared? line := by
  simp [declared?, indent]

/-- Whether a line that begins with a name declares it depends on what follows. -/
theorem declared?_eq (hline : line.toList = word ++ c :: rest)
    (hword : Source.isIdentifier word = true) (hc : Text.isWord c = false) :
    declared? line =
      if " := ".toList.isPrefixOf (c :: rest) then some (String.ofList word) else none := by
  have hstart : (word ++ c :: rest).dropWhile (· == '\t') = word ++ c :: rest := by
    cases word with
    | nil => cases hword
    | cons first others =>
      have hfirst := Source.isWord_of_isIdentifier hword first List.mem_cons_self
      refine List.dropWhile_cons_of_neg fun htab => ?_
      obtain rfl := beq_iff_eq.mp htab
      cases hfirst
  rw [declared?, hline, hstart, Source.identifier?_append hword hc]

theorem declared?_eq_some (hline : line.toList = name.toList ++ ' ' :: ':' :: '=' :: ' ' :: rest)
    (hname : Source.isIdentifier name.toList = true) : declared? line = some name := by
  rw [declared?_eq hline hname (by decide), if_pos (by simp), String.ofList_toList]

theorem declared?_eq_none (word : Chars) (c : Char) (hline : line.toList = word ++ c :: rest)
    (hword : Source.isIdentifier word = true) (hc : Text.isWord c = false)
    (hother : " := ".toList.isPrefixOf (c :: rest) = false) : declared? line = none := by
  rw [declared?_eq hline hword hc, if_neg (by rw [hother]; exact Bool.false_ne_true)]

/-- A line without a colon declares nothing. -/
theorem declared?_of_not_mem (h : ':' ∉ line.toList) : declared? line = none := by
  unfold declared?
  split
  · next name rest hfound =>
    refine if_neg fun hprefix => h ?_
    have hcolon : ':' ∈ rest := (List.isPrefixOf_iff_prefix.mp hprefix).subset (by decide)
    have hsplit : line.toList.dropWhile (· == '\t') = name ++ rest :=
      (Source.of_identifier? hfound).1
    exact (List.dropWhile_suffix _).subset (hsplit ▸ List.mem_append_right name hcolon)
  · rfl

theorem filterMap_declared?_block (h : declared? (opening line) = none) :
    (block line body).filterMap declared? = body.filterMap declared? := by
  have hclosing : declared? closing = none := by decide
  simp only [block, List.filterMap_append, List.filterMap_cons, h, List.filterMap_map,
    List.filterMap_nil, hclosing, List.append_nil]
  simp only [Function.comp_def, declared?_indent]

end Go

/-! ## Initials -/

/-- A name with an ending is another name. -/
theorem Naming.append_ne_self {name ending : String} (h : ending.length ≠ 0) :
    name ++ ending ≠ name := by
  intro hsame
  have hlength := congrArg String.length hsame
  rw [String.length_append] at hlength
  omega

namespace Entity

variable {config : Config} {entity : Entity} {property : Property}

theorem setterReceiver_ne (entity : Entity) (property : Property) :
    entity.setterReceiver property ≠ property.name := by
  unfold setterReceiver
  split_ifs with hname
  · rw [beq_iff_eq.mp hname]
    exact Naming.append_ne_self (by decide)
  · exact fun hsame => hname (beq_iff_eq.mpr hsame.symm)

/-- The receiver is the only variable of a setter. -/
theorem variables_setter (h : Source.isIdentifier entity.name.toList = true)
    (property : Property) :
    (entity.setter property).variables = [entity.setterReceiver property] := by
  have hbody : (entity.setter property).body.filterMap Go.declared? = [] := by
    have hline : Go.declared? (entity.setterReceiver property ++ "." ++ property.name ++ " = " ++
        property.name) = none :=
      Go.declared?_eq_none _ '.' (by simp; rfl) (isIdentifier_setterReceiver h property) rfl rfl
    simp only [setter, List.filterMap_cons, List.filterMap_nil, hline]
  rw [Go.Func.variables, hbody]
  rfl

/-- The methods of a field have no parameter that is named like the receiver. -/
theorem isApart_accessors (h : Source.isIdentifier entity.name.toList = true) {func : Go.Func}
    (hfunc : func ∈ entity.accessors config property) : func.IsApart := by
  rcases cases_of_mem_accessors hfunc with rfl | rfl | rfl
  · exact fun _ _ => List.not_mem_nil
  · intro name hname hparam
    rw [variables_setter h] at hname
    obtain rfl := List.mem_singleton.mp hname
    exact setterReceiver_ne entity property (List.mem_singleton.mp hparam)
  · exact fun _ _ => List.not_mem_nil

end Entity

namespace Store

open Source (isIdentifier)

variable {config : Config} {entity : Entity} {store : Store}

theorem rowVariable_ne (store : Store) (entity : Entity) :
    store.rowVariable entity ≠ store.variableName := by
  unfold rowVariable
  split_ifs with hname
  · exact Naming.append_ne_self (by decide)
  · exact fun hsame => hname (beq_iff_eq.mpr hsame)

theorem isIdentifier_rowVariable (hstore : isIdentifier store.structName.toList = true)
    (hentity : isIdentifier entity.name.toList = true) :
    isIdentifier (store.rowVariable entity).toList = true := by
  unfold rowVariable
  split_ifs
  · exact Naming.isIdentifier_append (Naming.isIdentifier_initial hstore) (by decide)
  · exact Naming.isIdentifier_initial hentity

/-- A row has the name of an initial, or of one with an ending. -/
theorem length_rowVariable (hstore : isIdentifier store.structName.toList = true)
    (hentity : isIdentifier entity.name.toList = true) :
    (store.rowVariable entity).length = 1 ∨ (store.rowVariable entity).length = 7 := by
  unfold rowVariable
  split_ifs
  · right
    rw [String.length_append, variableName, Naming.length_initial hstore]
    rfl
  · exact .inl (Naming.length_initial hentity)

/-- The instance that it makes is the only variable of the constructor. -/
theorem variables_constructor (hstore : isIdentifier store.structName.toList = true)
    (hservices : ∀ service ∈ store.services, isIdentifier service.name.toList = true) :
    store.constructor.variables = [store.variableName] := by
  have hvariable : isIdentifier store.variableName.toList = true :=
    Naming.isIdentifier_initial hstore
  have hmade : ∀ ending, Go.declared? (store.variableName ++ " := &" ++ store.structName ++
      ending) = some store.variableName := fun ending =>
    Go.declared?_eq_some (by simp; rfl) hvariable
  have hfields : (store.services.map fun service =>
      Go.indent (service.name ++ ": " ++ service.name ++ ",")).filterMap Go.declared? = [] := by
    rw [List.filterMap_map, List.filterMap_eq_nil_iff]
    intro service hservice
    rw [Function.comp_apply, Go.declared?_indent]
    exact Go.declared?_eq_none _ ':' (by simp; rfl) (hservices service hservice) rfl rfl
  have hclosing : Go.declared? Go.closing = none := by decide
  have hbuild : Go.declared? (Go.opening ("if err := " ++ store.variableName ++
      ".buildQueries(); err != nil")) = none :=
    Go.declared?_eq_none "if".toList ' ' (by simp [Go.opening]; rfl) rfl rfl rfl
  have htrace : Go.declared? "return nil, errors.Trace(err)" = none := by decide
  have hreturn : Go.declared? ("return " ++ store.variableName ++ ", nil") = none := by
    have hcolon : ':' ∉ store.variableName.toList := fun hmem =>
      absurd (Source.isWord_of_isIdentifier hvariable _ hmem) (by decide)
    exact Go.declared?_of_not_mem (by simp [hcolon])
  have hbody : store.constructor.body.filterMap Go.declared? = [store.variableName] := by
    simp only [constructor]
    split_ifs <;> simp only [List.filterMap_append, List.filterMap_cons, List.filterMap_nil, hmade,
      hfields, hclosing, Go.filterMap_declared?_block hbuild, htrace, hreturn, List.cons_append,
      List.nil_append]
  rw [Go.Func.variables, hbody]
  rfl

theorem filterMap_declared?_queryLines (config : Config) (store : Store) :
    (store.queryLines config).filterMap Go.declared? = ["closeErr"] := by
  have hrows : Go.declared? ("rows, err := " ++ store.variableName ++ "." ++
      config.storeDatabaseField ++ ".Query(query, params...)") = none :=
    Go.declared?_eq_none "rows".toList ',' (by simp; rfl) rfl rfl rfl
  simp only [queryLines, List.filterMap_append, List.filterMap_cons, List.filterMap_nil, hrows]
  decide

theorem filterMap_declared?_rowLines (config : Config)
    (hrow : isIdentifier (store.rowVariable entity).toList = true) :
    (store.rowLines config entity).filterMap Go.declared? =
      [store.rowVariable entity, "fields"] := by
  have hmade : Go.declared? (store.rowVariable entity ++ " := " ++ entity.privateConstructorName ++
      "()") = some (store.rowVariable entity) := Go.declared?_eq_some (by simp; rfl) hrow
  have hfields : ∀ targets, Go.declared? ("fields := []interface" ++ Go.braced "" ++
      Go.braced targets) = some "fields" := fun targets =>
    Go.declared?_eq_some (by simp [Go.braced]; rfl) rfl
  have hmore : ∀ targets, Go.declared? ("fields = append(fields, " ++ targets ++ ")") = none :=
    fun targets => Go.declared?_eq_none "fields".toList ' ' (by simp; rfl) rfl rfl rfl
  have hresult : ∀ row, Go.declared? ("result = append(result, " ++ row ++ ")") = none :=
    fun row => Go.declared?_eq_none "result".toList ' ' (by simp; rfl) rfl rfl rfl
  have hcheck : (Go.block "if err := rows.Err(); err != nil"
      ["return nil, false, errors.Trace(err)"]).filterMap Go.declared? = [] := by decide
  have hscan : (Go.block "if err := rows.Scan(fields...); err != nil"
      ["return nil, false, errors.Trace(err)"]).filterMap Go.declared? = [] := by decide
  have hcreators : Go.declared? (Go.opening "if withCreators") = none := by decide
  simp only [rowLines]
  split_ifs <;> simp only [List.filterMap_append, List.filterMap_cons, List.filterMap_nil, hmade,
    hfields, hresult, hcheck, hscan, Go.filterMap_declared?_block hcreators, hmore,
    List.cons_append, List.nil_append]

/-- The routine that fetches rows declares a row and its fields, and what closing the rows gives. -/
theorem variables_fetchFunc (config : Config)
    (hrow : isIdentifier (store.rowVariable entity).toList = true) :
    (store.fetchFunc config entity).variables =
      [store.variableName, "closeErr", store.rowVariable entity, "fields"] := by
  have hmake : Go.declared? ("result = make([]*" ++ entity.name ++ ", 0)") = none :=
    Go.declared?_eq_none "result".toList ' ' (by simp; rfl) rfl rfl rfl
  have hloop : Go.declared? (Go.opening "for rows.Next()") = none := by decide
  have hend : ["ok = len(result) > 0", "return"].filterMap Go.declared? = [] := by decide
  have hbody : (store.fetchFunc config entity).body.filterMap Go.declared? =
      ["closeErr", store.rowVariable entity, "fields"] := by
    simp only [fetchFunc, List.filterMap_append, filterMap_declared?_queryLines,
      List.filterMap_cons, List.filterMap_nil, hmake, Go.filterMap_declared?_block hloop,
      filterMap_declared?_rowLines config hrow, hend]
    rfl
  rw [Go.Func.variables, hbody]
  rfl

/-- No variable of the routine that fetches rows is one of its parameters. -/
theorem isApart_fetchFunc (config : Config) (hstore : isIdentifier store.structName.toList = true)
    (hentity : isIdentifier entity.name.toList = true) :
    (store.fetchFunc config entity).IsApart := by
  have hvariable : store.variableName.length = 1 := Naming.length_initial hstore
  have hrow := length_rowVariable hstore hentity
  have hparams : ∀ name ∈ ["query", "withCreators", "params"], name.length ∉ [1, 7] := by decide
  have hothers : ∀ name ∈ ["query", "withCreators", "params"], name ∉ ["closeErr", "fields"] := by
    decide
  intro name hname hparam
  rw [variables_fetchFunc config (isIdentifier_rowVariable hstore hentity)] at hname
  change name ∈ ["query", "withCreators", "params"] at hparam
  simp only [List.mem_cons, List.not_mem_nil, or_false] at hname
  rcases hname with rfl | rfl | rfl | rfl
  · exact hparams _ hparam (by simp [hvariable])
  · exact hothers _ hparam (by decide)
  · exact hparams _ hparam (by simpa using hrow)
  · exact hothers _ hparam (by decide)

/-- The constructor keeps its parameters apart from the instance that it makes exactly if no service
is named like that instance. -/
theorem isApart_constructor_iff (hstore : isIdentifier store.structName.toList = true)
    (hservices : ∀ service ∈ store.services, isIdentifier service.name.toList = true) :
    store.constructor.IsApart ↔ ∀ service ∈ store.services, service.name ≠ store.variableName := by
  have hnames : store.constructor.signature.params.map Param.name =
      store.services.map Service.name := by
    simp [constructor, Function.comp_def]
  rw [Go.Func.IsApart, variables_constructor hstore hservices, List.forall_mem_singleton, hnames]
  simp

end Store

/-- Setters and the routine that fetches rows keep the variables that they introduce apart from
their parameters, and that routine keeps its row apart from its receiver. The constructor of a store
does so exactly if no service is named like the instance that it makes. -/
theorem variables_apart (config : Config) {entity : Entity} {store : Store}
    (hentity : Source.isIdentifier entity.name.toList = true)
    (hstore : Source.isIdentifier store.structName.toList = true)
    (hservices : ∀ service ∈ store.services, Source.isIdentifier service.name.toList = true) :
    (∀ property ∈ entity.properties, ∀ func ∈ entity.accessors config property, func.IsApart) ∧
    (store.fetchFunc config entity).IsApart ∧
    (store.fetchFunc config entity).variables =
      [store.variableName, "closeErr", store.rowVariable entity, "fields"] ∧
    store.rowVariable entity ≠ store.variableName ∧
    store.constructor.variables = [store.variableName] ∧
    (store.constructor.IsApart ↔
      ∀ service ∈ store.services, service.name ≠ store.variableName) := by
  refine ⟨fun property _ func hfunc => Entity.isApart_accessors hentity hfunc,
    Store.isApart_fetchFunc config hstore hentity,
    Store.variables_fetchFunc config (Store.isIdentifier_rowVariable hstore hentity),
    Store.rowVariable_ne store entity, Store.variables_constructor hstore hservices,
    Store.isApart_constructor_iff hstore hservices⟩

/-- The field, the receiver and the row would all have one name. -/
theorem variables_apart_nodes :
    let field : Property := { name := "n", type := "int" }
    let entity : Entity := { name := "Node", packageName := "node", properties := [field] }
    let store : Store :=
      { structName := "nodes", packageName := "node", services := [⟨"pool", "*db.Pool"⟩] }
    (entity.setter field).variables = ["nEntity"] ∧ (entity.setter field).IsApart ∧
      (store.fetchFunc {} entity).variables = ["n", "closeErr", "nEntity", "fields"] ∧
      (store.fetchFunc {} entity).IsApart ∧ store.constructor.IsApart := by
  intro field entity store
  obtain ⟨haccessors, hfetch, hvariables, -, -, hconstructor⟩ :=
    @variables_apart {} entity store (by decide) (by decide) (by decide)
  exact ⟨by decide, haccessors field (List.mem_singleton_self _) _ (by decide),
    hvariables.trans (by decide), hfetch, hconstructor.mpr (by decide)⟩

/-- A struct with a service of its own initial has a constructor that hides the service. -/
theorem constructor_hides_service :
    let entity : Entity := { name := "A", packageName := "p" }
    let store : Store :=
      { structName := "S", packageName := "p", services := [⟨"s", "*db.Pool"⟩]
        mainEntity := some entity }
    Store.ofSource "type S struct \x7b\n\ts *db.Pool\n\x7d\n" "p" (some entity) none = .ok store ∧
      .func store.constructor ∈ store.decls {} entity ∧
      "s" ∈ store.constructor.variables ∧
      "s" ∈ store.constructor.signature.params.map Param.name := by
  decide +kernel

end Scaffold
