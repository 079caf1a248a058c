import Scaffold.Proofs.StoreHistory

/-!
# Taking up a file again

A store remembers the methods of every file that it took up: their names are recorded, and where
public methods were collected each of them has a signature of its name, be it from that file or from
an earlier one. Nothing that happens to the store later undoes this, so that the file has nothing
left to add: taking it up again succeeds and changes no part of the store.
-/

namespace Scaffold.Store

variable {config : Config} {sources : List String} {imports : List Import}
  {methods : List Source.Method} {start store later : Store}

/-- A file that is taken up: its text, whether its public methods are collected, and the number of
those that are met. -/
structure Intake where
  source : String
  collectPublic : Bool
  count : Nat
  deriving DecidableEq, Repr

/-- The methods of a file whose signatures are collected. -/
def Intake.collected (intake : Intake) (methods : List Source.Method) : List Source.Method :=
  if intake.collectPublic then methods.filter Source.Method.isPublic else []

variable {intake : Intake} {intakes : List Intake}

/-- The stores that come from one by taking up files without a fault, with these files. -/
inductive Harvests (start : Store) : List Intake → Store → Prop
  | none : Harvests start [] start
  | more {intakes : List Intake} {intake : Intake} {store later : Store} {path : Option String} :
      Harvests start intakes store →
      store.harvest intake.source intake.collectPublic path = (later, .ok intake.count) →
      Harvests start (intakes ++ [intake]) later

/-- The store has all that the file adds: the names of its methods are recorded, and each method
that is collected has a signature of its name. -/
def HasTaken (store : Store) (intake : Intake) : Prop :=
  ∃ methods, methodsOf store.structName intake.source.toList = .ok methods ∧
    (∀ method ∈ methods, method.name ∈ store.methodNames) ∧
    (∀ method ∈ intake.collected methods, method.name ∈ store.methods.map Signature.name) ∧
    intake.count = (intake.collected methods).length

/-! ## What a file leaves in a store -/

/-- A file whose methods are found has its names recorded and some methods collected. -/
theorem harvest_of_methodsOf (h : methodsOf store.structName intake.source.toList = .ok methods)
    (path : Option String) :
    let added := addPublicMethods (Source.findImports intake.source.toList)
      (intake.collected methods) (store.addMethodNames methods)
    store.harvest intake.source intake.collectPublic path =
      (added.1, (added.2.map fun _ => (intake.collected methods).length).mapError
        (Error.inFile path)) := by
  simp only [harvest, h, Intake.collected]
  cases intake.collectPublic <;> rfl

/-- Recording names that are recorded changes nothing. -/
theorem addMethodNames_of_mem (h : ∀ method ∈ methods, method.name ∈ store.methodNames) :
    store.addMethodNames methods = store := by
  induction methods with
  | nil => rfl
  | cons method rest ih =>
    obtain ⟨hmethod, hrest⟩ := List.forall_mem_cons.mp h
    have hstep : store.addMethodNames (method :: rest) =
        (store.addMethodName method.name).addMethodNames rest := rfl
    rw [hstep, addMethodName_of_mem hmethod, ih hrest]

theorem any_name_iff {name : String} :
    (store.methods.any fun known => known.name == name) = true ↔
      name ∈ store.methods.map Signature.name := by
  simp only [List.any_eq_true, beq_iff_eq, List.mem_map]

/-- Collecting methods that have signatures of their names changes nothing. -/
theorem addPublicMethods_of_mem
    (h : ∀ method ∈ methods, method.name ∈ store.methods.map Signature.name) :
    addPublicMethods imports methods store = (store, .ok ()) := by
  induction methods with
  | nil => rfl
  | cons method rest ih =>
    obtain ⟨hmethod, hrest⟩ := List.forall_mem_cons.mp h
    rw [addPublicMethods, if_pos (any_name_iff.mpr hmethod), ih hrest]

theorem methods_addMethodName (store : Store) (name : String) :
    (store.addMethodName name).methods = store.methods := by
  obtain ⟨names, heq⟩ := addMethodName_eq store name
  rw [heq]

/-- Methods that are collected without a fault have signatures of their names, besides those from
before. -/
theorem names_of_addPublicMethods
    (h : (addPublicMethods imports methods store).2 = .ok ()) :
    store.methods ⊆ (addPublicMethods imports methods store).1.methods ∧
      ∀ method ∈ methods,
        method.name ∈ (addPublicMethods imports methods store).1.methods.map Signature.name := by
  induction methods generalizing store with
  | nil => exact ⟨List.Subset.refl _, List.forall_mem_nil _⟩
  | cons method rest ih =>
    rw [addPublicMethods] at h ⊢
    split_ifs at h ⊢ with hknown
    · obtain ⟨hkept, hnames⟩ := ih h
      exact ⟨hkept, List.forall_mem_cons.mpr
        ⟨List.map_subset _ hkept (any_name_iff.mp hknown), hnames⟩⟩
    · cases hsignature : Signature.ofText method.name method.params method.results with
      | error error =>
        rw [hsignature] at h
        cases h
      | ok signature =>
        rw [hsignature] at h
        obtain ⟨hkept, hnames⟩ := ih h
        rw [(sameCore_resolveImports _ _ _).methods, addMethod, methods_addMethodName] at hkept
        obtain ⟨hbefore, hadded⟩ := List.append_subset.mp hkept
        refine ⟨hbefore, List.forall_mem_cons.mpr ⟨?_, hnames⟩⟩
        rw [← (Signature.ofText_ok_iff.mp hsignature).1]
        exact List.mem_map_of_mem (hadded (List.mem_singleton_self _))

/-- A file that was taken up without a fault has left all that it adds. -/
theorem hasTaken_of_harvest {path : Option String}
    (h : store.harvest intake.source intake.collectPublic path = (later, .ok intake.count)) :
    later.HasTaken intake := by
  obtain ⟨hstruct, hnames⟩ := harvest_names h
  cases hmethods : methodsOf store.structName intake.source.toList with
  | error error =>
    simp only [harvest, hmethods] at h
    cases h
  | ok methods =>
    rw [harvest_of_methodsOf hmethods] at h
    obtain ⟨rfl, hcount⟩ := Prod.mk.inj h
    refine ⟨methods, by rwa [hstruct], fun method hmethod => ?_, ?_⟩
    · exact (hnames _).mpr (.inr ((exists_methodsOf_iff hmethods).mp ⟨method, hmethod, rfl⟩))
    · cases hadded : (addPublicMethods (Source.findImports intake.source.toList)
          (intake.collected methods) (store.addMethodNames methods)).2 with
      | error error =>
        rw [hadded] at hcount
        cases hcount
      | ok done =>
        rw [hadded] at hcount
        exact ⟨(names_of_addPublicMethods hadded).2, (Except.ok.inj hcount).symm⟩

/-- A file that has nothing to add changes nothing. -/
theorem HasTaken.harvest_eq (h : store.HasTaken intake) (path : Option String) :
    store.harvest intake.source intake.collectPublic path = (store, .ok intake.count) := by
  obtain ⟨methods, hmethods, hnames, hcollected, hcount⟩ := h
  rw [harvest_of_methodsOf hmethods, addMethodNames_of_mem hnames,
    addPublicMethods_of_mem hcollected, hcount]
  rfl

/-! ## What stays -/

/-- A store that keeps the struct, the recorded names and the signatures holds what it held. -/
theorem HasTaken.mono (h : store.HasTaken intake) (hstruct : later.structName = store.structName)
    (hnames : store.methodNames ⊆ later.methodNames) (hmethods : store.methods ⊆ later.methods) :
    later.HasTaken intake := by
  obtain ⟨methods, hfound, hrecorded, hcollected, hcount⟩ := h
  exact ⟨methods, hstruct ▸ hfound, fun method hmethod => hnames (hrecorded method hmethod),
    fun method hmethod => List.map_subset _ hmethods (hcollected method hmethod), hcount⟩

theorem HasTaken.addMethodName (h : store.HasTaken intake) (name : String) :
    (store.addMethodName name).HasTaken intake := by
  refine h.mono ?_ (fun _ hother => mem_methodNames_addMethodName.mpr (.inl hother)) ?_
  · obtain ⟨names, heq⟩ := addMethodName_eq store name
    rw [heq]
  · rw [methods_addMethodName]
    exact List.Subset.refl _

theorem HasTaken.sameCore (h : store.HasTaken intake) (hsame : SameCore store later) :
    later.HasTaken intake :=
  h.mono hsame.structName (hsame.methodNames ▸ List.Subset.refl _)
    (hsame.methods ▸ List.Subset.refl _)

/-- What a store holds, it holds after every small change. -/
theorem HasTaken.change (h : store.HasTaken intake) (hchange : Change config sources store later) :
    later.HasTaken intake := by
  cases hchange with
  | name name => exact h.addMethodName name
  | service _ => exact h.mono rfl (List.Subset.refl _) (List.Subset.refl _)
  | @method signature _ _ _ _ _ _ _ =>
    have hadded : { store with methods := store.methods ++ [signature] }.HasTaken intake :=
      h.mono rfl (List.Subset.refl _) (List.subset_append_left _ _)
    exact hadded.addMethodName signature.name
  | taken _ _ => exact h.sameCore (sameCore_addImport _ _ _)
  | fixed _ => exact h.sameCore (sameCore_addImport _ _ _)

theorem HasTaken.harvest (h : store.HasTaken intake) (source : String) (collectPublic : Bool)
    (path : Option String) : (store.harvest source collectPublic path).1.HasTaken intake := by
  have hchanges := @changes_harvest {} [source] source (List.mem_singleton_self _) store
    collectPublic path
  exact @Changes.keeps _ _ _ _ (fun store => store.HasTaken intake) hchanges
    (fun hchange hheld => hheld.change hchange) h

/-- A store holds what all the files add that it took up. -/
theorem Harvests.hasTaken (h : Harvests start intakes store) :
    ∀ intake ∈ intakes, store.HasTaken intake := by
  induction h with
  | none => exact List.forall_mem_nil _
  | @more intakes last store later path _ hharvest ih =>
    intro intake hintake
    rcases List.mem_append.mp hintake with hbefore | hlast
    · have hheld := (ih intake hbefore).harvest last.source last.collectPublic path
      rwa [hharvest] at hheld
    · rw [List.mem_singleton.mp hlast]
      exact hasTaken_of_harvest hharvest

/-- Whatever files a store took up, taking up one of them again in the same way meets as many public
methods as before and leaves the store as it is. -/
theorem harvest_again (h : Harvests start intakes store) (hintake : intake ∈ intakes)
    (path : Option String) :
    store.harvest intake.source intake.collectPublic path = (store, .ok intake.count) := by
  have hheld := h.hasTaken intake hintake
  exact hheld.harvest_eq path

/-- A source that has its own import for a qualifier in use, and a method of a known name. -/
def lendingSource : String :=
  "import driver \"example.com/other\"\nfunc (b *Books) Load(item driver.Item) \x7b\n\x7d\n" ++
    "func (b *Books) Find(key driver.Key) \x7b\n\x7d\nfunc (b *Books) close() \x7b\n\x7d\n"

/-- The import that the second file brings for the qualifier is not taken for the first one. -/
theorem harvest_again_sample :
    let find : Signature := ⟨"Find", [⟨"id", "string"⟩], [⟨"", "db.Row"⟩]⟩
    let drop : Signature := ⟨"Drop", [⟨"item", "driver.Item"⟩], []⟩
    let load : Signature := ⟨"Load", [⟨"item", "driver.Item"⟩], []⟩
    let store : Store :=
      { bookStore [find, drop, load] ["example.com/driver", "example.com/other"] with
        methodNames := ["Find", "Drop", "Load", "close"]
        importAliases := [("example.com/database", "db"), ("example.com/other", "driver")] }
    Harvests (bookStore [find] []) [⟨furtherSource, true, 2⟩, ⟨lendingSource, true, 2⟩] store ∧
      store.harvest furtherSource true none = (store, .ok 2) := by
  intro find drop load store
  have hfurther : (bookStore [find] []).harvest furtherSource true none =
      (bookStore [find, drop] ["example.com/driver"], .ok 2) := by decide +kernel
  have hlending : (bookStore [find, drop] ["example.com/driver"]).harvest lendingSource true none =
      (store, .ok 2) := by decide +kernel
  have hfirst := @Harvests.more _ [] ⟨furtherSource, true, 2⟩ _ _ none .none hfurther
  have hboth := @Harvests.more _ _ ⟨lendingSource, true, 2⟩ _ _ none hfirst hlending
  exact ⟨hboth, @harvest_again _ store ⟨furtherSource, true, 2⟩ _ hboth (by simp) none⟩

end Scaffold.Store
