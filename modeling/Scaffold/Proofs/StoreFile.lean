import Scaffold.Proofs.ItemQualifiers
import Scaffold.Render.Store

/-!
# What a store's file uses and imports

A declaration uses the qualifiers of its lines, so the names that a service or a method is written
with are among those that the file is seen to use. Its imports stand in one block, each on a line.
-/

namespace Scaffold

open Source

namespace Go

variable {qualifier : String}

/-- The qualifiers of a text, by its lines. -/
theorem qualifiersIn_joinLines (lines : List String) :
    qualifiersIn (Text.joinLines lines).toList =
      lines.flatMap fun line => qualifiersIn line.toList := by
  rw [Text.joinLines, String.toList_intercalate, qualifiersIn_intercalate (by decide) (by decide),
    List.flatMap_map]

theorem qualifiersIn_indent (line : String) :
    qualifiersIn (indent line).toList = qualifiersIn line.toList := by
  rw [indent, String.toList_append, qualifiersIn_separators_append (by decide)]

theorem qualifiersIn_opening (line : String) :
    qualifiersIn (opening line).toList = qualifiersIn line.toList := by
  rw [opening, String.toList_append, qualifiersIn_append_separators (by decide)]

/-- A block uses the qualifiers of the lines of its body. -/
theorem mem_qualifiersIn_block {before body : List String} {opener line : String}
    (hline : line ∈ body) (h : qualifier ∈ qualifiersIn line.toList) :
    qualifier ∈ qualifiersIn (Text.joinLines (before ++ block opener body)).toList := by
  rw [qualifiersIn_joinLines]
  refine List.mem_flatMap.mpr ⟨indent line, ?_, by rwa [qualifiersIn_indent]⟩
  simp only [block, List.mem_append, List.mem_cons, List.mem_map]
  exact Or.inr (Or.inl (Or.inr ⟨line, hline, rfl⟩))

/-- An interface uses the qualifiers of its members. -/
theorem mem_qualifiersIn_interface {doc : Option String} {name member : String}
    {members : List String} (hmember : member ∈ members)
    (h : qualifier ∈ qualifiersIn member.toList) :
    qualifier ∈ qualifiersIn (Decl.interface doc name members).render.toList :=
  mem_qualifiersIn_block hmember h

/-- A function uses the qualifiers of the lines of its body. -/
theorem mem_qualifiersIn_body {func : Func} {line : String} (hline : line ∈ func.body)
    (h : qualifier ∈ qualifiersIn line.toList) :
    qualifier ∈ qualifiersIn (Decl.func func).render.toList :=
  mem_qualifiersIn_block hline h

/-- A function uses the qualifiers of its signature. -/
theorem mem_qualifiersIn_func {func : Func} (hreceiver : func.receiver = none)
    (h : qualifier ∈ qualifiersIn func.signature.render.toList) :
    qualifier ∈ qualifiersIn (Decl.func func).render.toList := by
  rw [Decl.render, Func.render, qualifiersIn_joinLines]
  refine List.mem_flatMap.mpr
    ⟨opening ("func " ++ func.renderReceiver ++ func.signature.render), by simp [block], ?_⟩
  have hline : ("func " ++ func.renderReceiver ++ func.signature.render).toList =
      "func".toList ++ ' ' :: func.signature.render.toList := by
    simp [Func.renderReceiver, hreceiver]
  rw [qualifiersIn_opening, hline, qualifiersIn_append_cons (by decide)]
  exact List.mem_append_right _ h

/-- The qualifiers of the declarations of a file. -/
theorem qualifiersIn_renderDecls (file : File) :
    qualifiersIn file.renderDecls.toList =
      file.decls.flatMap fun decl => qualifiersIn decl.render.toList := by
  rw [File.renderDecls, joinSections, String.toList_intercalate,
    qualifiersIn_intercalate (by decide) (by decide), List.flatMap_map, List.flatMap_map]

/-- What stands around the declarations of a file is not used. -/
theorem mem_findQualifiers_renderDecls {file : File} :
    qualifier ∈ findQualifiers ("\n\n" ++ file.renderDecls ++ "\n").toList ↔
      qualifier ∈ qualifiersIn file.renderDecls.toList := by
  rw [mem_findQualifiers, String.toList_append, String.toList_append,
    qualifiersIn_append_separators (by decide), qualifiersIn_separators_append (by decide)]

/-- The lines of an import block are those of the imports, in some order, and perhaps a blank
one. -/
theorem exists_importBlock {imports : List Import} (hne : imports ≠ []) :
    ∃ lines, importBlock imports = Text.joinLines ("import (" :: (lines ++ [")"])) ∧
      (lines.filter (· != "")).Perm (imports.map importLine) := by
  have hkept : ∀ items : List Import,
      (items.map importLine).filter (· != "") = items.map importLine := by
    intro items
    rw [List.filter_eq_self, List.forall_mem_map]
    exact fun item _ => by simp [importLine, indent]
  have hgap : ∀ flag : Bool, (if flag then [] else [""]).filter (· != "") = [] := by decide
  rw [importBlock, if_neg (by simpa using hne)]
  simp only [List.cons_append]
  refine ⟨_, rfl, ?_⟩
  rw [List.append_assoc, List.filter_append, List.filter_append, hkept, hkept, hgap,
    List.nil_append, ← List.map_append]
  have hsorted := (List.mergeSort_perm (imports.filter fun item => Import.isStandard item.path)
    fun a b => a.path ≤ b.path).append (List.mergeSort_perm
      (imports.filter fun item => !Import.isStandard item.path) fun a b => a.path ≤ b.path)
  exact (hsorted.trans (List.filter_append_perm _ imports)).map importLine

theorem importBlock_isEmpty {imports : List Import} (hne : imports ≠ []) :
    (importBlock imports).isEmpty = false := by
  obtain ⟨lines, hblock, -⟩ := exists_importBlock hne
  rw [hblock, Text.joinLines, String.intercalate_cons_of_ne_nil (by simp)]
  simp

/-- The text has a block that imports just these, in some order, one on each line. -/
def HasImports (text : String) (imports : List Import) : Prop :=
  ∃ before lines after,
    text = before ++ Text.joinLines ("import (" :: (lines ++ [")"])) ++ after ∧
      (lines.filter (· != "")).Perm (imports.map importLine)

/-- The text of a file has the file's imports. -/
theorem hasImports_render {file : File} (hne : file.imports ≠ []) :
    HasImports file.render file.imports := by
  obtain ⟨lines, hblock, hlines⟩ := exists_importBlock hne
  have hsome := importBlock_isEmpty hne
  obtain ⟨rest, hrest⟩ : ∃ rest,
      joinSections (importBlock file.imports :: file.decls.map Decl.render) =
        importBlock file.imports ++ rest := by
    cases file.decls.map Decl.render with
    | nil => exact ⟨"", by simp [joinSections]⟩
    | cons second others =>
      exact ⟨_, by rw [joinSections, String.intercalate_cons_cons, String.append_assoc]⟩
  refine ⟨header file.generator file.package ++ "\n\n", lines, rest ++ "\n", ?_, hlines⟩
  have hsections : file.render = joinSections (header file.generator file.package ::
      importBlock file.imports :: file.decls.map Decl.render) ++ "\n" := by
    simp [File.render, hsome]
  rw [hsections, joinSections, String.intercalate_cons_cons, ← joinSections, hrest, ← hblock]
  simp only [String.append_assoc]

end Go

namespace Store

variable {config : Config} {store : Store} {entity : Entity} {qualifier : String}

/-- The declarations use the qualifiers of a method where the interface is written. -/
theorem exists_decl_of_method {signature : Signature} (hmethod : signature ∈ store.methods)
    (hclash : store.clashesWithInterface config = false)
    (h : qualifier ∈ qualifiersIn signature.render.toList) :
    ∃ decl ∈ store.decls config entity, qualifier ∈ qualifiersIn decl.render.toList := by
  have hsome : store.methods.isEmpty = false :=
    List.isEmpty_eq_false_iff.mpr (List.ne_nil_of_mem hmethod)
  refine ⟨.interface (some (config.storeInterfaceName ++ " represents a data interaction object."))
    config.storeInterfaceName (store.methods.map Signature.render), ?_,
    Go.mem_qualifiersIn_interface (List.mem_map_of_mem hmethod) h⟩
  simp [decls, interfaceDecls, hsome, hclash]

/-- The declarations use the qualifiers of a service where the constructor is written. -/
theorem exists_decl_of_service {service : Service} (hservice : service ∈ store.services)
    (hmake : (store.hasPrivateConstructor || store.hasPublicConstructor) = false)
    (h : qualifier ∈ qualifiersIn service.type.toList) :
    ∃ decl ∈ store.decls config entity, qualifier ∈ qualifiersIn decl.render.toList := by
  have hparam : qualifier ∈ paramQualifiers ⟨service.name, service.type⟩ := by
    rw [paramQualifiers, Param.render]
    split_ifs
    · exact h
    · have hline : (service.name ++ " " ++ service.type).toList =
          service.name.toList ++ ' ' :: service.type.toList := by simp
      rw [hline, qualifiersIn_append_cons (by decide)]
      exact List.mem_append_right _ h
  refine ⟨.func store.constructor, by simp [decls, hmake], Go.mem_qualifiersIn_func rfl ?_⟩
  rw [Signature.qualifiersIn_render, List.flatMap_append]
  refine List.mem_append_right _ (List.mem_append_left _ (List.mem_flatMap.mpr ⟨_, ?_, hparam⟩))
  exact List.mem_map_of_mem hservice

end Store

end Scaffold
