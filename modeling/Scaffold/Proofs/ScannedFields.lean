import Mathlib.Data.List.Nodup
import Scaffold.Proofs.TextSearch
import Scaffold.Render.Store

/-!
# The fields that a row is scanned into

The routine that fetches rows scans two lists of fields. One is taken from the conventions, those of
its names that the entity has; the other from the entity, less what the conventions name and what is
not stored. A value goes to the wrong field as soon as a column is named twice or left out. Where
names are distinct neither happens: the two lists share no field, and only fields that are not
stored are in none of them.
-/

namespace Scaffold.Store

variable {config : Config} {entity : Entity} {property : Property} {name : String}

/-- The fields that are always scanned stand in the order of their declaration. -/
theorem mandatoryFields_sublist (config : Config) (entity : Entity) :
    (mandatoryFields config entity).Sublist (entity.properties.map Property.name) :=
  List.filter_sublist.map Property.name

/-- A name is scanned for creators exactly if the conventions list it and a field has it. -/
theorem mem_creatorFields :
    name ∈ creatorFields config entity ↔
      name ∈ config.creatorScanFields ∧ name ∈ entity.properties.map Property.name := by
  have hfield : (entity.property? name).isSome = true ↔
      name ∈ entity.properties.map Property.name := by
    simp only [Entity.property?, List.find?_isSome, beq_iff_eq, List.mem_map]
  rw [creatorFields, List.mem_filter, hfield]

/-- Where names are distinct, a field is always scanned exactly if the conventions do not list it
and its comment does not say that it is not stored. -/
theorem name_mem_mandatoryFields (hnames : (entity.properties.map Property.name).Nodup)
    (hproperty : property ∈ entity.properties) :
    property.name ∈ mandatoryFields config entity ↔
      property.name ∉ config.creatorScanFields ∧
        ¬ config.noDbFieldDirective.toList <:+: property.comment.toList := by
  have hkept : ∀ other : Property,
      (!config.creatorScanFields.contains other.name &&
        !Text.contains other.comment config.noDbFieldDirective) = true ↔
      other.name ∉ config.creatorScanFields ∧
        ¬ config.noDbFieldDirective.toList <:+: other.comment.toList := by
    intro other
    rw [← Text.occursIn_iff, ← Text.contains, ← List.contains_iff_mem]
    simp
  rw [mandatoryFields, List.mem_map]
  constructor
  · rintro ⟨other, hother, hname⟩
    obtain ⟨hmem, hscanned⟩ := List.mem_filter.mp hother
    obtain rfl : other = property := List.inj_on_of_nodup_map hnames hmem hproperty hname
    exact (hkept other).mp hscanned
  · intro hscanned
    exact ⟨property, List.mem_filter.mpr ⟨hproperty, (hkept property).mpr hscanned⟩, rfl⟩

/-- No field is in both lists. -/
theorem disjoint_scanned (config : Config) (entity : Entity) :
    List.Disjoint (mandatoryFields config entity) (creatorFields config entity) := by
  intro name hmandatory hcreator
  obtain ⟨property, hproperty, rfl⟩ := List.mem_map.mp hmandatory
  have hkept := (List.mem_filter.mp hproperty).2
  rw [List.contains_iff_mem.mpr (mem_creatorFields.mp hcreator).1] at hkept
  cases hkept

/-- Where the names of the fields and those that the conventions list are distinct, the fields that
are always scanned and those that are scanned for creators are distinct fields of the entity, the
former in the order of their declaration. A field is in neither list exactly if the conventions do
not list it and its comment says that it is not stored. -/
theorem scanned_fields_exact (hnames : (entity.properties.map Property.name).Nodup)
    (hcreators : config.creatorScanFields.Nodup) :
    (mandatoryFields config entity).Nodup ∧ (creatorFields config entity).Nodup ∧
      List.Disjoint (mandatoryFields config entity) (creatorFields config entity) ∧
      (∀ name ∈ mandatoryFields config entity ++ creatorFields config entity,
        ∃ property ∈ entity.properties, property.name = name) ∧
      (mandatoryFields config entity).Sublist (entity.properties.map Property.name) ∧
      ∀ property ∈ entity.properties,
        (property.name ∉ mandatoryFields config entity ∧
            property.name ∉ creatorFields config entity ↔
          property.name ∉ config.creatorScanFields ∧
            config.noDbFieldDirective.toList <:+: property.comment.toList) := by
  have hsublist := mandatoryFields_sublist config entity
  refine ⟨hnames.sublist hsublist, hcreators.filter _, disjoint_scanned config entity, ?_,
    hsublist, fun property hproperty => ?_⟩
  · simp only [← List.mem_map, List.forall_mem_append]
    exact ⟨fun name hname => hsublist.subset hname,
      fun name hname => (mem_creatorFields.mp hname).2⟩
  · have hfield : property.name ∈ entity.properties.map Property.name :=
      List.mem_map_of_mem hproperty
    rw [name_mem_mandatoryFields hnames hproperty, mem_creatorFields]
    by_cases hlisted : property.name ∈ config.creatorScanFields
    · simp [hlisted, hfield]
    · simp [hlisted]

/-- A field that is listed and not stored, one that is only not stored, and a listed name that no
field has. -/
theorem scanned_fields_exact_sample :
    let config : Config := { creatorScanFields := ["surname", "title", "email"] }
    let entity : Entity :=
      { name := "User", packageName := "user"
        properties := [⟨"id", "string", ""⟩, ⟨"email", "string", "@synthesize-no-db-field"⟩,
          ⟨"cached", "bool", "never @synthesize-no-db-field"⟩, ⟨"surname", "*string", ""⟩,
          ⟨"age", "int", ""⟩] }
    (entity.properties.map Property.name).Nodup ∧ config.creatorScanFields.Nodup ∧
      mandatoryFields config entity = ["id", "age"] ∧
      creatorFields config entity = ["surname", "email"] ∧
      List.Disjoint (mandatoryFields config entity) (creatorFields config entity) := by
  intro config entity
  have hnames : (entity.properties.map Property.name).Nodup := by decide
  have hcreators : config.creatorScanFields.Nodup := by decide
  obtain ⟨-, -, hdisjoint, -⟩ := scanned_fields_exact hnames hcreators
  exact ⟨hnames, hcreators, by decide, by decide, hdisjoint⟩

end Scaffold.Store
