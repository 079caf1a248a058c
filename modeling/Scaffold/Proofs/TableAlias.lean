import Scaffold.Proofs.EntityMethods
import Scaffold.Proofs.ReadNames

/-!
# The alias of a table

Where no alias is written by hand, a table is named after its struct: the ending of interfaces is
put on the name and taken off again, and of what is left the ASCII lower-case letters go and the
rest is set in lower case. So the ending never matters, wherever else in the name it stands. The
first character of a struct's name is an ASCII letter or an underscore, and with a capital it is
never one of those that go: every table has an alias.
-/

namespace Scaffold

namespace Naming

variable {name : String} {c : Char} {rest : Chars}

/-- The letters that are left out are those between `a` and `z`. -/
theorem initials_eq (name : String) :
    initials name = Text.lower (String.ofList (name.toList.filter fun c => !c.isLower)) := by
  have hlower : ∀ c : Char, ('a' ≤ c && c ≤ 'z') = c.isLower := fun _ => rfl
  simp only [initials, hlower]

private theorem toUpper_ascii : ∀ point < 0x80,
    Source.startsIdentifier (Char.ofNat point) = true →
      (Char.ofNat point).toUpper.isLower = false ∧
        (Char.ofNat point).toUpper.toLower = (Char.ofNat point).toLower := by
  decide

/-- What begins an identifier is no lower-case letter once it is a capital. -/
theorem toUpper_of_startsIdentifier (h : Source.startsIdentifier c = true) :
    c.toUpper.isLower = false ∧ c.toUpper.toLower = c.toLower := by
  have hascii := toUpper_ascii c.toNat (Source.toNat_lt_of_startsIdentifier h)
  rw [Char.ofNat_toNat] at hascii
  exact hascii h

/-- The initials of an identifier with a capital begin with its first character. -/
theorem head?_initials_titled (h : Source.isIdentifier name.toList = true) :
    (initials (titled name)).toList.head? = name.toList.head?.map Char.toLower := by
  obtain ⟨c, rest, hchars, hstart, -⟩ := exists_toList_of_isIdentifier h
  obtain ⟨hkept, hlower⟩ := toUpper_of_startsIdentifier hstart
  have hascii := Source.toNat_lt_of_startsIdentifier hstart
  have hupper := Source.toNat_lt_of_startsIdentifier (startsIdentifier_cased hstart).1
  have hsigma : c.toUpper.toNat ≠ 0x3A3 := by omega
  have htitled : (titled name).toList = c.toUpper :: rest := by
    simp [titled, hchars, Text.upperChar, hascii]
  rw [initials_eq, htitled, hchars]
  simp [hkept, Text.lower, Text.lowerFrom, hsigma, Text.lowerChar, hupper, hlower]

end Naming

namespace Entity

variable {config : Config} {source packageName importPath suffix : String}
  {sourcePath : Option String} {entity : Entity}

/-- The alias is made from the struct's name alone: the ending is taken off as it was put on. -/
theorem defaultTableAlias_eq (entity : Entity) :
    entity.defaultTableAlias = Naming.initials (Naming.titled entity.name) := by
  have hends : Text.endsWith entity.interfaceName entity.interfaceSuffix = true := by
    rw [Text.endsWith, List.isSuffixOf_iff_suffix, interfaceName, String.toList_append]
    exact List.suffix_append _ _
  have hlength : entity.interfaceName.length - entity.interfaceSuffix.length =
      (Naming.titled entity.name).toList.length := by
    rw [interfaceName, String.length_append, String.length_toList]
    omega
  have hbase : entity.interfaceName.toList.take (entity.interfaceName.length -
      entity.interfaceSuffix.length) = (Naming.titled entity.name).toList := by
    rw [hlength, interfaceName, String.toList_append, List.take_left]
  simp only [defaultTableAlias, hends, if_true, hbase, String.ofList_toList]

theorem ne_empty_of_checked {found : Entity} (h : entity.checked.orError = .ok found) :
    entity.name ≠ "" ∧ entity.packageName ≠ "" := by
  unfold checked Checked.nonEmpty at h
  split_ifs at h with hname
  all_goals cases h
  rename_i hpackage _
  exact ⟨mt String.isEmpty_iff.mpr hname, mt String.isEmpty_iff.mpr hpackage⟩

/-- A source that is read with one ending of interfaces is read with every other: the struct and its
name stay the same. -/
theorem exists_ofSource_suffix
    (h : ofSource config source packageName importPath sourcePath = .ok entity)
    (hsuffix : suffix ≠ "") :
    ∃ other, ofSource { config with interfaceSuffix := suffix } source packageName importPath
        sourcePath = .ok other ∧
      other.interfaceSuffix = suffix ∧ other.name = entity.name := by
  have hread := read_of_ofSource h
  simp only [read, Outcome.bind_eq_ok_iff, Error.ofSource_ok_iff] at hread
  obtain ⟨block, hblock, fields, hfields, properties, hproperties, found, hchecked, methods,
    hmethods, heq⟩ := hread
  obtain rfl := Except.ok.inj heq
  obtain ⟨hname, hpackage⟩ := ne_empty_of_checked hchecked
  obtain rfl := eq_of_checked hchecked
  have hother := @checked_eq
    { name := block.name
      packageName
      importPath
      interfaceSuffix := suffix
      properties
      isLocalized := Text.endsWith block.name config.localizedSuffix
      sourcePath } hname hpackage hsuffix
  simp only [ofSource, read, hblock, hfields, hproperties, hother, hmethods, Error.ofSource,
    Bind.bind, Except.bind, Pure.pure, Except.pure, Except.mapError]
  exact ⟨_, rfl, rfl, rfl⟩

/-- The alias of a table is the lower case of what is left of the struct's name, with a capital,
when the ASCII lower-case letters are taken out. It is the same whatever ending interfaces have, and
it is never empty. -/
theorem table_alias_law
    (h : ofSource config source packageName importPath sourcePath = .ok entity) :
    (∃ block, Source.findMarkedStruct config.entityMarker.toList source.toList = .ok block ∧
      entity.defaultTableAlias = Text.lower (String.ofList
        ((Naming.titled block.name).toList.filter fun c => !c.isLower))) ∧
    (∀ suffix, suffix ≠ "" → ∃ other,
      ofSource { config with interfaceSuffix := suffix } source packageName importPath sourcePath =
          .ok other ∧
        other.interfaceSuffix = suffix ∧ other.defaultTableAlias = entity.defaultTableAlias) ∧
    entity.defaultTableAlias ≠ "" := by
  obtain ⟨block, hblock, hname, -⟩ := names_of_ofSource h
  have hidentifier := (parts_of_ofSource h).1
  refine ⟨⟨block, hblock, ?_⟩, fun suffix hsuffix => ?_, fun hempty => ?_⟩
  · rw [defaultTableAlias_eq, Naming.initials_eq, hname]
  · obtain ⟨other, hother, hending, hsame⟩ := exists_ofSource_suffix h hsuffix
    exact ⟨other, hother, hending, by rw [defaultTableAlias_eq, defaultTableAlias_eq, hsame]⟩
  · have hhead := Naming.head?_initials_titled hidentifier
    rw [← defaultTableAlias_eq, hempty] at hhead
    have hnone : entity.name.toList = [] := by simpa using hhead.symm
    rw [hnone] at hidentifier
    cases hidentifier

/-- A name that is written with a small letter first, holds the ending twice and goes on with
letters of another script. -/
theorem table_alias_law_sample :
    let source := "// @synthesize\ntype entityEntityΣaΣ_9 struct \x7b\n\tid string\n\x7d\n"
    ∃ entity, ofSource {} source "entities" "" none = .ok entity ∧
      entity.interfaceName = "EntityEntityΣaΣ_9Entity" ∧ entity.defaultTableAlias = "eeσς_9" ∧
      ∀ suffix, suffix ≠ "" → ∃ other,
        ofSource { interfaceSuffix := suffix } source "entities" "" none = .ok other ∧
          other.defaultTableAlias = "eeσς_9" := by
  intro source
  let entity : Entity :=
    { name := "entityEntityΣaΣ_9", packageName := "entities"
      properties := [⟨"id", "string", ""⟩] }
  have hread : ofSource {} source "entities" "" none = .ok entity := by decide +kernel
  have halias : entity.defaultTableAlias = "eeσς_9" := by decide +kernel
  obtain ⟨-, hsuffix, -⟩ := table_alias_law hread
  refine ⟨entity, hread, by decide +kernel, halias, fun suffix hne => ?_⟩
  obtain ⟨other, hother, -, hsame⟩ := hsuffix suffix hne
  exact ⟨other, hother, hsame.trans halias⟩

end Entity

end Scaffold
