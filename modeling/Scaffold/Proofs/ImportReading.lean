import Scaffold.Proofs.EntityExtraction
import Scaffold.Proofs.StoreFile

/-!
# Imports read back from a file

A file is written line by line, and of its lines only the one that opens the import block begins as
an import does. So the imports that are found in the text of a file are those that the file has.
-/

namespace Scaffold

namespace Source

variable {α : Type} {recognise : Chars → Option (α × Chars)} {previous : Option Char}
  {line rest : Chars} {lines : List String}

/-! ## Searching line by line -/

/-- Where a line starts, the search goes on as it begins. -/
theorem matchesFrom_of_atLineStart (h : atLineStart previous = true) (text : Chars) :
    matchesFrom (onLineStart recognise) previous 0 text =
      allMatches (onLineStart recognise) text := by
  cases text with
  | nil => rfl
  | cons c rest =>
    have hstart : atLineStart none = true := rfl
    simp only [allMatches, matchesFrom, onLineStart, h, hstart]

/-- Within a line nothing is found. -/
theorem matchesFrom_append_newline (hprevious : atLineStart previous = false) (hline : '\n' ∉ line)
    (rest : Chars) :
    matchesFrom (onLineStart recognise) previous 0 (line ++ '\n' :: rest) =
      allMatches (onLineStart recognise) rest := by
  induction line generalizing previous with
  | nil =>
    simpa [matchesFrom, onLineStart, hprevious] using matchesFrom_of_atLineStart rfl rest
  | cons c line ih =>
    obtain ⟨hc, hline⟩ := List.ne_and_not_mem_of_not_mem_cons hline
    have hnext : atLineStart (some c) = false := by simpa using Ne.symm hc
    simpa [matchesFrom, onLineStart, hprevious] using ih hnext hline

/-- A line that nothing is found on is passed over. -/
theorem allMatches_append_of_none (hline : '\n' ∉ line)
    (h : recognise (line ++ '\n' :: rest) = none) :
    allMatches (onLineStart recognise) (line ++ '\n' :: rest) =
      allMatches (onLineStart recognise) rest := by
  cases line with
  | nil =>
    have hnone : recognise ('\n' :: rest) = none := h
    simpa [allMatches, matchesFrom, onLineStart, atLineStart, hnone] using
      matchesFrom_of_atLineStart rfl rest
  | cons c line =>
    obtain ⟨hc, hline⟩ := List.ne_and_not_mem_of_not_mem_cons hline
    have hnext : atLineStart (some c) = false := by simpa using Ne.symm hc
    rw [List.cons_append] at h ⊢
    simpa [allMatches, matchesFrom, onLineStart, atLineStart, h] using
      matchesFrom_append_newline hnext hline rest

theorem matchesFrom_skip (recogniser : Recogniser α) (skipped rest : Chars) :
    matchesFrom recogniser previous skipped.length (skipped ++ rest) =
      matchesFrom recogniser (skipped.getLast?.or previous) 0 rest := by
  induction skipped generalizing previous with
  | nil => rfl
  | cons c skipped ih =>
    rw [List.getLast?_cons, Option.some_or]
    refine ih.trans ?_
    cases skipped.getLast? <;> rfl

/-- After a find the search goes on where the find ends. -/
theorem allMatches_of_some {used : Chars} {found : α} (hne : used ≠ [])
    (h : recognise (used ++ rest) = some (found, rest)) :
    allMatches (onLineStart recognise) (used ++ rest) =
      found :: matchesFrom (onLineStart recognise) used.getLast? 0 rest := by
  obtain ⟨c, others, rfl⟩ := List.exists_cons_of_ne_nil hne
  have hlast : (c :: others).getLast? = others.getLast?.or (some c) := by
    rw [List.getLast?_cons]
    cases others.getLast? <;> rfl
  have hskip : (others ++ rest).length - rest.length = others.length := by simp
  rw [List.cons_append] at h ⊢
  simp only [allMatches, matchesFrom, onLineStart, atLineStart, Option.all_none, if_true, h, hskip]
  rw [hlast]
  exact congrArg (found :: ·) (matchesFrom_skip _ others rest)

/-- A find that ends with its line is followed by the finds of the lines below. -/
theorem allMatches_append_of_some {before : Chars} {last : Char} {found : α} (hlast : last ≠ '\n')
    (h : recognise (before ++ last :: '\n' :: rest) = some (found, '\n' :: rest)) :
    allMatches (onLineStart recognise) (before ++ last :: '\n' :: rest) =
      found :: allMatches (onLineStart recognise) rest := by
  have hassoc : before ++ last :: '\n' :: rest = (before ++ [last]) ++ '\n' :: rest := by simp
  have hend : atLineStart (before ++ [last]).getLast? = false := by simpa using hlast
  rw [hassoc] at h ⊢
  rw [allMatches_of_some (by simp) h]
  exact congrArg (found :: ·) (@matchesFrom_append_newline _ _ _ [] hend (by simp) rest)

/-! ## Texts of lines -/

/-- Lines as text, each with a line feed after it. -/
def linesText (lines : List String) : Chars :=
  lines.flatMap fun line => line.toList ++ ['\n']

@[simp] theorem linesText_nil : linesText [] = [] := rfl

@[simp] theorem linesText_cons (line : String) (lines : List String) :
    linesText (line :: lines) = line.toList ++ '\n' :: linesText lines := by
  simp [linesText]

@[simp] theorem linesText_append (first second : List String) :
    linesText (first ++ second) = linesText first ++ linesText second :=
  List.flatMap_append

/-- Lines with line feeds between them are those lines with a line feed after the last. -/
theorem toList_joinLines (hne : lines ≠ []) :
    (Text.joinLines lines).toList ++ ['\n'] = linesText lines := by
  have hlines : (Text.joinLines lines).toList = ['\n'].intercalate (lines.map String.toList) := by
    rw [Text.joinLines, String.toList_intercalate]
    rfl
  rw [hlines]
  clear hlines
  induction lines with
  | nil => exact absurd rfl hne
  | cons first others ih =>
    cases others with
    | nil => simp
    | cons second others =>
      have hothers := ih (by simp)
      rw [List.map_cons, List.map_cons, List.intercalate_cons_cons, linesText_cons, ← hothers]
      simp

/-- Lines that nothing is found on are passed over. -/
theorem allMatches_linesText_append (hlines : ∀ line ∈ lines, '\n' ∉ line.toList)
    (h : ∀ line ∈ lines, ∀ rest, recognise (line.toList ++ '\n' :: rest) = none) (rest : Chars) :
    allMatches (onLineStart recognise) (linesText lines ++ rest) =
      allMatches (onLineStart recognise) rest := by
  induction lines with
  | nil => rfl
  | cons line others ih =>
    obtain ⟨hline, hothers⟩ := List.forall_mem_cons.mp hlines
    obtain ⟨hnone, hrest⟩ := List.forall_mem_cons.mp h
    rw [linesText_cons, List.append_assoc, List.cons_append,
      allMatches_append_of_none hline (hnone _), ih hothers hrest]

/-- A block ends at the first line that begins with its closing character. -/
theorem blockBody_linesText {close : Char} (hclose : close ≠ '\n')
    (hlines : ∀ line ∈ lines, '\n' ∉ line.toList)
    (h : ∀ line ∈ lines, line.toList.head? ≠ some close) (rest : Chars) :
    blockBody close (linesText lines ++ close :: rest) = some (linesText lines, rest) := by
  induction lines with
  | nil => simp [blockBody, bodyFrom]
  | cons line others ih =>
    obtain ⟨hline, hothers⟩ := List.forall_mem_cons.mp hlines
    obtain ⟨hstart, hrest⟩ := List.forall_mem_cons.mp h
    have hfirst : blockBody close (line.toList ++ '\n' :: (linesText others ++ close :: rest)) =
        bodyFrom close false (line.toList ++ '\n' :: (linesText others ++ close :: rest)) := by
      cases hchars : line.toList with
      | nil => simp [blockBody, bodyFrom, hclose.symm]
      | cons c more =>
        have hc : c ≠ close := by simpa [hchars] using hstart
        simp [blockBody, bodyFrom, hc]
    rw [linesText_cons, List.append_assoc, List.cons_append, hfirst, bodyFrom_append hline,
      ← blockBody, ih hothers hrest]
    rfl

/-! ## The lines of import blocks -/

/-- The import can be written on one line and read from it: its path is a text that can stand in
quotes, and its local name is empty, a dot or an identifier. -/
structure IsWritable (item : Import) : Prop where
  ne_empty : item.path ≠ ""
  quote : '"' ∉ item.path.toList
  line : '\n' ∉ item.path.toList
  localName : item.localName = "" ∨ item.localName = "." ∨
    isIdentifier item.localName.toList = true

variable {item : Import}

theorem quotedText?_append {inside : Chars} (hne : inside ≠ []) (hquote : '"' ∉ inside)
    (rest : Chars) : quotedText? ('"' :: (inside ++ '"' :: rest)) = some (inside, rest) := by
  have htake : (inside ++ '"' :: rest).takeWhile (· != '"') = inside := by
    rw [List.takeWhile_append_of_pos]
    · simp
    · intro c hc
      simp only [bne_iff_ne, ne_eq]
      rintro rfl
      exact hquote hc
  have hopen : literal "\"" ('"' :: (inside ++ '"' :: rest)) = some (inside ++ '"' :: rest) := rfl
  have hclose : literal "\"" ('"' :: rest) = some rest := rfl
  simp only [quotedText?, hopen, Option.bind_eq_bind, Option.bind_some, htake, List.drop_left,
    hclose, List.isEmpty_iff, hne, if_false]

theorem toList_importLine (item : Import) :
    (Go.importLine item).toList = '\t' :: ((if item.localName.isEmpty then [] else
      item.localName.toList ++ [' ']) ++ '"' :: (item.path.toList ++ ['"'])) := by
  unfold Go.importLine Go.indent
  split_ifs <;> simp

/-- The line of an import is read as that import. -/
theorem importLine?_append (h : IsWritable item) (rest : Chars) :
    importLine? ((Go.importLine item).toList ++ rest) = some (item, rest) := by
  obtain ⟨path, name⟩ := item
  have hquoted := quotedText?_append (mt String.toList_eq_nil_iff.mp h.ne_empty) h.quote rest
  rw [toList_importLine]
  rcases h.localName with hempty | hdot | hname
  · obtain rfl : name = "" := hempty
    have hskip : skipSpaces ('\t' :: '"' :: (path.toList ++ '"' :: rest)) =
        '"' :: (path.toList ++ '"' :: rest) := rfl
    have hnone : localName? ('"' :: (path.toList ++ '"' :: rest)) = none := rfl
    simp [importLine?, hskip, importSpec?, hnone, hquoted]
  · obtain rfl : name = "." := hdot
    have hskip : skipSpaces ('\t' :: '.' :: ' ' :: '"' :: (path.toList ++ '"' :: rest)) =
        '.' :: ' ' :: '"' :: (path.toList ++ '"' :: rest) := rfl
    have hlocal : localName? ('.' :: ' ' :: '"' :: (path.toList ++ '"' :: rest)) =
        some (['.'], '"' :: (path.toList ++ '"' :: rest)) := rfl
    simp [importLine?, hskip, importSpec?, hlocal, hquoted]
  · have hne : name.isEmpty = false := by
      rw [← Bool.not_eq_true, String.isEmpty_iff]
      rintro rfl
      cases hname
    have hskip : skipSpaces ('\t' :: (name.toList ++ ' ' :: '"' :: (path.toList ++ '"' :: rest))) =
        name.toList ++ ' ' :: '"' :: (path.toList ++ '"' :: rest) :=
      skipSpaces_eq_self (start_of_isIdentifier hname _)
    have hread := @identifier?_append ('"' :: (path.toList ++ '"' :: rest)) name.toList ' ' hname
      (by decide)
    have hlocal : localName? (name.toList ++ ' ' :: '"' :: (path.toList ++ '"' :: rest)) =
        some (name.toList, '"' :: (path.toList ++ '"' :: rest)) := by
      unfold localName?
      split
      · next dotted heq =>
        rw [heq] at hread
        cases hread
      · rw [hread]
        rfl
    simp [importLine?, hne, hskip, importSpec?, hlocal, hquoted]

theorem foundAt_importLine (h : IsWritable item) :
    foundAt importLine? (Go.importLine item).toList = some item := by
  have hwhole := importLine?_append h []
  rw [List.append_nil] at hwhole
  rw [foundAt, hwhole]
  rfl

/-- The lines of imports are read as those imports. -/
theorem filterMap_importLine {items : List Import} (h : ∀ item ∈ items, IsWritable item) :
    (items.map Go.importLine).filterMap (fun line => foundAt importLine? line.toList) = items := by
  rw [List.filterMap_map]
  refine (List.filterMap_congr fun item hitem => ?_).trans List.filterMap_some
  exact foundAt_importLine (h item hitem)

theorem newline_not_mem_importLine (h : IsWritable item) : '\n' ∉ (Go.importLine item).toList := by
  have hname : '\n' ∉ item.localName.toList := by
    rcases h.localName with hempty | hdot | hname
    · simp [hempty]
    · simp [hdot]
    · exact fun hmem => absurd (isWord_of_isIdentifier hname _ hmem) (by decide)
  rw [toList_importLine]
  split_ifs <;> simp [hname, h.line]

/-- The imports of a block are found on its lines; empty lines have none. -/
theorem allMatches_importLine?
    (h : ∀ line ∈ lines, line = "" ∨ ∃ item, IsWritable item ∧ line = Go.importLine item) :
    allMatches (onLineStart importLine?) (linesText lines) =
      lines.filterMap fun line => foundAt importLine? line.toList := by
  induction lines with
  | nil => rfl
  | cons line others ih =>
    obtain ⟨hline, hothers⟩ := List.forall_mem_cons.mp h
    rw [linesText_cons, List.filterMap_cons, ← ih hothers]
    rcases hline with rfl | ⟨item, hitem, rfl⟩
    · exact allMatches_append_of_none (by simp) rfl
    · obtain ⟨before, hbefore⟩ : ∃ before, (Go.importLine item).toList = before ++ ['"'] := by
        rw [toList_importLine]
        exact ⟨_, by rw [← List.cons_append, ← List.cons_append, ← List.append_assoc]⟩
      have hhere := importLine?_append hitem ('\n' :: linesText others)
      rw [foundAt_importLine hitem]
      rw [hbefore, List.append_assoc] at hhere ⊢
      exact allMatches_append_of_some (by decide) hhere

/-- A line that no import can begin on. -/
structure IsQuiet (text : String) : Prop where
  line : '\n' ∉ text.toList
  start : text.toList.head? ≠ some 'i'

theorem IsQuiet.literal_eq_none {line : String} (h : IsQuiet line) (rest : Chars) :
    literal "import" (line.toList ++ '\n' :: rest) = none := by
  refine Source.literal_eq_none fun hprefix => ?_
  obtain ⟨after, heq⟩ := hprefix
  have hstart := h.start
  cases hchars : line.toList with
  | nil => simp [hchars] at heq
  | cons c others =>
    rw [hchars] at heq hstart
    exact hstart (congrArg some (List.cons.inj heq).1.symm)

/-- On quiet lines nothing is found that begins as an import does. -/
theorem allMatches_quiet (h : ∀ line ∈ lines, IsQuiet line)
    (hword : ∀ text, literal "import" text = none → recognise text = none) (rest : Chars) :
    allMatches (onLineStart recognise) (linesText lines ++ rest) =
      allMatches (onLineStart recognise) rest :=
  allMatches_linesText_append (fun line hline => (h line hline).line)
    (fun line hline rest => hword _ ((h line hline).literal_eq_none rest)) rest

theorem importBlock?_of_literal {text : Chars} (h : literal "import" text = none) :
    importBlock? text = none := by
  rw [importBlock?, h]
  rfl

theorem singleImport?_of_literal {text : Chars} (h : literal "import" text = none) :
    singleImport? text = none := by
  rw [singleImport?, h]
  rfl

/-- Without a line that begins as an import does, there are no imports. -/
theorem findImports_quiet (h : ∀ line ∈ lines, IsQuiet line) :
    findImports (linesText lines) = [] := by
  have hblocks := allMatches_quiet h (fun _ => importBlock?_of_literal) []
  have hsingle := allMatches_quiet h (fun _ => singleImport?_of_literal) []
  rw [List.append_nil] at hblocks hsingle
  rw [findImports, hblocks, hsingle]
  rfl

/-- The text ends with its line, or lines follow that no import can begin on. -/
def EndsQuietly (rest : Chars) : Prop :=
  rest = [] ∨ ∃ lines, (∀ line ∈ lines, IsQuiet line) ∧ rest = '\n' :: linesText lines

theorem EndsQuietly.matchesFrom_eq_nil (h : EndsQuietly rest)
    (hprevious : atLineStart previous = false)
    (hword : ∀ text, literal "import" text = none → recognise text = none) :
    matchesFrom (onLineStart recognise) previous 0 rest = [] := by
  rcases h with rfl | ⟨lines, hlines, rfl⟩
  · rfl
  · have hquiet := allMatches_quiet hlines hword []
    rw [List.append_nil] at hquiet
    exact (@matchesFrom_append_newline _ _ _ [] hprevious (by simp) _).trans hquiet

/-- Between quiet lines, the imports of a block are those of its lines. -/
theorem findImports_block {before lines : List String} {rest : Chars}
    (hbefore : ∀ line ∈ before, IsQuiet line) (hrest : EndsQuietly rest)
    (h : ∀ line ∈ lines, line = "" ∨ ∃ item, IsWritable item ∧ line = Go.importLine item) :
    findImports (linesText (before ++ "import (" :: lines) ++ ')' :: rest) =
      lines.filterMap fun line => foundAt importLine? line.toList := by
  have hquiet : ∀ line ∈ lines, IsQuiet line := by
    intro line hline
    rcases h line hline with rfl | ⟨item, hitem, rfl⟩
    · exact ⟨by simp, by simp⟩
    · exact ⟨newline_not_mem_importLine hitem, by simp [toList_importLine]⟩
  have hbody : blockBody ')' (linesText lines ++ ')' :: rest) = some (linesText lines, rest) := by
    refine blockBody_linesText (by decide) (fun line hline => (hquiet line hline).line) ?_ _
    intro line hline
    rcases h line hline with rfl | ⟨item, -, rfl⟩
    · simp
    · simp [toList_importLine]
  have htext : linesText (before ++ "import (" :: lines) ++ ')' :: rest =
      linesText before ++ (("import (\n".toList ++ linesText lines ++ [')']) ++ rest) := by
    simp
  have hhere : importBlock? (("import (\n".toList ++ linesText lines ++ [')']) ++ rest) =
      some (linesText lines, rest) := by
    rw [List.append_assoc, List.append_assoc, List.singleton_append]
    exact hbody
  have hblocks : allMatches (onLineStart importBlock?)
      (linesText (before ++ "import (" :: lines) ++ ')' :: rest) = [linesText lines] := by
    rw [htext, allMatches_quiet hbefore fun _ => importBlock?_of_literal,
      allMatches_of_some (by simp) hhere, List.getLast?_concat,
      hrest.matchesFrom_eq_nil rfl fun _ => importBlock?_of_literal]
  have hsingle : allMatches (onLineStart singleImport?)
      (linesText (before ++ "import (" :: lines) ++ ')' :: rest) = [] := by
    rw [linesText_append, List.append_assoc,
      allMatches_quiet hbefore fun _ => singleImport?_of_literal, linesText_cons,
      List.append_assoc, List.cons_append, allMatches_append_of_none (by decide) rfl,
      allMatches_quiet hquiet fun _ => singleImport?_of_literal]
    exact hrest.matchesFrom_eq_nil rfl fun _ => singleImport?_of_literal
  rw [findImports, hblocks, hsingle, List.flatMap_singleton, List.append_nil,
    allMatches_importLine? h]

end Source

namespace Go

open Source

/-! ## The lines of files -/

/-- The lines of a declaration. -/
def Decl.lines : Decl → List String
  | implements interfaceName structName =>
    ["var _ " ++ interfaceName ++ " = &" ++ structName ++ braced ""]
  | interface doc name members =>
    Func.docLines doc ++ block ("type " ++ name ++ " interface") members
  | emptyStruct doc name => Func.docLines doc ++ ["type " ++ name ++ " struct" ++ braced ""]
  | func declaration =>
    Func.docLines declaration.doc ++
      block ("func " ++ declaration.renderReceiver ++ declaration.signature.render) declaration.body

theorem Decl.render_eq (decl : Decl) : decl.render = Text.joinLines decl.lines := by
  cases decl with
  | implements interfaceName structName => simp [Decl.render, Decl.lines, Text.joinLines]
  | interface doc name members => rfl
  | emptyStruct doc name => rfl
  | func declaration => rfl

theorem start_block {opener : String} {body : List String}
    (h : opener.toList.head? ≠ some 'i' ∧ opener ≠ "") :
    ∀ line ∈ block opener body, line.toList.head? ≠ some 'i' := by
  have hopening : (opening opener).toList.head? ≠ some 'i' := by
    obtain ⟨c, others, hchars⟩ := List.exists_cons_of_ne_nil (mt String.toList_eq_nil_iff.mp h.2)
    simpa [opening, hchars] using h.1
  simp only [block, List.cons_append, List.forall_mem_cons, List.forall_mem_append,
    List.forall_mem_map]
  exact ⟨hopening, fun line _ => by simp [indent], by simp [closing]⟩

/-- No line of a declaration begins as an import does. -/
theorem Decl.start_lines (decl : Decl) : ∀ line ∈ decl.lines, line.toList.head? ≠ some 'i' := by
  have hdoc : ∀ doc, ∀ line ∈ Func.docLines doc, line.toList.head? ≠ some 'i' := by
    intro doc line hline
    obtain ⟨sentence, -, rfl⟩ := List.mem_map.mp hline
    simp
  cases decl with
  | implements interfaceName structName => simp [Decl.lines]
  | interface doc name members =>
    exact List.forall_mem_append.mpr ⟨hdoc doc, start_block (by simp)⟩
  | emptyStruct doc name => exact List.forall_mem_append.mpr ⟨hdoc doc, by simp⟩
  | func declaration =>
    exact List.forall_mem_append.mpr ⟨hdoc declaration.doc, start_block (by simp)⟩

/-- Sections are lines with an empty one between neighbours. -/
theorem toList_joinSections {first : List String} {others : List (List String)}
    (hfirst : first ≠ []) (hothers : ∀ lines ∈ others, lines ≠ []) :
    (joinSections ((first :: others).map Text.joinLines) ++ "\n").toList =
      linesText (first ++ others.flatMap fun lines => "" :: lines) := by
  induction others generalizing first with
  | nil => simpa [joinSections] using toList_joinLines hfirst
  | cons second others ih =>
    obtain ⟨hsecond, hothers⟩ := List.forall_mem_cons.mp hothers
    have hrest := ih hsecond hothers
    have hhere := toList_joinLines hfirst
    rw [List.map_cons] at hrest
    rw [List.map_cons, List.map_cons, joinSections, String.intercalate_cons_cons, ← joinSections,
      String.append_assoc, String.append_assoc, String.toList_append, String.toList_append, hrest,
      @linesText_append first, ← hhere]
    simp

/-- The lines that open a file. -/
def File.headLines (file : File) : List String :=
  ["// Code generated by " ++ file.generator ++ ". DO NOT EDIT.", "package " ++ file.package]

/-- The lines of the declarations of a file, with an empty one before each. -/
def File.declLines (file : File) : List String :=
  file.decls.flatMap fun decl => "" :: decl.lines

/-- All that a file says stands on lines of its own. -/
structure File.IsLined (file : File) : Prop where
  generator : '\n' ∉ file.generator.toList
  package : '\n' ∉ file.package.toList
  decls : ∀ decl ∈ file.decls, ∀ line ∈ decl.lines, '\n' ∉ line.toList
  imports : ∀ item ∈ file.imports, IsWritable item

variable {file : File}

theorem File.IsLined.headLines (h : file.IsLined) : ∀ line ∈ file.headLines, IsQuiet line := by
  simp only [File.headLines, List.forall_mem_cons]
  exact ⟨⟨by simp [h.generator], by simp⟩, ⟨by simp [h.package], by simp⟩, by simp⟩

theorem File.IsLined.declLines (h : file.IsLined) : ∀ line ∈ file.declLines, IsQuiet line := by
  intro line hline
  obtain ⟨decl, hdecl, hline⟩ := List.mem_flatMap.mp hline
  rcases List.mem_cons.mp hline with rfl | hline
  · exact ⟨by simp, by simp⟩
  · exact ⟨h.decls decl hdecl line hline, decl.start_lines line hline⟩

/-- The lines of a file's text, with those of its import block. -/
theorem File.toList_render (file : File) {block : List (List String)}
    (hblock : (if (importBlock file.imports).isEmpty then [] else [importBlock file.imports]) =
      block.map Text.joinLines) (hne : ∀ lines ∈ block, lines ≠ []) :
    file.render.toList = linesText
      (file.headLines ++ (block.flatMap fun lines => "" :: lines) ++ file.declLines) := by
  have hdecls : file.decls.map Decl.render = (file.decls.map Decl.lines).map Text.joinLines := by
    rw [List.map_map]
    exact List.map_congr_left fun decl _ => decl.render_eq
  have hsections := @toList_joinSections file.headLines (block ++ file.decls.map Decl.lines)
    (by simp [File.headLines]) (by
      simp only [List.forall_mem_append, List.forall_mem_map]
      exact ⟨hne, fun decl _ => by cases decl <;> simp [Decl.lines, Go.block]⟩)
  rw [File.render, hblock, hdecls]
  rw [List.map_cons, List.map_append, List.flatMap_append, List.flatMap_map,
    ← List.append_assoc] at hsections
  exact hsections

/-- The lines of the text of a file that has imports. Inside the import block each is empty or the
line of an import of the file. -/
theorem File.exists_lines (hne : file.imports ≠ []) :
    ∃ lines, importBlock file.imports = Text.joinLines ("import (" :: (lines ++ [")"])) ∧
      (lines.filter (· != "")).Perm (file.imports.map importLine) ∧
      (∀ line ∈ lines, line = "" ∨ ∃ item ∈ file.imports, line = importLine item) ∧
      file.render.toList = linesText (file.headLines ++
        "" :: "import (" :: (lines ++ [")"]) ++ file.declLines) := by
  obtain ⟨lines, hlines, hperm⟩ := exists_importBlock hne
  have hblock : (if (importBlock file.imports).isEmpty then [] else
      [importBlock file.imports]) = ["import (" :: (lines ++ [")"])].map Text.joinLines := by
    rw [importBlock_isEmpty hne, hlines]
    rfl
  refine ⟨lines, hlines, hperm, fun line hline => ?_, ?_⟩
  · by_cases hempty : line = ""
    · exact .inl hempty
    · have hkept : line ∈ lines.filter (· != "") :=
        List.mem_filter.mpr ⟨hline, by simpa using hempty⟩
      obtain ⟨item, hitem, rfl⟩ := List.mem_map.mp (hperm.subset hkept)
      exact .inr ⟨item, hitem, rfl⟩
  · rw [file.toList_render hblock (by simp), List.flatMap_singleton]

/-- The imports that are found in the text of a file are those of the file, in some order. -/
theorem File.IsLined.findImports_render (h : file.IsLined) :
    (findImports file.render.toList).Perm file.imports := by
  by_cases hne : file.imports = []
  · have hblock : (if (importBlock file.imports).isEmpty then [] else
        [importBlock file.imports]) = ([] : List (List String)).map Text.joinLines := by
      simp [importBlock, hne]
    rw [file.toList_render hblock (by simp), hne, findImports_quiet]
    simp only [List.flatMap_nil, List.append_nil, List.forall_mem_append]
    exact ⟨h.headLines, h.declLines⟩
  · obtain ⟨lines, -, hperm, hlines, hrender⟩ := file.exists_lines hne
    have hwritten : ∀ line ∈ lines,
        line = "" ∨ ∃ item, IsWritable item ∧ line = importLine item := by
      intro line hline
      rcases hlines line hline with hempty | ⟨item, hitem, hwritten⟩
      · exact .inl hempty
      · exact .inr ⟨item, h.imports item hitem, hwritten⟩
    have htext : linesText (file.headLines ++ "" :: "import (" :: (lines ++ [")"]) ++
        file.declLines) = linesText ((file.headLines ++ [""]) ++ "import (" :: lines) ++
          ')' :: '\n' :: linesText file.declLines := by
      simp
    rw [hrender, htext, findImports_block ?_ (.inr ⟨_, h.declLines, rfl⟩) hwritten]
    · have hempty : lines.filterMap (fun line => foundAt importLine? line.toList) =
          (lines.filter (· != "")).filterMap fun line => foundAt importLine? line.toList := by
        rw [List.filterMap_filter]
        refine List.filterMap_congr fun line _ => ?_
        split_ifs with hline
        · rfl
        · obtain rfl : line = "" := by simpa using hline
          rfl
      rw [hempty]
      exact filterMap_importLine h.imports ▸ hperm.filterMap _
    · simp only [List.forall_mem_append, List.forall_mem_singleton]
      exact ⟨h.headLines, by simp, by simp⟩

end Go

end Scaffold
